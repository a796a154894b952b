import Verbal.Proofs.Extended.Verdicts
import Verbal.Proofs.Repetitions

/-!
# References back to a group

A reference reads once more what its group has read. Numbers count the groups of the pattern as it
is written; a test of the whole text puts that pattern between two assertions and into no capture
group, so the reference still means the same group there.

* **`Extended.Plan.Reads.doubled`**: a group with a reference to it behind reads twice what the
  group reads, whatever its plan gives back.
* **`Expression.test_doubling`**: of an expression that doubles a run of given letters, every
  verdict of the extended backend is the right one.
-/

namespace Verbal

open Computability

namespace Extended

open Verbal.Regular (Regex)

/-! ## What a reference reads -/

/-- The texts of a language, each written twice. -/
def doubles (l : Language Char) : Language Char := {w | ∃ u ∈ l, w = u ++ u}

/-- To repeat a piece of the text is to begin with it. -/
theorem repeats_iff {subject : Subject} {u w y : List Char}
    (htext : subject.text.toList = u ++ (w ++ y)) :
    subject.repeats (u.length + w.length) u.length (u.length + w.length) = true ↔ w <+: y := by
  have hsize : subject.text.size = u.length + (w.length + y.length) := by
    rw [← Array.length_toList, htext, List.length_append, List.length_append]
  have hget (i : Nat) : subject.text[i]? = (u ++ (w ++ y))[i]? := by
    rw [← htext, Array.getElem?_toList]
  -- the characters of the piece and those behind it
  have hpiece {i : Nat} (hi : i < w.length) : (u ++ (w ++ y))[u.length + i]? = some w[i] := by
    rw [List.getElem?_append_right (Nat.le_add_right _ _), Nat.add_sub_cancel_left,
      List.getElem?_append_left hi, List.getElem?_eq_getElem hi]
  have hbehind (i : Nat) : (u ++ (w ++ y))[u.length + w.length + i]? = y[i]? := by
    rw [← List.append_assoc, ← List.length_append,
      List.getElem?_append_right (Nat.le_add_right _ _), Nat.add_sub_cancel_left]
  unfold Subject.repeats
  rw [Nat.add_sub_cancel_left, Bool.and_eq_true, decide_eq_true_eq, List.all_eq_true,
    List.prefix_iff_getElem?, hsize]
  simp only [List.mem_range, hget, hbehind, beq_iff_eq]
  constructor
  · rintro ⟨-, hall⟩ i hi
    rw [hall i hi, hpiece hi]
  · intro hall
    refine ⟨?_, fun i hi => by rw [hall i hi, hpiece hi]⟩
    have hle := (List.prefix_iff_getElem?.mpr hall).length_le
    omega

theorem group?_mark {st : State} {i start : Nat} (h : st.slot? (2 * i) = some start) :
    (st.mark (2 * i + 1)).group? i = some (start, st.place) := by
  have hother : (st.mark (2 * i + 1)).slot? (2 * i) = some start := by
    rw [State.slot?_mark, if_neg (by omega), h]
  have hself : (st.mark (2 * i + 1)).slot? (2 * i + 1) = some st.place := by
    rw [State.slot?_mark, if_pos rfl]
  unfold State.group?
  rw [hother, hself]

namespace Plan

/-- **A group with a reference to it behind** reads twice what the group reads. Every way through
the group is followed by the text that this way has read, not by that of another one. -/
theorem Reads.doubled {a : Plan Part} {l : Language Char} (h : a.Reads (.ofLanguage l))
    (hmarks : ∀ subject, Leads State.SameMarks (a.waysOn subject)) (i : Nat) :
    (Plan.seq (.capture i a) (.backref i)).Reads (.ofLanguage (doubles l)) := by
  intro subject st u v htext hplace p
  -- a way through the group, with what it is followed by
  have hways (x : State) : x ∈ (Plan.seq (.capture i a) (.backref i)).waysOn subject st ↔
      ∃ z ∈ a.waysOn subject (st.mark (2 * i)),
        subject.repeats z.place st.place z.place = true ∧
          x = { z.mark (2 * i + 1) with place := z.place + (z.place - st.place) } := by
    have hgroup {z : State} (hz : z ∈ a.waysOn subject (st.mark (2 * i))) :
        (z.mark (2 * i + 1)).group? i = some (st.place, z.place) := by
      refine group?_mark ?_
      have hbegun : (st.mark (2 * i)).slot? (2 * i) = some st.place := by
        rw [State.slot?_mark, if_pos rfl]
      rwa [State.slot?, hmarks subject _ z hz]
    have hbackref {z : State} (hz : z ∈ a.waysOn subject (st.mark (2 * i))) :
        x ∈ (Plan.backref i : Plan Part).waysOn subject (z.mark (2 * i + 1)) ↔
          subject.repeats z.place st.place z.place = true ∧
            x = { z.mark (2 * i + 1) with place := z.place + (z.place - st.place) } := by
      have hone : (Plan.backref i : Plan Part).waysOn subject (z.mark (2 * i + 1)) =
          if subject.repeats z.place st.place z.place then
            [{ z.mark (2 * i + 1) with place := z.place + (z.place - st.place) }]
          else [] := by
        simp only [waysOn, Program.tabulated, Plan.map, Plan.ways, hgroup hz]
        rfl
      rw [hone]
      split <;> simp_all
    constructor
    · intro hx
      obtain ⟨y, hy, hx⟩ := List.mem_flatMap.mp hx
      obtain ⟨z, hz, rfl⟩ := List.mem_map.mp hy
      exact ⟨z, hz, (hbackref hz).mp hx⟩
    · rintro ⟨z, hz, hx⟩
      exact List.mem_flatMap.mpr ⟨_, List.mem_map_of_mem hz, (hbackref hz).mpr hx⟩
  have hinner := h subject (st.mark (2 * i)) u v htext hplace
  constructor
  · rintro ⟨x, hx, rfl⟩
    obtain ⟨z, hz, hrepeats, rfl⟩ := (hways x).mp hx
    obtain ⟨w, y, rfl, hzplace, hw⟩ := (hinner z.place).mp ⟨z, hz, rfl⟩
    rw [hzplace, hplace] at hrepeats
    obtain ⟨y, rfl⟩ := (repeats_iff htext).mp hrepeats
    refine ⟨w ++ w, y, (List.append_assoc w w y).symm, ?_, w, hw, rfl⟩
    simp only [hzplace, hplace, List.length_append]
    omega
  · rintro ⟨_, y, rfl, rfl, w, hw, rfl⟩
    rw [List.append_assoc] at htext
    obtain ⟨z, hz, hzplace⟩ :=
      (hinner (u.length + w.length)).mpr ⟨w, w ++ y, List.append_assoc w w y, rfl, hw⟩
    refine ⟨_, (hways _).mpr ⟨z, hz, ?_, rfl⟩, ?_⟩
    · rw [hzplace, hplace]
      exact (repeats_iff htext).mpr (List.prefix_append w y)
    · simp only [hzplace, hplace, List.length_append]
      omega

end Plan

/-! ## Runs of letters, doubled -/

section Doubling

variable {text : List Char}

/-- The text of a pattern that doubles a run of letters. -/
def doublingText (text : List Char) : List Char := "([".toList ++ (text ++ "]+)\\1".toList)

/-- What it is read as. -/
def Tree.doubling (text : List Char) : Tree :=
  .concat (.group 1 (.repetition 1 none true (.ofClass false text))) (.backref 1)

/-- **What is read of it**: the reference is to the only group. -/
theorem read_doubling (hne : text ≠ []) (h : ∀ c ∈ text, IsPlainChar c) :
    Source.read (doublingText text) = .ok ⟨.doubling text, [1], []⟩ := by
  obtain ⟨e, text, rfl⟩ := List.exists_cons_of_ne_nil hne
  have hletters : ∀ c ∈ e :: text, c ∉ ['\\', '[', ']'] := fun c hc => (h c hc).notMem rfl
  let start := Draft.start (doublingText (e :: text))
  have hready : start.Ready 0 := Draft.ready_start _
  have hopened : start.openCapture.Ready 1 := hready.openCapture
  let rounds : Tree := .repetition 1 none true (.ofClass false (e :: text))
  let closed : Draft := ((start.openCapture.add [rounds]).leave ⟨.capture 1, [], []⟩ []).push
    (.group 1 rounds)
  have hclosed : closed.Ready 0 := ⟨Nat.le_refl 0, rfl, rfl, rfl, rfl, rfl⟩
  -- the number of the reference is small enough for a pattern of that length
  have hlength : 1 < closed.scope.byteLength / 2 := by
    have hbytes : closed.scope.byteLength =
        byteLength ("([".toList ++ ((e :: text) ++ "]+)\\1".toList)) := rfl
    have hfront : byteLength "([".toList = 2 := by decide
    have hback : byteLength "]+)\\1".toList = 5 := by decide
    rw [byteLength_append, byteLength_append] at hbytes
    omega
  have hescape : (readEscape closed.scope false ['1']).text = .ok (.backref 1 true, []) := by
    have hnumber : readNumber closed.scope ['1'] = .ok (1, ⟨[], Nat.zero_le _⟩) := by
      unfold readNumber
      change (if 1 < closed.scope.byteLength / 2 then _ else _) = _
      rw [if_pos hlength]
      rfl
    change Reading.text ((readNumber closed.scope ['1']).map _) = _
    rw [hnumber]
    rfl
  calc
    Source.read (doublingText (e :: text)) =
        run start ('(' :: '[' :: (e :: text ++ ']' :: "+)\\1".toList)) := rfl
    _ = run start.openCapture ('[' :: (e :: text ++ ']' :: "+)\\1".toList)) :=
      run_parenthesis (hready.mono (by decide)) (isTame_cons (by decide) _)
    _ = run (start.openCapture.push (.ofClass false (e :: text))) "+)\\1".toList :=
      run_class hopened ((h e (List.mem_cons_self ..)).ne rfl) hletters false _
    _ = run (start.openCapture.add [rounds]) ")\\1".toList :=
      run_mark hopened ⟨1, none⟩ rfl rfl (isTame_cons (by decide) _)
    _ = run closed "\\1".toList := run_close_capture (hopened.add _) rfl _
    _ = run (closed.pushEscaped (.backref 1 true)) [] := run_escape hclosed hescape
    _ = .ok ⟨.doubling (e :: text), [1], []⟩ := by
      unfold run
      rw [readAll]
      rfl

/-- The letters of a text. -/
def letters (text : List Char) : Language Char := {w | ∃ c, w = [c] ∧ c ∈ text}

/-- The runs of letters of a text. -/
def runs (text : List Char) : Language Char := {w | w ≠ [] ∧ ∀ c ∈ w, c ∈ text}

theorem reads_classOfText (text : List Char) :
    (Regex.letter (classOfText false text)).Reads (letters text) :=
  Regex.reads_letter.congr fun _ => exists_congr fun _ => and_congr_right fun _ =>
    contains_classOfText.symm

theorem runs_eq (text : List Char) : runs text = letters text ^ 1 * (letters text)∗ := by
  ext w
  have hrounds := (reads_classOfText text).fromOn 1 true
  have hletters := @Regex.reads_letters (classOfText false text) 1 true
  rw [← hrounds [] w [], hletters [] w []]
  exact and_congr List.length_pos_iff.symm (by simp only [contains_classOfText])

theorem fixed_ofClass (hne : text ≠ []) (h : ∀ c ∈ text, IsPlainChar c) :
    (Tree.ofClass false text).Fixed [] := by
  have hread : Regular.readAll .start ('[' :: (text ++ [']'])) = .ok (Regular.Draft.start.push
      (.set (.bracketed false (.ofItems (text.map .ofChar))))) :=
    (Regular.readAll_class rfl (Regular.readClass_chars hne h [])).trans
      (Regular.readAll_of_blank rfl)
  have hlettered : (Tree.ofClass false text).Lettered := by
    change readsLetter ('[' :: (text ++ [']'])) = true
    unfold readsLetter
    split
    · rename_i source hsource
      obtain ⟨d, hd, -, rfl⟩ := Regular.written_eq_ok.mp (Regular.read_eq_ok.mp hsource).1
      obtain rfl := Except.ok.inj (hread.symm.trans hd)
      rfl
    · rfl
  exact ⟨⟨⟨trivial, hlettered⟩, rfl⟩, rfl⟩

/-- **What it is planned as** reads a run of the letters, and that run once more. -/
theorem plans_doubling (hne : text ≠ []) (h : ∀ c ∈ text, IsPlainChar c) :
    Plans ((Tree.doubling text).plan [1] .alone true)
      (.ofLanguage (doubles (runs text))) := by
  have hplan : (Tree.doubling text).plan [1] .alone true =
      (planPart [.ofClass false text]).map fun a =>
        .seq .nothing (.seq (.capture 1 (.seq (.times 1 a) (.star true a))) (.backref 1)) := by
    have hgroup : (Tree.group 1 (.repetition 1 none true (.ofClass false text))).plan [1] .alone
        true = (planPart [.ofClass false text]).bind fun a =>
          .ok (.capture 1 (.seq (.times 1 a) (.star true a))) := by
      change Except.bind (Except.bind (planPart [.ofClass false text]) _) _ = _
      cases planPart [.ofClass false text] <;> rfl
    have hbackref : (Tree.backref 1).plan [1] .middle true = .ok (.backref 1) := rfl
    have hfront : (Tree.group 1 (.repetition 1 none true (.ofClass false text))).isFront [1] =
        false := rfl
    have hend : (Tree.doubling text).isEnd [1] true = false := rfl
    rw [Tree.doubling] at hend ⊢
    rw [Tree.plan_alone_concat, if_neg (by simp), Tree.plan_front_concat, hfront,
      if_neg Bool.false_ne_true, Tree.plan_middle_concat, hend, if_neg Bool.false_ne_true, hgroup,
      hbackref]
    cases planPart [.ofClass false text] <;> rfl
  have hcooks := Tree.cooks_class (Regular.readClass_chars hne h [])
    (Regular.Ast.denotes_chars_class false false text)
  have hfixed := fixed_ofClass hne h
  rw [hplan]
  rcases plans_planPart (List.forall_mem_singleton.mpr hfixed) (.cons hcooks .nil) (by decide)
    (reads_classOfText text) with hlarge | ⟨a, ha, hreads⟩
  · exact Or.inl (by rw [hlarge]; rfl)
  · obtain ⟨r, -, rfl⟩ := regex_of_planPart (List.forall_mem_singleton.mpr hfixed.easy.1.2)
      (List.cons_ne_nil _ _) ha
    have hnil : [] ∉ letters text := by
      rintro ⟨c, hc, -⟩
      cases hc
    have hdoubled := (hreads.fromOn hnil 1 true).doubled (leads_fromOn _ 1) 1
    rw [← runs_eq] at hdoubled
    have hnothing : (Plan.nothing : Plan Part).Reads (.ofLanguage 1) := leadsOver_nothing
    have hseq := hnothing.seq hdoubled
    rw [Passages.andThen_ofLanguage, one_mul] at hseq
    exact Or.inr ⟨_, by rw [ha]; rfl, hseq⟩

end Doubling

end Extended

/-! ## Verdicts -/

namespace Expression

/-- The expression that reads a run of letters of a text twice, over all lines of the input; looked
for anywhere if it is `searched`. -/
def doubling (letters : String) (searched : Bool) : Expression :=
  ofVerbs [.addModifier 'm', .searchGlobal searched, .add ("([" ++ letters ++ "]+)"), .add "\\1"]

theorem toList_pattern_doubling (letters : String) (searched : Bool) :
    (doubling letters searched).pattern.toList = Extended.doublingText letters.toList := by
  simp [doubling, ofVerbs, applyAll, apply, append, setLetter, Modifier.ofChar?, setModifier,
    Expression.empty, pattern, Verb.fragment, Extended.doublingText]

theorem mem_doubles {letters : String} {text : List Char} :
    text ∈ Extended.doubles (Extended.runs letters.toList) ↔
      ∃ u, u ≠ [] ∧ (∀ c ∈ u, c ∈ letters.toList) ∧ text = u ++ u :=
  exists_congr fun _ => and_assoc

/-- **A reference counts the groups of the pattern as it is written.** Whenever a test of a run of
letters and a reference to it has a verdict, it says whether the input is twice the same run of
those letters, or, with the global modifier, whether that stands somewhere in the input. -/
theorem test_doubling {letters : String} (h : IsPlainText letters) {searched : Bool}
    {input : String} {b : Bool}
    (htest : (doubling letters searched).test .extended input = .ok b) :
    b = true ↔
      if searched then ∃ x u y, u ≠ [] ∧ (∀ c ∈ u, c ∈ letters.toList) ∧
        input.toList = x ++ (u ++ u) ++ y
      else ∃ u, u ≠ [] ∧ (∀ c ∈ u, c ∈ letters.toList) ∧ input.toList = u ++ u := by
  have hne : letters.toList ≠ [] := by simpa using h.1
  have hread := Extended.read_doubling hne h.2
  rw [← toList_pattern_doubling letters searched] at hread
  obtain ⟨c, hc, -⟩ := bind_eq_ok.mp htest
  rw [test_of_compile hc] at htest
  obtain ⟨plan, hplan, hsearch, hfull⟩ := Compiled.hard_of_compile hread rfl hc
  rcases Extended.plans_doubling hne h.2 with hlarge | ⟨plan', hplan', hreads⟩
  · cases hlarge.symm.trans hplan
  obtain rfl := Except.ok.inj (hplan.symm.trans hplan')
  cases searched with
  | false =>
    have hmatch : c.fullMatch input = .ok b := htest
    exact (hreads.covering_iff (hfull input b hmatch)).trans mem_doubles
  | true =>
    have hmatch : c.search.isMatch input = .ok b := htest
    rw [hsearch] at hmatch
    refine (hreads.search_iff (Program.answer_eq_ok.mp hmatch)).trans ?_
    constructor
    · rintro ⟨x, w, y, htext, hw⟩
      obtain ⟨u, hne, hu, rfl⟩ := mem_doubles.mp hw
      exact ⟨x, u, y, hne, hu, by simp [htext]⟩
    · rintro ⟨x, u, y, hne, hu, htext⟩
      exact ⟨x, u ++ u, y, by simp [htext], mem_doubles.mpr ⟨u, hne, hu, rfl⟩⟩

/-- The run that is read first is too long to be read again, and part of it is given back. -/
theorem test_doubling_of_ab :
    (doubling "ab" false).test .extended "abab" = .ok true ∧
      (∃ u, u ≠ [] ∧ (∀ c ∈ u, c ∈ "ab".toList) ∧ "abab".toList = u ++ u) ∧
      (doubling "ab" true).test .extended "xaby\nabax" = .ok false ∧
      ¬∃ x u y, u ≠ [] ∧ (∀ c ∈ u, c ∈ "ab".toList) ∧ "xaby\nabax".toList = x ++ (u ++ u) ++ y := by
  have hfull : (doubling "ab" false).test .extended "abab" = .ok true := by decide +kernel
  have hsearch : (doubling "ab" true).test .extended "xaby\nabax" = .ok false := by decide +kernel
  have hplain : IsPlainText "ab" := by decide
  exact ⟨hfull, (test_doubling hplain hfull).mp rfl, hsearch,
    fun hoccurs => Bool.noConfusion ((test_doubling hplain hsearch).mpr hoccurs)⟩

end Expression

end Verbal
