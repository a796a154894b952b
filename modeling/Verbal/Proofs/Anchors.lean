import Verbal.Proofs.Agreement
import Verbal.Proofs.Searches

/-!
# What the anchors of a chain bind

The anchors of a chain stand outside the groups that its alternatives make, and an alternation
reaches further than what stands beside it: the start anchor belongs to the first segment of the
chain, and the end anchor to the last one. Without alternatives there is one segment, and both
belong to it.

* **`spans_chainRegex`**: where a chain can match, read off its segments and its anchors.
* **`Expression.anchors_bind`**: what is found of a chain; without alternatives, the anchors hold
  for every match, and looking anywhere with both of them is a match of the whole text.
-/

namespace Verbal

open Verbal.Regular (Regex Look Trail)

/-! ## Branches by their places -/

section Branches

variable {α : Type}

theorem getElem?_atFront (pre : List α) (bs : List (List α)) (k : Nat) :
    (atFront pre bs)[k]? = bs[k]?.map fun b => if k = 0 then pre ++ b else b := by
  cases bs with
  | nil => simp [atFront]
  | cons b bs => cases k <;> simp [atFront]

theorem getElem?_atBack (post : List α) (bs : List (List α)) (k : Nat) :
    (atBack post bs)[k]? = bs[k]?.map fun b => if k + 1 = bs.length then b ++ post else b := by
  induction bs generalizing k with
  | nil => simp [atBack]
  | cons b bs ih =>
    cases bs with
    | nil => cases k <;> simp [atBack]
    | cons c bs =>
      cases k with
      | zero => simp [atBack]
      | succ k => simpa [atBack] using ih k

theorem getElem?_numbered (group : Nat → List α → α) (n : Nat) (bs : List (List α)) (k : Nat) :
    (numbered group n bs)[k]? = bs[k]?.map fun b => [group (n + k) b] := by
  induction bs generalizing n k with
  | nil => simp [numbered]
  | cons b bs ih =>
    cases k with
    | zero => simp [numbered]
    | succ k => simpa [numbered, Nat.add_assoc, Nat.add_comm 1] using ih (n + 1) k

theorem length_numbered (group : Nat → List α → α) (n : Nat) (bs : List (List α)) :
    (numbered group n bs).length = bs.length := by
  induction bs generalizing n with
  | nil => rfl
  | cons b bs ih => simp [numbered, ih]

/-- A branch of a chain is a segment or the group of one, with what stands in front of the first and
behind the last. -/
theorem getElem?_chainBranches (group : Nat → List α → α) (n : Nat) (pre post : List α)
    (bs : List (List α)) (k : Nat) :
    (chainBranches group n pre post bs)[k]? = bs[k]?.map fun b =>
      (if k = 0 then pre else []) ++ (if bs.length ≤ 1 then b else [group (n + k) b]) ++
        (if k + 1 = bs.length then post else []) := by
  have hlength : (if bs.length ≤ 1 then bs else numbered group n bs).length = bs.length := by
    split <;> simp [length_numbered]
  have hget : (if bs.length ≤ 1 then bs else numbered group n bs)[k]? =
      bs[k]?.map fun b => if bs.length ≤ 1 then b else [group (n + k) b] := by
    split <;> simp [getElem?_numbered]
  rw [chainBranches, getElem?_atFront, getElem?_atBack, hlength, hget, Option.map_map,
    Option.map_map]
  refine congrArg (Option.map · bs[k]?) (funext fun b => ?_)
  dsimp only [Function.comp]
  by_cases hlast : k + 1 = bs.length
  · rw [if_pos hlast, if_pos hlast]
    by_cases hfirst : k = 0 <;> simp [hfirst]
  · rw [if_neg hlast, if_neg hlast]
    by_cases hfirst : k = 0 <;> simp [hfirst]

end Branches

/-! ## Where chains can match -/

section Spans

variable {text : List Char} {i j : Nat} {rs : List Regex}

/-- Whether a segment can match from a place to another. -/
def SegmentSpans (anyCase : Bool) (s : List Verb) (text : List Char) (i j : Nat) : Prop :=
  (Regex.sequence (s.filterMap (Verb.regex? anyCase))).Spans text i j

theorem spans_start {anchored : Prop} [Decidable anchored] (hi : i ≤ text.length) :
    (Regex.sequence ((if anchored then [.look .startText] else []) ++ rs)).Spans text i j ↔
      (anchored → i = 0) ∧ (Regex.sequence rs).Spans text i j := by
  rw [Regex.spans_sequence_append]
  by_cases h : anchored
  · rw [if_pos h]
    simp only [Regex.sequence, Regex.Spans, h, forall_const]
    constructor
    · rintro ⟨k, ⟨rfl, hholds⟩, hspans⟩
      exact ⟨(Look.holdsAt_startText hi).mp hholds, hspans⟩
    · rintro ⟨hstart, hspans⟩
      exact ⟨i, ⟨rfl, (Look.holdsAt_startText hi).mpr hstart⟩, hspans⟩
  · simp [h, Regex.sequence, Regex.Spans]

theorem spans_stop {anchored : Prop} [Decidable anchored] (hi : i ≤ text.length) :
    (Regex.sequence (rs ++ if anchored then [.look .endText] else [])).Spans text i j ↔
      (Regex.sequence rs).Spans text i j ∧ (anchored → j = text.length) := by
  rw [Regex.spans_sequence_append]
  by_cases h : anchored
  · rw [if_pos h]
    simp only [Regex.sequence, Regex.Spans, h, forall_const]
    constructor
    · rintro ⟨k, hspans, rfl, hholds⟩
      exact ⟨hspans, (Look.holdsAt_endText (hspans.le_length hi)).mp hholds⟩
    · rintro ⟨hspans, hstop⟩
      exact ⟨j, hspans, rfl, (Look.holdsAt_endText (hspans.le_length hi)).mpr hstop⟩
  · simp [h, Regex.sequence, Regex.Spans]

/-- What the segment of that number stands for in a chain of `size` segments: it is a group if it is
not the only one, the start anchor stands in front of the first one and the end anchor behind the
last. -/
def branchRegex (anyCase start stop : Bool) (size k : Nat) (s : List Verb) : Regex :=
  .sequence ((if k = 0 ∧ start = true then [.look .startText] else []) ++
    ((if size ≤ 1 then s.filterMap (Verb.regex? anyCase)
      else [.group (1 + k) (.sequence (s.filterMap (Verb.regex? anyCase)))]) ++
    if k + 1 = size ∧ stop = true then [.look .endText] else []))

theorem chainRegex_eq {anyCase start stop : Bool} (ss : List (List Verb)) :
    chainRegex anyCase start stop [] ss =
      .choice (ss.mapIdx (branchRegex anyCase start stop ss.length)) := by
  refine congrArg Regex.choice (List.ext_getElem? fun k => ?_)
  rw [List.getElem?_map, getElem?_chainBranches, List.getElem?_mapIdx, List.getElem?_map,
    Option.map_map, Option.map_map, List.length_map, List.append_nil]
  refine congrArg (Option.map · ss[k]?) (funext fun s => ?_)
  simp only [Function.comp, branchRegex, ite_and, List.append_assoc]

/-- Where a branch of a chain can match. -/
theorem spans_branchRegex {anyCase start stop : Bool} {size k : Nat} {s : List Verb}
    (hi : i ≤ text.length) :
    (branchRegex anyCase start stop size k s).Spans text i j ↔
      SegmentSpans anyCase s text i j ∧ (k = 0 → start = true → i = 0) ∧
        (k + 1 = size → stop = true → j = text.length) := by
  have hmid (rs : List Regex) :
      (Regex.sequence (if size ≤ 1 then rs else [.group (1 + k) (.sequence rs)])).Spans
        text i j ↔ (Regex.sequence rs).Spans text i j := by
    split <;> exact Iff.rfl
  rw [branchRegex, spans_start hi, spans_stop hi, hmid, and_imp, and_imp]
  exact and_left_comm

/-- **Where a chain can match**: where one of its segments can, if that is the first one from the
start anchor on, and if it is the last one up to the end anchor. -/
theorem spans_chainRegex {anyCase start stop : Bool} {ss : List (List Verb)} (hne : ss ≠ [])
    (hi : i ≤ text.length) :
    (chainRegex anyCase start stop [] ss).Spans text i j ↔
      ∃ k s, ss[k]? = some s ∧ SegmentSpans anyCase s text i j ∧
        (k = 0 → start = true → i = 0) ∧ (k + 1 = ss.length → stop = true → j = text.length) := by
  rw [chainRegex_eq, Regex.spans_choice (by simpa using hne)]
  simp only [List.mem_iff_getElem?, List.getElem?_mapIdx, Option.map_eq_some_iff]
  constructor
  · rintro ⟨_, ⟨k, s, hs, rfl⟩, hspans⟩
    exact ⟨k, s, hs, (spans_branchRegex hi).mp hspans⟩
  · rintro ⟨k, s, hs, hspans⟩
    exact ⟨_, ⟨k, s, hs, rfl⟩, (spans_branchRegex hi).mpr hspans⟩

end Spans

/-! ## What is listed -/

namespace Regular

variable {resume place : Nat} {last : Option Nat} {found : List (Option Trail)} {m : Match}

/-- A match that is listed was found where it begins. -/
theorem exists_found_of_mem (h : m ∈ Program.listMatches resume last place found) :
    ∃ k trail, found[k]?.join = some trail ∧ m = ⟨place + k, trail.stop, trail.marks⟩ := by
  induction found generalizing resume last place with
  | nil => cases h
  | cons t found ih =>
    have hlater {resume : Nat} {last : Option Nat}
        (h : m ∈ Program.listMatches resume last (place + 1) found) :
        ∃ k trail, (t :: found)[k]?.join = some trail ∧
          m = ⟨place + k, trail.stop, trail.marks⟩ := by
      obtain ⟨k, trail, htrail, hm⟩ := ih h
      exact ⟨k + 1, trail, htrail, by rw [hm, Nat.add_assoc, Nat.add_comm 1 k]⟩
    unfold Program.listMatches at h
    split at h
    · exact hlater h
    · rename_i trail htrail
      split at htrail
      · cases htrail
      · have hhere : (t :: found)[0]?.join = some trail := by rw [htrail]; rfl
        split at h
        · split at h
          · exact hlater h
          · rcases List.mem_cons.mp h with rfl | h
            · exact ⟨0, trail, hhere, rfl⟩
            · exact hlater h
        · rcases List.mem_cons.mp h with rfl | h
          · exact ⟨0, trail, hhere, rfl⟩
          · exact hlater h

end Regular

/-- The matches of an expression in a text. -/
def matchesOf (r : Regex) (text : List Char) : List Match :=
  Regular.Program.listMatches 0 none 0 ((r.unroll none).found text)

theorem spans_of_mem_matchesOf {r : Regex} {text : List Char} {m : Match}
    (h : m ∈ matchesOf r text) : m.start ≤ text.length ∧ r.Spans text m.start m.stop := by
  obtain ⟨k, trail, htrail, rfl⟩ := Regular.exists_found_of_mem h
  have hfound := (Regular.found_isSome_iff r text k).mp (by rw [htrail]; rfl)
  rw [Nat.zero_add]
  exact ⟨hfound.1, Regular.spans_of_found htrail⟩

theorem matchesOf_ne_nil {r : Regex} {text : List Char} :
    matchesOf r text ≠ [] ↔ ∃ i j, i ≤ text.length ∧ r.Spans text i j := by
  rw [← Regular.isMatch_iff, ← List.isEmpty_eq_false_iff, matchesOf,
    Regular.listMatches_isEmpty (Nat.le_refl 0), Bool.not_eq_false']

/-- Of an expression, both backends visit the same matches. -/
theorem Backend.visits_programOf (backend : Backend) (r : Regex) (text : String) :
    (backend.programOf r).Visits text (matchesOf r text.toList) where
  follow := @Regular.follow_listMatches _ 0 0 none _ (Regular.onward_found r text.toList)
  listed := by cases backend <;> rfl
  found := by
    rw [isMatch_programOf, matchesOf, Regular.listMatches_isEmpty (Nat.le_refl 0), Bool.not_not]
  replaced _ := by cases backend <;> rfl

/-! ## Anchored chains -/

/-- Whether the start of a chain is anchored: what was said last of it is that it is. -/
def AnchoredAtStart (verbs : List Verb) : Prop := lastWord Verb.startAnchor? verbs = some true

/-- Whether the end of a chain is anchored. -/
def AnchoredAtEnd (verbs : List Verb) : Prop := lastWord Verb.endAnchor? verbs = some true

instance (verbs : List Verb) : Decidable (AnchoredAtStart verbs) :=
  inferInstanceAs (Decidable (_ = _))

instance (verbs : List Verb) : Decidable (AnchoredAtEnd verbs) :=
  inferInstanceAs (Decidable (_ = _))

/-- Whether a chain can match from a place to another by its segment of that number: the start
anchor binds the first segment, and the end anchor the last. -/
structure MatchesBy (anyCase : Bool) (verbs : List Verb) (text : List Char) (k i j : Nat) :
    Prop where
  spans : ∃ s, (segments verbs)[k]? = some s ∧ SegmentSpans anyCase s text i j
  start : k = 0 → AnchoredAtStart verbs → i = 0
  stop : k + 1 = (segments verbs).length → AnchoredAtEnd verbs → j = text.length

section Chains

variable {verbs : List Verb} {anyCase : Bool} {text : List Char} {i j k : Nat}

theorem spans_chainExpression (hi : i ≤ text.length) :
    (chainExpression anyCase verbs).Spans text i j ↔ ∃ k, MatchesBy anyCase verbs text k i j := by
  have hgetD (o : Option Bool) : o.getD false = true ↔ o = some true := by
    cases o <;> simp
  obtain ⟨s, ss, hs⟩ := exists_segments verbs
  rw [chainExpression, spans_chainRegex (by simp [hs]) hi]
  simp only [hgetD]
  constructor
  · rintro ⟨k, s, hs, hspans, hstart, hstop⟩
    exact ⟨k, ⟨s, hs, hspans⟩, hstart, hstop⟩
  · rintro ⟨k, ⟨s, hs, hspans⟩, hstart, hstop⟩
    exact ⟨k, s, hs, hspans, hstart, hstop⟩

/-- Without alternatives there is one segment, and both anchors bind it. -/
theorem MatchesBy.bound (h : MatchesBy anyCase verbs text k i j)
    (halt : ∀ v ∈ verbs, v.isAlt = false) :
    (AnchoredAtStart verbs → i = 0) ∧ (AnchoredAtEnd verbs → j = text.length) := by
  have hany : ¬verbs.any Verb.isAlt = true := by
    simpa using halt
  have hlength := mt (one_lt_length_segments verbs).mp hany
  obtain ⟨s, hs, -⟩ := h.spans
  obtain ⟨hk, -⟩ := List.getElem?_eq_some_iff.mp hs
  exact ⟨h.start (by omega), h.stop (by omega)⟩

/-- Where both anchors bind all there is, whatever is found covers the text. -/
theorem found_iff_covers (halt : ∀ v ∈ verbs, v.isAlt = false) (hstart : AnchoredAtStart verbs)
    (hstop : AnchoredAtEnd verbs) :
    (∃ i j, i ≤ text.length ∧ (chainExpression anyCase verbs).Spans text i j) ↔
      (chainExpression anyCase verbs).Covers text := by
  constructor
  · rintro ⟨i, j, hi, hspans⟩
    obtain ⟨k, hmatches⟩ := (spans_chainExpression hi).mp hspans
    obtain ⟨hbegin, hend⟩ := hmatches.bound halt
    obtain rfl := hbegin hstart
    obtain rfl := hend hstop
    exact hspans
  · exact fun hcovers => ⟨0, text.length, Nat.zero_le _, hcovers⟩

end Chains

namespace Expression

variable {verbs : List Verb}

/-- A compiled chain visits the matches of what it stands for. -/
theorem visits_of_compile (hplain : ∀ v ∈ verbs, v.IsPlain) {backend : Backend} {c : Compiled}
    (hc : (ofVerbs verbs).compile backend = .ok c) (text : String) :
    c.search.Visits text
      (matchesOf (chainExpression ((ofVerbs verbs).modifiers.contains .anyCase) verbs)
        text.toList) := by
  rcases compile_cases hplain rfl with hrefused | ⟨-, hcompile⟩
  · obtain ⟨reason, hreason⟩ := hrefused backend
    cases hc.symm.trans hreason
  · cases hc.symm.trans (hcompile backend)
    exact backend.visits_programOf _ text

/-- Whatever is visited of a chain, one of its segments matches there. -/
theorem matchesBy_of_mem {anyCase : Bool} {text : List Char} {m : Match}
    (h : m ∈ matchesOf (chainExpression anyCase verbs) text) :
    ∃ k, MatchesBy anyCase verbs text k m.start m.stop := by
  obtain ⟨hi, hspans⟩ := spans_of_mem_matchesOf h
  exact (spans_chainExpression hi).mp hspans

/-- With both anchors and no alternative, a test that looks anywhere is one of the whole text,
unless only the pattern of the latter is too large. -/
theorem test_looking_anchored (hplain : ∀ v ∈ verbs, v.IsPlain)
    (halt : ∀ v ∈ verbs, v.isAlt = false) (hstart : AnchoredAtStart verbs)
    (hstop : AnchoredAtEnd verbs) (backend : Backend) (allLines : Bool) (input : String) :
    if (chainExpression ((ofVerbs verbs).modifiers.contains .anyCase) verbs).size ≤
          Regular.sizeLimit ∧
        Regular.sizeLimit <
          (chainExpression ((ofVerbs verbs).modifiers.contains .anyCase) verbs).size + 64 then
      ((ofVerbs verbs).looking false allLines).test backend input =
        .error (.invalidPattern (ofVerbs verbs).pattern backend.tooLarge)
    else
      ((ofVerbs verbs).looking true allLines).test backend input =
        ((ofVerbs verbs).looking false allLines).test backend input := by
  have hlast : LastAltAfterAnchors verbs := Or.inl halt
  have hcompile := compile_ofVerbs backend hplain hlast rfl
  generalize (ofVerbs verbs).modifiers.contains .anyCase = anyCase at hcompile ⊢
  by_cases hsize : (chainExpression anyCase verbs).size ≤ Regular.sizeLimit
  · rw [if_pos hsize] at hcompile
    have hfull := fullMatch_chain hplain hlast anyCase
    split
    · rename_i hlarge
      rw [test_looking hcompile, if_neg Bool.false_ne_true, hfull, if_neg (by omega)]
    · rename_i hsmall
      rw [test_looking hcompile, test_looking hcompile, if_pos rfl, if_neg Bool.false_ne_true,
        hfull, if_pos (by omega), Backend.isMatch_programOf, Backend.isMatch_programOf]
      refine congrArg Except.ok (Bool.eq_iff_iff.mpr ?_)
      rw [Backend.isMatch_anchored, Regular.isMatch_iff]
      exact found_iff_covers halt hstart hstop
  · rw [if_neg hsize] at hcompile
    rw [if_neg (by omega)]
    simp only [test, compile_looking, hcompile, Except.bind]

/-- **What the anchors bind.** A chain of plain verbs is found where one of its segments can match,
the first one from the start anchor on and the last one up to the end anchor, and every match that a
search or a replacement visits is of that kind. Without alternatives, every match begins where the
text does if the start is anchored, and ends where it does if the end is; with both anchors, a test
that looks anywhere answers like one of the whole text, unless only the pattern of the latter is too
large. -/
theorem anchors_bind (hplain : ∀ v ∈ verbs, v.IsPlain) (backend : Backend) :
    (∀ c, (ofVerbs verbs).compile backend = .ok c → ∀ text : String, ∃ ms,
      c.search.Visits text ms ∧
      (ms ≠ [] ↔ ∃ k i j, i ≤ text.toList.length ∧
        MatchesBy ((ofVerbs verbs).modifiers.contains .anyCase) verbs text.toList k i j) ∧
      (∀ m ∈ ms, ∃ k, MatchesBy ((ofVerbs verbs).modifiers.contains .anyCase) verbs text.toList k
        m.start m.stop) ∧
      ((∀ v ∈ verbs, v.isAlt = false) →
        (AnchoredAtStart verbs → ∀ m ∈ ms, m.start = 0) ∧
          (AnchoredAtEnd verbs → ∀ m ∈ ms, m.stop = text.toList.length))) ∧
    ((∀ v ∈ verbs, v.isAlt = false) → AnchoredAtStart verbs → AnchoredAtEnd verbs →
      ∀ allLines input,
        if (chainExpression ((ofVerbs verbs).modifiers.contains .anyCase) verbs).size ≤
              Regular.sizeLimit ∧
            Regular.sizeLimit <
              (chainExpression ((ofVerbs verbs).modifiers.contains .anyCase) verbs).size + 64 then
          ((ofVerbs verbs).looking false allLines).test backend input =
            .error (.invalidPattern (ofVerbs verbs).pattern backend.tooLarge)
        else
          ((ofVerbs verbs).looking true allLines).test backend input =
            ((ofVerbs verbs).looking false allLines).test backend input) := by
  refine ⟨fun c hc text => ⟨_, visits_of_compile hplain hc text, ?_, fun m hm => ?_,
    fun halt => ⟨fun hstart m hm => ?_, fun hstop m hm => ?_⟩⟩,
    fun halt hstart hstop => test_looking_anchored hplain halt hstart hstop backend⟩
  · rw [matchesOf_ne_nil]
    constructor
    · rintro ⟨i, j, hi, hspans⟩
      obtain ⟨k, hk⟩ := (spans_chainExpression hi).mp hspans
      exact ⟨k, i, j, hi, hk⟩
    · rintro ⟨k, i, j, hi, hk⟩
      exact ⟨i, j, hi, (spans_chainExpression hi).mpr ⟨k, hk⟩⟩
  · exact matchesBy_of_mem hm
  · obtain ⟨k, hk⟩ := matchesBy_of_mem hm
    exact (hk.bound halt).1 hstart
  · obtain ⟨k, hk⟩ := matchesBy_of_mem hm
    exact (hk.bound halt).2 hstop

/-- What is optional makes no difference: an anchored chain is found at the start only, and between
both anchors only as a whole. -/
theorem anchors_bind_of_maybe :
    (∃ c ms, (ofVerbs [.startOfLine true, .andThen "a", .maybe "b"]).compile .extended = .ok c ∧
      c.search.Visits "aab" ms ∧ ms ≠ [] ∧ ∀ m ∈ ms, m.start = 0) ∧
    ((ofVerbs [.startOfLine true, .endOfLine true, .andThen "a", .maybe "b"]).looking true
        false).test .regular "aab\nb" = .ok false := by
  constructor
  · obtain ⟨c, hc⟩ := exists_ok_of_isSome (by decide +kernel :
      ((ofVerbs [.startOfLine true, .andThen "a", .maybe "b"]).compile .extended).toOption.isSome =
        true)
    obtain ⟨hfound, -⟩ :=
      @anchors_bind [.startOfLine true, .andThen "a", .maybe "b"] (by decide) .extended
    obtain ⟨ms, hvisits, -, -, hbound⟩ := hfound c hc "aab"
    refine ⟨c, ms, hc, hvisits, ?_, (hbound (by decide)).1 (by decide)⟩
    rintro rfl
    have hmatch : ((ofVerbs [.startOfLine true, .andThen "a", .maybe "b"]).compile .extended).bind
        (·.search.isMatch "aab") = .ok true := by
      decide +kernel
    rw [hc] at hmatch
    cases hmatch.symm.trans hvisits.found
  · obtain ⟨-, htest⟩ :=
      @anchors_bind [.startOfLine true, .endOfLine true, .andThen "a", .maybe "b"] (by decide)
        .regular
    have hsame := htest (by decide) (by decide) (by decide) false "aab\nb"
    rw [if_neg (by decide +kernel)] at hsame
    rw [hsame]
    decide +kernel

/-- With an alternative, the anchors do not hold for all of a chain: the first alternative is found
from the start on wherever it ends, and the second one up to the end wherever it begins. -/
theorem anchors_lost_of_alternative :
    ((ofVerbs [.startOfLine true, .endOfLine true, .andThen "a", .alt "b"]).looking true
        true).test .regular "ax" = .ok true ∧
      ((ofVerbs [.startOfLine true, .endOfLine true, .andThen "a", .alt "b"]).looking false
        true).test .regular "ax" = .ok false ∧
      ((ofVerbs [.startOfLine true, .andThen "a", .alt "b"]).compile .extended).bind
        (·.search.findAll "xb") = .ok [(1, 2)] ∧
      ((ofVerbs [.endOfLine true, .andThen "a", .alt "b"]).compile .extended).bind
        (·.search.findAll "ax") = .ok [(0, 1)] := by
  decide +kernel

end Expression

end Verbal
