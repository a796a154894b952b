import Verbal.Proofs.Extended.Occurrences
import Verbal.Proofs.Extended.Verdicts
import Verbal.Proofs.Repetitions
import Verbal.Proofs.Scans
import Verbal.Proofs.Searches

/-!
# Looking ahead

A look-ahead behind a word tells by what follows whether the word is matched, and takes nothing of
it. The word is matched as one part, and so is what is looked for; between them no way is ever tried
again, so all that can happen besides an answer is that there are too many places to begin from.

* `standsAhead`: whether a text begins with a word that another one follows, or does not.
* `Compiled.LooksAhead`: what such a pattern answers.
* **`Backend.compile_lookahead`**: a word with a look-ahead behind it answers so.
-/

namespace Verbal

open Verbal.Regular (Regex)

/-- Whether a text begins with a word that another one follows, or does not follow if that is
`negated`. -/
def standsAhead (negated : Bool) (word ahead text : List Char) : Bool :=
  word.isPrefixOf text && (ahead.isPrefixOf (text.drop word.length) != negated)

section Standing

variable {negated : Bool} {word ahead text w v : List Char}

theorem standsAhead_append : standsAhead negated word ahead (word ++ v) = true ↔
    (ahead <+: v ↔ negated = false) := by
  rw [standsAhead, List.drop_left, ← List.isPrefixOf_iff_prefix,
    List.isPrefixOf_iff_prefix.mpr (List.prefix_append word v), Bool.true_and, bne_iff_ne]
  cases negated <;> cases ahead.isPrefixOf v <;> decide

theorem standsAhead_iff : standsAhead negated word ahead text = true ↔
    ∃ v, text = word ++ v ∧ (ahead <+: v ↔ negated = false) := by
  constructor
  · intro h
    obtain ⟨v, rfl⟩ := List.isPrefixOf_iff_prefix.mp (Bool.and_eq_true_iff.mp h).1
    exact ⟨v, rfl, standsAhead_append.mp h⟩
  · rintro ⟨v, rfl, h⟩
    exact standsAhead_append.mpr h

/-- What is matched there is the word. -/
theorem standing_iff :
    Passages.standing (standsAhead negated word ahead) word.length w v ↔
      w = word ∧ (ahead <+: v ↔ negated = false) := by
  constructor
  · rintro ⟨hlength, hstands⟩
    obtain ⟨v', happend, hiff⟩ := standsAhead_iff.mp hstands
    obtain ⟨rfl, rfl⟩ := List.append_inj happend hlength
    exact ⟨rfl, hiff⟩
  · rintro ⟨rfl, hiff⟩
    exact ⟨rfl, standsAhead_append.mpr hiff⟩

theorem fits_standsAhead (hword : word ≠ []) (negated : Bool) (ahead : List Char) :
    Fits (standsAhead negated word ahead) word.length where
  pos := List.length_pos_iff.mpr hword
  le text h := by
    obtain ⟨v, rfl, -⟩ := standsAhead_iff.mp h
    simp

end Standing

/-! ## Reading -/

namespace Extended

/-- The text of a look-ahead behind a word. -/
def lookaheadText (negated : Bool) (word ahead : List Char) : List Char :=
  word ++ (aheadOpening negated ++ (ahead ++ [')']))

/-- The items that it is read as. -/
def lookaheadTrees (negated : Bool) (word ahead : List Char) : List Tree :=
  word.map (.literal · false) ++ [.look .ahead negated (.ofText ahead)]

section Reading

variable {d : Draft} {negated : Bool} {word ahead rest : List Char} {n : Nat}

theorem bare_ofText (text : List Char) : (Tree.ofText text).bare = .ofText text := by
  match text with
  | [] => rfl
  | [_] => rfl
  | _ :: _ :: _ => rfl

theorem run_lookahead (hd : d.Ready 62) (negated : Bool) (hword : ∀ c ∈ word, IsPlainChar c)
    (hahead : ∀ c ∈ ahead, IsPlainChar c) (hrest : IsTame rest) :
    run d (lookaheadText negated word ahead ++ rest) =
      run (d.add (lookaheadTrees negated word ahead)) rest := by
  let front := d.add (word.map (.literal · false))
  have hopen := (hd.add (word.map (.literal · false))).openLevel (.look .ahead negated)
  have hinside := hopen.add (ahead.map (.literal · false))
  calc
    _ = run d (word ++ (aheadOpening negated ++ (ahead ++ ')' :: rest))) := by
        simp [lookaheadText]
    _ = run front (aheadOpening negated ++ (ahead ++ ')' :: rest)) :=
        run_chars hd hword (isTame_ahead negated _)
    _ = run (front.openLevel (.look .ahead negated)) (ahead ++ ')' :: rest) :=
        run_open_ahead (hd.add _) negated _
    _ = run ((front.openLevel (.look .ahead negated)).add (ahead.map (.literal · false)))
          (')' :: rest) := run_chars hopen hahead (isTame_cons (by decide) rest)
    _ = run (front.push (.look .ahead negated (.ofText ahead))) rest := by
        rw [Draft.openLevel_eq] at hinside ⊢
        rw [run_close_look hinside rfl, Draft.push_eq front, ← bare_ofText ahead]
        simp [Draft.leave, Draft.add, Draft.push, Draft.flush, Draft.body, Tree.ofBranches,
          Tree.ofText, front]
    _ = run (front.add [.look .ahead negated (.ofText ahead)]) rest :=
        run_push (hd.add _) nofun hrest
    _ = _ := by rw [Draft.add_add, lookaheadTrees]

/-- **How a look-ahead behind a word is read.** -/
theorem read_lookahead (hword : ∀ c ∈ word, IsPlainChar c) (hahead : ∀ c ∈ ahead, IsPlainChar c) :
    Source.read (lookaheadText negated word ahead) =
      .ok ⟨.ofItems (lookaheadTrees negated word ahead), [], []⟩ := by
  have hd := Draft.ready_start (lookaheadText negated word ahead)
  have hrun := run_lookahead (hd.mono (Nat.zero_le 62)) negated hword hahead isTame_nil
  rw [List.append_nil, run_nil (hd.add _), (hd.add _).finish, Draft.body_add rfl rfl] at hrun
  exact hrun

/-- Between the assertions it is read in the same way. -/
theorem read_anchored_lookahead (hword : ∀ c ∈ word, IsPlainChar c)
    (hahead : ∀ c ∈ ahead, IsPlainChar c) {pattern : String}
    (hpattern : pattern.toList = lookaheadText negated word ahead) :
    Source.read (anchoredPattern pattern).toList =
      .ok ⟨(Tree.ofItems (lookaheadTrees negated word ahead)).anchored, [], []⟩ := by
  have hd := ready_anchored (anchoredPattern pattern).toList
  obtain ⟨hbranches, hitems, -⟩ := fresh_anchored (anchoredPattern pattern).toList
  rw [← Draft.body_add hbranches hitems]
  refine read_anchored (hd.add _) rfl ?_
  rw [hpattern]
  exact run_lookahead (hd.mono (by decide)) negated hword hahead (isTame_cons (by decide) _)

end Reading

/-! ## Planning -/

section Planning

variable {negated : Bool} {word ahead : List Char}

/-- The part that matches a text. -/
def textPlan (text : List Char) : Plan Part := .part ((Regex.ofText false text).unroll none) []

/-- The plan of a look-ahead behind a word. -/
def lookaheadPlan (negated : Bool) (word ahead : List Char) : Plan Part :=
  .seq (textPlan word) (.around 0 negated (textPlan ahead))

theorem planPart_text {text : List Char} (hne : text ≠ []) :
    planPart (text.map (.literal · false)) = .ok (textPlan text) := by
  have hcooks := Tree.forall₂_cooks_literals false 0 text
  have hgroups : (text.map (Tree.literal · false)).flatMap Tree.groups = [] :=
    List.flatMap_eq_nil_iff.mpr (List.forall_mem_map.mpr fun _ _ => rfl)
  have hliteral : (text.map (Tree.literal · false)).all Tree.isLiteral = true :=
    List.all_eq_true.mpr (List.forall_mem_map.mpr fun _ _ => rfl)
  rw [Tree.planPart_of_cooks hcooks (by decide) (by simpa using hne), if_pos (Or.inl hliteral),
    hgroups]
  rfl

theorem reads_textPlan {text : List Char} (hne : text ≠ []) :
    (textPlan text).Reads (.ofLanguage (spelled false text)) := by
  have hfixed : ∀ t ∈ text.map (Tree.literal · false), t.Fixed [] :=
    List.forall_mem_map.mpr fun c _ => Tree.fixed_literal false c
  have hregex := (Tree.cooks_ofText false text).regex (Tree.fixed_ofItems hfixed).easy.1.2
  exact Plan.reads_planPart hfixed (planPart_text hne) hregex (Regex.reads_ofText false text)

/-- The plan leads over the word where it stands. -/
theorem reads_lookaheadPlan (hword : word ≠ []) (hahead : ahead ≠ []) (negated : Bool) :
    (lookaheadPlan negated word ahead).Reads
      (.standing (standsAhead negated word ahead) word.length) := by
  have hreads := (reads_textPlan hword).seq ((reads_textPlan hahead).ahead negated)
  have hbegins (v : List Char) :
      (∃ x y, v = x ++ y ∧ x ∈ spelled false ahead) ↔ ahead <+: v := by
    simp only [Regex.mem_spelled, exists_and_right, exists_eq_right]
    exact exists_congr fun _ => eq_comm
  refine hreads.congr fun w v => ?_
  rw [standing_iff, ← hbegins v]
  constructor
  · rintro ⟨x, y, rfl, hx, rfl, hiff⟩
    obtain rfl := Regex.mem_spelled.mp hx
    exact ⟨List.append_nil _, hiff⟩
  · rintro ⟨rfl, hiff⟩
    exact ⟨w, [], (List.append_nil w).symm, Regex.mem_spelled.mpr rfl, rfl, hiff⟩

theorem leads_lookaheadPlan (negated : Bool) (word ahead : List Char) (subject : Subject) :
    Leads State.SameMarks ((lookaheadPlan negated word ahead).waysOn subject) :=
  (leads_part _ subject).andThen .trans (leads_ahead (leads_part _ subject) negated)

/-- **How it is planned**: the word waits, and what is looked for is matched on its own. -/
theorem plan_lookahead (hword : word ≠ []) (hahead : ahead ≠ []) (negated : Bool) :
    (Tree.ofItems (lookaheadTrees negated word ahead)).plan [] .alone true =
      .ok (lookaheadPlan negated word ahead) := by
  have hletters : ∀ t ∈ word.map (Tree.literal · false), t.isFront [] = true :=
    List.forall_mem_map.mpr fun _ _ => rfl
  have hfront : (Tree.ofItems (lookaheadTrees negated word ahead)).plan [] .alone true =
      (Tree.ofItems (lookaheadTrees negated word ahead)).plan [] (.front []) true :=
    Tree.plan_alone_front Tree.isAnchor_nil (by simp)
      (by simpa [lookaheadTrees] using List.length_pos_iff.mpr hword)
  have hinside : (Tree.ofText ahead).plan [] .alone false =
      planPart (ahead.map (.literal · false)) := by
    have hitems : ∀ t ∈ ahead.map (Tree.literal · false), t.IsItem :=
      List.forall_mem_map.mpr fun _ _ => rfl
    rw [Tree.plan_last (Tree.cooks_ofText false ahead).easy, Tree.ofText,
      Tree.items_ofItems hitems (by simpa using hahead)]
  have hlook : (Tree.look .ahead negated (.ofText ahead)).plan [] .middle true =
      (planPart (ahead.map (.literal · false))).bind fun a => .ok (.around 0 negated a) := by
    rw [← hinside]
    rfl
  have hitem : (Tree.look .ahead negated (.ofText ahead)).IsItem := rfl
  rw [hfront, lookaheadTrees, Tree.plan_front_append hletters hitem rfl, hlook, List.nil_append,
    planPart_text hword, planPart_text hahead]
  rfl

theorem hard_lookahead (negated : Bool) (word ahead : List Char) :
    (Tree.ofItems (lookaheadTrees negated word ahead)).hard [] = true := by
  rw [Tree.any_hard_ofItems, lookaheadTrees, List.any_append]
  simp [Tree.hard]

theorem straight_lookahead (negated : Bool) (word ahead : List Char) :
    (Tree.ofItems (lookaheadTrees negated word ahead)).Straight := by
  have hletters (text : List Char) : ∀ t ∈ text.map (Tree.literal · false), t.Straight :=
    List.forall_mem_map.mpr fun _ _ => trivial
  have hlook : (Tree.look .ahead negated (.ofText ahead)).Straight :=
    ⟨trivial, Tree.all_ofItems trivial (fun _ _ => trivial) (hletters ahead)⟩
  exact Tree.all_ofItems trivial (fun _ _ => trivial)
    (List.forall_mem_append.mpr ⟨hletters word, List.forall_mem_singleton.mpr hlook⟩)

end Planning

/-! ## Compiling -/

section Compiling

variable {negated : Bool} {word ahead : List Char}

theorem compile_lookaheadText (hword : ∀ c ∈ word, IsPlainChar c)
    (hahead : ∀ c ∈ ahead, IsPlainChar c) (hneWord : word ≠ []) (hneAhead : ahead ≠ [])
    (negated : Bool) :
    Program.compile false (lookaheadText negated word ahead) =
      .ok ⟨.hard (lookaheadPlan negated word ahead), []⟩ := by
  rw [compile_of_read (read_lookahead hword hahead), if_pos (hard_lookahead negated word ahead),
    plan_lookahead hneWord hneAhead]
  rfl

theorem compile_anchored_lookaheadText (hword : ∀ c ∈ word, IsPlainChar c)
    (hahead : ∀ c ∈ ahead, IsPlainChar c) (hneWord : word ≠ []) (hneAhead : ahead ≠ [])
    {pattern : String} (hpattern : pattern.toList = lookaheadText negated word ahead) :
    Program.compile false (anchoredPattern pattern).toList =
      .ok ⟨.hard (lookaheadPlan negated word ahead).anchored, []⟩ := by
  have hhard := hard_lookahead negated word ahead
  rw [compile_of_read (read_anchored_lookahead hword hahead hpattern),
    if_pos ((Tree.hard_anchored _ _).trans hhard), Tree.plan_anchored _ _ hhard,
    plan_lookahead hneWord hneAhead]
  rfl

end Compiling

end Extended

/-! ## Answers -/

/-- The pattern of a word that another one has to follow, or must not follow if it is `negated`. -/
def lookahead (negated : Bool) (word ahead : String) : String :=
  word ++ (if negated then "(?!" else "(?=") ++ ahead ++ ")"

theorem toList_lookahead (negated : Bool) (word ahead : String) :
    (lookahead negated word ahead).toList =
      Extended.lookaheadText negated word.toList ahead.toList := by
  cases negated <;> simp [lookahead, Extended.lookaheadText, Extended.aheadOpening]

/-- Whether that is what is answered, unless matching gives up. -/
def Answered {α : Type} (x : Except Failure α) (a : α) : Prop :=
  x = .error Program.gaveUp ∨ x = .ok a

/-- What a pattern answers that looks for a word and then ahead: only the word is matched, and it is
matched wherever it stands, one occurrence behind the other. -/
structure Compiled.LooksAhead (c : Compiled) (negated : Bool) (word ahead : List Char) : Prop where
  search (text : String) : c.search.isMatch text = .error Program.gaveUp ∨
    ∃ b, c.search.isMatch text = .ok b ∧
      (b = true ↔
        if negated then ∃ u v, text.toList = u ++ word ++ v ∧ ¬ahead <+: v
        else word ++ ahead <:+: text.toList)
  fullMatch (text : String) : Answered (c.fullMatch text) (negated && text.toList == word)
  findAll (text : String) : Answered (c.search.findAll text)
    ((occurrences (standsAhead negated word ahead) word.length 0 0 text.toList).map fun p =>
      (byteOffset text.toList p, byteOffset text.toList (p + word.length)))
  replaceAll (text : String) (replacement : List Char) :
    Answered (c.search.replaceAll text (String.ofList (doubled replacement)))
      (String.ofList (replaceOccurrences (standsAhead negated word ahead) word.length replacement 0
        text.toList))

section Answers

variable {negated : Bool} {word ahead text : List Char}

/-- Where a word stands with another one behind it, both stand as one. -/
theorem exists_standing_iff :
    (∃ u w v, text = u ++ (w ++ v) ∧
      Passages.standing (standsAhead negated word ahead) word.length w v) ↔
      if negated then ∃ u v, text = u ++ word ++ v ∧ ¬ahead <+: v else word ++ ahead <:+: text := by
  have hiff : (∃ u w v, text = u ++ (w ++ v) ∧
      Passages.standing (standsAhead negated word ahead) word.length w v) ↔
        ∃ u v, text = u ++ word ++ v ∧ (ahead <+: v ↔ negated = false) := by
    simp only [standing_iff]
    constructor
    · rintro ⟨u, _, v, rfl, rfl, h⟩
      exact ⟨u, v, (List.append_assoc ..).symm, h⟩
    · rintro ⟨u, v, rfl, h⟩
      exact ⟨u, word, v, List.append_assoc .., rfl, h⟩
  rw [hiff]
  cases negated with
  | true => simp
  | false =>
    simp only [iff_true, Bool.false_eq_true, if_false]
    constructor
    · rintro ⟨u, _, rfl, v, rfl⟩
      exact ⟨u, v, by simp⟩
    · rintro ⟨u, v, rfl⟩
      exact ⟨u, ahead ++ v, by simp, v, rfl⟩

theorem answered_answer {α : Type} {x : Option α} {a : α} (h : ∀ y, x = some y → y = a) :
    Answered (Program.answer x) a := by
  cases x with
  | none => exact Or.inl rfl
  | some y => exact Or.inr (congrArg _ (h y rfl))

/-- What is tested is whether the text is the word, with nothing behind it. -/
theorem standing_nil_iff (hahead : ahead ≠ []) :
    Passages.standing (standsAhead negated word ahead) word.length text [] ↔
      (negated && text == word) = true := by
  rw [standing_iff, List.prefix_nil, Bool.and_eq_true, beq_iff_eq, and_comm (b := text = word)]
  simp [hahead]

end Answers

section Compiling

open Extended (lookaheadPlan reads_lookaheadPlan leads_lookaheadPlan)

variable {word ahead : String} (hword : IsPlainText word) (hahead : IsPlainText ahead)
  (negated : Bool)

/-- The program that looks for a word and then ahead. -/
def lookaheadProgram (negated : Bool) (word ahead : String) : Program :=
  .extended ⟨.hard (lookaheadPlan negated word.toList ahead.toList), []⟩

include hword hahead

theorem build_lookahead : Backend.extended.build false (lookahead negated word ahead) =
    .ok (lookaheadProgram negated word ahead) := by
  have hcompile := Extended.compile_lookaheadText hword.2 hahead.2 hword.toList_ne_nil
    hahead.toList_ne_nil negated
  simp only [Backend.build, toList_lookahead, hcompile]
  rfl

theorem buildAnchored_lookahead :
    Backend.extended.buildAnchored false (lookahead negated word ahead) =
      .ok (.extended ⟨.hard (lookaheadPlan negated word.toList ahead.toList).anchored, []⟩) := by
  have hcompile := Extended.compile_anchored_lookaheadText hword.2 hahead.2 hword.toList_ne_nil
    hahead.toList_ne_nil (toList_lookahead negated word ahead)
  simp only [Backend.buildAnchored, Backend.build, hcompile]

/-- It gives up or visits the occurrences. -/
theorem visits_lookahead (text : String) :
    ((lookaheadProgram negated word ahead).findAll text = .error Program.gaveUp ∧
      ∀ replacement, (lookaheadProgram negated word ahead).replaceAll text replacement =
        .error Program.gaveUp) ∨
    (lookaheadProgram negated word ahead).Visits text
      ((occurrences (standsAhead negated word.toList ahead.toList) word.toList.length 0 0
        text.toList).map (matchAt word.toList.length)) := by
  have hreads := reads_lookaheadPlan hword.toList_ne_nil hahead.toList_ne_nil negated
  have hfits := fits_standsAhead hword.toList_ne_nil negated ahead.toList
  have hstraight (source : Extended.Source)
      (hsource : Extended.Source.read (lookahead negated word ahead).toList = .ok source) :
      source.tree.Straight := by
    rw [toList_lookahead, Extended.read_lookahead hword.2 hahead.2] at hsource
    cases hsource
    exact Extended.straight_lookahead ..
  obtain ⟨-, ⟨hfind, -, hreplace⟩ | ⟨ms, hms⟩⟩ :=
    Program.exists_visits (build_lookahead hword hahead negated) (fun _ => hstraight) text
  · exact Or.inl ⟨hfind, hreplace⟩
  · have heq := hreads.findAll_occurrences (leads_lookaheadPlan negated word.toList ahead.toList)
      hfits (Program.answer_eq_ok.mp (hms.replaced []))
    exact Or.inr (heq ▸ hms)

theorem replaceAll_lookahead (text : String) (replacement : List Char) :
    Answered ((lookaheadProgram negated word ahead).replaceAll text
        (String.ofList (doubled replacement)))
      (String.ofList (replaceOccurrences (standsAhead negated word.toList ahead.toList)
        word.toList.length replacement 0 text.toList)) := by
  have hfits := fits_standsAhead hword.toList_ne_nil negated ahead.toList
  refine (visits_lookahead hword hahead negated text).imp (·.2 _) fun hvisits => ?_
  have hsplice := splice_occurrences hfits replacement (Nat.le_refl 0)
    (Nat.zero_le text.toList.length)
  rw [List.drop_zero, slice_self, List.nil_append] at hsplice
  rw [hvisits.replaceAll, String.toList_ofList,
    funext (Program.expansion_doubled _ text.toList replacement), hsplice]

/-- **Looking ahead takes nothing.** A plain word that is looked for where another one follows it,
or where it does not, compiles to a pattern that matches the word and only the word, wherever it
stands so. -/
theorem Backend.compile_lookahead :
    ∃ c, Backend.extended.compile (lookahead negated word ahead) false = .ok c ∧
      c.LooksAhead negated word.toList ahead.toList := by
  have hc := compile_eq_ok.mpr ⟨_, build_lookahead hword hahead negated, rfl⟩
  have hreads := reads_lookaheadPlan hword.toList_ne_nil hahead.toList_ne_nil negated
  refine ⟨_, hc, fun text => ?_, fun text => ?_, fun text => ?_,
    replaceAll_lookahead hword hahead negated⟩
  · cases hb : (Extended.Program.mk
        (.hard (lookaheadPlan negated word.toList ahead.toList)) []).isMatch text.toList with
    | none => exact Or.inl (congrArg Program.answer hb)
    | some b =>
      exact Or.inr ⟨b, congrArg Program.answer hb, (hreads.search_iff hb).trans exists_standing_iff⟩
  · rw [Compiled.fullMatch_of_compile hc, buildAnchored_lookahead hword hahead negated]
    refine answered_answer fun b hb => ?_
    rw [Bool.eq_iff_iff, ← standing_nil_iff hahead.toList_ne_nil]
    exact hreads.covering_iff hb
  · refine (visits_lookahead hword hahead negated text).imp (·.1) fun h => ?_
    exact h.listed.trans (congrArg _ (List.map_map ..))

end Compiling

/-- What follows one occurrence may be the beginning of the next one, and occurrences overlap: the
first one is followed, the last one is not, and the one between them begins where the first one has
not ended yet. -/
theorem Backend.compile_lookahead_of_overlapping :
    (∃ c, Backend.extended.compile "aba(?=ba)" false = .ok c ∧
        c.LooksAhead false "aba".toList "ba".toList ∧
        c.search.findAll "abababa" = .ok [(0, 3)]) ∧
      ∃ c, Backend.extended.compile "aba(?!ba)" false = .ok c ∧
        c.LooksAhead true "aba".toList "ba".toList ∧
        c.search.findAll "abababa" = .ok [(4, 7)] := by
  have hword : IsPlainText "aba" := by decide
  have hahead : IsPlainText "ba" := by decide
  have hfind : (Backend.extended.compile "aba(?=ba)" false).bind (·.search.findAll "abababa") =
      .ok [(0, 3)] := by decide +kernel
  have hfind' : (Backend.extended.compile "aba(?!ba)" false).bind (·.search.findAll "abababa") =
      .ok [(4, 7)] := by decide +kernel
  obtain ⟨c, hc, h⟩ := Backend.compile_lookahead hword hahead false
  obtain ⟨c', hc', h'⟩ := Backend.compile_lookahead hword hahead true
  rw [show "aba(?=ba)" = lookahead false "aba" "ba" from rfl, hc] at hfind
  rw [show "aba(?!ba)" = lookahead true "aba" "ba" from rfl, hc'] at hfind'
  exact ⟨⟨c, hc, h, hfind⟩, c', hc', h', hfind'⟩

end Verbal
