import Verbal.Proofs.Extended.Additions
import Verbal.Proofs.Extended.Passages

/-!
# Words with signs in extended patterns

An extended pattern does not read stacked signs one by one. A plus behind a sign says that no round
is given back, and another sign has nothing to repeat. So a word with its signs is an item that is
repeated once at most, and then perhaps kept as it is.

* `read_factors`: words with their signs are read as one item each, or refused.
* **`plans_factors`**: if a sign is kept from giving back, what is read is planned to lead over the
  passages of the words.
* `hard_factors`, `cooks_factors`: if none is, what is read is easy and made into their
  expressions.
-/

namespace Verbal

open Extended in
/-- The item that a word with its signs is read as. -/
def Factor.tree (f : Factor) : Tree :=
  match f.signs with
  | [] => (Tree.ofText f.word.toList).enclosed
  | [q] => .repetition q.least none true (Tree.ofText f.word.toList).enclosed
  | q :: _ => .atomic (.repetition q.least none true (Tree.ofText f.word.toList).enclosed)

namespace Extended

open Verbal.Regular (Regex)

/-! ## Reading -/

section Reading

variable {d : Draft} {rest pattern : List Char} {f : Factor} {fs : List Factor}

theorem isTame_texts (fs : List Factor) : IsTame (fs.flatMap Factor.text) := by
  cases fs with
  | nil => exact isTame_nil
  | cons f fs =>
    rw [List.flatMap_cons, Factor.text, List.append_assoc]
    exact isTame_group _

/-- A word with its signs is read as one item, or refused. -/
theorem run_factor (hd : d.Ready 62) (hf : IsPlainText f.word) (hs : IsTame rest) :
    run d (f.text ++ rest) =
      if f.Legible then run (d.add [f.tree]) rest else .error .targetInvalid := by
  obtain ⟨word, signs⟩ := f
  obtain ⟨hne, hrepeatable⟩ := enclosed_ofText (t := word.toList) (by simpa using hf.1)
  have htext : (Factor.mk word signs).text ++ rest =
      "(?:".toList ++ (word.toList ++ ')' :: (signs.map Sign.char ++ rest)) := by
    simp [Factor.text]
  have hcount (q : Sign) : countOf? q.char = some ⟨q.least, none⟩ := by cases q <;> rfl
  have hrefused (t : Tree) (q : Sign) (s : List Char) :
      run (d.add [t]) (q.char :: s) = .error .targetInvalid :=
    run_mark_of_pending (hd.add _) (hcount q) rfl s
  rw [htext, run_charGroup hd hf.2]
  cases signs with
  | nil => exact (run_push hd hne hs).trans (if_pos (Or.inl rfl)).symm
  | cons q signs =>
    have hnext : (signs.map Sign.char ++ rest).head? ≠ some '?' ∧
        ¬"(?#".toList <+: signs.map Sign.char ++ rest := by
      cases signs with
      | nil => exact ⟨hs.1 '?' (by simp), hs.2⟩
      | cons q' signs => cases q' <;> simp [Sign.char]
    rw [List.map_cons, List.cons_append,
      run_marks hd _ (hcount q) hrepeatable hnext.1 hnext.2]
    obtain - | ⟨_ | _, signs⟩ := signs
    · exact (if_neg (hs.1 '+' (by simp))).trans (if_pos (Or.inl rfl)).symm
    · have hillegible : ¬(Factor.mk word (q :: .star :: signs)).Legible := by
        simp [Factor.Legible, Factor.Possessive]
      exact (if_neg (by simp [Sign.char])).trans
        ((hrefused _ .star _).trans (if_neg hillegible).symm)
    · cases signs with
      | nil => exact (if_pos rfl).trans (if_pos (Or.inr rfl)).symm
      | cons q' signs =>
        have hillegible : ¬(Factor.mk word (q :: .plus :: q' :: signs)).Legible := by
          simp [Factor.Legible, Factor.Possessive]
        exact (if_pos rfl).trans ((hrefused _ q' _).trans (if_neg hillegible).symm)

/-- Words with their signs are read as one item each, or refused. -/
theorem run_factors (hd : d.Ready 0) (hfs : ∀ f ∈ fs, IsPlainText f.word) :
    run d (fs.flatMap Factor.text) =
      if ∀ f ∈ fs, f.Legible then (d.add (fs.map Factor.tree)).finish
      else .error .targetInvalid := by
  induction fs generalizing d with
  | nil =>
    rw [if_pos (List.forall_mem_nil _), List.map_nil, Draft.add_nil, Draft.finish_flush]
    exact run_nil hd
  | cons f fs ih =>
    obtain ⟨hf, hfs⟩ := List.forall_mem_cons.mp hfs
    rw [List.flatMap_cons, run_factor (hd.mono (Nat.zero_le _)) hf (isTame_texts fs),
      ih (hd.add _) hfs, Draft.add_add]
    by_cases hlegible : f.Legible
    · simp [hlegible]
    · simp [hlegible]

/-- **What is read of words with signs.** -/
theorem read_factors (hpattern : pattern = fs.flatMap Factor.text)
    (hfs : ∀ f ∈ fs, IsPlainText f.word) :
    Source.read pattern =
      if ∀ f ∈ fs, f.Legible then .ok ⟨.ofItems (fs.map Factor.tree), [], []⟩
      else .error .targetInvalid := by
  have hready := Draft.ready_start pattern
  have hbody : ((Draft.start pattern).add (fs.map Factor.tree)).body =
      .ofItems (fs.map Factor.tree) := Draft.body_add rfl rfl _
  have hrun := run_factors hready hfs
  rw [(hready.add _).finish, hbody, ← hpattern] at hrun
  exact hrun

end Reading

/-! ## Planning -/

/-- Whether a plan is made that leads over the given passages, unless a part of it is too large. -/
def Plans (x : Except Fault (Plan Part)) (passages : Passages) : Prop :=
  x = .error .partTooLarge ∨ ∃ plan, x = .ok plan ∧ plan.Reads passages

theorem Plans.seq {x y : Except Fault (Plan Part)} {passages passages' : Passages}
    (hx : Plans x passages) (hy : Plans y passages') :
    Plans (x.bind fun a => y.bind fun b => .ok (.seq a b)) (passages.andThen passages') := by
  rcases hx with rfl | ⟨a, rfl, ha⟩
  · exact Or.inl rfl
  · rcases hy with rfl | ⟨b, rfl, hb⟩
    · exact Or.inl rfl
    · exact Or.inr ⟨_, rfl, ha.seq hb⟩

theorem Plans.map {x : Except Fault (Plan Part)} {passages passages' : Passages}
    {make : Plan Part → Plan Part} (hx : Plans x passages)
    (hmake : ∀ plan, plan.Reads passages → (make plan).Reads passages') :
    Plans (x.map make) passages' := by
  rcases hx with rfl | ⟨plan, rfl, hplan⟩
  · exact Or.inl rfl
  · exact Or.inr ⟨_, rfl, hmake plan hplan⟩

/-- What is made into regular patterns of constant size is planned to be matched as one. -/
theorem plans_planPart {ts : List Tree} {rs : List Regex} {n : Nat} {l : Language Char}
    (hfixed : ∀ t ∈ ts, t.Fixed []) (hcooks : List.Forall₂ (Tree.Cooks false n) ts rs)
    (hn : n + 1 ≤ Regular.nestingLimit) (hl : (Regex.sequence rs).Reads l) :
    Plans (planPart ts) (.ofLanguage l) := by
  cases hplan : planPart ts with
  | error fault => exact Or.inl (congrArg _ (Tree.eq_of_planPart_eq_error hcooks hn hplan))
  | ok plan =>
    have hr := (Tree.cooks_ofItems hcooks).regex (Tree.fixed_ofItems hfixed).easy.1.2
    exact Or.inr ⟨plan, rfl, Plan.reads_planPart hfixed hplan hr hl⟩

section Planning

variable {f : Factor} {fs gs : List Factor} {word : List Char}

/-! ### Words -/

theorem fixed_word (word : List Char) : (Tree.ofText word).enclosed.Fixed [] :=
  (Tree.fixed_ofItems (List.forall_mem_map.mpr fun c _ => Tree.fixed_literal false c)).enclosed

theorem plans_word (word : List Char) :
    Plans ((Tree.ofText word).enclosed.plan [] .alone true) (.ofLanguage (spelled false word)) := by
  rw [Tree.plan_enclosed, Tree.ofText, Tree.plan_letters]
  exact plans_planPart (List.forall_mem_map.mpr fun c _ => Tree.fixed_literal false c)
    (Tree.forall₂_cooks_literals false 0 word) (by decide) (Regex.reads_ofText false word)

theorem cooks_word (anyCase : Bool) (word : List Char) :
    (Tree.ofText word).enclosed.Cooks anyCase 2 (.ofText anyCase word) :=
  (Tree.cooks_ofText anyCase word).enclosed

/-! ### Words with signs -/

theorem cooks_sign (anyCase : Bool) (hword : word ≠ []) (q : Sign) :
    (Tree.repetition q.least none true (Tree.ofText word).enclosed).Cooks anyCase 4
      (q.regex (.ofText anyCase word)) := by
  have hcount : Tree.countOf q.least none = .ok ⟨q.least, none⟩ := by cases q <;> rfl
  exact (cooks_word anyCase word).repetition (Regular.Ast.onlyEmpty_ofText hword) ⟨q.least, none⟩
    hcount nofun

/-- One sign makes rounds of a word. -/
theorem plans_sign (hword : word ≠ []) (q : Sign) :
    Plans ((Tree.repetition q.least none true (Tree.ofText word).enclosed).plan [] .alone true)
      (.ofLanguage (q.language (spelled false word))) := by
  have hplan : (Tree.repetition q.least none true (Tree.ofText word).enclosed).plan [] .alone true =
      ((Tree.ofText word).enclosed.plan [] .alone true).map fun a =>
        .seq (.times q.least a) (.star true a) := by
    cases q <;> rfl
  rw [hplan, q.language_eq]
  exact (plans_word word).map fun plan h =>
    h.fromOn (fun hnil => hword (Regex.mem_spelled.mp hnil).symm) q.least true

/-- A plus behind it makes one part of them. -/
theorem plans_possessive (hword : word ≠ []) (q : Sign) :
    Plans ((Tree.atomic
        (.repetition q.least none true (Tree.ofText word).enclosed)).plan [] .alone true)
      fun w v => w ∈ q.language (spelled false word) ∧ ¬word <+: v := by
  have hcooks := cooks_sign false hword q
  have hplan : (Tree.atomic
      (.repetition q.least none true (Tree.ofText word).enclosed)).plan [] .alone true =
        (planPart [.repetition q.least none true (Tree.ofText word).enclosed]).map .atomic := by
    have heasy : (Tree.ofText word).enclosed.hard [] = false := hcooks.easy
    simp only [Tree.plan, Tree.planAt, Tree.hard, heasy]
    rfl
  rw [hplan]
  cases hpart : planPart [.repetition q.least none true (Tree.ofText word).enclosed] with
  | error fault =>
    exact Or.inl (congrArg _
      (Tree.eq_of_planPart_eq_error (.cons hcooks .nil) (by decide) hpart))
  | ok part =>
    have hlettered : (Tree.repetition q.least none true (Tree.ofText word).enclosed).Lettered :=
      ⟨trivial, (fixed_word word).easy.1.2⟩
    obtain ⟨r, hr, rfl⟩ := regex_of_planPart (List.forall_mem_singleton.mpr hlettered)
      (List.cons_ne_nil _ _) hpart
    obtain rfl := Option.some.inj (hr.symm.trans (hcooks.regex hlettered))
    exact Or.inr ⟨_, rfl, Plan.reads_atomic hword q _⟩

/-- **A word with its signs** is planned to lead over its passages. -/
theorem plans_factor (hword : f.word ≠ "") (hf : f.Legible) :
    Plans (f.tree.plan [] .alone true) (f.passages false) := by
  obtain ⟨word, signs⟩ := f
  have hne : word.toList ≠ [] := by simpa using hword
  cases signs with
  | nil =>
    rw [Factor.passages_eq false ⟨word, []⟩ nofun]
    exact plans_word word.toList
  | cons q signs =>
    rcases hf with htail | htail
    · obtain rfl : signs = [] := htail
      rw [Factor.passages_eq false ⟨word, [q]⟩ nofun]
      exact plans_sign hne q
    · obtain rfl : signs = [.plus] := htail
      have hpassages : (Factor.mk word [q, .plus]).passages false = fun w v =>
          w ∈ q.language (spelled false word.toList) ∧ ¬word.toList <+: v := by
        funext w v
        have hlanguage : (Factor.mk word [q, .plus]).language false =
            q.language (spelled false word.toList) := q.language_plus _
        rw [Factor.passages, hlanguage]
        refine propext (and_congr_right fun _ => ⟨fun h => h rfl _ (Regex.mem_spelled.mpr rfl), ?_⟩)
        rintro h - _ hround
        rwa [Regex.mem_spelled.mp hround]
      rw [hpassages]
      exact plans_possessive hne q

/-! ### Sequences -/

theorem isItem_tree (f : Factor) : f.tree.IsItem := by
  unfold Factor.tree
  split
  · exact Tree.isItem_enclosed _
  · rfl
  · rfl

theorem sound_tree (f : Factor) : f.tree.Sound [] := by
  have hword := (fixed_word f.word.toList).easy.1
  unfold Factor.tree
  split
  · exact hword
  · exact ⟨⟨trivial, hword.1⟩, trivial, hword.2⟩
  · exact ⟨⟨trivial, trivial, hword.1⟩, trivial, trivial, hword.2⟩

/-- A word alone can be matched as one with what stands beside it, and with signs it cannot. -/
theorem fixed_tree_iff (f : Factor) : f.tree.Fixed [] ↔ f.signs = [] := by
  constructor
  · intro h
    unfold Factor.tree at h
    split at h
    · assumption
    · have hconst := (Bool.and_eq_true_iff.mp h.const).2
      cases hconst
    · cases h.easy.2
  · intro h
    unfold Factor.tree
    rw [h]
    exact fixed_word _

theorem plans_words (h : ∀ f ∈ fs, f.signs = []) :
    Plans (planPart (fs.map Factor.tree)) (.ofFactors false fs) := by
  have hfixed : ∀ t ∈ fs.map Factor.tree, t.Fixed [] :=
    List.forall_mem_map.mpr fun f hf => (fixed_tree_iff f).mpr (h f hf)
  have hcooks : List.Forall₂ (Tree.Cooks false 2) (fs.map Factor.tree)
      (fs.map (Factor.regex false)) := by
    rw [List.forall₂_map_left_iff, List.forall₂_map_right_iff, List.forall₂_same]
    intro f hf
    rw [Factor.tree, Factor.regex, h f hf]
    exact cooks_word false _
  have hpassages : ∀ f ∈ fs, ¬f.Possessive := fun f hf hp => by
    rw [Factor.Possessive, h f hf] at hp
    cases hp
  rw [Passages.ofFactors_eq false hpassages]
  exact plans_planPart hfixed hcooks (by decide) (Factor.reads_sequence false fs)

/-- **The end of a sequence** is planned to lead over its passages. -/
theorem plans_middle (hwords : ∀ f ∈ fs, f.word ≠ "") (hfs : ∀ f ∈ fs, f.Legible)
    (hne : fs ≠ []) :
    Plans ((Tree.ofItems (fs.map Factor.tree)).plan [] .middle true) (.ofFactors false fs) := by
  have hsound (fs : List Factor) : ∀ t ∈ fs.map Factor.tree, t.Sound [] :=
    List.forall_mem_map.mpr fun f _ => sound_tree f
  have hitem (fs : List Factor) : ∀ t ∈ fs.map Factor.tree, t.IsItem :=
    List.forall_mem_map.mpr fun f _ => isItem_tree f
  induction fs with
  | nil => exact absurd rfl hne
  | cons f fs ih =>
    obtain ⟨hword, hwords⟩ := List.forall_mem_cons.mp hwords
    obtain ⟨hf, hfs⟩ := List.forall_mem_cons.mp hfs
    by_cases hall : ∀ g ∈ f :: fs, g.signs = []
    · rw [Tree.plan_middle_fixed (hitem (f :: fs)) (List.cons_ne_nil _ _)
        (List.forall_mem_map.mpr fun g hg => (fixed_tree_iff g).mpr (hall g hg))]
      exact plans_words hall
    · have hfixed : ¬∀ t ∈ (f :: fs).map Factor.tree, t.Fixed [] := fun hfixed =>
        hall fun g hg => (fixed_tree_iff g).mp (hfixed _ (List.mem_map_of_mem hg))
      cases fs with
      | nil =>
        rw [Passages.ofFactors_singleton]
        change Plans (f.tree.plan [] .middle true) (f.passages false)
        rw [Tree.plan_middle_item (sound_tree f) (isItem_tree f)
          fun h => hfixed (List.forall_mem_singleton.mpr h)]
        exact plans_factor hword hf
      | cons g fs =>
        have hcons := Tree.plan_middle_cons (hsound (f :: g :: fs)) (hitem (f :: g :: fs)) hfixed
        rw [List.map_cons, List.map_cons, hcons]
        exact (plans_factor hword hf).seq (ih hwords hfs (List.cons_ne_nil g fs))

/-- **A sequence** is, with the words that wait in front of it. -/
theorem plans_front (hwords : ∀ f ∈ fs, f.word ≠ "") (hfs : ∀ f ∈ fs, f.Legible)
    (hne : fs ≠ []) (hgs : ∀ g ∈ gs, g.signs = []) :
    Plans ((Tree.ofItems (fs.map Factor.tree)).plan [] (.front (gs.map Factor.tree)) true)
      (.ofFactors false (gs ++ fs)) := by
  induction fs generalizing gs with
  | nil => exact absurd rfl hne
  | cons f fs ih =>
    by_cases hf : f.signs = []
    · have hgs : ∀ g ∈ gs ++ [f], g.signs = [] :=
        List.forall_mem_append.mpr ⟨hgs, List.forall_mem_singleton.mpr hf⟩
      have hfixed := (fixed_tree_iff f).mpr hf
      cases fs with
      | nil =>
        have hplan := Tree.plan_front_of_fixed hfixed (gs.map Factor.tree) true
        rw [show f.tree.items = [f.tree] from isItem_tree f, ← List.map_singleton,
          ← List.map_append] at hplan
        change Plans (f.tree.plan [] _ true) _
        rw [hplan]
        exact plans_words hgs
      | cons g fs =>
        have hfront := (Tree.isFront_iff (sound_tree f)).mpr hfixed
        change Plans ((Tree.concat f.tree (.ofItems ((g :: fs).map Factor.tree))).plan [] _ true) _
        rw [Tree.plan_front_concat, if_pos hfront, ← List.map_singleton, ← List.map_append,
          List.append_cons gs f (g :: fs)]
        exact ih (List.forall_mem_cons.mp hwords).2 (List.forall_mem_cons.mp hfs).2
          (List.cons_ne_nil g fs) hgs
    · have hitems : ∀ t ∈ (f :: fs).map Factor.tree, t.IsItem :=
        List.forall_mem_map.mpr fun f _ => isItem_tree f
      rw [Tree.plan_front_of_not, Passages.ofFactors_append]
      · exact (plans_words hgs).seq (plans_middle hwords hfs hne)
      · intro t ht
        rw [Tree.items_ofItems hitems (List.cons_ne_nil _ _)] at ht
        obtain rfl := Option.some.inj ht
        exact Bool.eq_false_iff.mpr fun hfront =>
          hf ((fixed_tree_iff f).mp ((Tree.isFront_iff (sound_tree f)).mp hfront))

/-- **Words with their signs** are planned to lead over their passages. -/
theorem plans_factors (hwords : ∀ f ∈ fs, f.word ≠ "") (hfs : ∀ f ∈ fs, f.Legible)
    (hne : fs ≠ []) :
    Plans ((Tree.ofItems (fs.map Factor.tree)).plan [] .alone true) (.ofFactors false fs) := by
  match fs with
  | [] => exact absurd rfl hne
  | [f] =>
    rw [Passages.ofFactors_singleton]
    exact plans_factor (hwords f (List.mem_singleton_self f)) (hfs f (List.mem_singleton_self f))
  | f :: g :: fs =>
    have hfront : (Tree.ofItems ((f :: g :: fs).map Factor.tree)).plan [] .alone true =
        (Tree.ofItems ((f :: g :: fs).map Factor.tree)).plan [] (.front []) true :=
      Tree.plan_alone_front Tree.isAnchor_nil (List.cons_ne_nil _ _) (by simp)
    rw [hfront]
    exact plans_front hwords hfs hne (List.forall_mem_nil _)

/-! ### Hard and easy ones -/

/-- Only a sign that is kept from giving back is left to trying. -/
theorem hard_factors (hfs : ∀ f ∈ fs, f.Legible) :
    (Tree.ofItems (fs.map Factor.tree)).hard [] = true ↔ ∃ f ∈ fs, f.Possessive := by
  have htree (f : Factor) (hf : f.Legible) : f.tree.hard [] = true ↔ f.Possessive := by
    have hword : (Tree.ofText f.word.toList).enclosed.hard [] = false := (fixed_word _).easy.2
    obtain ⟨word, signs⟩ := f
    cases signs with
    | nil => exact ⟨fun h => Bool.noConfusion (hword.symm.trans h), nofun⟩
    | cons q signs =>
      rcases hf with htail | htail
      · obtain rfl : signs = [] := htail
        exact ⟨fun h => Bool.noConfusion (hword.symm.trans h), nofun⟩
      · obtain rfl : signs = [.plus] := htail
        exact ⟨fun _ => rfl, fun _ => rfl⟩
  rw [Tree.any_hard_ofItems, List.any_map, List.any_eq_true]
  exact exists_congr fun f => and_congr_right fun hf => htree f (hfs f hf)

/-- **Words with one sign at most** are made into their expressions. -/
theorem cooks_factors (anyCase : Bool) (hwords : ∀ f ∈ fs, f.word ≠ "")
    (hfs : ∀ f ∈ fs, f.signs.tail = []) :
    (Tree.ofItems (fs.map Factor.tree)).Cooks anyCase 6
      (.sequence (fs.map (Factor.regex anyCase))) := by
  refine Tree.cooks_ofItems ?_
  rw [List.forall₂_map_left_iff, List.forall₂_map_right_iff, List.forall₂_same]
  intro f hf
  have hword : f.word.toList ≠ [] := by simpa using hwords f hf
  have htail := hfs f hf
  obtain ⟨word, signs⟩ := f
  cases signs with
  | nil => exact (cooks_word anyCase _).mono (by decide)
  | cons q signs =>
    obtain rfl : signs = [] := htail
    exact cooks_sign anyCase hword q

end Planning

end Extended

end Verbal
