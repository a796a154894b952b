import Verbal.Proofs.Extended.Steps

/-!
# Parts of extended patterns

A part of a pattern that can be read on its own is read in the same way wherever it stands: in
groups that are open, behind items of the same branch, and in front of a benign text. Only the
number of groups that may be open in one another is limited.

* **`readAll_placed`**: a run on its own is a run inside of its surroundings.
* `Carries`: one step of a run, of which `readStep_carries` is about all kinds.
-/

namespace Verbal.Extended

open Verbal.Regular (Repetition)

/-! ## Surroundings -/

/-- What stands around a part of a pattern: the groups that are open, the items in front of it, the
last one first, and the length of all that is encoded. -/
structure Surroundings where
  levels : List Level
  front : List Tree
  byteLength : Nat

/-- Branches and items, the last ones first, with more items in front of the first branch. -/
inductive Behind (front : List Tree) : List Tree → List Tree → List Tree → List Tree → Prop
  | first (items : List Tree) : Behind front [] items [] (items ++ front)
  | later (branches items first : List Tree) :
    Behind front (branches ++ [Tree.ofItems first.reverse]) items
      (branches ++ [Tree.ofItems (first ++ front).reverse]) items

/-- The open groups of a part of a pattern, with the branches and items of the innermost one, inside
of its surroundings. -/
inductive Frames (around : Surroundings) :
    List Level → List Tree → List Tree → List Level → List Tree → List Tree → Prop
  | bottom {branches items branches' items' : List Tree}
    (h : Behind around.front branches items branches' items') :
    Frames around [] branches items around.levels branches' items'
  | above {levels levels' : List Level} {outer outer' before before' : List Tree}
    (kind : LevelKind) (branches items : List Tree)
    (h : Frames around levels outer before levels' outer' before') :
    Frames around (⟨kind, outer, before⟩ :: levels) branches items
      (⟨kind, outer', before'⟩ :: levels') branches items

namespace Frames

variable {around : Surroundings} {levels levels' : List Level}
  {branches items branches' items' : List Tree}

theorem cons (h : Frames around levels branches items levels' branches' items') (t : Tree) :
    Frames around levels branches (t :: items) levels' branches' (t :: items') := by
  cases h with
  | bottom h =>
    cases h with
    | first items => exact .bottom (.first (t :: items))
    | later branches items first => exact .bottom (.later branches (t :: items) first)
  | above kind branches items h => exact .above kind branches (t :: items) h

theorem branch (h : Frames around levels branches items levels' branches' items') :
    Frames around levels (Tree.ofItems items.reverse :: branches) []
      levels' (Tree.ofItems items'.reverse :: branches') [] := by
  cases h with
  | bottom h =>
    cases h with
    | first items => exact .bottom (.later [] [] items)
    | later branches items first => exact .bottom (.later (_ :: branches) [] first)
  | above kind branches items h => exact .above kind _ [] h

theorem isEmpty_branches (h : Frames around levels branches items levels' branches' items') :
    branches'.isEmpty = branches.isEmpty := by
  cases h with
  | bottom h =>
    cases h with
    | first items => rfl
    | later branches items first => cases branches <;> rfl
  | above kind branches items h => rfl

theorem levels_cons {level : Level}
    (h : Frames around (level :: levels) branches items levels' branches' items') :
    ∃ outer before rest, levels' = ⟨level.kind, outer, before⟩ :: rest ∧ branches' = branches ∧
      items' = items ∧ Frames around levels level.branches level.items rest outer before := by
  cases h with
  | above kind branches items h => exact ⟨_, _, _, rfl, rfl, rfl, h⟩

theorem levels_nil (h : Frames around [] branches items levels' branches' items') :
    levels' = around.levels ∧ Behind around.front branches items branches' items' := by
  cases h with
  | bottom h => exact ⟨rfl, h⟩

theorem length_levels (h : Frames around levels branches items levels' branches' items') :
    levels'.length = levels.length + around.levels.length := by
  induction h with
  | bottom h => exact (Nat.zero_add _).symm
  | above kind branches items h ih =>
    rw [List.length_cons, List.length_cons, ih, Nat.add_right_comm]

end Frames

/-- Whether a draft is what has been read of a part of a pattern inside of its surroundings. -/
structure Placed (around : Surroundings) (d e : Draft) : Prop where
  frames : Frames around d.levels d.branches d.items e.levels e.branches e.items
  scope : e.scope = { d.scope with byteLength := around.byteLength }
  byteLength : d.scope.byteLength ≤ around.byteLength
  pending : e.pending = d.pending
  flags : e.flags = d.flags
  numbered : e.numbered = d.numbered
  referred : e.referred = d.referred
  unopened : e.unopened = d.unopened

namespace Placed

variable {around : Surroundings} {d e : Draft}

theorem names (h : Placed around d e) : e.scope.names = d.scope.names := by rw [h.scope]

theorem groups (h : Placed around d e) : e.scope.groups = d.scope.groups := by rw [h.scope]

theorem flush (h : Placed around d e) : Placed around d.flush e.flush := by
  have hpending := h.pending
  unfold Draft.flush
  rw [hpending]
  split
  · exact h
  · exact { h with pending := rfl }
  · exact { h with frames := h.frames.cons _, pending := rfl }

theorem push (h : Placed around d e) (t : Tree) : Placed around (d.push t) (e.push t) :=
  { h.flush with pending := rfl }

theorem branch (h : Placed around d e) : Placed around d.branch e.branch :=
  { h.flush with frames := h.flush.frames.branch }

theorem openLevel (h : Placed around d e) (kind : LevelKind) :
    Placed around (d.openLevel kind) (e.openLevel kind) :=
  { h.flush with frames := .above kind [] [] h.flush.frames }

theorem openCapture (h : Placed around d e) : Placed around d.openCapture e.openCapture := by
  have hlevel := h.openLevel (.capture (d.scope.groups + 1))
  unfold Draft.openCapture
  dsimp only
  rw [h.groups]
  refine { hlevel with scope := ?_, byteLength := h.byteLength }
  rw [h.scope]

theorem openNamed (h : Placed around d e) (name : List Char) :
    Placed around (d.openNamed name) (e.openNamed name) := by
  have hcapture := h.openCapture
  refine { hcapture with scope := ?_, byteLength := hcapture.byteLength }
  simp only [Draft.openNamed, hcapture.scope]

theorem refer (h : Placed around d e) (index : Nat) (numbered : Bool) :
    Placed around (d.refer index numbered) (e.refer index numbered) := by
  refine { h with numbered := ?_, referred := ?_, unopened := ?_ }
  · simp only [Draft.refer, h.numbered]
  · simp only [Draft.refer, h.referred]
  · simp only [Draft.refer, h.unopened, h.groups]

theorem setFlags (h : Placed around d e) (flags : Flags) :
    Placed around { d with flags := flags } { e with flags := flags } :=
  { h with flags := rfl }

theorem pushEscaped (h : Placed around d e) (x : Escaped) :
    Placed around (d.pushEscaped x) (e.pushEscaped x) := by
  cases x with
  | letter c folds => simpa only [Draft.pushEscaped, h.flags] using h.push _
  | fragment text folds => simpa only [Draft.pushEscaped, h.flags] using h.push _
  | assertion look => exact h.push _
  | backref index numbered => exact (h.refer index numbered).push _
  | keepOut => exact h.push _
  | contiguous => exact h.push _

/-- Adds an item behind those that no repetition can follow. -/
theorem addItem (h : Placed around d e) (t : Tree) :
    Placed around { d with items := t :: d.items, pending := none }
      { e with items := t :: e.items, pending := none } :=
  { h with frames := h.frames.cons t, pending := rfl }

theorem checkEnd (h : Placed around d e) : e.checkEnd = d.checkEnd := by
  unfold Draft.checkEnd
  rw [h.frames.isEmpty_branches, h.numbered, h.names]

theorem frames_flush (h : Placed around d e) :
    Frames around d.levels d.branches d.flush.items e.levels e.branches e.flush.items := by
  have hframes := h.flush.frames
  have hflush (d : Draft) : d.flush.levels = d.levels ∧ d.flush.branches = d.branches := by
    rw [Draft.flush_eq]
    exact ⟨rfl, rfl⟩
  rwa [(hflush d).1, (hflush e).1, (hflush d).2, (hflush e).2] at hframes

/-- In a group that was opened in the part, all of the group is the same. -/
theorem leave (h : Placed around d e) {level : Level} {levels : List Level}
    (hlevels : d.levels = level :: levels) :
    ∃ level' levels', e.levels = level' :: levels' ∧ level'.kind = level.kind ∧
      e.body = d.body ∧ Placed around (d.leave level levels) (e.leave level' levels') := by
  have hframes := h.frames_flush
  rw [hlevels] at hframes
  obtain ⟨outer, before, levels', hlevels', hbranches, hitems, hrest⟩ := hframes.levels_cons
  refine ⟨_, levels', hlevels', rfl, ?_, { h with frames := hrest, pending := rfl }⟩
  unfold Draft.body
  rw [hbranches, hitems]

end Placed

/-! ## Steps -/

/-- Whether a reader that made a draft of another one makes the same of it inside of surroundings,
with more text behind. What it skipped at the end of its text, where more text stands now, is left
to be skipped with that. Too many groups may be open in one another, which depends on nothing but
how many are open around. -/
def Carries (d d' : Draft) (s r : List Char)
    (read : Draft → List Char → Except Fault (Draft × List Char)) : Prop :=
  ∃ b, (r = [] ∨ b = []) ∧ b <:+ s ∧ Gap.outside.skip d'.flags.verbose b = .ok [] ∧
    ∃ deep : Nat → Prop, ∀ around e t, Placed around d e → Benign t →
      deep around.levels.length ∧ read e (s ++ t) = .error .nestingTooDeep ∨
        ¬deep around.levels.length ∧ ∃ e' r', Placed around d' e' ∧
          read e (s ++ t) = .ok (e', r') ∧ readAll e' r' = readAll e' (r ++ (b ++ t))

section Steps

variable {d d' : Draft} {s r : List Char}

/-- A reader that looked no further than it read. -/
theorem carries_of_append {read : Draft → List Char → Except Fault (Draft × List Char)}
    (h : ∀ around e t, Placed around d e → Benign t →
      ∃ e', Placed around d' e' ∧ read e (s ++ t) = .ok (e', r ++ t)) :
    Carries d d' s r read := by
  refine ⟨[], Or.inr rfl, List.nil_suffix, by cases d'.flags.verbose <;> rfl, fun _ => False,
    fun around e t he ht => Or.inr ⟨not_false, ?_⟩⟩
  obtain ⟨e', he', hread⟩ := h around e t he ht
  exact ⟨e', r ++ t, he', hread, rfl⟩

/-! ### Repetitions -/

theorem readMark_append {mark : Char} {t : List Char} (ht : t.head? ≠ some mark) :
    (readMark mark (s ++ t)).1 = (readMark mark s).1 ∧
      (readMark mark (s ++ t)).2.1 = (readMark mark s).2.1 ++ t := by
  have hs := readMark_text mark s
  have hst := readMark_text mark (s ++ t)
  cases s with
  | nil =>
    rw [List.nil_append, if_neg ht] at hst
    rw [if_neg nofun] at hs
    simp_all
  | cons c s =>
    by_cases hc : c = mark
    · simp_all
    · simp_all

theorem repeatedItem_append (count : Repetition) (item : Tree) {t : List Char} (ht : Benign t)
    {e : Draft} (hflags : e.flags = d.flags) :
    repeatedItem e count item (s ++ t) =
      ((repeatedItem d count item s).1, (repeatedItem d count item s).2 ++ t) := by
  obtain ⟨hreluctant, hrest⟩ := readMark_append (s := s) (ht.head_ne (c := '?') (by decide))
  obtain ⟨hpossessive, hrest'⟩ := readMark_append (s := (readMark '?' s).2.1)
    (ht.head_ne (c := '+') (by decide))
  unfold repeatedItem
  dsimp only
  rw [hrest, hpossessive, hrest', hreluctant, hflags]

theorem readRepeated_carries {count : Repetition}
    (h : (readRepeated d count s).text = .ok (d', r)) :
    Carries d d' s r fun e s => (readRepeated e count s).text := by
  rw [readRepeated_text] at h
  cases hpending : d.pending with
  | none => rw [hpending] at h; cases h
  | some item =>
    rw [hpending] at h
    dsimp only at h
    split at h
    · cases h
    · rename_i hitem
      obtain ⟨u, hu, heq⟩ := map_eq_ok.mp h
      cases heq
      refine ⟨if u = [] then s else [], ?_, ?_, ?_, fun _ => False,
        fun around e t he ht => Or.inr ⟨not_false, ?_⟩⟩
      · split
        · rename_i hnil
          rw [hnil]
          exact Or.inl rfl
        · exact Or.inr rfl
      · split
        · exact List.suffix_rfl
        · exact List.nil_suffix
      · split
        · rename_i hnil
          rw [← hnil]
          exact hu
        · cases d.flags.verbose <;> rfl
      · obtain ⟨x, hx, hbenign, hne⟩ := skip_append hu ht
        rw [← he.flags] at hx
        refine ⟨_, (repeatedItem d count item u).2 ++ x,
          he.addItem (repeatedItem d count item u).1, ?_, ?_⟩
        · dsimp only
          rw [readRepeated_text, he.pending, hpending]
          dsimp only
          rw [if_neg hitem, hx]
          dsimp only [Except.map]
          rw [repeatedItem_append count item hbenign he.flags]
        · by_cases hnil : u = []
          · subst hnil
            rw [if_pos rfl]
            exact (readAll_of_skip (d := { e with items := _, pending := none }) hx).symm
          · rw [if_neg hnil, hne hnil]
            rfl

/-! ### Groups -/

theorem conditionalText_append {condition : Tree}
    (h : conditionalText d condition s = .ok (d', r)) {around : Surroundings} {e : Draft}
    (he : Placed around d e) (t : List Char) :
    ∃ e', Placed around d' e' ∧ conditionalText e condition (s ++ t) = .ok (e', r ++ t) := by
  rcases conditionalText_eq_ok.mp h with ⟨index, rfl, rfl, hend, rfl⟩ | ⟨c, u, hc, rfl, rfl, rfl⟩
  · rw [← he.checkEnd] at hend
    exact ⟨_, he.push _, conditionalText_eq_ok.mpr (Or.inl ⟨index, rfl, rfl, hend, rfl⟩)⟩
  · exact ⟨_, he.openLevel _,
      conditionalText_eq_ok.mpr (Or.inr ⟨c, u ++ t, hc, rfl, rfl, rfl⟩)⟩

theorem referenceText_append {numbered : Bool} {index : Nat}
    (h : referenceText d numbered (index, s) = .ok (d', r)) {around : Surroundings} {e : Draft}
    (he : Placed around d e) (t : List Char) :
    ∃ e', Placed around d' e' ∧ referenceText e numbered (index, s ++ t) = .ok (e', r ++ t) := by
  obtain ⟨u, rfl, hu⟩ := referenceText_eq_ok.mp h
  exact conditionalText_append hu (he.refer index numbered) t

theorem readConditional_append (h : (readConditional d s).text = .ok (d', r))
    {around : Surroundings} {e : Draft} (he : Placed around d e) {t : List Char} (ht : Benign t) :
    ∃ e', Placed around d' e' ∧ (readConditional e (s ++ t)).text = .ok (e', r ++ t) := by
  rw [readConditional_text] at h ⊢
  cases s with
  | nil => cases h
  | cons c s =>
    simp only [List.cons_append, List.head?_cons] at h ⊢
    rw [he.scope]
    split_ifs at h ⊢
    · obtain ⟨⟨index, u⟩, hu, h⟩ := bind_eq_ok.mp h
      obtain ⟨e', he', hread⟩ := referenceText_append h he t
      exact ⟨e', he', bind_eq_ok.mpr ⟨_, readNumber_append hu he.byteLength ht, hread⟩⟩
    · obtain ⟨⟨index, u⟩, hu, h⟩ := bind_eq_ok.mp h
      obtain ⟨e', he', hread⟩ := referenceText_append h he t
      exact ⟨e', he', bind_eq_ok.mpr ⟨_, readQuoted_append hu around.byteLength t, hread⟩⟩
    · cases h
      exact ⟨_, he.openLevel _, rfl⟩

theorem groupText_append (h : groupText d s = .ok (d', r)) {around : Surroundings} {e : Draft}
    (he : Placed around d e) {t : List Char} (ht : Benign t) :
    ∃ e', Placed around d' e' ∧ groupText e (s ++ t) = .ok (e', r ++ t) := by
  have hdrop : (s ++ t).drop (opening s).2 = s.drop (opening s).2 ++ t :=
    List.drop_append_of_le_length (snd_opening_le s)
  unfold groupText at h ⊢
  rw [opening_append ht]
  dsimp only at h ⊢
  rw [hdrop]
  cases hopening : (opening s).1 with
  | level kind =>
    rw [hopening] at h
    cases h
    exact ⟨_, he.openLevel kind, rfl⟩
  | named =>
    rw [hopening] at h
    obtain ⟨⟨name, u⟩, hname, heq⟩ := map_eq_ok.mp h
    cases heq
    exact ⟨_, he.openNamed name, map_eq_ok.mpr ⟨_, readName_append hname t, rfl⟩⟩
  | reference =>
    rw [hopening] at h
    obtain ⟨⟨index, u⟩, hindex, heq⟩ := map_eq_ok.mp h
    cases heq
    refine ⟨_, (he.refer index false).push _, map_eq_ok.mpr ⟨(index, u ++ t), ?_, rfl⟩⟩
    rw [he.scope]
    exact readNamed_append hindex around.byteLength t
  | conditional =>
    rw [hopening] at h
    exact readConditional_append h he ht
  | flags =>
    rw [hopening] at h
    obtain ⟨⟨⟨flags, opens⟩, u⟩, hflags, heq⟩ := map_eq_ok.mp h
    cases heq
    cases opens with
    | true =>
      refine ⟨_, (he.openLevel (.plain d.flags)).setFlags flags,
        map_eq_ok.mpr ⟨((flags, true), u ++ t), ?_, ?_⟩⟩
      · rw [he.flags]
        exact readFlags_append hflags ht
      · rw [he.flags]
        rfl
    | false =>
      refine ⟨_, (he.push .empty).setFlags flags,
        map_eq_ok.mpr ⟨((flags, false), u ++ t), ?_, rfl⟩⟩
      rw [he.flags]
      exact readFlags_append hflags ht
  | capture =>
    rw [hopening] at h
    cases h
    exact ⟨_, he.openCapture, rfl⟩

/-- At the end of a text a parenthesis opens a capture group. -/
theorem groupText_of_benign {t : List Char} (ht : Benign t) :
    groupText d t = .ok (d.openCapture, t) := by
  have hopening := opening_append (s := []) ht
  unfold groupText
  rw [List.nil_append] at hopening
  rw [hopening]
  rfl

theorem readGroup_carries (h : (readGroup d s).text = .ok (d', r)) :
    Carries d d' s r fun e s => (readGroup e s).text := by
  rw [readGroup_text] at h
  split at h
  · cases h
  · obtain ⟨u, hu, h⟩ := bind_eq_ok.mp h
    -- one more group is open, and how many that makes depends on those around
    have hdeep {around : Surroundings} {e : Draft} (he : Placed around d e) :
        nestingBound ≤ e.levels.length + 1 ↔
          nestingBound ≤ d.levels.length + around.levels.length + 1 := by
      rw [he.frames.length_levels]
    by_cases hnil : u = []
    · subst hnil
      rw [groupText_of_benign benign_nil] at h
      cases h
      have hflags : d.openCapture.flags = d.flags := by
        change d.flush.flags = d.flags
        rw [Draft.flush_eq]
      refine ⟨s, Or.inl rfl, List.suffix_rfl, by rw [hflags]; exact hu,
        fun n => nestingBound ≤ d.levels.length + n + 1, fun around e t he ht => ?_⟩
      obtain ⟨x, hx, hbenign, -⟩ := skip_append hu ht
      dsimp only
      rw [readGroup_text, he.flags, hx]
      split
      · exact Or.inl ⟨(hdeep he).mp ‹_›, rfl⟩
      · refine Or.inr ⟨fun h => absurd ((hdeep he).mpr h) ‹_›, e.openCapture, x, he.openCapture,
          groupText_of_benign hbenign, ?_⟩
        refine (readAll_of_skip ?_).symm
        rw [he.openCapture.flags, hflags]
        exact hx
    · refine ⟨[], Or.inr rfl, List.nil_suffix, by cases d'.flags.verbose <;> rfl,
        fun n => nestingBound ≤ d.levels.length + n + 1, fun around e t he ht => ?_⟩
      obtain ⟨x, hx, -, hne⟩ := skip_append hu ht
      obtain rfl := hne hnil
      dsimp only
      rw [readGroup_text, he.flags, hx]
      split
      · exact Or.inl ⟨(hdeep he).mp ‹_›, rfl⟩
      · obtain ⟨e', he', hread⟩ := groupText_append h he ht
        exact Or.inr ⟨fun h => absurd ((hdeep he).mpr h) ‹_›, e', _, he', hread, rfl⟩

theorem closedText_append {body : Tree} {kind : LevelKind}
    (h : closedText d body s kind = .ok (d', r)) {around : Surroundings} {e : Draft}
    (he : Placed around d e) (t : List Char) :
    ∃ e', Placed around d' e' ∧ closedText e body (s ++ t) kind = .ok (e', r ++ t) := by
  cases kind with
  | plain flags =>
    cases h
    exact ⟨_, (he.push _).setFlags flags, rfl⟩
  | condition => exact conditionalText_append h he t
  | _ =>
    cases h
    exact ⟨_, he.push _, rfl⟩

theorem closeGroup_carries (h : (closeGroup d s).text = .ok (d', r)) :
    Carries d d' s r fun e s => (closeGroup e s).text := by
  rw [closeGroup_text] at h
  obtain ⟨u, hu, h⟩ := bind_eq_ok.mp h
  cases hlevels : d.levels with
  | nil => rw [hlevels] at h; cases h
  | cons level levels =>
    rw [hlevels] at h
    refine carries_of_append fun around e t he ht => ?_
    obtain ⟨level', levels', hlevels', hkind, hbody, hleave⟩ := he.leave hlevels
    rw [closeGroup_text, he.checkEnd, hu, hlevels']
    dsimp only [Except.bind]
    rw [hbody, hkind]
    exact closedText_append h hleave t

/-! ### All steps -/

theorem braceText_carries (h : braceText d s = .ok (d', r))
    (hreads : Reads d'.flags.verbose r) : Carries d d' s r fun e s => braceText e s := by
  unfold braceText at h
  have hletter : d.push (.literal '\x7b' d.flags.anyCase) = d' → s = r →
      (∀ around e t, Placed around d e → Benign t → e.pending.isNone = true ∨
        countText (readCount? d.flags.verbose (s ++ t)) = none) →
      Carries d d' s r fun e s => braceText e s := by
    rintro rfl rfl hnone
    refine carries_of_append fun around e t he ht => ⟨_, he.push _, ?_⟩
    unfold braceText
    rw [he.flags]
    rcases hnone around e t he ht with hpending | hcount
    · rw [if_pos hpending]
    · rw [hcount]
      split <;> rfl
  by_cases hpending : d.pending.isNone = true
  · rw [if_pos hpending] at h
    cases h
    exact hletter rfl rfl fun around e t he ht => Or.inl (by rw [he.pending]; exact hpending)
  · rw [if_neg hpending] at h
    cases hcount : countText (readCount? d.flags.verbose s) with
    | none =>
      rw [hcount] at h
      cases h
      refine hletter rfl rfl fun around e t he ht => Or.inr ?_
      rw [Draft.push_eq] at hreads
      rw [readCount?_append hreads ht, hcount]
      rfl
    | some x =>
      obtain ⟨count, u⟩ := x
      rw [hcount] at h
      obtain ⟨b, hb, hsuffix, hblank, deep, hrun⟩ := readRepeated_carries h
      refine ⟨b, hb, hsuffix.trans (suffix_of_readCount? hcount), hblank, deep,
        fun around e t he ht => ?_⟩
      have hread : braceText e (s ++ t) = (readRepeated e count (u ++ t)).text := by
        rw [braceText, if_neg (by rw [he.pending]; exact hpending), he.flags,
          readCount?_append_of_some hcount ht]
      dsimp only
      rw [hread]
      exact hrun around e t he ht

theorem readStep_carries {c : Char} (h : (readStep d c s).text = .ok (d', r))
    (hreads : Reads d'.flags.verbose r) :
    Carries d d' s r fun e s => (readStep e c s).text := by
  simp only [readStep_text] at h ⊢
  cases hrole : Role.ofChar c with simp only [hrole, stepText] at h ⊢
  | repeats count => exact readRepeated_carries h
  | opening => exact readGroup_carries h
  | closing => exact closeGroup_carries h
  | bar =>
    cases h
    exact carries_of_append fun around e t he ht => ⟨_, he.branch, rfl⟩
  | bracket =>
    obtain ⟨⟨text, u⟩, htext, heq⟩ := map_eq_ok.mp h
    cases heq
    refine carries_of_append fun around e t he ht => ⟨_, he.push _, ?_⟩
    rw [he.scope, he.flags]
    exact map_eq_ok.mpr ⟨_, readClass_append htext he.byteLength ht, rfl⟩
  | escape =>
    obtain ⟨⟨x, u⟩, hx, heq⟩ := map_eq_ok.mp h
    cases heq
    refine carries_of_append fun around e t he ht => ⟨_, he.pushEscaped x, ?_⟩
    rw [he.scope]
    exact map_eq_ok.mpr ⟨_, readEscape_append hx he.byteLength ht, rfl⟩
  | brace => exact braceText_carries h hreads
  | item =>
    cases h
    exact carries_of_append fun around e t he ht => ⟨_, he.push _, by rw [he.flags]⟩

end Steps

/-! ## Runs -/

/-- **A part of a pattern is read in the same way wherever it stands**, unless too many groups are
open around. What is left of it in the end are blanks, or the beginning of a comment, which are read
with what follows. -/
theorem readAll_placed {d d' : Draft} {s : List Char} (h : readAll d s = .ok d') :
    ∃ b, b <:+ s ∧ Gap.outside.skip d'.flags.verbose b = .ok [] ∧
      ∃ deep : Nat → Prop, ∀ around e t, Placed around d e → Benign t →
        deep around.levels.length ∧ readAll e (s ++ t) = .error .nestingTooDeep ∨
          ¬deep around.levels.length ∧
            ∃ e', Placed around d' e' ∧ readAll e (s ++ t) = readAll e' (b ++ t) := by
  induction h using readAll_induction with
  | gaps s hblank =>
    exact ⟨s, List.suffix_rfl, hblank, fun _ => False,
      fun around e t he _ => Or.inr ⟨not_false, e, he, rfl⟩⟩
  | step d d₁ s c u r hu hstep hrest ih =>
    have hus := (List.suffix_cons c u).trans (suffix_of_skip hu)
    have hrs := (readStep_suffix hstep).trans hus
    obtain ⟨b, hb, hblank, deep, hrun⟩ := ih
    obtain ⟨a, ha, has, hablank, deep₁, hcarries⟩ :=
      readStep_carries hstep ⟨d₁, d', rfl, hrest⟩
    -- the step is taken, and the run goes on with what it left over
    have hgo (around : Surroundings) (e : Draft) (t : List Char) (he : Placed around d e)
        (ht : Benign t) :
        deep₁ around.levels.length ∧ readAll e (s ++ t) = .error .nestingTooDeep ∨
          ¬deep₁ around.levels.length ∧
            ∃ e₁, Placed around d₁ e₁ ∧ readAll e (s ++ t) = readAll e₁ (r ++ (a ++ t)) := by
      obtain ⟨x, hx, -, hne⟩ := skip_append hu ht
      obtain rfl := hne nofun
      have hfirst : readAll e (s ++ x) =
          (readStep e c (u ++ x)).text.bind fun y => readAll y.1 y.2 := by
        rw [readAll_text, he.flags, hx]
        rfl
      rw [hfirst]
      rcases hcarries around e x he ht with ⟨hdeep, hread⟩ | ⟨hdeep, e₁, r', he₁, hread, heq⟩
      · exact Or.inl ⟨hdeep, congrArg (Except.bind · _) hread⟩
      · exact Or.inr ⟨hdeep, e₁, he₁, (congrArg (Except.bind · _) hread).trans heq⟩
    rcases ha with rfl | rfl
    · -- nothing else was read
      rw [readAll_text] at hrest
      cases hrest
      exact ⟨a, has.trans hus, hablank, deep₁, hgo⟩
    · refine ⟨b, hb.trans hrs, hblank, fun n => deep₁ n ∨ deep n, fun around e t he ht => ?_⟩
      rcases hgo around e t he ht with ⟨hdeep, hread⟩ | ⟨hdeep, e₁, he₁, heq⟩
      · exact Or.inl ⟨Or.inl hdeep, hread⟩
      · rw [heq, List.nil_append]
        refine (hrun around e₁ t he₁ ht).imp (And.imp_left Or.inr) (And.imp_left ?_)
        exact fun hrest h => h.elim hdeep hrest

end Verbal.Extended
