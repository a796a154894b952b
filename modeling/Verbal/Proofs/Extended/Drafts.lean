import Verbal.Proofs.Extended.Narrowing

/-!
# What has been read

Whatever is read of an extended pattern, the items of its sequences are no sequences themselves, its
groups are numbered from one on, and its references are among those that were noted.

* **`readAll_tidy`**: every run of the reader keeps that.
-/

namespace Verbal.Extended

open Verbal.Regular (Repetition)

/-! ## Trees -/

namespace Tree

/-- Whether a tree is an item of a sequence, and its numbers are in order. -/
structure Tidy (referred : List Nat) (t : Tree) : Prop where
  isItem : t.IsItem
  numbered : t.Numbered referred

variable {referred referred' : List Nat} {t : Tree} {ts : List Tree}

theorem Numbered.mono (h : t.Numbered referred) (hsub : referred ⊆ referred') :
    t.Numbered referred' :=
  All.imp h fun t ht => by
    cases t with
    | backref i => exact hsub ht
    | groupTest i => exact hsub ht
    | _ => exact ht

theorem Tidy.mono (h : t.Tidy referred) (hsub : referred ⊆ referred') : t.Tidy referred' :=
  ⟨h.isItem, h.numbered.mono hsub⟩

theorem numbered_of_items (h : ∀ x ∈ t.items, x.Numbered referred) : t.Numbered referred := by
  rw [← ofItems_items t]
  exact all_ofItems trivial (fun _ _ => trivial) h

theorem isItem_enclosed (t : Tree) : t.enclosed.IsItem := by cases t <;> rfl

theorem Numbered.enclosed (h : t.Numbered referred) : t.enclosed.Numbered referred := by
  cases t with
  | concat a b => exact ⟨trivial, h⟩
  | alternate a b => exact ⟨trivial, h⟩
  | _ => exact h

theorem Numbered.bare (h : t.Numbered referred) : t.bare.Numbered referred := by
  cases t with
  | plain t => exact h.2
  | _ => exact h

theorem Numbered.asCondition (h : t.Numbered referred) : t.asCondition.Numbered referred := by
  cases t <;> exact h

theorem tidy_conditionalOf {condition body : Tree} (hc : condition.Numbered referred)
    (hb : body.Numbered referred) : (conditionalOf condition body).Tidy referred := by
  have hbare := hb.bare
  have hof {yes no : Tree} (hyes : yes.Numbered referred) (hno : no.Numbered referred) :
      (if yes = empty ∧ no = empty then condition.enclosed
        else conditional condition yes no).Tidy referred := by
    split
    · exact ⟨isItem_enclosed condition, hc.enclosed⟩
    · exact ⟨rfl, trivial, hc, hyes, hno⟩
  unfold conditionalOf
  generalize body.bare = t at hbare
  cases t with
  | alternate yes no => exact hof hbare.2.1 hbare.2.2
  | _ => exact hof hbare trivial

/-- The items of a sequence of items are those items, or the empty one. -/
theorem tidy_items_ofItems (h : ∀ t ∈ ts, t.Tidy referred) :
    ∀ t ∈ (ofItems ts).items, t.Tidy referred := by
  by_cases hne : ts = []
  · subst hne
    exact List.forall_mem_singleton.mpr ⟨rfl, trivial⟩
  · rwa [items_ofItems (fun t ht => (h t ht).isItem) hne]

end Tree

/-! ## Drafts -/

/-- Whether the numbers of an open group are in order. -/
def LevelKind.Numbered (referred : List Nat) : LevelKind → Prop
  | capture index => 0 < index
  | branches t => t.Numbered referred
  | _ => True

/-- Whether all is in order of what stands in front of an open group. -/
structure Level.Tidy (referred : List Nat) (level : Level) : Prop where
  kind : level.kind.Numbered referred
  branches : ∀ t ∈ level.branches, ∀ x ∈ t.items, x.Tidy referred
  items : ∀ t ∈ level.items, t.Tidy referred

/-- Whether all is in order of what has been read: its items are items, and their numbers those of
groups. If all groups were opened before they were referred to, there are as many. -/
structure Draft.Tidy (d : Draft) : Prop where
  levels : ∀ level ∈ d.levels, level.Tidy d.referred
  branches : ∀ t ∈ d.branches, ∀ x ∈ t.items, x.Tidy d.referred
  items : ∀ t ∈ d.items, t.Tidy d.referred
  pending : ∀ t ∈ d.pending, t.Tidy d.referred
  opened : d.unopened = false → ∀ i ∈ d.referred, i ≤ d.scope.groups

theorem Level.Tidy.mono {level : Level} {referred referred' : List Nat}
    (h : level.Tidy referred) (hsub : referred ⊆ referred') : level.Tidy referred' where
  kind := by
    have hkind := h.kind
    cases hlevel : level.kind with
    | branches condition =>
      rw [hlevel] at hkind
      exact Tree.Numbered.mono hkind hsub
    | capture index =>
      rw [hlevel] at hkind
      exact hkind
    | _ => trivial
  branches t ht x hx := (h.branches t ht x hx).mono hsub
  items t ht := (h.items t ht).mono hsub

namespace Draft.Tidy

variable {d : Draft} {t : Tree}

theorem start (pattern : List Char) : (Draft.start pattern).Tidy where
  levels := List.forall_mem_nil _
  branches := List.forall_mem_nil _
  items := List.forall_mem_nil _
  pending := nofun
  opened _ := List.forall_mem_nil _

theorem flush (h : d.Tidy) : d.flush.Tidy := by
  have hpending := h.pending
  unfold Draft.flush
  split
  · exact h
  · exact { h with pending := nofun }
  · rename_i t _ ht
    rw [ht] at hpending
    exact { h with
      items := List.forall_mem_cons.mpr ⟨hpending t rfl, h.items⟩
      pending := nofun }

theorem push (h : d.Tidy) (ht : t.Tidy d.referred) : (d.push t).Tidy := by
  have hflush := h.flush
  rw [Draft.push_eq]
  rw [Draft.flush_eq] at hflush
  exact { hflush with pending := by rintro _ ⟨⟩; exact ht }

/-- The items of the branch that is being read, and the branch. -/
theorem sequence (h : d.Tidy) : ∀ t ∈ d.flush.items, t.Tidy d.referred := by
  have hflush := h.flush
  rw [Draft.flush_eq] at hflush
  exact hflush.items

theorem forall_branches (h : d.Tidy) :
    ∀ t ∈ Tree.ofItems d.flush.items.reverse :: d.branches, ∀ x ∈ t.items, x.Tidy d.referred :=
  List.forall_mem_cons.mpr
    ⟨Tree.tidy_items_ofItems fun t ht => h.sequence t (List.mem_reverse.mp ht), h.branches⟩

theorem branch (h : d.Tidy) : d.branch.Tidy := by
  rw [Draft.branch_eq]
  exact { h with
    branches := h.forall_branches
    items := List.forall_mem_nil _
    pending := nofun }

theorem body (h : d.Tidy) : d.body.Numbered d.referred := by
  refine Tree.all_ofBranches trivial (fun _ _ => trivial) fun t ht => ?_
  exact Tree.numbered_of_items fun x hx =>
    (h.forall_branches t (List.mem_reverse.mp ht) x hx).numbered

theorem openLevel (h : d.Tidy) {kind : LevelKind} (hkind : kind.Numbered d.referred) :
    (d.openLevel kind).Tidy := by
  rw [Draft.openLevel_eq]
  exact { h with
    levels := List.forall_mem_cons.mpr ⟨⟨hkind, h.branches, h.sequence⟩, h.levels⟩
    branches := List.forall_mem_nil _
    items := List.forall_mem_nil _
    pending := nofun }

theorem setFlags (h : d.Tidy) (flags : Flags) : { d with flags := flags }.Tidy :=
  { h with }

theorem openCapture (h : d.Tidy) : d.openCapture.Tidy := by
  have hkind : (LevelKind.capture (d.scope.groups + 1)).Numbered d.referred := Nat.succ_pos _
  have hlevel := h.openLevel hkind
  have hopened := h.opened
  unfold Draft.openCapture
  dsimp only
  rw [Draft.openLevel_eq] at hlevel ⊢
  exact { hlevel with opened := fun hu i hi => Nat.le_succ_of_le (hopened hu i hi) }

theorem openNamed (h : d.Tidy) (name : List Char) : (d.openNamed name).Tidy :=
  { h.openCapture with }

theorem leave (h : d.Tidy) {level : Level} {levels : List Level}
    (hlevels : d.levels = level :: levels) : (d.leave level levels).Tidy := by
  have hall := h.levels
  rw [hlevels] at hall
  obtain ⟨hlevel, hrest⟩ := List.forall_mem_cons.mp hall
  exact { h with
    levels := hrest
    branches := hlevel.branches
    items := hlevel.items
    pending := nofun }

theorem refer (h : d.Tidy) (index : Nat) (numbered : Bool) : (d.refer index numbered).Tidy where
  levels level hlevel := (h.levels level hlevel).mono (List.subset_cons_self index _)
  branches t ht x hx := (h.branches t ht x hx).mono (List.subset_cons_self index _)
  items t ht := (h.items t ht).mono (List.subset_cons_self index _)
  pending t ht := (h.pending t ht).mono (List.subset_cons_self index _)
  opened hu := by
    obtain ⟨hunopened, hindex⟩ := Bool.or_eq_false_iff.mp hu
    exact List.forall_mem_cons.mpr
      ⟨Nat.not_lt.mp (of_decide_eq_false hindex), h.opened hunopened⟩

theorem pushEscaped (h : d.Tidy) (e : Escaped) : (d.pushEscaped e).Tidy := by
  cases e with
  | backref index numbered =>
    exact (h.refer index numbered).push ⟨rfl, List.mem_cons_self⟩
  | _ => exact h.push ⟨rfl, trivial⟩

end Draft.Tidy

/-! ## Steps -/

section Steps

variable {d d' : Draft} {s r : List Char} {c : Char}

theorem readRepeated_tidy {count : Repetition} (hd : d.Tidy)
    (h : (readRepeated d count s).text = .ok (d', r)) : d'.Tidy := by
  rw [readRepeated_text] at h
  have hpending := hd.pending
  split at h
  · cases h
  · rename_i item hitem
    rw [hitem] at hpending
    obtain ⟨-, hnumbered⟩ := hpending item rfl
    split at h
    · cases h
    · obtain ⟨u, -, heq⟩ := map_eq_ok.mp h
      cases heq
      have htidy : (repeatedItem d count item u).1.Tidy d.referred := by
        unfold repeatedItem
        dsimp only
        split
        · exact ⟨rfl, trivial, trivial, hnumbered⟩
        · exact ⟨rfl, trivial, hnumbered⟩
      exact { hd with
        items := List.forall_mem_cons.mpr ⟨htidy, hd.items⟩
        pending := nofun }

theorem conditionalText_tidy {condition : Tree} (hd : d.Tidy)
    (hc : condition.Numbered d.referred) (h : conditionalText d condition s = .ok (d', r)) :
    d'.Tidy := by
  rcases conditionalText_eq_ok.mp h with ⟨index, rfl, -, -, rfl⟩ | ⟨_, _, -, -, -, rfl⟩
  · exact hd.push ⟨rfl, hc⟩
  · exact hd.openLevel hc

theorem referenceText_tidy {numbered : Bool} {index : Nat} (hd : d.Tidy)
    (h : referenceText d numbered (index, s) = .ok (d', r)) : d'.Tidy := by
  obtain ⟨u, -, hu⟩ := referenceText_eq_ok.mp h
  exact conditionalText_tidy (hd.refer index numbered) List.mem_cons_self hu

theorem readConditional_tidy (hd : d.Tidy) (h : (readConditional d s).text = .ok (d', r)) :
    d'.Tidy := by
  rw [readConditional_text] at h
  split at h
  · cases h
  · split_ifs at h
    · obtain ⟨⟨index, u⟩, -, h⟩ := bind_eq_ok.mp h
      exact referenceText_tidy hd h
    · obtain ⟨⟨index, u⟩, -, h⟩ := bind_eq_ok.mp h
      exact referenceText_tidy hd h
    · cases h
      exact hd.openLevel trivial

theorem opening_level {kind : LevelKind} (h : (opening s).1 = .level kind) (referred : List Nat) :
    kind.Numbered referred := by
  unfold opening at h
  split at h <;> first | (cases h; trivial) | cases h

theorem groupText_tidy (hd : d.Tidy) (h : groupText d s = .ok (d', r)) : d'.Tidy := by
  unfold groupText at h
  dsimp only at h
  split at h
  · rename_i hkind
    cases h
    exact hd.openLevel (opening_level hkind _)
  · obtain ⟨_, -, heq⟩ := map_eq_ok.mp h
    cases heq
    exact hd.openNamed _
  · obtain ⟨⟨index, u⟩, -, heq⟩ := map_eq_ok.mp h
    cases heq
    exact (hd.refer index false).push ⟨rfl, List.mem_cons_self⟩
  · exact readConditional_tidy hd h
  · obtain ⟨⟨⟨flags, opens⟩, u⟩, -, heq⟩ := map_eq_ok.mp h
    cases heq
    cases opens with
    | true =>
      have hkind : (LevelKind.plain d.flags).Numbered d.referred := trivial
      exact (hd.openLevel hkind).setFlags flags
    | false => exact (hd.push (t := .empty) ⟨rfl, trivial⟩).setFlags flags
  · cases h
    exact hd.openCapture

theorem closedText_tidy {body : Tree} {kind : LevelKind} (hd : d.Tidy)
    (hbody : body.Numbered d.referred) (hkind : kind.Numbered d.referred)
    (h : closedText d body s kind = .ok (d', r)) : d'.Tidy := by
  cases kind with
  | capture index =>
    cases h
    exact hd.push ⟨rfl, hkind, hbody⟩
  | plain flags =>
    cases h
    exact (hd.push ⟨Tree.isItem_enclosed body, hbody.enclosed⟩).setFlags flags
  | look direction negated =>
    cases h
    exact hd.push ⟨rfl, trivial, hbody.bare⟩
  | atomic =>
    cases h
    exact hd.push ⟨rfl, trivial, hbody⟩
  | condition => exact conditionalText_tidy hd hbody.asCondition h
  | branches condition =>
    cases h
    exact hd.push (Tree.tidy_conditionalOf hkind hbody)

theorem closeGroup_tidy (hd : d.Tidy) (h : (closeGroup d s).text = .ok (d', r)) : d'.Tidy := by
  rw [closeGroup_text] at h
  obtain ⟨u, -, h⟩ := bind_eq_ok.mp h
  cases hlevels : d.levels with
  | nil =>
    rw [hlevels] at h
    cases h
  | cons level levels =>
    rw [hlevels] at h
    have hlevel := hd.levels level (by rw [hlevels]; exact List.mem_cons_self)
    exact closedText_tidy (hd.leave hlevels) hd.body hlevel.kind h

theorem readGroup_tidy (hd : d.Tidy) (h : (readGroup d s).text = .ok (d', r)) : d'.Tidy := by
  rw [readGroup_text] at h
  split at h
  · cases h
  · obtain ⟨u, -, h⟩ := bind_eq_ok.mp h
    exact groupText_tidy hd h

theorem braceText_tidy (hd : d.Tidy) (h : braceText d s = .ok (d', r)) : d'.Tidy := by
  unfold braceText at h
  split at h
  · cases h
    exact hd.push ⟨rfl, trivial⟩
  · split at h
    · exact readRepeated_tidy hd h
    · cases h
      exact hd.push ⟨rfl, trivial⟩

theorem tidy_item (flags : Flags) (c : Char) : (flags.item c).Tidy d.referred := by
  unfold Flags.item
  split <;> exact ⟨rfl, trivial⟩

/-- **Every step keeps what has been read in order.** -/
theorem readStep_tidy (hd : d.Tidy) (h : (readStep d c s).text = .ok (d', r)) : d'.Tidy := by
  rw [readStep_text] at h
  cases hrole : Role.ofChar c with rw [hrole] at h
  | repeats count => exact readRepeated_tidy hd h
  | opening => exact readGroup_tidy hd h
  | closing => exact closeGroup_tidy hd h
  | bar =>
    cases h
    exact hd.branch
  | bracket =>
    obtain ⟨_, -, heq⟩ := map_eq_ok.mp h
    cases heq
    exact hd.push ⟨rfl, trivial⟩
  | escape =>
    obtain ⟨⟨x, u⟩, -, heq⟩ := map_eq_ok.mp h
    cases heq
    exact hd.pushEscaped x
  | brace => exact braceText_tidy hd h
  | item =>
    cases h
    exact hd.push (tidy_item d.flags c)

/-- **Every run does.** -/
theorem readAll_tidy (hd : d.Tidy) (h : readAll d s = .ok d') : d'.Tidy := by
  induction h using readAll_induction with
  | gaps s => exact hd
  | step d d₁ s c u r _ hstep _ ih => exact ih (readStep_tidy hd hstep)

end Steps

/-! ## Behind other groups -/

/-- The same kind of group with the numbers raised. -/
def LevelKind.shift (n : Nat) : LevelKind → LevelKind
  | capture index => capture (index + n)
  | branches t => branches (t.shift n)
  | kind => kind

/-- The same open group behind `n` others. -/
def Level.shift (n : Nat) (level : Level) : Level :=
  ⟨level.kind.shift n, level.branches.map (.shift n), level.items.map (.shift n)⟩

/-- What has been read where `n` groups were opened before. -/
def Draft.shift (n : Nat) (d : Draft) : Draft where
  scope := { d.scope with
    groups := d.scope.groups + n
    names := d.scope.names.map fun x => (x.1, x.2 + n) }
  levels := d.levels.map (.shift n)
  branches := d.branches.map (.shift n)
  items := d.items.map (.shift n)
  pending := d.pending.map (.shift n)
  flags := d.flags
  numbered := d.numbered
  referred := d.referred.map (raise n)
  unopened := d.unopened

namespace Draft

variable (n : Nat) (d : Draft)

theorem flush_shift : (d.shift n).flush = d.flush.shift n := by
  obtain ⟨_, _, _, _, pending, _, _, _, _⟩ := d
  cases pending with
  | none => rfl
  | some t => cases t <;> rfl

theorem body_shift : (d.shift n).body = d.body.shift n := by
  have hitems : (d.shift n).flush.items = d.flush.items.map (.shift n) := by
    rw [flush_shift]
    rfl
  unfold body
  rw [hitems, Tree.shift_ofBranches, List.map_reverse, List.map_cons, Tree.shift_ofItems,
    List.map_reverse]
  rfl

theorem checkEnd_shift : (d.shift n).checkEnd = d.checkEnd := by
  unfold checkEnd
  simp only [shift, List.isEmpty_map]

end Draft

/-- Whether the references in a pattern move with its groups: behind another group the pattern is
read as it is on its own, but for the numbers. References by name do, those by number do not. -/
def MovesWithGroups (pattern : List Char) : Prop :=
  ∀ d, readAll (.start pattern) pattern = .ok d →
    readAll ((Draft.start pattern).shift 1) pattern = .ok (d.shift 1)

instance (pattern : List Char) : Decidable (MovesWithGroups pattern) :=
  decidable_of_iff (∀ d ∈ (readAll (.start pattern) pattern).toOption,
      (readAll ((Draft.start pattern).shift 1) pattern).toOption = some (d.shift 1)) <|
    forall_congr' fun _ => imp_congr toOption_eq_some toOption_eq_some

end Verbal.Extended
