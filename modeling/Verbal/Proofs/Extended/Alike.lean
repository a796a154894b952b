import Verbal.Proofs.Extended.Renumbering
import Verbal.Proofs.Extended.Ways

/-!
# Ways through renumbered plans

A plan asks for the place and for where the groups stand that are referred to, and for nothing else.
So the ways through a renumbered plan lead to the same places, with the groups that are referred to
standing alike; and where only other groups stand elsewhere, the ways through a plan are the same.

* **`ways_shift`**: the ways through a plan and those through the renumbered one, one by one.
* `ways_alike`: the ways through a plan from states that are alike.
-/

namespace Verbal.Extended

open Verbal.Regular (Trail)

/-! ## States that are alike -/

/-- Whether a state is at the place of another one, with the groups that are referred to standing
alike under numbers raised by `n`. -/
structure State.Alike (n : Nat) (referred : List Nat) (st st' : State) : Prop where
  place : st'.place = st.place
  slots : ∀ i ∈ referred, ∀ k < 2, st'.slot? (2 * raise n i + k) = st.slot? (2 * i + k)

namespace State

variable {n : Nat} {referred : List Nat} {st st' st'' : State}

theorem slot?_mark (st : State) (slot slot' : Nat) :
    (st.mark slot).slot? slot' = if slot' = slot then some st.place else st.slot? slot' := by
  unfold mark slot?
  dsimp only
  rw [List.find?_cons]
  by_cases h : slot' = slot
  · simp [h]
  · rw [if_neg h, beq_false_of_ne (Ne.symm h)]

theorem slot?_along {groups : List Nat} {trail : Trail} {slot : Nat}
    (h : ∀ i ∈ groups, slot ≠ 2 * i ∧ slot ≠ 2 * i + 1) :
    (st.along groups trail).slot? slot = st.slot? slot := by
  unfold along slot?
  dsimp only
  generalize st.marks = marks
  induction groups generalizing marks with
  | nil => rfl
  | cons i groups ih =>
    obtain ⟨⟨hstart, hstop⟩, hgroups⟩ := List.forall_mem_cons.mp h
    rw [List.foldl_cons, ih hgroups, List.find?_cons, List.find?_cons,
      beq_false_of_ne hstop.symm, beq_false_of_ne hstart.symm]

namespace Alike

theorem refl (referred : List Nat) (st : State) : st.Alike 0 referred st :=
  ⟨rfl, fun i _ k _ => by rw [zero_raise]⟩

/-- Nothing that is referred to was moved by what became of a state. -/
theorem moved {st₁ st₁' : State} (h : st.Alike n referred st')
    (hplace : st₁'.place = st₁.place)
    (hslots : ∀ i ∈ referred, ∀ k < 2, st₁.slot? (2 * i + k) = st.slot? (2 * i + k) ∧
      st₁'.slot? (2 * raise n i + k) = st'.slot? (2 * raise n i + k)) :
    st₁.Alike n referred st₁' where
  place := hplace
  slots i hi k hk := by
    rw [(hslots i hi k hk).1, (hslots i hi k hk).2]
    exact h.slots i hi k hk

theorem at_place (h : st.Alike n referred st') (place : Nat) :
    State.Alike n referred { st with place := place } { st' with place := place } :=
  h.moved rfl fun _ _ _ _ => ⟨rfl, rfl⟩

theorem mark_zero (h : st.Alike n referred st') :
    (st.mark 0).Alike n referred (st'.mark 0) where
  place := h.place
  slots i hi k hk := by
    have hzero : 2 * raise n i + k = 0 ↔ 2 * i + k = 0 := by
      unfold raise
      split_ifs <;> omega
    simp only [slot?_mark, hzero, h.place, h.slots i hi k hk]

theorem mark_group (h : st.Alike n referred st') {index k : Nat} (hindex : 0 < index)
    (hk : k < 2) : (st.mark (2 * index + k)).Alike n referred (st'.mark (2 * (index + n) + k)) where
  place := h.place
  slots i hi l hl := by
    have hslot : 2 * raise n i + l = 2 * (index + n) + k ↔ 2 * i + l = 2 * index + k := by
      have := raise_eq_add (n := n) (j := i) hindex
      omega
    simp only [slot?_mark, hslot, h.place, h.slots i hi l hl]

/-- The groups of a part are not referred to. -/
theorem along (h : st.Alike n referred st') {groups groups' : List Nat} {trail trail' : Trail}
    (htrail : trail'.stop = trail.stop) (hgroups : ∀ i ∈ groups, i ∉ referred)
    (hgroups' : ∀ i ∈ groups', i ∉ referred.map (raise n)) :
    (st.along groups trail).Alike n referred (st'.along groups' trail') := by
  refine h.moved htrail fun i hi k hk => ⟨slot?_along fun j hj => ?_, slot?_along fun j hj => ?_⟩
  · have hne : i ≠ j := fun hij => hgroups j hj (hij ▸ hi)
    omega
  · have hne : raise n i ≠ j := fun hij => hgroups' j hj (hij ▸ List.mem_map_of_mem hi)
    omega

theorem group? (h : st.Alike n referred st') {i : Nat} (hi : i ∈ referred) :
    st'.group? (raise n i) = st.group? i := by
  have hstart := h.slots i hi 0 (by decide)
  have hstop := h.slots i hi 1 (by decide)
  rw [Nat.add_zero, Nat.add_zero] at hstart
  unfold State.group?
  rw [hstart, hstop]

/-- Stepping back fails from both states or from neither. -/
theorem back? (h : st.Alike n referred st') (back : Nat) :
    st.back? back = none ∧ st'.back? back = none ∨ ∃ a b, st.back? back = some a ∧
      st'.back? back = some b ∧ a.Alike n referred b := by
  unfold State.back?
  rw [h.place]
  by_cases hle : back ≤ st.place
  · exact Or.inr ⟨_, _, if_pos hle, if_pos hle, h.at_place _⟩
  · exact Or.inl ⟨if_neg hle, if_neg hle⟩

end Alike

end State

/-! ## Ways that are alike -/

/-- Whether two rounds have the same ways from states that are alike, up to likeness. -/
def WaysAlike (n : Nat) (referred : List Nat) (round round' : State → List State) : Prop :=
  ∀ st st', st.Alike n referred st' →
    List.Forall₂ (State.Alike n referred) (round st) (round' st')

section Rounds

variable {n : Nat} {referred : List Nat} {round round' : State → List State}

theorem waysAlike_leave : WaysAlike n referred (fun st => [st]) fun st => [st] :=
  fun _ _ h => .cons h .nil

theorem WaysAlike.flatMap (h : WaysAlike n referred round round') {next next' : State → List State}
    (hnext : WaysAlike n referred next next') :
    WaysAlike n referred (fun st => (round st).flatMap next) fun st => (round' st).flatMap next' :=
  fun st st' hst => List.rel_flatMap (h st st' hst) fun a b hab => hnext a b hab

theorem WaysAlike.times (h : WaysAlike n referred round round') (count : Nat) :
    WaysAlike n referred (waysTimes round count) (waysTimes round' count) := by
  induction count with
  | zero => exact waysAlike_leave
  | succ count ih => exact h.flatMap ih

theorem WaysAlike.both {next next' : State → List State} (greedy : Bool)
    (h : WaysAlike n referred round round') (hnext : WaysAlike n referred next next') :
    WaysAlike n referred (fun st => waysBoth greedy (round st) (next st))
      fun st => waysBoth greedy (round' st) (next' st) := by
  intro st st' hst
  cases greedy with
  | true => exact List.rel_append (h st st' hst) (hnext st st' hst)
  | false => exact List.rel_append (hnext st st' hst) (h st st' hst)

theorem WaysAlike.upTo (h : WaysAlike n referred round round') (greedy : Bool) (count : Nat) :
    WaysAlike n referred (waysUpTo greedy round count) (waysUpTo greedy round' count) := by
  induction count with
  | zero => exact waysAlike_leave
  | succ count ih => exact (h.flatMap ih).both greedy waysAlike_leave

theorem WaysAlike.star (h : WaysAlike n referred round round') (greedy : Bool) (fuel : Nat) :
    WaysAlike n referred (waysStar greedy round fuel) (waysStar greedy round' fuel) := by
  induction fuel with
  | zero => exact waysAlike_leave
  | succ fuel ih =>
    refine WaysAlike.both greedy (fun st st' hst => ?_) waysAlike_leave
    refine List.rel_flatMap (h st st' hst) fun a b hab => ?_
    rw [hst.place, hab.place]
    split
    · exact .nil
    · exact ih a b hab

/-- To each way there is one that is alike. -/
theorem WaysAlike.exists_of_mem (h : WaysAlike n referred round round') {st st' w : State}
    (hst : st.Alike n referred st') (hw : w ∈ round st) :
    ∃ w' ∈ round' st', w.Alike n referred w' := by
  have hways := h st st' hst
  obtain ⟨i, hi, rfl⟩ := List.mem_iff_getElem.mp hw
  have hi' := hways.length_eq ▸ hi
  exact ⟨_, List.getElem_mem hi', hways.get hi hi'⟩

/-- The preferred ways are alike, if there are any. -/
theorem WaysAlike.head? (h : WaysAlike n referred round round') {st st' : State}
    (hst : st.Alike n referred st') :
    (round st).head? = none ∧ (round' st').head? = none ∨
      ∃ a b, (round st).head? = some a ∧ (round' st').head? = some b ∧ a.Alike n referred b := by
  have hways := h st st' hst
  generalize round st = ways at hways ⊢
  generalize round' st' = ways' at hways ⊢
  cases hways with
  | nil => exact Or.inl ⟨rfl, rfl⟩
  | cons hab _ => exact Or.inr ⟨_, _, rfl, rfl, hab⟩

end Rounds

/-! ## Ways through plans -/

/-- The table of a part with the numbers of its groups raised. -/
def shiftTable (n : Nat) (table : Table) : Table := table.map (·.map (.shift n))

theorem join_shiftTable (n : Nat) (table : Table) (i : Nat) :
    (shiftTable n table)[i]?.join = table[i]?.join.map (.shift n) := by
  unfold shiftTable
  rw [Array.getElem?_map]
  cases table[i]? <;> rfl

/-- **The ways through a renumbered plan** are those through the plan, one by one. -/
theorem ways_shift (subject : Subject) {n : Nat} {referred : List Nat} {plan : Plan Table}
    (h : plan.Numbered referred) :
    WaysAlike n referred (plan.ways subject) ((plan.shift (shiftTable n) n).ways subject) := by
  induction plan with
  | nothing => exact waysAlike_leave
  | part table groups =>
    intro st st' hst
    simp only [Plan.shift, Plan.ways, join_shiftTable, hst.place]
    cases table[st.place]?.join with
    | none => exact .nil
    | some trail =>
      refine .cons (hst.along rfl (fun i hi => (h i hi).2) fun i hi => ?_) .nil
      obtain ⟨j, hj, rfl⟩ := List.mem_map.mp hi
      rw [← raise_of_pos (h j hj).1, List.mem_map]
      rintro ⟨k, hk, hkj⟩
      exact (h j hj).2 (raise_inj.mp hkj ▸ hk)
  | look l =>
    intro st st' hst
    simp only [Plan.shift, Plan.ways, hst.place]
    generalize l.holds _ _ = holds
    cases holds with
    | true => exact .cons hst .nil
    | false => exact .nil
  | seq a b iha ihb => exact (iha h.1).flatMap (ihb h.2)
  | choice a b iha ihb =>
    exact fun st st' hst => List.rel_append (iha h.1 st st' hst) (ihb h.2 st st' hst)
  | capture index a ih =>
    intro st st' hst
    exact List.rel_map (fun a b hab => hab.mark_group (k := 1) h.1 (by decide))
      (ih h.2 _ _ (hst.mark_group (k := 0) h.1 (by decide)))
  | times count a ih => exact (ih h).times count
  | upTo count greedy a ih => exact (ih h).upTo greedy count
  | star greedy a ih =>
    intro st st' hst
    simp only [Plan.shift, Plan.ways, hst.place]
    exact (ih h).star greedy _ st st' hst
  | around back negated a ih =>
    intro st st' hst
    rcases hst.back? back with ⟨hnone, hnone'⟩ | ⟨x, y, hx, hy, hxy⟩
    · cases negated with
      | false => simp only [Plan.shift, Plan.ways, hnone, hnone']; exact .nil
      | true => simp only [Plan.shift, Plan.ways, hnone, hnone']; exact .cons hst .nil
    · have hways := ih h x y hxy
      cases negated with
      | false =>
        simp only [Plan.shift, Plan.ways, hx, hy, hst.place]
        exact List.rel_map (fun a b hab => hab.at_place st.place) hways
      | true =>
        simp only [Plan.shift, Plan.ways, hx, hy]
        generalize a.ways subject x = ways at hways ⊢
        generalize (a.shift (shiftTable n) n).ways subject y = ways' at hways ⊢
        cases hways with
        | nil => exact .cons hst .nil
        | cons _ _ => exact .nil
  | backref index =>
    intro st st' hst
    simp only [Plan.shift, Plan.ways, hst.group? h, hst.place]
    cases st.group? index with
    | none => exact .nil
    | some place =>
      dsimp only
      split
      · exact .cons (hst.at_place _) .nil
      · exact .nil
  | groupTest index =>
    intro st st' hst
    have hslot := hst.slots index h 0 (by decide)
    rw [Nat.add_zero, Nat.add_zero] at hslot
    have hzero : (raise n index = 0) = (index = 0) := by
      unfold raise
      split_ifs <;> simp_all
    simp only [Plan.shift, Plan.ways, hslot, hzero]
    split
    · exact .cons hst .nil
    · exact .nil
  | atomic a ih =>
    intro st st' hst
    rcases (ih h).head? hst with ⟨hnone, hnone'⟩ | ⟨x, y, hx, hy, hxy⟩
    · simp only [Plan.shift, Plan.ways, hnone, hnone']
      exact .nil
    · simp only [Plan.shift, Plan.ways, hx, hy]
      exact .cons hxy .nil
  | conditional c yes no ihc ihy ihn =>
    intro st st' hst
    rcases (ihc h.1).head? hst with ⟨hnone, hnone'⟩ | ⟨x, y, hx, hy, hxy⟩
    · simp only [Plan.shift, Plan.ways, hnone, hnone']
      exact ihn h.2.2 st st' hst
    · simp only [Plan.shift, Plan.ways, hx, hy]
      exact ihy h.2.1 x y hxy
  | keepOut => exact fun st st' hst => .cons hst.mark_zero .nil
  | contiguous =>
    intro st st' hst
    simp only [Plan.shift, Plan.ways, hst.place]
    split
    · exact .cons hst .nil
    · exact .nil

theorem shiftTable_zero (table : Table) : shiftTable 0 table = table := by
  have hmark : Regular.shiftMark 0 = id := rfl
  have htrail : Trail.shift 0 = id := by
    funext trail
    simp [Trail.shift, hmark]
  simp [shiftTable, htrail]

theorem Plan.shift_zero (a : Plan Table) : a.shift (shiftTable 0) 0 = a := by
  induction a with
  | part table groups => simp [shift, shiftTable_zero]
  | seq a b iha ihb => simp only [shift, iha, ihb]
  | choice a b iha ihb => simp only [shift, iha, ihb]
  | capture index a ih => simp only [shift, ih, Nat.add_zero]
  | times count a ih => simp only [shift, ih]
  | upTo count greedy a ih => simp only [shift, ih]
  | star greedy a ih => simp only [shift, ih]
  | around back negated a ih => simp only [shift, ih]
  | backref index => simp only [shift, zero_raise]
  | groupTest index => simp only [shift, zero_raise]
  | atomic a ih => simp only [shift, ih]
  | conditional c yes no ihc ihy ihn => simp only [shift, ihc, ihy, ihn]
  | _ => rfl

/-- **From states that are alike the ways through a plan are alike.** -/
theorem ways_alike (subject : Subject) {referred : List Nat} {plan : Plan Table}
    (h : plan.Numbered referred) :
    WaysAlike 0 referred (plan.ways subject) (plan.ways subject) := by
  have hways := ways_shift subject (n := 0) h
  rwa [Plan.shift_zero] at hways

/-- The tables of a renumbered plan are the renumbered tables. -/
theorem tabulated_renumbered (n : Nat) (plan : Plan Part) (text : List Char) :
    Program.tabulated (plan.renumbered n) text =
      (Program.tabulated plan text).shift (shiftTable n) n :=
  Plan.map_shift (fun part => by
    rw [Regular.found_shift, shiftTable, List.map_toArray]) n plan

theorem numbered_tabulated {referred : List Nat} {plan : Plan Part}
    (h : plan.Numbered referred) (text : List Char) :
    (Program.tabulated plan text).Numbered referred := by
  unfold Program.tabulated
  rwa [Plan.numbered_map]

end Verbal.Extended
