import Mathlib.Data.List.Forall2

/-!
# Outcomes

How a computation that may fail came out, from how its parts did.
-/

namespace Verbal

variable {ε α β : Type} {x : Except ε α}

theorem bind_eq_ok {f : α → Except ε β} {b : β} :
    x.bind f = .ok b ↔ ∃ a, x = .ok a ∧ f a = .ok b := by
  cases x <;> simp [Except.bind]

theorem map_eq_ok {f : α → β} {b : β} : x.map f = .ok b ↔ ∃ a, x = .ok a ∧ f a = b := by
  cases x <;> simp [Except.map]

theorem bind_eq_error {f : α → Except ε β} {e : ε} :
    x.bind f = .error e ↔ x = .error e ∨ ∃ a, x = .ok a ∧ f a = .error e := by
  cases x <;> simp [Except.bind]

theorem map_eq_error {f : α → β} {e : ε} : x.map f = .error e ↔ x = .error e := by
  cases x <;> simp [Except.map]

theorem mapM_eq_ok {f : α → Except ε β} {as : List α} {bs : List β} :
    as.mapM f = .ok bs ↔ List.Forall₂ (fun a b => f a = .ok b) as bs := by
  induction as generalizing bs with
  | nil => cases bs <;> simp [pure, Except.pure]
  | cons a as ih =>
    rw [List.mapM_cons, List.forall₂_cons_left_iff]
    cases hf : f a with
    | error e => simp [bind, Except.bind]
    | ok b =>
      cases hfs : as.mapM f with
      | error e => simp [bind, Except.bind, ← ih, hfs]
      | ok cs => simp [bind, Except.bind, pure, Except.pure, ← ih, hfs, eq_comm]

/-- A list of computations fails as the first one that does. -/
theorem mapM_eq_error {f : α → Except ε β} {as : List α} {e : ε} :
    as.mapM f = .error e ↔ ∃ before a after, as = before ++ a :: after ∧
      (∀ b ∈ before, ∃ c, f b = .ok c) ∧ f a = .error e := by
  induction as with
  | nil => simp [pure, Except.pure]
  | cons a as ih =>
    rw [List.mapM_cons]
    constructor
    · intro h
      cases hf : f a with
      | error e' =>
        rw [hf] at h
        cases h
        exact ⟨[], a, as, rfl, List.forall_mem_nil _, hf⟩
      | ok b =>
        have hfs : as.mapM f = .error e := by
          cases hfs : as.mapM f with
          | error e' => rw [hf, hfs] at h; cases h; rfl
          | ok bs => rw [hf, hfs] at h; cases h
        obtain ⟨before, a', after, rfl, hbefore, hfailed⟩ := ih.mp hfs
        exact ⟨a :: before, a', after, rfl, List.forall_mem_cons.mpr ⟨⟨b, hf⟩, hbefore⟩, hfailed⟩
    · rintro ⟨before, a', after, has, hbefore, hfailed⟩
      cases before with
      | nil =>
        obtain ⟨rfl, rfl⟩ := List.cons.inj has
        rw [hfailed]
        rfl
      | cons b before =>
        obtain ⟨rfl, rfl⟩ := List.cons.inj has
        obtain ⟨⟨c, hc⟩, hbefore⟩ := List.forall_mem_cons.mp hbefore
        rw [hc, ih.mpr ⟨before, a', after, rfl, hbefore, hfailed⟩]
        rfl

theorem toOption_eq_some {a : α} : x.toOption = some a ↔ x = .ok a := by
  cases x <;> simp [Except.toOption]

/-! An outcome need not be computed to tell how it is. -/

theorem exists_ok_of_isSome (h : x.toOption.isSome = true) : ∃ a, x = .ok a := by
  cases x with
  | error e => cases h
  | ok a => exact ⟨a, rfl⟩

theorem exists_error_of_isNone (h : x.toOption.isSome = false) : ∃ e, x = .error e := by
  cases x with
  | error e => exact ⟨e, rfl⟩
  | ok a => cases h

end Verbal
