import Verbal.Regular.Skeleton

/-!
# Where an expression can match

`Regex.Spans text r i j` says that `r` can match the text from the place `i` to the place `j`, along
any path: no way through the expression is preferred to another. Compiling writes counts out, and
`Skeleton.Spans` says the same of what is written out.

* **`spans_unroll`**: writing the counts out changes nothing.
* `Skeleton.Spans.le` and `Skeleton.Spans.le_length`: matches go forward and stay inside the text.
-/

namespace Verbal.Regular

/-! ## Places and rounds -/

/-- The character in front of a place. -/
def charBefore? (text : List Char) (i : Nat) : Option Char := if i = 0 then none else text[i - 1]?

/-- Whether an assertion holds at a place. -/
def Look.HoldsAt (l : Look) (text : List Char) (i : Nat) : Prop :=
  l.holds (charBefore? text i) text[i]? = true

section Ends

variable {text : List Char} {i : Nat}

theorem Look.holdsAt_startText (h : i ≤ text.length) : startText.HoldsAt text i ↔ i = 0 := by
  constructor
  · intro hholds
    refine Decidable.byContradiction fun hne => ?_
    have hget := List.getElem?_eq_getElem (show i - 1 < text.length by omega)
    simp [HoldsAt, holds, charBefore?, hne, hget] at hholds
  · rintro rfl
    rfl

theorem Look.holdsAt_endText (h : i ≤ text.length) : endText.HoldsAt text i ↔ i = text.length := by
  simp only [HoldsAt, holds, Option.isNone_iff_eq_none, List.getElem?_eq_none_iff]
  omega

end Ends

/-- Exactly that many steps from one place to another. -/
def Rounds (step : Nat → Nat → Prop) : Nat → Nat → Nat → Prop
  | 0, i, j => i = j
  | n + 1, i, j => ∃ k, step i k ∧ Rounds step n k j

section Rounds

variable {step : Nat → Nat → Prop}

theorem rounds_one {i j : Nat} : Rounds step 1 i j ↔ step i j := by
  simp [Rounds]

theorem rounds_add {m n i j : Nat} :
    Rounds step (m + n) i j ↔ ∃ k, Rounds step m i k ∧ Rounds step n k j := by
  induction m generalizing i with
  | zero => simp [Rounds]
  | succ m ih =>
    rw [Nat.add_right_comm]
    simp only [Rounds, ih]
    constructor
    · rintro ⟨k, hk, k', hm, hn⟩
      exact ⟨k', ⟨k, hk, hm⟩, hn⟩
    · rintro ⟨k', ⟨k, hk, hm⟩, hn⟩
      exact ⟨k, hk, k', hm, hn⟩

/-- What every step keeps, rounds keep. -/
theorem Rounds.keeps {P : Nat → Prop} (hstep : ∀ {i j}, step i j → P i → P j) {n i j : Nat}
    (h : Rounds step n i j) (hi : P i) : P j := by
  induction n generalizing i with
  | zero => exact h ▸ hi
  | succ n ih =>
    obtain ⟨k, hk, hn⟩ := h
    exact ih hn (hstep hk hi)

theorem Rounds.le (hstep : ∀ {i j}, step i j → i ≤ j) {n i j : Nat} (h : Rounds step n i j) :
    i ≤ j :=
  h.keeps (P := (i ≤ ·)) (fun hs hi => Nat.le_trans hi (hstep hs)) (Nat.le_refl i)

end Rounds

/-- Whether a count allows that many rounds. Bounds in the wrong order, which no reader lets pass,
allow the lower one. -/
def Repetition.Allows (count : Repetition) (n : Nat) : Prop :=
  count.least ≤ n ∧ ∀ m, count.most = some m → n ≤ max count.least m

/-! ## Matches of expressions -/

/-- Whether an expression can match from one place to another. -/
def Regex.Spans (text : List Char) : Regex → Nat → Nat → Prop
  | empty, i, j => i = j
  | letter set, i, j => j = i + 1 ∧ ∃ c, text[i]? = some c ∧ set.contains c = true
  | look l, i, j => i = j ∧ l.HoldsAt text i
  | concat a b, i, j => ∃ k, a.Spans text i k ∧ b.Spans text k j
  | alternate a b, i, j => a.Spans text i j ∨ b.Spans text i j
  | repetition count _ a, i, j => ∃ n, count.Allows n ∧ Rounds (a.Spans text) n i j
  | group _ a, i, j => a.Spans text i j

namespace Skeleton

variable {α : Type} {text : List Char}

/-- Whether a skeleton can match from one place to another. -/
def Spans (text : List Char) : Skeleton α → Nat → Nat → Prop
  | empty, i, j => i = j
  | letter set _, i, j => j = i + 1 ∧ ∃ c, text[i]? = some c ∧ set.contains c = true
  | look l, i, j => i = j ∧ l.HoldsAt text i
  | concat a b, i, j => ∃ k, a.Spans text i k ∧ b.Spans text k j
  | alternate a b, i, j => a.Spans text i j ∨ b.Spans text i j
  | plus _ a, i, j => ∃ n, Rounds (a.Spans text) (n + 1) i j
  | group _ a, i, j => a.Spans text i j

theorem Spans.le {a : Skeleton α} {i j : Nat} (h : a.Spans text i j) : i ≤ j := by
  induction a generalizing i j with
  | empty => exact Nat.le_of_eq h
  | letter set value => obtain ⟨rfl, -⟩ := h; exact Nat.le_succ i
  | look l => exact Nat.le_of_eq h.1
  | concat a b iha ihb =>
    obtain ⟨k, ha, hb⟩ := h
    exact Nat.le_trans (iha ha) (ihb hb)
  | alternate a b iha ihb => exact h.elim iha ihb
  | plus greedy a ih =>
    obtain ⟨n, h⟩ := h
    exact h.le ih
  | group index a ih => exact ih h

theorem Spans.le_length {a : Skeleton α} {i j : Nat} (h : a.Spans text i j)
    (hi : i ≤ text.length) : j ≤ text.length := by
  induction a generalizing i j with
  | empty => exact h ▸ hi
  | letter set value =>
    obtain ⟨rfl, c, hc, -⟩ := h
    exact (List.getElem?_eq_some_iff.mp hc).1
  | look l => exact h.1 ▸ hi
  | concat a b iha ihb =>
    obtain ⟨k, ha, hb⟩ := h
    exact ihb hb (iha ha hi)
  | alternate a b iha ihb => exact h.elim (iha · hi) (ihb · hi)
  | plus greedy a ih =>
    obtain ⟨n, h⟩ := h
    exact h.keeps (P := (· ≤ text.length)) (fun hs hi => ih hs hi) hi
  | group index a ih => exact ih h hi

/-! ## Counts written out -/

theorem spans_option {greedy : Bool} {a : Skeleton α} {i j : Nat} :
    (option greedy a).Spans text i j ↔ i = j ∨ a.Spans text i j := by
  cases greedy
  · exact Iff.rfl
  · exact or_comm

theorem spans_times {a : Skeleton α} {n i j : Nat} :
    (times a n).Spans text i j ↔ Rounds (a.Spans text) n i j := by
  induction n using Nat.strongRecOn generalizing i j with
  | ind n ih =>
    rw [times]
    split
    · rename_i h
      rw [h]
      exact Iff.rfl
    · split
      · rename_i h
        rw [h, rounds_one]
      · have hn : n = n / 2 + (n - n / 2) := by omega
        rw [Spans, hn, rounds_add, ← hn]
        exact exists_congr fun k => and_congr (ih _ (by omega)) (ih _ (by omega))

theorem spans_upTo {greedy : Bool} {a : Skeleton α} {n i j : Nat} :
    (upTo greedy a n).Spans text i j ↔ ∃ m, m ≤ n ∧ Rounds (a.Spans text) m i j := by
  induction n generalizing i j with
  | zero => simp [upTo, Spans, Rounds]
  | succ n ih =>
    -- one round more: none at all, or a first one and then at most `n` others
    have hsplit : (∃ m, m ≤ n + 1 ∧ Rounds (a.Spans text) m i j) ↔
        i = j ∨ ∃ k, a.Spans text i k ∧ ∃ m, m ≤ n ∧ Rounds (a.Spans text) m k j := by
      constructor
      · rintro ⟨m, hm, h⟩
        cases m with
        | zero => exact Or.inl h
        | succ m =>
          obtain ⟨k, hk, h⟩ := h
          exact Or.inr ⟨k, hk, m, by omega, h⟩
      · rintro (h | ⟨k, hk, m, hm, h⟩)
        · exact ⟨0, Nat.zero_le _, h⟩
        · exact ⟨m + 1, by omega, k, hk, h⟩
    rw [hsplit]
    cases n with
    | zero => rw [upTo, spans_option]; simp [Rounds]
    | succ n => rw [upTo, spans_option, Spans]; simp only [ih]; exact fun h => nomatch h

theorem spans_fromOn {greedy : Bool} {a : Skeleton α} {n i j : Nat} :
    (fromOn greedy a n).Spans text i j ↔ ∃ m, n ≤ m ∧ Rounds (a.Spans text) m i j := by
  match n with
  | 0 =>
    rw [fromOn, spans_option]
    constructor
    · rintro (h | ⟨m, h⟩)
      · exact ⟨0, Nat.le_refl _, h⟩
      · exact ⟨m + 1, Nat.zero_le _, h⟩
    · rintro ⟨m, -, h⟩
      cases m with
      | zero => exact Or.inl h
      | succ m => exact Or.inr ⟨m, h⟩
  | 1 =>
    constructor
    · rintro ⟨m, h⟩
      exact ⟨m + 1, by omega, h⟩
    · rintro ⟨m, hm, h⟩
      obtain ⟨m, rfl⟩ := Nat.exists_eq_add_of_le' hm
      exact ⟨m, h⟩
  | n + 2 =>
    rw [fromOn]
    · constructor
      · rintro ⟨k, hk, m, h⟩
        exact ⟨n + 1 + (m + 1), by omega, rounds_add.mpr ⟨k, spans_times.mp hk, h⟩⟩
      · rintro ⟨m, hm, h⟩
        obtain ⟨m, rfl⟩ := Nat.exists_eq_add_of_le hm
        rw [show n + 2 + m = n + 1 + (m + 1) by omega, rounds_add] at h
        obtain ⟨k, hk, h⟩ := h
        exact ⟨k, spans_times.mpr hk, m, h⟩
    · omega

theorem spans_rounds {count : Repetition} {greedy : Bool} {a : Skeleton α} {i j : Nat} :
    (rounds count greedy a).Spans text i j ↔ ∃ n, count.Allows n ∧ Rounds (a.Spans text) n i j := by
  obtain ⟨least, most⟩ := count
  unfold rounds Repetition.Allows
  cases most with
  | none => rw [spans_fromOn]; simp
  | some most =>
    simp only [Option.some.injEq, forall_eq']
    split
    · rename_i h
      rw [spans_times]
      constructor
      · intro hr
        exact ⟨least, ⟨Nat.le_refl _, by omega⟩, hr⟩
      · rintro ⟨n, ⟨hn, hm⟩, hr⟩
        rwa [show n = least by omega] at hr
    · rename_i h
      have hmax : max least most = most := by omega
      rw [hmax]
      split
      · rename_i h0
        rw [spans_upTo]
        exact exists_congr fun n => and_congr_left fun _ => by omega
      · rw [Spans]
        constructor
        · rintro ⟨k, hk, hr⟩
          obtain ⟨m, hm, hr⟩ := spans_upTo.mp hr
          exact ⟨least + m, ⟨by omega, by omega⟩, rounds_add.mpr ⟨k, spans_times.mp hk, hr⟩⟩
        · rintro ⟨n, ⟨hn, hm⟩, hr⟩
          obtain ⟨m, rfl⟩ := Nat.exists_eq_add_of_le hn
          obtain ⟨k, hk, hr⟩ := rounds_add.mp hr
          exact ⟨k, spans_times.mpr hk, spans_upTo.mpr ⟨m, by omega, hr⟩⟩

end Skeleton

/-- **Writing the counts out changes nothing** about where an expression can match. -/
theorem spans_unroll {α : Type} {value : α} {text : List Char} {r : Regex} {i j : Nat} :
    (r.unroll value).Spans text i j ↔ r.Spans text i j := by
  induction r generalizing i j with
  | empty => exact Iff.rfl
  | letter set => exact Iff.rfl
  | look l => exact Iff.rfl
  | concat a b iha ihb => exact exists_congr fun k => and_congr iha ihb
  | alternate a b iha ihb => exact or_congr iha ihb
  | repetition count greedy a ih =>
    have heq : (a.unroll value).Spans text = a.Spans text := by
      funext i j
      exact propext ih
    rw [Regex.unroll, Skeleton.spans_rounds, heq]
    exact Iff.rfl
  | group index a ih => exact ih

theorem Regex.Spans.le {text : List Char} {r : Regex} {i j : Nat} (h : r.Spans text i j) : i ≤ j :=
  ((@spans_unroll Unit () text r i j).mpr h).le

theorem Regex.Spans.le_length {text : List Char} {r : Regex} {i j : Nat} (h : r.Spans text i j)
    (hi : i ≤ text.length) : j ≤ text.length :=
  ((@spans_unroll Unit () text r i j).mpr h).le_length hi

end Verbal.Regular
