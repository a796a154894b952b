import Mathlib.Tactic.Tauto
import Verbal.Proofs.Regular.Spans
import Verbal.Regular.Program

/-!
# Sweeping finds the places where a match begins

A sweep goes through a text from right to left, and keeps at every letter of the skeleton a way to
go on after that letter, if there is one. `Skeleton.Informed` is the invariant: the values of the
letters are right for a place. One step to the left keeps it, and tells at the same time where a
match begins; the empty rounds of loops, which the sweep leaves at once, lead nowhere else.

* `sweep_informed`: one step of the sweep.
* **`found_isSome_iff`**: a way is found at a place iff the expression can match from there.
* **`isMatch_iff`**: there is a match iff there are places between which the expression can match.
-/

namespace Verbal.Regular

open Verbal.Unicode

/-! ## Ways -/

section Ways

variable {text : List Char}

namespace Skeleton

variable {α : Type}

/-- Whether a part leads from a place to one from which it goes on. -/
def Reaches (text : List Char) (a : Skeleton α) (onward : Nat → Prop) (i : Nat) : Prop :=
  ∃ j, a.Spans text i j ∧ onward j

/-- The same, reading a letter at least. -/
def Reads (text : List Char) (a : Skeleton α) (onward : Nat → Prop) (i : Nat) : Prop :=
  ∃ j, i < j ∧ a.Spans text i j ∧ onward j

/-- Whether any number of rounds of a part leads on. -/
def Cycles (text : List Char) (a : Skeleton α) (onward : Nat → Prop) (i : Nat) : Prop :=
  ∃ n j, Rounds (a.Spans text) n i j ∧ onward j

theorem reaches_iff {a : Skeleton α} {onward : Nat → Prop} {i : Nat} :
    a.Reaches text onward i ↔ a.Reads text onward i ∨ a.Spans text i i ∧ onward i := by
  constructor
  · rintro ⟨j, hs, hj⟩
    rcases Nat.lt_or_eq_of_le hs.le with h | rfl
    · exact Or.inl ⟨j, h, hs, hj⟩
    · exact Or.inr ⟨hs, hj⟩
  · rintro (⟨j, -, hs, hj⟩ | ⟨hs, hj⟩)
    · exact ⟨j, hs, hj⟩
    · exact ⟨i, hs, hj⟩

theorem reads_concat {a b : Skeleton α} {onward : Nat → Prop} {i : Nat} :
    (concat a b).Reads text onward i ↔
      a.Reads text (b.Reaches text onward) i ∨ a.Spans text i i ∧ b.Reads text onward i := by
  constructor
  · rintro ⟨j, h, ⟨k, ha, hb⟩, hj⟩
    rcases Nat.lt_or_eq_of_le ha.le with hk | rfl
    · exact Or.inl ⟨k, hk, ha, j, hb, hj⟩
    · exact Or.inr ⟨ha, j, h, hb, hj⟩
  · rintro (⟨k, hk, ha, j, hb, hj⟩ | ⟨ha, j, h, hb, hj⟩)
    · exact ⟨j, Nat.lt_of_lt_of_le hk hb.le, ⟨k, ha, hb⟩, hj⟩
    · exact ⟨j, h, ⟨i, ha, hb⟩, hj⟩

theorem spans_concat_self {a b : Skeleton α} {i : Nat} :
    (concat a b).Spans text i i ↔ a.Spans text i i ∧ b.Spans text i i := by
  constructor
  · rintro ⟨k, ha, hb⟩
    obtain rfl : i = k := Nat.le_antisymm ha.le hb.le
    exact ⟨ha, hb⟩
  · rintro ⟨ha, hb⟩
    exact ⟨i, ha, hb⟩

theorem reads_alternate {a b : Skeleton α} {onward : Nat → Prop} {i : Nat} :
    (alternate a b).Reads text onward i ↔ a.Reads text onward i ∨ b.Reads text onward i := by
  constructor
  · rintro ⟨j, h, ha | hb, hj⟩
    · exact Or.inl ⟨j, h, ha, hj⟩
    · exact Or.inr ⟨j, h, hb, hj⟩
  · rintro (⟨j, h, ha, hj⟩ | ⟨j, h, hb, hj⟩)
    · exact ⟨j, h, Or.inl ha, hj⟩
    · exact ⟨j, h, Or.inr hb, hj⟩

/-- Rounds that get ahead have a first one that does. -/
theorem reads_of_rounds {a : Skeleton α} {onward : Nat → Prop} {n i j : Nat}
    (hr : Rounds (a.Spans text) n i j) (h : i < j) (hj : onward j) :
    a.Reads text (a.Cycles text onward) i := by
  induction n generalizing i with
  | zero => exact absurd h (by rw [hr]; exact Nat.lt_irrefl j)
  | succ n ih =>
    obtain ⟨k, hk, hr⟩ := hr
    rcases Nat.lt_or_eq_of_le hk.le with hlt | rfl
    · exact ⟨k, hlt, hk, n, j, hr, hj⟩
    · exact ih hr h

theorem reads_plus {greedy : Bool} {a : Skeleton α} {onward : Nat → Prop} {i : Nat} :
    (plus greedy a).Reads text onward i ↔ a.Reads text (a.Cycles text onward) i := by
  constructor
  · rintro ⟨j, h, ⟨n, hr⟩, hj⟩
    exact reads_of_rounds hr h hj
  · rintro ⟨k, hk, ha, n, j, hr, hj⟩
    exact ⟨j, Nat.lt_of_lt_of_le hk (hr.le Spans.le), ⟨n, k, ha, hr⟩, hj⟩

theorem spans_plus_self {greedy : Bool} {a : Skeleton α} {i : Nat} :
    (plus greedy a).Spans text i i ↔ a.Spans text i i := by
  constructor
  · rintro ⟨n, k, ha, hr⟩
    obtain rfl : i = k := Nat.le_antisymm ha.le (hr.le Spans.le)
    exact ha
  · intro ha
    exact ⟨0, rounds_one.mpr ha⟩

/-- At the end of a loop one goes on, or round once more. -/
theorem cycles_iff {a : Skeleton α} {onward : Nat → Prop} {i : Nat} :
    a.Cycles text onward i ↔ onward i ∨ a.Reads text (a.Cycles text onward) i := by
  constructor
  · rintro ⟨n, j, hr, hj⟩
    rcases Nat.lt_or_eq_of_le (hr.le Spans.le) with h | rfl
    · exact Or.inr (reads_of_rounds hr h hj)
    · exact Or.inl hj
  · rintro (h | ⟨k, -, ha, n, j, hr, hj⟩)
    · exact ⟨0, i, rfl, h⟩
    · exact ⟨n + 1, j, ⟨k, ha, hr⟩, hj⟩

end Skeleton

end Ways

/-! ## What ways tell -/

@[simp]
theorem isSome_along (ms : List Mark) (t : Option Trail) :
    (along (some ms) t).isSome = t.isSome := by
  cases t <;> rfl

theorem isSome_along_iff (marks : Option (List Mark)) (t : Option Trail) :
    (along marks t).isSome = (marks.isSome && t.isSome) := by
  cases marks <;> cases t <;> rfl

theorem isSome_join (a b : Option (List Mark)) :
    (join a b).isSome = (a.isSome && b.isSome) := by
  cases a <;> cases b <;> rfl

/-- The ways through a part tell whether it can read a letter and go on, and whether it can read
nothing. -/
structure Split.Tells (s : Split) (reads skips : Prop) : Prop where
  reads : s.reading.isSome = true ↔ reads
  skips : s.skip.isSome = true ↔ skips

namespace Split

variable {a b : Split} {ra sa rb sb : Prop}

theorem isSome_reading (s : Split) : s.reading.isSome = (s.early.isSome || s.late.isSome) := by
  unfold reading
  exact Option.isSome_or

theorem isSome_value (s : Split) (next : Option Trail) :
    (s.value next).isSome = (s.reading.isSome || s.skip.isSome && next.isSome) := by
  unfold value
  rw [isSome_reading, Option.isSome_or, Option.isSome_or, isSome_along_iff]
  cases s.early.isSome <;> cases s.late.isSome <;> simp

theorem Tells.concat (ha : a.Tells ra sa) (hb : b.Tells rb sb) :
    (a.concat b).Tells (ra ∨ sa ∧ rb) (sa ∧ sb) := by
  rw [← ha.reads, ← ha.skips, ← hb.reads, ← hb.skips]
  obtain ⟨early, skip, late⟩ := a
  obtain ⟨early', skip', late'⟩ := b
  constructor <;> cases skip <;> cases skip' <;>
    simp [Split.concat, isSome_reading, Option.isSome_or, or_assoc, or_comm, or_left_comm]

theorem Tells.alternate (ha : a.Tells ra sa) (hb : b.Tells rb sb) :
    (a.alternate b).Tells (ra ∨ rb) (sa ∨ sb) := by
  rw [← ha.reads, ← ha.skips, ← hb.reads, ← hb.skips]
  obtain ⟨early, skip, late⟩ := a
  constructor <;> cases skip <;>
    simp [Split.alternate, isSome_reading, Option.isSome_or, or_assoc]

theorem Tells.group (ha : a.Tells ra sa) (enter leave : Mark) :
    (a.group enter leave).Tells ra sa := by
  rw [← ha.reads, ← ha.skips]
  constructor <;> simp [Split.group, isSome_reading, isSome_join]

end Split

/-- What is around a part tells, together with whether the part itself can read a letter and go on,
whether it goes on at its end. -/
def Around.Tells (around : Around) (reads onward : Prop) : Prop :=
  (around.ahead.isSome = true ∨ around.behind.isSome = true) ∨
    around.again.isSome = true ∧ reads ↔ onward

namespace Around

variable {around : Around} {a b : Split} {ra sa rb sb onward : Prop}

theorem Tells.first (h : around.Tells (ra ∨ sa ∧ rb) onward) (hb : b.Tells rb sb) :
    (around.first b).Tells ra (rb ∨ sb ∧ onward) := by
  unfold Tells at *
  rw [← h, ← hb.reads, ← hb.skips]
  obtain ⟨early, skip, late⟩ := b
  cases skip with
  | none => simp [Around.first]
  | some ms =>
    simp only [Around.first, Split.isSome_reading, Option.isSome_or, isSome_along, isSome_join,
      Option.isSome_some, Bool.true_and, Bool.or_eq_true]
    tauto

theorem Tells.second (h : around.Tells (ra ∨ sa ∧ rb) onward) (ha : a.Tells ra sa) :
    (around.second a).Tells rb onward := by
  unfold Tells at *
  rw [← h, ← ha.reads, ← ha.skips]
  obtain ⟨early, skip, late⟩ := a
  cases skip with
  | none =>
    simp only [Around.second, Split.isSome_reading, Option.isSome_or, isSome_along_iff,
      Option.isSome_none, Bool.and_eq_true, Bool.or_eq_true]
    tauto
  | some ms =>
    simp only [Around.second, Split.isSome_reading, Option.isSome_or, isSome_along_iff,
      isSome_join, Option.isSome_some, Bool.and_eq_true, Bool.or_eq_true]
    tauto

theorem Tells.left (h : around.Tells (ra ∨ rb) onward) (hb : b.Tells rb sb) :
    (around.left b).Tells ra onward := by
  unfold Tells at *
  rw [← h, ← hb.reads]
  simp only [Around.left, Option.isSome_or, isSome_along_iff, Bool.and_eq_true, Bool.or_eq_true]
  tauto

theorem Tells.right (h : around.Tells (ra ∨ rb) onward) (ha : a.Tells ra sa) :
    (around.right a).Tells rb onward := by
  unfold Tells at *
  rw [← h, ← ha.reads]
  simp only [Around.right, Option.isSome_or, isSome_along_iff, Bool.and_eq_true, Bool.or_eq_true]
  tauto

/-- Inside of a loop the way round counts as well. -/
theorem Tells.loop (h : around.Tells ra onward) (greedy : Bool) :
    (around.loop greedy).Tells ra (onward ∨ ra) := by
  unfold Tells at *
  rw [← h]
  obtain ⟨ahead, again, behind⟩ := around
  cases greedy <;> cases again <;>
    simp [Around.loop, Option.isSome_or]

theorem Tells.group (h : around.Tells ra onward) (enter leave : Mark) :
    (around.group enter leave).Tells ra onward := by
  unfold Tells at *
  rw [← h]
  simp [Around.group, isSome_join]

theorem Tells.value {own : Option Trail} (h : around.Tells (own.isSome = true) onward) :
    (around.value own).isSome = true ↔ onward := by
  unfold Tells at h
  rw [← h]
  simp only [Around.value, Option.isSome_or, isSome_along_iff, Bool.and_eq_true, Bool.or_eq_true]
  tauto

end Around

/-! ## One step of a sweep -/

/-- The cursor at a place of a text. -/
def cursorAt (text : List Char) (i : Nat) : Cursor := ⟨i, charBefore? text i, text[i]?⟩

/-- The letters carry a way to go on right after them at a place iff there is one, where `onward`
tells from which places it goes on after the skeleton. -/
def Skeleton.Informed (text : List Char) (i : Nat) :
    (Nat → Prop) → Skeleton (Option Trail) → Prop
  | _, empty => True
  | onward, letter _ value => value.isSome = true ↔ onward i
  | _, look _ => True
  | onward, concat a b => a.Informed text i (b.Reaches text onward) ∧ b.Informed text i onward
  | onward, alternate a b => a.Informed text i onward ∧ b.Informed text i onward
  | onward, plus _ a => a.Informed text i (a.Cycles text onward)
  | onward, group _ a => a.Informed text i onward

section Step

variable {text : List Char}

/-- The values of the letters do not count for where a skeleton can match. -/
theorem spans_refill (cursor : Cursor) (a : Skeleton (Option Trail)) (around : Around) :
    ((a.sweep cursor).refill around).Spans text = a.Spans text := by
  induction a generalizing around with
  | empty => rfl
  | letter set value => rfl
  | look l => rfl
  | concat a b iha ihb =>
    funext i j
    simp only [Skeleton.sweep, Skeleton.Spans, iha, ihb]
  | alternate a b iha ihb =>
    funext i j
    simp only [Skeleton.sweep, Skeleton.Spans, iha, ihb]
  | plus greedy a ih =>
    funext i j
    simp only [Skeleton.sweep, Skeleton.Spans, ih]
  | group index a ih =>
    funext i j
    simp only [Skeleton.sweep, Skeleton.Spans, ih]

/-- A letter can be read, and one can go on after it, iff it stands in the text and is informed. -/
theorem isSome_letter_iff {i : Nat} {set : CharSet} {value : Option Trail} {onward : Nat → Prop}
    (h : (Skeleton.letter set value).Informed text (i + 1) onward) :
    ((Skeleton.letter set value).sweep (cursorAt text i)).split.early.isSome = true ↔
      (Skeleton.letter set value).Reads text onward i := by
  have hreads : (Skeleton.letter set value).Reads text onward i ↔
      (∃ c, text[i]? = some c ∧ set.contains c = true) ∧ onward (i + 1) := by
    constructor
    · rintro ⟨j, -, ⟨rfl, hc⟩, hj⟩
      exact ⟨hc, hj⟩
    · rintro ⟨hc, hj⟩
      exact ⟨i + 1, Nat.lt_succ_self i, ⟨rfl, hc⟩, hj⟩
  have hvalue : value.isSome = true ↔ onward (i + 1) := h
  rw [hreads, ← hvalue]
  cases htext : text[i]? with
  | none => simp [Skeleton.sweep, cursorAt, htext]
  | some c => by_cases hc : set.contains c = true <;> simp [Skeleton.sweep, cursorAt, htext, hc]

/-- **One step of a sweep**: if the letters are informed at the next place, the ways through the
skeleton tell what it can do from this one, and its letters come out informed at this one. -/
theorem sweep_informed {i : Nat} (a : Skeleton (Option Trail)) {onward : Nat → Prop}
    (h : a.Informed text (i + 1) onward) :
    (a.sweep (cursorAt text i)).split.Tells (a.Reads text onward i) (a.Spans text i i) ∧
      ∀ around : Around, around.Tells (a.Reads text onward i) (onward i) →
        ((a.sweep (cursorAt text i)).refill around).Informed text i onward := by
  induction a generalizing onward with
  | empty =>
    refine ⟨⟨⟨by simp [Skeleton.sweep, Split.reading], ?_⟩, ?_⟩, fun _ _ => trivial⟩
    · rintro ⟨j, hlt, rfl, -⟩
      exact absurd hlt (Nat.lt_irrefl i)
    · simp [Skeleton.sweep, Skeleton.Spans]
  | letter set value =>
    have hown := isSome_letter_iff h
    refine ⟨⟨?_, ?_⟩, fun around hr => ?_⟩
    · rw [← hown, Split.isSome_reading]
      simp [Skeleton.sweep]
    · simp [Skeleton.sweep, Skeleton.Spans]
    · rw [← hown] at hr
      exact hr.value
  | look l =>
    refine ⟨⟨⟨by simp [Skeleton.sweep, Split.reading], ?_⟩, ?_⟩, fun _ _ => trivial⟩
    · rintro ⟨j, hlt, ⟨rfl, -⟩, -⟩
      exact absurd hlt (Nat.lt_irrefl i)
    · simp only [Skeleton.sweep, Skeleton.Spans, Look.HoldsAt, cursorAt, true_and]
      by_cases hl : l.holds (charBefore? text i) text[i]? = true <;> simp [hl]
  | concat a b iha ihb =>
    obtain ⟨ha, hb⟩ := h
    obtain ⟨hsa, hfa⟩ := iha ha
    obtain ⟨hsb, hfb⟩ := ihb hb
    rw [Skeleton.reads_concat, Skeleton.spans_concat_self]
    refine ⟨hsa.concat hsb, fun around hr => ⟨?_, ?_⟩⟩
    · unfold Skeleton.Reaches
      rw [spans_refill]
      refine hfa _ ?_
      rw [Skeleton.reaches_iff]
      exact hr.first hsb
    · exact hfb _ (hr.second hsa)
  | alternate a b iha ihb =>
    obtain ⟨hsa, hfa⟩ := iha h.1
    obtain ⟨hsb, hfb⟩ := ihb h.2
    rw [Skeleton.reads_alternate]
    exact ⟨hsa.alternate hsb, fun around hr => ⟨hfa _ (hr.left hsb), hfb _ (hr.right hsa)⟩⟩
  | plus greedy a ih =>
    obtain ⟨hs, hf⟩ := ih h
    rw [Skeleton.reads_plus, Skeleton.spans_plus_self]
    refine ⟨hs, fun around hr => ?_⟩
    change Skeleton.Informed _ _ (Skeleton.Cycles text _ onward) _
    unfold Skeleton.Cycles
    rw [spans_refill]
    refine hf _ ?_
    rw [Skeleton.cycles_iff]
    exact hr.loop greedy
  | group index a ih =>
    obtain ⟨hs, hf⟩ := ih h
    exact ⟨hs.group _ _, fun around hr => hf _ (hr.group _ _)⟩

end Step

/-! ## Whole texts -/

namespace Skeleton

/-- No letter carries a value. -/
def Uninformed : Skeleton (Option Trail) → Prop
  | empty => True
  | letter _ value => value = none
  | look _ => True
  | concat a b => a.Uninformed ∧ b.Uninformed
  | alternate a b => a.Uninformed ∧ b.Uninformed
  | plus _ a => a.Uninformed
  | group _ a => a.Uninformed

section Closed

variable {α : Type} {P : Skeleton α → Prop} {a : Skeleton α}

/-- What is kept by going on, by alternatives and by loops is kept where counts are written out. -/
theorem rounds_closed (hempty : P empty) (hconcat : ∀ a b, P a → P b → P (concat a b))
    (halternate : ∀ a b, P a → P b → P (alternate a b))
    (hplus : ∀ greedy a, P a → P (plus greedy a)) (count : Repetition) (greedy : Bool) (h : P a) :
    P (rounds count greedy a) := by
  have hoption (a : Skeleton α) (h : P a) : P (option greedy a) := by
    cases greedy
    · exact halternate _ _ hempty h
    · exact halternate _ _ h hempty
  have htimes (n : Nat) : P (times a n) := by
    induction n using Nat.strongRecOn with
    | ind n ih =>
      rw [times]
      split
      · exact hempty
      · split
        · exact h
        · exact hconcat _ _ (ih _ (by omega)) (ih _ (by omega))
  have hupTo (n : Nat) : P (upTo greedy a n) := by
    induction n using upTo.induct with
    | case1 => exact hempty
    | case2 => exact hoption _ h
    | case3 n hn ih => rw [upTo.eq_3 _ _ _ hn]; exact hoption _ (hconcat _ _ h ih)
  unfold rounds
  split
  · unfold fromOn
    split
    · exact hoption _ (hplus _ _ h)
    · exact hplus _ _ h
    · exact hconcat _ _ (htimes _) (hplus _ _ h)
  · split
    · exact htimes _
    · split
      · exact hupTo _
      · exact hconcat _ _ (htimes _) (hupTo _)

end Closed

variable {a : Skeleton (Option Trail)}

theorem uninformed_unroll (r : Regex) : (r.unroll (none : Option Trail)).Uninformed := by
  induction r with
  | empty => trivial
  | letter set => rfl
  | look l => trivial
  | concat a b iha ihb => exact ⟨iha, ihb⟩
  | alternate a b iha ihb => exact ⟨iha, ihb⟩
  | repetition count greedy a ih =>
    exact rounds_closed (P := Uninformed) trivial (fun _ _ ha hb => ⟨ha, hb⟩)
      (fun _ _ ha hb => ⟨ha, hb⟩) (fun _ _ ha => ha) count greedy ih
  | group index a ih => exact ih

/-- Where nothing leads on, letters without values are informed. -/
theorem Uninformed.informed {text : List Char} {onward : Nat → Prop} {i : Nat}
    (h : a.Uninformed) (hno : ∀ j, i ≤ j → ¬ onward j) : a.Informed text i onward := by
  induction a generalizing onward with
  | empty => trivial
  | letter set value =>
    obtain rfl : value = none := h
    exact ⟨nofun, fun hi => absurd hi (hno i (Nat.le_refl i))⟩
  | look l => trivial
  | concat a b iha ihb =>
    refine ⟨iha h.1 ?_, ihb h.2 hno⟩
    rintro j hj ⟨k, hs, hk⟩
    exact hno k (Nat.le_trans hj hs.le) hk
  | alternate a b iha ihb => exact ⟨iha h.1 hno, ihb h.2 hno⟩
  | plus greedy a ih =>
    refine ih h ?_
    rintro j hj ⟨n, k, hr, hk⟩
    exact hno k (Nat.le_trans hj (hr.le Spans.le)) hk
  | group index a ih => exact ih h hno

end Skeleton

/-- What a column knows of a text from a place on: its letters are informed there, and a match is
found at every place from there on where one begins. -/
structure Column.Knows (text : List Char) (s : Skeleton (Option Trail)) (i : Nat)
    (column : Column) : Prop where
  spans : column.values.Spans text = s.Spans text
  informed : column.values.Informed text i (· ≤ text.length)
  found : ∀ k, column.found[k]?.join.isSome = true ↔
    i + k ≤ text.length ∧ ∃ j, s.Spans text (i + k) j

theorem Column.Knows.back {text : List Char} {s : Skeleton (Option Trail)} {i : Nat}
    {column : Column} (h : column.Knows text s (i + 1)) (hi : i ≤ text.length) :
    (column.back (cursorAt text i)).Knows text s i := by
  obtain ⟨htells, hrefill⟩ := sweep_informed column.values h.informed
  have hvalue : (((column.values.sweep (cursorAt text i)).split.value
      (some ⟨(cursorAt text i).place, []⟩)).isSome = true ↔ ∃ j, s.Spans text i j) := by
    rw [Split.isSome_value, Bool.or_eq_true, htells.reads, Option.isSome_some, Bool.and_true,
      htells.skips]
    constructor
    · rintro (⟨j, -, hs, -⟩ | hs)
      · exact ⟨j, h.spans ▸ hs⟩
      · exact ⟨i, h.spans ▸ hs⟩
    · rintro ⟨j, hs⟩
      rw [← h.spans] at hs
      have hreach : column.values.Reaches text (· ≤ text.length) i := ⟨j, hs, hs.le_length hi⟩
      exact (Skeleton.reaches_iff.mp hreach).imp_right And.left
  refine ⟨(spans_refill _ _ _).trans h.spans, hrefill _ ?_, fun k => ?_⟩
  · simp [Around.outermost, Around.Tells, hi]
  · cases k with
    | zero => simpa [Column.back, hi] using hvalue
    | succ k => simpa [Column.back, Nat.add_right_comm i 1 k, Nat.add_assoc] using h.found k

/-- What holds behind the end of a text and is kept by one step to the left holds of the whole
text. -/
theorem column_induction {text : List Char} {P : Nat → Column → Prop}
    {s : Skeleton (Option Trail)} (hend : P (text.length + 1) ⟨s, []⟩)
    (hback : ∀ i column, i ≤ text.length → P (i + 1) column →
      P i (column.back (cursorAt text i))) :
    P 0 ((cursors 0 none text).foldr Column.back ⟨s, []⟩) := by
  have hall (rest before : List Char) (h : text = before ++ rest) :
      P before.length ((cursors before.length (charBefore? text before.length) rest).foldr
        Column.back ⟨s, []⟩) := by
    induction rest generalizing before with
    | nil =>
      have hcursor : (⟨before.length, charBefore? text before.length, none⟩ : Cursor) =
          cursorAt text before.length := by
        simp [cursorAt, h]
      rw [cursors, List.foldr_cons, List.foldr_nil, hcursor]
      rw [h, List.append_nil] at hend
      exact hback _ _ (by simp [h]) hend
    | cons c rest ih =>
      have hat : text[before.length]? = some c := by simp [h]
      have hnext := ih (before ++ [c]) (by simp [h])
      rw [List.length_append, List.length_singleton] at hnext
      have hbefore : charBefore? text (before.length + 1) = some c := by
        simp [charBefore?, hat]
      have hcursor : (⟨before.length, charBefore? text before.length, some c⟩ : Cursor) =
          cursorAt text before.length := by
        rw [cursorAt, hat]
      rw [cursors, List.foldr_cons, hcursor]
      rw [hbefore] at hnext
      exact hback _ _ (by simp [h]) hnext
  exact hall text [] rfl

theorem knows_found {s : Skeleton (Option Trail)} (hs : s.Uninformed) (text : List Char) :
    Column.Knows text s 0 ((cursors 0 none text).foldr Column.back ⟨s, []⟩) := by
  refine column_induction ⟨rfl, hs.informed fun j hj => ?_, fun k => ?_⟩
    fun i column hi h => h.back hi
  · omega
  · simp
    omega

/-- **A way is found at a place iff the expression can match from there.** -/
theorem found_isSome_iff (r : Regex) (text : List Char) (i : Nat) :
    ((r.unroll none).found text)[i]?.join.isSome = true ↔
      i ≤ text.length ∧ ∃ j, r.Spans text i j := by
  have h := (knows_found (Skeleton.uninformed_unroll r) text).found i
  simp only [Nat.zero_add, spans_unroll] at h
  exact h

/-- **There is a match iff the expression can match between two places of the text.** -/
theorem isMatch_iff (r : Regex) (text : List Char) :
    ((r.unroll none).found text).any Option.isSome = true ↔
      ∃ i j, i ≤ text.length ∧ r.Spans text i j := by
  rw [List.any_eq_true]
  constructor
  · rintro ⟨way, hmem, hway⟩
    obtain ⟨i, hi⟩ := List.mem_iff_getElem?.mp hmem
    obtain ⟨hle, j, hs⟩ := (found_isSome_iff r text i).mp (by rw [hi]; exact hway)
    exact ⟨i, j, hle, hs⟩
  · rintro ⟨i, j, hle, hs⟩
    have hsome := (found_isSome_iff r text i).mpr ⟨hle, j, hs⟩
    cases hget : ((r.unroll none).found text)[i]? with
    | none => simp [hget] at hsome
    | some way => exact ⟨way, List.mem_of_getElem? hget, by simpa [hget] using hsome⟩

end Verbal.Regular
