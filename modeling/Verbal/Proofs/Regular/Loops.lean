import Verbal.Proofs.Regular.Choices

/-!
# A greedy loop stops where no other round can begin

What is found of a greedy loop is found with as many rounds as there are. While the text is swept,
the last letter of a round carries the best way on: into the next round if one begins there, and out
of the loop only if none does. So the ways that the letters carry all stop where no round begins.

* `Skeleton.Letters`: letters one after the other, as a word is written out.
* **`not_spans_of_found`**: what is found of a greedy repetition of a word stops where the word
  cannot be read once more.
-/

namespace Verbal.Regular

/-! ## Words -/

namespace Skeleton

variable {α : Type}

/-- Whether there are only letters, one after the other. -/
def Letters : Skeleton α → Prop
  | letter _ _ => True
  | concat a b => a.Letters ∧ b.Letters
  | _ => False

theorem letters_ofText (anyCase : Bool) {word : List Char} (h : word ≠ []) (value : α) :
    ((Regex.ofText anyCase word).unroll value).Letters := by
  induction word with
  | nil => exact absurd rfl h
  | cons c word ih =>
    cases word with
    | nil => trivial
    | cons d word => exact ⟨trivial, ih (List.cons_ne_nil d word)⟩

end Skeleton

/-- Letters without values hand on no ways. -/
theorem Skeleton.Letters.ungrouped {a : Skeleton (Option Trail)} {P : Trail → Prop}
    (h : a.Letters) (ha : a.Uninformed) : a.Ungrouped P := by
  induction a with
  | letter set value =>
    obtain rfl : value = none := ha
    exact nofun
  | concat a b iha ihb => exact ⟨iha h.1 ha.1, ihb h.2 ha.2⟩
  | _ => exact h.elim

section Words

variable {a : Skeleton (Option Trail)} (cursor : Cursor)

/-- A word is read, if there is a way through it. -/
theorem split_letters (h : a.Letters) :
    (a.sweep cursor).split = ⟨(a.sweep cursor).split.early, none, none⟩ := by
  induction a with
  | letter set value => rfl
  | concat a b iha ihb =>
    rw [Skeleton.sweep]
    dsimp only
    rw [iha h.1]
    rfl
  | _ => exact h.elim

theorem letters_refill (h : a.Letters) (around : Around) :
    ((a.sweep cursor).refill around).Letters := by
  induction a generalizing around with
  | letter set value => trivial
  | concat a b iha ihb => exact ⟨iha h.1 _, ihb h.2 _⟩
  | _ => exact h.elim

/-- What is around a word is not looked at before its end, where it makes no difference whether the
way into another round is given as such. -/
theorem refill_letters (h : a.Letters) (around : Around) :
    (a.sweep cursor).refill around =
      (a.sweep cursor).refill ⟨around.value (a.sweep cursor).split.early, none, none⟩ := by
  have hvalue (next own : Option Trail) : (Around.mk next none none).value own = next := by
    simp [Around.value, along]
  induction a generalizing around with
  | letter set value => exact congrArg (Skeleton.letter set) (hvalue _ _).symm
  | concat a b iha ihb =>
    have hsa := split_letters cursor h.1
    have hsb := split_letters cursor h.2
    simp only [Skeleton.sweep]
    rw [hsa, hsb, ihb h.2 (around.second _), ihb h.2 (Around.second _ _)]
    congr 2
    simp [Around.second, Around.value, Split.concat, Split.reading, along, Option.or_assoc]
  | _ => exact h.elim

end Words

/-! ## Loops -/

section Loops

variable {a : Skeleton (Option Trail)} {text : List Char}

/-- Whether a way stops where a part cannot be read. -/
def Stuck (text : List Char) (a : Skeleton (Option Trail)) (t : Trail) : Prop :=
  ¬∃ j, a.Spans text t.stop j

/-- What a column knows of a greedy loop: all its ways stop where there is no other round. -/
structure Column.Exhausts (text : List Char) (a : Skeleton (Option Trail)) (i : Nat)
    (column : Column) : Prop extends column.Knows text (.plus true a) i where
  values : ∃ b : Skeleton (Option Trail), column.values = .plus true b ∧ b.Letters ∧
    b.Ungrouped (Stuck text (.plus true a))
  stuck : ∀ (k : Nat) (t : Trail), column.found[k]?.join = some t → Stuck text (.plus true a) t

theorem Column.Exhausts.back {i : Nat} {column : Column} (h : column.Exhausts text a (i + 1))
    (hi : i ≤ text.length) : (column.back (cursorAt text i)).Exhausts text a i := by
  obtain ⟨b, hb, hletters, hungrouped⟩ := h.values
  have hknows := h.toKnows.back hi
  have hsplit := split_letters (cursorAt text i) hletters
  obtain ⟨hways, hrefill⟩ := sweep_ungrouped (cursorAt text i) hungrouped
  generalize hearly : (b.sweep (cursorAt text i)).split.early = early at hsplit
  have hfound : (column.back (cursorAt text i)).found = early :: column.found := by
    simp [Column.back, hb, Skeleton.sweep, hsplit, Split.value, along]
  -- at the end of a round there is the next one, and the way out if there is none
  have hvalues : (column.back (cursorAt text i)).values =
      .plus true ((b.sweep (cursorAt text i)).refill
        ⟨early.or (some ⟨i, []⟩), none, none⟩) := by
    simp only [Column.back, hb, Skeleton.sweep]
    rw [refill_letters _ hletters, hearly]
    cases early <;> rfl
  refine ⟨hknows, ⟨_, hvalues, letters_refill _ hletters _,
    hrefill _ ⟨?_, forall_mem_none, forall_mem_none⟩⟩, ?_⟩
  · cases early with
    | some t =>
      rintro _ ⟨⟩
      exact hways.early t hearly
    | none =>
      rintro _ ⟨⟩
      rintro ⟨j, hs⟩
      have hsome := (hknows.found 0).mpr ⟨hi, j, hs⟩
      rw [hfound] at hsome
      cases hsome
  · rintro (_ | k) t ht
    · rw [hfound] at ht
      exact hways.early t (hearly.trans ht)
    · rw [hfound] at ht
      exact h.stuck k t ht

/-- What is found of a greedy loop stops where there is no other round. -/
theorem stuck_of_found_plus (hletters : a.Letters) (ha : a.Uninformed) {i : Nat} {t : Trail}
    (h : ((Skeleton.plus true a).found text)[i]?.join = some t) : Stuck text a t := by
  have hexhausts : Column.Exhausts text a 0
      ((cursors 0 none text).foldr Column.back ⟨.plus true a, []⟩) := by
    refine column_induction ⟨⟨rfl, ?_, fun k => ?_⟩, ⟨a, rfl, hletters, hletters.ungrouped ha⟩,
      fun k t ht => ?_⟩ fun i column hi h => h.back hi
    · exact Skeleton.Uninformed.informed (a := .plus true a) ha fun j hj => by omega
    · simp
      omega
    · cases ht
  rintro ⟨j, hs⟩
  exact hexhausts.stuck i t h ⟨j, 0, rounds_one.mpr hs⟩

/-- So does what is found of an optional one, which may be nothing. -/
theorem stuck_of_found_option (hletters : a.Letters) (ha : a.Uninformed) {i : Nat} {t : Trail}
    (h : ((Skeleton.option true (.plus true a)).found text)[i]?.join = some t) :
    Stuck text a t := by
  rw [show Skeleton.option true (.plus true a) = (Skeleton.plus true a).alternate .empty from rfl,
    found_alternate] at h
  cases hloop : ((Skeleton.plus true a).found text)[i]?.join with
  | some t' =>
    rw [hloop] at h
    obtain rfl := Option.some.inj h
    exact stuck_of_found_plus hletters ha hloop
  | none =>
    rw [hloop] at h
    have hempty : (((Regex.empty.unroll none).found text)[i]?.join) = some t := h
    obtain ⟨hle, -⟩ := (found_isSome_iff .empty text i).mp (by rw [hempty]; rfl)
    rintro ⟨j, hs⟩
    rw [← show i = t.stop from spans_of_found hempty] at hs
    have hsome : ((Skeleton.plus true a).found text)[i]?.join.isSome = true :=
      ((knows_found (s := .plus true a) ha text).found i).mpr
        ⟨by omega, j, 0, rounds_one.mpr (by rwa [Nat.zero_add])⟩
    rw [hloop] at hsome
    cases hsome

/-- **What is found of a greedy repetition of a word** stops where the word cannot be read once
more. -/
theorem not_spans_of_found {anyCase : Bool} {word : List Char} (hword : word ≠ []) {least : Nat}
    (hleast : least ≤ 1) {i j : Nat} {t : Trail}
    (h : (((Regex.repetition ⟨least, none⟩ true (.ofText anyCase word)).unroll none).found
      text)[i]?.join = some t) : ¬(Regex.ofText anyCase word).Spans text t.stop j := by
  have hletters := Skeleton.letters_ofText anyCase hword (none : Option Trail)
  have huninformed := Skeleton.uninformed_unroll (Regex.ofText anyCase word)
  have hstuck : Stuck text ((Regex.ofText anyCase word).unroll none) t := by
    obtain rfl | rfl := Nat.le_one_iff_eq_zero_or_eq_one.mp hleast
    · exact stuck_of_found_option hletters huninformed h
    · exact stuck_of_found_plus hletters huninformed h
  exact fun hs => hstuck ⟨j, spans_unroll.mpr hs⟩

end Loops

end Verbal.Regular
