/-!
# What readers return

A reader of a text returns what it read together with the text that it left over, which is never
longer than what it was given. The types say so, and loops of readers end because of it.
-/

namespace Verbal

theorem length_le_cons (c : Char) (s : List Char) : s.length ≤ (c :: s).length := Nat.le_succ _

theorem cons_length_le_cons {c d : Char} {r s : List Char} (h : (d :: r).length ≤ s.length) :
    (d :: r).length ≤ (c :: s).length :=
  Nat.le_succ_of_le h

theorem length_dropWhile_le (p : Char → Bool) (s : List Char) :
    (s.dropWhile p).length ≤ s.length :=
  (List.dropWhile_sublist p).length_le

theorem length_le_of_drop {n : Nat} {s r : List Char} {c : Char} (h : s.drop n = c :: r) :
    r.length ≤ s.length := by
  have := congrArg List.length h
  rw [List.length_drop, List.length_cons] at this
  omega

theorem length_le_of_dropWhile {p : Char → Bool} {s r : List Char} {c : Char}
    (h : s.dropWhile p = c :: r) : r.length ≤ s.length := by
  have := length_dropWhile_le p s
  rw [h, List.length_cons] at this
  omega

/-- What may be left over of a text. -/
abbrev Rest (s : List Char) : Type := { r : List Char // r.length ≤ s.length }

theorem Rest.length_le {s : List Char} (r : Rest s) : r.1.length ≤ s.length := r.2

/-- What a reader makes of a text: a fault, or a value and the text left over. -/
abbrev Reading (ε α : Type) (s : List Char) : Type := Except ε (α × Rest s)

/-- The reading of a part of a text as a reading of the text. -/
def Reading.within {ε α : Type} {s t : List Char} (h : t.length ≤ s.length) :
    Reading ε α t → Reading ε α s
  | .ok (a, r) => .ok (a, ⟨r.1, Nat.le_trans r.2 h⟩)
  | .error e => .error e

/-- All of a text. -/
def Rest.all (s : List Char) : Rest s := ⟨s, Nat.le_refl _⟩

@[simp]
theorem Rest.coe_all (s : List Char) : (Rest.all s).1 = s := rfl

/-- What is left over of a part of a text, as what is left over of the text. -/
def Rest.within {s t : List Char} (h : t.length ≤ s.length) (r : Rest t) : Rest s :=
  ⟨r.1, Nat.le_trans r.2 h⟩

end Verbal
