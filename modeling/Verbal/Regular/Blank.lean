import Verbal.Reading
import Verbal.Regular.Fault
import Verbal.Unicode.Word

/-!
# Blanks and comments

In verbose mode, blanks and comments from `#` to the end of the line may stand almost anywhere in a
pattern.
-/

namespace Verbal.Regular

open Verbal.Unicode

/-- What a reader makes of a regular pattern. -/
abbrev Reading (α : Type) (s : List Char) : Type := Verbal.Reading Fault α s

/-- Drops blanks and comments, from inside of a comment or from outside. -/
def dropBlanks : Bool → List Char → List Char
  | _, [] => []
  | true, c :: s => if c = '\n' then dropBlanks false s else dropBlanks true s
  | false, c :: s =>
    if isSpace c then dropBlanks false s
    else if c = '#' then dropBlanks true s
    else c :: s

theorem dropBlanks_length_le (comment : Bool) (s : List Char) :
    (dropBlanks comment s).length ≤ s.length := by
  fun_induction dropBlanks comment s <;> simp_all <;> omega

/-- What is left of a text after the blanks and comments in front, which only verbose mode has. -/
def skipBlanks (verbose : Bool) (s : List Char) : List Char :=
  if verbose then dropBlanks false s else s

@[simp]
theorem skipBlanks_false (s : List Char) : skipBlanks false s = s := rfl

theorem skipBlanks_length_le (verbose : Bool) (s : List Char) :
    (skipBlanks verbose s).length ≤ s.length := by
  cases verbose
  · exact Nat.le_refl _
  · exact dropBlanks_length_le false s

theorem length_le_of_skipBlanks {verbose : Bool} {s r : List Char} {c : Char}
    (h : skipBlanks verbose s = c :: r) : r.length < s.length := by
  have := skipBlanks_length_le verbose s
  rw [h, List.length_cons] at this
  omega

/-- The next character that is neither blank nor the beginning of a comment. The end of a comment
is not looked for, and where nothing else follows a blank is taken after all. -/
def peekBlanks (verbose : Bool) (s : List Char) : Option Char :=
  if verbose then
    match s.dropWhile isSpace with
    | '#' :: r => (r.dropWhile isSpace).head?.or s.head?
    | r => r.head?.or s.head?
  else s.head?

end Verbal.Regular
