import Verbal.Reading
import Verbal.Extended.Fault

/-!
# Blanks and comments of extended patterns

Between the pieces of an extended pattern, comments in parentheses may stand anywhere; in verbose
mode, so may blanks and comments from `#` to the end of the line.
-/

namespace Verbal.Extended

/-- What a reader makes of an extended pattern. -/
abbrev Reading (α : Type) (s : List Char) : Type := Verbal.Reading Fault α s

/-- Where one is among blanks and comments. -/
inductive Gap where
  | outside
  | line
  | group
  /-- After a backslash in a comment in parentheses. -/
  | escaped
  deriving Repr, DecidableEq

/-- Whether a character is a blank in verbose mode. -/
def isBlank (c : Char) : Bool := c = ' ' || c = '\t' || c = '\n' || c = '\r'

/-- Drops blanks and comments. -/
def Gap.skip (verbose : Bool) : Gap → List Char → Except Fault (List Char)
  | outside, [] => .ok []
  | line, [] => .ok []
  | group, [] => .error .groupUnclosed
  | escaped, [] => .error .groupUnclosed
  | line, c :: s => skip verbose (if c = '\n' then outside else line) s
  | group, c :: s =>
    skip verbose (if c = ')' then outside else if c = '\\' then escaped else group) s
  | escaped, _ :: s => skip verbose group s
  | outside, c :: s =>
    if verbose && isBlank c then skip verbose outside s
    else if verbose && c = '#' then skip verbose line s
    else if ['(', '?', '#'].isPrefixOf (c :: s) then skip verbose group s
    else .ok (c :: s)

theorem Gap.length_le_of_skip {verbose : Bool} {gap : Gap} {s r : List Char}
    (h : gap.skip verbose s = .ok r) : r.length ≤ s.length := by
  fun_induction Gap.skip verbose gap s <;> grind

/-- What is left of a text after the blanks and comments in front. -/
def skipGaps (verbose : Bool) (s : List Char) : Except Fault (Rest s) :=
  match h : Gap.outside.skip verbose s with
  | .ok r => .ok ⟨r, Gap.length_le_of_skip h⟩
  | .error e => .error e

end Verbal.Extended
