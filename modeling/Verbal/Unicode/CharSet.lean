import Verbal.Unicode.CaseFolding
import Verbal.Unicode.Word

/-!
# Character sets

A set of characters is kept as the way it was put together, from ranges and tables by the set
operations and by closure under case folding. `CharSet.contains` decides membership one character at
a time; no set is ever listed.
-/

namespace Verbal.Unicode

/-- A set of characters. -/
inductive CharSet where
  | none
  | range (lo hi : Char)
  | table (ranges : RangeTree)
  | union (a b : CharSet)
  | inter (a b : CharSet)
  | diff (a b : CharSet)
  | symDiff (a b : CharSet)
  | compl (a : CharSet)
  /-- The characters that are the same but for case as one in the set. -/
  | anyCase (a : CharSet)
  /-- As `anyCase`, but only the ASCII letters have case. -/
  | anyCaseAscii (a : CharSet)
  deriving Repr, DecidableEq

namespace CharSet

/-- An ASCII letter in the other case, another character as it is. -/
def swapAscii (c : Char) : Char :=
  if c.isLower then c.toUpper else c.toLower

/-- Membership. -/
def contains : CharSet → Char → Bool
  | none, _ => false
  | range lo hi, c => lo ≤ c && c ≤ hi
  | table ranges, c => ranges.contains c.toNat
  | union a b, c => a.contains c || b.contains c
  | inter a b, c => a.contains c && b.contains c
  | diff a b, c => a.contains c && !b.contains c
  | symDiff a b, c => a.contains c != b.contains c
  | compl a, c => !a.contains c
  | anyCase a, c => (caseVariants c).any fun d => a.contains d
  | anyCaseAscii a, c => a.contains c || a.contains (swapAscii c)

/-- The set of one character. -/
def single (c : Char) : CharSet := range c c

/-- The set of the characters listed. -/
def ofChars : List Char → CharSet
  | [] => none
  | [c] => single c
  | c :: cs => union (single c) (ofChars cs)

/-- The union of the sets listed. -/
def unions : List CharSet → CharSet
  | [] => none
  | [a] => a
  | a :: as => union a (unions as)

/-- Every character. -/
def all : CharSet := compl none

/-- Word characters. -/
def word : CharSet := table wordTree

/-- Decimal digits. -/
def decimal : CharSet := table decimalTree

/-- White space. -/
def space : CharSet := table spaceTree

/-- The ASCII characters that can stand in a word. -/
def wordAscii : CharSet :=
  unions [range '0' '9', range 'A' 'Z', single '_', range 'a' 'z']

/-- The ASCII digits. -/
def decimalAscii : CharSet := range '0' '9'

/-- The ASCII white space characters. -/
def spaceAscii : CharSet := union (range '\t' '\r') (single ' ')

/-- Whether an ASCII character can stand in a word. -/
def isWordAscii (c : Char) : Bool := wordAscii.contains c

end CharSet

end Verbal.Unicode
