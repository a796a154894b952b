/-!
# Search trees of code point ranges

A set of code points is kept as a binary search tree of disjoint ranges. `RangeTree.ofList` builds
a tree of least height from ranges in ascending order, and `RangeTree.ofText` reads them in the
notation of the character database, hexadecimal and separated by blanks or line ends:
`41-5A 61-7A AA`.
-/

namespace Verbal.Unicode

/-- A set of code points, as a search tree of closed ranges in ascending order. -/
inductive RangeTree where
  | empty
  | node (left : RangeTree) (lo hi : Nat) (right : RangeTree)
  deriving Repr, DecidableEq

namespace RangeTree

/-- Membership: at most one range is compared on each level. -/
def contains : RangeTree → Nat → Bool
  | empty, _ => false
  | node left lo hi right, c =>
    if c < lo then left.contains c else if hi < c then right.contains c else true

/-- A tree of at most the given height over the first ranges of the list, and the ranges that it
did not take. -/
def fill : Nat → List (Nat × Nat) → RangeTree × List (Nat × Nat)
  | 0, ranges => (empty, ranges)
  | height + 1, ranges =>
    let (left, ranges) := fill height ranges
    match ranges with
    | [] => (left, [])
    | (lo, hi) :: ranges =>
      let (right, ranges) := fill height ranges
      (node left lo hi right, ranges)

/-- The tree of the given ranges, which are disjoint and ascending. -/
def ofList (ranges : List (Nat × Nat)) : RangeTree :=
  (fill (ranges.length.log2 + 1) ranges).1

/-- The ranges in the tree, in ascending order. -/
def toList : RangeTree → List (Nat × Nat)
  | empty => []
  | node left lo hi right => left.toList ++ (lo, hi) :: right.toList

/-- The value of a hexadecimal digit in capitals. -/
def hexDigit (c : Char) : Nat :=
  if c.toNat ≤ 57 then c.toNat - 48 else c.toNat - 55

/-- Reads ranges in the notation `41-5A 61-7A AA`; `lo` is the start of the range being read, if a
dash was met, and `n` the number being read, if there is one. -/
def ranges (lo n : Option Nat) : List Char → List (Nat × Nat)
  | [] => (n.map fun n => (lo.getD n, n)).toList
  | c :: cs =>
    if c = ' ' ∨ c = '\n' then
      match n with
      | none => ranges none none cs
      | some n => (lo.getD n, n) :: ranges none none cs
    else if c = '-' then ranges n none cs
    else ranges lo (some (16 * n.getD 0 + hexDigit c)) cs

/-- The tree of the ranges written in `text`. -/
def ofText (text : String) : RangeTree :=
  ofList (ranges none none text.toList)

end RangeTree

end Verbal.Unicode
