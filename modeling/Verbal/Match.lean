/-!
# Matches

Places are counted in characters from the beginning of the text; `byteOffset` turns them into the
offsets of the encoded text, which is what is shown. A match keeps the marks that were made on its
way, and the last mark of each kind tells where a group stands.
-/

namespace Verbal

/-- The beginning (slot `2 i`) or end (slot `2 i + 1`) of group `i` at a place. -/
structure Mark where
  slot : Nat
  place : Nat
  deriving Repr, DecidableEq

/-- Where the slot was marked last. -/
def lastMark? (slot : Nat) : List Mark → Option Nat
  | [] => none
  | m :: ms => (lastMark? slot ms).or (if m.slot = slot then some m.place else none)

/-- A match: where it begins and ends, and the marks that it made, in order. -/
structure Match where
  start : Nat
  stop : Nat
  marks : List Mark
  deriving Repr, DecidableEq

namespace Match

/-- Where a group begins and ends, if it took part; group 0 is the whole match. -/
def group? (m : Match) (index : Nat) : Option (Nat × Nat) :=
  if index = 0 then some (m.start, m.stop)
  else
    match lastMark? (2 * index) m.marks, lastMark? (2 * index + 1) m.marks with
    | some start, some stop => some (start, stop)
    | _, _ => none

end Match

/-- The characters of a text from one place to another. -/
def slice (text : List Char) (start stop : Nat) : List Char :=
  (text.drop start).take (stop - start)

/-- The length of the encoded text. -/
def byteLength : List Char → Nat
  | [] => 0
  | c :: text => c.utf8Size + byteLength text

theorem byteLength_append (s t : List Char) :
    byteLength (s ++ t) = byteLength s + byteLength t := by
  induction s with
  | nil => exact (Nat.zero_add _).symm
  | cons c s ih => rw [List.cons_append, byteLength, byteLength, ih, Nat.add_assoc]

/-- The offset of a place in the encoded text. -/
def byteOffset (text : List Char) (place : Nat) : Nat := byteLength (text.take place)

/-- The span of a match in the encoded text. -/
def Match.span (text : List Char) (m : Match) : Nat × Nat :=
  (byteOffset text m.start, byteOffset text m.stop)

/-- The text from a place on, with what `expand` makes of each match in the place of the match. -/
def splice (text : List Char) (expand : Match → List Char) : Nat → List Match → List Char
  | place, [] => text.drop place
  | place, m :: ms =>
    slice text place m.start ++ expand m ++ splice text expand m.stop ms

end Verbal
