import Verbal.Regular.Escape

/-!
# Reading bracketed classes

`readClass` reads a class after its opening bracket. A class holds characters, ranges, escapes and
further classes, and the operators `&&`, `--` and `~~`, which bind alike and to the left; classes
that are still open wait in a list, the innermost first.
-/

namespace Verbal.Regular

open Verbal.Unicode

/-- A class that is still open: the operator that waits for its right side, with its left side, and
the items read since then, the last one first. -/
structure OpenClass where
  negated : Bool
  pending : Option (SetOp × ClassItem)
  items : List ClassItem
  deriving Repr, DecidableEq

namespace OpenClass

/-- Adds an item. -/
def push (cls : OpenClass) (item : ClassItem) : OpenClass :=
  { cls with items := item :: cls.items }

/-- What was read so far. -/
def set (cls : OpenClass) : ClassItem :=
  let items := .ofItems cls.items.reverse
  match cls.pending with
  | none => items
  | some (op, left) => .combine op left items

/-- Begins the right side of an operator. -/
def combine (cls : OpenClass) (op : SetOp) : OpenClass :=
  { cls with pending := some (op, cls.set), items := [] }

/-- The class when it is closed. -/
def close (cls : OpenClass) : ClassItem := .bracketed cls.negated cls.set

end OpenClass

/-- Reads dashes in front of the first item, each of which stands for itself. -/
def readDashes (verbose : Bool) (cls : OpenClass) (s : List Char) : Reading OpenClass s :=
  match h : s with
  | [] => .error .classUnclosed
  | c :: r =>
    if c = '-' then
      have hr : (skipBlanks verbose r).length < s.length := by
        rw [h, List.length_cons]
        exact Nat.lt_succ_of_le (skipBlanks_length_le verbose r)
      (readDashes verbose (cls.push (.letter ⟨'-', false⟩)) (skipBlanks verbose r)).within
        (Nat.le_of_lt (h ▸ hr))
    else .ok (cls, .all (c :: r))
termination_by s.length
decreasing_by exact h ▸ hr

/-- Reads a bracket that stands for itself because it is the first item. -/
def readFirstBracket (verbose : Bool) (cls : OpenClass) : (s : List Char) → Reading OpenClass s
  | [] => .error .classUnclosed
  | c :: r =>
    if c = ']' && cls.items.isEmpty then
      match skipBlanks verbose r, skipBlanks_length_le verbose r with
      | [], _ => .error .classUnclosed
      | d :: r, h => .ok (cls.push (.letter ⟨']', false⟩), ⟨d :: r, cons_length_le_cons h⟩)
    else .ok (cls, .all (c :: r))

/-- Reads what may stand in front of the items of a class: a caret, and dashes or a bracket. -/
def readOpening (verbose : Bool) (s : List Char) : Reading OpenClass s :=
  match skipBlanks verbose s, skipBlanks_length_le verbose s with
  | [], _ => .error .classUnclosed
  | c :: r, h =>
    let negated := c == '^'
    let start := if negated then skipBlanks verbose r else c :: r
    have hstart : start.length ≤ s.length := by
      have := skipBlanks_length_le verbose r
      simp only [start, List.length_cons] at *
      split <;> simp <;> omega
    ((readDashes verbose ⟨negated, none, []⟩ start).within hstart).bind fun (cls, rest) =>
      (readFirstBracket verbose cls rest.1).within rest.2

/-- Reads an ASCII class after its opening bracket. A text that is none is left to be read as a
class like any other. -/
def readAscii? : (s : List Char) → Option (ClassItem × { r : List Char // r.length ≤ s.length })
  | ':' :: r =>
    let negated := r.head? == some '^'
    let start := if negated then r.tail else r
    match h : start.dropWhile (· != ':') with
    | ':' :: ']' :: rest =>
      (AsciiClass.ofName? (start.takeWhile (· != ':'))).map fun kind =>
        (.ascii kind negated, ⟨rest, by
          have h1 := length_dropWhile_le (· != ':') start
          have h2 : start.length ≤ r.length := by simp only [start]; split <;> simp
          rw [h] at h1
          simp only [List.length_cons] at *
          omega⟩)
    | _ => none
  | _ => none

/-- Reads a single item of a class that begins with the given character. -/
def readItem (verbose : Bool) (c : Char) (s : List Char) : Reading Primitive s :=
  if c = '\\' then readEscape verbose s else .ok (.letter ⟨c, false⟩, .all s)

/-- A primitive as an item of a class. -/
def Primitive.asItem : Primitive → Except Fault ClassItem
  | letter l => .ok (.letter l)
  | perl kind negated => .ok (.perl kind negated)
  | property query negated => .ok (.property query negated)
  | dot => .error .classEscape
  | assertion _ => .error .classEscape

/-- A primitive as a boundary of a range. -/
def Primitive.asBoundary : Primitive → Except Fault Letter
  | letter l => .ok l
  | _ => .error .classRangeBoundary

/-- The range between two primitives. -/
def rangeBetween (lo hi : Primitive) : Except Fault ClassItem := do
  let lo ← lo.asBoundary
  let hi ← hi.asBoundary
  if lo.char ≤ hi.char then return .range lo hi else throw .classRangeReversed

/-- Reads an item or a range that begins with the given character. A dash makes a range unless a
bracket or another dash comes next. -/
def readRange (verbose : Bool) (c : Char) (s : List Char) : Reading ClassItem s :=
  (readItem verbose c s).bind fun (lo, rest) =>
    match skipBlanks verbose rest.1, skipBlanks_length_le verbose rest.1 with
    | [], _ => .error .classUnclosed
    | d :: r, h =>
      have hr : r.length + 1 ≤ s.length := Nat.le_trans h rest.2
      if d ≠ '-' || peekBlanks verbose r = some ']' || peekBlanks verbose r = some '-' then
        lo.asItem.map fun item => (item, ⟨d :: r, hr⟩)
      else
        match skipBlanks verbose r, skipBlanks_length_le verbose r with
        | [], _ => .error .classUnclosed
        | e :: r', h' =>
          ((readItem verbose e r').within (by simp only [List.length_cons] at h'; omega)).bind
            fun (hi, rest) => (rangeBetween lo hi).map fun item => (item, rest)

/-- Reads the items of the innermost open class and what follows it in the classes around it, up to
the end of the outermost. -/
def readItems (verbose : Bool) (outer : List OpenClass) (cls : OpenClass) (s : List Char) :
    Reading ClassItem s :=
  match skipBlanks verbose s, skipBlanks_length_le verbose s with
  | [], _ => .error .classUnclosed
  | c :: r, h =>
    have hr : r.length < s.length := h
    if c = '[' then
      match readAscii? r with
      | some (item, rest) =>
        have hrest : rest.1.length < s.length := Nat.lt_of_le_of_lt rest.2 hr
        (readItems verbose outer (cls.push item) rest.1).within (Nat.le_of_lt hrest)
      | none =>
        match readOpening verbose r with
        | .error e => .error e
        | .ok (inner, rest) =>
          have hrest : rest.1.length < s.length := Nat.lt_of_le_of_lt rest.2 hr
          (readItems verbose (cls :: outer) inner rest.1).within (Nat.le_of_lt hrest)
    else if c = ']' then
      match outer with
      | [] => .ok (cls.close, ⟨r, Nat.le_of_lt hr⟩)
      | o :: outer => (readItems verbose outer (o.push cls.close) r).within (Nat.le_of_lt hr)
    else
      match operator? c r with
      | some op =>
        have hrest : r.tail.length < s.length := by
          rw [List.length_tail]; omega
        (readItems verbose outer (cls.combine op) r.tail).within (Nat.le_of_lt hrest)
      | none =>
        match readRange verbose c r with
        | .error e => .error e
        | .ok (item, rest) =>
          have hrest : rest.1.length < s.length := Nat.lt_of_le_of_lt rest.2 hr
          (readItems verbose outer (cls.push item) rest.1).within (Nat.le_of_lt hrest)
termination_by s.length
where
  /-- The operator that a character and the one after it make. -/
  operator? (c : Char) (r : List Char) : Option SetOp :=
    if r.head? ≠ some c then none
    else if c = '&' then some .inter
    else if c = '-' then some .diff
    else if c = '~' then some .symDiff
    else none

/-- Reads a class after its opening bracket. -/
def readClass (verbose : Bool) (s : List Char) : Reading ClassItem s :=
  (readOpening verbose s).bind fun (cls, rest) =>
    (readItems verbose [] cls rest.1).within rest.2

end Verbal.Regular
