import Verbal.Extended.Blank
import Verbal.Regular.Escape
import Verbal.Regular.Regex
import Verbal.Replacement

/-!
# Escapes of extended patterns

`readEscape` reads what follows a backslash. Some escapes mean something only outside of classes;
in a class they are letters. What a regular pattern can read as well is passed on to it as it is
written, as a fragment.
-/

namespace Verbal.Extended

open Verbal.Unicode
open Verbal.Regular (Look)

/-- What references look at: the groups opened so far and the names given to them, the last one
first, and the length of the encoded pattern. -/
structure Scope where
  groups : Nat
  names : List (List Char × Nat)
  byteLength : Nat
  deriving Repr, DecidableEq

/-- What an escape stands for. A letter or a fragment is subject to the case of the pattern only if
`folds` says so. -/
inductive Escaped where
  | letter (c : Char) (folds : Bool)
  | fragment (text : List Char) (folds : Bool)
  | assertion (look : Look)
  | backref (index : Nat) (numbered : Bool)
  | keepOut
  | contiguous
  deriving Repr, DecidableEq

/-! ## References -/

/-- Whether a character can stand in a name. -/
def isNameChar (c : Char) : Bool := isAlphanumeric c || c == '_'

/-- The name that a text begins with; a relative number begins with a minus sign. -/
def nameOf (relative : Bool) (s : List Char) : List Char :=
  if relative && s.head? == some '-' then '-' :: s.tail.takeWhile Char.isDigit
  else s.takeWhile isNameChar

/-- Reads a name and the character that closes it. -/
def readName (relative : Bool) (close : Char) (s : List Char) : Reading (List Char) s :=
  let name := nameOf relative s
  if name.isEmpty then .error .nameInvalid
  else
    match h : s.drop name.length with
    | [] => .error .nameInvalid
    | c :: r =>
      if c = close then .ok (name, ⟨r, length_le_of_drop h⟩) else .error .nameInvalid

/-- The group that a name refers to. A number counts groups from the first one, or with a minus sign
back from the last one opened. -/
def Scope.group? (scope : Scope) (name : List Char) : Option Nat :=
  match named? scope.names name with
  | some index => some index
  | none =>
    match name with
    | '-' :: digits =>
      (decimal? digits).bind fun n =>
        if n = 0 then some 0 else if n ≤ scope.groups + 1 then some (scope.groups + 1 - n) else none
    | digits => (decimal? digits).filter (· < UInt64.size / 2)

/-- Reads a reference by name. -/
def readNamed (scope : Scope) (relative : Bool) (close : Char) (s : List Char) : Reading Nat s :=
  (readName relative close s).bind fun (name, rest) =>
    match scope.group? name with
    | some index => .ok (index, rest)
    | none => .error (.nameUnknown name)

/-- Reads a reference by name between brackets or quotes. -/
def readQuoted (scope : Scope) : (s : List Char) → Reading Nat s
  | '<' :: s => (readNamed scope true '>' s).within (length_le_cons '<' s)
  | '\'' :: s => (readNamed scope true '\'' s).within (length_le_cons '\'' s)
  | _ => .error .nameInvalid

/-- Reads a reference by number. The number has to be less than half the length of the pattern. -/
def readNumber (scope : Scope) (s : List Char) : Reading Nat s :=
  match decimal? (s.takeWhile Char.isDigit) with
  | none => .error .numberInvalid
  | some n =>
    if n < scope.byteLength / 2 then
      .ok (n, ⟨s.dropWhile Char.isDigit, length_dropWhile_le Char.isDigit s⟩)
    else .error .numberInvalid

/-! ## Characters by number -/

/-- Whether a character is a hexadecimal digit. -/
def isHexDigit (c : Char) : Bool := (Regular.hexValue? c).isSome

/-- The character of a number in hexadecimal digits. -/
def charOfHex (digits : List Char) : Except Fault Char :=
  match Regular.charOfNat? (digits.foldl (fun n d => 16 * n + (Regular.hexValue? d).getD 0) 0) with
  | some c => .ok c
  | none => .error .hexNoCharacter

/-- Reads the number of a character in braces, which has up to eight digits. -/
def readHexBraced : (s : List Char) → Reading Char s
  | '\x7b' :: s =>
    let digits := s.takeWhile isHexDigit
    match h : s.dropWhile isHexDigit with
    | [] => .error .hexInvalid
    | c :: r =>
      if c = '\x7d' ∧ digits ≠ [] ∧ digits.length ≤ 8 then
        (charOfHex digits).map fun d =>
          (d, ⟨r, Nat.le_succ_of_le (length_le_of_dropWhile h)⟩)
      else .error .hexInvalid
  | _ => .error .hexInvalid

/-- Reads the number of a character, in the given count of digits or in braces. -/
def readHex (count : Nat) (s : List Char) : Reading Char s :=
  let digits := s.take count
  if digits.length = count ∧ digits.all isHexDigit then
    (charOfHex digits).map fun c => (c, ⟨s.drop count, by simp⟩)
  else readHexBraced s

/-! ## Properties -/

/-- Reads the name of a property, a single character or a text in braces, as it is written. -/
def readProperty : (s : List Char) → Reading (List Char) s
  | [] => .error .propertyUnclosed
  | '\x7b' :: s =>
    match h : s.dropWhile (· != '\x7d') with
    | [] => .error .propertyUnclosed
    | _ :: r =>
      .ok ('\x7b' :: s.takeWhile (· != '\x7d') ++ ['\x7d'],
        ⟨r, Nat.le_succ_of_le (length_le_of_dropWhile h)⟩)
  | c :: s => .ok ([c], ⟨s, length_le_cons c s⟩)

/-! ## Escapes -/

/-- The escapes of one letter that mean something only outside of classes. -/
def Escaped.outside? : Char → Option Escaped
  | 'A' => some (assertion .startText)
  | 'z' => some (assertion .endText)
  | 'b' => some (assertion (.wordBoundary true))
  | 'B' => some (assertion (.notWordBoundary true))
  | '<' => some (assertion (.wordStart true))
  | '>' => some (assertion (.wordEnd true))
  | 'K' => some keepOut
  | 'G' => some contiguous
  | _ => none

/-- The escapes of one letter that mean the same everywhere. -/
def Escaped.anywhere? (c : Char) : Option Escaped :=
  if c ∈ ['d', 'D', 's', 'S', 'w', 'W'] then some (fragment ['\\', c] true)
  else match c with
    | 'h' => some (fragment "[0-9A-Fa-f]".toList false)
    | 'H' => some (fragment "[^0-9A-Fa-f]".toList false)
    | 'a' => some (letter '\x07' false)
    | 'f' => some (letter '\x0c' false)
    | 'n' => some (letter '\n' false)
    | 'r' => some (letter '\r' false)
    | 't' => some (letter '\t' false)
    | 'v' => some (letter '\x0b' false)
    | 'e' => some (letter '\x1b' false)
    | _ => none

/-- What an escape of one character stands for that has no meaning of its own. -/
def Escaped.ofOther (inClass : Bool) (c : Char) : Except Fault Escaped :=
  if inClass && c = 'b' then .ok (letter '\x08' false)
  else if c.isAlpha && !(inClass && c ∈ ['k', 'A', 'z', 'B', 'K', 'G']) then
    .error (.escapeInvalid c)
  else .ok (letter c false)

/-- Reads what follows a backslash. -/
def readEscape (scope : Scope) (inClass : Bool) : (s : List Char) → Reading Escaped s
  | [] => .error .trailingBackslash
  | c :: r =>
    have hr : r.length ≤ (c :: r).length := length_le_cons c r
    let hex (count : Nat) : Reading Escaped (c :: r) :=
      ((readHex count r).within hr).map fun (d, rest) => (.letter d true, rest)
    if c.isDigit then
      (readNumber scope (c :: r)).map fun (n, rest) => (.backref n true, rest)
    else if !inClass && c = 'k' then
      ((readQuoted scope r).within hr).map fun (n, rest) => (.backref n false, rest)
    else if !inClass && (c = 'b' || c = 'B') && r.head? = some '\x7b' then
      .error (.escapeInvalid c)
    else if c = 'x' then hex 2
    else if c = 'u' then hex 4
    else if c = 'U' then hex 8
    else if (c = 'p' || c = 'P') && r ≠ [] then
      ((readProperty r).within hr).map fun (text, rest) =>
        (.fragment ('\\' :: c :: text) true, rest)
    else
      match (if inClass then none else Escaped.outside? c).or (Escaped.anywhere? c) with
      | some e => .ok (e, ⟨r, hr⟩)
      | none => (Escaped.ofOther inClass c).map fun e => (e, ⟨r, hr⟩)

end Verbal.Extended
