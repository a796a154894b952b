import Verbal.Regular.Ast
import Verbal.Regular.Blank

/-!
# Reading escapes

`readEscape` reads what follows a backslash: characters by their number, classes, assertions and
characters that are written as themselves. `readDecimal` reads the numbers of counted repetitions.
-/

namespace Verbal.Regular

open Verbal.Unicode

/-! ## Numbers -/

/-- The value of a hexadecimal digit. -/
def hexValue? (c : Char) : Option Nat :=
  if '0' ≤ c ∧ c ≤ '9' then some (c.toNat - 48)
  else if 'a' ≤ c ∧ c ≤ 'f' then some (c.toNat - 87)
  else if 'A' ≤ c ∧ c ≤ 'F' then some (c.toNat - 55)
  else none

/-- The character of that number. -/
def charOfNat? (n : Nat) : Option Char :=
  if n.isValidChar then some (Char.ofNat n) else none

/-- Reads exactly as many hexadecimal digits as are asked for. -/
def readHexDigits (verbose : Bool) : Nat → Nat → (s : List Char) → Reading Nat s
  | 0, value, s => .ok (value, .all s)
  | _ + 1, _, [] => .error .escapeUnfinished
  | n + 1, value, c :: s =>
    match hexValue? c with
    | none => .error .hexDigitInvalid
    | some d =>
      (readHexDigits verbose n (16 * value + d) (skipBlanks verbose s)).within
        (Nat.le_succ_of_le (skipBlanks_length_le verbose s))

/-- Reads hexadecimal digits up to the closing brace; `value` is `none` before the first digit. -/
def readHexBraced (verbose : Bool) (value : Option Nat) (s : List Char) :
    Reading (Option Nat) s :=
  match h : skipBlanks verbose s with
  | [] => .error .escapeUnfinished
  | c :: r =>
    have hr : r.length < s.length := length_le_of_skipBlanks h
    if c = '\x7d' then
      .ok (value, ⟨skipBlanks verbose r, Nat.le_trans (skipBlanks_length_le verbose r) (by omega)⟩)
    else
      match hexValue? c with
      | none => .error .hexDigitInvalid
      | some d =>
        (readHexBraced verbose (some (16 * value.getD 0 + d)) r).within (Nat.le_of_lt hr)
termination_by s.length

/-- The character of a number that was read as an escape. -/
def letterOfNumber {s : List Char} (byte : Bool) :
    Nat × { r : List Char // r.length ≤ s.length } → Reading Primitive s
  | (n, rest) =>
    match charOfNat? n with
    | none => .error .hexNoCharacter
    | some c => .ok (.letter ⟨c, byte⟩, rest)

/-- Reads the number of a character, in the given count of digits or in braces. -/
def readHex (verbose : Bool) (digits : Nat) (s : List Char) : Reading Primitive s :=
  match h : skipBlanks verbose s with
  | [] => .error .escapeUnfinished
  | c :: r =>
    if c = '\x7b' then
      ((readHexBraced verbose none r).within (Nat.le_of_lt (length_le_of_skipBlanks h))).bind
        fun (value, rest) =>
          match value with
          | none => .error .hexEmpty
          | some n => letterOfNumber false (n, rest)
    else
      ((readHexDigits verbose digits 0 (c :: r)).within
        (h ▸ skipBlanks_length_le verbose s)).bind (letterOfNumber (digits == 2))

/-- Reads decimal digits, the last one first. -/
def readDigits (verbose : Bool) (digits : List Char) (s : List Char) :
    List Char × { r : List Char // r.length ≤ s.length } :=
  match h : s with
  | [] => (digits, ⟨s, by simp [h]⟩)
  | c :: r =>
    if c.isDigit then
      have hr : (skipBlanks verbose r).length < s.length := by
        rw [h, List.length_cons]
        exact Nat.lt_succ_of_le (skipBlanks_length_le verbose r)
      let (ds, rest) := readDigits verbose (c :: digits) (skipBlanks verbose r)
      (ds, ⟨rest.1, Nat.le_trans rest.2 (Nat.le_of_lt (h ▸ hr))⟩)
    else (digits, ⟨s, by simp [h]⟩)
termination_by s.length
decreasing_by exact h ▸ hr

/-- The number that digits stand for, the last one first. -/
def ofDigits : List Char → Nat
  | [] => 0
  | d :: ds => 10 * ofDigits ds + (d.toNat - 48)

/-- Reads a count, which may have blanks around it. A count that is missing or too large is a fault
only where it is used. -/
def readDecimal (verbose : Bool) (s : List Char) :
    Except Fault Nat × { r : List Char // r.length ≤ s.length } :=
  let (digits, rest) := readDigits verbose [] (s.dropWhile isSpace)
  let value :=
    if digits.isEmpty then .error .repetitionWithoutCount
    else if ofDigits digits < UInt32.size then .ok (ofDigits digits)
    else .error .decimalTooLarge
  (value, ⟨rest.1.dropWhile isSpace,
    Nat.le_trans (length_dropWhile_le _ _) (Nat.le_trans rest.2 (length_dropWhile_le _ _))⟩)

/-! ## Properties -/

/-- Splits at the first place where `mark` stands. -/
def splitAt? (mark : List Char) : List Char → Option (List Char × List Char)
  | [] => none
  | c :: s =>
    if mark.isPrefixOf (c :: s) then some ([], (c :: s).drop mark.length)
    else (splitAt? mark s).map fun (before, after) => (c :: before, after)

/-- The query of a text in braces, and whether it asks for the other characters. -/
def queryOf (text : List Char) : PropertyQuery × Bool :=
  match splitAt? ['!', '='] text with
  | some (name, value) => (.valued name value, true)
  | none =>
    match (splitAt? [':'] text).or (splitAt? ['='] text) with
    | some (name, value) => (.valued name value, false)
    | none => (.named text, false)

/-- Reads up to the closing brace, the last character first. -/
def readBraced (verbose : Bool) (text : List Char) (s : List Char) : Reading (List Char) s :=
  match h : skipBlanks verbose s with
  | [] => .error .escapeUnfinished
  | c :: r =>
    have hr : r.length < s.length := length_le_of_skipBlanks h
    if c = '\x7d' then .ok (text, ⟨r, Nat.le_of_lt hr⟩)
    else (readBraced verbose (c :: text) r).within (Nat.le_of_lt hr)
termination_by s.length

/-- Reads the name of a property, a single letter or a text in braces. -/
def readProperty (verbose negated : Bool) (s : List Char) : Reading Primitive s :=
  match h : skipBlanks verbose s with
  | [] => .error .escapeUnfinished
  | c :: r =>
    have hr : r.length ≤ s.length := Nat.le_of_lt (length_le_of_skipBlanks h)
    if c = '\x7b' then
      ((readBraced verbose [] r).within hr).map fun (text, rest) =>
        let (query, other) := queryOf text.reverse
        (.property query (negated != other), rest)
    else if c = '\\' then .error .propertyInvalid
    else
      .ok (.property (.named [c]) negated,
        ⟨skipBlanks verbose r, Nat.le_trans (skipBlanks_length_le verbose r) hr⟩)

/-! ## Word boundaries -/

/-- Whether a character can stand in the name of a boundary. -/
def isBoundaryChar (c : Char) : Bool := c.isAlpha || c == '-'

/-- Reads the characters of the name of a boundary, the last one first. -/
def readBoundaryName (verbose : Bool) (name : List Char) (s : List Char) :
    List Char × { r : List Char // r.length ≤ s.length } :=
  match h : s with
  | [] => (name, ⟨s, by simp [h]⟩)
  | c :: r =>
    if isBoundaryChar c then
      have hr : (skipBlanks verbose r).length < s.length := by
        rw [h, List.length_cons]
        exact Nat.lt_succ_of_le (skipBlanks_length_le verbose r)
      let (name, rest) := readBoundaryName verbose (c :: name) (skipBlanks verbose r)
      (name, ⟨rest.1, Nat.le_trans rest.2 (Nat.le_of_lt (h ▸ hr))⟩)
    else (name, ⟨s, by simp [h]⟩)
termination_by s.length
decreasing_by exact h ▸ hr

/-- The boundary of that name. -/
def boundary? (name : List Char) : Option Assertion :=
  match String.ofList name with
  | "start" => some .wordStart
  | "end" => some .wordEnd
  | "start-half" => some .wordStartHalf
  | "end-half" => some .wordEndHalf
  | _ => none

/-- Reads the name of a boundary that begins here, and the brace that closes it. -/
def readBoundaryNamed (verbose : Bool) (s : List Char) : Reading Primitive s :=
  let (name, rest) := readBoundaryName verbose [] s
  match h : rest.1 with
  | [] => .error .boundaryUnclosed
  | d :: r =>
    if d ≠ '\x7d' then .error .boundaryUnclosed
    else
      match boundary? name.reverse with
      | none => .error .boundaryUnknown
      | some a =>
        .ok (.assertion a, ⟨r, by have := rest.2; rw [h, List.length_cons] at this; omega⟩)

/-- Reads what follows `\b`: the name of a boundary in braces, if there is a brace and what follows
it can begin such a name. -/
def readBoundary (verbose : Bool) : (s : List Char) → Reading Primitive s
  | [] => .ok (.assertion .wordBoundary, .all [])
  | b :: t =>
    let plain : Reading Primitive (b :: t) := .ok (.assertion .wordBoundary, .all (b :: t))
    if b ≠ '\x7b' then plain
    else
      match skipBlanks verbose t, skipBlanks_length_le verbose t with
      | [], _ => .error .boundaryUnfinished
      | c :: r, h =>
        if !isBoundaryChar c then plain
        else (readBoundaryNamed verbose (c :: r)).within (cons_length_le_cons h)

/-! ## Escapes -/

/-- The characters that have a meaning of their own somewhere in a pattern. -/
def isMeta (c : Char) : Bool :=
  c ∈ ['\\', '.', '+', '*', '?', '(', ')', '|', '[', ']', '\x7b', '\x7d', '^', '$', '#', '&', '-',
    '~']

/-- Whether a backslash makes the character stand for itself: all ASCII characters but letters,
digits and angle brackets. -/
def isEscapable (c : Char) : Bool :=
  c.toNat < 128 && !c.isAlphanum && c != '<' && c != '>'

/-- Reads what follows a backslash. -/
def readEscape (verbose : Bool) : (s : List Char) → Reading Primitive s
  | [] => .error .escapeUnfinished
  | c :: r =>
    let rest : { r' : List Char // r'.length ≤ (c :: r).length } := ⟨r, length_le_cons c r⟩
    let special (d : Char) : Reading Primitive (c :: r) := .ok (.letter ⟨d, false⟩, rest)
    let holds (a : Assertion) : Reading Primitive (c :: r) := .ok (.assertion a, rest)
    let perl (k : PerlClass) (negated : Bool) : Reading Primitive (c :: r) :=
      .ok (.perl k negated, rest)
    if c.isDigit then .error .backreference
    else if isEscapable c then special c
    else match c with
      | 'x' => (readHex verbose 2 r).within rest.2
      | 'u' => (readHex verbose 4 r).within rest.2
      | 'U' => (readHex verbose 8 r).within rest.2
      | 'p' => (readProperty verbose false r).within rest.2
      | 'P' => (readProperty verbose true r).within rest.2
      | 'd' => perl .digit false
      | 'D' => perl .digit true
      | 's' => perl .space false
      | 'S' => perl .space true
      | 'w' => perl .word false
      | 'W' => perl .word true
      | 'a' => special '\x07'
      | 'f' => special '\x0c'
      | 't' => special '\t'
      | 'n' => special '\n'
      | 'r' => special '\r'
      | 'v' => special '\x0b'
      | 'A' => holds .startText
      | 'z' => holds .endText
      | 'b' => (readBoundary verbose r).within rest.2
      | 'B' => holds .notWordBoundary
      | '<' => holds .wordStart
      | '>' => holds .wordEnd
      | _ => .error .escapeUnknown

end Verbal.Regular
