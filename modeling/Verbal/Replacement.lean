import Verbal.Match
import Verbal.Unicode.Word

/-!
# Replacement texts

In the text that replaces a match, a dollar sign introduces a reference to a group and two stand for
one. The dialects differ in what a name is and in whether names or numbers are tried first.
-/

namespace Verbal

open Verbal.Unicode

/-- A part of a replacement text. -/
inductive Piece where
  | char (c : Char)
  | reference (name : List Char)
  deriving Repr, DecidableEq

/-- How a dialect reads references. -/
structure ReferenceRule where
  /-- The characters of a name without braces. -/
  isNameChar : Char → Bool
  /-- Whether a text may stand in braces as a name. -/
  isBracedName : List Char → Bool

/-- Regular patterns: ASCII names without braces, and any text in braces. -/
def ReferenceRule.regular : ReferenceRule :=
  ⟨fun c => c.isAlphanum || c == '_', fun _ => true⟩

/-- Extended patterns: names of letters and digits of any script, in braces as well. -/
def ReferenceRule.extended : ReferenceRule :=
  let isNameChar (c : Char) := isAlphanumeric c || c == '_'
  ⟨isNameChar, fun name => !name.isEmpty && name.all isNameChar⟩

/-- The name in braces at the beginning of a text, and how many characters it takes. -/
def ReferenceRule.braced? (rule : ReferenceRule) : List Char → Option (List Char × Nat)
  | '\x7b' :: text =>
    let name := text.takeWhile (· != '\x7d')
    if name.length < text.length && rule.isBracedName name then some (name, name.length + 2)
    else none
  | _ => none

/-- The name without braces at the beginning of a text, and how many characters it takes. -/
def ReferenceRule.bare? (rule : ReferenceRule) (text : List Char) : Option (List Char × Nat) :=
  let name := text.takeWhile rule.isNameChar
  if name.isEmpty then none else some (name, name.length)

/-- The parts of a replacement text, of which `skipped` characters were read already. -/
def ReferenceRule.pieces (rule : ReferenceRule) (skipped : Nat) : List Char → List Piece
  | [] => []
  | c :: text =>
    if skipped ≠ 0 then rule.pieces (skipped - 1) text
    else if c ≠ '$' then .char c :: rule.pieces 0 text
    else if text.head? = some '$' then .char '$' :: rule.pieces 1 text
    else
      match (rule.braced? text).or (rule.bare? text) with
      | some (name, length) => .reference name :: rule.pieces length text
      | none => .char '$' :: rule.pieces 0 text

/-- The number that a name spells in decimal digits, below `2 ^ 64`. -/
def decimal? (name : List Char) : Option Nat :=
  if name.isEmpty || !name.all Char.isDigit then none
  else
    let n := name.foldl (fun n d => 10 * n + (d.toNat - 48)) 0
    if n < UInt64.size then some n else none

/-- A number that may have a plus sign in front. -/
def signedDecimal? : List Char → Option Nat
  | '+' :: name => decimal? name
  | name => decimal? name

/-- The text of a group in a match, empty if the group took no part. -/
def groupText (text : List Char) (m : Match) (index : Nat) : List Char :=
  match m.group? index with
  | some (start, stop) => slice text start stop
  | none => []

/-- The group of that name. -/
def named? (names : List (List Char × Nat)) (name : List Char) : Option Nat :=
  (names.find? (·.1 == name)).map (·.2)

/-- What a reference of a regular pattern stands for: a number is a number, and another name a
name. -/
def regularReference (names : List (List Char × Nat)) (text : List Char) (m : Match)
    (name : List Char) : List Char :=
  match (signedDecimal? name).or (named? names name) with
  | some index => groupText text m index
  | none => []

/-- What a reference of an extended pattern stands for: a group of that name that took part, or else
the group of that number. -/
def extendedReference (names : List (List Char × Nat)) (text : List Char) (m : Match)
    (name : List Char) : List Char :=
  let byName := (named? names name).filter fun index => (m.group? index).isSome
  match byName.or (decimal? name) with
  | some index => groupText text m index
  | none => []

/-- The text that replaces a match. -/
def expandPieces (reference : List Char → List Char) : List Piece → List Char
  | [] => []
  | .char c :: pieces => c :: expandPieces reference pieces
  | .reference name :: pieces => reference name ++ expandPieces reference pieces

end Verbal
