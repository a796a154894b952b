import Verbal.Unicode.Property

/-!
# Quoted text

A quoted text stands between quotation marks. What could not be read there is escaped: the marks
themselves, backslashes, line ends and tabs by a backslash, and characters that cannot be printed or
that would join the one before them by their number.
-/

namespace Verbal.Text

open Verbal.Unicode

/-- The characters that have that property. -/
def propertySet (name : String) : CharSet :=
  match (PropertyQuery.named name.toList).characters with
  | .ok set => set
  | .error _ => .none

/-- The characters that are shown by their number: those of no visible shape, blanks other than the
space, and marks that join the character before them. -/
def escapedByNumber : CharSet :=
  .diff (.unions (["other", "separator", "grapheme extend"].map propertySet)) (.single ' ')

/-- The digits of a number to the base 16. -/
def hexDigits (n : Nat) : List Char := Nat.toDigits 16 n

/-- A character as it stands in quoted text. -/
def quotedChar (c : Char) : List Char :=
  match c with
  | '\x00' => ['\\', '0']
  | '\t' => ['\\', 't']
  | '\r' => ['\\', 'r']
  | '\n' => ['\\', 'n']
  | '"' => ['\\', '"']
  | '\\' => ['\\', '\\']
  | c =>
    if ' ' ≤ c ∧ c ≤ '~' then [c]
    else if escapedByNumber.contains c then
      ['\\', 'u', '\x7b'] ++ hexDigits c.toNat ++ ['\x7d']
    else [c]

/-- A text in quotation marks. -/
def quoted (text : String) : String :=
  String.ofList ('"' :: text.toList.flatMap quotedChar ++ ['"'])

end Verbal.Text
