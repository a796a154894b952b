/-!
# Modifiers

Modifiers change how an expression is evaluated without touching its pattern: `g` looks for a match
anywhere instead of testing all of the text, `m` takes the whole input instead of its first line,
and `i` ignores case. A set of modifiers holds no more than which of the three are set.
-/

namespace Verbal

/-- A modifier. -/
inductive Modifier where
  | global
  | multiline
  | anyCase
  deriving Repr, DecidableEq

namespace Modifier

/-- All modifiers, in the order in which they are shown. -/
def all : List Modifier := [global, multiline, anyCase]

/-- The modifier of a letter. -/
def ofChar? : Char → Option Modifier
  | 'g' => some global
  | 'm' => some multiline
  | 'i' => some anyCase
  | _ => none

/-- The letter of a modifier. -/
def toChar : Modifier → Char
  | global => 'g'
  | multiline => 'm'
  | anyCase => 'i'

/-- The name of a modifier. -/
def name : Modifier → String
  | global => "Global"
  | multiline => "Multiline"
  | anyCase => "CaseInsensitive"

@[simp]
theorem ofChar?_toChar (m : Modifier) : ofChar? m.toChar = some m := by
  cases m <;> rfl

end Modifier

/-- A set of modifiers. -/
structure Modifiers where
  global : Bool
  multiline : Bool
  anyCase : Bool
  deriving Repr, DecidableEq

namespace Modifiers

/-- No modifier is set. -/
def empty : Modifiers := ⟨false, false, false⟩

/-- Whether a modifier is set. -/
def contains (s : Modifiers) : Modifier → Bool
  | .global => s.global
  | .multiline => s.multiline
  | .anyCase => s.anyCase

/-- Sets or clears a modifier. -/
def set (s : Modifiers) (m : Modifier) (enable : Bool) : Modifiers :=
  match m with
  | .global => { s with global := enable }
  | .multiline => { s with multiline := enable }
  | .anyCase => { s with anyCase := enable }

/-- Sets a modifier. -/
def insert (s : Modifiers) (m : Modifier) : Modifiers := s.set m true

/-- Clears a modifier. -/
def erase (s : Modifiers) (m : Modifier) : Modifiers := s.set m false

/-- The set of the modifiers listed. -/
def ofList (ms : List Modifier) : Modifiers := ms.foldl insert empty

/-- The modifiers that are set, in the order in which they are shown. -/
def toList (s : Modifiers) : List Modifier := Modifier.all.filter s.contains

/-- Whether no modifier is set. -/
def isEmpty (s : Modifiers) : Bool := s == empty

/-- The letters of the modifiers that are set. -/
def display (s : Modifiers) : String := String.ofList (s.toList.map Modifier.toChar)

/-- The modifiers whose letters stand in a text; other letters count for nothing. -/
def ofLetters (letters : List Char) : Modifiers := ofList (letters.filterMap Modifier.ofChar?)

/-- Setting a modifier leaves the others alone. -/
theorem contains_set (s : Modifiers) (m n : Modifier) (enable : Bool) :
    (s.set m enable).contains n = if m = n then enable else s.contains n := by
  cases m <;> cases n <;> rfl

end Modifiers

end Verbal
