import Verbal.Modifier

/-!
# Expressions and their verbs

An expression is assembled from verbs. Its pattern has three parts: most verbs add a piece of
their own to the body, the anchors replace what stands in front of the body or behind it, and
`alt` makes the whole a chain of alternatives, each in a group.
-/

namespace Verbal

/-- An expression: what stands in front of its body, the body, what stands behind it, and the
modifiers. -/
structure Expression where
  opening : String
  body : String
  closing : String
  modifiers : Modifiers
  deriving Repr, DecidableEq

/-- A step in building an expression. -/
inductive Verb where
  | add (fragment : String)
  | startOfLine (enable : Bool)
  | endOfLine (enable : Bool)
  | andThen (value : String)
  | maybe (value : String)
  | anything
  | anythingBut (value : String)
  | something
  | somethingBut (value : String)
  | linebreak
  | tab
  | word
  | anyOf (value : String)
  | range (pairs : List (Char × Char))
  | multiple (value : String)
  | alt (value : String)
  | addModifier (letter : Char)
  | removeModifier (letter : Char)
  | anyCase (enable : Bool)
  | searchOneLine (enable : Bool)
  | searchGlobal (enable : Bool)
  deriving Repr, DecidableEq

/-- The text of a range of characters in a class. -/
def rangeText (pair : Char × Char) : List Char := [pair.1, '-', pair.2]

/-- The piece that a verb adds to the body. -/
def Verb.fragment : Verb → String
  | add fragment => fragment
  | andThen value => "(?:" ++ value ++ ")"
  | maybe value => "(?:" ++ value ++ ")?"
  | anything => "(?:.*)"
  | anythingBut value => "(?:[^" ++ value ++ "]*)"
  | something => "(?:.+)"
  | somethingBut value => "(?:[^" ++ value ++ "]+)"
  | linebreak => "(?:(?:\\n)|(?:\\r\\n))"
  | tab => "\\t"
  | word => "\\w+"
  | anyOf value => "[" ++ value ++ "]"
  | range pairs => "[" ++ String.ofList (pairs.flatMap rangeText) ++ "]"
  | multiple value =>
    if value.isEmpty || value.toList.head? == some '*' || value.toList.head? == some '+' then value
    else "+" ++ value
  | alt value => ")|(" ++ "(?:" ++ value ++ ")"
  | _ => ""

namespace Expression

/-- The expression that nothing has been added to. -/
def empty : Expression := ⟨"", "", "", .empty⟩

/-- The assembled pattern. -/
def pattern (e : Expression) : String := e.opening ++ e.body ++ e.closing

/-- An expression is shown as its three parts, one after the other. -/
instance : ToString Expression := ⟨fun e => String.join [e.opening, e.body, e.closing]⟩

/-- Sets or clears a modifier. -/
def setModifier (e : Expression) (m : Modifier) (enable : Bool) : Expression :=
  { e with modifiers := e.modifiers.set m enable }

/-- Sets or clears the modifier of a letter; other letters count for nothing. -/
def setLetter (e : Expression) (letter : Char) (enable : Bool) : Expression :=
  match Modifier.ofChar? letter with
  | some m => e.setModifier m enable
  | none => e

/-- Adds a piece to the body. -/
def append (e : Expression) (fragment : String) : Expression :=
  { e with body := e.body ++ fragment }

/-- Puts the body into a group if it is in none. -/
def enclose (e : Expression) : Expression :=
  { e with
    opening := if e.opening.toList.contains '(' then e.opening else e.opening ++ "("
    closing := if e.closing.toList.contains ')' then e.closing else ")" ++ e.closing }

/-- The expression after a verb. -/
def apply (e : Expression) (verb : Verb) : Expression :=
  match verb with
  | .startOfLine enable => { e with opening := if enable then "^" else "" }
  | .endOfLine enable => { e with closing := if enable then "$" else "" }
  | .alt value => e.enclose.append (Verb.alt value).fragment
  | .addModifier letter => e.setLetter letter true
  | .removeModifier letter => e.setLetter letter false
  | .anyCase enable => e.setModifier .anyCase enable
  | .searchOneLine enable => e.setModifier .multiline !enable
  | .searchGlobal enable => e.setModifier .global enable
  | verb => e.append verb.fragment

/-- The expression after verbs, in their order. -/
def applyAll (e : Expression) (verbs : List Verb) : Expression := verbs.foldl apply e

/-- The expression that verbs build. -/
def ofVerbs (verbs : List Verb) : Expression := empty.applyAll verbs

end Expression

end Verbal
