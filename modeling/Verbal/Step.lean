import Verbal.Expression

/-!
# Written steps

A step in building an expression can be written as the name of a verb, or as a name and an argument
with an equals sign between them. A verb that takes no argument disregards one.
-/

namespace Verbal

/-- Why a text is no step. -/
inductive StepFault where
  | unknownVerb (name : List Char)
  | argumentMissing (name : List Char)
  | rangeInvalid (piece : List Char)
  deriving Repr, DecidableEq

/-- A text in backquotes. -/
def backquoted (text : List Char) : String := "\x60" ++ String.ofList text ++ "\x60"

/-- The reason as it is reported. -/
def StepFault.message : StepFault → String
  | unknownVerb name => "unknown verb " ++ backquoted name
  | argumentMissing name =>
    backquoted name ++ " needs an argument, e.g. " ++ String.ofList name ++ "=VALUE"
  | rangeInvalid piece => "invalid range " ++ backquoted piece ++ ", expected FROM-TO"

/-! ## Ranges -/

/-- The pieces of a text between commas; there is always one more than there are commas. -/
def commaPieces : List Char → List (List Char)
  | [] => [[]]
  | c :: text =>
    if c = ',' then [] :: commaPieces text
    else
      match commaPieces text with
      | [] => [[c]]
      | piece :: pieces => (c :: piece) :: pieces

/-- The bounds that a piece writes. -/
def readRange : List Char → Except StepFault (Char × Char)
  | [lo, '-', hi] => .ok (lo, hi)
  | piece => .error (.rangeInvalid piece)

/-- The pairs of bounds that a text writes, such as `a-z,0-9`. -/
def readRanges (text : List Char) : Except StepFault (List (Char × Char)) :=
  (commaPieces text).mapM readRange

/-! ## Steps -/

/-- The name of a step, and its argument if there is one. -/
def splitStep (text : List Char) : List Char × Option (List Char) :=
  (text.takeWhile (· != '='), (text.dropWhile (· != '=')).tail?)

/-- How the verb of that name is made from an argument; some need none. -/
inductive VerbForm where
  | bare (verb : Verb)
  | withText (verb : String → Verb)
  | withRanges (verb : List (Char × Char) → Verb)

/-- The form of the verb of that name. -/
def verbForm? (name : List Char) : Option VerbForm :=
  match String.ofList name with
  | "start" => some (.bare (.startOfLine true))
  | "end" => some (.bare (.endOfLine true))
  | "then" => some (.withText .andThen)
  | "find" => some (.withText .andThen)
  | "maybe" => some (.withText .maybe)
  | "anything" => some (.bare .anything)
  | "something" => some (.bare .something)
  | "anything-but" => some (.withText .anythingBut)
  | "something-but" => some (.withText .somethingBut)
  | "linebreak" => some (.bare .linebreak)
  | "br" => some (.bare .linebreak)
  | "tab" => some (.bare .tab)
  | "word" => some (.bare .word)
  | "any-of" => some (.withText .anyOf)
  | "any" => some (.withText .anyOf)
  | "range" => some (.withRanges .range)
  | "multiple" => some (.withText .multiple)
  | "alt" => some (.withText .alt)
  | _ => none

/-- Reads a step. -/
def readStep (text : List Char) : Except StepFault Verb :=
  let (name, argument) := splitStep text
  match verbForm? name, argument with
  | none, _ => .error (.unknownVerb name)
  | some (.bare verb), _ => .ok verb
  | some _, none => .error (.argumentMissing name)
  | some (.withText verb), some argument => .ok (verb (String.ofList argument))
  | some (.withRanges verb), some argument => (readRanges argument).map verb

end Verbal
