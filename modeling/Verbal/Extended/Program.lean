import Verbal.Extended.Matcher
import Verbal.Extended.Reader

/-!
# Compiled extended patterns

An easy pattern is matched as one part, and by nothing else; only then does the wish to ignore case
count. Any other pattern is cut into a plan.
-/

namespace Verbal.Extended

/-- How a compiled pattern is matched. -/
inductive Method where
  | easy (part : Part)
  | hard (plan : Plan Part)

/-- A compiled pattern, with the names of its groups. -/
structure Program where
  method : Method
  names : List (List Char × Nat)

namespace Program

/-- Compiles a pattern. -/
def compile (anyCase : Bool) (pattern : List Char) : Except Fault Program := do
  let source ← Source.read pattern
  if source.tree.hard source.referred then
    let plan ← source.tree.plan source.referred .alone true
    return ⟨.hard plan, source.names⟩
  else
    let ast ← source.tree.cook 0 .none
    let part ← partOf anyCase ast
    return ⟨.easy part, source.names⟩

/-- A plan with the tables of its parts for a text. -/
def tabulated (plan : Plan Part) (text : List Char) : Plan Table :=
  plan.map fun part => (part.found text).toArray

/-- The matches in a text, unless there are too many ways to try; where two matches touch, `strict`
tells whether an empty one that was passed over comes between them. -/
def findAll (program : Program) (strict : Bool) (text : List Char) : Option (List Match) :=
  match program.method with
  | .easy part => some (Regular.Program.listMatches 0 none 0 (part.found text))
  | .hard plan =>
    (tabulated plan text).listMatches text.toArray strict (text.length + 2) 0 none

/-- Whether there is a match in a text, unless there are too many ways to try. -/
def isMatch (program : Program) (text : List Char) : Option Bool :=
  match program.method with
  | .easy part => some ((part.found text).any Option.isSome)
  | .hard plan =>
    match (tabulated plan text).search ⟨text.toArray, 0, true⟩ with
    | .found _ => some true
    | .absent => some false
    | .exhausted => none

end Program

end Verbal.Extended
