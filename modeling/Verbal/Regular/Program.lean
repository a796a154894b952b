import Verbal.Regular.Meaning
import Verbal.Regular.Reader
import Verbal.Regular.Sweep

/-!
# Compiled regular patterns

A pattern is compiled by reading it, applying its flags, looking at its size and writing out its
counts. Searches take the leftmost match and list matches from left to right: an empty match is
passed over where the match before it ends, and after an empty match the search goes on one
character further.
-/

namespace Verbal.Regular

/-- A compiled pattern, with the names of its groups. -/
structure Program where
  skeleton : Skeleton (Option Trail)
  names : List (List Char × Nat)

/-- What a pattern stands for, and the names of its groups. -/
def regexOf (anyCase : Bool) (pattern : List Char) :
    Except Fault (Regex × List (List Char × Nat)) := do
  let source ← Source.read pattern
  let (regex, _) ← source.ast.regex (.initial anyCase)
  return (regex, source.names)

/-- Writes out the counts of an expression that is small enough. -/
def Regex.compile (regex : Regex) : Except Fault (Skeleton (Option Trail)) :=
  if regex.size ≤ sizeLimit then .ok (regex.unroll none) else .error .tooLarge

namespace Program

/-- Compiles a pattern. -/
def compile (anyCase : Bool) (pattern : List Char) : Except Fault Program := do
  let (regex, names) ← regexOf anyCase pattern
  return ⟨← regex.compile, names⟩

/-- Lists matches from left to right: `resume` is the first place where the next match may begin,
`last` the end of the match before it, and the list tells of the places from `place` on. -/
def listMatches (resume : Nat) (last : Option Nat) (place : Nat) :
    List (Option Trail) → List Match
  | [] => []
  | found :: rest =>
    match if place < resume then none else found with
    | none => listMatches resume last (place + 1) rest
    | some trail =>
      if trail.stop = place then
        if last = some place then listMatches resume last (place + 1) rest
        else
          ⟨place, trail.stop, trail.marks⟩ :: listMatches resume (some place) (place + 1) rest
      else
        ⟨place, trail.stop, trail.marks⟩ ::
          listMatches trail.stop (some trail.stop) (place + 1) rest

/-- The matches in a text. -/
def findAll (program : Program) (text : List Char) : List Match :=
  listMatches 0 none 0 (program.skeleton.found text)

/-- Whether there is a match in a text. -/
def isMatch (program : Program) (text : List Char) : Bool :=
  (program.skeleton.found text).any Option.isSome

end Program

end Verbal.Regular
