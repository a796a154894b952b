import Verbal.Extended.Program
import Verbal.Failure
import Verbal.Regular.Program
import Verbal.Replacement

/-!
# Backends

A backend compiles patterns in its dialect and matches them. The regular one takes time linear in
the text and always answers; the extended one also knows constructs that need trying, and gives up
when there are too many ways to try.
-/

namespace Verbal

/-- The dialects of patterns. -/
inductive Backend where
  | regular
  | extended
  deriving Repr, DecidableEq

/-- A pattern compiled in one of the dialects. -/
inductive Program where
  | regular (program : Regular.Program)
  | extended (program : Extended.Program)

/-- Compiles a pattern, or tells the reason why it is refused. -/
def Backend.build (backend : Backend) (anyCase : Bool) (pattern : String) :
    Except String Program :=
  match backend with
  | regular =>
    match Regular.Program.compile anyCase pattern.toList with
    | .ok program => .ok (.regular program)
    | .error fault => .error fault.message
  | extended =>
    match Extended.Program.compile anyCase pattern.toList with
    | .ok program => .ok (.extended program)
    | .error fault => .error fault.message

namespace Program

/-- The failure of a search that gave up. -/
def gaveUp : Failure :=
  .evaluation "Error executing regex: Max limit for backtracking count exceeded"

/-- An answer, unless the search for it gave up. -/
def answer {α : Type} : Option α → Except Failure α
  | some a => .ok a
  | none => .error gaveUp

/-- Whether there is a match in a text. -/
def isMatch (program : Program) (text : String) : Except Failure Bool :=
  match program with
  | regular program => .ok (program.isMatch text.toList)
  | extended program => answer (program.isMatch text.toList)

/-- The spans of the matches in a text. -/
def findAll (program : Program) (text : String) : Except Failure (List (Nat × Nat)) :=
  let text := text.toList
  match program with
  | regular program => .ok ((program.findAll text).map (·.span text))
  | extended program => answer ((program.findAll true text).map (·.map (·.span text)))

/-- What each match is replaced by. -/
def expansion (program : Program) (text replacement : List Char) (m : Match) : List Char :=
  match program with
  | regular program =>
    expandPieces (regularReference program.names text m)
      (ReferenceRule.regular.pieces 0 replacement)
  | extended program =>
    expandPieces (extendedReference program.names text m)
      (ReferenceRule.extended.pieces 0 replacement)

/-- The matches that are replaced. Whether an empty match was passed over counts only if the
replacement refers to nothing. -/
def replaced (program : Program) (text replacement : List Char) : Except Failure (List Match) :=
  match program with
  | regular program => .ok (program.findAll text)
  | extended program => answer (program.findAll (!replacement.contains '$') text)

/-- Replaces every match in a text. -/
def replaceAll (program : Program) (text replacement : String) : Except Failure String :=
  let text := text.toList
  let replacement := replacement.toList
  (program.replaced text replacement).map fun ms =>
    String.ofList (splice text (program.expansion text replacement) 0 ms)

end Program

end Verbal
