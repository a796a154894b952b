import Verbal.Backend

/-!
# Compiled patterns

A compiled pattern holds the program that searches for it. The program that has to cover the whole
text is built when it is first asked for, and kept.
-/

namespace Verbal

/-- A compiled pattern. -/
structure Compiled where
  backend : Backend
  pattern : String
  anyCase : Bool
  search : Program
  /-- The program that covers the whole text, if it was built. -/
  anchored : Option Program

/-- Compiles a pattern. -/
def Backend.compile (backend : Backend) (pattern : String) (anyCase : Bool) :
    Except Failure Compiled :=
  match backend.build anyCase pattern with
  | .ok search => .ok ⟨backend, pattern, anyCase, search, none⟩
  | .error reason => .error (.invalidPattern pattern reason)

/-- The pattern that has to cover the whole text. -/
def anchoredPattern (pattern : String) : String := "\\A(?:" ++ pattern ++ ")\\z"

/-- The same for a pattern that ends in a comment, which would take in what closes the group if it
stood on the same line. -/
def anchoredAfterComment (pattern : String) : String := "\\A(?:" ++ pattern ++ "\n)\\z"

/-- Builds the program that has to cover the whole text. If neither form is accepted, the reason is
that of the first. -/
def Backend.buildAnchored (backend : Backend) (anyCase : Bool) (pattern : String) :
    Except Failure Program :=
  match backend.build anyCase (anchoredPattern pattern) with
  | .ok program => .ok program
  | .error reason =>
    match backend.build anyCase (anchoredAfterComment pattern) with
    | .ok program => .ok program
    | .error _ => .error (.invalidPattern pattern reason)

namespace Compiled

/-- The program that has to cover the whole text, built now if it was not built before. -/
def anchoredProgram (c : Compiled) : Except Failure Program :=
  match c.anchored with
  | some program => .ok program
  | none => c.backend.buildAnchored c.anyCase c.pattern

/-- The compiled pattern with the program that covers the whole text, if it can be built. -/
def anchor (c : Compiled) : Compiled :=
  match c.anchoredProgram with
  | .ok program => { c with anchored := some program }
  | .error _ => c

/-- Whether the pattern covers the whole text. -/
def fullMatch (c : Compiled) (text : String) : Except Failure Bool :=
  c.anchoredProgram.bind (·.isMatch text)

end Compiled

/-! ## Queries -/

/-- A question to a compiled pattern. -/
inductive Query where
  | fullMatch (text : String)
  | search (text : String)
  | replaceAll (text replacement : String)
  | findAll (text : String)
  | pattern
  | clone
  deriving Repr, DecidableEq

/-- The answer to a question. -/
inductive Answer where
  | bool (b : Bool)
  | text (s : String)
  | spans (spans : List (Nat × Nat))
  | cloned
  deriving Repr, DecidableEq

namespace Compiled

/-- Answers a question. -/
def answer (c : Compiled) : Query → Except Failure Answer
  | .fullMatch text => (c.fullMatch text).map .bool
  | .search text => (c.search.isMatch text).map .bool
  | .replaceAll text replacement => (c.search.replaceAll text replacement).map .text
  | .findAll text => (c.search.findAll text).map .spans
  | .pattern => .ok (.text c.pattern)
  | .clone => .ok .cloned

/-- The compiled pattern after a question: only a full match builds anything. -/
def after (c : Compiled) : Query → Compiled
  | .fullMatch _ => c.anchor
  | _ => c

/-- Answers questions one after the other. -/
def answers (c : Compiled) : List Query → List (Except Failure Answer)
  | [] => []
  | q :: qs =>
    let c := c.after q
    c.answer q :: c.answers qs

end Compiled

end Verbal
