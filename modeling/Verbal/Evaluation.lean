import Verbal.Compiled
import Verbal.Expression

/-!
# Testing and replacing

An expression is tested by compiling its pattern and matching the input. Without the multiline
modifier, only what stands before the first line end is looked at; without the global modifier, the
pattern has to cover all of that. Replacing heeds neither.
-/

namespace Verbal

/-- The text before the first line end. -/
def firstLine (input : String) : String := String.ofList (input.toList.takeWhile (· != '\n'))

namespace Expression

/-- Compiles the pattern. -/
def compile (e : Expression) (backend : Backend) : Except Failure Compiled :=
  backend.compile e.pattern (e.modifiers.contains .anyCase)

/-- The part of an input that is tested. -/
def tested (e : Expression) (input : String) : String :=
  if e.modifiers.contains .multiline then input else firstLine input

/-- Tests an input. -/
def test (e : Expression) (backend : Backend) (input : String) : Except Failure Bool :=
  (e.compile backend).bind fun c =>
    if e.modifiers.contains .global then c.search.isMatch (e.tested input)
    else c.fullMatch (e.tested input)

/-- Replaces every match in a source. -/
def replace (e : Expression) (backend : Backend) (source replacement : String) :
    Except Failure String :=
  (e.compile backend).bind fun c => c.search.replaceAll source replacement

end Expression

end Verbal
