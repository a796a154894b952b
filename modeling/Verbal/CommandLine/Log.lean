import Verbal.Evaluation
import Verbal.Text.Quoted

/-!
# Log

What happens while an expression is evaluated can be logged. Every event has a level, and is written
if that level or a finer one is asked for. The events of an evaluation are told apart from its
answer, which does not depend on them.
-/

namespace Verbal.CommandLine

/-- How much is logged, from the coarsest to the finest. -/
inductive Level where
  | error
  | warn
  | info
  | debug
  | trace
  deriving Repr, DecidableEq

namespace Level

/-- How fine a level is. -/
def rank : Level → Nat
  | error => 0
  | warn => 1
  | info => 2
  | debug => 3
  | trace => 4

/-- The level of that name. -/
def ofName? : String → Option Level
  | "error" => some error
  | "warn" => some warn
  | "info" => some info
  | "debug" => some debug
  | "trace" => some trace
  | _ => none

/-- The level as it stands in a log line. -/
def label : Level → String
  | error => "ERROR"
  | warn => "WARN"
  | info => "INFO"
  | debug => "DEBUG"
  | trace => "TRACE"

end Level

/-- What happens while an expression is evaluated. -/
inductive Event where
  | compiling (backend : Backend) (pattern : String) (anyCase : Bool)
  | anchoring (pattern : String)
  | tested (pattern : String) (modifiers : Modifiers) (matched : Bool)
  | replaced (pattern replacement : String)
  deriving Repr, DecidableEq

namespace Event

/-- The level of an event. -/
def level : Event → Level
  | compiling .. => .trace
  | anchoring _ => .trace
  | tested .. => .debug
  | replaced .. => .debug

/-- The part of the program that an event comes from. -/
def target : Event → String
  | compiling .. => "verex_core::evaluator"
  | anchoring _ => "verex_core::evaluator"
  | tested .. => "verex_core::expression"
  | replaced .. => "verex_core::expression"

/-- The name of a backend in the log. -/
def engineName : Backend → String
  | .regular => "regex"
  | .extended => "fancy-regex"

/-- What an event says. -/
def text : Event → String
  | compiling backend pattern anyCase =>
    "compiling with " ++ engineName backend ++ " pattern=" ++ Text.quoted pattern ++
      " case_insensitive=" ++ toString anyCase
  | anchoring pattern => "building anchored program pattern=" ++ pattern
  | tested pattern modifiers matched =>
    "tested expression pattern=" ++ pattern ++ " modifiers=" ++ modifiers.display ++
      " matched=" ++ toString matched
  | replaced pattern replacement =>
    "replaced matches pattern=" ++ pattern ++ " replacement=" ++ Text.quoted replacement

/-- An event as a line of the log. -/
def line (event : Event) : String :=
  event.level.label ++ " " ++ event.target ++ ": " ++ event.text

end Event

/-- The event of compiling an expression. -/
def compilingEvent (e : Expression) (backend : Backend) : Event :=
  .compiling backend e.pattern (e.modifiers.contains .anyCase)

/-- The event of building the program that covers a whole text, if it comes to that. -/
def anchoringEvents (e : Expression) (backend : Backend) : List Event :=
  match e.compile backend with
  | .ok _ => if e.modifiers.contains .global then [] else [.anchoring e.pattern]
  | .error _ => []

/-- The events of a test. -/
def testEvents (e : Expression) (backend : Backend) (input : String) : List Event :=
  compilingEvent e backend :: anchoringEvents e backend ++
    match e.test backend input with
    | .ok matched => [.tested (toString e) e.modifiers matched]
    | .error _ => []

/-- The events of a replacement. -/
def replaceEvents (e : Expression) (backend : Backend) (source replacement : String) :
    List Event :=
  compilingEvent e backend ::
    match e.replace backend source replacement with
    | .ok _ => [.replaced (toString e) replacement]
    | .error _ => []

end Verbal.CommandLine
