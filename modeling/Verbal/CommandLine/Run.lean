import Verbal.CommandLine.Arguments
import Verbal.CommandLine.Log

/-!
# Runs of the command

A run reads its arguments, builds the expression that they describe, and shows it, tests an input
or replaces matches. `Invocation.report` tells all that a run writes and its exit code; nothing else
comes of it. Which events are logged is for the surroundings to say.
-/

namespace Verbal.CommandLine

/-- What a run finds around it: the backend that it uses, whether it may use colors, and the level
of the log if one is asked for. -/
structure Surroundings where
  backend : Backend
  color : Bool
  level : Option Level
  deriving Repr, DecidableEq

/-- What comes of a run: its exit code, what it writes, and its log. -/
structure Report where
  exit : Nat
  stdout : String
  stderr : String
  log : List String
  deriving Repr, DecidableEq

/-! ## Styles -/

/-- How a text is shown. -/
inductive Style where
  | bold
  | dimmed
  | green
  | red
  | yellow
  | cyan
  | boldRed
  deriving Repr, DecidableEq

namespace Style

/-- The sequence that begins a style. -/
def start : Style → List Char
  | bold => "\x1b[1m".toList
  | dimmed => "\x1b[2m".toList
  | green => "\x1b[32m".toList
  | red => "\x1b[31m".toList
  | yellow => "\x1b[33m".toList
  | cyan => "\x1b[36m".toList
  | boldRed => "\x1b[1;31m".toList

/-- The sequence that ends all styles. -/
def reset : List Char := "\x1b[0m".toList

/-- A text in which the style begins again after every end of styles; `skipped` counts the
characters that were copied already. -/
def resume (style : Style) (skipped : Nat) : List Char → List Char
  | [] => []
  | c :: text =>
    if skipped ≠ 0 then resume style (skipped - 1) text
    else if reset.isPrefixOf (c :: text) then
      reset ++ style.start ++ resume style (reset.length - 1) text
    else c :: resume style 0 text

/-- A text in a style, if colors are used. -/
def apply (style : Style) (color : Bool) (text : String) : String :=
  if color then String.ofList (style.start ++ style.resume 0 text.toList ++ reset) else text

end Style

/-! ## Runs -/

/-- The level of the log: the one asked for, or else that of a verbose or a plain run. -/
def Surroundings.logLevel (around : Surroundings) (verbose : Bool) : Level :=
  around.level.getD (if verbose then .debug else .warn)

/-- Whether an event is logged. -/
def Surroundings.logs (around : Surroundings) (verbose : Bool) (event : Event) : Bool :=
  event.level.rank ≤ (around.logLevel verbose).rank

/-- The lines of the events that are logged. -/
def logLines (logs : Event → Bool) (events : List Event) : List String :=
  (events.filter logs).map Event.line

/-- The expression that an invocation describes. -/
def Invocation.expression (i : Invocation) : Expression :=
  (Expression.empty.applyAll i.steps).applyAll
    [.anyCase i.switches.anyCase, .searchOneLine (!i.switches.multiline),
      .searchGlobal i.switches.global]

/-- What is shown of an expression. -/
def display (color : Bool) (e : Expression) : String :=
  let modifiers :=
    if e.modifiers.isEmpty then Style.dimmed.apply color "(none)"
    else Style.yellow.apply color e.modifiers.display
  Style.bold.apply color "Expression" ++ "\n  Pattern:   " ++ Style.cyan.apply color e.pattern ++
    "\n  Modifiers: " ++ modifiers ++ "\n"

/-- The report of a failure. -/
def failed (color : Bool) (failure : Failure) (log : List String) : Report :=
  ⟨2, "", Style.boldRed.apply color "Error:" ++ " " ++ failure.display, log⟩

/-- The report of a test. -/
def testReport (color : Bool) (log : List String) : Except Failure Bool → Report
  | .ok true => ⟨0, Style.green.apply color "true" ++ "\n", "", log⟩
  | .ok false => ⟨1, Style.red.apply color "false" ++ "\n", "", log⟩
  | .error failure => failed color failure log

/-- The report of a replacement. -/
def replaceReport (color : Bool) (log : List String) : Except Failure String → Report
  | .ok result => ⟨0, result ++ "\n", "", log⟩
  | .error failure => failed color failure log

/-- What happens in a run, as far as it can be logged. -/
def Invocation.events (i : Invocation) (backend : Backend) : List Event :=
  match i.command with
  | .display => []
  | .test input => testEvents i.expression backend input
  | .replace source replacement => replaceEvents i.expression backend source replacement

/-- Carries out an invocation. -/
def Invocation.report (i : Invocation) (backend : Backend) (color : Bool) (logs : Event → Bool) :
    Report :=
  let log := logLines logs (i.events backend)
  match i.command with
  | .display => ⟨0, display color i.expression, "", log⟩
  | .test input => testReport color log (i.expression.test backend input)
  | .replace source replacement =>
    replaceReport color log (i.expression.replace backend source replacement)

/-- Carries out an invocation in its surroundings. -/
def Invocation.run (i : Invocation) (around : Surroundings) : Report :=
  i.report around.backend around.color (around.logs i.switches.verbose)

/-! ## Refusals -/

/-- The exit code when there is nothing to carry out. -/
def Refusal.exit : Refusal → Nat
  | help => 0
  | version => 0
  | _ => 2

/-- What is written when there is nothing to carry out. -/
def Refusal.message : Refusal → String
  | nothingGiven => "usage: verex [OPTIONS] <show|test INPUT|replace SOURCE REPLACEMENT>"
  | help => "usage: verex [OPTIONS] <show|test INPUT|replace SOURCE REPLACEMENT>"
  | version => "verex 0.1.0"
  | commandMissing => "error: a command is required: show, test or replace"
  | commandUnknown => "error: unrecognized command"
  | argumentUnknown => "error: unexpected argument"
  | valueMissing => "error: a required value is missing"
  | stepMissing => "error: a value is required for --step"
  | stepInvalid fault => "error: invalid value for --step: " ++ fault.message
  | flagRepeated => "error: an option that takes no value was given twice"
  | flagWithValue => "error: an option that takes no value was given one"

/-- The report when there is nothing to carry out. -/
def Refusal.report (refusal : Refusal) : Report :=
  if refusal.exit = 0 then ⟨0, refusal.message ++ "\n", "", []⟩
  else ⟨refusal.exit, "", refusal.message, []⟩

/-- What comes of a run with the given arguments. -/
def run (around : Surroundings) (arguments : List String) : Report :=
  match readArguments arguments with
  | .ok invocation => invocation.run around
  | .error refusal => refusal.report

end Verbal.CommandLine
