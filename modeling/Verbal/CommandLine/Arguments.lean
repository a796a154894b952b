import Verbal.Step

/-!
# Command-line arguments

The options of a command may stand on either side of its name: `readArguments` reads first those
before it and then, with the values that the command takes, those after it. The value of a step that
stands in an argument of its own is looked at when the next option or value comes, and at the end
only after what follows the command's name. Steps after the name take the place of those before it.
-/

namespace Verbal.CommandLine

/-- What is to be done with the expression. -/
inductive Command where
  | display
  | test (input : String)
  | replace (source replacement : String)
  deriving Repr, DecidableEq

/-- Why arguments are refused, or answered with information alone. -/
inductive Refusal where
  | nothingGiven
  | help
  | version
  | commandMissing
  | commandUnknown
  | argumentUnknown
  | valueMissing
  | stepMissing
  | stepInvalid (fault : StepFault)
  | flagRepeated
  | flagWithValue
  deriving Repr, DecidableEq

/-- The switches that take no value. -/
structure Switches where
  anyCase : Bool
  multiline : Bool
  global : Bool
  verbose : Bool
  deriving Repr, DecidableEq

/-- A switch that takes no value. -/
inductive Switch where
  | anyCase
  | multiline
  | global
  | verbose
  deriving Repr, DecidableEq

namespace Switches

/-- No switch is on. -/
def none : Switches := ⟨false, false, false, false⟩

/-- Whether a switch is on. -/
def isOn (s : Switches) : Switch → Bool
  | .anyCase => s.anyCase
  | .multiline => s.multiline
  | .global => s.global
  | .verbose => s.verbose

/-- Turns a switch on. -/
def turnOn (s : Switches) : Switch → Switches
  | .anyCase => { s with anyCase := true }
  | .multiline => { s with multiline := true }
  | .global => { s with global := true }
  | .verbose => { s with verbose := true }

/-- The switches that are on in one of two. -/
def union (s t : Switches) : Switches :=
  ⟨s.anyCase || t.anyCase, s.multiline || t.multiline, s.global || t.global,
    s.verbose || t.verbose⟩

end Switches

/-- What the arguments ask for. -/
structure Invocation where
  command : Command
  steps : List Verb
  switches : Switches
  deriving Repr, DecidableEq

/-! ## Options -/

/-- What an option asks for. -/
inductive Wish where
  | step
  | switch (s : Switch)
  | help
  | version
  deriving Repr, DecidableEq

/-- The option of that long name; that for the version stands only before a command's name. -/
def longWish? (inside : Bool) (name : List Char) : Option Wish :=
  match String.ofList name with
  | "step" => some .step
  | "any-case" => some (.switch .anyCase)
  | "multiline" => some (.switch .multiline)
  | "global" => some (.switch .global)
  | "verbose" => some (.switch .verbose)
  | "help" => some .help
  | "version" => if inside then none else some .version
  | _ => none

/-- The option of that letter. -/
def shortWish? (inside : Bool) : Char → Option Wish
  | 's' => some .step
  | 'i' => some (.switch .anyCase)
  | 'm' => some (.switch .multiline)
  | 'g' => some (.switch .global)
  | 'v' => some (.switch .verbose)
  | 'h' => some .help
  | 'V' => if inside then none else some .version
  | _ => none

/-- The value of a step that stands in an argument of its own: whether it is still to come, or was
given and not looked at yet. -/
inductive Waiting where
  | nothing
  | value
  | given (text : String)
  deriving Repr, DecidableEq

/-- What has been read on one side of the command's name. -/
structure Side where
  steps : List Verb
  switches : Switches
  waiting : Waiting
  deriving Repr, DecidableEq

namespace Side

/-- Nothing has been read. -/
def empty : Side := ⟨[], .none, .nothing⟩

/-- Whether no option has been read. -/
def isEmpty (side : Side) : Bool := side.steps.isEmpty && side.switches = .none

/-- Adds a step. -/
def addStep (side : Side) (text : String) : Except Refusal Side :=
  match readStep text.toList with
  | .ok verb => .ok { side with steps := side.steps ++ [verb], waiting := .nothing }
  | .error fault => .error (.stepInvalid fault)

/-- Looks at the value that waits. -/
def settle (side : Side) : Except Refusal Side :=
  match side.waiting with
  | .nothing => .ok side
  | .value => .error .stepMissing
  | .given text => side.addStep text

/-- Turns a switch on, which may not be on already. -/
def turnOn (side : Side) (s : Switch) : Except Refusal Side :=
  if side.switches.isOn s then .error .flagRepeated
  else .ok { side with switches := side.switches.turnOn s }

/-- Does what an option asks for that takes no value. -/
def flag (side : Side) : Wish → Except Refusal Side
  | .step => .ok side
  | .switch s => side.settle.bind (·.turnOn s)
  | .help => side.settle.bind fun _ => .error .help
  | .version => side.settle.bind fun _ => .error .version

/-- Begins a step, with its value if it is attached. -/
def step (side : Side) (attached : Option String) : Except Refusal Side :=
  side.settle.bind fun side =>
    match attached with
    | some text => side.addStep text
    | none => .ok { side with waiting := .value }

/-- Reads the letters of joined short options. What follows the letter of a step is its value, with
or without an equals sign in front. -/
def short (side : Side) (inside : Bool) : List Char → Except Refusal Side
  | [] => .ok side
  | c :: letters =>
    match shortWish? inside c with
    | none => .error .argumentUnknown
    | some .step =>
      side.step <| match letters with
        | [] => none
        | '=' :: value => some (String.ofList value)
        | value => some (String.ofList value)
    | some wish => (side.flag wish).bind fun side => side.short inside letters

/-- Reads a long option, whose value may be attached after an equals sign. -/
def long (side : Side) (inside : Bool) (text : List Char) : Except Refusal Side :=
  let (name, value) := splitStep text
  match longWish? inside name with
  | none => .error .argumentUnknown
  | some .step => side.step (value.map String.ofList)
  | some wish => if value.isSome then .error .flagWithValue else side.flag wish

/-- Reads options; `none` if the argument is no option. -/
def option? (side : Side) (inside : Bool) (argument : String) : Option (Except Refusal Side) :=
  match argument.toList with
  | '-' :: '-' :: text => some (side.long inside text)
  | '-' :: c :: letters => some (side.short inside (c :: letters))
  | _ => none

end Side

/-! ## Commands -/

/-- The names of the commands, and how many values each takes. -/
def commandArity? : String → Option Nat
  | "show" => some 0
  | "test" => some 1
  | "replace" => some 2
  | _ => none

/-- The command of that name with its values. -/
def commandOf : String → List String → Option Command
  | "show", [] => some .display
  | "test", [input] => some (.test input)
  | "replace", [source, replacement] => some (.replace source replacement)
  | _, _ => none

/-- Reads the arguments after a command's name: options, and values as long as the command takes
more. After `--` all are values. -/
def readInside (arity : Nat) (values : List String) (literal : Bool) (side : Side) :
    List String → Except Refusal (Side × List String)
  | [] => side.settle.map fun side => (side, values.reverse)
  | a :: arguments =>
    let value : Except Refusal (Side × List String) :=
      if values.length < arity then
        side.settle.bind fun side => readInside arity (a :: values) literal side arguments
      else .error .argumentUnknown
    if literal then value
    else if a = "--" then readInside arity values true side arguments
    else
      match side.option? true a with
      | some (.ok side) => readInside arity values literal side arguments
      | some (.error refusal) => .error refusal
      | none =>
        if side.waiting = .value then
          readInside arity values literal { side with waiting := .given a } arguments
        else value

/-- Puts together what was read on both sides of a command's name. -/
def invocation (name : String) (outer inner : Side) (values : List String) :
    Except Refusal Invocation :=
  match commandOf name values with
  | none => .error .valueMissing
  | some command =>
    outer.settle.map fun outer =>
      { command
        steps := if inner.steps.isEmpty then outer.steps else inner.steps
        switches := outer.switches.union inner.switches }

/-- Answers a call for help: about the whole or about one command. -/
def helpAbout : List String → Refusal
  | [] => .help
  | [name] => if (commandArity? name).isSome || name = "help" then .help else .commandUnknown
  | _ => .commandUnknown

/-- Reads the arguments before a command's name, and then those after it. -/
def readOutside (literal : Bool) (side : Side) : List String → Except Refusal Invocation
  | [] =>
    side.settle.bind fun side =>
      .error (if side.isEmpty then .nothingGiven else .commandMissing)
  | a :: arguments =>
    if literal then
      .error (if (commandArity? a).isSome || a = "help" then .argumentUnknown else .commandUnknown)
    else if side.waiting = .value then
      if a = "--" then readOutside true side arguments
      else
        match side.option? false a with
        | some (.ok side) => readOutside literal side arguments
        | some (.error refusal) => .error refusal
        | none => readOutside literal { side with waiting := .given a } arguments
    else if a = "help" then .error (helpAbout arguments)
    else
      match commandArity? a with
      | some arity =>
        (readInside arity [] false .empty arguments).bind fun (inner, values) =>
          invocation a side inner values
      | none =>
        if a = "--" then readOutside true side arguments
        else
          match side.option? false a with
          | some (.ok side) => readOutside literal side arguments
          | some (.error refusal) => .error refusal
          | none => .error .commandUnknown

/-- Reads the arguments of a command line, without the program's name. -/
def readArguments (arguments : List String) : Except Refusal Invocation :=
  readOutside false .empty arguments

end Verbal.CommandLine
