import Verbal.Regular.Class

/-!
# Reading regular patterns

`Source.read` reads a pattern from left to right. Groups that are still open wait in a list, the
innermost first, with what stands in front of them; the first fault from the left is the one
reported, and groups that are never closed only at the end. Whether the pattern is nested too
deeply is looked at last, when it has been read.
-/

namespace Verbal.Regular

open Verbal.Unicode

/-- A group that is still open: what it does, the mode of the text around it, and the branches and
items in front of it, the last ones first. -/
structure Level where
  kind : GroupKind
  verbose : Bool
  branches : List Ast
  items : List Ast
  deriving Repr, DecidableEq

/-- What has been read of a pattern: the groups that are open, the branches and items of the
innermost one, the last ones first, the mode, and the capture groups so far with the names of
those that have one. -/
structure Draft where
  levels : List Level
  branches : List Ast
  items : List Ast
  verbose : Bool
  groups : Nat
  names : List (List Char × Nat)
  deriving Repr, DecidableEq

namespace Draft

/-- Nothing has been read. -/
def start : Draft := ⟨[], [], [], false, 0, []⟩

/-- Adds an item. -/
def push (d : Draft) (a : Ast) : Draft := { d with items := a :: d.items }

/-- What was read of the innermost open group. -/
def body (d : Draft) : Ast :=
  .ofBranches (Ast.ofItems d.items.reverse :: d.branches).reverse

/-- Begins a new branch. -/
def branch (d : Draft) : Draft :=
  { d with branches := Ast.ofItems d.items.reverse :: d.branches, items := [] }

/-- Opens a group. -/
def openGroup (d : Draft) (kind : GroupKind) (verbose : Bool) : Draft :=
  { d with
    levels := ⟨kind, d.verbose, d.branches, d.items⟩ :: d.levels
    branches := []
    items := []
    verbose := verbose }

/-- Opens the next capture group. -/
def openCapture (d : Draft) : Draft :=
  let d := d.openGroup (.capture (d.groups + 1)) d.verbose
  { d with groups := d.groups + 1 }

/-- Opens the next capture group, under a name that is still free. -/
def openNamed (d : Draft) (name : List Char) : Except Fault Draft :=
  if name.isEmpty then .error .groupNameEmpty
  else if d.names.any (·.1 == name) then .error .groupNameDuplicate
  else
    let opened := d.openCapture
    .ok { opened with names := (name, opened.groups) :: d.names }

/-- Closes the innermost open group. -/
def closeGroup (d : Draft) : Except Fault Draft :=
  match d.levels with
  | [] => .error .groupUnopened
  | level :: levels =>
    .ok { d with
      levels := levels
      branches := level.branches
      items := .group level.kind d.body :: level.items
      verbose := level.verbose }

/-- Whether the last item can be repeated: there has to be one, and it is not a switch. -/
def checkTarget (d : Draft) : Except Fault Unit :=
  match d.items with
  | [] => .error .repetitionWithoutTarget
  | .flags _ :: _ => .error .repetitionWithoutTarget
  | _ => .ok ()

/-- Repeats the last item. -/
def repeatLast (d : Draft) (count : Repetition) (reluctant : Bool) : Except Fault Draft :=
  match d.items with
  | [] => .error .repetitionWithoutTarget
  | .flags _ :: _ => .error .repetitionWithoutTarget
  | a :: items => .ok { d with items := .repetition count reluctant a :: items }

end Draft

/-! ## Groups -/

/-- Whether a character can stand in the name of a group. -/
def isNameChar (first : Bool) (c : Char) : Bool :=
  c == '_' || (if first then isAlphabetic c
    else c == '.' || c == '[' || c == ']' || isAlphanumeric c)

/-- Reads the name of a group up to the closing bracket, the last character first. -/
def readName (name : List Char) : (s : List Char) → Reading (List Char) s
  | [] => .error .groupNameUnclosed
  | c :: s =>
    if c = '>' then .ok (name, ⟨s, length_le_cons c s⟩)
    else if isNameChar name.isEmpty c then (readName (c :: name) s).within (length_le_cons c s)
    else .error .groupNameInvalid

/-- The switches that have been read, the last one first, and how far negation has gone. -/
structure DraftSwitches where
  switches : Switches
  negated : Bool
  dangling : Bool
  deriving Repr, DecidableEq

/-- Reads switches up to the character that ends them, a colon or a parenthesis; the result says
whether it was a colon. -/
def readSwitches (d : DraftSwitches) : (s : List Char) → Reading (Switches × Bool) s
  | [] => .error .flagUnfinished
  | c :: s =>
    if c = ':' || c = ')' then
      if d.dangling then .error .flagNegationDangling
      else .ok ((d.switches.reverse, c == ':'), ⟨s, length_le_cons c s⟩)
    else if c = '-' then
      if d.negated then .error .flagNegationRepeated
      else (readSwitches { d with negated := true, dangling := true } s).within (length_le_cons c s)
    else
      match Flag.ofChar? c with
      | none => .error .flagUnknown
      | some flag =>
        if d.switches.any (·.1 == flag) then .error .flagDuplicate
        else
          (readSwitches { d with switches := (flag, !d.negated) :: d.switches, dangling := false }
            s).within (length_le_cons c s)

/-- Opens a group that has switches, or throws the switches if there is no group. Without a group
there have to be some. -/
def Draft.switch (d : Draft) (switches : Switches) (opens : Bool) : Except Fault Draft :=
  let verbose := (switches.state? .verbose).getD d.verbose
  if opens then .ok (d.openGroup (.plain switches) verbose)
  else if switches.isEmpty then .error .repetitionWithoutTarget
  else .ok { d.push (.flags switches) with verbose := verbose }

/-- What begins after an opening parenthesis. -/
inductive Opening where
  | lookAround
  | named (dropped : Nat)
  | switches
  | capture

/-- Tells what begins after an opening parenthesis. -/
def opening : List Char → Opening
  | '?' :: '=' :: _ => .lookAround
  | '?' :: '!' :: _ => .lookAround
  | '?' :: '<' :: '=' :: _ => .lookAround
  | '?' :: '<' :: '!' :: _ => .lookAround
  | '?' :: 'P' :: '<' :: _ => .named 3
  | '?' :: '<' :: _ => .named 2
  | '?' :: _ => .switches
  | _ => .capture

/-- Reads what follows an opening parenthesis. -/
def readGroup (d : Draft) (s : List Char) : Reading Draft s :=
  let t := skipBlanks d.verbose s
  have ht : t.length ≤ s.length := skipBlanks_length_le d.verbose s
  match opening t with
  | .lookAround => .error .lookAround
  | .named n =>
    ((readName [] (t.drop n)).within
      (Nat.le_trans (by simp) ht)).bind fun (name, rest) =>
        (d.openNamed name.reverse).map fun d => (d, rest)
  | .switches =>
    match t.tail, (by simp : t.tail.length ≤ t.length) with
    | [], _ => .error .groupUnclosed
    | c :: r, h =>
      ((readSwitches ⟨[], false, false⟩ (c :: r)).within (Nat.le_trans h ht)).bind
        fun ((switches, opens), rest) => (d.switch switches opens).map fun d => (d, rest)
  | .capture => .ok (d.openCapture, ⟨t, ht⟩)

/-! ## Repetitions -/

/-- Reads the question mark that makes a repetition reluctant. -/
def readReluctant : (s : List Char) → Bool × Rest s
  | '?' :: s => (true, ⟨s, length_le_cons '?' s⟩)
  | s => (false, .all s)

/-- Reads the rest of a counted repetition after its first number. -/
def readCountEnd (verbose : Bool) (least : Except Fault Nat) :
    (s : List Char) → Reading Repetition s
  | [] => .error .repetitionUnclosed
  | c :: r =>
    if c ≠ ',' then least.map fun n => (⟨n, some n⟩, Rest.all (c :: r))
    else
      match skipBlanks verbose r, skipBlanks_length_le verbose r with
      | [], _ => .error .repetitionUnclosed
      | d :: r, h =>
        if d = '\x7d' then least.map fun n => (⟨n, none⟩, ⟨d :: r, cons_length_le_cons h⟩)
        else
          let (most, rest) := readDecimal verbose (d :: r)
          least.bind fun n => most.map fun m =>
            (⟨n, some m⟩, ⟨rest.1, Nat.le_trans rest.2 (cons_length_le_cons h)⟩)

/-- Whether a count can be met. -/
def Repetition.check (count : Repetition) : Except Fault Unit :=
  match count.most with
  | some m => if count.least ≤ m then .ok () else .error .repetitionReversed
  | none => .ok ()

/-- Reads a counted repetition after its opening brace, and whether it is reluctant. -/
def readCount (verbose : Bool) (s : List Char) : Reading (Repetition × Bool) s :=
  match skipBlanks verbose s, skipBlanks_length_le verbose s with
  | [], _ => .error .repetitionUnclosed
  | c :: r, h =>
    let (least, rest) := readDecimal verbose (c :: r)
    ((readCountEnd verbose least rest.1).within (Nat.le_trans rest.2 h)).bind
      fun (count, rest) =>
        match rest with
        | ⟨[], _⟩ => .error .repetitionUnclosed
        | ⟨c :: r, h⟩ =>
          if c ≠ '\x7d' then .error .repetitionUnclosed
          else
            let (reluctant, rest) := readReluctant (skipBlanks verbose r)
            count.check.map fun _ =>
              ((count, reluctant), ⟨rest.1, Nat.le_trans rest.2
                (Nat.le_trans (skipBlanks_length_le verbose r) (Nat.le_of_lt h))⟩)

/-- The count of a repetition that is written as one character. -/
def Repetition.ofChar? : Char → Option Repetition
  | '?' => some ⟨0, some 1⟩
  | '*' => some ⟨0, none⟩
  | '+' => some ⟨1, none⟩
  | _ => none

/-! ## Patterns -/

/-- Reads one item, bar, parenthesis or repetition that begins with the given character. -/
def readStep (d : Draft) (c : Char) (s : List Char) : Reading Draft s :=
  let rest : Rest s := .all s
  match Repetition.ofChar? c with
  | some count =>
    let (reluctant, rest) := readReluctant s
    (d.repeatLast count reluctant).map fun d => (d, rest)
  | none =>
    match c with
    | '(' => readGroup d s
    | ')' => d.closeGroup.map fun d => (d, rest)
    | '|' => .ok (d.branch, rest)
    | '[' => (readClass d.verbose s).map fun (item, rest) => (d.push (.set item), rest)
    | '\x7b' => d.checkTarget.bind fun _ =>
      (readCount d.verbose s).bind fun ((count, reluctant), rest) =>
        (d.repeatLast count reluctant).map fun d => (d, rest)
    | '\\' => (readEscape d.verbose s).map fun (p, rest) => (d.push (.primitive p), rest)
    | '.' => .ok (d.push (.primitive .dot), rest)
    | '^' => .ok (d.push (.primitive (.assertion .startLine)), rest)
    | '$' => .ok (d.push (.primitive (.assertion .endLine)), rest)
    | c => .ok (d.push (.primitive (.letter ⟨c, false⟩)), rest)

/-- Reads a pattern to its end. -/
def readAll (d : Draft) (s : List Char) : Except Fault Draft :=
  match skipBlanks d.verbose s, skipBlanks_length_le d.verbose s with
  | [], _ => .ok d
  | c :: r, h =>
    match readStep d c r with
    | .error e => .error e
    | .ok (d, rest) =>
      have : rest.1.length < s.length := Nat.lt_of_le_of_lt rest.2 h
      readAll d rest.1
termination_by s.length

/-- A pattern that has been read: what is written, the number of its capture groups, and the names
of those that have one. -/
structure Source where
  ast : Ast
  groups : Nat
  names : List (List Char × Nat)
  deriving Repr, DecidableEq

/-- The pattern that was read, if all of its groups are closed. -/
def Draft.finish (d : Draft) : Except Fault Source :=
  if d.levels.isEmpty then .ok ⟨d.body, d.groups, d.names⟩ else .error .groupUnclosed

/-- Whether a pattern is nested no deeper than it may be. -/
def Source.checkDepth (source : Source) : Except Fault Source :=
  if source.ast.depth .none ≤ nestingLimit then .ok source else .error .nestingTooDeep

/-- Reads a pattern. -/
def Source.read (pattern : List Char) : Except Fault Source :=
  (readAll .start pattern).bind fun d => d.finish.bind Source.checkDepth

end Verbal.Regular
