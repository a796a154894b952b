import Verbal.Extended.Class
import Verbal.Extended.Tree

/-!
# Reading extended patterns

`Source.read` reads a pattern from left to right. Groups that are still open wait in a list, the
innermost first, with what stands in front of them. The last item of a branch waits as well, since
a repetition may follow it; after a repetition nothing waits, and another one is a fault.
-/

namespace Verbal.Extended

open Verbal.Regular (Repetition)

/-- The flags in force. -/
structure Flags where
  anyCase : Bool
  multiLine : Bool
  dotAll : Bool
  swapGreed : Bool
  verbose : Bool
  deriving Repr, DecidableEq

namespace Flags

/-- No flag is set. -/
def none : Flags := ⟨false, false, false, false, false⟩

/-- Sets or clears the flag of a letter, if it is one. -/
def set? (flags : Flags) (letter : Char) (enable : Bool) : Option Flags :=
  match letter with
  | 'i' => some { flags with anyCase := enable }
  | 'm' => some { flags with multiLine := enable }
  | 's' => some { flags with dotAll := enable }
  | 'U' => some { flags with swapGreed := enable }
  | 'x' => some { flags with verbose := enable }
  | _ => Option.none

end Flags

/-- What an open group is. A plain one gives back the flags that it found. -/
inductive LevelKind where
  | capture (index : Nat)
  | plain (outer : Flags)
  | look (direction : Direction) (negated : Bool)
  | atomic
  /-- The condition of a conditional. -/
  | condition
  /-- The branches of a conditional. -/
  | branches (condition : Tree)
  deriving Repr, DecidableEq

/-- A group that is still open, with the branches and items in front of it, the last ones first. -/
structure Level where
  kind : LevelKind
  branches : List Tree
  items : List Tree
  deriving Repr, DecidableEq

/-- What has been read of a pattern: the groups that are open, the branches and items of the
innermost one, the last ones first, and the item that waits for a repetition. -/
structure Draft where
  scope : Scope
  levels : List Level
  branches : List Tree
  items : List Tree
  pending : Option Tree
  flags : Flags
  /-- Whether a group was referred to by a number. -/
  numbered : Bool
  /-- The groups that were referred to. -/
  referred : List Nat
  /-- Whether one of them had not been opened yet. -/
  unopened : Bool
  deriving Repr, DecidableEq

/-- The number of groups that is too many to be open in one another. -/
def nestingBound : Nat := 64

namespace Draft

/-- Nothing has been read of a pattern. -/
def start (pattern : List Char) : Draft where
  scope := ⟨0, [], Verbal.byteLength pattern⟩
  levels := []
  branches := []
  items := []
  pending := none
  flags := .none
  numbered := false
  referred := []
  unopened := false

/-- No repetition can follow any more. -/
def flush (d : Draft) : Draft :=
  match d.pending with
  | none => d
  | some .empty => { d with pending := none }
  | some t => { d with items := t :: d.items, pending := none }

/-- Adds an item, which a repetition may follow. -/
def push (d : Draft) (t : Tree) : Draft := { d.flush with pending := some t }

/-- Begins a new branch. -/
def branch (d : Draft) : Draft :=
  let d := d.flush
  { d with branches := Tree.ofItems d.items.reverse :: d.branches, items := [] }

/-- What was read of the innermost open group. -/
def body (d : Draft) : Tree :=
  .ofBranches (Tree.ofItems d.flush.items.reverse :: d.branches).reverse

/-- Opens a group. -/
def openLevel (d : Draft) (kind : LevelKind) : Draft :=
  let d := d.flush
  { d with levels := ⟨kind, d.branches, d.items⟩ :: d.levels, branches := [], items := [] }

/-- Opens the next capture group. -/
def openCapture (d : Draft) : Draft :=
  let index := d.scope.groups + 1
  { d.openLevel (.capture index) with scope := { d.scope with groups := index } }

/-- Opens the next capture group under a name. -/
def openNamed (d : Draft) (name : List Char) : Draft :=
  let d := d.openCapture
  { d with scope := { d.scope with names := (name, d.scope.groups) :: d.scope.names } }

/-- Goes back to the level around the innermost open group. -/
def leave (d : Draft) (level : Level) (levels : List Level) : Draft :=
  { d with levels := levels, branches := level.branches, items := level.items, pending := none }

/-- Notes a reference to a group. -/
def refer (d : Draft) (index : Nat) (numbered : Bool) : Draft :=
  { d with
    numbered := d.numbered || numbered
    referred := index :: d.referred
    unopened := d.unopened || d.scope.groups < index }

/-- Numbers and names do not go together; that is noticed where a group without alternatives
ends. -/
def checkEnd (d : Draft) : Except Fault Unit :=
  if d.branches.isEmpty && d.numbered && !d.scope.names.isEmpty then .error .numberBesideNames
  else .ok ()

end Draft

/-! ## Conditionals -/

/-- A condition that is a reference to a group asks whether the group took part. -/
def Tree.asCondition : Tree → Tree
  | backref index => groupTest index
  | t => t

/-- A condition with its branches; without any, it is the condition alone. -/
def Tree.conditionalOf (condition body : Tree) : Tree :=
  let (yes, no) :=
    match body.bare with
    | alternate yes no => (yes, no)
    | t => (t, empty)
  if yes = empty ∧ no = empty then condition.enclosed else conditional condition yes no

/-- Goes on after the condition of a conditional. Without any branches, only a reference can be the
condition. -/
def Draft.openConditional (d : Draft) (condition : Tree) : (s : List Char) → Reading Draft s
  | [] =>
    d.checkEnd.bind fun _ =>
      match condition with
      | .groupTest _ => .error .groupUnclosed
      | _ => .error .conditionAlone
  | c :: s =>
    if c = ')' then
      d.checkEnd.bind fun _ =>
        match condition with
        | .groupTest index => .ok (d.push (.groupTest index), ⟨s, length_le_cons c s⟩)
        | _ => .error .conditionAlone
    else .ok (d.openLevel (.branches condition), .all _)

/-- Reads what follows the opening of a conditional. -/
def readConditional (d : Draft) (s : List Char) : Reading Draft s :=
  let reference (numbered : Bool) : Nat × Rest s → Reading Draft s
    | (_, ⟨[], _⟩) => .error .groupUnclosed
    | (index, ⟨c :: r, h⟩) =>
      if c = ')' then
        ((d.refer index numbered).openConditional (.groupTest index) r).within (Nat.le_of_lt h)
      else .error .closeExpected
  match s.head? with
  | none => .error .groupUnclosed
  | some c =>
    if c.isDigit then (readNumber d.scope s).bind (reference true)
    else if c = '\'' || c = '<' then (readQuoted d.scope s).bind (reference false)
    else .ok (d.openLevel .condition, .all s)

/-! ## Groups -/

/-- Closes the innermost open group. -/
def closeGroup (d : Draft) (s : List Char) : Reading Draft s :=
  d.checkEnd.bind fun _ =>
    match d.levels with
    | [] => .error .endNotReached
    | level :: levels =>
      let outer := d.leave level levels
      match level.kind with
      | .capture index => .ok (outer.push (.group index d.body), .all s)
      | .plain flags => .ok ({ outer.push d.body.enclosed with flags := flags }, .all s)
      | .look direction negated => .ok (outer.push (.look direction negated d.body.bare), .all s)
      | .atomic => .ok (outer.push (.atomic d.body), .all s)
      | .condition => outer.openConditional d.body.asCondition s
      | .branches condition => .ok (outer.push (.conditionalOf condition d.body), .all s)

/-- Reads flags up to the character that ends them, a colon or a parenthesis; the result says which.
`start` is the text after the question mark, of which a fault shows the part read. -/
def readFlags (start : List Char) (flags : Flags) (negated : Bool) (s : List Char) :
    Reading (Flags × Bool) s :=
  match skipGaps flags.verbose s with
  | .error e => .error e
  | .ok ⟨[], _⟩ => .error .groupUnclosed
  | .ok ⟨c :: r, h⟩ =>
    have hr : r.length < s.length := h
    let written := start.take (start.length - (r.length + 1))
    let unknown : Reading (Flags × Bool) s := .error (.flagUnknown (written ++ [c]))
    if c = ')' then
      if written = [] ∨ written = ['-'] then unknown
      else .ok ((flags, false), ⟨r, Nat.le_of_lt hr⟩)
    else if c = ':' then
      if written = ['-'] then unknown else .ok ((flags, true), ⟨r, Nat.le_of_lt hr⟩)
    else if c = '-' then
      if negated then unknown else (readFlags start flags true r).within (Nat.le_of_lt hr)
    else if c = 'u' then
      if negated then .error .unicodeDisabled
      else (readFlags start flags negated r).within (Nat.le_of_lt hr)
    else
      match flags.set? c (!negated) with
      | none => unknown
      | some flags => (readFlags start flags negated r).within (Nat.le_of_lt hr)
termination_by s.length

/-- What begins after an opening parenthesis. -/
inductive Opening where
  | level (kind : LevelKind)
  | named
  | reference
  | conditional
  | flags
  | capture

/-- Tells what begins after an opening parenthesis, and how many characters tell it. -/
def opening : List Char → Opening × Nat
  | '?' :: '=' :: _ => (.level (.look .ahead false), 2)
  | '?' :: '!' :: _ => (.level (.look .ahead true), 2)
  | '?' :: '<' :: '=' :: _ => (.level (.look .behind false), 3)
  | '?' :: '<' :: '!' :: _ => (.level (.look .behind true), 3)
  | '?' :: '<' :: _ => (.named, 2)
  | '?' :: 'P' :: '<' :: _ => (.named, 3)
  | '?' :: 'P' :: '=' :: _ => (.reference, 3)
  | '?' :: '>' :: _ => (.level .atomic, 2)
  | '?' :: '(' :: _ => (.conditional, 2)
  | '?' :: _ => (.flags, 1)
  | _ => (.capture, 0)

/-- Reads what follows an opening parenthesis. -/
def readGroup (d : Draft) (s : List Char) : Reading Draft s :=
  if nestingBound ≤ d.levels.length + 1 then .error .nestingTooDeep
  else
    (skipGaps d.flags.verbose s).bind fun ⟨t, ht⟩ =>
      let (kind, read) := opening t
      let r := t.drop read
      have hr : r.length ≤ s.length := Nat.le_trans (by simp [r]) ht
      match kind with
      | .level kind => .ok (d.openLevel kind, ⟨r, hr⟩)
      | .named =>
        ((readName false '>' r).within hr).map fun (name, rest) => (d.openNamed name, rest)
      | .reference =>
        ((readNamed d.scope false ')' r).within hr).map fun (index, rest) =>
          ((d.refer index false).push (.backref index), rest)
      | .conditional => (readConditional d r).within hr
      | .flags =>
        ((readFlags r d.flags false r).within hr).map fun ((flags, opens), rest) =>
          if opens then ({ d.openLevel (.plain d.flags) with flags := flags }, rest)
          else ({ d.push .empty with flags := flags }, rest)
      | .capture => .ok (d.openCapture, ⟨r, hr⟩)

/-! ## Repetitions -/

/-- The largest number that a text can spell stands for no bound. -/
def boundOf (n : Nat) : Option Nat := if n = UInt64.size - 1 then none else some n

/-- Reads the upper bound of a repetition, which may be missing. -/
def readMost (s : List Char) : Option Nat × Rest s :=
  match decimal? (s.takeWhile Char.isDigit) with
  | some n => (boundOf n, ⟨s.dropWhile Char.isDigit, length_dropWhile_le Char.isDigit s⟩)
  | none => (none, .all s)

/-- Reads the closing brace of a repetition. -/
def readBrace (verbose : Bool) (s : List Char) : Option (Rest s) :=
  match skipGaps verbose s with
  | .ok ⟨c :: r, h⟩ => if c = '\x7d' then some ⟨r, Nat.le_of_lt h⟩ else none
  | _ => none

/-- Reads the rest of a counted repetition after its lower bound. -/
def readBounds (verbose : Bool) (least : Nat) (s : List Char) : Option (Repetition × Rest s) :=
  match skipGaps verbose s with
  | .ok ⟨c :: r, h⟩ =>
    if c = ',' then
      match skipGaps verbose r with
      | .ok ⟨t, ht⟩ =>
        let (most, rest) := readMost t
        (readBrace verbose rest.1).map fun u =>
          (⟨least, most⟩, ((u.within rest.length_le).within ht).within (Nat.le_of_lt h))
      | .error _ => none
    else (readBrace verbose (c :: r)).map fun u => (⟨least, boundOf least⟩, u.within h)
  | _ => none

/-- Reads a counted repetition after its opening brace, if there is one. -/
def readCount? (verbose : Bool) (s : List Char) : Option (Repetition × Rest s) :=
  match skipGaps verbose s with
  | .ok ⟨t, ht⟩ =>
    if t.head? = some ',' then
      (readBounds verbose 0 t).map fun (count, rest) => (count, rest.within ht)
    else
      (decimal? (t.takeWhile Char.isDigit)).bind fun least =>
        (readBounds verbose least (t.dropWhile Char.isDigit)).map fun (count, rest) =>
          (count, (rest.within (length_dropWhile_le Char.isDigit t)).within ht)
  | .error _ => none

/-- Reads a character if it is the next one. -/
def readMark (mark : Char) : (s : List Char) → Bool × Rest s
  | [] => (false, .all [])
  | c :: s => if c = mark then (true, ⟨s, length_le_cons c s⟩) else (false, .all (c :: s))

/-- Repeats the item that waits for it, after reading whether the repetition is reluctant and
whether it gives nothing back. -/
def readRepeated (d : Draft) (count : Repetition) (s : List Char) : Reading Draft s :=
  match d.pending with
  | none => .error .targetInvalid
  | some t =>
    if !t.isRepeatable then .error .targetInvalid
    else
      (skipGaps d.flags.verbose s).map fun ⟨u, hu⟩ =>
        let (reluctant, rest) := readMark '?' u
        let (possessive, rest') := readMark '+' rest.1
        let repeated : Tree :=
          .repetition count.least count.most (reluctant == d.flags.swapGreed) t
        ({ d with
            items := (if possessive then .atomic repeated else repeated) :: d.items
            pending := none },
          (rest'.within rest.length_le).within hu)

/-! ## Patterns -/

/-- The count of a repetition that is written as one character. -/
def countOf? : Char → Option Repetition
  | '?' => some ⟨0, some 1⟩
  | '*' => some ⟨0, none⟩
  | '+' => some ⟨1, none⟩
  | _ => none

/-- Adds what an escape stands for. -/
def Draft.pushEscaped (d : Draft) : Escaped → Draft
  | .letter c folds => d.push (.literal c (folds && d.flags.anyCase))
  | .fragment text folds => d.push (.fragment text (folds && d.flags.anyCase))
  | .assertion look => d.push (.assertion look)
  | .backref index numbered => (d.refer index numbered).push (.backref index)
  | .keepOut => d.push .keepOut
  | .contiguous => d.push .contiguous

/-- Reads one item, bar, parenthesis or repetition that begins with the given character. -/
def readStep (d : Draft) (c : Char) (s : List Char) : Reading Draft s :=
  let letter : Reading Draft s := .ok (d.push (.literal c d.flags.anyCase), .all s)
  match countOf? c with
  | some count => readRepeated d count s
  | none =>
    match c with
    | '(' => readGroup d s
    | ')' => closeGroup d s
    | '|' => .ok (d.branch, .all s)
    | '[' => (readClass d.scope s).map fun (text, rest) =>
      (d.push (.fragment text d.flags.anyCase), rest)
    | '\\' => (readEscape d.scope false s).map fun (e, rest) => (d.pushEscaped e, rest)
    | '.' => .ok (d.push (.any d.flags.dotAll), .all s)
    | '^' =>
      .ok (d.push (.assertion (if d.flags.multiLine then .startLine else .startText)), .all s)
    | '$' => .ok (d.push (.assertion (if d.flags.multiLine then .endLine else .endText)), .all s)
    | '\x7b' =>
      if d.pending.isNone then letter
      else
        match readCount? d.flags.verbose s with
        | some (count, rest) => (readRepeated d count rest.1).within rest.length_le
        | none => letter
    | _ => letter

/-- Reads a pattern to its end. -/
def readAll (d : Draft) (s : List Char) : Except Fault Draft :=
  match skipGaps d.flags.verbose s with
  | .error e => .error e
  | .ok ⟨[], _⟩ => .ok d
  | .ok ⟨c :: r, h⟩ =>
    match readStep d c r with
    | .error e => .error e
    | .ok (d, rest) =>
      have : rest.1.length < s.length := Nat.lt_of_le_of_lt rest.2 h
      readAll d rest.1
termination_by s.length

/-- A pattern that has been read, with the groups that it refers to and the names of its groups. -/
structure Source where
  tree : Tree
  referred : List Nat
  names : List (List Char × Nat)
  deriving Repr, DecidableEq

/-- The pattern that was read, if all of its groups are closed and those referred to were opened
before. -/
def Draft.finish (d : Draft) : Except Fault Source :=
  d.checkEnd.bind fun _ =>
    if !d.levels.isEmpty then .error .groupUnclosed
    else if d.unopened then .error .numberUnopened
    else .ok ⟨d.body, d.referred, d.scope.names⟩

/-- Reads a pattern. -/
def Source.read (pattern : List Char) : Except Fault Source :=
  (readAll (.start pattern) pattern).bind Draft.finish

end Verbal.Extended
