import Verbal.Extended.Tree
import Verbal.Regular.Program

/-!
# Plans

A plan says how a pattern that is not easy is matched: its parts that a regular pattern can match
are matched as one, and a part never gives back what it read; the rest is matched by trying one way
after the other. `Tree.plan` cuts a tree into parts.

Where a sequence is cut follows from what may have to be tried again. Parts of constant size in
front and at the end are never tried again in another way, so they are matched as one; so are all
easy ones at the end where nothing that follows could fail.
-/

namespace Verbal.Extended

open Verbal.Regular (Ast Chain Look Skeleton Trail)

/-- How a pattern is matched. -/
inductive Plan (δ : Type) where
  | nothing
  /-- A part that is matched as one, with the groups in it. -/
  | part (d : δ) (groups : List Nat)
  | look (l : Look)
  | seq (a b : Plan δ)
  | choice (a b : Plan δ)
  | capture (index : Nat) (a : Plan δ)
  /-- Exactly `count` rounds. -/
  | times (count : Nat) (a : Plan δ)
  /-- At most `count` rounds. -/
  | upTo (count : Nat) (greedy : Bool) (a : Plan δ)
  /-- Any number of rounds that each read something. -/
  | star (greedy : Bool) (a : Plan δ)
  /-- Looks from `back` characters before the place. -/
  | around (back : Nat) (negated : Bool) (a : Plan δ)
  | backref (index : Nat)
  | groupTest (index : Nat)
  | atomic (a : Plan δ)
  | conditional (condition yes no : Plan δ)
  | keepOut
  | contiguous
  deriving Repr, DecidableEq

/-- The same plan with other values for its parts. -/
def Plan.map {δ ε : Type} (f : δ → ε) : Plan δ → Plan ε
  | nothing => nothing
  | part d groups => part (f d) groups
  | look l => look l
  | seq a b => seq (a.map f) (b.map f)
  | choice a b => choice (a.map f) (b.map f)
  | capture index a => capture index (a.map f)
  | times count a => times count (a.map f)
  | upTo count greedy a => upTo count greedy (a.map f)
  | star greedy a => star greedy (a.map f)
  | around back negated a => around back negated (a.map f)
  | backref index => backref index
  | groupTest index => groupTest index
  | atomic a => atomic (a.map f)
  | conditional condition yes no => conditional (condition.map f) (yes.map f) (no.map f)
  | keepOut => keepOut
  | contiguous => contiguous

/-! ## Parts -/

/-- A part before a text is given. -/
abbrev Part := Skeleton (Option Trail)

/-- Compiles a regular pattern that says what an easy tree says. -/
def partOf (anyCase : Bool) (ast : Ast) : Except Fault Part :=
  if Regular.nestingLimit < ast.depth .none then .error .partInvalid
  else
    match ast.regex (.initial anyCase) with
    | .error _ => .error .partInvalid
    | .ok (regex, _) =>
      match regex.compile with
      | .ok part => .ok part
      | .error _ => .error .partTooLarge

/-- The part that matches easy trees one after the other, given the regular pattern that says what
they say. Letters alone are compared with the text as they are, and no limit is set to them. -/
def partOfTrees (trees : List Tree) (ast : Ast) : Except Fault Part :=
  if trees.all Tree.isLiteral then
    match ast.regex (.initial false) with
    | .error _ => .error .partInvalid
    | .ok (regex, _) => .ok (regex.unroll none)
  else partOf false ast

/-- The items of a sequence. -/
def Tree.items : Tree → List Tree
  | concat a b => a :: b.items
  | t => [t]

/-- The plan that matches easy trees one after the other as one. -/
def planPart (trees : List Tree) : Except Fault (Plan Part) :=
  if trees.isEmpty then .ok .nothing
  else do
    let asts ← trees.mapM (Tree.cook 1 .none)
    let part ← partOfTrees trees (.ofItems asts)
    return .part part (trees.flatMap Tree.groups)

/-! ## Cutting -/

/-- Where in a chain a tree stands while it is cut. -/
inductive Position where
  | alone
  /-- In a sequence, after easy trees of constant size that wait to be matched as one. -/
  | front (waiting : List Tree)
  /-- In a sequence, after the first tree that is matched on its own. -/
  | middle
  /-- In alternatives after the first. -/
  | branch
  /-- In alternatives of a look-behind, each of which looks on its own. -/
  | behind (negated : Bool)

namespace Tree

variable (referred : List Nat)

/-- Whether a tree can be matched as one in front of a sequence. -/
def isFront (t : Tree) : Bool := t.constSize && !t.hard referred

/-- Whether the items of a sequence can be matched as one at its end; `later` if something that
follows could fail. -/
def isEnd (later : Bool) (t : Tree) : Bool :=
  !t.hard referred && (!later || t.items.all constSize)

/-- The plan of a look-behind, which needs a constant size. -/
def planBehind (negated : Bool) (t : Tree) (plan : Except Fault (Plan Part)) :
    Except Fault (Plan Part) :=
  if t.constSize then plan.map (.around t.minSize negated) else .error .lookBehindVaries

/-- The plan of a tree that is no sequence, where `plan` makes the plan of the tree on its own. -/
def planAt (t : Tree) (later : Bool) (plan : Bool → Except Fault (Plan Part)) :
    Position → Except Fault (Plan Part)
  | .alone => if !later && !t.hard referred then planPart [t] else plan later
  | .branch => if !later && !t.hard referred then planPart [t] else plan later
  | .front waiting =>
    if t.isFront referred then planPart (waiting ++ [t])
    else do
      let before ← planPart waiting
      return .seq before (← if t.isEnd referred later then planPart [t] else plan true)
  | .middle => if t.isEnd referred later then planPart [t] else plan true
  | .behind negated =>
    planBehind negated t (if !t.hard referred then planPart [t] else plan false)

/-- How a tree is matched; `later` if something that follows could fail. -/
def plan (position : Position) (later : Bool) : Tree → Except Fault (Plan Part)
  | concat a b =>
    let next (later : Bool) : Except Fault (Plan Part) :=
      if (concat a b).isEnd referred later then planPart (concat a b).items
      else do return .seq (← a.plan .alone true) (← b.plan .middle later)
    let first (later : Bool) (waiting : List Tree) : Except Fault (Plan Part) :=
      if a.isFront referred then b.plan (.front (waiting ++ [a])) later
      else do return .seq (← planPart waiting) (← next later)
    let whole (later : Bool) : Except Fault (Plan Part) :=
      if !later && !(concat a b).hard referred then planPart (concat a b).items
      else first later []
    match position with
    | .front waiting => first later waiting
    | .middle => next later
    | .behind negated => planBehind negated (concat a b) (whole false)
    | _ => whole later
  | alternate a b =>
    let each (later : Bool) : Except Fault (Plan Part) := do
      return .choice (← a.plan .alone later) (← b.plan .branch later)
    match position with
    | .branch => each later
    | .behind negated => do
      let first ← planBehind negated a (a.plan .alone false)
      let rest ← b.plan (.behind negated) false
      return if negated then .seq first rest else .choice first rest
    | _ => planAt referred (alternate a b) later each position
  | empty => planAt referred empty later (fun _ => .ok .nothing) position
  | any newline => planAt referred (any newline) later (fun _ => planPart [any newline]) position
  | literal c anyCase =>
    planAt referred (literal c anyCase) later (fun _ => planPart [literal c anyCase]) position
  | fragment text anyCase =>
    planAt referred (fragment text anyCase) later (fun _ => planPart [fragment text anyCase])
      position
  | assertion l => planAt referred (assertion l) later (fun _ => .ok (.look l)) position
  | plain t => planAt referred (plain t) later (fun later => t.plan .alone later) position
  | group i t =>
    planAt referred (group i t) later
      (fun later => do return .capture i (← t.plan .alone later)) position
  | look .ahead negated t =>
    planAt referred (look .ahead negated t) later
      (fun _ => do return .around 0 negated (← t.plan .alone false)) position
  | look .behind negated t =>
    planAt referred (look .behind negated t) later
      (fun _ =>
        if t.constSize then do return .around t.minSize negated (← t.plan .alone false)
        else t.plan (.behind negated) false) position
  | repetition least most greedy t =>
    planAt referred (repetition least most greedy t) later
      (fun later =>
        if least = 0 ∧ most = some 1 then do return .upTo 1 greedy (← t.plan .alone later)
        else do
          let a ← t.plan .alone true
          let mandatory := min least (most.getD least)
          let more : Plan Part :=
            match most with
            | none => .star greedy a
            | some most => .upTo (most - mandatory) greedy a
          return .seq (.times mandatory a) more) position
  | atomic t =>
    planAt referred (atomic t) later (fun _ => do return .atomic (← t.plan .alone false)) position
  | backref i => planAt referred (backref i) later (fun _ => .ok (.backref i)) position
  | groupTest i => planAt referred (groupTest i) later (fun _ => .ok (.groupTest i)) position
  | conditional condition yes no =>
    planAt referred (conditional condition yes no) later
      (fun later => do
        return .conditional (← condition.plan .alone later) (← yes.plan .alone later)
          (← no.plan .alone later)) position
  | keepOut => planAt referred keepOut later (fun _ => .ok .keepOut) position
  | contiguous => planAt referred contiguous later (fun _ => .ok .contiguous) position

end Tree

end Verbal.Extended
