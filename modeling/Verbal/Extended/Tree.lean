import Verbal.Regular.Reader
import Verbal.Regular.Regex
import Verbal.Extended.Fault

/-!
# The syntax of extended patterns

`Tree` is an extended pattern as it is read. Flags are applied while reading, so a tree has none.
Sequences and alternatives are chains that continue on the right, as in the syntax of regular
patterns, and a group that captures nothing is kept only around a chain. A tree is *easy* if a
regular pattern says the same; `Tree.cook` gives that pattern, and with it the places where it may
still be refused.
-/

namespace Verbal.Extended

open Verbal.Regular (Look Ast Chain Repetition Switches)

/-- Where a look-around looks. -/
inductive Direction where
  | ahead
  | behind
  deriving Repr, DecidableEq

/-- An extended pattern. -/
inductive Tree where
  | empty
  | any (newline : Bool)
  | literal (c : Char) (anyCase : Bool)
  /-- The text of a regular pattern that reads one character. -/
  | fragment (text : List Char) (anyCase : Bool)
  | assertion (look : Look)
  | concat (first rest : Tree)
  | alternate (first rest : Tree)
  | plain (body : Tree)
  | group (index : Nat) (body : Tree)
  | look (direction : Direction) (negated : Bool) (body : Tree)
  | repetition (least : Nat) (most : Option Nat) (greedy : Bool) (body : Tree)
  | atomic (body : Tree)
  | backref (index : Nat)
  | groupTest (index : Nat)
  | conditional (condition yes no : Tree)
  /-- Forgets what the match read so far. -/
  | keepOut
  /-- Holds where the search began. -/
  | contiguous
  deriving Repr, DecidableEq

namespace Tree

/-- A sequence of items, in the order in which they are written; empty items are left out. -/
def ofItems : List Tree → Tree
  | [] => empty
  | [a] => a
  | a :: as => concat a (ofItems as)

/-- An alternation of branches, in the order in which they are written. -/
def ofBranches : List Tree → Tree
  | [] => empty
  | [a] => a
  | a :: as => alternate a (ofBranches as)

/-- A group that captures nothing. -/
def enclosed : Tree → Tree
  | concat a b => plain (concat a b)
  | alternate a b => plain (alternate a b)
  | t => t

/-- The tree without a group around it that captures nothing. -/
def bare : Tree → Tree
  | plain t => t
  | t => t

/-- Whether a repetition can follow. -/
def isRepeatable : Tree → Bool
  | empty => false
  | assertion _ => false
  | look .. => false
  | _ => true

/-- The fewest characters that are read. -/
def minSize : Tree → Nat
  | empty => 0
  | any _ => 1
  | literal .. => 1
  | fragment .. => 1
  | assertion _ => 0
  | concat a b => a.minSize + b.minSize
  | alternate a b => min a.minSize b.minSize
  | plain t => t.minSize
  | group _ t => t.minSize
  | look .. => 0
  | repetition least _ _ t => t.minSize * least
  | atomic t => t.minSize
  | backref _ => 0
  | groupTest _ => 0
  | conditional c yes no => c.minSize + min yes.minSize no.minSize
  | keepOut => 0
  | contiguous => 0

/-- Whether the same number of characters is always read, as far as the shape tells. -/
def constSize : Tree → Bool
  | concat a b => a.constSize && b.constSize
  | alternate a b => a.constSize && b.constSize && a.minSize == b.minSize
  | plain t => t.constSize
  | group _ t => t.constSize
  | repetition least most _ t => t.constSize && most == some least
  | atomic t => t.constSize
  | backref _ => false
  | conditional c yes no =>
    c.constSize && yes.constSize && no.constSize && c.minSize + yes.minSize == no.minSize
  | _ => true

/-- Whether an assertion is left to backtracking: those on words are. -/
def hardLook : Look → Bool
  | .startText => false
  | .endText => false
  | .startLine => false
  | .endLine => false
  | _ => true

/-- Whether a tree is not easy; `referred` are the groups that something refers back to, in which
other ways may have to be tried. -/
def hard (referred : List Nat) : Tree → Bool
  | empty => false
  | any _ => false
  | literal .. => false
  | fragment .. => false
  | assertion l => hardLook l
  | concat a b => a.hard referred || b.hard referred
  | alternate a b => a.hard referred || b.hard referred
  | plain t => t.hard referred
  | group i t => t.hard referred || referred.contains i
  | repetition _ _ _ t => t.hard referred
  | _ => true

/-- Whether a tree is letters that stand for themselves, one after the other. -/
def isLiteral : Tree → Bool
  | literal _ anyCase => !anyCase
  | concat a b => a.isLiteral && b.isLiteral
  | plain t => t.isLiteral
  | _ => false

/-- The groups in a tree, in their order. -/
def groups : Tree → List Nat
  | concat a b => a.groups ++ b.groups
  | alternate a b => a.groups ++ b.groups
  | plain t => t.groups
  | group i t => i :: t.groups
  | look _ _ t => t.groups
  | repetition _ _ _ t => t.groups
  | atomic t => t.groups
  | conditional c yes no => c.groups ++ yes.groups ++ no.groups
  | _ => []

/-! ## Regular patterns from easy trees -/

/-- A regular pattern in a group with switches, if there are any. -/
def switched (switches : Switches) (a : Ast) : Ast :=
  if switches.isEmpty then a else .group (.plain switches) a

/-- A regular pattern in a group if the place asks for one. -/
def grouped (needed : Bool) (a : Ast) : Ast :=
  if needed then .group (.plain []) a else a

/-- The switch that makes a part ignore case. -/
def caseSwitch (anyCase : Bool) : Switches := if anyCase then [(.anyCase, true)] else []

/-- The count of a repetition, if a regular pattern can have it. -/
def countOf (least : Nat) (most : Option Nat) : Except Fault Repetition :=
  if least < UInt32.size && most.all fun m => least ≤ m && m < UInt32.size then .ok ⟨least, most⟩
  else .error .partInvalid

/-- The regular pattern that says the same as an easy tree. The tighter the place binds, the more
needs a group: alternatives from 1 on, sequences from 2 on and repetitions from 3 on; the rest of a
chain needs none. -/
def cook (binding : Nat) (chain : Chain) : Tree → Except Fault Ast
  | empty => .ok .empty
  | any newline =>
    .ok (switched (if newline then [(.dotAll, true)] else []) (.primitive .dot))
  | literal c anyCase => .ok (switched (caseSwitch anyCase) (.primitive (.letter ⟨c, false⟩)))
  | fragment text anyCase =>
    match Regular.Source.read text with
    | .ok source => .ok (switched (caseSwitch anyCase) source.ast)
    | .error _ => .error .partInvalid
  | assertion .startText => .ok (.primitive (.assertion .startLine))
  | assertion .endText => .ok (.primitive (.assertion .endLine))
  | assertion .startLine => .ok (switched [(.multiLine, true)] (.primitive (.assertion .startLine)))
  | assertion .endLine => .ok (switched [(.multiLine, true)] (.primitive (.assertion .endLine)))
  | concat a b => do
    let a ← a.cook 2 .none
    let b ← b.cook 2 .concat
    return grouped (1 < binding && chain != .concat) (.concat a b)
  | alternate a b => do
    let a ← a.cook 1 .none
    let b ← b.cook 1 .alternate
    return grouped (0 < binding && chain != .alternate) (.alternate a b)
  | plain t => t.cook binding .none
  | group i t => do return .group (.capture i) (← t.cook 0 .none)
  | repetition least most greedy t => do
    let t ← t.cook 3 .none
    return grouped (2 < binding) (.repetition (← countOf least most) (!greedy) t)
  | _ => .error .partInvalid

end Tree

end Verbal.Extended
