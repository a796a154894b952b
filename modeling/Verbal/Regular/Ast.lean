import Verbal.Unicode.Property

/-!
# The syntax of regular patterns

`Ast` is a pattern as it is written, after reading and before its flags have been applied. Sequences
and alternatives of more than two parts are chains that continue on the right: `abc` is
`concat a (concat b c)`, and a chain counts as one level of nesting however long it is.
-/

namespace Verbal.Regular

open Verbal.Unicode

/-- A flag that a pattern can switch. -/
inductive Flag where
  | anyCase
  | multiLine
  | dotAll
  | swapGreed
  | unicode
  | crlf
  | verbose
  deriving Repr, DecidableEq

/-- The flag of that letter. -/
def Flag.ofChar? : Char → Option Flag
  | 'i' => some anyCase
  | 'm' => some multiLine
  | 's' => some dotAll
  | 'U' => some swapGreed
  | 'u' => some unicode
  | 'R' => some crlf
  | 'x' => some verbose
  | _ => none

/-- Switches in the order in which they are written. -/
abbrev Switches := List (Flag × Bool)

/-- The state of a flag that switches leave behind, if they touch it. -/
def Switches.state? (switches : Switches) (flag : Flag) : Option Bool :=
  (switches.find? (·.1 == flag)).map (·.2)

/-- A character of the pattern; `byte` if it is written as an escape of two hexadecimal digits,
which names a byte where Unicode is switched off. -/
structure Letter where
  char : Char
  byte : Bool
  deriving Repr, DecidableEq

/-- The assertions, which hold at places between characters. -/
inductive Assertion where
  | startLine
  | endLine
  | startText
  | endText
  | wordBoundary
  | notWordBoundary
  | wordStart
  | wordEnd
  | wordStartHalf
  | wordEndHalf
  deriving Repr, DecidableEq

/-- The classes of the escapes `\d`, `\s` and `\w`. -/
inductive PerlClass where
  | digit
  | space
  | word
  deriving Repr, DecidableEq

/-- The ASCII classes that are written in colons. -/
inductive AsciiClass where
  | alnum
  | alpha
  | ascii
  | blank
  | cntrl
  | digit
  | graph
  | lower
  | print
  | punct
  | space
  | upper
  | word
  | xdigit
  deriving Repr, DecidableEq

/-- The ASCII class of that name. -/
def AsciiClass.ofName? (name : List Char) : Option AsciiClass :=
  match String.ofList name with
  | "alnum" => some alnum
  | "alpha" => some alpha
  | "ascii" => some ascii
  | "blank" => some blank
  | "cntrl" => some cntrl
  | "digit" => some digit
  | "graph" => some graph
  | "lower" => some lower
  | "print" => some print
  | "punct" => some punct
  | "space" => some space
  | "upper" => some upper
  | "word" => some word
  | "xdigit" => some xdigit
  | _ => none

/-- What a single item of a pattern stands for, outside of classes as well as in them. -/
inductive Primitive where
  | letter (l : Letter)
  | dot
  | assertion (a : Assertion)
  | perl (kind : PerlClass) (negated : Bool)
  | property (query : PropertyQuery) (negated : Bool)
  deriving Repr, DecidableEq

/-- The operators that combine two sets in a class. -/
inductive SetOp where
  | inter
  | diff
  | symDiff
  deriving Repr, DecidableEq

/-- What stands in a class. -/
inductive ClassItem where
  | empty
  | letter (l : Letter)
  | range (lo hi : Letter)
  | ascii (kind : AsciiClass) (negated : Bool)
  | perl (kind : PerlClass) (negated : Bool)
  | property (query : PropertyQuery) (negated : Bool)
  | bracketed (negated : Bool) (set : ClassItem)
  | union (first rest : ClassItem)
  | combine (op : SetOp) (left right : ClassItem)
  deriving Repr, DecidableEq

/-- The union of items, in the order in which they are written. -/
def ClassItem.ofItems : List ClassItem → ClassItem
  | [] => empty
  | [a] => a
  | a :: as => union a (ofItems as)

/-- What a group does besides grouping. -/
inductive GroupKind where
  | capture (index : Nat)
  | plain (switches : Switches)
  deriving Repr, DecidableEq

/-- How often something is repeated: at least `least` times, and at most `most` times if that is
given. -/
structure Repetition where
  least : Nat
  most : Option Nat
  deriving Repr, DecidableEq

/-- A pattern as it is written. -/
inductive Ast where
  | empty
  | flags (switches : Switches)
  | primitive (p : Primitive)
  | set (item : ClassItem)
  | repetition (count : Repetition) (reluctant : Bool) (body : Ast)
  | group (kind : GroupKind) (body : Ast)
  | concat (first rest : Ast)
  | alternate (first rest : Ast)
  deriving Repr, DecidableEq

namespace Ast

/-- A sequence of items, in the order in which they are written. -/
def ofItems : List Ast → Ast
  | [] => empty
  | [a] => a
  | a :: as => concat a (ofItems as)

/-- An alternation of branches, in the order in which they are written. -/
def ofBranches : List Ast → Ast
  | [] => empty
  | [a] => a
  | a :: as => alternate a (ofBranches as)

end Ast

/-! ## Nesting -/

/-- The chains in which a part can stand. -/
inductive Chain where
  | none
  | concat
  | alternate
  deriving Repr, DecidableEq

/-- The depth of nesting in a class; `inUnion` if the item continues a union. -/
def ClassItem.depth (inUnion : Bool) : ClassItem → Nat
  | bracketed _ set => 1 + set.depth false
  | union first rest =>
    (if inUnion then 0 else 1) + max (first.depth false) (rest.depth true)
  | combine _ left right => 1 + max (left.depth false) (right.depth false)
  | _ => 0

/-- The depth of nesting of a pattern that stands in the given chain. -/
def Ast.depth (chain : Chain) : Ast → Nat
  | set item => item.depth false
  | repetition _ _ body => 1 + body.depth .none
  | group _ body => 1 + body.depth .none
  | concat first rest =>
    (if chain = .concat then 0 else 1) + max (first.depth .none) (rest.depth .concat)
  | alternate first rest =>
    (if chain = .alternate then 0 else 1) + max (first.depth .none) (rest.depth .alternate)
  | _ => 0

end Verbal.Regular
