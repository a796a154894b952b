import Verbal.Regular.Ast

/-!
# Regular expressions over characters

`Regex` is what a pattern stands for once its flags have been applied: character sets, assertions
on the characters around a place, sequences, alternatives, counted repetitions and groups. Of two
alternatives the first is preferred, and a repetition prefers one more round if it is greedy.
-/

namespace Verbal.Regular

open Verbal.Unicode

/-- An assertion, which looks at the characters on both sides of a place. Those on words take
letters of any script for word characters if `unicode` is set, and ASCII alone if not. -/
inductive Look where
  | startText
  | endText
  | startLine
  | endLine
  | startLineCrlf
  | endLineCrlf
  | wordBoundary (unicode : Bool)
  | notWordBoundary (unicode : Bool)
  | wordStart (unicode : Bool)
  | wordEnd (unicode : Bool)
  | wordStartHalf (unicode : Bool)
  | wordEndHalf (unicode : Bool)
  deriving Repr, DecidableEq

/-- Whether there is a word character on that side. -/
def wordSide (unicode : Bool) (side : Option Char) : Bool :=
  side.any (if unicode then isWord else CharSet.isWordAscii)

/-- Whether an assertion holds between two characters, of which one is missing at an end of the
text. With `crlf`, a line ends at `\r`, at `\n` and at both together, but not between them. -/
def Look.holds (look : Look) (before after : Option Char) : Bool :=
  match look with
  | startText => before.isNone
  | endText => after.isNone
  | startLine => before.isNone || before == some '\n'
  | endLine => after.isNone || after == some '\n'
  | startLineCrlf =>
    before.isNone || before == some '\n' || (before == some '\r' && after != some '\n')
  | endLineCrlf =>
    after.isNone || after == some '\r' || (after == some '\n' && before != some '\r')
  | wordBoundary unicode => wordSide unicode before != wordSide unicode after
  | notWordBoundary unicode => wordSide unicode before == wordSide unicode after
  | wordStart unicode => !wordSide unicode before && wordSide unicode after
  | wordEnd unicode => wordSide unicode before && !wordSide unicode after
  | wordStartHalf unicode => !wordSide unicode before
  | wordEndHalf unicode => !wordSide unicode after

/-- A regular expression. -/
inductive Regex where
  | empty
  | letter (set : CharSet)
  | look (l : Look)
  | concat (a b : Regex)
  | alternate (a b : Regex)
  | repetition (count : Repetition) (greedy : Bool) (a : Regex)
  | group (index : Nat) (a : Regex)
  deriving Repr, DecidableEq

namespace Regex

/-- Whether no character can ever be read. -/
def onlyEmpty : Regex → Bool
  | empty => true
  | letter _ => false
  | look _ => true
  | concat a b => a.onlyEmpty && b.onlyEmpty
  | alternate a b => a.onlyEmpty && b.onlyEmpty
  | repetition _ _ a => a.onlyEmpty
  | group _ a => a.onlyEmpty

/-- A repetition in its simplest form: what reads no character is repeated at most once, and no
round at all is `empty`. -/
def repeated (count : Repetition) (greedy : Bool) (a : Regex) : Regex :=
  let count : Repetition :=
    if a.onlyEmpty then ⟨min count.least 1, some (min (count.most.getD 1) 1)⟩ else count
  if count = ⟨0, some 0⟩ then empty
  else if count = ⟨1, some 1⟩ then a
  else repetition count greedy a

end Regex

/-! ## Size -/

/-- The bytes that a set takes in a compiled pattern, roughly. -/
def setSize : CharSet → Nat
  | .none => 32
  | .range lo hi => if lo = hi then 32 * lo.utf8Size else 128
  | .table ranges => 60 * ranges.toList.length
  | .union a b => setSize a + setSize b
  | .inter a b => setSize a + setSize b
  | .diff a b => setSize a + setSize b
  | .symDiff a b => setSize a + setSize b
  | .compl a => setSize a + 256
  | .anyCase a => 2 * setSize a
  | .anyCaseAscii a => 2 * setSize a

/-- The bytes that an expression takes when it is compiled, roughly: a counted repetition is
written out. -/
def Regex.size : Regex → Nat
  | empty => 32
  | letter set => setSize set
  | look _ => 32
  | concat a b => a.size + b.size
  | alternate a b => a.size + b.size + 48
  | repetition count _ a => max 1 (max count.least (count.most.getD 0)) * (a.size + 8) + 48
  | group _ a => a.size + 64

end Verbal.Regular
