import Verbal.Regular.Regex

/-!
# Skeletons

A `Skeleton` is a regular expression whose counted repetitions have been written out, so that only
one kind of loop is left, and whose letters each carry a value. `Regex.unroll` writes an expression
out: `x*` becomes `(x+)?`, `x{2,}` becomes `x x+` and `x{1,3}` becomes `x(x(x)?)?`.
-/

namespace Verbal.Regular

open Verbal.Unicode

/-- A regular expression without counts, with a value at every letter. -/
inductive Skeleton (α : Type) where
  | empty
  | letter (set : CharSet) (value : α)
  | look (l : Look)
  | concat (a b : Skeleton α)
  | alternate (a b : Skeleton α)
  /-- One round or more. -/
  | plus (greedy : Bool) (a : Skeleton α)
  | group (index : Nat) (a : Skeleton α)
  deriving Repr, DecidableEq

namespace Skeleton

variable {α : Type}

/-- Nothing or `a`; a greedy option prefers `a`. -/
def option (greedy : Bool) (a : Skeleton α) : Skeleton α :=
  if greedy then alternate a empty else alternate empty a

/-- Exactly `n` rounds, halved so that the nesting stays shallow. -/
def times (a : Skeleton α) (n : Nat) : Skeleton α :=
  if n = 0 then empty
  else if n = 1 then a
  else concat (times a (n / 2)) (times a (n - n / 2))
termination_by n

/-- At most `n` rounds, each one inside of the option before it. -/
def upTo (greedy : Bool) (a : Skeleton α) : Nat → Skeleton α
  | 0 => empty
  | 1 => option greedy a
  | n + 1 => option greedy (concat a (upTo greedy a n))

/-- Any number of rounds from `n` on. -/
def fromOn (greedy : Bool) (a : Skeleton α) : Nat → Skeleton α
  | 0 => option greedy (plus greedy a)
  | 1 => plus greedy a
  | n + 1 => concat (times a n) (plus greedy a)

/-- As many rounds as a count allows. -/
def rounds (count : Repetition) (greedy : Bool) (a : Skeleton α) : Skeleton α :=
  match count.most with
  | none => fromOn greedy a count.least
  | some most =>
    if most ≤ count.least then times a count.least
    else if count.least = 0 then upTo greedy a most
    else concat (times a count.least) (upTo greedy a (most - count.least))

end Skeleton

/-- The expression with its counts written out, and `value` at every letter. -/
def Regex.unroll {α : Type} (value : α) : Regex → Skeleton α
  | empty => .empty
  | letter set => .letter set value
  | look l => .look l
  | concat a b => .concat (a.unroll value) (b.unroll value)
  | alternate a b => .alternate (a.unroll value) (b.unroll value)
  | repetition count greedy a => .rounds count greedy (a.unroll value)
  | group index a => .group index (a.unroll value)

end Verbal.Regular
