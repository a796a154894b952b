import Verbal.Match
import Verbal.Regular.Skeleton

/-!
# Matching from the right

A text is swept once from its end to its beginning. At every place, each letter of the skeleton
carries the best way to go on after it has been read, if there is one, and `Skeleton.sweep` turns
the values of one place into those of the place before; no pattern is ever tried twice at a place,
so the time is linear in the text. A way is better than another by the first choice in which they
differ: the first branch of an alternation, one more round of a greedy loop, one round less of a
reluctant one.

A loop whose round reads nothing would be at the same place again, and is left at once: what the
text before decides is only whether the loop may be left as well. `Split` therefore tells, for each
part of the skeleton, the best way that begins with a letter and is preferred to reading nothing,
whether nothing can be read, and the best way that begins with a letter and is not.
-/

namespace Verbal.Regular

open Verbal.Unicode

/-- A place in a text, with the characters on both sides. -/
structure Cursor where
  place : Nat
  before : Option Char
  after : Option Char
  deriving Repr, DecidableEq

/-- The rest of a match: where it stops, and the marks that are made on the way, in order. -/
structure Trail where
  stop : Nat
  marks : List Mark
  deriving Repr, DecidableEq

/-- Makes marks before the rest of a match, if both are there. -/
def along (marks : Option (List Mark)) (trail : Option Trail) : Option Trail :=
  match marks, trail with
  | some ms, some t => some { t with marks := ms ++ t.marks }
  | _, _ => none

/-- Makes marks before others, if both are there. -/
def join (a b : Option (List Mark)) : Option (List Mark) :=
  match a, b with
  | some ms, some ns => some (ms ++ ns)
  | _, _ => none

/-- The ways through a part from a place: the best one that reads a letter and is preferred to
reading nothing, the marks of the preferred way to read nothing, and the best other one that reads a
letter. -/
structure Split where
  early : Option Trail
  skip : Option (List Mark)
  late : Option Trail
  deriving Repr, DecidableEq

namespace Split

/-- The best way through a part if `next` is the best way to go on after it. -/
def value (s : Split) (next : Option Trail) : Option Trail :=
  s.early.or ((along s.skip next).or s.late)

/-- The best way that reads a letter. -/
def reading (s : Split) : Option Trail := s.early.or s.late

/-- The ways through two parts one after the other. -/
def concat (a b : Split) : Split :=
  match a.skip, b.skip with
  | none, _ => ⟨a.reading, none, none⟩
  | some ms, none => ⟨a.early.or ((along (some ms) b.reading).or a.late), none, none⟩
  | some ms, some ns =>
    ⟨a.early.or (along (some ms) b.early), some (ms ++ ns), (along (some ms) b.late).or a.late⟩

/-- The ways through one part or, less preferred, through the other. -/
def alternate (a b : Split) : Split :=
  match a.skip with
  | some ms => ⟨a.early, some ms, a.late.or b.reading⟩
  | none => ⟨a.reading.or b.early, b.skip, b.late⟩

/-- The ways through a group. -/
def group (s : Split) (enter leave : Mark) : Split :=
  ⟨along (some [enter]) s.early, join (some [enter]) (join s.skip (some [leave])),
    along (some [enter]) s.late⟩

end Split

/-- What surrounds a part inside of a loop, seen from the end of the part: the best way that is
preferred to entering the loop once more and reaching the part again, the marks on the way there,
and the best way that is not. Outside of loops there is no such way. -/
structure Around where
  ahead : Option Trail
  again : Option (List Mark)
  behind : Option Trail
  deriving Repr, DecidableEq

namespace Around

/-- Around the whole skeleton there is only the way on. -/
def outermost (next : Option Trail) : Around := ⟨next, none, none⟩

/-- Around the first of two parts one after the other, of which the second has ways `b`. -/
def first (around : Around) (b : Split) : Around :=
  match b.skip with
  | none => ⟨b.reading, none, none⟩
  | some ms =>
    ⟨b.early.or (along (some ms) around.ahead), join (some ms) around.again,
      (along (some ms) around.behind).or b.late⟩

/-- Around the second of two parts one after the other, of which the first has ways `a`. -/
def second (around : Around) (a : Split) : Around :=
  match a.skip with
  | none => ⟨around.ahead.or (along around.again a.reading), none, around.behind⟩
  | some ms =>
    ⟨around.ahead.or (along around.again a.early), join around.again (some ms),
      (along around.again a.late).or around.behind⟩

/-- Around the first of two alternatives, of which the second has ways `b`. -/
def left (around : Around) (b : Split) : Around :=
  { around with behind := (along around.again b.reading).or around.behind }

/-- Around the second of two alternatives, of which the first has ways `a`. -/
def right (around : Around) (a : Split) : Around :=
  { around with ahead := around.ahead.or (along around.again a.reading) }

/-- Around the body of a loop. A greedy loop is entered again before it is left. -/
def loop (around : Around) (greedy : Bool) : Around :=
  if greedy then ⟨none, some [], around.ahead.or around.behind⟩
  else if around.again.isNone then ⟨around.ahead.or around.behind, some [], none⟩
  else around

/-- Around the body of a group. -/
def group (around : Around) (enter leave : Mark) : Around :=
  ⟨along (some [leave]) around.ahead, join (some [leave]) (join around.again (some [enter])),
    along (some [leave]) around.behind⟩

/-- The best way on from a letter that is reached again with the way `own`. -/
def value (around : Around) (own : Option Trail) : Option Trail :=
  around.ahead.or ((along around.again own).or around.behind)

end Around

/-- The ways through a part from a place, and the part with its values for the place before as soon
as it is known what is around it. -/
structure Sweep where
  split : Split
  refill : Around → Skeleton (Option Trail)

/-- From the values of the letters at the place after the cursor, the ways through a skeleton from
the cursor on and the values there. -/
def Skeleton.sweep (cursor : Cursor) : Skeleton (Option Trail) → Sweep
  | empty => ⟨⟨none, some [], none⟩, fun _ => empty⟩
  | letter set next =>
    let own := if cursor.after.any set.contains then next else none
    ⟨⟨own, none, none⟩, fun around => letter set (around.value own)⟩
  | look l =>
    ⟨⟨none, if l.holds cursor.before cursor.after then some [] else none, none⟩, fun _ => look l⟩
  | concat a b =>
    let sa := a.sweep cursor
    let sb := b.sweep cursor
    ⟨sa.split.concat sb.split, fun around =>
      concat (sa.refill (around.first sb.split)) (sb.refill (around.second sa.split))⟩
  | alternate a b =>
    let sa := a.sweep cursor
    let sb := b.sweep cursor
    ⟨sa.split.alternate sb.split, fun around =>
      alternate (sa.refill (around.left sb.split)) (sb.refill (around.right sa.split))⟩
  | plus greedy a =>
    let sa := a.sweep cursor
    ⟨sa.split, fun around => plus greedy (sa.refill (around.loop greedy))⟩
  | group index a =>
    let enter : Mark := ⟨2 * index, cursor.place⟩
    let leave : Mark := ⟨2 * index + 1, cursor.place⟩
    let sa := a.sweep cursor
    ⟨sa.split.group enter leave, fun around => group index (sa.refill (around.group enter leave))⟩

/-! ## Texts -/

/-- The places of a text from `place` on, of which the first has `before` in front of it. -/
def cursors (place : Nat) (before : Option Char) : List Char → List Cursor
  | [] => [⟨place, before, none⟩]
  | c :: text => ⟨place, before, some c⟩ :: cursors (place + 1) (some c) text

/-- What is known of a text from a place on: the values of the letters there, and for every place
from there on the best match that begins at it. -/
structure Column where
  values : Skeleton (Option Trail)
  found : List (Option Trail)

/-- Goes one place to the left. -/
def Column.back (cursor : Cursor) (column : Column) : Column :=
  let swept := column.values.sweep cursor
  let stop := some ⟨cursor.place, []⟩
  ⟨swept.refill (.outermost stop), swept.split.value stop :: column.found⟩

/-- For every place of a text, its end included, the best match that begins there. -/
def Skeleton.found (s : Skeleton (Option Trail)) (text : List Char) : List (Option Trail) :=
  ((cursors 0 none text).foldr Column.back ⟨s, []⟩).found

end Verbal.Regular
