import Verbal.Extended.Plan
import Verbal.Match

/-!
# Matching by trying

A plan is matched by trying one way after the other: `Plan.run` hands every way through a plan on to
what follows, and tries the next one if that fails. Each way that is tried after a failure counts;
when there have been too many, matching gives up, which is neither a match nor a failure.

The parts of a plan are given as tables that tell, for every place of the text, how the part matches
there.
-/

namespace Verbal.Extended

open Verbal.Regular (Trail)

/-- The ways that may be tried after a failure. -/
def trialLimit : Nat := 1000000

/-- How a part matches at every place of a text. -/
abbrev Table := Array (Option Trail)

/-- A text that is matched. -/
structure Subject where
  text : Array Char
  /-- Where the search began. -/
  origin : Nat
  /-- Whether the search may go on where the match before it ended. -/
  contiguous : Bool

/-- Where matching has come to: the place, and the slots that were marked, the last mark first. A
mark without a place takes back the marks before it. -/
structure State where
  place : Nat
  marks : List (Nat × Option Nat)

/-- Where a slot stands. -/
def State.slot? (st : State) (slot : Nat) : Option Nat :=
  (st.marks.find? (·.1 == slot)).bind (·.2)

/-- Marks a slot at the place. -/
def State.mark (st : State) (slot : Nat) : State :=
  { st with marks := (slot, some st.place) :: st.marks }

/-- What comes of matching. The ways tried so far are counted. -/
inductive Outcome where
  | matched (st : State) (trials : Nat)
  | failed (trials : Nat)
  | exhausted

/-- What follows a plan. -/
abbrev Next := State → Nat → Outcome

/-- Tries another way after a failure. -/
def Outcome.orElse (outcome : Outcome) (other : Nat → Outcome) : Outcome :=
  match outcome with
  | failed trials => if trials < trialLimit then other (trials + 1) else exhausted
  | _ => outcome

/-! ## Rounds -/

/-- Does exactly that many rounds. -/
def runTimes (round : State → Nat → Next → Outcome) : Nat → State → Nat → Next → Outcome
  | 0, st, trials, next => next st trials
  | n + 1, st, trials, next =>
    round st trials fun st trials => runTimes round n st trials next

/-- Tries one more round before going on if `greedy`, and the other way round if not. -/
def tryBoth (greedy : Bool) (more leave : Nat → Outcome) (trials : Nat) : Outcome :=
  if greedy then (more trials).orElse leave else (leave trials).orElse more

/-- Does at most that many rounds. -/
def runUpTo (greedy : Bool) (round : State → Nat → Next → Outcome) :
    Nat → State → Nat → Next → Outcome
  | 0, st, trials, next => next st trials
  | n + 1, st, trials, next =>
    tryBoth greedy
      (fun trials => round st trials fun st trials => runUpTo greedy round n st trials next)
      (next st) trials

/-- Does rounds as long as each reads something; `fuel` bounds how many can. -/
def runStar (greedy : Bool) (round : State → Nat → Next → Outcome) :
    Nat → State → Nat → Next → Outcome
  | 0, st, trials, next => next st trials
  | fuel + 1, st, trials, next =>
    tryBoth greedy
      (fun trials => round st trials fun st' trials =>
        if st'.place = st.place then .failed trials
        else runStar greedy round fuel st' trials next)
      (next st) trials

/-! ## Plans -/

/-- Marks the groups of a part where the part does, and takes back the marks of the others. -/
def State.along (st : State) (groups : List Nat) (trail : Trail) : State :=
  let marksOf (slot : Nat) : Nat × Option Nat := (slot, lastMark? slot trail.marks)
  ⟨trail.stop, groups.foldl
    (fun marks i => marksOf (2 * i + 1) :: marksOf (2 * i) :: marks) st.marks⟩

/-- Where a group stands in the text, if it took part. -/
def State.group? (st : State) (index : Nat) : Option (Nat × Nat) :=
  match st.slot? (2 * index), st.slot? (2 * index + 1) with
  | some start, some stop => some (start, stop)
  | _, _ => none

/-- Whether the text from one place on repeats the text between two others. -/
def Subject.repeats (subject : Subject) (place start stop : Nat) : Bool :=
  place + (stop - start) ≤ subject.text.size &&
    (List.range (stop - start)).all fun i =>
      subject.text[place + i]? == subject.text[start + i]?

/-- Goes back a number of characters. -/
def State.back? (st : State) (count : Nat) : Option State :=
  if count ≤ st.place then some { st with place := st.place - count } else none

/-- Matches a plan from a state, and then what follows it. -/
def Plan.run (subject : Subject) : Plan Table → State → Nat → Next → Outcome
  | nothing, st, trials, next => next st trials
  | part table groups, st, trials, next =>
    match table[st.place]?.join with
    | some trail => next (st.along groups trail) trials
    | none => .failed trials
  | look l, st, trials, next =>
    let before := if st.place = 0 then none else subject.text[st.place - 1]?
    if l.holds before subject.text[st.place]? then next st trials else .failed trials
  | seq a b, st, trials, next =>
    a.run subject st trials fun st trials => b.run subject st trials next
  | choice a b, st, trials, next =>
    (a.run subject st trials next).orElse fun trials => b.run subject st trials next
  | capture index a, st, trials, next =>
    a.run subject (st.mark (2 * index)) trials fun st trials =>
      next (st.mark (2 * index + 1)) trials
  | times count a, st, trials, next =>
    runTimes (fun st trials next => a.run subject st trials next) count st trials next
  | upTo count greedy a, st, trials, next =>
    runUpTo greedy (fun st trials next => a.run subject st trials next) count st trials next
  | star greedy a, st, trials, next =>
    runStar greedy (fun st trials next => a.run subject st trials next)
      (subject.text.size + 1 - st.place) st trials next
  | around back false a, st, trials, next =>
    match st.back? back with
    | none => .failed trials
    | some st' =>
      a.run subject st' trials fun st' trials => next { st' with place := st.place } trials
  | around back true a, st, trials, next =>
    let inside : Outcome :=
      match st.back? back with
      | none => .failed trials
      | some st' => a.run subject st' trials .matched
    match inside with
    | .matched _ trials => .failed trials
    | inside => inside.orElse (next st)
  | backref index, st, trials, next =>
    match st.group? index with
    | some (start, stop) =>
      if subject.repeats st.place start stop then
        next { st with place := st.place + (stop - start) } trials
      else .failed trials
    | none => .failed trials
  | groupTest index, st, trials, next =>
    if index = 0 || (st.slot? (2 * index)).isSome then next st trials else .failed trials
  | atomic a, st, trials, next =>
    match a.run subject st trials .matched with
    | .matched st trials => next st trials
    | outcome => outcome
  | conditional condition yes no, st, trials, next =>
    match condition.run subject st trials .matched with
    | .matched st trials => yes.run subject st trials next
    | outcome => outcome.orElse fun trials => no.run subject st trials next
  | keepOut, st, trials, next => next (st.mark 0) trials
  | contiguous, st, trials, next =>
    if st.place ≤ subject.origin && subject.contiguous then next st trials else .failed trials

/-! ## Searches -/

/-- The marks that stand at the end of a match. -/
def settle : List (Nat × Option Nat) → List Mark
  | [] => []
  | (slot, place) :: marks =>
    let before := (settle marks).filter (·.slot != slot)
    match place with
    | some place => before ++ [⟨slot, place⟩]
    | none => before

/-- The match of a final state; it begins where it was kept from, or where it was found. -/
def State.toMatch (st : State) (found : Nat) : Match :=
  ⟨(st.slot? 0).getD found, st.place, settle st.marks⟩

/-- What comes of a search. -/
inductive Hit where
  | found (m : Match)
  | absent
  | exhausted

/-- Looks for a match at a place and then at the places after it; `count` is how many there are. -/
def Plan.searchFrom (plan : Plan Table) (subject : Subject) : Nat → Nat → Nat → Hit
  | 0, _, _ => .absent
  | count + 1, place, trials =>
    match plan.run subject ⟨place, []⟩ trials .matched with
    | .matched st _ => .found (st.toMatch place)
    | .exhausted => .exhausted
    | .failed trials =>
      if trials < trialLimit then plan.searchFrom subject count (place + 1) (trials + 1)
      else .exhausted

/-- Looks for the leftmost match from the origin on. -/
def Plan.search (plan : Plan Table) (subject : Subject) : Hit :=
  plan.searchFrom subject (subject.text.size + 1 - subject.origin) subject.origin 0

/-- Lists matches from left to right: the next one may begin at `resume`, and `last` is the end of
the match before. An empty match is passed over where the match before it ends, and after an empty
match the search goes on one character further; with `strict`, that is no place to be contiguous.
`none` if a search gives up. -/
def Plan.listMatches (plan : Plan Table) (text : Array Char) (strict : Bool) :
    Nat → Nat → Option Nat → Option (List Match)
  | 0, _, _ => some []
  | fuel + 1, resume, last =>
    if text.size < resume then some []
    else
      match plan.search ⟨text, resume, !(strict && last.any (· < resume))⟩ with
      | .exhausted => none
      | .absent => some []
      | .found m =>
        if m.start = m.stop then
          if last = some m.stop then plan.listMatches text strict fuel (m.stop + 1) last
          else
            (plan.listMatches text strict fuel (m.stop + 1) (some m.stop)).map (m :: ·)
        else (plan.listMatches text strict fuel m.stop (some m.stop)).map (m :: ·)

end Verbal.Extended
