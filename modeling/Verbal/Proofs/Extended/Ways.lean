import Verbal.Extended.Matcher

/-!
# The ways through a plan

Trying hands every way through a plan on to what follows, the preferred ones first, until something
comes of one of them. `Plan.ways` lists them. What was tried before does not matter to where a way
leads, only to when trying gives up; and it is tried in no other order.

* **`run_tells`**: unless trying gives up, what comes of it is what comes of the first way from
  which what follows can match.
* `first_of_search`, `ways_of_search_absent`: what a search finds is the preferred way from
  the first place that there is one from, and it finds nothing only where there is none.
-/

namespace Verbal.Extended

/-! ## Ways -/

/-- The ways of exactly that many rounds. -/
def waysTimes (round : State → List State) : Nat → State → List State
  | 0, st => [st]
  | n + 1, st => (round st).flatMap (waysTimes round n)

/-- One more round before going on if `greedy`, and the other way round if not. -/
def waysBoth (greedy : Bool) (more leave : List State) : List State :=
  if greedy then more ++ leave else leave ++ more

/-- The ways of at most that many rounds. -/
def waysUpTo (greedy : Bool) (round : State → List State) : Nat → State → List State
  | 0, st => [st]
  | n + 1, st => waysBoth greedy ((round st).flatMap (waysUpTo greedy round n)) [st]

/-- The ways of rounds that each read something. -/
def waysStar (greedy : Bool) (round : State → List State) : Nat → State → List State
  | 0, st => [st]
  | fuel + 1, st =>
    waysBoth greedy
      ((round st).flatMap fun st' =>
        if st'.place = st.place then [] else waysStar greedy round fuel st') [st]

/-- The ways through a plan from a state, the preferred ones first. -/
def Plan.ways (subject : Subject) : Plan Table → State → List State
  | nothing, st => [st]
  | part table groups, st =>
    match table[st.place]?.join with
    | some trail => [st.along groups trail]
    | none => []
  | look l, st =>
    let before := if st.place = 0 then none else subject.text[st.place - 1]?
    if l.holds before subject.text[st.place]? then [st] else []
  | seq a b, st => (a.ways subject st).flatMap (b.ways subject)
  | choice a b, st => a.ways subject st ++ b.ways subject st
  | capture index a, st =>
    (a.ways subject (st.mark (2 * index))).map fun st => st.mark (2 * index + 1)
  | times count a, st => waysTimes (a.ways subject) count st
  | upTo count greedy a, st => waysUpTo greedy (a.ways subject) count st
  | star greedy a, st => waysStar greedy (a.ways subject) (subject.text.size + 1 - st.place) st
  | around back false a, st =>
    match st.back? back with
    | none => []
    | some st' => (a.ways subject st').map fun st' => { st' with place := st.place }
  | around back true a, st =>
    match st.back? back with
    | none => [st]
    | some st' => if (a.ways subject st').isEmpty then [st] else []
  | backref index, st =>
    match st.group? index with
    | some (start, stop) =>
      if subject.repeats st.place start stop then
        [{ st with place := st.place + (stop - start) }]
      else []
    | none => []
  | groupTest index, st => if index = 0 || (st.slot? (2 * index)).isSome then [st] else []
  | atomic a, st => (a.ways subject st).head?.toList
  | conditional condition yes no, st =>
    match (condition.ways subject st).head? with
    | some st' => yes.ways subject st'
    | none => no.ways subject st
  | keepOut, st => [st.mark 0]
  | contiguous, st => if st.place ≤ subject.origin && subject.contiguous then [st] else []

/-! ## What comes of trying -/

/-- Whether an outcome is what there is to find, unless trying gave up. -/
def Outcome.Tells : Outcome → Option State → Prop
  | matched st _, found => found = some st
  | failed _, found => found = none
  | exhausted, _ => True

/-- Whether what follows tells what can be found from a state. -/
def Next.Tells (next : Next) (onward : State → Option State) : Prop :=
  ∀ st trials, (next st trials).Tells (onward st)

theorem Outcome.tells_failed (trials : Nat) : (failed trials).Tells none := rfl

/-- What tells of a state has matched it, what tells of nothing has failed, and what gave up tells
nothing. -/
theorem Outcome.Tells.cases {outcome : Outcome} {found : Option State} (h : outcome.Tells found) :
    (∃ st trials, outcome = matched st trials ∧ found = some st) ∨
      (∃ trials, outcome = failed trials ∧ found = none) ∨ outcome = exhausted := by
  cases outcome with
  | matched st trials => exact Or.inl ⟨st, trials, rfl, h⟩
  | failed trials => exact Or.inr (Or.inl ⟨trials, rfl, h⟩)
  | exhausted => exact Or.inr (Or.inr rfl)

theorem Outcome.Tells.orElse {outcome : Outcome} {other : Nat → Outcome} {a b : Option State}
    (h : outcome.Tells a) (hother : ∀ trials, (other trials).Tells b) :
    (outcome.orElse other).Tells (a.or b) := by
  cases outcome with
  | matched st trials =>
    obtain rfl : a = some st := h
    exact rfl
  | failed trials =>
    obtain rfl : a = none := h
    unfold Outcome.orElse
    dsimp only
    split
    · exact hother _
    · trivial
  | exhausted => trivial

theorem findSome?_flatMap {α β γ : Type} (l : List α) (g : α → List β) (f : β → Option γ) :
    (l.flatMap g).findSome? f = l.findSome? fun a => (g a).findSome? f := by
  induction l with
  | nil => rfl
  | cons a l ih =>
    rw [List.flatMap_cons, List.findSome?_append, ih, List.findSome?_cons]
    cases (g a).findSome? f <;> rfl

/-! ### Rounds -/

/-- Whether a round hands its ways on to what follows. -/
def Hands (round : State → Nat → Next → Outcome) (ways : State → List State) : Prop :=
  ∀ st trials next onward, Next.Tells next onward →
    (round st trials next).Tells ((ways st).findSome? onward)

section Rounds

variable {round : State → Nat → Next → Outcome} {ways : State → List State}

/-- Where nothing follows, the first way is what there is to find. -/
theorem Hands.tells_head? (h : Hands round ways) (st : State) (trials : Nat) :
    (round st trials .matched).Tells (ways st).head? := by
  have htells := h st trials .matched some fun _ _ => rfl
  have hfirst (l : List State) : l.findSome? some = l.head? := by cases l <;> rfl
  rwa [hfirst] at htells

theorem Hands.times (h : Hands round ways) (n : Nat) :
    Hands (runTimes round n) (waysTimes ways n) := by
  induction n with
  | zero =>
    intro st trials next onward hnext
    simpa [runTimes, waysTimes] using hnext st trials
  | succ n ih =>
    intro st trials next onward hnext
    simp only [runTimes, waysTimes, findSome?_flatMap]
    exact h _ _ _ _ fun st trials => ih st trials next onward hnext

theorem Outcome.Tells.both {greedy : Bool} {more leave : Nat → Outcome} {a b : List State}
    {onward : State → Option State} (hmore : ∀ trials, (more trials).Tells (a.findSome? onward))
    (hleave : ∀ trials, (leave trials).Tells (b.findSome? onward)) (trials : Nat) :
    (tryBoth greedy more leave trials).Tells ((waysBoth greedy a b).findSome? onward) := by
  cases greedy with
  | true =>
    simp only [tryBoth, waysBoth, if_true, List.findSome?_append]
    exact (hmore trials).orElse hleave
  | false =>
    simp only [tryBoth, waysBoth, Bool.false_eq_true, if_false, List.findSome?_append]
    exact (hleave trials).orElse hmore

theorem Next.Tells.leave {next : Next} {onward : State → Option State} (h : next.Tells onward)
    (st : State) (trials : Nat) : (next st trials).Tells ([st].findSome? onward) := by
  simpa using h st trials

theorem Hands.upTo (h : Hands round ways) (greedy : Bool) (n : Nat) :
    Hands (runUpTo greedy round n) (waysUpTo greedy ways n) := by
  induction n with
  | zero => exact fun st trials next onward hnext => hnext.leave st trials
  | succ n ih =>
    intro st trials next onward hnext
    refine .both (fun trials => ?_) (hnext.leave st) trials
    rw [findSome?_flatMap]
    exact h _ _ _ _ fun st trials => ih st trials next onward hnext

theorem Hands.star (h : Hands round ways) (greedy : Bool) (fuel : Nat) :
    Hands (runStar greedy round fuel) (waysStar greedy ways fuel) := by
  induction fuel with
  | zero => exact fun st trials next onward hnext => hnext.leave st trials
  | succ fuel ih =>
    intro st trials next onward hnext
    refine .both (fun trials => ?_) (hnext.leave st) trials
    rw [findSome?_flatMap]
    refine h _ _ _ _ fun st' trials => ?_
    split
    · exact Outcome.tells_failed trials
    · exact ih st' trials next onward hnext

end Rounds

/-! ### Plans -/

/-- **What comes of trying** is what comes of the first way from which what follows can match. -/
theorem run_tells (subject : Subject) (plan : Plan Table) :
    Hands (fun st trials next => plan.run subject st trials next) (plan.ways subject) := by
  -- `Hands` is about all that may follow: in a sequence, the second part follows the first one
  induction plan with
  | nothing => exact fun st trials next onward hnext => hnext.leave st trials
  | part table groups =>
    intro st trials next onward hnext
    simp only [Plan.run, Plan.ways]
    cases table[st.place]?.join with
    | none => exact Outcome.tells_failed trials
    | some trail => exact hnext.leave _ _
  | look l =>
    intro st trials next onward hnext
    simp only [Plan.run, Plan.ways]
    generalize (if st.place = 0 then none else subject.text[st.place - 1]?) = before
    cases l.holds before subject.text[st.place]? with
    | false => exact Outcome.tells_failed trials
    | true => exact hnext.leave _ _
  | seq a b iha ihb =>
    intro st trials next onward hnext
    simp only [Plan.run, Plan.ways, findSome?_flatMap]
    exact iha _ _ _ _ fun st trials => ihb st trials next onward hnext
  | choice a b iha ihb =>
    intro st trials next onward hnext
    simp only [Plan.run, Plan.ways, List.findSome?_append]
    exact (iha _ _ _ _ hnext).orElse fun trials => ihb _ _ _ _ hnext
  | capture index a ih =>
    intro st trials next onward hnext
    simp only [Plan.run, Plan.ways, List.findSome?_map]
    exact ih _ _ _ _ fun st trials => hnext _ _
  | times count a ih => exact ih.times count
  | upTo count greedy a ih => exact ih.upTo greedy count
  | star greedy a ih => exact fun st => ih.star greedy _ st
  | around back negated a ih =>
    intro st trials next onward hnext
    cases negated with
    | false =>
      simp only [Plan.run, Plan.ways]
      cases st.back? back with
      | none => exact Outcome.tells_failed trials
      | some st' =>
        dsimp only
        rw [List.findSome?_map]
        exact ih _ _ _ _ fun st trials => hnext _ _
    | true =>
      simp only [Plan.run, Plan.ways]
      cases st.back? back with
      | none => exact (Outcome.tells_failed trials).orElse (hnext.leave st)
      | some st' =>
        dsimp only
        have hinside : (a.run subject st' trials .matched).Tells (a.ways subject st').head? :=
          ih.tells_head? st' trials
        rcases hinside.cases with ⟨st'', trials', hrun, hway⟩ | ⟨trials', hrun, hnone⟩ | hrun
        · obtain ⟨ways, hways⟩ := List.head?_eq_some_iff.mp hway
          rw [hrun, hways]
          exact Outcome.tells_failed trials'
        · rw [hrun, List.head?_eq_none_iff.mp hnone]
          exact (Outcome.tells_failed trials').orElse (hnext.leave st)
        · rw [hrun]
          trivial
  | backref index =>
    intro st trials next onward hnext
    simp only [Plan.run, Plan.ways]
    cases st.group? index with
    | none => exact Outcome.tells_failed trials
    | some place =>
      dsimp only
      cases subject.repeats st.place place.1 place.2 with
      | false => exact Outcome.tells_failed trials
      | true => exact hnext.leave _ _
  | groupTest index =>
    intro st trials next onward hnext
    simp only [Plan.run, Plan.ways]
    cases index = 0 || (st.slot? (2 * index)).isSome with
    | false => exact Outcome.tells_failed trials
    | true => exact hnext.leave _ _
  | atomic a ih =>
    intro st trials next onward hnext
    simp only [Plan.run, Plan.ways]
    have hinside : (a.run subject st trials .matched).Tells (a.ways subject st).head? :=
      ih.tells_head? st trials
    rcases hinside.cases with ⟨st', trials', hrun, hway⟩ | ⟨trials', hrun, hnone⟩ | hrun
    · rw [hrun, hway]
      exact hnext.leave _ _
    · rw [hrun, hnone]
      exact Outcome.tells_failed trials'
    · rw [hrun]
      trivial
  | conditional condition yes no ihc ihy ihn =>
    intro st trials next onward hnext
    simp only [Plan.run, Plan.ways]
    have hinside : (condition.run subject st trials .matched).Tells
        (condition.ways subject st).head? := ihc.tells_head? st trials
    rcases hinside.cases with ⟨st', trials', hrun, hway⟩ | ⟨trials', hrun, hnone⟩ | hrun
    · rw [hrun, hway]
      exact ihy _ _ _ _ hnext
    · rw [hrun, hnone]
      exact (Outcome.tells_failed trials').orElse fun trials => ihn _ _ _ _ hnext
    · rw [hrun]
      trivial
  | keepOut => exact fun st trials next onward hnext => hnext.leave _ _
  | contiguous =>
    intro st trials next onward hnext
    simp only [Plan.run, Plan.ways]
    cases st.place ≤ subject.origin && subject.contiguous with
    | false => exact Outcome.tells_failed trials
    | true => exact hnext.leave _ _

/-! ## Searches -/

section Searches

variable {subject : Subject} {plan : Plan Table}

theorem head?_ways (plan : Plan Table) (subject : Subject) (st : State) (trials : Nat) :
    (plan.run subject st trials .matched).Tells (plan.ways subject st).head? :=
  (run_tells subject plan).tells_head? st trials

/-- What a search finds is the preferred way from the first place that there is one from. -/
theorem first_of_searchFrom {count place trials : Nat} {m : Match}
    (h : plan.searchFrom subject count place trials = .found m) :
    ∃ p, place ≤ p ∧ p < place + count ∧
      (∀ q, place ≤ q → q < p → plan.ways subject ⟨q, []⟩ = []) ∧
      ∃ st, (plan.ways subject ⟨p, []⟩).head? = some st ∧ m = st.toMatch p := by
  induction count generalizing place trials with
  | zero => cases h
  | succ count ih =>
    unfold Plan.searchFrom at h
    rcases (head?_ways plan subject ⟨place, []⟩ trials).cases with
      ⟨st, trials', hrun, hway⟩ | ⟨trials', hrun, hnone⟩ | hrun <;> rw [hrun] at h
    · cases h
      exact ⟨place, Nat.le_refl _, by omega, fun q hle hlt => absurd hlt (by omega), st, hway, rfl⟩
    · dsimp only at h
      split at h
      · obtain ⟨p, hle, hlt, hbefore, hst⟩ := ih h
        refine ⟨p, by omega, by omega, fun q hq hqp => ?_, hst⟩
        rcases Nat.eq_or_lt_of_le hq with rfl | hq
        · exact List.head?_eq_none_iff.mp hnone
        · exact hbefore q hq hqp
      · cases h
    · cases h

/-- If a search finds nothing, there is no way from any of the places that are tried. -/
theorem ways_of_searchFrom_absent {count place trials : Nat}
    (h : plan.searchFrom subject count place trials = .absent) :
    ∀ p, place ≤ p → p < place + count → plan.ways subject ⟨p, []⟩ = [] := by
  induction count generalizing place trials with
  | zero => exact fun p hle hlt => absurd hlt (by omega)
  | succ count ih =>
    unfold Plan.searchFrom at h
    rcases (head?_ways plan subject ⟨place, []⟩ trials).cases with
      ⟨st, trials', hrun, -⟩ | ⟨trials', hrun, hnone⟩ | hrun <;> rw [hrun] at h
    · cases h
    · dsimp only at h
      split at h
      · intro p hle hlt
        rcases Nat.eq_or_lt_of_le hle with rfl | hle
        · exact List.head?_eq_none_iff.mp hnone
        · exact ih h p hle (by omega)
      · cases h
    · cases h

theorem first_of_search {m : Match} (h : plan.search subject = .found m) :
    ∃ p, subject.origin ≤ p ∧ p ≤ subject.text.size ∧
      (∀ q, subject.origin ≤ q → q < p → plan.ways subject ⟨q, []⟩ = []) ∧
      ∃ st, (plan.ways subject ⟨p, []⟩).head? = some st ∧ m = st.toMatch p := by
  obtain ⟨p, hle, hlt, hfirst⟩ := first_of_searchFrom h
  exact ⟨p, hle, by omega, hfirst⟩

theorem ways_of_search_absent (h : plan.search subject = .absent) :
    ∀ p, subject.origin ≤ p → p ≤ subject.text.size → plan.ways subject ⟨p, []⟩ = [] :=
  fun p hle hsize => ways_of_searchFrom_absent h p hle (by omega)

/-- What a search finds is a way from one of the places that are tried. -/
theorem exists_way_of_search {m : Match} (h : plan.search subject = .found m) :
    ∃ p, subject.origin ≤ p ∧ p ≤ subject.text.size ∧ ∃ st, st ∈ plan.ways subject ⟨p, []⟩ ∧
      m = st.toMatch p := by
  obtain ⟨p, hle, hsize, -, st, hst, hm⟩ := first_of_search h
  exact ⟨p, hle, hsize, st, List.mem_of_mem_head? (Option.mem_def.mpr hst), hm⟩

/-- Where there is a way from a place that is tried, a search finds something or gives up. -/
theorem search_ne_absent {st : State} {p : Nat} (h : st ∈ plan.ways subject ⟨p, []⟩)
    (horigin : subject.origin ≤ p) (hsize : p ≤ subject.text.size) :
    plan.search subject ≠ .absent :=
  fun habsent => List.ne_nil_of_mem h (ways_of_search_absent habsent p horigin hsize)

end Searches

end Verbal.Extended
