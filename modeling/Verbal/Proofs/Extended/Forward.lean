import Verbal.Proofs.Extended.Meanings
import Verbal.Proofs.Listings

/-!
# Matches of extended patterns go forward

A match begins where it is found and ends behind that, unless the pattern forgets what it read so
far; and where the search before it ended matters only to a pattern that asks for it. Both are seen
in the tree of a pattern.

* `Tree.Straight`: whether a tree does neither.
* **`yields_plan`**: the plan of such a tree does neither, and its parts are expressions.
* **`onward_of_ways`**: every way through such a plan goes forward.
* **`follow_listMatches`**: so the matches that are listed follow one another.
-/

namespace Verbal.Extended

open Verbal.Regular (Trail Regex)

/-! ## Trees and their plans -/

/-- Whether a tree neither forgets what was read nor asks where the search began. -/
def Tree.Straight : Tree → Prop := All fun
  | keepOut => False
  | contiguous => False
  | _ => True

/-- Whether, besides, no group of it is the whole match. -/
def Tree.Steady : Tree → Prop := All fun
  | group i _ => 0 < i
  | keepOut => False
  | contiguous => False
  | _ => True

theorem Tree.steady_of_numbered {t : Tree} {referred : List Nat} (h : t.Straight)
    (hnumbered : t.Numbered referred) : t.Steady := by
  refine (All.and h hnumbered).imp fun t ⟨hstraight, hnumbered⟩ => ?_
  cases t <;> assumption

theorem Tree.Steady.groups {t : Tree} (h : t.Steady) : ∀ i ∈ t.groups, 0 < i := by
  induction t with
  | concat a b iha ihb => exact List.forall_mem_append.mpr ⟨iha h.2.1, ihb h.2.2⟩
  | alternate a b iha ihb => exact List.forall_mem_append.mpr ⟨iha h.2.1, ihb h.2.2⟩
  | plain t ih => exact ih h.2
  | group i t ih => exact List.forall_mem_cons.mpr ⟨h.1, ih h.2⟩
  | look direction negated t ih => exact ih h.2
  | repetition least most greedy t ih => exact ih h.2
  | atomic t ih => exact ih h.2
  | conditional c yes no ihc ihy ihn =>
    exact List.forall_mem_append.mpr
      ⟨List.forall_mem_append.mpr ⟨ihc h.2.1, ihy h.2.2.1⟩, ihn h.2.2.2⟩
  | _ => exact fun i hi => nomatch hi

/-- Whether every part of a plan is good, no group of it is the whole match, and it neither forgets
what was read nor asks where the search began. -/
def Plan.Steady {δ : Type} (good : δ → Prop) : Plan δ → Prop
  | part d groups => good d ∧ ∀ i ∈ groups, 0 < i
  | seq a b => a.Steady good ∧ b.Steady good
  | choice a b => a.Steady good ∧ b.Steady good
  | capture index a => 0 < index ∧ a.Steady good
  | times _ a => a.Steady good
  | upTo _ _ a => a.Steady good
  | star _ a => a.Steady good
  | around _ _ a => a.Steady good
  | atomic a => a.Steady good
  | conditional c yes no => c.Steady good ∧ yes.Steady good ∧ no.Steady good
  | keepOut => False
  | contiguous => False
  | _ => True

theorem Plan.Steady.map {δ ε : Type} {good : δ → Prop} {good' : ε → Prop} {f : δ → ε}
    (hf : ∀ d, good d → good' (f d)) {plan : Plan δ} (h : plan.Steady good) :
    (plan.map f).Steady good' := by
  induction plan with
  | part d groups => exact ⟨hf d h.1, h.2⟩
  | seq a b iha ihb => exact ⟨iha h.1, ihb h.2⟩
  | choice a b iha ihb => exact ⟨iha h.1, ihb h.2⟩
  | capture index a ih => exact ⟨h.1, ih h.2⟩
  | times count a ih => exact ih h
  | upTo count greedy a ih => exact ih h
  | star greedy a ih => exact ih h
  | around back negated a ih => exact ih h
  | atomic a ih => exact ih h
  | conditional c yes no ihc ihy ihn => exact ⟨ihc h.1, ihy h.2.1, ihn h.2.2⟩
  | keepOut => exact h
  | contiguous => exact h
  | _ => trivial

/-- Whether a part is an expression with its counts written out. -/
def Part.IsRegex (part : Part) : Prop := ∃ r : Regex, part = r.unroll none

/-- Whether what is planned is a steady plan of expressions. -/
def Yields (x : Except Fault (Plan Part)) : Prop := ∀ plan, x = .ok plan → plan.Steady Part.IsRegex

namespace Yields

variable {x y : Except Fault (Plan Part)} {f : Plan Part → Except Fault (Plan Part)}

theorem ok {plan : Plan Part} (h : plan.Steady Part.IsRegex) : Yields (.ok plan) := by
  rintro _ ⟨⟩
  exact h

theorem bind (h : Yields x) (hf : ∀ a, a.Steady Part.IsRegex → Yields (f a)) :
    Yields (x >>= f) := by
  intro plan hplan
  obtain ⟨a, ha, hplan⟩ := bind_eq_ok.mp hplan
  exact hf a (h a ha) plan hplan

theorem map {k : Plan Part → Plan Part} (h : Yields x)
    (hk : ∀ a, a.Steady Part.IsRegex → (k a).Steady Part.IsRegex) : Yields (x.map k) := by
  intro plan hplan
  obtain ⟨a, ha, rfl⟩ := map_eq_ok.mp hplan
  exact hk a (h a ha)

theorem ite {c : Prop} [Decidable c] (h : Yields x) (h' : Yields y) :
    Yields (if c then x else y) := by
  split
  · exact h
  · exact h'

end Yields

theorem yields_planPart {ts : List Tree} (h : ∀ t ∈ ts, t.Steady) : Yields (planPart ts) := by
  intro plan hplan
  unfold planPart at hplan
  split at hplan
  · cases hplan
    trivial
  · obtain ⟨asts, -, hplan⟩ := bind_eq_ok.mp hplan
    obtain ⟨part, hpart, hplan⟩ := bind_eq_ok.mp hplan
    cases hplan
    obtain ⟨r, flags, -, rfl⟩ := regex_of_partOfTrees hpart
    refine ⟨⟨r, rfl⟩, fun i hi => ?_⟩
    obtain ⟨t, ht, hi⟩ := List.mem_flatMap.mp hi
    exact (h t ht).groups i hi

/-- Whether what waits in front of a position is steady. -/
def Position.Steady : Position → Prop
  | front waiting => ∀ t ∈ waiting, t.Steady
  | _ => True

namespace Tree

variable {referred : List Nat} {t : Tree} {later : Bool} {position : Position}

theorem steady_append {ts : List Tree} (h : ∀ t ∈ ts, t.Steady) (ht : t.Steady) :
    ∀ x ∈ ts ++ [t], x.Steady :=
  List.forall_mem_append.mpr ⟨h, List.forall_mem_singleton.mpr ht⟩

theorem yields_one (h : t.Steady) : Yields (planPart [t]) :=
  yields_planPart (List.forall_mem_singleton.mpr h)

theorem yields_planBehind {negated : Bool} {x : Except Fault (Plan Part)} (h : Yields x) :
    Yields (planBehind negated t x) :=
  .ite (h.map fun _ ha => ha) nofun

theorem yields_planAt {plan : Bool → Except Fault (Plan Part)} (ht : t.Steady)
    (hposition : position.Steady) (h : ∀ later, Yields (plan later)) :
    Yields (t.planAt referred later plan position) := by
  have hcut (c : Prop) [Decidable c] (later : Bool) :
      Yields (if c then planPart [t] else plan later) :=
    .ite (yields_one ht) (h later)
  cases position with
  | alone => exact hcut _ _
  | branch => exact hcut _ _
  | middle => exact hcut _ _
  | front waiting =>
    have hmiddle : Yields (t.planAt referred later plan .middle) := hcut _ _
    rw [planAt_front]
    exact .ite (yields_planPart (steady_append hposition ht))
      ((yields_planPart hposition).bind fun a ha => hmiddle.bind fun b hb => .ok ⟨ha, hb⟩)
  | behind negated => exact yields_planBehind (hcut _ _)

/-- Whether the plan of a tree is steady wherever the tree stands. -/
def YieldsSteady (referred : List Nat) (t : Tree) : Prop :=
  ∀ position later, position.Steady → Yields (t.plan referred position later)

theorem yields_concat {a b : Tree} (h : (concat a b).Steady) (ha : a.YieldsSteady referred)
    (hb : b.YieldsSteady referred) : (concat a b).YieldsSteady referred := by
  have hitems : Yields (planPart (concat a b).items) := yields_planPart (All.items h)
  have hmiddle (later : Bool) : Yields ((concat a b).plan referred .middle later) := by
    rw [plan_middle_concat]
    exact .ite hitems ((ha .alone true trivial).bind fun x hx =>
      (hb .middle later trivial).bind fun y hy => .ok ⟨hx, hy⟩)
  have hfront (later : Bool) (waiting : List Tree) (hwaiting : ∀ t ∈ waiting, t.Steady) :
      Yields ((concat a b).plan referred (.front waiting) later) := by
    rw [plan_front_concat]
    exact .ite (hb (.front (waiting ++ [a])) later (steady_append hwaiting h.2.1))
      ((yields_planPart hwaiting).bind fun x hx => (hmiddle later).bind fun y hy => .ok ⟨hx, hy⟩)
  have halone (later : Bool) : Yields ((concat a b).plan referred .alone later) := by
    rw [plan_alone_concat]
    exact .ite hitems (hfront later [] (List.forall_mem_nil _))
  intro position later hposition
  cases position with
  | alone => exact halone later
  | branch => exact halone later
  | middle => exact hmiddle later
  | front waiting => exact hfront later waiting hposition
  | behind negated =>
    rw [plan_behind_concat]
    exact yields_planBehind (halone false)

theorem yields_alternate {a b : Tree} (h : (alternate a b).Steady) (ha : a.YieldsSteady referred)
    (hb : b.YieldsSteady referred) : (alternate a b).YieldsSteady referred := by
  have heach (later : Bool) : Yields ((a.plan referred .alone later).bind fun x =>
      (b.plan referred .branch later).bind fun y => .ok (.choice x y)) :=
    (ha .alone later trivial).bind fun x hx =>
      (hb .branch later trivial).bind fun y hy => .ok ⟨hx, hy⟩
  intro position later hposition
  cases position with
  | alone => exact @yields_planAt _ _ _ .alone _ h trivial heach
  | middle => exact @yields_planAt _ _ _ .middle _ h trivial heach
  | front waiting => exact @yields_planAt _ _ _ (.front waiting) _ h hposition heach
  | branch => exact heach later
  | behind negated =>
    refine (yields_planBehind (ha .alone false trivial)).bind fun x hx =>
      (hb (.behind negated) false trivial).bind fun y hy => .ok ?_
    split <;> exact ⟨hx, hy⟩

/-- **The plan of a steady tree is steady**, and its parts are expressions. -/
theorem yields_plan (h : t.Steady) : t.YieldsSteady referred := by
  induction t with
  | concat a b iha ihb => exact yields_concat h (iha h.2.1) (ihb h.2.2)
  | alternate a b iha ihb => exact yields_alternate h (iha h.2.1) (ihb h.2.2)
  | empty => exact fun p later hp => yields_planAt h hp fun _ => .ok trivial
  | any newline => exact fun p later hp => yields_planAt h hp fun _ => yields_one h
  | literal c anyCase => exact fun p later hp => yields_planAt h hp fun _ => yields_one h
  | fragment text anyCase => exact fun p later hp => yields_planAt h hp fun _ => yields_one h
  | assertion l => exact fun p later hp => yields_planAt h hp fun _ => .ok trivial
  | plain t ih =>
    exact fun p later hp => yields_planAt h hp fun later => ih h.2 .alone later trivial
  | group i t ih =>
    exact fun p later hp => yields_planAt h hp fun later =>
      (ih h.2 .alone later trivial).bind fun x hx => .ok ⟨h.1, hx⟩
  | look direction negated t ih =>
    have haround (back : Nat) : Yields ((t.plan referred .alone false).bind fun x =>
        .ok (.around back negated x)) :=
      (ih h.2 .alone false trivial).bind fun x hx => .ok hx
    cases direction with
    | ahead => exact fun p later hp => yields_planAt h hp fun _ => haround 0
    | behind =>
      exact fun p later hp => yields_planAt h hp fun _ =>
        .ite (haround t.minSize) (ih h.2 (.behind negated) false trivial)
  | repetition least most greedy t ih =>
    refine fun p later hp => yields_planAt h hp fun later => ?_
    refine .ite ((ih h.2 .alone later trivial).bind fun x hx => .ok hx)
      ((ih h.2 .alone true trivial).bind fun x hx => ?_)
    cases most with
    | none => exact .ok ⟨hx, hx⟩
    | some most => exact .ok ⟨hx, hx⟩
  | atomic t ih =>
    exact fun p later hp => yields_planAt h hp fun _ =>
      (ih h.2 .alone false trivial).bind fun x hx => .ok hx
  | backref i => exact fun p later hp => yields_planAt h hp fun _ => .ok trivial
  | groupTest i => exact fun p later hp => yields_planAt h hp fun _ => .ok trivial
  | conditional c yes no ihc ihy ihn =>
    exact fun p later hp => yields_planAt h hp fun later =>
      (ihc h.2.1 .alone later trivial).bind fun x hx =>
        (ihy h.2.2.1 .alone later trivial).bind fun y hy =>
          (ihn h.2.2.2 .alone later trivial).bind fun z hz => .ok ⟨hx, hy, hz⟩
  | keepOut => exact h.elim
  | contiguous => exact h.elim

end Tree

/-! ## Ways through steady plans -/

/-- Whether a state lies behind another one inside a text of that size, with the same beginning. -/
structure State.Onward (size : Nat) (st st' : State) : Prop where
  le : st.place ≤ st'.place
  le_size : st.place ≤ size → st'.place ≤ size
  beginning : st'.slot? 0 = st.slot? 0

/-- Whether all ways of a round stand in a relation to where they begin. -/
def Leads (R : State → State → Prop) (round : State → List State) : Prop :=
  ∀ st, ∀ st' ∈ round st, R st st'

section Rounds

theorem mem_waysBoth {st : State} {greedy : Bool} {more leave : List State} :
    st ∈ waysBoth greedy more leave ↔ st ∈ more ∨ st ∈ leave := by
  cases greedy with
  | true => exact List.mem_append
  | false => exact List.mem_append.trans or_comm

variable {R : State → State → Prop} {round round' : State → List State} (hrefl : ∀ st, R st st)
  (htrans : ∀ {a b c}, R a b → R b c → R a c)

include htrans in
theorem Leads.andThen (h : Leads R round) (h' : Leads R round') :
    Leads R fun st => (round st).flatMap round' := by
  intro st st' hst'
  obtain ⟨st₁, h₁, h₂⟩ := List.mem_flatMap.mp hst'
  exact htrans (h st st₁ h₁) (h' st₁ st' h₂)

include hrefl

theorem leads_stay : Leads R fun st => [st] := by
  intro st st' hst'
  obtain rfl := List.mem_singleton.mp hst'
  exact hrefl _

include htrans

theorem Leads.times (h : Leads R round) (n : Nat) : Leads R (waysTimes round n) := by
  induction n with
  | zero => exact leads_stay hrefl
  | succ n ih => exact h.andThen htrans ih

theorem Leads.upTo (h : Leads R round) (greedy : Bool) (n : Nat) :
    Leads R (waysUpTo greedy round n) := by
  induction n with
  | zero => exact leads_stay hrefl
  | succ n ih =>
    have hmore : Leads R _ := h.andThen htrans ih
    intro st st' hst'
    exact (mem_waysBoth.mp hst').elim (hmore st st') (leads_stay hrefl st st')

theorem Leads.star (h : Leads R round) (greedy : Bool) (fuel : Nat) :
    Leads R (waysStar greedy round fuel) := by
  induction fuel with
  | zero => exact leads_stay hrefl
  | succ fuel ih =>
    intro st st' hst'
    rcases mem_waysBoth.mp hst' with hmore | hleave
    · obtain ⟨st₁, h₁, h₂⟩ := List.mem_flatMap.mp hmore
      split at h₂
      · cases h₂
      · exact htrans (h st st₁ h₁) (ih st₁ st' h₂)
    · exact leads_stay hrefl st st' hleave

end Rounds

section Onward

variable {size : Nat} {st st' st'' : State}

theorem State.Onward.refl (size : Nat) (st : State) : st.Onward size st :=
  ⟨Nat.le_refl _, id, rfl⟩

theorem State.Onward.trans (h : st.Onward size st') (h' : st'.Onward size st'') :
    st.Onward size st'' :=
  ⟨Nat.le_trans h.le h'.le, fun hst => h'.le_size (h.le_size hst),
    h'.beginning.trans h.beginning⟩

end Onward

/-- Whether a part leads onward wherever it is tried. -/
def Table.Onward (size : Nat) (table : Table) : Prop :=
  ∀ (i : Nat) (trail : Trail), table[i]?.join = some trail → i ≤ trail.stop ∧ trail.stop ≤ size

section Ways

variable {size : Nat} {subject : Subject} {plan : Plan Table}

theorem State.mark_onward (st : State) {slot : Nat} (h : slot ≠ 0) : st.Onward size (st.mark slot) :=
  ⟨Nat.le_refl _, id, by rw [slot?_mark, if_neg h.symm]⟩

/-- **Every way through a steady plan goes forward**, and ends inside the text. -/
theorem onward_of_ways (hsize : subject.text.size = size) (h : plan.Steady (Table.Onward size)) :
    Leads (State.Onward size) (plan.ways subject) := by
  have hrefl := State.Onward.refl size
  have hstay := leads_stay hrefl
  induction plan with
  | nothing => exact hstay
  | part table groups =>
    intro st st' hst'
    simp only [Plan.ways] at hst'
    split at hst'
    · rename_i trail htrail
      obtain rfl := List.mem_singleton.mp hst'
      obtain ⟨hle, hstop⟩ := h.1 _ _ htrail
      refine ⟨hle, fun _ => hstop, State.slot?_along fun i hi => ?_⟩
      have hpos := h.2 i hi
      omega
    · cases hst'
  | look l =>
    intro st st' hst'
    simp only [Plan.ways] at hst'
    generalize (if st.place = 0 then none else subject.text[st.place - 1]?) = before at hst'
    split at hst'
    · exact hstay st st' hst'
    · cases hst'
  | seq a b iha ihb => exact (iha h.1).andThen .trans (ihb h.2)
  | choice a b iha ihb =>
    intro st st' hst'
    exact (List.mem_append.mp hst').elim (iha h.1 st st') (ihb h.2 st st')
  | capture index a ih =>
    intro st st' hst'
    have hpos : 0 < index := h.1
    obtain ⟨st₁, h₁, rfl⟩ := List.mem_map.mp hst'
    exact ((st.mark_onward (by omega)).trans (ih h.2 _ st₁ h₁)).trans (st₁.mark_onward (by omega))
  | times count a ih => exact (ih h).times hrefl .trans count
  | upTo count greedy a ih => exact (ih h).upTo hrefl .trans greedy count
  | star greedy a ih => exact fun st => (ih h).star hrefl .trans greedy _ st
  | around back negated a ih =>
    intro st st' hst'
    cases negated with
    | false =>
      simp only [Plan.ways, State.back?] at hst'
      split at hst'
      · cases hst'
      · rename_i before hbefore
        split at hbefore
        · obtain rfl := Option.some.inj hbefore
          -- the place is the old one again, so what the look moved does not count
          obtain ⟨st₁, h₁, rfl⟩ := List.mem_map.mp hst'
          exact ⟨Nat.le_refl _, id, (ih h _ st₁ h₁).beginning⟩
        · cases hbefore
    | true =>
      simp only [Plan.ways] at hst'
      split at hst'
      · exact hstay st st' hst'
      · split at hst'
        · exact hstay st st' hst'
        · cases hst'
  | backref index =>
    intro st st' hst'
    simp only [Plan.ways] at hst'
    split at hst'
    · split at hst'
      · rename_i hrepeats
        obtain rfl := List.mem_singleton.mp hst'
        simp only [Subject.repeats, Bool.and_eq_true, decide_eq_true_eq] at hrepeats
        exact ⟨Nat.le_add_right _ _, fun _ => hsize ▸ hrepeats.1, rfl⟩
      · cases hst'
    · cases hst'
  | groupTest index =>
    intro st st' hst'
    simp only [Plan.ways] at hst'
    split at hst'
    · exact hstay st st' hst'
    · cases hst'
  | atomic a ih =>
    intro st st' hst'
    simp only [Plan.ways, Option.mem_toList] at hst'
    exact ih h st st' (List.mem_of_mem_head? hst')
  | conditional condition yes no ihc ihy ihn =>
    intro st st' hst'
    simp only [Plan.ways] at hst'
    split at hst'
    · rename_i st₁ h₁
      exact (ihc h.1 st st₁ (List.mem_of_mem_head? h₁)).trans (ihy h.2.1 st₁ st' hst')
    · exact ihn h.2.2 st st' hst'
  | keepOut => exact h.elim
  | contiguous => exact h.elim

/-- Where the search before it ended does not matter to a steady plan. -/
theorem run_contiguous {good : Table → Prop} (h : plan.Steady good) (text : Array Char)
    (origin : Nat) (c c' : Bool) :
    plan.run ⟨text, origin, c⟩ = plan.run ⟨text, origin, c'⟩ := by
  induction plan with
  | seq a b iha ihb =>
    funext st trials next
    simp only [Plan.run, iha h.1, ihb h.2]
  | choice a b iha ihb =>
    funext st trials next
    simp only [Plan.run, iha h.1, ihb h.2]
  | capture index a ih =>
    funext st trials next
    simp only [Plan.run, ih h.2]
  | times count a ih =>
    funext st trials next
    simp only [Plan.run, ih h]
  | upTo count greedy a ih =>
    funext st trials next
    simp only [Plan.run, ih h]
  | star greedy a ih =>
    funext st trials next
    simp only [Plan.run, ih h]
  | around back negated a ih =>
    funext st trials next
    cases negated <;> simp only [Plan.run, ih h]
  | atomic a ih =>
    funext st trials next
    simp only [Plan.run, ih h]
  | conditional condition yes no ihc ihy ihn =>
    funext st trials next
    simp only [Plan.run, ihc h.1, ihy h.2.1, ihn h.2.2]
  | keepOut => exact h.elim
  | contiguous => exact h.elim
  | _ => rfl

end Ways

/-! ## Searches -/

section Searches

variable {plan : Plan Table} {text : Array Char} {resume : Nat} {last : Option Nat}

/-- What is found lies behind where the search began, and inside the text. -/
theorem bounds_of_search (h : plan.Steady (Table.Onward text.size)) {c : Bool} {m : Match}
    (hfound : plan.search ⟨text, resume, c⟩ = .found m) :
    resume ≤ m.start ∧ m.start ≤ m.stop ∧ m.stop ≤ text.size := by
  obtain ⟨p, hle, hp, st, hst, rfl⟩ := exists_way_of_search hfound
  obtain ⟨hplace, hsize, hbeginning⟩ := onward_of_ways rfl h ⟨p, []⟩ st hst
  have hstart : (st.toMatch p).start = p := by
    rw [State.toMatch, hbeginning]
    rfl
  rw [hstart]
  exact ⟨hle, hplace, hsize hp⟩

theorem search_contiguous {good : Table → Prop} (h : plan.Steady good) (c c' : Bool) :
    plan.search ⟨text, resume, c⟩ = plan.search ⟨text, resume, c'⟩ := by
  have hfrom (count place trials : Nat) :
      plan.searchFrom ⟨text, resume, c⟩ count place trials =
        plan.searchFrom ⟨text, resume, c'⟩ count place trials := by
    induction count generalizing place trials with
    | zero => rfl
    | succ count ih => simp only [Plan.searchFrom, run_contiguous h text resume c c', ih]
  exact hfrom _ _ _

/-- **The matches that are listed follow one another.** -/
theorem follow_listMatches (h : plan.Steady (Table.Onward text.size)) {strict : Bool} {fuel : Nat}
    {ms : List Match} (hlist : plan.listMatches text strict fuel resume last = some ms) :
    Follow text.size resume last ms := by
  induction fuel generalizing resume last ms with
  | zero =>
    cases hlist
    exact .nil
  | succ fuel ih =>
    unfold Plan.listMatches at hlist
    split at hlist
    · cases hlist
      exact .nil
    · split at hlist
      · cases hlist
      · cases hlist
        exact .nil
      · rename_i m hfound
        obtain ⟨hstart, hle, hstop⟩ := bounds_of_search h hfound
        split at hlist
        · rename_i hempty
          split at hlist
          · exact (ih hlist).mono (by omega)
          · rename_i hlast
            obtain ⟨ms', hms', rfl⟩ := Option.map_eq_some_iff.mp hlist
            refine .cons hstart hle hstop (fun _ => hlast) ?_
            rw [if_pos hempty]
            exact ih hms'
        · rename_i hne
          obtain ⟨ms', hms', rfl⟩ := Option.map_eq_some_iff.mp hlist
          refine .cons hstart hle hstop (fun heq => absurd heq hne) ?_
          rw [if_neg hne]
          exact ih hms'

theorem listMatches_strict {good : Table → Prop} (h : plan.Steady good) (strict strict' : Bool)
    (fuel : Nat) :
    plan.listMatches text strict fuel resume last =
      plan.listMatches text strict' fuel resume last := by
  induction fuel generalizing resume last with
  | zero => rfl
  | succ fuel ih =>
    unfold Plan.listMatches
    rw [search_contiguous h _ (!(strict' && last.any (· < resume)))]
    simp only [ih]

/-- **Listing ends by itself**: every search begins behind the one before it, so with as much fuel as
there are places no more is listed with more of it. -/
theorem listMatches_fuel (h : plan.Steady (Table.Onward text.size)) {strict : Bool}
    {fuel fuel' : Nat} (hfuel : text.size + 1 < fuel + resume)
    (hfuel' : text.size + 1 < fuel' + resume) :
    plan.listMatches text strict fuel resume last =
      plan.listMatches text strict fuel' resume last := by
  induction fuel generalizing fuel' resume last with
  | zero =>
    cases fuel' with
    | zero => rfl
    | succ fuel' => rw [Plan.listMatches, Plan.listMatches, if_pos (by omega)]
  | succ fuel ih =>
    cases fuel' with
    | zero => rw [Plan.listMatches, Plan.listMatches, if_pos (by omega)]
    | succ fuel' =>
      rw [Plan.listMatches, Plan.listMatches]
      split
      · rfl
      · split
        · rfl
        · rfl
        · rename_i m hfound
          obtain ⟨hstart, hle, -⟩ := bounds_of_search h hfound
          split
          · split
            · exact ih (by omega) (by omega)
            · exact congrArg _ (ih (by omega) (by omega))
          · exact congrArg _ (ih (by omega) (by omega))

end Searches

end Verbal.Extended
