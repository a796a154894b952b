import Verbal.Proofs.Extended.Meanings

/-!
# Assertions around an extended pattern

Assertions in front of a pattern and behind it are matched as one with the items of constant size
beside them. That takes ways away and adds none: what is of constant size is read in one way only,
however it is matched.

* **`Plan.Narrows`**: a plan leads nowhere else than another one.
* **`Plan.Serves`**: a plan leads wherever an expression can match.
* `Tree.serves_plan`: so does the plan of a tree of constant size, cut into parts or not.
* **`Tree.narrows_branches`**: a pattern with assertions around leads nowhere else than without.
-/

namespace Verbal.Extended

open Verbal.Regular (Chain Look Regex Rounds Skeleton Trail)

/-! ## Plans on a text -/

namespace Plan

/-- The ways through a plan on a text. -/
def waysOn (subject : Subject) (plan : Plan Part) : State → List State :=
  (Program.tabulated plan subject.text.toList).ways subject

/-- Whether a plan leads nowhere else than another one, as far as groups are referred to. -/
def Narrows (referred : List Nat) (a b : Plan Part) : Prop :=
  ∀ subject st st', st.Alike 0 referred st' → ∀ w ∈ a.waysOn subject st,
    ∃ w' ∈ b.waysOn subject st', w.Alike 0 referred w'

variable {referred : List Nat} {a b a' b' : Plan Part}

theorem Narrows.refl (h : a.Numbered referred) : a.Narrows referred a := by
  intro subject st st' hst w hw
  exact (ways_alike subject (numbered_tabulated h subject.text.toList)).exists_of_mem hst hw

theorem Narrows.seq (ha : a.Narrows referred a') (hb : b.Narrows referred b') :
    (Plan.seq a b).Narrows referred (Plan.seq a' b') := by
  intro subject st st' hst w hw
  obtain ⟨x, hx, hw⟩ := List.mem_flatMap.mp hw
  obtain ⟨x', hx', hxx⟩ := ha subject st st' hst x hx
  obtain ⟨w', hw', hww⟩ := hb subject x x' hxx w hw
  exact ⟨w', List.mem_flatMap.mpr ⟨x', hx', hw'⟩, hww⟩

theorem Narrows.choice (ha : a.Narrows referred a') (hb : b.Narrows referred b') :
    (Plan.choice a b).Narrows referred (Plan.choice a' b') := by
  intro subject st st' hst w hw
  rcases List.mem_append.mp hw with hw | hw
  · obtain ⟨w', hw', hww⟩ := ha subject st st' hst w hw
    exact ⟨w', List.mem_append_left _ hw', hww⟩
  · obtain ⟨w', hw', hww⟩ := hb subject st st' hst w hw
    exact ⟨w', List.mem_append_right _ hw', hww⟩

/-- What leads nowhere else than nothing can stand in front. -/
theorem Narrows.drop_first (ha : a.Narrows referred nothing) (hb : b.Narrows referred b') :
    (Plan.seq a b).Narrows referred b' := by
  intro subject st st' hst w hw
  obtain ⟨x, hx, hw⟩ := List.mem_flatMap.mp hw
  obtain ⟨x', hx', hxx⟩ := ha subject st st' hst x hx
  obtain rfl : x' = st' := List.mem_singleton.mp hx'
  exact hb subject x x' hxx w hw

theorem Narrows.drop_last (ha : a.Narrows referred a') (hb : b.Narrows referred nothing) :
    (Plan.seq a b).Narrows referred a' := by
  intro subject st st' hst w hw
  obtain ⟨x, hx, hw⟩ := List.mem_flatMap.mp hw
  obtain ⟨x', hx', hxx⟩ := ha subject st st' hst x hx
  obtain ⟨w', hw', hww⟩ := hb subject x x' hxx w hw
  obtain rfl : w' = x' := List.mem_singleton.mp hw'
  exact ⟨w', hx', hww⟩

end Plan

/-! ## Parts -/

/-- Whether the groups that are referred to stand in a state where they stood in another one. -/
def State.Still (referred : List Nat) (st st' : State) : Prop :=
  ∀ i ∈ referred, ∀ k < 2, st'.slot? (2 * i + k) = st.slot? (2 * i + k)

namespace State

variable {referred : List Nat} {st st' w w' : State}

theorem Still.refl (referred : List Nat) (st : State) : st.Still referred st := fun _ _ _ _ => rfl

theorem Still.trans (h : st.Still referred st') (h' : st'.Still referred w) :
    st.Still referred w := fun i hi k hk => (h' i hi k hk).trans (h i hi k hk)

theorem still_along {groups : List Nat} (trail : Trail) (h : ∀ i ∈ groups, i ∉ referred) :
    st.Still referred (st.along groups trail) := by
  intro i hi k hk
  refine slot?_along fun j hj => ?_
  have hne : i ≠ j := fun hij => h j hj (hij ▸ hi)
  omega

theorem still_mark {i : Nat} (hi : i ∉ referred) {k : Nat} (hk : k < 2) :
    st.Still referred (st.mark (2 * i + k)) := by
  intro j hj l hl
  have hne : j ≠ i := fun hji => hi (hji ▸ hj)
  rw [slot?_mark, if_neg (by omega)]

/-- States that are alike stay alike while nothing moves that is referred to. -/
theorem Alike.still (h : st.Alike 0 referred st') (hw : st.Still referred w)
    (hw' : st'.Still referred w') (hplace : w'.place = w.place) : w.Alike 0 referred w' :=
  h.moved hplace fun i hi k hk => ⟨hw i hi k hk, by
    rw [zero_raise]
    exact hw' i hi k hk⟩

end State

/-- Whether a plan leads wherever an expression can match, and moves no group that is referred
to. -/
def Plan.Serves (referred : List Nat) (r : Regex) (plan : Plan Part) : Prop :=
  ∀ subject st j, st.place ≤ subject.text.size → r.Spans subject.text.toList st.place j →
    ∃ w ∈ plan.waysOn subject st, w.place = j ∧ st.Still referred w

section Parts

variable {referred groups : List Nat} {r : Regex} {subject : Subject} {st w : State}

theorem waysOn_part (part : Part) (groups : List Nat) (subject : Subject) (st : State) :
    (Plan.part part groups).waysOn subject st =
      match (part.found subject.text.toList)[st.place]?.join with
      | some trail => [st.along groups trail]
      | none => [] := by
  change (match (part.found subject.text.toList).toArray[st.place]?.join with
    | some trail => [st.along groups trail]
    | none => []) = _
  rw [List.getElem?_toArray]

/-- A part leads where its expression can match. -/
theorem spans_of_way (h : w ∈ (Plan.part (r.unroll none) groups).waysOn subject st) :
    st.place ≤ subject.text.size ∧ r.Spans subject.text.toList st.place w.place ∧
      ∃ trail, w = st.along groups trail := by
  rw [waysOn_part] at h
  cases hfound : ((r.unroll none).found subject.text.toList)[st.place]?.join with
  | none =>
    rw [hfound] at h
    cases h
  | some trail =>
    rw [hfound] at h
    obtain rfl := List.mem_singleton.mp h
    have hle := ((Regular.found_isSome_iff r _ _).mp (by rw [hfound]; rfl)).1
    exact ⟨by simpa using hle, Regular.spans_of_found hfound, trail, rfl⟩

/-- Rounds of a plan that leads wherever an expression can match. -/
theorem Plan.Serves.rounds {plan : Plan Part} (h : plan.Serves referred r) (subject : Subject)
    (n : Nat) (st : State) (j : Nat) (hle : st.place ≤ subject.text.size)
    (hs : Rounds (r.Spans subject.text.toList) n st.place j) :
    ∃ w ∈ waysTimes (plan.waysOn subject) n st, w.place = j ∧ st.Still referred w := by
  induction n generalizing st with
  | zero => exact ⟨st, List.mem_singleton_self st, hs, .refl referred st⟩
  | succ n ih =>
    obtain ⟨k, hk, hs⟩ := hs
    obtain ⟨v, hv, rfl, hstill⟩ := h subject st k hle hk
    have hle' := hk.le_length (by simpa using hle)
    obtain ⟨w, hw, hplace, hstill'⟩ := ih v (by simpa using hle') hs
    exact ⟨w, List.mem_flatMap.mpr ⟨v, hv, hw⟩, hplace, hstill.trans hstill'⟩

/-- Where an expression reads the same number of characters whatever it reads, its part leads
wherever it can match. -/
theorem serves_part (hgroups : ∀ i ∈ groups, i ∉ referred)
    (hwidth : ∀ text i j k, r.Spans text i j → r.Spans text i k → j = k) :
    (Plan.part (r.unroll none) groups).Serves referred r := by
  intro subject st j hle hs
  have hsome := (Regular.found_isSome_iff r subject.text.toList st.place).mpr
    ⟨by simpa using hle, j, hs⟩
  obtain ⟨trail, htrail⟩ := Option.isSome_iff_exists.mp hsome
  refine ⟨st.along groups trail, ?_, ?_, State.still_along trail hgroups⟩
  · rw [waysOn_part, htrail]
    exact List.mem_singleton_self _
  · exact hwidth _ _ _ _ (Regular.spans_of_found htrail) hs

end Parts

namespace Tree

/-- Whether a tree can be matched as one in front of a sequence. -/
structure Fixed (referred : List Nat) (t : Tree) : Prop where
  easy : t.Easy referred
  const : t.constSize = true

section Fixed

variable {referred : List Nat} {t : Tree} {ts : List Tree} {plan : Plan Part} {r : Regex}

theorem isFront_iff (h : t.Sound referred) : t.isFront referred = true ↔ t.Fixed referred := by
  simp only [isFront, Bool.and_eq_true, Bool.not_eq_true']
  exact ⟨fun hf => ⟨⟨h, hf.2⟩, hf.1⟩, fun hf => ⟨hf.const, hf.easy.2⟩⟩

theorem constSize_ofItems {ts : List Tree} (h : ∀ t ∈ ts, t.constSize = true) :
    (ofItems ts).constSize = true := by
  match ts with
  | [] => rfl
  | [t] => exact h t (List.mem_singleton_self t)
  | t :: t' :: ts =>
    obtain ⟨ht, hts⟩ := List.forall_mem_cons.mp h
    exact Bool.and_eq_true_iff.mpr ⟨ht, constSize_ofItems hts⟩

theorem sound_ofItems (h : ∀ t ∈ ts, t.Sound referred) : (ofItems ts).Sound referred :=
  ⟨all_ofItems trivial (fun _ _ => trivial) fun t ht => (h t ht).1,
    all_ofItems trivial (fun _ _ => trivial) fun t ht => (h t ht).2⟩

theorem easy_ofItems {ts : List Tree} (h : ∀ t ∈ ts, t.hard referred = false) :
    (ofItems ts).hard referred = false := by
  match ts with
  | [] => rfl
  | [t] => exact h t (List.mem_singleton_self t)
  | t :: t' :: ts =>
    obtain ⟨ht, hts⟩ := List.forall_mem_cons.mp h
    exact Bool.or_eq_false_iff.mpr ⟨ht, easy_ofItems hts⟩

theorem fixed_ofItems (h : ∀ t ∈ ts, t.Fixed referred) : (ofItems ts).Fixed referred :=
  ⟨⟨sound_ofItems fun t ht => (h t ht).easy.1, easy_ofItems fun t ht => (h t ht).easy.2⟩,
    constSize_ofItems fun t ht => (h t ht).const⟩

theorem numbered_planPart (h : ∀ t ∈ ts, t.Easy referred) (hplan : planPart ts = .ok plan) :
    plan.Numbered referred :=
  (follows_planPart 0 h plan hplan).2

/-- What is of constant size and matched as one leads wherever it can match. -/
theorem serves_planPart (h : ∀ t ∈ ts, t.Fixed referred) (hplan : planPart ts = .ok plan)
    (hr : (ofItems ts).regex? (.initial false) = some r) : plan.Serves referred r := by
  by_cases hne : ts = []
  · subst hne
    cases hplan
    cases hr
    intro subject st j _ hs
    exact ⟨st, List.mem_singleton_self st, hs, .refl referred st⟩
  · have hlettered : ∀ t ∈ ts, t.Lettered := fun t ht => (h t ht).easy.1.2
    have hfixed := fixed_ofItems h
    obtain ⟨r', hr', rfl⟩ := regex_of_planPart hlettered hne hplan
    obtain rfl : r' = r := Option.some.inj (hr'.symm.trans hr)
    have hnumbered := numbered_planPart (fun t ht => (h t ht).easy) hplan
    refine serves_part (fun i hi => (hnumbered i hi).2) fun text i j k hj hk => ?_
    have hwidth {l : Nat} (hs : r'.Spans text i l) : l = i + (ofItems ts).minSize :=
      spans_constSize hfixed.easy.1.2 hfixed.const hr hs
    exact (hwidth hj).trans (hwidth hk).symm

theorem Fixed.items (h : t.Fixed referred) : ∀ x ∈ t.items, x.Fixed referred := by
  have hconst : ∀ x ∈ t.items, x.constSize = true := by
    have hc := h.const
    clear h
    induction t with
    | concat a b _ ihb =>
      obtain ⟨ha, hb⟩ := Bool.and_eq_true_iff.mp hc
      exact List.forall_mem_cons.mpr ⟨ha, ihb hb⟩
    | _ => exact List.forall_mem_singleton.mpr hc
  exact fun x hx => ⟨⟨h.easy.1.items x hx, hard_items h.easy.2 x hx⟩, hconst x hx⟩

/-- Items of constant size are matched as one with what waits in front of them. -/
theorem plan_front_of_fixed (h : t.Fixed referred) (waiting : List Tree) (later : Bool) :
    t.plan referred (.front waiting) later = planPart (waiting ++ t.items) := by
  induction t generalizing waiting with
  | concat a b _ ihb =>
    obtain ⟨ha, hb⟩ := sound_concat.mp h.easy.1
    obtain ⟨hea, heb⟩ := Bool.or_eq_false_iff.mp h.easy.2
    obtain ⟨hca, hcb⟩ := Bool.and_eq_true_iff.mp h.const
    rw [plan_front_concat, if_pos ((isFront_iff ha).mpr ⟨⟨ha, hea⟩, hca⟩), ihb ⟨⟨hb, heb⟩, hcb⟩,
      items, List.append_assoc, List.singleton_append]
  | alternate a b =>
    exact (planAt_front referred (alternate a b) later waiting fun later => do
      return .choice (← a.plan referred .alone later) (← b.plan referred .branch later)).trans
        (if_pos ((isFront_iff h.easy.1).mpr h))
  | look direction negated t => cases h.easy.2
  | _ => exact (planAt_front ..).trans (if_pos ((isFront_iff h.easy.1).mpr h))

/-- **A tree of constant size leads wherever it can match**, cut into parts or not. -/
theorem serves_plan (h : t.Fixed referred) (hplan : t.plan referred .alone true = .ok plan)
    (hr : t.regex? (.initial false) = some r) : plan.Serves referred r := by
  induction t generalizing plan r with
  | empty =>
    cases hplan
    cases hr
    exact fun subject st j _ hs => ⟨st, List.mem_singleton_self st, hs, .refl referred st⟩
  | any newline =>
    exact serves_planPart (List.forall_mem_singleton.mpr h) hplan hr
  | literal c anyCase =>
    exact serves_planPart (List.forall_mem_singleton.mpr h) hplan hr
  | fragment text anyCase =>
    exact serves_planPart (List.forall_mem_singleton.mpr h) hplan hr
  | assertion l =>
    cases hplan
    have hlook : r = .look l := by
      cases l <;> first | (cases hr; rfl) | cases hr
    subst hlook
    rintro subject st j - ⟨rfl, hs⟩
    refine ⟨st, ?_, rfl, .refl referred st⟩
    have hholds : l.holds (if st.place = 0 then none else subject.text[st.place - 1]?)
        subject.text[st.place]? = true := by
      simpa [Look.HoldsAt, Regular.charBefore?] using hs
    change st ∈ if l.holds _ _ then [st] else []
    rw [if_pos hholds]
    exact List.mem_singleton_self st
  | concat a b =>
    -- a sequence of constant size is one part, so its halves are not planned on their own
    have hitems := ofItems_items (concat a b)
    rw [← hitems] at hr
    refine serves_planPart h.items ?_ hr
    rw [← hplan]
    exact (plan_front_of_fixed h [] true).symm
  | alternate a b iha ihb =>
    obtain ⟨ha, hb⟩ := sound_alternate.mp h.easy.1
    obtain ⟨hea, heb⟩ := Bool.or_eq_false_iff.mp h.easy.2
    obtain ⟨hab, -⟩ := Bool.and_eq_true_iff.mp h.const
    obtain ⟨hca, hcb⟩ := Bool.and_eq_true_iff.mp hab
    obtain ⟨x, hx, hplan⟩ := bind_eq_ok.mp hplan
    obtain ⟨y, hy, hplan⟩ := bind_eq_ok.mp hplan
    cases hplan
    rw [plan_branch] at hy
    obtain ⟨ra, rb, hra, hrb, rfl⟩ := regex_alternate.mp hr
    rintro subject st j hle (hs | hs)
    · obtain ⟨w, hw, hplace, hstill⟩ := iha ⟨⟨ha, hea⟩, hca⟩ hx hra subject st j hle hs
      exact ⟨w, List.mem_append_left _ hw, hplace, hstill⟩
    · obtain ⟨w, hw, hplace, hstill⟩ := ihb ⟨⟨hb, heb⟩, hcb⟩ hy hrb subject st j hle hs
      exact ⟨w, List.mem_append_right _ hw, hplace, hstill⟩
  | plain t ih =>
    exact ih ⟨⟨⟨h.easy.1.1.2, h.easy.1.2.2⟩, h.easy.2⟩, h.const⟩ hplan hr
  | group i t ih =>
    obtain ⟨hi, ht⟩ := sound_group.mp h.easy.1
    obtain ⟨het, hei⟩ := Bool.or_eq_false_iff.mp h.easy.2
    have hi : i ∉ referred := by simpa using hei
    obtain ⟨x, hx, hplan⟩ := bind_eq_ok.mp hplan
    cases hplan
    obtain ⟨rt, hrt, rfl⟩ := Option.map_eq_some_iff.mp hr
    intro subject st j hle hs
    obtain ⟨w, hw, hplace, hstill⟩ := ih ⟨⟨ht, het⟩, h.const⟩ hx hrt subject (st.mark (2 * i)) j
      hle hs
    exact ⟨w.mark (2 * i + 1), List.mem_map_of_mem hw, hplace,
      ((State.still_mark (k := 0) hi (by decide)).trans hstill).trans
        (State.still_mark hi (by decide))⟩
  | repetition least most greedy t ih =>
    obtain ⟨hct, hmost⟩ := Bool.and_eq_true_iff.mp h.const
    obtain rfl : most = some least := beq_iff_eq.mp hmost
    obtain ⟨rt, hrt, rfl⟩ := Option.map_eq_some_iff.mp hr
    have hcount : ¬(least = 0 ∧ some least = some 1) := by
      rintro ⟨rfl, hone⟩
      cases hone
    change (if least = 0 ∧ some least = some 1 then _ else _) = _ at hplan
    rw [if_neg hcount] at hplan
    obtain ⟨x, hx, hplan⟩ := bind_eq_ok.mp hplan
    cases hplan
    have ih := ih ⟨⟨⟨h.easy.1.1.2, h.easy.1.2.2⟩, h.easy.2⟩, hct⟩ hx hrt
    -- the count is exact, so there are no rounds beyond those that are owed
    have hzero : least - min least ((some least).getD least) = 0 := by simp
    intro subject st j hle hs
    obtain ⟨w, hw, hplace, hstill⟩ :=
      ih.rounds subject least st j hle (spans_repeated_exact.mp hs)
    refine ⟨w, List.mem_flatMap.mpr ⟨w, ?_, ?_⟩, hplace, hstill⟩
    · rw [show min least ((some least).getD least) = least from Nat.min_self least]
      exact hw
    · change w ∈ waysUpTo greedy (x.waysOn subject) (least - min least ((some least).getD least)) w
      rw [hzero]
      exact List.mem_singleton_self w
  | _ => cases hr

end Fixed

/-! ## Assertions -/

/-- Whether there is an assertion that regular patterns know, or nothing. -/
def IsAnchor (ts : List Tree) : Prop :=
  ts = [] ∨ ∃ l, ts = [assertion l] ∧ hardLook l = false

section Anchors

variable {referred : List Nat} {pre post ts : List Tree} {t x : Tree} {a b : Plan Part}

theorem fixed_assertion {l : Look} (hl : hardLook l = false) :
    (assertion l).Fixed referred := ⟨⟨⟨trivial, trivial⟩, hl⟩, rfl⟩

theorem isAnchor_nil : IsAnchor [] := Or.inl rfl

theorem isAnchor_look {l : Look} (hl : hardLook l = false) : IsAnchor [assertion l] :=
  Or.inr ⟨l, rfl, hl⟩

theorem IsAnchor.fixed (h : IsAnchor ts) : ∀ t ∈ ts, t.Fixed referred := by
  rcases h with rfl | ⟨l, rfl, hl⟩
  · exact List.forall_mem_nil _
  · exact List.forall_mem_singleton.mpr (fixed_assertion hl)

/-- Assertions read nothing. -/
theorem IsAnchor.spans (h : IsAnchor ts) {flags : Regular.Flags} {rs : List Regex}
    (hrs : Stand flags ts rs) {text : List Char} {i j : Nat}
    (hs : (Regex.sequence rs).Spans text i j) : i = j := by
  rcases h with rfl | ⟨l, rfl, hl⟩
  · cases hrs
    exact hs
  · cases hrs with
    | cons hr hnil =>
      cases hnil
      have hwidth := spans_constSize (t := assertion l) trivial rfl hr hs
      exact hwidth.symm

theorem fixed_between (hpre : IsAnchor pre) (hpost : IsAnchor post)
    (h : ∀ t ∈ ts, t.Fixed referred) : ∀ t ∈ pre ++ (ts ++ post), t.Fixed referred :=
  List.forall_mem_append.mpr ⟨hpre.fixed, List.forall_mem_append.mpr ⟨h, hpost.fixed⟩⟩

/-- A part with assertions around leads nowhere else than what serves the rest of it. -/
theorem narrows_of_serves (hpre : IsAnchor pre) (hpost : IsAnchor post)
    (h : ∀ t ∈ ts, t.Fixed referred) (hne : pre ++ (ts ++ post) ≠ [])
    (ha : planPart (pre ++ (ts ++ post)) = .ok a)
    (hserves : ∀ r, (ofItems ts).regex? (.initial false) = some r → b.Serves referred r) :
    a.Narrows referred b := by
  have hfixed := fixed_between hpre hpost h
  obtain ⟨r, hr, rfl⟩ := regex_of_planPart (fun t ht => (hfixed t ht).easy.1.2) hne ha
  have hnumbered := numbered_planPart (fun t ht => (hfixed t ht).easy) ha
  obtain ⟨rs, hrs, rfl⟩ := regex_ofItems.mp hr
  obtain ⟨rpre, rrest, hrpre, hrrest, rfl⟩ := stand_append hrs
  obtain ⟨rts, rpost, hrts, hrpost, rfl⟩ := stand_append hrrest
  intro subject st st' hst w hw
  obtain ⟨hle, hs, trail, rfl⟩ := spans_of_way hw
  rw [Regex.spans_sequence_append] at hs
  obtain ⟨k, hsk, hs⟩ := hs
  rw [Regex.spans_sequence_append] at hs
  obtain ⟨l, hs, hsl⟩ := hs
  obtain rfl := hpre.spans hrpre hsk
  obtain rfl := hpost.spans hrpost hsl
  obtain ⟨w', hw', hplace, hstill⟩ := hserves _ (regex_ofItems.mpr ⟨rts, hrts, rfl⟩) subject st' _
    (by rwa [hst.place]) (by rw [hst.place]; exact hs)
  exact ⟨w', hw', hst.still (State.still_along trail fun i hi => (hnumbered i hi).2) hstill hplace⟩

/-- So does it than the rest of it as a part. -/
theorem narrows_planPart (hpre : IsAnchor pre) (hpost : IsAnchor post)
    (h : ∀ t ∈ ts, t.Fixed referred) (ha : planPart (pre ++ (ts ++ post)) = .ok a)
    (hb : planPart ts = .ok b) : a.Narrows referred b := by
  by_cases hne : pre ++ (ts ++ post) = []
  · obtain ⟨rfl, hrest⟩ := List.append_eq_nil_iff.mp hne
    obtain ⟨rfl, rfl⟩ := List.append_eq_nil_iff.mp hrest
    cases ha
    cases hb
    exact .refl trivial
  · exact narrows_of_serves hpre hpost h hne ha fun r hr => serves_planPart h hb hr

/-! ### A sequence from its middle on -/

/-- Whether a tree is an item of a sequence, and none itself. -/
def IsItem (t : Tree) : Prop := t.items = [t]

theorem items_ofItems (h : ∀ t ∈ ts, t.IsItem) (hne : ts ≠ []) : (ofItems ts).items = ts := by
  induction ts with
  | nil => exact absurd rfl hne
  | cons t ts ih =>
    obtain ⟨ht, hts⟩ := List.forall_mem_cons.mp h
    cases ts with
    | nil => exact ht
    | cons t' ts => exact congrArg (t :: ·) (ih hts (List.cons_ne_nil t' ts))

/-- The end of a sequence is matched as one if all of it is of constant size. -/
theorem isEnd_ofItems (h : ∀ t ∈ ts, t.Sound referred) (hitems : ∀ t ∈ ts, t.IsItem)
    (hne : ts ≠ []) :
    (ofItems ts).isEnd referred true = true ↔ ∀ t ∈ ts, t.Fixed referred := by
  simp only [isEnd, items_ofItems hitems hne, Bool.and_eq_true, Bool.not_eq_true', Bool.not_true,
    Bool.false_or, List.all_eq_true]
  constructor
  · rintro ⟨heasy, hconst⟩ t ht
    have hitem := hard_items heasy t (by rwa [items_ofItems hitems hne])
    exact ⟨⟨h t ht, hitem⟩, hconst t ht⟩
  · exact fun hfixed =>
      ⟨easy_ofItems fun t ht => (hfixed t ht).easy.2, fun t ht => (hfixed t ht).const⟩

/-- What an item becomes at the end of a sequence is what it becomes on its own, unless it is
matched as one. -/
theorem plan_middle_item (h : t.Sound referred) (hitem : t.IsItem) (hfixed : ¬t.Fixed referred) :
    t.plan referred .middle true = t.plan referred .alone true := by
  have hiff : t.isEnd referred true = true ↔ ∀ x ∈ [t], x.Fixed referred :=
    isEnd_ofItems (List.forall_mem_singleton.mpr h) (List.forall_mem_singleton.mpr hitem)
      (List.cons_ne_nil t [])
  have hend : ¬t.isEnd referred true = true :=
    fun hend => hfixed (hiff.mp hend t (List.mem_singleton_self t))
  cases t with
  | concat a b => cases hitem
  | look direction negated t => cases direction <;> (simp only [plan, planAt, hend]; rfl)
  | _ => simp only [plan, planAt, hend]; rfl

/-- What is easy is matched as one where nothing that follows could fail. -/
theorem plan_last (h : t.hard referred = false) :
    t.plan referred .alone false = planPart t.items := by
  cases t with
  | concat a b => exact (plan_alone_concat referred a b false).trans (if_pos (by simp [h]))
  | look direction negated t => cases h
  | _ => simp only [plan, planAt, h]; rfl

/-- Items of which not all are of constant size are planned one after the other. -/
theorem plan_middle_cons (h : ∀ y ∈ t :: x :: ts, y.Sound referred)
    (hitems : ∀ y ∈ t :: x :: ts, y.IsItem) (hfixed : ¬∀ y ∈ t :: x :: ts, y.Fixed referred) :
    (ofItems (t :: x :: ts)).plan referred .middle true =
      (t.plan referred .alone true).bind fun first =>
        ((ofItems (x :: ts)).plan referred .middle true).bind fun rest => .ok (.seq first rest) := by
  exact (plan_middle_concat referred t (ofItems (x :: ts)) true).trans
    (if_neg fun hend => hfixed ((isEnd_ofItems h hitems (List.cons_ne_nil t (x :: ts))).mp hend))

theorem plan_middle_of_isEnd (h : t.isEnd referred true = true) :
    t.plan referred .middle true = planPart t.items := by
  cases t with
  | concat a b => exact (plan_middle_concat referred a b true).trans (if_pos h)
  | look direction negated t => cases direction <;> (simp only [plan, planAt, h, if_true]; rfl)
  | _ => simp only [plan, planAt, h, if_true]; rfl

/-- Items that are all of constant size are matched as one. -/
theorem plan_middle_fixed (hitems : ∀ t ∈ ts, t.IsItem) (hne : ts ≠ [])
    (hfixed : ∀ t ∈ ts, t.Fixed referred) :
    (ofItems ts).plan referred .middle true = planPart ts := by
  have hend := (isEnd_ofItems (fun t ht => (hfixed t ht).easy.1) hitems hne).mpr hfixed
  rw [plan_middle_of_isEnd hend, items_ofItems hitems hne]

/-- Whether one tree is planned to lead nowhere else than another one. -/
def PlansNarrow (referred : List Nat) (position : Position) (t t' : Tree) (position' : Position) :
    Prop :=
  ∀ a b, t.plan referred position true = .ok a → t'.plan referred position' true = .ok b →
    a.Narrows referred b

theorem PlansNarrow.refl (h : t.Sound referred) (position : Position)
    (hposition : position.Easy referred) : PlansNarrow referred position t t position := by
  intro a b ha hb
  obtain rfl : a = b := Except.ok.inj (ha.symm.trans hb)
  exact .refl (plan_shift 0 h position true hposition a ha).2

theorem IsAnchor.isItem (h : IsAnchor ts) : ∀ t ∈ ts, t.IsItem := by
  rcases h with rfl | ⟨l, rfl, -⟩
  · exact List.forall_mem_nil _
  · exact List.forall_mem_singleton.mpr rfl

/-- **The end of a sequence** with an assertion behind it leads nowhere else than without. -/
theorem narrows_middle {items : List Tree} (hpost : IsAnchor post)
    (h : ∀ t ∈ items, t.Sound referred) (hitems : ∀ t ∈ items, t.IsItem) (hne : items ≠ []) :
    PlansNarrow referred .middle (ofItems (items ++ post)) (ofItems items) .middle := by
  have hall : ∀ t ∈ items ++ post, t.Sound referred :=
    List.forall_mem_append.mpr ⟨h, fun t ht => (hpost.fixed t ht).easy.1⟩
  have hallItems : ∀ t ∈ items ++ post, t.IsItem :=
    List.forall_mem_append.mpr ⟨hitems, hpost.isItem⟩
  intro a b ha hb
  by_cases hfixed : ∀ t ∈ items, t.Fixed referred
  · rw [plan_middle_fixed hallItems (by simp [hne])
      (List.forall_mem_append.mpr ⟨hfixed, hpost.fixed⟩)] at ha
    rw [plan_middle_fixed hitems hne hfixed] at hb
    exact narrows_planPart isAnchor_nil hpost hfixed ha hb
  · have hallFixed : ¬∀ t ∈ items ++ post, t.Fixed referred :=
      fun hall => hfixed (List.forall_mem_append.mp hall).1
    match items with
    | [x] =>
      have hx := h x (List.mem_singleton_self x)
      rcases hpost with rfl | ⟨l, rfl, hl⟩
      · exact PlansNarrow.refl hx .middle trivial a b ha hb
      · rw [List.singleton_append, plan_middle_cons hall hallItems hallFixed] at ha
        obtain ⟨first, hfirst, ha⟩ := bind_eq_ok.mp ha
        obtain ⟨rest, hrest, ha⟩ := bind_eq_ok.mp ha
        cases ha
        change x.plan referred .middle true = .ok b at hb
        rw [plan_middle_item hx (hitems x (List.mem_singleton_self x))
          fun hx => hfixed (List.forall_mem_singleton.mpr hx)] at hb
        refine .drop_last (PlansNarrow.refl hx .alone trivial _ _ hfirst hb) ?_
        have hlook := isAnchor_look hl
        rw [plan_middle_fixed hlook.isItem (List.cons_ne_nil _ _) hlook.fixed] at hrest
        exact narrows_planPart isAnchor_nil hlook (List.forall_mem_nil _) hrest rfl
    | x :: y :: items =>
      simp only [List.cons_append] at ha hall hallItems hallFixed
      rw [plan_middle_cons h hitems hfixed] at hb
      rw [plan_middle_cons hall hallItems hallFixed] at ha
      obtain ⟨first, hfirst, ha⟩ := bind_eq_ok.mp ha
      obtain ⟨rest, hrest, ha⟩ := bind_eq_ok.mp ha
      cases ha
      obtain ⟨first', hfirst', hb⟩ := bind_eq_ok.mp hb
      obtain ⟨rest', hrest', hb⟩ := bind_eq_ok.mp hb
      cases hb
      obtain ⟨hx, hrestSound⟩ := List.forall_mem_cons.mp h
      refine .seq (PlansNarrow.refl hx .alone trivial _ _ hfirst hfirst') ?_
      exact narrows_middle hpost hrestSound (List.forall_mem_cons.mp hitems).2
        (List.cons_ne_nil y items) _ _ hrest hrest'

/-! ### A sequence from its front on -/

/-- An item that cannot wait is matched after what waits. -/
theorem plan_front_of_not {waiting : List Tree}
    (h : ∀ x, t.items.head? = some x → x.isFront referred = false) :
    t.plan referred (.front waiting) true = (planPart waiting).bind fun before =>
      (t.plan referred .middle true).bind fun rest => .ok (.seq before rest) := by
  cases t with
  | concat a b =>
    exact (plan_front_concat referred a b true waiting).trans (if_neg (by simp [h a rfl]))
  | look direction negated t =>
    have hnot : ¬(look direction negated t).isFront referred = true := by simp [h _ rfl]
    cases direction <;> exact (planAt_front ..).trans (if_neg hnot)
  | alternate a b =>
    have hnot : ¬(alternate a b).isFront referred = true := by simp [h _ rfl]
    exact (planAt_front referred (alternate a b) true waiting fun later => do
      return .choice (← a.plan referred .alone later) (← b.plan referred .branch later)).trans
        (if_neg hnot)
  | _ => exact (planAt_front ..).trans (if_neg (by simp [h _ rfl]))

/-- Items that wait are matched as one in front of one that cannot. -/
theorem plan_front_append {ts waiting : List Tree} {x : Tree}
    (h : ∀ t ∈ ts, t.isFront referred = true) (hitem : x.IsItem)
    (hx : x.isFront referred = false) :
    (ofItems (ts ++ [x])).plan referred (.front waiting) true =
      (planPart (waiting ++ ts)).bind fun before =>
        (x.plan referred .middle true).bind fun rest => .ok (.seq before rest) := by
  induction ts generalizing waiting with
  | nil =>
    rw [List.append_nil]
    refine plan_front_of_not (t := x) fun y hy => ?_
    rw [show x.items = [x] from hitem] at hy
    obtain rfl := Option.some.inj hy
    exact hx
  | cons t ts ih =>
    obtain ⟨ht, hts⟩ := List.forall_mem_cons.mp h
    obtain ⟨y, ys, hys⟩ : ∃ y ys, ts ++ [x] = y :: ys :=
      List.exists_cons_of_ne_nil (by simp)
    have hrest := @ih (waiting ++ [t]) hts
    rw [hys] at hrest
    rw [List.cons_append, hys]
    change (concat t (ofItems (y :: ys))).plan referred (.front waiting) true = _
    rw [plan_front_concat, if_pos ht, hrest, List.append_assoc, List.singleton_append]

/-- **A sequence** with an assertion in front of what waits, and one behind, leads nowhere else than
without. -/
theorem narrows_front {items waiting : List Tree} (hpre : IsAnchor pre) (hpost : IsAnchor post)
    (h : ∀ t ∈ items, t.Sound referred) (hitems : ∀ t ∈ items, t.IsItem) (hne : items ≠ [])
    (hwaiting : ∀ t ∈ waiting, t.Fixed referred) :
    PlansNarrow referred (.front (pre ++ waiting)) (ofItems (items ++ post)) (ofItems items)
      (.front waiting) := by
  -- along the items: each one either waits or is where the middle begins
  induction items generalizing waiting with
  | nil => exact absurd rfl hne
  | cons x items ih =>
    intro a b ha hb
    obtain ⟨hx, hrest⟩ := List.forall_mem_cons.mp h
    obtain ⟨hitem, hrestItems⟩ := List.forall_mem_cons.mp hitems
    by_cases hfixed : x.Fixed referred
    · have hfront := (isFront_iff hx).mpr hfixed
      cases items with
      | nil =>
        have hall :=
          List.forall_mem_append.mpr ⟨List.forall_mem_singleton.mpr hfixed, hpost.fixed⟩
        have hallItems := List.forall_mem_append.mpr ⟨hitems, hpost.isItem⟩
        rw [plan_front_of_fixed (fixed_ofItems hall), items_ofItems hallItems (by simp),
          List.append_assoc, ← List.append_assoc waiting] at ha
        change x.plan referred (.front waiting) true = .ok b at hb
        rw [plan_front_of_fixed hfixed, show x.items = [x] from hitem] at hb
        have hwaiting := List.forall_mem_append.mpr ⟨hwaiting, List.forall_mem_singleton.mpr hfixed⟩
        exact narrows_planPart hpre hpost hwaiting ha hb
      | cons y items =>
        change (concat x (ofItems (y :: items ++ post))).plan referred (.front (pre ++ waiting))
          true = .ok a at ha
        change (concat x (ofItems (y :: items))).plan referred (.front waiting) true = .ok b at hb
        rw [plan_front_concat, if_pos hfront] at ha hb
        rw [List.append_assoc] at ha
        have hwaiting := List.forall_mem_append.mpr ⟨hwaiting, List.forall_mem_singleton.mpr hfixed⟩
        exact ih hrest hrestItems (List.cons_ne_nil y items) hwaiting a b ha hb
    · have hfront : x.isFront referred = false :=
        Bool.eq_false_iff.mpr fun hfront => hfixed ((isFront_iff hx).mp hfront)
      have hhead {ts : List Tree} (hts : ∀ t ∈ x :: ts, t.IsItem) (t : Tree)
          (ht : (ofItems (x :: ts)).items.head? = some t) : t.isFront referred = false := by
        rw [items_ofItems hts (List.cons_ne_nil x ts)] at ht
        obtain rfl := Option.some.inj ht
        exact hfront
      rw [plan_front_of_not (hhead hitems)] at hb
      have hallItems : ∀ t ∈ x :: (items ++ post), t.IsItem :=
        List.forall_mem_append.mpr ⟨hitems, hpost.isItem⟩
      rw [List.cons_append, plan_front_of_not (hhead hallItems)] at ha
      obtain ⟨before, hbefore, ha⟩ := bind_eq_ok.mp ha
      obtain ⟨rest, hrest, ha⟩ := bind_eq_ok.mp ha
      cases ha
      obtain ⟨before', hbefore', hb⟩ := bind_eq_ok.mp hb
      obtain ⟨rest', hrest', hb⟩ := bind_eq_ok.mp hb
      cases hb
      refine .seq ?_ (narrows_middle hpost h hitems hne _ _ hrest hrest')
      exact narrows_planPart hpre isAnchor_nil hwaiting (by rwa [List.append_nil]) hbefore'

/-! ### Whole patterns -/

/-- Behind an assertion, and before any more items, a sequence is planned from its front on. -/
theorem plan_alone_front (hpre : IsAnchor pre) (hne : ts ≠ []) (hlength : 1 < (pre ++ ts).length) :
    (ofItems (pre ++ ts)).plan referred .alone true =
      (ofItems ts).plan referred (.front pre) true := by
  obtain ⟨x, ts, rfl⟩ := List.exists_cons_of_ne_nil hne
  rcases hpre with rfl | ⟨l, rfl, hl⟩
  · obtain ⟨y, ts, rfl⟩ : ∃ y ts', ts = y :: ts' :=
      List.exists_cons_of_ne_nil (by rintro rfl; simp at hlength)
    rfl
  · have hfront : (assertion l).isFront referred = true :=
      (isFront_iff (fixed_assertion hl).easy.1).mpr (fixed_assertion hl)
    exact plan_concat_of_front hfront _

/-- Assertions alone lead nowhere else than nothing. -/
theorem narrows_anchors (hpre : IsAnchor pre) (hpost : IsAnchor post)
    (ha : (ofItems (pre ++ post)).plan referred .alone true = .ok a) :
    a.Narrows referred .nothing := by
  have hone {ts : List Tree} (h : IsAnchor ts) {a : Plan Part}
      (ha : (ofItems ts).plan referred .alone true = .ok a) : a.Narrows referred .nothing := by
    rcases h with rfl | ⟨l, rfl, hl⟩
    · cases ha
      exact .refl trivial
    · cases ha
      intro subject st st' hst w hw
      have hw : w ∈ if l.holds (if st.place = 0 then none else subject.text[st.place - 1]?)
          subject.text[st.place]? = true then [st] else [] := hw
      by_cases hholds : l.holds (if st.place = 0 then none else subject.text[st.place - 1]?)
          subject.text[st.place]? = true
      · rw [if_pos hholds] at hw
        obtain rfl := List.mem_singleton.mp hw
        exact ⟨st', List.mem_singleton_self st', hst⟩
      · rw [if_neg hholds] at hw
        cases hw
  rcases hpre with rfl | ⟨l, rfl, hl⟩
  · exact hone hpost ha
  · rcases hpost with rfl | ⟨m, rfl, hm⟩
    · exact hone (isAnchor_look hl) ha
    · have hlast := isAnchor_look hm
      have hne : [assertion m] ≠ [] := List.cons_ne_nil _ _
      rw [plan_alone_front (isAnchor_look hl) hne (by simp),
        plan_front_of_fixed (fixed_ofItems hlast.fixed), items_ofItems hlast.isItem hne] at ha
      have hnothing : planPart [] = .ok .nothing := rfl
      exact narrows_planPart (isAnchor_look hl) hlast (List.forall_mem_nil _) ha hnothing

/-- **A sequence with assertions around** leads nowhere else than without. -/
theorem narrows_alone {items : List Tree} (hpre : IsAnchor pre) (hpost : IsAnchor post)
    (h : ∀ t ∈ items, t.Sound referred) (hitems : ∀ t ∈ items, t.IsItem) :
    PlansNarrow referred .alone (ofItems (pre ++ (items ++ post))) (ofItems items) .alone := by
  intro a b ha hb
  match items with
  | [] =>
    cases hb
    exact narrows_anchors hpre hpost ha
  | [x] =>
    change x.plan referred .alone true = .ok b at hb
    have hx := h x (List.mem_singleton_self x)
    by_cases hnone : (pre ++ ([x] ++ post)).length = 1
    · simp only [List.length_append, List.length_singleton] at hnone
      obtain rfl : pre = [] := List.length_eq_zero_iff.mp (by omega)
      obtain rfl : post = [] := List.length_eq_zero_iff.mp (by omega)
      exact PlansNarrow.refl hx .alone trivial a b ha hb
    · have hlength : 1 < (pre ++ ([x] ++ post)).length := by
        simp only [List.length_append, List.length_singleton] at hnone ⊢
        omega
      have hall : ∀ t ∈ [x] ++ post, t.IsItem := List.forall_mem_append.mpr ⟨hitems, hpost.isItem⟩
      rw [plan_alone_front hpre (by simp) hlength] at ha
      by_cases hfixed : x.Fixed referred
      · have hone : ∀ t ∈ [x], t.Fixed referred := List.forall_mem_singleton.mpr hfixed
        rw [plan_front_of_fixed
            (fixed_ofItems (List.forall_mem_append.mpr ⟨hone, hpost.fixed⟩)),
          items_ofItems hall (by simp)] at ha
        exact narrows_of_serves hpre hpost hone (by simp) ha fun r hr => serves_plan hfixed hb hr
      · have hfront : x.isFront referred = false :=
          Bool.eq_false_iff.mpr fun hfront => hfixed ((isFront_iff hx).mp hfront)
        rw [plan_front_of_not (by
          rw [items_ofItems hall (by simp)]
          rintro y ⟨⟩
          exact hfront)] at ha
        obtain ⟨before, hbefore, ha⟩ := bind_eq_ok.mp ha
        obtain ⟨rest, hrest, ha⟩ := bind_eq_ok.mp ha
        cases ha
        rw [← plan_middle_item hx (hitems x (List.mem_singleton_self x)) hfixed] at hb
        refine .drop_first ?_ (narrows_middle hpost h hitems (List.cons_ne_nil x []) _ _ hrest hb)
        have hnothing : planPart [] = .ok .nothing := rfl
        exact narrows_planPart hpre isAnchor_nil (List.forall_mem_nil _)
          (by simpa using hbefore) hnothing
  | x :: y :: items =>
    have hne : x :: y :: items ≠ [] := List.cons_ne_nil x (y :: items)
    have hfront := narrows_front hpre hpost h hitems hne
      (List.forall_mem_nil (Fixed referred))
    rw [List.append_nil] at hfront
    rw [plan_alone_front hpre (by simp) (by simp; omega)] at ha
    exact hfront a b ha hb

/-- Whether a sequence is another one with assertions around it. -/
def Around (referred : List Nat) (t t' : Tree) : Prop :=
  ∃ pre items post, IsAnchor pre ∧ IsAnchor post ∧ (∀ x ∈ items, x.IsItem ∧ x.Sound referred) ∧
    t = ofItems (pre ++ (items ++ post)) ∧ t' = ofItems items

theorem plan_alone_alternate {t : Tree} (u : Tree) :
    (alternate t u).plan referred .alone true =
      (t.plan referred .alone true).bind fun a =>
        (u.plan referred .alone true).bind fun b => .ok (.choice a b) := by
  rw [← plan_branch referred u]
  rfl

/-- **A pattern with assertions around** its branches leads nowhere else than without. -/
theorem narrows_branches {ts ts' : List Tree} (h : List.Forall₂ (Around referred) ts ts') :
    PlansNarrow referred .alone (ofBranches ts) (ofBranches ts') .alone := by
  induction h with
  | nil =>
    rintro a b ⟨⟩ ⟨⟩
    exact .refl trivial
  | cons h hrest ih =>
    obtain ⟨pre, items, post, hpre, hpost, hitems, rfl, rfl⟩ := h
    have hfirst := narrows_alone hpre hpost (fun x hx => (hitems x hx).2) fun x hx =>
      (hitems x hx).1
    cases hrest with
    | nil => exact hfirst
    | cons =>
      intro a b ha hb
      rw [ofBranches, plan_alone_alternate] at ha hb
      · obtain ⟨x, hx, ha⟩ := bind_eq_ok.mp ha
        obtain ⟨y, hy, ha⟩ := bind_eq_ok.mp ha
        cases ha
        obtain ⟨x', hx', hb⟩ := bind_eq_ok.mp hb
        obtain ⟨y', hy', hb⟩ := bind_eq_ok.mp hb
        cases hb
        exact .choice (hfirst _ _ hx hx') (ih _ _ hy hy')
      all_goals exact List.cons_ne_nil _ _

theorem Around.spans {t t' : Tree} (h : Around referred t t') {flags : Regular.Flags} {r : Regex}
    (hr : t.regex? flags = some r) : ∃ r', t'.regex? flags = some r' ∧
      ∀ text i j, r.Spans text i j → r'.Spans text i j := by
  obtain ⟨pre, items, post, hpre, hpost, -, rfl, rfl⟩ := h
  obtain ⟨rs, hrs, rfl⟩ := regex_ofItems.mp hr
  obtain ⟨rpre, rrest, hrpre, hrrest, rfl⟩ := stand_append hrs
  obtain ⟨rts, rpost, hrts, hrpost, rfl⟩ := stand_append hrrest
  refine ⟨_, regex_ofItems.mpr ⟨rts, hrts, rfl⟩, fun text i j hs => ?_⟩
  rw [Regex.spans_sequence_append] at hs
  obtain ⟨k, hik, hs⟩ := hs
  rw [Regex.spans_sequence_append] at hs
  obtain ⟨l, hkl, hlj⟩ := hs
  obtain rfl := hpre.spans hrpre hik
  obtain rfl := hpost.spans hrpost hlj
  exact hkl

/-- An easy pattern with assertions around its branches matches nowhere else than without. -/
theorem spans_branches {ts ts' : List Tree} (h : List.Forall₂ (Around referred) ts ts')
    {flags : Regular.Flags} {r : Regex} (hr : (ofBranches ts).regex? flags = some r) :
    ∃ r', (ofBranches ts').regex? flags = some r' ∧
      ∀ text i j, r.Spans text i j → r'.Spans text i j := by
  induction h generalizing r with
  | nil => exact ⟨r, hr, fun _ _ _ hs => hs⟩
  | cons h hrest ih =>
    cases hrest with
    | nil => exact h.spans hr
    | cons =>
      obtain ⟨ra, rb, hra, hrb, rfl⟩ := regex_alternate.mp hr
      obtain ⟨ra', hra', hspans⟩ := h.spans hra
      obtain ⟨rb', hrb', hspans'⟩ := ih hrb
      exact ⟨.alternate ra' rb', regex_alternate.mpr ⟨_, _, hra', hrb', rfl⟩,
        fun text i j hs => hs.imp (hspans text i j) (hspans' text i j)⟩

end Anchors

end Tree

end Verbal.Extended
