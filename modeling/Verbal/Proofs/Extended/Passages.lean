import Verbal.Proofs.Extended.Covering
import Verbal.Proofs.Extended.Forward
import Verbal.Proofs.Factors
import Verbal.Proofs.Regular.Loops

/-!
# What plans read

Wherever a plan without references stands, its ways lead over the same passages, whatever was marked
before. A part leads over one passage only, so that the passages of a plan need not be those of what
was cut into it: a loop that is matched as one reads as many rounds as there are.

* `Plan.Reads`: a plan leads over exactly the given passages.
* `Plan.Reads.seq`, `Plan.Reads.fromOn`, `Plan.Reads.ahead`: plans one after the other, rounds of a
  plan, and looking for one ahead.
* **`Plan.reads_atomic`**: a repetition of a word that is matched as one leaves nothing
  that begins with the word.
-/

namespace Verbal.Extended

open Verbal.Regular (Regex Trail)
open Computability

/-! ## Ways over passages -/

/-- Whether ways, wherever they begin in a text, lead over exactly the given passages. -/
def LeadsOver (subject : Subject) (ways : State → List State) (passages : Passages) : Prop :=
  ∀ st u v, subject.text.toList = u ++ v → st.place = u.length → ∀ p,
    (∃ x ∈ ways st, x.place = p) ↔ ∃ w y, v = w ++ y ∧ p = u.length + w.length ∧ passages w y

section Ways

variable {subject : Subject} {ways ways' : State → List State} {passages passages' : Passages}
  {l : Language Char}

theorem leadsOver_nothing (subject : Subject) :
    LeadsOver subject (fun st => [st]) (.ofLanguage 1) := by
  intro st u v htext hplace p
  constructor
  · rintro ⟨x, hx, rfl⟩
    obtain rfl : x = st := List.mem_singleton.mp hx
    exact ⟨[], v, rfl, hplace, rfl⟩
  · rintro ⟨_, y, rfl, rfl, rfl⟩
    exact ⟨st, List.mem_singleton_self st, hplace⟩

theorem LeadsOver.andThen (h : LeadsOver subject ways passages)
    (h' : LeadsOver subject ways' passages') :
    LeadsOver subject (fun st => (ways st).flatMap ways') (passages.andThen passages') := by
  intro st u v htext hplace p
  constructor
  · rintro ⟨x, hx, rfl⟩
    obtain ⟨z, hz, hx⟩ := List.mem_flatMap.mp hx
    obtain ⟨w, y, rfl, hzplace, hw⟩ := (h st u v htext hplace z.place).mp ⟨z, hz, rfl⟩
    rw [← List.append_assoc] at htext
    obtain ⟨w', y, rfl, hxplace, hw'⟩ := (h' z (u ++ w) y htext (by simpa using hzplace)
      x.place).mp ⟨x, hx, rfl⟩
    exact ⟨w ++ w', y, (List.append_assoc w w' y).symm, by simp [hxplace, Nat.add_assoc], w, w',
      rfl, hw, hw'⟩
  · rintro ⟨_, y, rfl, rfl, w, w', rfl, hw, hw'⟩
    obtain ⟨z, hz, hzplace⟩ := (h st u _ htext hplace _).mpr
      ⟨w, w' ++ y, List.append_assoc w w' y, rfl, hw⟩
    obtain ⟨x, hx, hxplace⟩ := (h' z (u ++ w) (w' ++ y) (by simp [htext]) (by simpa using hzplace)
      _).mpr ⟨w', y, rfl, rfl, hw'⟩
    exact ⟨x, List.mem_flatMap.mpr ⟨z, hz, hx⟩, by simp [hxplace, Nat.add_assoc]⟩

theorem LeadsOver.times (h : LeadsOver subject ways (.ofLanguage l)) (n : Nat) :
    LeadsOver subject (waysTimes ways n) (.ofLanguage (l ^ n)) := by
  induction n with
  | zero => exact leadsOver_nothing subject
  | succ n ih =>
    rw [pow_succ', ← Passages.andThen_ofLanguage]
    exact h.andThen ih

/-- Any number of rounds, each of which reads something. There are no more of them than
characters. -/
theorem LeadsOver.star (h : LeadsOver subject ways (.ofLanguage l)) (hl : [] ∉ l) (greedy : Bool) :
    LeadsOver subject (fun st => waysStar greedy ways (subject.text.size + 1 - st.place) st)
      (.ofLanguage l∗) := by
  have hunfold (w : List Char) : w ∈ l∗ ↔ w = [] ∨ ∃ x ∈ l, ∃ y ∈ l∗, x ++ y = w := by
    conv_lhs => rw [← Language.one_add_self_mul_kstar_eq_kstar]
    exact Iff.rfl
  have hall (fuel : Nat) : ∀ (st : State) (u v : List Char), subject.text.toList = u ++ v →
      st.place = u.length → v.length < fuel → ∀ p,
        (∃ x ∈ waysStar greedy ways fuel st, x.place = p) ↔
          ∃ w y, v = w ++ y ∧ p = u.length + w.length ∧ w ∈ l∗ := by
    induction fuel with
    | zero => exact fun _ _ _ _ _ hfuel => absurd hfuel (Nat.not_lt_zero _)
    | succ fuel ih =>
      intro st u v htext hplace hfuel p
      simp only [waysStar, mem_waysBoth]
      constructor
      · rintro ⟨x, hx | hx, rfl⟩
        · obtain ⟨z, hz, hx⟩ := List.mem_flatMap.mp hx
          obtain ⟨w, y, rfl, hzplace, hw⟩ := (h st u v htext hplace z.place).mp ⟨z, hz, rfl⟩
          split at hx
          · cases hx
          · have hfuel' : y.length < fuel := by
              simp only [List.length_append] at hfuel
              omega
            obtain ⟨w', y, rfl, hxplace, hw'⟩ := (ih z (u ++ w) y (by simp [htext])
              (by simpa using hzplace) hfuel' x.place).mp ⟨x, hx, rfl⟩
            exact ⟨w ++ w', y, (List.append_assoc w w' y).symm,
              by simp [hxplace, Nat.add_assoc], (hunfold _).mpr (Or.inr ⟨w, hw, w', hw', rfl⟩)⟩
        · obtain rfl : x = st := List.mem_singleton.mp hx
          exact ⟨[], v, rfl, hplace, Language.nil_mem_kstar l⟩
      · rintro ⟨_, y, rfl, rfl, hw⟩
        rcases (hunfold _).mp hw with rfl | ⟨w, hfirst, w', hw', rfl⟩
        · exact ⟨st, Or.inr (List.mem_singleton_self st), hplace⟩
        · have hne : w ≠ [] := fun hnil => hl (hnil ▸ hfirst)
          have hlength := List.length_pos_iff.mpr hne
          obtain ⟨z, hz, hzplace⟩ := (h st u _ htext hplace _).mpr
            ⟨w, w' ++ y, List.append_assoc w w' y, rfl, hfirst⟩
          have hfuel' : (w' ++ y).length < fuel := by
            simp only [List.length_append] at hfuel ⊢
            omega
          obtain ⟨x, hx, hxplace⟩ := (ih z (u ++ w) (w' ++ y) (by simp [htext])
            (by simpa using hzplace) hfuel' _).mpr ⟨w', y, rfl, rfl, hw'⟩
          refine ⟨x, Or.inl (List.mem_flatMap.mpr ⟨z, hz, ?_⟩), by simp [hxplace, Nat.add_assoc]⟩
          rwa [if_neg (by omega)]
  intro st u v htext hplace
  refine hall _ st u v htext hplace ?_
  have hsize := congrArg List.length htext
  simp only [Array.length_toList, List.length_append] at hsize
  omega

end Ways

/-! ## Marks -/

/-- Whether two states have the same marks. -/
def State.SameMarks (st st' : State) : Prop := st'.marks = st.marks

theorem State.SameMarks.refl (st : State) : st.SameMarks st := rfl

theorem State.SameMarks.trans {st st' st'' : State} (h : st.SameMarks st')
    (h' : st'.SameMarks st'') : st.SameMarks st'' := Eq.trans h' h

/-- A part without groups marks nothing. -/
theorem leads_part (part : Part) (subject : Subject) :
    Leads State.SameMarks ((Plan.part part []).waysOn subject) := by
  intro st st' hst'
  rw [waysOn_part] at hst'
  split at hst'
  · obtain rfl := List.mem_singleton.mp hst'
    exact rfl
  · cases hst'

/-- Neither do rounds of it. -/
theorem leads_fromOn (part : Part) (least : Nat) (subject : Subject) :
    Leads State.SameMarks
      ((Plan.seq (.times least (.part part [])) (.star true (.part part []))).waysOn subject) := by
  have htimes := (leads_part part subject).times State.SameMarks.refl .trans least
  have hstar : Leads State.SameMarks ((Plan.star true (.part part [])).waysOn subject) :=
    fun st => (leads_part part subject).star State.SameMarks.refl .trans true _ st
  exact htimes.andThen .trans hstar

/-- Looking ahead marks what is marked in what is looked for. -/
theorem leads_ahead {plan : Plan Part} {subject : Subject}
    (h : Leads State.SameMarks (plan.waysOn subject)) (negated : Bool) :
    Leads State.SameMarks ((Plan.around 0 negated plan).waysOn subject) := by
  intro st x hx
  cases negated with
  | false =>
    obtain ⟨y, hy, rfl⟩ := List.mem_map.mp hx
    exact h st y hy
  | true =>
    have hways : (Plan.around 0 true plan).waysOn subject st =
        if (plan.waysOn subject st).isEmpty then [st] else [] := rfl
    rw [hways] at hx
    split at hx
    · obtain rfl := List.mem_singleton.mp hx
      exact rfl
    · cases hx

/-! ## Plans -/

namespace Plan

/-- Whether a plan, wherever it stands, leads over exactly the given passages. -/
def Reads (plan : Plan Part) (passages : Passages) : Prop :=
  ∀ subject, LeadsOver subject (plan.waysOn subject) passages

variable {plan a b : Plan Part} {passages passages' : Passages} {l : Language Char}

theorem Reads.congr (h : plan.Reads passages) (heq : ∀ w v, passages w v ↔ passages' w v) :
    plan.Reads passages' := by
  obtain rfl : passages = passages' := funext fun w => funext fun v => propext (heq w v)
  exact h

theorem Reads.seq (ha : a.Reads passages) (hb : b.Reads passages') :
    (Plan.seq a b).Reads (passages.andThen passages') :=
  fun subject => (ha subject).andThen (hb subject)

/-- Rounds of what reads something, from a number of them on. -/
theorem Reads.fromOn (h : plan.Reads (.ofLanguage l)) (hl : [] ∉ l) (least : Nat) (greedy : Bool) :
    (Plan.seq (.times least plan) (.star greedy plan)).Reads (.ofLanguage (l ^ least * l∗)) := by
  rw [← Passages.andThen_ofLanguage]
  exact fun subject => ((h subject).times least).andThen ((h subject).star hl greedy)

/-- Looking ahead reads nothing, where what is looked for can be read, or where it cannot. -/
theorem Reads.ahead (h : plan.Reads passages) (negated : Bool) :
    (Plan.around 0 negated plan).Reads fun w v =>
      w = [] ∧ ((∃ x y, v = x ++ y ∧ passages x y) ↔ negated = false) := by
  intro subject st u v htext hplace p
  have hinner : (∃ x y, v = x ++ y ∧ passages x y) ↔ ∃ z, z ∈ plan.waysOn subject st := by
    constructor
    · rintro ⟨x, y, rfl, hxy⟩
      obtain ⟨z, hz, -⟩ := (h subject st u _ htext hplace _).mpr ⟨x, y, rfl, rfl, hxy⟩
      exact ⟨z, hz⟩
    · rintro ⟨z, hz⟩
      obtain ⟨x, y, hv, -, hxy⟩ := (h subject st u v htext hplace z.place).mp ⟨z, hz, rfl⟩
      exact ⟨x, y, hv, hxy⟩
  have hways : (∃ x ∈ (Plan.around 0 negated plan).waysOn subject st, x.place = p) ↔
      p = st.place ∧ ((∃ z, z ∈ plan.waysOn subject st) ↔ negated = false) := by
    cases negated with
    | false =>
      have heq : (Plan.around 0 false plan).waysOn subject st =
          (plan.waysOn subject st).map fun z => { z with place := st.place } := rfl
      simp only [heq, List.mem_map, iff_true]
      constructor
      · rintro ⟨_, ⟨z, hz, rfl⟩, rfl⟩
        exact ⟨rfl, z, hz⟩
      · rintro ⟨rfl, z, hz⟩
        exact ⟨_, ⟨z, hz, rfl⟩, rfl⟩
    | true =>
      have heq : (Plan.around 0 true plan).waysOn subject st =
          if (plan.waysOn subject st).isEmpty then [st] else [] := rfl
      rw [heq]
      cases plan.waysOn subject st <;> simp [eq_comm]
  rw [hways, ← hinner, hplace]
  constructor
  · rintro ⟨rfl, hiff⟩
    exact ⟨[], v, rfl, rfl, rfl, hiff⟩
  · rintro ⟨_, y, rfl, rfl, rfl, hiff⟩
    exact ⟨rfl, hiff⟩

/-! ### Parts -/

/-- What is of constant size and matched as one reads what its expression reads. -/
theorem reads_planPart {referred : List Nat} {ts : List Tree} {r : Regex}
    (h : ∀ t ∈ ts, t.Fixed referred) (hplan : planPart ts = .ok plan)
    (hr : (Tree.ofItems ts).regex? (.initial false) = some r) (hl : r.Reads l) :
    plan.Reads (.ofLanguage l) := by
  intro subject st u v htext hplace p
  have hspans : r.Spans subject.text.toList st.place p ↔
      ∃ w y, v = w ++ y ∧ p = u.length + w.length ∧ w ∈ l := by
    rw [htext, hplace]
    exact hl.spans_append
  refine Iff.trans ⟨?_, fun hs => ?_⟩ hspans
  · rintro ⟨x, hx, rfl⟩
    by_cases hne : ts = []
    · subst hne
      cases hplan
      cases hr
      exact congrArg State.place (List.mem_singleton.mp hx).symm
    · obtain ⟨r', hr', rfl⟩ :=
        regex_of_planPart (fun t ht => (h t ht).easy.1.2) hne hplan
      obtain rfl : r' = r := Option.some.inj (hr'.symm.trans hr)
      exact (spans_of_way hx).2.1
  · have hle : st.place ≤ subject.text.size := by
      have hsize := congrArg List.length htext
      simp only [Array.length_toList, List.length_append] at hsize
      omega
    obtain ⟨x, hx, hxplace, -⟩ := Tree.serves_planPart h hplan hr subject st p hle hs
    exact ⟨x, hx, hxplace⟩

section Loops

variable {word : List Char} (hword : word ≠ []) (q : Sign)
include hword

/-- A repetition of a word is found over a passage that leaves nothing that begins with the word. -/
theorem exists_passage_of_found {u v : List Char} {t : Trail}
    (ht : ((((q.regex (.ofText false word)).unroll none).found (u ++ v))[u.length]?.join) =
      some t) :
    ∃ w y, v = w ++ y ∧ t.stop = u.length + w.length ∧
      w ∈ q.language (spelled false word) ∧ ¬word <+: y := by
  have hreads := Regex.reads_ofText false word
  obtain ⟨w, y, rfl, hstop, hw⟩ :=
    (q.reads_regex hreads).spans_append.mp (Regular.spans_of_found ht)
  refine ⟨w, y, rfl, hstop, hw, ?_⟩
  rintro ⟨z, rfl⟩
  refine Regular.not_spans_of_found (j := t.stop + word.length) hword q.least_le_one ht ?_
  have hagain := (hreads (u ++ w) word z).mpr (Regex.mem_spelled.mpr rfl)
  rwa [hstop, ← List.length_append, ← List.append_assoc, ← List.append_assoc]

/-- **A repetition of a word that is matched as one** leaves nothing that begins with the word. -/
theorem reads_atomic (groups : List Nat) :
    (Plan.atomic (.part ((q.regex (.ofText false word)).unroll none) groups)).Reads
      fun w v => w ∈ q.language (spelled false word) ∧ ¬word <+: v := by
  intro subject st u v htext hplace p
  have hways : (Plan.atomic (.part ((q.regex (.ofText false word)).unroll none) groups)).waysOn
      subject st = ((Plan.part ((q.regex (.ofText false word)).unroll none) groups).waysOn
        subject st).head?.toList := rfl
  rw [hways, waysOn_part, htext, hplace]
  constructor
  · rintro ⟨x, hx, rfl⟩
    split at hx
    · rename_i t ht
      obtain rfl := List.mem_singleton.mp hx
      exact exists_passage_of_found hword q ht
    · cases hx
  · rintro ⟨w, y, rfl, rfl, hw, hy⟩
    have hspans := ((q.reads_regex (Regex.reads_ofText false word)).spans_append (u := u)).mpr
      ⟨w, y, rfl, rfl, hw⟩
    have hsome := (Regular.found_isSome_iff _ _ _).mpr ⟨by simp, _, hspans⟩
    obtain ⟨t, ht⟩ := Option.isSome_iff_exists.mp hsome
    -- what is found is the passage, since there is only one
    obtain ⟨w', y', hv, hstop, hw', hy'⟩ := exists_passage_of_found hword q ht
    obtain rfl := rounds_unique (q.mem_kstar_of_mem hw) (q.mem_kstar_of_mem hw') hv hy hy'
    rw [ht]
    exact ⟨_, List.mem_singleton_self _, hstop⟩

end Loops

/-! ### Texts -/

section Texts

variable {text : List Char} {names : List (List Char × Nat)}

/-- A plan leads through a text if that is a passage with nothing left. -/
theorem Reads.covers_iff (h : plan.Reads passages) : plan.Covers text ↔ passages text [] := by
  refine (h ⟨text.toArray, 0, true⟩ ⟨0, []⟩ [] text rfl rfl text.length).trans ⟨?_, fun hp => ?_⟩
  · rintro ⟨w, y, rfl, hlength, hp⟩
    obtain rfl : y = [] := by simpa using hlength
    rwa [List.append_nil]
  · exact ⟨text, [], (List.append_nil text).symm, by simp, hp⟩

/-- What is found in a text is a passage in it. -/
theorem Reads.exists_of_isMatch (h : plan.Reads passages)
    (hmatch : (Program.mk (.hard plan) names).isMatch text = some true) :
    ∃ u w v, text = u ++ (w ++ v) ∧ passages w v := by
  obtain ⟨p, hp, x, hx⟩ := exists_way_of_isMatch hmatch
  obtain ⟨w, v, hdrop, -, hw⟩ := (h ⟨text.toArray, 0, true⟩ ⟨p, []⟩ (text.take p) (text.drop p)
    (List.take_append_drop p text).symm (by simpa using hp) x.place).mp ⟨x, hx, rfl⟩
  exact ⟨text.take p, w, v, by rw [← hdrop, List.take_append_drop], hw⟩

/-- If there is a passage in a text, something is found, unless there are too many ways to try. -/
theorem Reads.isMatch_ne_false (h : plan.Reads passages) {u w v : List Char}
    (hp : passages w v) :
    (Program.mk (.hard plan) names).isMatch (u ++ (w ++ v)) ≠ some false := by
  obtain ⟨x, hx, -⟩ := (h ⟨(u ++ (w ++ v)).toArray, 0, true⟩ ⟨u.length, []⟩ u (w ++ v) rfl rfl
    _).mpr ⟨w, v, rfl, rfl, hp⟩
  exact isMatch_ne_false_of_way hx (by simp)

end Texts

end Plan

end Verbal.Extended
