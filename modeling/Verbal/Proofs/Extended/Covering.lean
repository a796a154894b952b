import Verbal.Proofs.Extended.Alternation

/-!
# Texts that an extended pattern covers

Between assertions for the ends of the text, an extended pattern is found in what it covers and in
nothing else, unless there are too many ways to try. What covers a text with assertions around its
branches covers it without.

* `Plan.Covers`: a plan leads through a whole text.
* **`covers_of_isMatch`**, **`isMatch_ne_false`**: what is found, and what is not missed.
* **`Tree.covers_of_around`**: assertions around take texts away and add none.
-/

namespace Verbal.Extended

open Verbal.Regular (Ast Chain Look Regex IsAlphanumText)

/-! ## Plans that lead through a text -/

namespace Plan

/-- A plan between the assertions that make it lead through a whole text. -/
def anchored (plan : Plan Part) : Plan Part :=
  .seq (.part (.look .startText) []) (.seq plan (.part (.look .endText) []))

/-- Whether a plan leads through a whole text. -/
def Covers (plan : Plan Part) (text : List Char) : Prop :=
  ∃ w ∈ plan.waysOn ⟨text.toArray, 0, true⟩ ⟨0, []⟩, w.place = text.length

variable {referred : List Nat} {plan a b : Plan Part} {text : List Char}
  {names : List (List Char × Nat)}

/-- An assertion that is matched as a part leads nowhere, if it holds. -/
theorem mem_waysOn_look {l : Look} {subject : Subject} {st w : State} :
    w ∈ (Plan.part (.look l : Part) []).waysOn subject st ↔
      w = st ∧ st.place ≤ subject.text.size ∧ l.HoldsAt subject.text.toList st.place := by
  have hunroll : (.look l : Part) = (Regex.look l).unroll none := rfl
  rw [hunroll]
  constructor
  · intro h
    obtain ⟨hle, ⟨hplace, hholds⟩, trail, rfl⟩ := spans_of_way h
    refine ⟨?_, hle, hholds⟩
    change (⟨trail.stop, st.marks⟩ : State) = st
    rw [← show st.place = trail.stop from hplace]
  · rintro ⟨rfl, hle, hholds⟩
    have hsome := (Regular.found_isSome_iff (.look l) subject.text.toList w.place).mpr
      ⟨by simpa using hle, w.place, rfl, hholds⟩
    obtain ⟨trail, htrail⟩ := Option.isSome_iff_exists.mp hsome
    rw [waysOn_part, htrail]
    refine List.mem_singleton.mpr ?_
    change w = ⟨trail.stop, w.marks⟩
    rw [← show w.place = trail.stop from (Regular.spans_of_found htrail).1]

theorem mem_waysOn_anchored {w : State} {p : Nat} :
    w ∈ plan.anchored.waysOn ⟨text.toArray, 0, true⟩ ⟨p, []⟩ ↔
      p = 0 ∧ w ∈ plan.waysOn ⟨text.toArray, 0, true⟩ ⟨0, []⟩ ∧ w.place = text.length := by
  have hseq {a b : Plan Part} {subject : Subject} {st w : State} :
      w ∈ (Plan.seq a b).waysOn subject st ↔
        ∃ v ∈ a.waysOn subject st, w ∈ b.waysOn subject v := List.mem_flatMap
  unfold anchored
  simp only [hseq, mem_waysOn_look]
  constructor
  · rintro ⟨v, ⟨rfl, hle, hstart⟩, u, hu, rfl, hle', hend⟩
    obtain rfl := (Look.holdsAt_startText (by simpa using hle)).mp hstart
    exact ⟨rfl, hu, (Look.holdsAt_endText (by simpa using hle')).mp hend⟩
  · rintro ⟨rfl, hw, hplace⟩
    have hstart : Look.startText.HoldsAt text 0 := (Look.holdsAt_startText (Nat.zero_le _)).mpr rfl
    refine ⟨_, ⟨rfl, Nat.zero_le _, hstart⟩, w, hw, rfl, ?_, ?_⟩
    · simp [hplace]
    · exact (Look.holdsAt_endText (by simp [hplace])).mpr hplace

/-- What is found in a text is a way from one of its places. -/
theorem exists_way_of_isMatch (h : (Program.mk (.hard plan) names).isMatch text = some true) :
    ∃ p ≤ text.length, ∃ w, w ∈ plan.waysOn ⟨text.toArray, 0, true⟩ ⟨p, []⟩ := by
  unfold Program.isMatch at h
  dsimp only at h
  split at h
  · rename_i m hsearch
    obtain ⟨p, -, hsize, w, hw, -⟩ := exists_way_of_search hsearch
    exact ⟨p, by simpa using hsize, w, hw⟩
  · cases h
  · cases h

/-- Where there is a way from a place of a text, something is found in it, unless there are too many
ways to try. -/
theorem isMatch_ne_false_of_way {p : Nat} {w : State}
    (hw : w ∈ plan.waysOn ⟨text.toArray, 0, true⟩ ⟨p, []⟩) (hp : p ≤ text.length) :
    (Program.mk (.hard plan) names).isMatch text ≠ some false := by
  have hsearch : (Program.tabulated plan text).search ⟨text.toArray, 0, true⟩ ≠ .absent :=
    search_ne_absent hw (Nat.zero_le _) (by simpa using hp)
  unfold Program.isMatch
  dsimp only
  split
  · nofun
  · contradiction
  · nofun

/-- What has to cover a text and is found in it leads through it. -/
theorem covers_of_isMatch
    (h : (Program.mk (.hard plan.anchored) names).isMatch text = some true) : plan.Covers text := by
  obtain ⟨p, -, w, hw⟩ := exists_way_of_isMatch h
  obtain ⟨-, hw⟩ := mem_waysOn_anchored.mp hw
  exact ⟨w, hw⟩

/-- What leads through a text is found in it, unless there are too many ways to try. -/
theorem isMatch_ne_false (h : plan.Covers text) :
    (Program.mk (.hard plan.anchored) names).isMatch text ≠ some false := by
  obtain ⟨w, hw⟩ := h
  exact isMatch_ne_false_of_way (mem_waysOn_anchored.mpr ⟨rfl, hw⟩) (Nat.zero_le _)

theorem Covers.narrows (hnarrows : a.Narrows referred b) (h : a.Covers text) : b.Covers text := by
  obtain ⟨w, hw, hplace⟩ := h
  obtain ⟨w', hw', hww⟩ := hnarrows _ _ _ (.refl referred _) w hw
  exact ⟨w', hw', hww.place.trans hplace⟩

theorem Serves.covers {r : Regex} (h : plan.Serves referred r) (hr : r.Covers text) :
    plan.Covers text := by
  obtain ⟨w, hw, hplace, -⟩ := h ⟨text.toArray, 0, true⟩ ⟨0, []⟩ text.length (Nat.zero_le _)
    hr
  exact ⟨w, hw, hplace⟩

end Plan

/-! ## Trees that cover a text -/

namespace Tree

/-- Whether a tree covers a text, cut into a plan or matched as one. -/
def Covers (anyCase : Bool) (referred : List Nat) (t : Tree) (text : List Char) : Prop :=
  if t.hard referred then ∃ plan, t.plan referred .alone true = .ok plan ∧ plan.Covers text
  else ∃ r, t.regex? (.initial anyCase) = some r ∧ r.Covers text

variable {anyCase : Bool} {referred : List Nat} {t : Tree} {text : List Char}

theorem covers_iff_plan (h : t.hard referred = true) : t.Covers anyCase referred text ↔
    ∃ plan, t.plan referred .alone true = .ok plan ∧ plan.Covers text := by
  rw [Covers, if_pos h]

theorem covers_iff_regex (h : t.hard referred = false) : t.Covers anyCase referred text ↔
    ∃ r, t.regex? (.initial anyCase) = some r ∧ r.Covers text := by
  rw [Covers, if_neg (Bool.eq_false_iff.mp h)]

theorem lettered_anchored (h : t.Lettered) : t.anchored.Lettered := by
  by_cases hempty : t.enclosed = .empty
  · rw [anchored_of_empty t hempty]
    exact ⟨trivial, trivial, trivial⟩
  · rw [anchored_of_ne t hempty]
    refine ⟨trivial, trivial, trivial, ?_, trivial⟩
    cases t <;> first | exact h | exact ⟨trivial, h⟩

theorem any_hard_ofItems (ts : List Tree) :
    (ofItems ts).hard referred = ts.any (·.hard referred) := by
  match ts with
  | [] => rfl
  | [t] => exact (Bool.or_false _).symm
  | t :: t' :: ts => exact congrArg (t.hard referred || ·) (any_hard_ofItems (t' :: ts))

theorem any_hard_ofBranches (ts : List Tree) :
    (ofBranches ts).hard referred = ts.any (·.hard referred) := by
  match ts with
  | [] => rfl
  | [t] => exact (Bool.or_false _).symm
  | t :: t' :: ts => exact congrArg (t.hard referred || ·) (any_hard_ofBranches (t' :: ts))

/-- Assertions around a sequence make it no harder. -/
theorem Around.hard {t t' : Tree} (h : Around referred t t') :
    t.hard referred = t'.hard referred := by
  obtain ⟨pre, items, post, hpre, hpost, -, rfl, rfl⟩ := h
  have heasy {ts : List Tree} (h : IsAnchor ts) : ts.any (·.hard referred) = false := by
    rw [List.any_eq_false]
    exact fun t ht => Bool.eq_false_iff.mp (h.fixed t ht).easy.2
  simp only [any_hard_ofItems, List.any_append, heasy hpre, heasy hpost, Bool.false_or,
    Bool.or_false]

theorem hard_branches {ts ts' : List Tree} (h : List.Forall₂ (Around referred) ts ts') :
    (ofBranches ts).hard referred = (ofBranches ts').hard referred := by
  rw [any_hard_ofBranches, any_hard_ofBranches]
  induction h with
  | nil => rfl
  | cons h hrest ih => exact congrArg₂ (· || ·) h.hard ih

/-- **What covers a text with assertions around its branches** covers it without, if it can be
matched without. -/
theorem covers_of_around {ts ts' : List Tree} (h : List.Forall₂ (Around referred) ts ts')
    (hplan : (ofBranches ts').hard referred = true →
      ∃ plan, (ofBranches ts').plan referred .alone true = .ok plan)
    (hcovers : (ofBranches ts).Covers anyCase referred text) :
    (ofBranches ts').Covers anyCase referred text := by
  cases hhard : (ofBranches ts').hard referred with
  | true =>
    obtain ⟨a, ha, hcovers⟩ := (covers_iff_plan ((hard_branches h).trans hhard)).mp hcovers
    obtain ⟨b, hb⟩ := hplan hhard
    exact (covers_iff_plan hhard).mpr ⟨b, hb, hcovers.narrows (narrows_branches h a b ha hb)⟩
  | false =>
    obtain ⟨r, hr, hcovers⟩ := (covers_iff_regex ((hard_branches h).trans hhard)).mp hcovers
    obtain ⟨r', hr', hspans⟩ := spans_branches h hr
    exact (covers_iff_regex hhard).mpr ⟨r', hr', hspans _ _ _ hcovers⟩

/-- Between the assertions a tree stands for what matches the whole text or nothing. -/
theorem regex_anchored (text : List Char) {x : Regex}
    (h : t.anchored.regex? (.initial anyCase) = some x) :
    ∃ r, t.regex? (.initial anyCase) = some r ∧
      ((∃ i j, i ≤ text.length ∧ x.Spans text i j) ↔ r.Covers text) := by
  by_cases hempty : t.enclosed = .empty
  · have ht : t = .empty := by cases t <;> first | rfl | cases hempty
    subst ht
    cases h
    refine ⟨.empty, rfl, ?_⟩
    rw [← show _ ↔ Regex.empty.Covers text from Regular.spans_wrapped]
    exact exists_congr fun i => exists_congr fun j => and_congr_right fun _ =>
      exists_congr fun k => and_congr_right fun _ =>
        ⟨fun hs => ⟨k, rfl, hs⟩, fun ⟨_, hk, hs⟩ => hk ▸ hs⟩
  · have henclosed : t.enclosed.regex? (.initial anyCase) = t.regex? (.initial anyCase) := by
      cases t <;> rfl
    rw [anchored_of_ne t hempty] at h
    obtain ⟨_, rest, hstart, hrest, rfl⟩ := regex_concat.mp h
    obtain ⟨r, _, hr, hend, rfl⟩ := regex_concat.mp hrest
    cases hstart
    cases hend
    exact ⟨r, henclosed ▸ hr, Regular.spans_wrapped⟩

end Tree

section Programs

variable {anyCase : Bool} {form : List Char} {t : Tree} {referred : List Nat}
  {names : List (List Char × Nat)} {program : Program} {text : List Char}

/-- How a pattern is matched: cut into a plan, or as one. -/
theorem compile_read (hread : Source.read form = .ok ⟨t, referred, names⟩)
    (h : Program.compile anyCase form = .ok program) :
    (t.hard referred = true ∧ ∃ plan, t.plan referred .alone true = .ok plan ∧
      program = ⟨.hard plan, names⟩) ∨
    (t.hard referred = false ∧ ∃ a r flags, t.cook 0 .none = .ok a ∧
      a.regex (.initial anyCase) = .ok (r, flags) ∧ program = ⟨.easy (r.unroll none), names⟩) := by
  rw [compile_of_read hread] at h
  split at h
  · rename_i hhard
    obtain ⟨plan, hplan, rfl⟩ := map_eq_ok.mp h
    exact Or.inl ⟨hhard, plan, hplan, rfl⟩
  · rename_i heasy
    obtain ⟨a, ha, h⟩ := bind_eq_ok.mp h
    obtain ⟨part, hpart, rfl⟩ := map_eq_ok.mp h
    obtain ⟨-, r, flags, hr, -, rfl⟩ := partOf_eq_ok.mp hpart
    exact Or.inr ⟨Bool.eq_false_iff.mpr heasy, a, r, flags, ha, hr, rfl⟩

/-- How a pattern is matched between the assertions. -/
theorem compile_anchored (hform : Source.read form = .ok ⟨t.anchored, referred, names⟩)
    (h : Program.compile anyCase form = .ok program) :
    (t.hard referred = true ∧ ∃ plan, t.plan referred .alone true = .ok plan ∧
      program = ⟨.hard plan.anchored, names⟩) ∨
    (t.hard referred = false ∧ ∃ a x flags, t.anchored.cook 0 .none = .ok a ∧
      a.regex (.initial anyCase) = .ok (x, flags) ∧ program = ⟨.easy (x.unroll none), names⟩) := by
  have hcompile := compile_read hform h
  rw [Tree.hard_anchored] at hcompile
  refine hcompile.imp_left ?_
  rintro ⟨hhard, plan', hplan', rfl⟩
  rw [Tree.plan_anchored _ _ hhard] at hplan'
  obtain ⟨plan, hplan, rfl⟩ := map_eq_ok.mp hplan'
  exact ⟨hhard, plan, hplan, rfl⟩

/-- What is found between the assertions covers the text. -/
theorem covers_of_isMatch (hform : Source.read form = .ok ⟨t.anchored, referred, names⟩)
    (hlettered : t.Lettered) (h : Program.compile anyCase form = .ok program)
    (hmatch : program.isMatch text = some true) : t.Covers anyCase referred text := by
  rcases compile_anchored hform h with
    ⟨hhard, plan, hplan, rfl⟩ | ⟨heasy, a, x, flags, ha, hx, rfl⟩
  · exact (Tree.covers_iff_plan hhard).mpr ⟨plan, hplan, Plan.covers_of_isMatch hmatch⟩
  · have hgives := Tree.cook_regex (Tree.lettered_anchored hlettered) ha
    obtain ⟨r, hr, hiff⟩ := Tree.regex_anchored text ((hgives _ _ _).mp hx).1
    have hfound := (Regular.isMatch_iff x text).mp (Option.some.inj hmatch)
    exact (Tree.covers_iff_regex heasy).mpr ⟨r, hr, hiff.mp hfound⟩

/-- What covers a text is found between the assertions, unless there are too many ways to try. -/
theorem isMatch_ne_false (hform : Source.read form = .ok ⟨t.anchored, referred, names⟩)
    (hlettered : t.Lettered) (h : Program.compile anyCase form = .ok program)
    (hcovers : t.Covers anyCase referred text) : program.isMatch text ≠ some false := by
  rcases compile_anchored hform h with
    ⟨hhard, plan, hplan, rfl⟩ | ⟨heasy, a, x, flags, ha, hx, rfl⟩
  · obtain ⟨plan', hplan', hcovers⟩ := (Tree.covers_iff_plan hhard).mp hcovers
    obtain rfl : plan = plan' := Except.ok.inj (hplan.symm.trans hplan')
    exact Plan.isMatch_ne_false hcovers
  · have hgives := Tree.cook_regex (Tree.lettered_anchored hlettered) ha
    obtain ⟨r, hr, hcovers⟩ := (Tree.covers_iff_regex heasy).mp hcovers
    obtain ⟨r', hr', hiff⟩ := Tree.regex_anchored text ((hgives _ _ _).mp hx).1
    obtain rfl : r = r' := Option.some.inj (hr.symm.trans hr')
    have hfound := (Regular.isMatch_iff x text).mpr (hiff.mpr hcovers)
    intro hfalse
    cases hfound.symm.trans (Option.some.inj hfalse)

end Programs

end Verbal.Extended
