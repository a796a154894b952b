import Verbal.Proofs.Extended.Passages
import Verbal.Proofs.Findings

/-!
# Verdicts of patterns that are tried

A pattern that is not easy is matched by the plan it is cut into, and for a test of the whole text
by that plan between two assertions. So if it is known over which passages the plan leads, it is
known what every verdict means, whatever was built around the pattern. There may be no verdict at
all.

* **`Compiled.hard_of_compile`**: what a compiled pattern is searched with, and tested with.
* `Plan.Reads.search_iff`, `Plan.Reads.covering_iff`: what the verdicts mean.
-/

namespace Verbal

namespace Extended

variable {plan : Plan Part} {names : List (List Char × Nat)} {passages : Passages}
  {text : List Char} {b : Bool}

/-- A verdict on where a plan is looked for is that there is a passage. -/
theorem Plan.Reads.search_iff (h : plan.Reads passages)
    (hmatch : (Program.mk (.hard plan) names).isMatch text = some b) :
    b = true ↔ ∃ u w v, text = u ++ (w ++ v) ∧ passages w v := by
  constructor
  · rintro rfl
    exact h.exists_of_isMatch hmatch
  · rintro ⟨u, w, v, rfl, hp⟩
    refine (Bool.eq_false_or_eq_true b).resolve_right ?_
    rintro rfl
    exact h.isMatch_ne_false hp hmatch

/-- A verdict on a plan that has to cover a text is that the text is a passage. -/
theorem Plan.Reads.covering_iff (h : plan.Reads passages)
    (hmatch : (Program.mk (.hard plan.anchored) names).isMatch text = some b) :
    b = true ↔ passages text [] := by
  rw [← h.covers_iff]
  constructor
  · rintro rfl
    exact Plan.covers_of_isMatch hmatch
  · intro hcovers
    refine (Bool.eq_false_or_eq_true b).resolve_right ?_
    rintro rfl
    exact Plan.isMatch_ne_false hcovers hmatch

end Extended

open Extended in
/-- **A pattern that is not easy** is searched for by the plan it is cut into, and tested by that
plan between the assertions for the ends of the text. -/
theorem Compiled.hard_of_compile {pattern : String} {anyCase : Bool} {c : Compiled} {t : Tree}
    {referred : List Nat} {names : List (List Char × Nat)}
    (hread : Source.read pattern.toList = .ok ⟨t, referred, names⟩)
    (hhard : t.hard referred = true) (hc : Backend.extended.compile pattern anyCase = .ok c) :
    ∃ plan, t.plan referred .alone true = .ok plan ∧
      c.search = .extended ⟨.hard plan, names⟩ ∧
      ∀ text b, c.fullMatch text = .ok b →
        (Program.mk (.hard plan.anchored) names).isMatch text.toList = some b := by
  obtain ⟨_, hbuild, rfl⟩ := compile_eq_ok.mp hc
  obtain ⟨p, hp, rfl⟩ := build_extended_eq_ok.mp hbuild
  rcases compile_read hread hp with ⟨-, plan, hplan, rfl⟩ | ⟨heasy, -⟩
  · refine ⟨plan, hplan, rfl, fun text b hfull => ?_⟩
    rw [Compiled.fullMatch_of_compile hc] at hfull
    obtain ⟨program, hprogram, hmatch⟩ := bind_eq_ok.mp hfull
    obtain ⟨form, t', p', hform, hp', rfl, -, rfl | ⟨-, heasy⟩⟩ :=
      exists_form_of_buildAnchored hp hread hprogram
    · rcases compile_anchored hform hp' with ⟨-, plan', hplan', rfl⟩ | ⟨heasy, -⟩
      · obtain rfl := Except.ok.inj (hplan.symm.trans hplan')
        exact Program.answer_eq_ok.mp hmatch
      · exact Bool.noConfusion (heasy.symm.trans hhard)
    · exact Bool.noConfusion (heasy.symm.trans hhard)
  · exact Bool.noConfusion (heasy.symm.trans hhard)

end Verbal
