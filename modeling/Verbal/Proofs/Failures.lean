import Verbal.Evaluation
import Verbal.Proofs.Rejections

/-!
# Which failures are reported

An expression is compiled before it is tested or before anything is replaced, and a test may build a
second pattern around the first. Several patterns can be refused in one call, but only the
expression's own pattern is ever reported.

* **`Expression.failures_reported`**: a pattern that is refused is reported by every operation alike,
  with the reason given for itself; one that is accepted is refused only by a test of the whole text,
  and then for every input; and the regular backend never gives up.
* **`Compiled.answers_eq_map`**: the answer to a question does not depend on the questions before it.
-/

namespace Verbal

/-- Whether an outcome is no refusal of a pattern. -/
def Unrefused {α : Type} (x : Except Failure α) : Prop :=
  ∀ pattern reason, x ≠ .error (.invalidPattern pattern reason)

/-- Whether an outcome is no evaluation that gave up. -/
def Finished {α : Type} (x : Except Failure α) : Prop :=
  ∀ reason, x ≠ .error (.evaluation reason)

/-! ## What is built -/

section Building

variable {backend : Backend} {pattern : String} {anyCase : Bool}

theorem backend_of_build {program : Program}
    (h : backend.build anyCase pattern = .ok program) : program.backend = backend := by
  cases backend with
  | regular =>
    obtain ⟨p, -, rfl⟩ := build_regular_eq_ok.mp h
    rfl
  | extended =>
    obtain ⟨p, -, rfl⟩ := build_extended_eq_ok.mp h
    rfl

theorem backend_of_buildAnchored {program : Program}
    (h : backend.buildAnchored anyCase pattern = .ok program) : program.backend = backend := by
  unfold Backend.buildAnchored at h
  split at h
  · cases h
    exact backend_of_build ‹_›
  · split at h
    · cases h
      exact backend_of_build ‹_›
    · cases h

end Building

/-! ## Compiled patterns -/

namespace Compiled

variable {c : Compiled}

/-- Keeping a program changes no answer: it is the one that would be built. -/
theorem answer_anchor (c : Compiled) (q : Query) : c.anchor.answer q = c.answer q := by
  unfold anchor
  split
  · rename_i program hprogram
    cases q with
    | fullMatch text =>
      simp only [answer, fullMatch, hprogram]
      rfl
    | _ => rfl
  · rfl

theorem answer_after (c : Compiled) (q r : Query) : (c.after q).answer r = c.answer r := by
  cases q with
  | fullMatch text => exact c.answer_anchor r
  | _ => rfl

/-- **Questions do not disturb one another.** A compiled pattern answers each question of a list as
if it were the only one, although it keeps what it builds for the first test. -/
theorem answers_eq_map (c : Compiled) (qs : List Query) : c.answers qs = qs.map c.answer := by
  induction qs generalizing c with
  | nil => rfl
  | cons q qs ih =>
    have hrest : (c.after q).answers qs = qs.map c.answer :=
      (ih (c.after q)).trans (List.map_congr_left fun r _ => c.answer_after q r)
    simp only [answers, List.map_cons, answer_after, hrest]

variable {backend : Backend} {pattern : String} {anyCase : Bool}

theorem search_backend (h : backend.compile pattern anyCase = .ok c) :
    c.search.backend = backend := by
  obtain ⟨program, hbuild, rfl⟩ := compile_eq_ok.mp h
  exact backend_of_build hbuild

/-- A test of the whole text is refused for every text or for none. -/
theorem fullMatch_unrefused_or (h : backend.compile pattern anyCase = .ok c) :
    (∀ text, Unrefused (c.fullMatch text)) ∨
      ∃ reason, backend.build anyCase (anchoredPattern pattern) = .error reason ∧
        ∀ text, c.fullMatch text = .error (.invalidPattern pattern reason) := by
  cases hbuild : backend.buildAnchored anyCase pattern with
  | ok program =>
    refine Or.inl fun text p reason hf => ?_
    rw [fullMatch_of_compile h, hbuild] at hf
    cases (program.isMatch_eq_error hf).2
  | error f =>
    obtain ⟨reason, hreason, rfl⟩ := eq_of_buildAnchored_eq_error hbuild
    refine Or.inr ⟨reason, hreason, fun text => ?_⟩
    rw [fullMatch_of_compile h, hbuild]
    rfl

/-- Of a regular pattern, no question is given up. -/
theorem finished_answer (h : Backend.regular.compile pattern anyCase = .ok c) (q : Query) :
    Finished (c.answer q) := by
  have hsearch : c.search.backend ≠ .extended := by
    rw [search_backend h]
    nofun
  intro reason hfailed
  cases q with
  | fullMatch text =>
    have hf := map_eq_error.mp hfailed
    rw [fullMatch_of_compile h] at hf
    rcases bind_eq_error.mp hf with hrefused | ⟨program, hprogram, hmatch⟩
    · obtain ⟨_, -, hinvalid⟩ := eq_of_buildAnchored_eq_error hrefused
      cases hinvalid
    · cases (backend_of_buildAnchored hprogram).symm.trans (program.isMatch_eq_error hmatch).1
  | search text => exact hsearch (c.search.isMatch_eq_error (map_eq_error.mp hfailed)).1
  | replaceAll text replacement =>
    exact hsearch (c.search.replaceAll_eq_error (map_eq_error.mp hfailed)).1
  | findAll text => exact hsearch (c.search.findAll_eq_error (map_eq_error.mp hfailed)).1
  | pattern => cases hfailed
  | clone => cases hfailed

end Compiled

/-! ## Expressions -/

namespace Expression

/-- An expression with the two modifiers that only a test heeds. -/
def looking (e : Expression) (anywhere allLines : Bool) : Expression :=
  (e.setModifier .global anywhere).setModifier .multiline allLines

section Looking

variable (e : Expression) (backend : Backend) (anywhere allLines : Bool)

@[simp]
theorem compile_looking : (e.looking anywhere allLines).compile backend = e.compile backend := rfl

end Looking

variable {e : Expression} {backend : Backend} {c : Compiled}

theorem test_looking (hc : e.compile backend = .ok c) (anywhere allLines : Bool)
    (input : String) :
    (e.looking anywhere allLines).test backend input =
      if anywhere then c.search.isMatch ((e.looking anywhere allLines).tested input)
      else c.fullMatch ((e.looking anywhere allLines).tested input) := by
  have hc : (e.looking anywhere allLines).compile backend = .ok c := hc
  exact test_of_compile hc input

theorem replace_eq (hc : e.compile backend = .ok c) (source replacement : String) :
    e.replace backend source replacement = c.search.replaceAll source replacement := by
  simp only [replace, hc, Except.bind]

/-- **Which failures are reported.** If the pattern of an expression is refused, then every test,
with either setting of the modifiers that a test heeds, and every replacement report that refusal
and no other. If it is accepted, then no replacement and no search is refused, and the tests of the
whole text are refused for every input or for none: then with the pattern of the expression, and
the reason that the first form around it is refused for. On the regular backend, no operation gives
up. -/
theorem failures_reported (e : Expression) (backend : Backend) :
    (∀ f, e.compile backend = .error f →
      (∃ reason, backend.build (e.modifiers.contains .anyCase) e.pattern = .error reason ∧
        f = .invalidPattern e.pattern reason) ∧
      (∀ anywhere allLines input,
        (e.looking anywhere allLines).test backend input = .error f) ∧
      ∀ source replacement, e.replace backend source replacement = .error f) ∧
    (∀ c, e.compile backend = .ok c →
      (∀ source replacement, Unrefused (e.replace backend source replacement)) ∧
      (∀ allLines input, Unrefused ((e.looking true allLines).test backend input)) ∧
      ((∀ allLines input, Unrefused ((e.looking false allLines).test backend input)) ∨
        ∃ reason, backend.build (e.modifiers.contains .anyCase) (anchoredPattern e.pattern) =
            .error reason ∧
          ∀ allLines input, (e.looking false allLines).test backend input =
            .error (.invalidPattern e.pattern reason))) ∧
    (backend = .regular →
      Finished (e.compile backend) ∧
      (∀ input, Finished (e.test backend input)) ∧
      (∀ source replacement, Finished (e.replace backend source replacement)) ∧
      ∀ c, e.compile backend = .ok c → ∀ qs, ∀ a ∈ c.answers qs, Finished a) := by
  refine ⟨fun f hf => ⟨compile_eq_error.mp hf, fun anywhere allLines input => ?_,
    fun source replacement => ?_⟩, fun c hc => ⟨fun source replacement pattern reason hf => ?_,
      fun allLines input pattern reason hf => ?_, ?_⟩, ?_⟩
  · have hf : (e.looking anywhere allLines).compile backend = .error f := hf
    exact test_of_compile_eq_error hf input
  · simp only [replace, hf, Except.bind]
  · rw [replace_eq hc] at hf
    cases (c.search.replaceAll_eq_error hf).2
  · rw [test_looking hc] at hf
    cases (c.search.isMatch_eq_error hf).2
  · refine (Compiled.fullMatch_unrefused_or hc).imp (fun hnone allLines input => ?_) ?_
    · rw [test_looking hc]
      exact hnone _
    · rintro ⟨reason, hreason, hevery⟩
      refine ⟨reason, hreason, fun allLines input => ?_⟩
      rw [test_looking hc]
      exact hevery _
  · rintro rfl
    have hcompile : Finished (e.compile .regular) := by
      intro reason hf
      obtain ⟨_, -, hinvalid⟩ := compile_eq_error.mp hf
      cases hinvalid
    refine ⟨hcompile, fun input reason hf => ?_, fun source replacement reason hf => ?_,
      fun c hc qs a ha => ?_⟩
    · rcases bind_eq_error.mp hf with hrefused | ⟨c, hc, htest⟩
      · exact hcompile reason hrefused
      · split at htest
        · exact Compiled.finished_answer hc (.search _) reason (map_eq_error.mpr htest)
        · exact Compiled.finished_answer hc (.fullMatch _) reason (map_eq_error.mpr htest)
    · rcases bind_eq_error.mp hf with hrefused | ⟨c, hc, hreplace⟩
      · exact hcompile reason hrefused
      · exact Compiled.finished_answer hc (.replaceAll _ _) reason (map_eq_error.mpr hreplace)
    · rw [c.answers_eq_map] at ha
      obtain ⟨q, -, rfl⟩ := List.mem_map.mp ha
      exact Compiled.finished_answer hc q

/-- Of unbalanced parentheses, the form that is built for a test is accepted, and they are reported
all the same; an accepted pattern that no test takes is reported with the reason for that form. -/
theorem failures_reported_of_unbalanced :
    (∃ program, Backend.regular.build false (anchoredPattern "a)(b") = .ok program) ∧
    (∃ f, (empty.append "a)(b").compile .regular = .error f ∧
      (empty.append "a)(b").test .regular "ab" = .error f ∧
      ∀ reason, f ≠ .evaluation reason) ∧
    ∃ reason, Backend.extended.build false (anchoredPattern "(?<n>a)|\\1") = .error reason ∧
      (empty.append "(?<n>a)|\\1").test .extended "a" =
        .error (.invalidPattern "(?<n>a)|\\1" reason) := by
  refine ⟨exists_ok_of_isSome (by decide +kernel), ?_, ?_⟩
  · obtain ⟨f, hf⟩ := exists_error_of_isNone (x := (empty.append "a)(b").compile .regular)
      (by decide +kernel)
    obtain ⟨hrefused, -, hregular⟩ := failures_reported (empty.append "a)(b") .regular
    refine ⟨f, hf, (hrefused f hf).2.1 false false "ab", fun reason hreason => ?_⟩
    exact (hregular rfl).1 reason (hreason ▸ hf)
  · obtain ⟨c, hc⟩ := exists_ok_of_isSome
      (x := (empty.append "(?<n>a)|\\1").compile .extended) (by decide +kernel)
    have hrefused : (empty.append "(?<n>a)|\\1").test .extended "a" =
        .error (.invalidPattern "(?<n>a)|\\1" ("Error compiling regex: Numbered backref/call not " ++
          "allowed because named group was used, use a named backref instead")) := by
      decide +kernel
    rcases ((failures_reported (empty.append "(?<n>a)|\\1") .extended).2.1 c hc).2.2 with
      hnone | ⟨reason, hreason, hevery⟩
    · exact absurd hrefused (hnone false "a" _ _)
    · exact ⟨reason, hreason, hevery false "a"⟩

end Expression

end Verbal
