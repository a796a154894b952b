import Verbal.Proofs.Extended.Enclosing
import Verbal.Proofs.Regular.Fragments

/-!
# Accepted patterns that cannot be tested

Testing a whole text builds a second pattern around the one that was compiled, and what was accepted
may be refused there. Limits apart, that happens to extended patterns that refer to a group by a
number and give a name to one, and to no others.

* **`Compiled.fullMatch_eq_invalidPattern_iff`**: when a compiled pattern is refused by a test.
-/

namespace Verbal

/-- Whether a pattern is refused neither for its nesting nor for its size. -/
def Backend.WithinLimits (backend : Backend) (anyCase : Bool) (pattern : String) : Prop :=
  match backend with
  | regular => Verbal.WithinLimits anyCase pattern
  | extended => Extended.WithinLimits anyCase pattern.toList

/-! ## How programs fail -/

namespace Program

variable (program : Program)

/-- The dialect that a program was compiled in. -/
def backend : Program → Backend
  | regular _ => .regular
  | extended _ => .extended

theorem answer_eq_ok {α : Type} {x : Option α} {a : α} : answer x = .ok a ↔ x = some a := by
  cases x <;> simp [answer]

theorem answer_eq_error {α : Type} {x : Option α} {f : Failure} (h : answer x = .error f) :
    f = gaveUp := by
  cases x with
  | none => exact (Except.error.inj h).symm
  | some a => cases h

/-- A program fails by giving up, and a regular one does not fail. -/
theorem isMatch_eq_error {text : String} {f : Failure} (h : program.isMatch text = .error f) :
    program.backend = .extended ∧ f = gaveUp := by
  cases program with
  | regular p => cases h
  | extended p => exact ⟨rfl, answer_eq_error h⟩

theorem findAll_eq_error {text : String} {f : Failure} (h : program.findAll text = .error f) :
    program.backend = .extended ∧ f = gaveUp := by
  cases program with
  | regular p => cases h
  | extended p => exact ⟨rfl, answer_eq_error h⟩

theorem replaceAll_eq_error {text replacement : String} {f : Failure}
    (h : program.replaceAll text replacement = .error f) :
    program.backend = .extended ∧ f = gaveUp := by
  have hreplaced := map_eq_error.mp h
  cases program with
  | regular p => cases hreplaced
  | extended p => exact ⟨rfl, answer_eq_error hreplaced⟩

end Program

/-! ## What is built -/

theorem build_extended_eq_ok {anyCase : Bool} {pattern : String} {program : Program} :
    Backend.extended.build anyCase pattern = .ok program ↔
      ∃ p, Extended.Program.compile anyCase pattern.toList = .ok p ∧ program = .extended p := by
  simp only [Backend.build]
  cases Extended.Program.compile anyCase pattern.toList with
  | error e => simp
  | ok p => simp [eq_comm]

/-- What is accepted exceeds no limit. -/
theorem Backend.withinLimits_of_build {backend : Backend} {anyCase : Bool} {pattern : String}
    {program : Program} (h : backend.build anyCase pattern = .ok program) :
    backend.WithinLimits anyCase pattern := by
  cases backend with
  | regular =>
    obtain ⟨p, hp, -⟩ := build_regular_eq_ok.mp h
    intro fault hfault
    rw [hp] at hfault
    cases hfault
  | extended =>
    obtain ⟨p, hp, -⟩ := build_extended_eq_ok.mp h
    exact Extended.withinLimits_of_compile hp

/-- Nothing is built for a test only if both forms are refused. -/
theorem buildAnchored_eq_error {backend : Backend} {anyCase : Bool} {pattern : String} :
    (∃ failure, backend.buildAnchored anyCase pattern = .error failure) ↔
      (∃ reason, backend.build anyCase (anchoredPattern pattern) = .error reason) ∧
        ∃ reason, backend.build anyCase (anchoredAfterComment pattern) = .error reason := by
  unfold Backend.buildAnchored
  cases backend.build anyCase (anchoredPattern pattern) with
  | ok program => simp
  | error reason => cases backend.build anyCase (anchoredAfterComment pattern) <;> simp

/-- One of them that is accepted is enough. -/
theorem exists_buildAnchored {backend : Backend} {anyCase : Bool} {pattern : String}
    (h : (∃ program, backend.build anyCase (anchoredPattern pattern) = .ok program) ∨
      ∃ program, backend.build anyCase (anchoredAfterComment pattern) = .ok program) :
    ∃ program, backend.buildAnchored anyCase pattern = .ok program := by
  cases hbuild : backend.buildAnchored anyCase pattern with
  | ok program => exact ⟨program, rfl⟩
  | error failure =>
    obtain ⟨⟨_, hfirst⟩, _, hsecond⟩ := buildAnchored_eq_error.mp ⟨failure, hbuild⟩
    rcases h with ⟨program, h⟩ | ⟨program, h⟩
    · cases hfirst.symm.trans h
    · cases hsecond.symm.trans h

section Failing

variable {backend : Backend} {pattern : String} {anyCase : Bool} {c : Compiled}

/-- Compiling fails with the pattern as it was given and the reason it is refused for. -/
theorem compile_eq_error {f : Failure} :
    backend.compile pattern anyCase = .error f ↔
      ∃ reason, backend.build anyCase pattern = .error reason ∧
        f = .invalidPattern pattern reason := by
  unfold Backend.compile
  cases backend.build anyCase pattern <;> simp [eq_comm]

theorem compile_eq_ok :
    backend.compile pattern anyCase = .ok c ↔
      ∃ program, backend.build anyCase pattern = .ok program ∧
        c = ⟨backend, pattern, anyCase, program, none⟩ := by
  unfold Backend.compile
  cases backend.build anyCase pattern <;> simp [eq_comm]

/-- What is built for a test fails with the pattern as it was given, and the reason the first form
is refused for. -/
theorem eq_of_buildAnchored_eq_error {f : Failure}
    (h : backend.buildAnchored anyCase pattern = .error f) :
    ∃ reason, backend.build anyCase (anchoredPattern pattern) = .error reason ∧
      f = .invalidPattern pattern reason := by
  unfold Backend.buildAnchored at h
  split at h
  · cases h
  · split at h
    · cases h
    · cases h
      exact ⟨_, ‹_›, rfl⟩

theorem Compiled.fullMatch_of_compile (h : backend.compile pattern anyCase = .ok c) (text : String) :
    c.fullMatch text = (backend.buildAnchored anyCase pattern).bind (·.isMatch text) := by
  obtain ⟨program, -, rfl⟩ := compile_eq_ok.mp h
  rfl

/-- A test is refused iff nothing can be built for it. -/
theorem fullMatch_eq_invalidPattern (hc : backend.compile pattern anyCase = .ok c)
    (text : String) :
    (∃ p reason, c.fullMatch text = .error (.invalidPattern p reason)) ↔
      ∃ failure, backend.buildAnchored anyCase pattern = .error failure := by
  rw [Compiled.fullMatch_of_compile hc]
  constructor
  · rintro ⟨p, reason, h⟩
    rcases bind_eq_error.mp h with hbuild | ⟨program, -, hmatch⟩
    · exact ⟨_, hbuild⟩
    · cases (program.isMatch_eq_error hmatch).2
  · rintro ⟨failure, hbuild⟩
    obtain ⟨reason, -, rfl⟩ := eq_of_buildAnchored_eq_error hbuild
    rw [hbuild]
    exact ⟨_, _, rfl⟩

variable {e : Expression}

theorem Expression.test_of_compile (hc : e.compile backend = .ok c) (input : String) :
    e.test backend input =
      if e.modifiers.contains .global then c.search.isMatch (e.tested input)
      else c.fullMatch (e.tested input) := by
  simp only [test, hc, Except.bind]

theorem Expression.test_of_compile_eq_error {f : Failure} (hf : e.compile backend = .error f)
    (input : String) : e.test backend input = .error f := by
  simp only [test, hf, Except.bind]

end Failing

/-! ## What is accepted for a test -/

section Forms

variable {anyCase : Bool} {pattern : String}

theorem build_eq_ok_or_error (backend : Backend) (anyCase : Bool) (pattern : String) :
    (∃ program, backend.build anyCase pattern = .ok program) ∨
      ∃ reason, backend.build anyCase pattern = .error reason := by
  cases backend.build anyCase pattern with
  | ok program => exact Or.inl ⟨program, rfl⟩
  | error reason => exact Or.inr ⟨reason, rfl⟩

/-- Of the two forms of an accepted regular pattern one is accepted, limits apart. -/
theorem exists_form_regular {p : Regular.Program}
    (h : Regular.Program.compile anyCase pattern.toList = .ok p)
    (hfirst : WithinLimits anyCase (anchoredPattern pattern))
    (hsecond : (∃ reason, Backend.regular.build anyCase (anchoredPattern pattern) = .error reason) →
      WithinLimits anyCase (anchoredAfterComment pattern)) :
    (∃ program, Backend.regular.build anyCase (anchoredPattern pattern) = .ok program) ∨
      ∃ program, Backend.regular.build anyCase (anchoredAfterComment pattern) = .ok program := by
  obtain ⟨r, names, hregex, -, -⟩ := Regular.compile_eq_ok.mp h
  obtain ⟨source, flags, hread, hr, -⟩ := Regular.regexOf_eq_ok.mp hregex
  have hwritten := (Regular.read_eq_ok.mp hread).1
  have hbuild (form : String)
      (hform : Regular.Source.written form.toList = .ok source.wrapped)
      (hlimits : WithinLimits anyCase form) :
      ∃ program, Backend.regular.build anyCase form = .ok program :=
    ⟨_, build_regular_eq_ok.mpr
      ⟨_, (Regular.compile_of_written hform (Regular.regex_wrapped hr) hlimits).2, rfl⟩⟩
  by_cases hcomment : Regular.EndsInComment pattern.toList
  · refine (build_eq_ok_or_error .regular anyCase (anchoredPattern pattern)).imp_right ?_
    exact fun hrefused => hbuild _ (Regular.written_afterComment_of_comment hwritten hcomment)
      (hsecond hrefused)
  · exact Or.inl (hbuild _ (Regular.written_anchored hwritten hcomment) hfirst)

/-- Limits apart, a test of an accepted extended pattern builds a form that reads as the pattern
between the assertions, unless numbers stand beside names. -/
theorem form_of_extended {p : Extended.Program} {source : Extended.Source}
    (h : Extended.Program.compile anyCase pattern.toList = .ok p)
    (hsource : Extended.Source.read pattern.toList = .ok source)
    (hnumbers : ¬Extended.NumbersBesideNames pattern.toList)
    (hfirst : Extended.WithinLimits anyCase (anchoredPattern pattern).toList)
    (hsecond : (∃ reason, Backend.extended.build anyCase (anchoredPattern pattern) =
        .error reason) →
      Extended.WithinLimits anyCase (anchoredAfterComment pattern).toList) :
    ∃ form p', Extended.Source.read form =
        .ok ⟨source.tree.anchored, source.referred, source.names⟩ ∧
      Extended.Program.compile anyCase form = .ok p' ∧
      Backend.extended.buildAnchored anyCase pattern = .ok (.extended p') := by
  obtain ⟨d, hread, rfl, hforms⟩ := Extended.read_forms hsource
  have hreading : d.reading = .ok ⟨d.body.anchored, d.referred, d.scope.names⟩ :=
    if_neg fun ⟨hnumbered, hnames⟩ => hnumbers ⟨d, hread, hnumbered, hnames⟩
  have hbuild (form : String) (hform : Extended.Source.read form.toList = d.reading)
      (hlimits : Extended.WithinLimits anyCase form.toList) :
      Extended.Source.read form.toList = .ok ⟨d.body.anchored, d.referred, d.scope.names⟩ ∧
        ∃ p', Extended.Program.compile anyCase form.toList = .ok p' ∧
          Backend.extended.build anyCase form = .ok (.extended p') := by
    obtain ⟨p', hp'⟩ := Extended.compile_enclosed h hsource (hform.trans hreading) hlimits
    exact ⟨hform.trans hreading, p', hp', build_extended_eq_ok.mpr ⟨p', hp', rfl⟩⟩
  unfold Backend.buildAnchored
  rcases hforms with ⟨hform, -⟩ | ⟨hform, -⟩ | ⟨⟨fault, hfault⟩, hform⟩
  · exact absurd rfl (hfirst.faults _ (Extended.compile_of_read_error hform)).1
  · obtain ⟨hread, p', hp', hok⟩ := hbuild _ hform hfirst
    exact ⟨_, p', hread, hp', by rw [hok]⟩
  · have hrefused : Backend.extended.build anyCase (anchoredPattern pattern) =
        .error fault.message := by
      simp only [Backend.build, Extended.compile_of_read_error hfault]
    obtain ⟨hread, p', hp', hok⟩ := hbuild _ hform (hsecond ⟨_, hrefused⟩)
    exact ⟨_, p', hread, hp', by simp only [hrefused, hok]⟩

/-- Of the two forms of an accepted extended pattern one is accepted, limits apart, unless numbers
stand beside names. -/
theorem exists_form_extended {p : Extended.Program}
    (h : Extended.Program.compile anyCase pattern.toList = .ok p)
    (hnumbers : ¬Extended.NumbersBesideNames pattern.toList)
    (hfirst : Extended.WithinLimits anyCase (anchoredPattern pattern).toList)
    (hsecond : (∃ reason, Backend.extended.build anyCase (anchoredPattern pattern) =
        .error reason) →
      Extended.WithinLimits anyCase (anchoredAfterComment pattern).toList) :
    (∃ program, Backend.extended.build anyCase (anchoredPattern pattern) = .ok program) ∨
      ∃ program, Backend.extended.build anyCase (anchoredAfterComment pattern) = .ok program := by
  obtain ⟨source, hsource⟩ := Extended.exists_source_of_compile h
  obtain ⟨-, p', -, -, hok⟩ := form_of_extended h hsource hnumbers hfirst hsecond
  rcases build_eq_ok_or_error .extended anyCase (anchoredPattern pattern) with hbuilt | hrefused
  · exact Or.inl hbuilt
  refine Or.inr ((build_eq_ok_or_error ..).resolve_right fun hrefused' => ?_)
  obtain ⟨failure, hfailure⟩ := buildAnchored_eq_error.mpr ⟨hrefused, hrefused'⟩
  cases hok.symm.trans hfailure

/-- Nothing can be built for a test where numbers stand beside names. -/
theorem buildAnchored_of_numbersBesideNames {p : Extended.Program}
    (h : Extended.Program.compile anyCase pattern.toList = .ok p)
    (hnumbers : Extended.NumbersBesideNames pattern.toList) :
    ∃ failure, Backend.extended.buildAnchored anyCase pattern = .error failure := by
  obtain ⟨source, hsource⟩ := Extended.exists_source_of_compile h
  have hrefused (form : String)
      (h : ∃ fault, Extended.Source.read form.toList = .error fault) :
      ∃ reason, Backend.extended.build anyCase form = .error reason := by
    obtain ⟨fault, hfault⟩ := h
    exact ⟨fault.message, by simp only [Backend.build, Extended.compile_of_read_error hfault]⟩
  obtain ⟨hfirst, hsecond⟩ := Extended.read_forms_of_numbersBesideNames hsource hnumbers
  exact buildAnchored_eq_error.mpr ⟨hrefused _ hfirst, hrefused _ hsecond⟩

end Forms

/-- **When an accepted pattern is refused by a test.** If the forms that a test tries exceed no
limit of nesting or size, then a test of a compiled pattern reports an invalid pattern exactly for
extended patterns that refer to a group by a number and give a name to one. The second form matters
only if the first one is refused. -/
theorem Compiled.fullMatch_eq_invalidPattern_iff {backend : Backend} {anyCase : Bool}
    {pattern : String} {c : Compiled} (hc : backend.compile pattern anyCase = .ok c)
    (hfirst : backend.WithinLimits anyCase (anchoredPattern pattern))
    (hsecond : (∃ reason, backend.build anyCase (anchoredPattern pattern) = .error reason) →
      backend.WithinLimits anyCase (anchoredAfterComment pattern)) (text : String) :
    (∃ p reason, c.fullMatch text = .error (.invalidPattern p reason)) ↔
      backend = .extended ∧ Extended.NumbersBesideNames pattern.toList := by
  rw [fullMatch_eq_invalidPattern hc, buildAnchored_eq_error]
  have hbuilt : ∃ program, backend.build anyCase pattern = .ok program := by
    unfold Backend.compile at hc
    split at hc
    · rename_i program hprogram
      exact ⟨program, hprogram⟩
    · cases hc
  have hnot {x : Except String Program} (h : ∃ program, x = .ok program) :
      ¬∃ reason, x = .error reason := by
    rintro ⟨reason, rfl⟩
    obtain ⟨program, hprogram⟩ := h
    cases hprogram
  cases backend with
  | regular =>
    obtain ⟨program, hprogram⟩ := hbuilt
    obtain ⟨p, hp, -⟩ := build_regular_eq_ok.mp hprogram
    refine iff_of_false (fun ⟨h₁, h₂⟩ => ?_) (fun h => nomatch h.1)
    rcases exists_form_regular hp hfirst hsecond with hok | hok
    · exact hnot hok h₁
    · exact hnot hok h₂
  | extended =>
    obtain ⟨program, hprogram⟩ := hbuilt
    obtain ⟨p, hp, -⟩ := build_extended_eq_ok.mp hprogram
    constructor
    · rintro ⟨h₁, h₂⟩
      refine ⟨rfl, ?_⟩
      by_contra hnumbers
      rcases exists_form_extended hp hnumbers hfirst hsecond with hok | hok
      · exact hnot hok h₁
      · exact hnot hok h₂
    · rintro ⟨-, hnumbers⟩
      exact buildAnchored_eq_error.mp (buildAnchored_of_numbersBesideNames hp hnumbers)

/-- A pattern that ends in a comment is tested in the second form, and not refused. -/
theorem Compiled.fullMatch_eq_invalidPattern_iff_of_comment :
    ∃ c, Backend.extended.compile "(?x)(a)\\1#b" false = .ok c ∧
      (∃ reason, Backend.extended.build false (anchoredPattern "(?x)(a)\\1#b") = .error reason) ∧
      ¬∃ p reason, c.fullMatch "aa" = .error (.invalidPattern p reason) := by
  obtain ⟨c, hc⟩ := exists_ok_of_isSome (x := Backend.extended.compile "(?x)(a)\\1#b" false)
    (by decide +kernel)
  have hfirst : Extended.Source.read (anchoredPattern "(?x)(a)\\1#b").toList =
      .error .groupUnclosed := by decide +kernel
  have hlimits : Backend.extended.WithinLimits false (anchoredPattern "(?x)(a)\\1#b") := by
    refine ⟨fun fault hfault => ?_, fun source ast hsource => ?_⟩
    · rw [Extended.compile_of_read_error hfirst] at hfault
      cases hfault
      exact ⟨nofun, nofun⟩
    · rw [hfirst] at hsource
      cases hsource
  obtain ⟨program, hsecond⟩ := exists_ok_of_isSome
    (x := Backend.extended.build false (anchoredAfterComment "(?x)(a)\\1#b")) (by decide +kernel)
  have hiff := Compiled.fullMatch_eq_invalidPattern_iff hc hlimits
    (fun _ => Backend.withinLimits_of_build hsecond) "aa"
  refine ⟨c, hc, exists_error_of_isNone (by decide +kernel), fun h => ?_⟩
  obtain ⟨-, d, hd, -, hnames⟩ := hiff.mp h
  have hread : (Extended.readAll (.start "(?x)(a)\\1#b".toList) "(?x)(a)\\1#b".toList).map
      (·.scope.names) = .ok [] := by decide +kernel
  rw [hd] at hread
  exact hnames (Except.ok.inj hread)

/-- Parentheses around a letter, so many in one another. -/
def nestedGroups (n : Nat) : String :=
  String.ofList (List.replicate n '(' ++ 'a' :: List.replicate n ')')

/-- A pattern may be accepted and then be refused by a test: for a number beside a name, which is
noticed only there, and for its nesting. -/
theorem Compiled.exists_fullMatch_eq_invalidPattern :
    (∃ c, Backend.extended.compile "(?<n>a)|\\1" false = .ok c ∧
        ∃ p reason, c.fullMatch "a" = .error (.invalidPattern p reason)) ∧
      ∃ c, Backend.extended.compile (nestedGroups 63) false = .ok c ∧
        ∃ p reason, c.fullMatch "a" = .error (.invalidPattern p reason) := by
  have hrefused {pattern : String}
      (hc : (Backend.extended.compile pattern false).toOption.isSome = true)
      (hfirst : (Backend.extended.build false (anchoredPattern pattern)).toOption.isSome = false)
      (hsecond :
        (Backend.extended.build false (anchoredAfterComment pattern)).toOption.isSome = false) :
      ∃ c, Backend.extended.compile pattern false = .ok c ∧
        ∃ p reason, c.fullMatch "a" = .error (.invalidPattern p reason) := by
    obtain ⟨c, hc⟩ := exists_ok_of_isSome hc
    exact ⟨c, hc, (fullMatch_eq_invalidPattern hc "a").mpr (buildAnchored_eq_error.mpr
      ⟨exists_error_of_isNone hfirst, exists_error_of_isNone hsecond⟩)⟩
  exact ⟨hrefused (by decide +kernel) (by decide +kernel) (by decide +kernel),
    hrefused (by decide +kernel) (by decide +kernel) (by decide +kernel)⟩

end Verbal
