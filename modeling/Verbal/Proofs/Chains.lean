import Verbal.Evaluation
import Verbal.Proofs.Extended.Chains
import Verbal.Proofs.Regular.Chains

/-!
# Chains of verbs

Both dialects read a chain of plain verbs as the same expression, so what is said of it here is said
of both. A pattern may still be too large to be compiled; `Backend.built` says what comes of an
expression then.

* **`accepts_iff_lastAltAfterAnchors`**: a chain is accepted iff no anchor was called for after its
  last alternative.
* **`test_iff_mem_chainLanguage`**: a chain whose anchors come first passes the inputs that it
  describes.
* `Backend.buildAnchored_of_forms`: the program that has to cover a text is built in its first form.
-/

namespace Verbal

open Verbal.Regular (Regex)

variable {verbs : List Verb} {anyCase : Bool}

namespace Backend

/-- The reason that a pattern is too large. -/
def tooLarge : Backend → String
  | regular => Regular.Fault.tooLarge.message
  | extended => Extended.Fault.partTooLarge.message

/-- The program of an expression. -/
def programOf (backend : Backend) (r : Regex) : Program :=
  match backend with
  | regular => .regular ⟨r.unroll none, []⟩
  | extended => .extended ⟨.easy (r.unroll none), []⟩

/-- The expression of a pattern that has to cover the text. -/
def anchored (backend : Backend) (r : Regex) : Regex :=
  match backend with
  | regular => r.wrapped
  | extended => Extended.anchoredRegex r

/-- Whether a pattern is accepted, or would be if there were no bound on the size. -/
def Accepts (backend : Backend) (e : Expression) : Prop :=
  (∃ c, e.compile backend = .ok c) ∨
    e.compile backend = .error (.invalidPattern e.pattern backend.tooLarge)

theorem isMatch_programOf (backend : Backend) (r : Regex) (text : String) :
    (backend.programOf r).isMatch text =
      .ok (((r.unroll none).found text.toList).any Option.isSome) := by
  cases backend <;> rfl

theorem isMatch_anchored (backend : Backend) (r : Regex) (text : List Char) :
    (((backend.anchored r).unroll none).found text).any Option.isSome = true ↔ r.Covers text := by
  rw [Regular.isMatch_iff]
  have hwrapped : (∃ i j, i ≤ text.length ∧ r.wrapped.Spans text i j) ↔ r.Covers text :=
    Regular.spans_wrapped
  cases backend with
  | regular => exact hwrapped
  | extended =>
    by_cases hr : r = .empty
    · have hanchored : extended.anchored r = .concat (.look .startText) (.look .endText) :=
        if_pos hr
      have hempty (i j : Nat) : (Regex.concat .empty (.look .endText)).Spans text i j ↔
          (Regex.look .endText).Spans text i j :=
        ⟨fun ⟨_, hk, h⟩ => hk ▸ h, fun h => ⟨i, rfl, h⟩⟩
      rw [hanchored, ← hwrapped, hr]
      exact exists_congr fun i => exists_congr fun j => and_congr_right fun _ =>
        exists_congr fun k => and_congr_right fun _ => (hempty k j).symm
    · have hanchored : extended.anchored r = r.wrapped := if_neg hr
      rw [hanchored]
      exact hwrapped

/-- What only adds to the size of an expression only adds to that of its anchored form. -/
theorem size_anchored_le (backend : Backend) {r r' : Regex} (h : r.size ≤ r'.size)
    (hsize : ¬(backend.anchored r).size ≤ Regular.sizeLimit) :
    ¬(backend.anchored r').size ≤ Regular.sizeLimit := by
  have hlimit : 96 ≤ Regular.sizeLimit := by decide
  cases backend with
  | regular =>
    simp only [anchored, Regular.Regex.wrapped, Regular.Regex.size] at hsize ⊢
    omega
  | extended =>
    unfold anchored Extended.anchoredRegex at hsize ⊢
    by_cases hr : r = .empty
    · rw [if_pos hr] at hsize
      exact absurd (show 64 ≤ Regular.sizeLimit by decide) hsize
    · rw [if_neg hr] at hsize
      by_cases hr' : r' = .empty
      · simp only [hr', Regular.Regex.wrapped, Regular.Regex.size] at h hsize
        omega
      · rw [if_neg hr']
        simp only [Regular.Regex.wrapped, Regular.Regex.size] at hsize ⊢
        omega

theorem size_le_of_anchored (backend : Backend) {r : Regex}
    (h : (backend.anchored r).size ≤ Regular.sizeLimit) : r.size ≤ Regular.sizeLimit := by
  cases backend with
  | regular =>
    simp only [anchored, Regular.Regex.wrapped, Regular.Regex.size] at h
    omega
  | extended =>
    unfold anchored Extended.anchoredRegex at h
    by_cases hr : r = .empty
    · rw [hr]
      decide
    · simp only [if_neg hr, Regular.Regex.wrapped, Regular.Regex.size] at h
      omega

/-! ## Building chains -/

section Building

variable {ss : List (List Verb)} {start stop : Bool} {pattern : String}

/-- What is built of an expression, unless it is too large. -/
def built (backend : Backend) (r : Regex) : Except String Program :=
  if r.size ≤ Regular.sizeLimit then .ok (backend.programOf r) else .error backend.tooLarge

theorem build_regular_of_compile {r : Regex}
    (h : Regular.Program.compile anyCase pattern.toList =
      if r.size ≤ Regular.sizeLimit then .ok ⟨r.unroll none, []⟩ else .error .tooLarge) :
    regular.build anyCase pattern = regular.built r := by
  unfold build built
  dsimp only
  rw [h]
  by_cases hsize : r.size ≤ Regular.sizeLimit
  · rw [if_pos hsize, if_pos hsize]
    rfl
  · rw [if_neg hsize, if_neg hsize]
    rfl

theorem build_extended_of_compile {r : Regex}
    (h : Extended.Program.compile anyCase pattern.toList =
      if r.size ≤ Regular.sizeLimit then .ok ⟨.easy (r.unroll none), []⟩
      else .error .partTooLarge) :
    extended.build anyCase pattern = extended.built r := by
  unfold build built
  dsimp only
  rw [h]
  by_cases hsize : r.size ≤ Regular.sizeLimit
  · rw [if_pos hsize, if_pos hsize]
    rfl
  · rw [if_neg hsize, if_neg hsize]
    rfl

theorem build_chainText (backend : Backend) (hss : ∀ s ∈ ss, ∀ v ∈ s, v.IsPiece) (hne : ss ≠ [])
    (hpattern : pattern.toList = chainText start stop ss) :
    backend.build anyCase pattern = backend.built (chainRegex anyCase start stop [] ss) := by
  cases backend with
  | regular => exact build_regular_of_compile (by rw [hpattern, Regular.compile_chain hss hne])
  | extended => exact build_extended_of_compile (by rw [hpattern, Extended.compile_chain hss hne])

theorem build_anchoredPattern (backend : Backend) (hss : ∀ s ∈ ss, ∀ v ∈ s, v.IsPiece)
    (hne : ss ≠ []) (tail : List Char) (htail : ∀ c ∈ tail, IsPlainChar c)
    (hpattern : pattern.toList = chainText start stop ss ++ tail) :
    backend.build anyCase (anchoredPattern pattern) = backend.built (backend.anchored
      (chainRegex anyCase start stop (tail.map fun c => .ofText anyCase [c]) ss)) := by
  obtain rfl : pattern = String.ofList (chainText start stop ss ++ tail) := by
    rw [← hpattern, String.ofList_toList]
  cases backend with
  | regular => exact build_regular_of_compile (Regular.compile_anchored_chain hss hne htail)
  | extended => exact build_extended_of_compile (Extended.compile_anchored_chain hss hne htail)

theorem anchoredAfterComment_eq (pattern : String) :
    anchoredAfterComment pattern = anchoredPattern (pattern ++ "\n") := by
  simp [anchoredAfterComment, anchoredPattern, String.append_assoc]

/-- The program that has to cover the text is built in the first form or not at all, if the second
one is only larger. -/
theorem buildAnchored_of_forms {backend : Backend} {r r' : Regex}
    (hfirst : backend.build anyCase (anchoredPattern pattern) = backend.built (backend.anchored r))
    (hsecond : backend.build anyCase (anchoredAfterComment pattern) =
      backend.built (backend.anchored r')) (hle : r.size ≤ r'.size) :
    backend.buildAnchored anyCase pattern =
      if (backend.anchored r).size ≤ Regular.sizeLimit then
        .ok (backend.programOf (backend.anchored r))
      else .error (.invalidPattern pattern backend.tooLarge) := by
  unfold buildAnchored
  rw [hfirst, hsecond]
  by_cases hsize : (backend.anchored r).size ≤ Regular.sizeLimit
  · rw [if_pos hsize, built, if_pos hsize]
  · rw [if_neg hsize, built, if_neg hsize, built, if_neg (backend.size_anchored_le hle hsize)]

theorem buildAnchored_chain (backend : Backend) (hss : ∀ s ∈ ss, ∀ v ∈ s, v.IsPiece)
    (hne : ss ≠ []) (hpattern : pattern.toList = chainText start stop ss) :
    backend.buildAnchored anyCase pattern =
      if (backend.anchored (chainRegex anyCase start stop [] ss)).size ≤ Regular.sizeLimit then
        .ok (backend.programOf (backend.anchored (chainRegex anyCase start stop [] ss)))
      else .error (.invalidPattern pattern backend.tooLarge) := by
  have hfirst : backend.build anyCase (anchoredPattern pattern) =
      backend.built (backend.anchored (chainRegex anyCase start stop [] ss)) :=
    build_anchoredPattern backend hss hne [] (List.forall_mem_nil _) (by simpa using hpattern)
  have hsecond : backend.build anyCase (anchoredAfterComment pattern) =
      backend.built (backend.anchored (chainRegex anyCase start stop
        [.ofText anyCase ['\n']] ss)) := by
    rw [anchoredAfterComment_eq]
    exact build_anchoredPattern backend hss hne ['\n'] (List.forall_mem_singleton.mpr rfl)
      (by simp [hpattern])
  exact buildAnchored_of_forms hfirst hsecond (size_chainRegex_le (by cases anyCase <;> decide) ss)

end Building

theorem build_extended_of_error {fault : Extended.Fault}
    (h : Extended.Program.compile anyCase pattern.toList = .error fault) :
    extended.build anyCase pattern = .error fault.message := by
  unfold build
  dsimp only
  rw [h]

/-- A chain of which an anchor comes after the last alternative is refused, and not for its size. -/
theorem build_refused (backend : Backend) (hplain : ∀ v ∈ verbs, v.IsPlain)
    (h : ¬LastAltAfterAnchors verbs) : ∃ reason, reason ≠ backend.tooLarge ∧
      backend.build anyCase (Expression.ofVerbs verbs).pattern = .error reason := by
  obtain ⟨halt, hsince⟩ := altSince_of_not_lastAltAfterAnchors h
  have hss := isPiece_of_mem_segments hplain
  have hlength := (one_lt_length_segments verbs).mpr halt
  have hne : segments verbs ≠ [] := List.ne_nil_of_length_pos (Nat.lt_of_succ_lt hlength)
  have hpattern := Expression.toList_pattern verbs
  cases hstart : altSince Verb.startAnchor? verbs with
  | false =>
    rw [hstart] at hpattern
    cases backend with
    | regular =>
      refine ⟨Regular.Fault.groupUnopened.message, by decide +kernel, ?_⟩
      exact build_regular_eq_error.mpr
        ⟨_, by rw [hpattern, Regular.compile_unopened hss hlength], rfl⟩
    | extended =>
      refine ⟨Extended.Fault.endNotReached.message, by decide +kernel, ?_⟩
      exact build_extended_of_error (by rw [hpattern, Extended.compile_unopened hss hlength])
  | true =>
    have hend : altSince Verb.endAnchor? verbs = false := by simpa [hstart] using hsince
    rw [hstart, hend] at hpattern
    cases backend with
    | regular =>
      refine ⟨Regular.Fault.groupUnclosed.message, by decide +kernel, ?_⟩
      exact build_regular_eq_error.mpr ⟨_, by rw [hpattern, Regular.compile_unclosed hss hne], rfl⟩
    | extended =>
      refine ⟨Extended.Fault.groupUnclosed.message, by decide +kernel, ?_⟩
      exact build_extended_of_error (by rw [hpattern, Extended.compile_unclosed hss hne])

end Backend

/-! ## Which chains are accepted -/

/-- What the pattern of a chain stands for, if its parentheses are balanced. -/
def chainExpression (anyCase : Bool) (verbs : List Verb) : Regex :=
  chainRegex anyCase ((lastWord Verb.startAnchor? verbs).getD false)
    ((lastWord Verb.endAnchor? verbs).getD false) [] (segments verbs)

namespace Expression

theorem build_ofVerbs (backend : Backend) (hplain : ∀ v ∈ verbs, v.IsPlain)
    (h : LastAltAfterAnchors verbs) :
    backend.build anyCase (ofVerbs verbs).pattern =
      backend.built (chainExpression anyCase verbs) := by
  obtain ⟨s, ss, hs⟩ := exists_segments verbs
  exact backend.build_chainText (isPiece_of_mem_segments hplain) (by simp [hs]) h.toList_pattern

/-- A chain of which the last alternative comes last compiles unless it is too large. -/
theorem compile_ofVerbs (backend : Backend) (hplain : ∀ v ∈ verbs, v.IsPlain)
    (h : LastAltAfterAnchors verbs)
    (hcase : (ofVerbs verbs).modifiers.contains .anyCase = anyCase) :
    (ofVerbs verbs).compile backend =
      if (chainExpression anyCase verbs).size ≤ Regular.sizeLimit then
        .ok ⟨backend, (ofVerbs verbs).pattern, anyCase,
          backend.programOf (chainExpression anyCase verbs), none⟩
      else .error (.invalidPattern (ofVerbs verbs).pattern backend.tooLarge) := by
  unfold compile Backend.compile
  rw [hcase, build_ofVerbs backend hplain h, Backend.built]
  by_cases hsize : (chainExpression anyCase verbs).size ≤ Regular.sizeLimit
  · rw [if_pos hsize, if_pos hsize]
  · rw [if_neg hsize, if_neg hsize]

/-- **A chain of plain verbs is accepted iff no anchor is called for after its last alternative**,
in either dialect and in any case, as far as its size allows; otherwise its pattern is invalid. -/
theorem accepts_iff_lastAltAfterAnchors (hplain : ∀ v ∈ verbs, v.IsPlain) (backend : Backend) :
    (backend.Accepts (ofVerbs verbs) ↔ LastAltAfterAnchors verbs) ∧
      (LastAltAfterAnchors verbs →
        (chainExpression ((ofVerbs verbs).modifiers.contains .anyCase) verbs).size ≤
          Regular.sizeLimit → ∃ c, (ofVerbs verbs).compile backend = .ok c) ∧
      (¬LastAltAfterAnchors verbs → ∃ reason,
        (ofVerbs verbs).compile backend =
          .error (.invalidPattern (ofVerbs verbs).pattern reason)) := by
  have hrefused (h : ¬LastAltAfterAnchors verbs) : ∃ reason, reason ≠ backend.tooLarge ∧
      (ofVerbs verbs).compile backend =
        .error (.invalidPattern (ofVerbs verbs).pattern reason) := by
    obtain ⟨reason, hreason, hbuild⟩ := backend.build_refused hplain h
    refine ⟨reason, hreason, ?_⟩
    unfold compile Backend.compile
    rw [hbuild]
  refine ⟨⟨fun haccepts => ?_, fun h => ?_⟩, fun h hsize => ?_, fun h => ?_⟩
  · by_contra h
    obtain ⟨reason, hreason, hcompile⟩ := hrefused h
    rcases haccepts with ⟨c, hc⟩ | hsize
    · rw [hcompile] at hc
      cases hc
    · rw [hcompile] at hsize
      cases hsize
      exact hreason rfl
  · unfold Backend.Accepts
    rw [compile_ofVerbs backend hplain h rfl]
    split
    · exact Or.inl ⟨_, rfl⟩
    · exact Or.inr rfl
  · exact ⟨_, (compile_ofVerbs backend hplain h rfl).trans (if_pos hsize)⟩
  · obtain ⟨reason, -, hcompile⟩ := hrefused h
    exact ⟨reason, hcompile⟩

theorem accepts_iff_lastAltAfterAnchors_of_alternative :
    Backend.extended.Accepts (ofVerbs [.endOfLine true, .andThen "a", .alt "b", .anyCase true]) :=
  (accepts_iff_lastAltAfterAnchors (by decide) .extended).1.mpr
    (Or.inr ⟨[.endOfLine true, .andThen "a"], "b", [.anyCase true], rfl, by decide⟩)

/-- **A chain of plain verbs passes an input iff it describes what is tested of it**, in either
dialect, whatever anchors stand in front of the alternatives, if case counts and the whole of it has
to match; unless the pattern that has to cover a text is too large. -/
theorem test_iff_mem_chainLanguage (hplain : ∀ v ∈ verbs, v.IsPlain)
    (horder : AnchorsBeforeAlts verbs)
    (hglobal : (ofVerbs verbs).modifiers.contains .global = false)
    (hcase : (ofVerbs verbs).modifiers.contains .anyCase = false) (backend : Backend)
    (input : String) :
    if (backend.anchored (chainExpression false verbs)).size ≤ Regular.sizeLimit then
      ∃ b, (ofVerbs verbs).test backend input = .ok b ∧
        (b = true ↔ ((ofVerbs verbs).tested input).toList ∈ chainLanguage verbs)
    else (ofVerbs verbs).test backend input =
      .error (.invalidPattern (ofVerbs verbs).pattern backend.tooLarge) := by
  have hlast := horder.lastAltAfterAnchors
  have hss := isPiece_of_mem_segments hplain
  obtain ⟨s, ss, hs⟩ := exists_segments verbs
  have hanchored : backend.buildAnchored false (ofVerbs verbs).pattern =
      if (backend.anchored (chainExpression false verbs)).size ≤ Regular.sizeLimit then
        .ok (backend.programOf (backend.anchored (chainExpression false verbs)))
      else .error (.invalidPattern (ofVerbs verbs).pattern backend.tooLarge) :=
    backend.buildAnchored_chain hss (by simp [hs]) hlast.toList_pattern
  unfold test
  rw [compile_ofVerbs backend hplain hlast hcase]
  split
  next hsize =>
    rw [if_pos (backend.size_le_of_anchored hsize)]
    have hmatch := backend.isMatch_anchored (chainExpression false verbs)
      ((ofVerbs verbs).tested input).toList
    refine ⟨_, ?_, hmatch.trans covers_chainRegex⟩
    simp only [Except.bind, hglobal, Compiled.fullMatch, Compiled.anchoredProgram, hanchored,
      if_pos hsize, Backend.isMatch_programOf]
    rfl
  next hsize =>
    by_cases hsearch : (chainExpression false verbs).size ≤ Regular.sizeLimit
    · rw [if_pos hsearch]
      simp only [Except.bind, hglobal, Compiled.fullMatch, Compiled.anchoredProgram, hanchored,
        if_neg hsize]
      rfl
    · rw [if_neg hsearch]
      rfl

theorem test_iff_mem_chainLanguage_of_alternative :
    (ofVerbs [.startOfLine true, .andThen "a", .alt "b", .maybe "c"]).test .extended "bc\nd" =
        .ok true ∧
      ['b', 'c'] ∈ chainLanguage [.startOfLine true, .andThen "a", .alt "b", .maybe "c"] := by
  have htest : (ofVerbs [.startOfLine true, .andThen "a", .alt "b", .maybe "c"]).test .extended
      "bc\nd" = .ok true := by decide +kernel
  have h := @test_iff_mem_chainLanguage
    [.startOfLine true, .andThen "a", .alt "b", .maybe "c"] (by decide) (by decide) rfl rfl
    .extended "bc\nd"
  rw [if_pos (by decide)] at h
  obtain ⟨b, hb, hiff⟩ := h
  obtain rfl : b = true := Except.ok.inj (hb.symm.trans htest)
  exact ⟨htest, hiff.mp rfl⟩

end Expression

end Verbal
