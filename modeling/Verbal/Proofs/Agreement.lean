import Verbal.Proofs.Chains

/-!
# Where the backends agree

Both dialects read a chain of plain verbs as the same expression, and an expression is searched for
in the same way in both, so that their answers can differ in nothing but the reason for which a
pattern is refused.

* **`backends_agree`**: the backends answer alike to every test and to every replacement that refers
  to no group.
* `replaceAll_programOf`: such a replacement puts the same text in the place of every match.
* `anchored_size_iff`: a pattern that has to cover the text is too large for both backends or for
  none.
-/

namespace Verbal

open Verbal.Regular (Regex)

/-! ## Replacements that refer to nothing -/

theorem ReferenceRule.pieces_of_not_mem (rule : ReferenceRule) {text : List Char}
    (h : '$' ∉ text) : rule.pieces 0 text = text.map .char := by
  induction text with
  | nil => rfl
  | cons c text ih =>
    obtain ⟨hc, htext⟩ := not_or.mp (mt List.mem_cons.mpr h)
    rw [pieces, if_neg (not_not_intro rfl), if_pos (Ne.symm hc), ih htext, List.map_cons]

theorem expandPieces_chars (reference : List Char → List Char) (text : List Char) :
    expandPieces reference (text.map .char) = text := by
  induction text with
  | nil => rfl
  | cons c text ih => rw [List.map_cons, expandPieces, ih]

namespace Backend

variable {r : Regex} {text replacement : String}

/-- What each match is replaced by, if the replacement refers to nothing. -/
theorem expansion_programOf (backend : Backend) (h : '$' ∉ replacement.toList) (m : Match) :
    (backend.programOf r).expansion text.toList replacement.toList m = replacement.toList := by
  cases backend <;>
    simp only [programOf, Program.expansion, ReferenceRule.pieces_of_not_mem _ h,
      expandPieces_chars]

theorem replaced_programOf (backend : Backend) :
    (backend.programOf r).replaced text.toList replacement.toList =
      .ok (Regular.Program.listMatches 0 none 0 ((r.unroll none).found text.toList)) := by
  cases backend <;> rfl

/-- The same text comes in the place of every match. -/
theorem replaceAll_programOf (backend : Backend) (h : '$' ∉ replacement.toList) :
    (backend.programOf r).replaceAll text replacement =
      .ok (String.ofList (splice text.toList (fun _ => replacement.toList) 0
        (Regular.Program.listMatches 0 none 0 ((r.unroll none).found text.toList)))) := by
  have hexpansion : (backend.programOf r).expansion text.toList replacement.toList =
      fun _ => replacement.toList := funext (backend.expansion_programOf h)
  unfold Program.replaceAll
  dsimp only
  rw [replaced_programOf, hexpansion]
  rfl

/-! ## Patterns that have to cover the text -/

/-- Of an expression that has to cover the text, the backends differ only in the smallest one. -/
theorem anchored_size_iff (backend : Backend) :
    (backend.anchored r).size ≤ Regular.sizeLimit ↔ r.size + 64 ≤ Regular.sizeLimit := by
  have hsmall : 96 ≤ Regular.sizeLimit := by decide
  have hwrapped : r.wrapped.size = r.size + 64 := by
    simp only [Regular.Regex.wrapped, Regex.size]
    omega
  cases backend with
  | regular => rw [← hwrapped]; rfl
  | extended =>
    by_cases hr : r = .empty
    · have hanchored : extended.anchored r = .concat (.look .startText) (.look .endText) :=
        if_pos hr
      rw [hanchored, hr]
      exact iff_of_true (Nat.le_trans (by decide) hsmall) hsmall
    · have hanchored : extended.anchored r = r.wrapped := if_neg hr
      rw [hanchored, hwrapped]

/-- Whether the whole text matches is the same in both dialects. -/
theorem isMatch_programOf_anchored (backend : Backend) :
    (backend.programOf (backend.anchored r)).isMatch text =
      (regular.programOf (regular.anchored r)).isMatch text := by
  rw [isMatch_programOf, isMatch_programOf]
  refine congrArg Except.ok (Bool.eq_iff_iff.mpr ?_)
  rw [isMatch_anchored, isMatch_anchored]

end Backend

/-! ## Answers -/

/-- Whether two backends answer alike: they give the same answer, or both refuse that pattern,
whatever reasons they give. -/
inductive Agree (pattern : String) {α : Type} : Except Failure α → Except Failure α → Prop
  | ok (a : α) : Agree pattern (.ok a) (.ok a)
  | refused (reason reason' : String) :
      Agree pattern (.error (.invalidPattern pattern reason))
        (.error (.invalidPattern pattern reason'))

namespace Expression

variable {verbs : List Verb}

/-- A chain of plain verbs is refused by every backend, or compiles to the same expression. -/
theorem compile_cases (hplain : ∀ v ∈ verbs, v.IsPlain) {anyCase : Bool}
    (hcase : (ofVerbs verbs).modifiers.contains .anyCase = anyCase) :
    (∀ backend, ∃ reason, (ofVerbs verbs).compile backend =
        .error (.invalidPattern (ofVerbs verbs).pattern reason)) ∨
      LastAltAfterAnchors verbs ∧ ∀ backend, (ofVerbs verbs).compile backend =
        .ok ⟨backend, (ofVerbs verbs).pattern, anyCase,
          backend.programOf (chainExpression anyCase verbs), none⟩ := by
  by_cases hlast : LastAltAfterAnchors verbs
  · by_cases hsize : (chainExpression anyCase verbs).size ≤ Regular.sizeLimit
    · refine Or.inr ⟨hlast, fun backend => ?_⟩
      rw [compile_ofVerbs backend hplain hlast hcase, if_pos hsize]
    · refine Or.inl fun backend => ⟨backend.tooLarge, ?_⟩
      rw [compile_ofVerbs backend hplain hlast hcase, if_neg hsize]
  · refine Or.inl fun backend => ?_
    obtain ⟨reason, -, hbuild⟩ := backend.build_refused hplain hlast
    refine ⟨reason, ?_⟩
    unfold compile Backend.compile
    rw [hbuild]

/-- A full match of what a chain compiles to. -/
theorem fullMatch_chain (hplain : ∀ v ∈ verbs, v.IsPlain) (hlast : LastAltAfterAnchors verbs)
    (anyCase : Bool) (text : String) (backend : Backend) :
    (⟨backend, (ofVerbs verbs).pattern, anyCase,
        backend.programOf (chainExpression anyCase verbs), none⟩ : Compiled).fullMatch text =
      if (chainExpression anyCase verbs).size + 64 ≤ Regular.sizeLimit then
        (Backend.regular.programOf
          (Backend.regular.anchored (chainExpression anyCase verbs))).isMatch text
      else .error (.invalidPattern (ofVerbs verbs).pattern backend.tooLarge) := by
  obtain ⟨s, ss, hs⟩ := exists_segments verbs
  have hbuild : backend.buildAnchored anyCase (ofVerbs verbs).pattern = _ :=
    backend.buildAnchored_chain (isPiece_of_mem_segments hplain) (by simp [hs])
      hlast.toList_pattern
  simp only [Compiled.fullMatch, Compiled.anchoredProgram, hbuild]
  change Except.bind (if (backend.anchored (chainExpression anyCase verbs)).size ≤
    Regular.sizeLimit then _ else _) _ = _
  by_cases hsize : (chainExpression anyCase verbs).size + 64 ≤ Regular.sizeLimit
  · rw [if_pos (backend.anchored_size_iff.mpr hsize), if_pos hsize]
    exact backend.isMatch_programOf_anchored
  · rw [if_neg (mt backend.anchored_size_iff.mp hsize), if_neg hsize]
    rfl

/-- **The backends agree on chains of plain verbs**, with the anchors and the alternatives in any
order and any modifiers set: on every test, and on every replacement that refers to no group. Where
they do not give the same answer, both refuse the pattern of the chain; neither ever gives up. -/
theorem backends_agree (hplain : ∀ v ∈ verbs, v.IsPlain) :
    (∀ input, Agree (ofVerbs verbs).pattern ((ofVerbs verbs).test .regular input)
      ((ofVerbs verbs).test .extended input)) ∧
      ∀ source replacement : String, '$' ∉ replacement.toList →
        Agree (ofVerbs verbs).pattern ((ofVerbs verbs).replace .regular source replacement)
          ((ofVerbs verbs).replace .extended source replacement) := by
  rcases compile_cases hplain rfl with hrefused | ⟨hlast, hcompile⟩
  · obtain ⟨reason, hregular⟩ := hrefused .regular
    obtain ⟨reason', hextended⟩ := hrefused .extended
    unfold test replace
    rw [hregular, hextended]
    exact ⟨fun _ => .refused _ _, fun _ _ _ => .refused _ _⟩
  · unfold test replace
    rw [hcompile, hcompile]
    refine ⟨fun input => ?_, fun source replacement hdollar => ?_⟩
    · simp only [Except.bind]
      by_cases hglobal : (ofVerbs verbs).modifiers.contains .global = true
      · rw [if_pos hglobal, if_pos hglobal, Backend.isMatch_programOf, Backend.isMatch_programOf]
        exact .ok _
      · rw [if_neg hglobal, if_neg hglobal, fullMatch_chain hplain hlast,
          fullMatch_chain hplain hlast]
        split
        · rw [Backend.isMatch_programOf]
          exact .ok _
        · exact .refused _ _
    · simp only [Except.bind]
      rw [Backend.replaceAll_programOf _ hdollar, Backend.replaceAll_programOf _ hdollar]
      exact .ok _

/-- An anchor after the alternative makes both refuse the pattern, and without it both find the
alternative in the whole input. -/
theorem backends_agree_of_alternative :
    Agree "^(?:a))|((?:b))"
        ((ofVerbs [.andThen "a", .alt "b", .startOfLine true]).test .regular "b")
        ((ofVerbs [.andThen "a", .alt "b", .startOfLine true]).test .extended "b") ∧
      Agree "((?:a))|((?:b))"
        ((ofVerbs [.andThen "a", .alt "b", .anyCase true]).replace .regular "xB\n" "c")
        ((ofVerbs [.andThen "a", .alt "b", .anyCase true]).replace .extended "xB\n" "c") ∧
      (ofVerbs [.andThen "a", .alt "b", .anyCase true]).replace .regular "xB\n" "c" =
        .ok "xc\n" :=
  ⟨(@backends_agree [.andThen "a", .alt "b", .startOfLine true] (by decide)).1 "b",
    (@backends_agree [.andThen "a", .alt "b", .anyCase true] (by decide)).2 "xB\n" "c"
      (by decide), by decide +kernel⟩

end Expression

end Verbal
