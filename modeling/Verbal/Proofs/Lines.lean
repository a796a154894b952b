import Verbal.Proofs.Groups

/-!
# Only the first line is tested

Unless all lines count, a test looks at what stands before the first line end of its input and at
nothing behind it. What asks for a line end is then never found; a replacement goes through all of
its source.

* `Expression.test_line`: what stands behind the first line end makes no difference.
* `SegmentSpans.newline_mem`: where what calls for a line break matches, the text has a line end.
* `Expression.test_linebreak`: a chain that calls for one in every alternative passes no input.
* **`Expression.lines_reduced`**: what a test sees of lines, and what a replacement does.
-/

namespace Verbal

open Verbal.Regular (Regex)

/-! ## First lines -/

section Lines

variable {x : String}

theorem newline_not_mem_firstLine (input : String) : '\n' ∉ (firstLine input).toList := by
  rw [firstLine, String.toList_ofList]
  intro h
  cases List.mem_takeWhile_imp h

theorem bne_newline (h : '\n' ∉ x.toList) : ∀ c ∈ x.toList, (c != '\n') = true :=
  fun _ hc => bne_iff_ne.mpr fun heq => h (heq ▸ hc)

/-- A text without line ends stands before its first line end, whatever follows that. -/
theorem firstLine_append (h : '\n' ∉ x.toList) (y : String) : firstLine (x ++ "\n" ++ y) = x := by
  have htext : (x ++ "\n" ++ y).toList = x.toList ++ '\n' :: y.toList := by simp
  rw [firstLine, htext, List.takeWhile_append_of_pos (bne_newline h),
    List.takeWhile_cons_of_neg (by decide), List.append_nil, String.ofList_toList]

theorem firstLine_of_not_mem (h : '\n' ∉ x.toList) : firstLine x = x := by
  rw [firstLine, List.takeWhile_eq_self_iff.mpr (bne_newline h), String.ofList_toList]

end Lines

namespace Expression

variable {e : Expression} {x : String}

theorem tested_of_lines (h : e.modifiers.contains .multiline = false) (input : String) :
    e.tested input = firstLine input := by
  rw [tested, if_neg (by simp [h])]

/-- A test is settled by what is tested of its input. -/
theorem test_eq_of_tested {y : String} (h : e.tested x = e.tested y) (backend : Backend) :
    e.test backend x = e.test backend y := by
  simp only [test, h]

/-- **What stands behind the first line end makes no difference** to a test. -/
theorem test_line (h : e.modifiers.contains .multiline = false) (hx : '\n' ∉ x.toList) (y : String)
    (backend : Backend) : e.test backend (x ++ "\n" ++ y) = e.test backend x := by
  refine test_eq_of_tested ?_ backend
  rw [tested_of_lines h, tested_of_lines h, firstLine_append hx, firstLine_of_not_mem hx]

/-- Of a single line, all is tested in either way. -/
theorem test_allLines (h : e.modifiers.contains .multiline = false) (hx : '\n' ∉ x.toList)
    (backend : Backend) : (e.setModifier .multiline true).test backend x = e.test backend x := by
  have hall : (e.setModifier .multiline true).tested x = e.tested x := by
    rw [tested_of_lines h, firstLine_of_not_mem hx, tested]
    exact if_pos rfl
  unfold test
  rw [hall]
  rfl

end Expression

/-! ## Line breaks -/

section Breaks

variable {anyCase : Bool} {text : List Char} {i j k : Nat} {verbs s : List Verb}

theorem segments_of_no_alt (h : ∀ v ∈ verbs, v.isAlt = false) : segments verbs = [verbs] := by
  induction verbs with
  | nil => rfl
  | cons v verbs ih =>
    obtain ⟨hv, hverbs⟩ := List.forall_mem_cons.mp h
    rw [segments_cons hv, ih hverbs, List.modifyHead_cons]

/-- A line break is the same whether or not case is ignored. -/
theorem reads_linebreak {r : Regex} (hr : Verb.linebreak.regex? anyCase = some r) :
    r.Reads Verb.linebreak.language := by
  cases anyCase with
  | false => exact Verb.reads_of_regex hr
  | true =>
    cases hr
    have hcaseless : ∀ c ∈ ['\r', '\n'], Unicode.caseVariants c = [c] :=
      List.forall_mem_cons.mpr
        ⟨by decide +kernel, List.forall_mem_singleton.mpr (by decide +kernel)⟩
    have htext (text : List Char) (h : text ⊆ ['\r', '\n']) :
        (Regex.ofText true text).Reads {text} := by
      refine (Regex.reads_ofText true text).congr fun w => ?_
      rw [Regex.spelled_of_caseless fun c hc => hcaseless c (h hc)]
      exact Regex.mem_spelled.symm
    exact (htext ['\n'] (List.subset_cons_self _ _)).alternate
      (htext ['\r', '\n'] (List.Subset.refl _))

theorem newline_mem_of_linebreak {w : List Char} (h : w ∈ Verb.linebreak.language) : '\n' ∈ w := by
  rcases h with rfl | rfl <;> decide

/-- **Where a segment with a line break matches, the text has a line end.** -/
theorem SegmentSpans.newline_mem (h : SegmentSpans anyCase s text i j) (hs : .linebreak ∈ s)
    (hi : i ≤ text.length) : '\n' ∈ text := by
  obtain ⟨front, back, rfl⟩ := List.append_of_mem hs
  obtain ⟨r, hr⟩ : ∃ r, Verb.linebreak.regex? anyCase = some r := ⟨_, rfl⟩
  rw [SegmentSpans, List.filterMap_append, List.filterMap_cons_some hr,
    Regex.spans_sequence_append] at h
  obtain ⟨k, hfront, hrest⟩ := h
  obtain ⟨k', hbreak, -⟩ := (Regex.spans_sequence_cons _).mp hrest
  have hk : k ≤ text.length := hfront.le_length hi
  obtain ⟨w, v, hdrop, -, hw⟩ := ((reads_linebreak hr).spans_iff hk).mp hbreak
  have hmem : '\n' ∈ text.drop k := by
    rw [hdrop]
    exact List.mem_append_left v (newline_mem_of_linebreak hw)
  exact List.mem_of_mem_drop hmem

/-- **A chain with a line break in every segment matches nowhere in a single line.** -/
theorem not_spans_of_linebreak (hbreak : ∀ s ∈ segments verbs, .linebreak ∈ s)
    (htext : '\n' ∉ text) (hi : i ≤ text.length) :
    ¬(chainExpression anyCase verbs).Spans text i j := by
  rw [spans_chainExpression hi]
  rintro ⟨k, ⟨s, hs, hspans⟩, -, -⟩
  exact htext (hspans.newline_mem (hbreak s (List.mem_of_getElem? hs)) hi)

end Breaks

namespace Expression

variable {verbs : List Verb}

/-- What a test needs room for: the pattern of a chain, and what has to cover the text around it. -/
def testedSize (verbs : List Verb) : Nat :=
  (chainExpression ((ofVerbs verbs).modifiers.contains .anyCase) verbs).size +
    if (ofVerbs verbs).modifiers.contains .global then 0 else 64

/-- **What has a line break in every alternative is found in no first line.** -/
theorem test_linebreak (hplain : ∀ v ∈ verbs, v.IsPlain) (hlast : LastAltAfterAnchors verbs)
    (hbreak : ∀ s ∈ segments verbs, .linebreak ∈ s)
    (hlines : (ofVerbs verbs).modifiers.contains .multiline = false) (backend : Backend)
    (input : String) :
    (ofVerbs verbs).test backend input =
      if testedSize verbs ≤ Regular.sizeLimit then .ok false
      else .error (.invalidPattern (ofVerbs verbs).pattern backend.tooLarge) := by
  have hcompile := compile_ofVerbs backend hplain hlast rfl
  have hfull := fullMatch_chain hplain hlast ((ofVerbs verbs).modifiers.contains .anyCase)
    (firstLine input) backend
  unfold testedSize
  generalize (ofVerbs verbs).modifiers.contains .anyCase = anyCase at hcompile hfull ⊢
  have hnowhere (i j : Nat) (hi : i ≤ (firstLine input).toList.length) :
      ¬(chainExpression anyCase verbs).Spans (firstLine input).toList i j :=
    not_spans_of_linebreak hbreak (newline_not_mem_firstLine input) hi
  by_cases hsize : (chainExpression anyCase verbs).size ≤ Regular.sizeLimit
  · rw [if_pos hsize] at hcompile
    rw [test_of_compile hcompile, tested_of_lines hlines]
    cases (ofVerbs verbs).modifiers.contains .global with
    | true =>
      rw [if_pos rfl, if_pos rfl, Nat.add_zero, if_pos hsize, Backend.isMatch_programOf]
      refine congrArg Except.ok (Bool.eq_false_iff.mpr fun hfound => ?_)
      obtain ⟨i, j, hi, hspans⟩ := (Regular.isMatch_iff _ _).mp hfound
      exact hnowhere i j hi hspans
    | false =>
      rw [if_neg Bool.false_ne_true, if_neg Bool.false_ne_true, hfull, Backend.isMatch_programOf]
      refine if_congr Iff.rfl (congrArg Except.ok (Bool.eq_false_iff.mpr fun hfound => ?_)) rfl
      exact hnowhere 0 _ (Nat.zero_le _) ((Backend.isMatch_anchored ..).mp hfound)
  · rw [if_neg hsize] at hcompile
    rw [test_of_compile_eq_error hcompile, if_neg (by omega)]

/-- **What tests and replacements see of lines.** Unless all lines count, a test answers alike to an
input and to what stands before its first line end, and as if all lines counted to that; whether it
is an answer or a failure. A chain of plain verbs that calls for a line break and makes no
alternatives therefore passes no input, whether it has to cover the text or is looked for in it,
unless its pattern is too large. To replacements it makes no difference which lines a test looks at,
or whether it looks anywhere. -/
theorem lines_reduced (backend : Backend) :
    (∀ e : Expression, e.modifiers.contains .multiline = false →
      ∀ x y : String, '\n' ∉ x.toList →
        e.test backend (x ++ "\n" ++ y) = e.test backend x ∧
        (e.setModifier .multiline true).test backend x = e.test backend x) ∧
    (∀ verbs : List Verb, (∀ v ∈ verbs, v.IsPlain) → (∀ v ∈ verbs, v.isAlt = false) →
      .linebreak ∈ verbs → (ofVerbs verbs).modifiers.contains .multiline = false →
      ∀ input, (ofVerbs verbs).test backend input =
        if testedSize verbs ≤ Regular.sizeLimit then .ok false
        else .error (.invalidPattern (ofVerbs verbs).pattern backend.tooLarge)) ∧
    ∀ (e : Expression) (anywhere allLines : Bool) (source replacement : String),
      (e.looking anywhere allLines).replace backend source replacement =
        e.replace backend source replacement := by
  refine ⟨fun e h x y hx => ⟨test_line h hx y backend, test_allLines h hx backend⟩,
    fun verbs hplain halt hbreak hlines => ?_, fun e anywhere allLines source replacement => rfl⟩
  refine test_linebreak hplain (Or.inl halt) ?_ hlines backend
  rw [segments_of_no_alt halt]
  exact List.forall_mem_singleton.mpr hbreak

/-- A line break is not found though what stands around it could read one as well; a pattern that is
refused is refused whatever follows the first line; and without a line end, all is tested anyway. -/
theorem lines_reduced_of_anything :
    (ofVerbs [.somethingBut "b", .linebreak, .anythingBut "c", .searchGlobal true,
      .anyCase true]).test .extended "a\r\na" = .ok false ∧
    (empty.append "a(").test .regular ("a" ++ "\n" ++ "b") = (empty.append "a(").test .regular "a" ∧
    ((empty.append "a|b").setModifier .multiline true).test .regular "a" = .ok true := by
  obtain ⟨-, hbreak, -⟩ := lines_reduced .extended
  obtain ⟨hlines, -, -⟩ := lines_reduced .regular
  refine ⟨?_, (hlines (empty.append "a(") rfl "a" "b" (by decide)).1, ?_⟩
  · rw [hbreak _ (by decide) (by decide) (by decide) (by decide), if_pos (by decide)]
  · rw [(hlines (empty.append "a|b") rfl "a" "b" (by decide)).2]
    decide +kernel

/-- A chain with a text for which a pattern has no room passes no input either, and the failure is
reported instead. -/
theorem test_linebreak_of_long :
    (∀ v ∈ [Verb.andThen (String.ofList (List.replicate 500000 'a')), .linebreak], v.IsPlain) ∧
      ∀ backend : Backend,
        (ofVerbs [.andThen (String.ofList (List.replicate 500000 'a')), .linebreak]).test backend
          "" = .error (.invalidPattern
            (ofVerbs [.andThen (String.ofList (List.replicate 500000 'a')), .linebreak]).pattern
              backend.tooLarge) := by
  have hplain : ∀ v ∈ [Verb.andThen (String.ofList (List.replicate 500000 'a')), .linebreak],
      v.IsPlain :=
    List.forall_mem_cons.mpr ⟨isPlainText_replicate (by decide),
      List.forall_mem_singleton.mpr trivial⟩
  refine ⟨hplain, fun backend => ?_⟩
  have hsize := @length_le_size_of_andThen [.linebreak] (String.ofList (List.replicate 500000 'a'))
  rw [String.toList_ofList, List.length_replicate] at hsize
  have hlimit : Regular.sizeLimit < 500000 * 32 := by decide
  have hcase : (ofVerbs [.andThen (String.ofList (List.replicate 500000 'a')),
      .linebreak]).modifiers.contains .anyCase = false := rfl
  have hcompile := compile_ofVerbs backend hplain (Or.inl (by decide)) hcase
  rw [if_neg (by omega)] at hcompile
  exact test_of_compile_eq_error hcompile _

end Expression

end Verbal
