import Verbal.Proofs.Classes
import Verbal.Proofs.Failures

/-!
# Ranges on their own

The bounds of ranges are written into a class as they are. Where none of them means anything there
but itself, the class holds what the ranges hold. A caret in front of the first range does mean
something: it turns the class into its complement.

* **`Expression.test_ranges`**: what passes legible ranges is one character of theirs, unless they
  are refused.
* **`Expression.test_ranges_of_caret`**: with a caret in front, it is one character of none of them.
-/

namespace Verbal

open Verbal.Unicode
open Verbal.Regular (Ast ClassItem)

variable {pairs : List (Char × Char)}

/-- The characters in the ranges. -/
def rangesOf (pairs : List (Char × Char)) : CharSet := .unions (pairs.map fun p => .range p.1 p.2)

theorem contains_rangesOf {c : Char} :
    (rangesOf pairs).contains c = true ↔ ∃ p ∈ pairs, p.1 ≤ c ∧ c ≤ p.2 := by
  rw [rangesOf, contains_unions]
  simp [CharSet.contains]

/-! ## The class of the ranges -/

section Legible

theorem not_mem_rangesText (h : ∀ p ∈ pairs, IsLegibleRange p) :
    ∀ c ∈ pairs.flatMap rangeText, c ∉ ['\\', ']'] := by
  intro c hc
  obtain ⟨p, hp, hc⟩ := List.mem_flatMap.mp hc
  obtain ⟨hlo, hhi, -⟩ := h p hp
  have hcases : c = p.1 ∨ c = '-' ∨ c = p.2 := by simpa [rangeText] using hc
  rcases hcases with rfl | rfl | rfl
  · exact fun hmem => hlo (List.mem_append_left ['-'] hmem)
  · simp
  · exact fun hmem => hhi (List.mem_append_left ['-'] hmem)

theorem bracket_mem_rangesText :
    '[' ∈ pairs.flatMap rangeText ↔ ∃ p ∈ pairs, p.1 = '[' ∨ p.2 = '[' := by
  simp [rangeText, eq_comm]

theorem letters_rangesText (h : ∀ p ∈ pairs, IsLegibleRange p)
    (hopen : ∀ p ∈ pairs, p.1 ≠ '[' ∧ p.2 ≠ '[') :
    ∀ c ∈ pairs.flatMap rangeText, c ∉ ['\\', '[', ']'] := by
  intro c hc
  have hbracket : c ≠ '[' := by
    rintro rfl
    obtain ⟨p, hp, hbound⟩ := bracket_mem_rangesText.mp hc
    exact hbound.elim (hopen p hp).1 (hopen p hp).2
  have := not_mem_rangesText h c hc
  simp_all

theorem first_rangesText (h : AreLegibleRanges pairs) :
    ∃ c rest, pairs.flatMap rangeText = c :: rest ∧ c ≠ '^' := by
  obtain ⟨p, pairs, rfl⟩ := List.exists_cons_of_ne_nil h.ne_nil
  exact ⟨p.1, '-' :: p.2 :: pairs.flatMap rangeText, rfl, by simpa using h.first⟩

theorem isClassText_of_legible (h : AreLegibleRanges pairs) (hopen : ∀ p ∈ pairs, p.1 ≠ '[') :
    IsClassText false false (pairs.flatMap rangeText) (rangesOf pairs) where
  first := first_rangesText h
  items := ⟨pairs.map .ofPair, Regular.readClass_pairs h hopen, Ast.denotes_pairs_class false pairs⟩

open Regular in
/-- A bracket as a lower bound opens a class that takes the bracket behind the ranges. -/
theorem Regular.readItems_ranges_unclosed {cls : OpenClass} (h : ∀ p ∈ pairs, IsLegibleRange p)
    (hopen : ∃ p ∈ pairs, p.1 = '[') (x : ClassItem × List Char) :
    (readItems false [] cls (pairs.flatMap rangeText ++ [']'])).text ≠ .ok x := by
  induction pairs generalizing cls with
  | nil => simp at hopen
  | cons p pairs ih =>
    obtain ⟨hp, hpairs⟩ := List.forall_mem_cons.mp h
    rw [List.flatMap_cons, List.append_assoc]
    by_cases hbracket : p.1 = '['
    · intro hok
      have htext : rangeText p ++ (pairs.flatMap rangeText ++ [']']) =
          '[' :: '-' :: p.2 :: (pairs.flatMap rangeText ++ [']']) := by simp [rangeText, hbracket]
      rw [htext, readItems_text] at hok
      obtain ⟨⟨inner, r⟩, hopening, hitems⟩ := bind_eq_ok.mp hok
      have htwo : 1 < r.count ']' := length_lt_count hitems
      have hone := (suffix_of_readOpening hopening).sublist.count_le ']'
      have hhi : p.2 ≠ ']' := fun heq => hp.2.1 (by simp [heq])
      have hnone : (pairs.flatMap rangeText).count ']' = 0 :=
        List.count_eq_zero.mpr fun hmem => not_mem_rangesText hpairs ']' hmem (by simp)
      rw [List.count_cons_of_ne (by decide), List.count_cons_of_ne hhi, List.count_append,
        hnone] at hone
      exact absurd htwo (Nat.not_lt.mpr hone)
    · rw [readItems_pair hp hbracket]
      exact ih hpairs (by simpa [hbracket] using hopen)

open Regular in
theorem Regular.readClass_ranges_unclosed (h : AreLegibleRanges pairs)
    (hopen : ∃ p ∈ pairs, p.1 = '[') (x : ClassItem × List Char) :
    (readClass false (pairs.flatMap rangeText ++ [']'])).text ≠ .ok x := by
  rw [readClass_text, readOpening_pairs h]
  exact readItems_ranges_unclosed h.ranges hopen x

end Legible

namespace Expression

/-- The expression of ranges only, without a modifier but the one that takes all lines. -/
def ofRanges (pairs : List (Char × Char)) (allLines : Bool) : Expression :=
  (ofVerbs [.range pairs]).looking false allLines

theorem toList_pattern_ofRanges (allLines : Bool) :
    (ofRanges pairs allLines).pattern.toList = classText false (pairs.flatMap rangeText) := by
  simp [ofRanges, looking, setModifier, ofVerbs, applyAll, apply, append, empty, pattern,
    Verb.fragment, classText, Extended.negation]

/-- Where a bound is a bracket that a dialect takes for one, the ranges are refused. -/
theorem build_ranges_refused (h : AreLegibleRanges pairs) {backend : Backend}
    (hopen : ∃ p ∈ pairs, p.1 = '[' ∨ backend = .extended ∧ p.2 = '[') {pattern : String}
    (hpattern : pattern.toList = classText false (pairs.flatMap rangeText)) :
    ∃ reason, backend.build false pattern = .error reason := by
  cases backend with
  | regular =>
    obtain ⟨fault, hfault⟩ : ∃ fault, Regular.Program.compile false
        (classText false (pairs.flatMap rangeText)) = .error fault :=
      Regular.compile_class_unread (Regular.readClass_ranges_unclosed h (by simpa using hopen))
    exact ⟨_, build_regular_eq_error.mpr ⟨fault, hpattern ▸ hfault, rfl⟩⟩
  | extended =>
    have hmem : '[' ∈ pairs.flatMap rangeText := bracket_mem_rangesText.mpr (by simpa using hopen)
    exact ⟨_, Backend.build_extended_of_error (by
      rw [hpattern, Extended.compile_class_unclosed (first_rangesText h)
        (not_mem_rangesText h.ranges) hmem])⟩

/-- **Legible ranges mean what they say**: what passes is one character that lies in one of them.
Otherwise the pattern is invalid, because a bound is a bracket that the dialect takes for one, or
because the class is too large. -/
theorem test_ranges (h : AreLegibleRanges pairs) (backend : Backend) (allLines : Bool)
    (input : String) :
    if ∃ p ∈ pairs, p.1 = '[' ∨ backend = .extended ∧ p.2 = '[' then
      ∃ reason, (ofRanges pairs allLines).compile backend =
        .error (.invalidPattern (ofRanges pairs allLines).pattern reason)
    else if Regular.setSize (rangesOf pairs) + 64 ≤ Regular.sizeLimit then
      ∃ b, (ofRanges pairs allLines).test backend input = .ok b ∧
        (b = true ↔ ∃ c, (if allLines then input else firstLine input).toList = [c] ∧
          ∃ p ∈ pairs, p.1 ≤ c ∧ c ≤ p.2)
    else (ofRanges pairs allLines).test backend input =
      .error (.invalidPattern (ofRanges pairs allLines).pattern backend.tooLarge) := by
  have hpattern := @toList_pattern_ofRanges pairs allLines
  split
  next hopen =>
    obtain ⟨reason, hbuild⟩ := build_ranges_refused h hopen hpattern
    refine ⟨reason, ?_⟩
    unfold compile Backend.compile
    rw [show (ofRanges pairs allLines).modifiers.contains .anyCase = false from rfl, hbuild]
  next hopen =>
    simp only [not_exists, not_and, not_or] at hopen
    have hletters (hbackend : backend = .extended) : ∀ c ∈ pairs.flatMap rangeText,
        c ∉ ['\\', '[', ']'] :=
      letters_rangesText h.ranges fun p hp => ⟨(hopen p hp).1, (hopen p hp).2 hbackend⟩
    have htest := test_classText (e := ofRanges pairs allLines) rfl rfl hpattern
      (isClassText_of_legible h fun p hp => (hopen p hp).1) backend hletters input
    simp only [contains_rangesOf] at htest
    exact htest

theorem test_ranges_of_space :
    AreLegibleRanges [(' ', '&'), ('&', '['), ('é', 'ω')] ∧
      (ofRanges [(' ', '&'), ('&', '['), ('é', 'ω')] true).test .regular "λ" = .ok true := by
  have h : AreLegibleRanges [(' ', '&'), ('&', '['), ('é', 'ω')] := by decide
  have htest := test_ranges h .regular true "λ"
  rw [if_neg (by decide), if_pos (by decide)] at htest
  obtain ⟨b, hb, hiff⟩ := htest
  obtain rfl : b = true := hiff.mpr ⟨'λ', rfl, by decide⟩
  exact ⟨h, hb⟩

end Expression

/-! ## Ranges with a caret in front -/

section Caret

variable {b : Char}

/-- The characters that a class with such a range holds: its bounds are not those of a range. -/
def exceptCaret (b : Char) (pairs : List (Char × Char)) : CharSet :=
  .compl (.unions (.single '-' :: .single b :: pairs.map fun p => .range p.1 p.2))

theorem contains_exceptCaret {c : Char} :
    (exceptCaret b pairs).contains c = true ↔
      c ≠ '-' ∧ c ≠ b ∧ ∀ p ∈ pairs, ¬(p.1 ≤ c ∧ c ≤ p.2) := by
  rw [exceptCaret, CharSet.contains, Bool.not_eq_true', ← Bool.not_eq_true, contains_unions]
  simp [contains_single, CharSet.contains]

theorem notMem_of_caret_le (hb : '^' ≤ b) {cs : List Char}
    (hcs : (cs.all fun c => c < '^') = true) : b ∉ cs :=
  fun hmem => absurd hb (Char.not_le.mpr (of_decide_eq_true (List.all_eq_true.mp hcs b hmem)))

open Regular in
theorem Regular.readClass_caret (hb : '^' ≤ b) (h : ∀ p ∈ pairs, IsLegibleRange p)
    (hopen : ∀ p ∈ pairs, p.1 ≠ '[') (hnext : pairs.head?.map Prod.fst ≠ some b) (r : List Char) :
    (readClass false ('^' :: '-' :: b :: (pairs.flatMap rangeText ++ ']' :: r))).text =
      .ok (.bracketed true (.ofItems (.ofChar '-' :: .ofChar b :: pairs.map .ofPair)), r) := by
  have hletter : b ∉ ['\\', '[', ']', '-'] := notMem_of_caret_le hb rfl
  simp only [List.mem_cons, List.not_mem_nil, or_false, not_or] at hletter
  have hopening (s : List Char) : (readOpening false ('^' :: '-' :: b :: s)).text =
      .ok (⟨true, none, [.ofChar '-']⟩, b :: s) := by
    rw [readOpening_text, afterBlanks, skipBlanks_false]
    dsimp only
    rw [if_pos (beq_self_eq_true '^'), skipBlanks_false, readDashes_cons, if_pos rfl,
      skipBlanks_false, readDashes_cons, if_neg hletter.2.2.2]
    simp [Except.bind, readFirstBracket_cons, hletter.2.2.1, OpenClass.push, ClassItem.ofChar]
  -- what follows the bound makes neither a range nor an operator of it
  obtain ⟨d, s, hs, hdash, hd⟩ :
      ∃ d s, pairs.flatMap rangeText ++ ']' :: r = d :: s ∧ d ≠ '-' ∧ d ≠ b := by
    cases pairs with
    | nil => exact ⟨']', r, rfl, by decide, Ne.symm hletter.2.2.1⟩
    | cons p pairs =>
      have hlo := (h p List.mem_cons_self).1
      exact ⟨p.1, _, rfl, fun heq => hlo (by simp [heq]), by simpa using hnext⟩
  have hoperator : readItems.operator? b (d :: s) = none := by
    simp [readItems.operator?, hd]
  rw [readClass_text, hopening]
  simp only [Except.bind]
  rw [hs, readItems_cons (by simp [hletter]) hoperator (readRange_char hletter.1 hdash), ← hs,
    readItems_pairs h hopen, readItems_close]
  simp [OpenClass.close, OpenClass.set, OpenClass.push]

theorem isClassText_of_caret (hb : '^' ≤ b) (h : ∀ p ∈ pairs, IsLegibleRange p)
    (hopen : ∀ p ∈ pairs, p.1 ≠ '[') (hnext : pairs.head?.map Prod.fst ≠ some b) :
    IsClassText false true ('-' :: b :: pairs.flatMap rangeText) (exceptCaret b pairs) where
  first := ⟨_, _, rfl, by decide⟩
  items := by
    refine ⟨_, Regular.readClass_caret hb h hopen hnext, ?_⟩
    refine @Ast.denotes_class false true _
      (.single '-' :: .single b :: pairs.map fun p => .range p.1 p.2) ?_ ?_
    · refine .cons rfl (.cons rfl ?_)
      rw [List.forall₂_map_left_iff, List.forall₂_map_right_iff, List.forall₂_same]
      exact fun p _ => rfl
    · simp only [List.forall_mem_cons, List.forall_mem_map]
      exact ⟨fun _ => rfl, fun _ => rfl, fun p _ _ => rfl⟩

/-- **A caret as the first bound turns ranges into their complement**, from which the other bound of
that range and the dash are missing as well; the next range must not begin with that bound. -/
theorem Expression.test_ranges_of_caret (hb : '^' ≤ b) (h : ∀ p ∈ pairs, IsLegibleRange p)
    (hopen : ∀ p ∈ pairs, p.1 ≠ '[' ∧ p.2 ≠ '[') (hnext : pairs.head?.map Prod.fst ≠ some b)
    (backend : Backend) (allLines : Bool) (input : String) :
    if Regular.setSize (exceptCaret b pairs) + 64 ≤ Regular.sizeLimit then
      ∃ answer, (ofRanges (('^', b) :: pairs) allLines).test backend input = .ok answer ∧
        (answer = true ↔ ∃ c, (if allLines then input else firstLine input).toList = [c] ∧
          c ≠ '-' ∧ c ≠ b ∧ ∀ p ∈ pairs, ¬(p.1 ≤ c ∧ c ≤ p.2))
    else (ofRanges (('^', b) :: pairs) allLines).test backend input = .error
      (.invalidPattern (ofRanges (('^', b) :: pairs) allLines).pattern backend.tooLarge) := by
  have hpattern : (ofRanges (('^', b) :: pairs) allLines).pattern.toList =
      classText true ('-' :: b :: pairs.flatMap rangeText) :=
    (toList_pattern_ofRanges allLines).trans (by simp [classText, Extended.negation, rangeText])
  have hletters : ∀ c ∈ '-' :: b :: pairs.flatMap rangeText, c ∉ ['\\', '[', ']'] :=
    List.forall_mem_cons.mpr ⟨by decide, List.forall_mem_cons.mpr
      ⟨notMem_of_caret_le hb rfl, letters_rangesText h hopen⟩⟩
  have htest := test_classText (e := ofRanges (('^', b) :: pairs) allLines) rfl rfl hpattern
    (isClassText_of_caret hb h (fun p hp => (hopen p hp).1) hnext) backend (fun _ => hletters) input
  simp only [contains_exceptCaret] at htest
  exact htest

/-- So what is below the range passes it, and its upper bound does not. -/
theorem Expression.ranges_lost_of_caret :
    ((ofRanges [('^', 'z')] true).test .regular "A" = .ok true ∧
      (ofRanges [('^', 'z')] true).test .regular "z" = .ok false) ∧
    (ofRanges [('^', 'z')] true).test .extended "A" = .ok true ∧
      (ofRanges [('^', 'z')] true).test .extended "z" = .ok false := by
  have htest (backend : Backend) {input : String} {c : Char} (hinput : input.toList = [c]) :
      (ofRanges [('^', 'z')] true).test backend input = .ok (decide (c ≠ '-' ∧ c ≠ 'z')) := by
    have h := @test_ranges_of_caret [] 'z' (by decide) (List.forall_mem_nil _)
      (List.forall_mem_nil _) nofun backend true input
    rw [if_pos (by decide)] at h
    obtain ⟨answer, hanswer, hiff⟩ := h
    rw [hanswer]
    refine congrArg Except.ok (Bool.eq_iff_iff.mpr (hiff.trans ?_))
    simp [hinput]
  exact ⟨⟨htest .regular (c := 'A') rfl, htest .regular (c := 'z') rfl⟩,
    htest .extended (c := 'A') rfl, htest .extended (c := 'z') rfl⟩

end Caret

end Verbal
