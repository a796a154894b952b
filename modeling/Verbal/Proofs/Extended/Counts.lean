import Verbal.Proofs.Extended.Continuations

/-!
# Counts with more text behind them

After a brace the reader looks ahead for a count, and where there is none the brace is a letter.
More text behind a pattern could only matter if the look ahead came to the end of the pattern, and
of a pattern that can be read to its end it does not matter then either.

* `Reads`: the rests of patterns that can be read.
* **`readCount?_append`**: whether there is a count, with more text behind.
-/

namespace Verbal.Extended

open Verbal.Regular (Repetition)

/-! ## Rests that can be read -/

theorem readAll_text (d : Draft) (s : List Char) :
    readAll d s = (Gap.outside.skip d.flags.verbose s).bind fun
      | [] => .ok d
      | c :: r => (readStep d c r).text.bind fun x => readAll x.1 x.2 := by
  rw [readAll]
  cases hskip : skipGaps d.flags.verbose s with
  | error e =>
    rw [skipGaps_eq_error hskip]
    rfl
  | ok u =>
    obtain ⟨u, hu⟩ := u
    rw [skipGaps_eq_ok.mp hskip]
    cases u with
    | nil => rfl
    | cons c u =>
      dsimp only [Except.bind]
      cases readStep d c u <;> rfl

/-- Whether a text can be read from somewhere on, in that mode. -/
def Reads (v : Bool) (s : List Char) : Prop :=
  ∃ d d', d.flags.verbose = v ∧ readAll d s = .ok d'

section Counts

variable {v : Bool} {s t : List Char}

theorem readAll_of_skip {d : Draft} {u : List Char}
    (h : Gap.outside.skip d.flags.verbose s = .ok u) : readAll d s = readAll d u := by
  rw [readAll_text, readAll_text d u, h, skip_skip h]

theorem readAll_of_step {d d' : Draft} {c : Char} {u r : List Char}
    (h : Gap.outside.skip d.flags.verbose s = .ok (c :: u))
    (hstep : (readStep d c u).text = .ok (d', r)) : readAll d s = readAll d' r := by
  rw [readAll_text, h]
  dsimp only [Except.bind]
  rw [hstep]

theorem readAll_nil (d : Draft) : readAll d [] = .ok d := by
  rw [readAll_text]
  cases d.flags.verbose <;> rfl

theorem Reads.skip (h : Reads v s) : ∃ u, Gap.outside.skip v s = .ok u ∧ Reads v u := by
  obtain ⟨d, d', rfl, hread⟩ := h
  obtain ⟨u, hu, -⟩ := bind_eq_ok.mp ((readAll_text d s).symm.trans hread)
  exact ⟨u, hu, d, d', rfl, (readAll_of_skip hu).symm.trans hread⟩

theorem readStep_literal {c : Char} (hc : c.isDigit = true ∨ c = ',') (d : Draft)
    (s : List Char) :
    (readStep d c s).text = .ok (d.push (.literal c d.flags.anyCase), s) := by
  have hne (e : Char) (he : e.isDigit = false) (he' : e ≠ ',') : c ≠ e := by
    rintro rfl
    rcases hc with hc | hc
    · rw [he] at hc
      cases hc
    · exact he' hc
  have h1 := hne '?' (by decide) (by decide)
  have h2 := hne '*' (by decide) (by decide)
  have h3 := hne '+' (by decide) (by decide)
  have hcount : countOf? c = none := by
    unfold countOf?
    split <;> simp_all
  unfold readStep
  rw [hcount]
  dsimp only
  split <;> first | rfl | exact absurd rfl (hne _ (by decide) (by decide))

theorem Reads.cons {c : Char} (hc : c.isDigit = true ∨ c = ',') (h : Reads v (c :: s)) :
    Reads v s := by
  obtain ⟨d, d', rfl, hread⟩ := h
  obtain ⟨u, hu, h⟩ := bind_eq_ok.mp ((readAll_text d (c :: s)).symm.trans hread)
  have hblank : isBlank c = false ∧ c ∉ ['#', '('] := by
    constructor
    · by_contra hblank
      simp only [isBlank, Bool.not_eq_false, Bool.or_eq_true, decide_eq_true_eq] at hblank
      rcases hblank with ((rfl | rfl) | rfl) | rfl <;> revert hc <;> decide
    · intro hmem
      simp only [List.mem_cons, List.not_mem_nil, or_false] at hmem
      rcases hmem with rfl | rfl <;> revert hc <;> decide
  rw [skip_cons hblank.1 hblank.2] at hu
  cases hu
  dsimp only at h
  rw [readStep_literal hc] at h
  refine ⟨d.push (.literal c d.flags.anyCase), d', ?_, h⟩
  rw [Draft.push_eq]

theorem Reads.dropDigits (h : Reads v s) : Reads v (s.dropWhile Char.isDigit) := by
  induction s with
  | nil => exact h
  | cons c s ih =>
    rw [List.dropWhile_cons]
    split
    · rename_i hc
      exact ih (h.cons (Or.inl hc))
    · exact h

/-! ## Looking ahead -/

theorem readMost_text (s : List Char) :
    ((readMost s).1, (readMost s).2.1) = match decimal? (s.takeWhile Char.isDigit) with
      | some n => (boundOf n, s.dropWhile Char.isDigit)
      | none => (none, s) := by
  unfold readMost
  cases decimal? (s.takeWhile Char.isDigit) <;> rfl

theorem readMost_append (ht : Benign t) :
    (readMost (s ++ t)).1 = (readMost s).1 ∧ (readMost (s ++ t)).2.1 = (readMost s).2.1 ++ t := by
  have hdigit := ht.head?_any_isDigit
  have hs := readMost_text s
  have hst := readMost_text (s ++ t)
  rw [takeWhile_append_of_head? hdigit, dropWhile_append_of_head? hdigit] at hst
  split at hs <;> simp_all

theorem Reads.readMost (h : Reads v s) : Reads v (readMost s).2.1 := by
  have hs := readMost_text s
  split at hs
  · rw [(Prod.mk.inj hs).2]
    exact h.dropDigits
  · rw [(Prod.mk.inj hs).2]
    exact h

theorem readBrace_text (v : Bool) (s : List Char) :
    (readBrace v s).map (·.1) = match Gap.outside.skip v s with
      | .ok (c :: r) => if c = '\x7d' then some r else none
      | _ => none := by
  unfold readBrace
  cases hskip : skipGaps v s with
  | error e =>
    rw [skipGaps_eq_error hskip]
    rfl
  | ok u =>
    obtain ⟨u, hu⟩ := u
    rw [skipGaps_eq_ok.mp hskip]
    cases u with
    | nil => rfl
    | cons c u =>
      dsimp only
      split <;> rfl

theorem readBrace_append (h : Reads v s) (ht : Benign t) :
    (readBrace v (s ++ t)).map (·.1) = ((readBrace v s).map (·.1)).map (· ++ t) := by
  obtain ⟨u, hu, -⟩ := h.skip
  obtain ⟨x, hx, hbenign, hne⟩ := skip_append hu ht
  rw [readBrace_text, readBrace_text, hu, hx]
  cases u with
  | nil =>
    cases x with
    | nil => rfl
    | cons c x =>
      have hc : c ≠ '\x7d' := fun hc => hbenign.head_ne (by decide) (congrArg some hc)
      simp [hc]
  | cons c u =>
    obtain rfl := hne nofun
    dsimp only [List.cons_append]
    split <;> rfl

/-- A count that was read, and what follows it. -/
def countText (x : Option (Repetition × Rest s)) : Option (Repetition × List Char) :=
  x.map fun y => (y.1, y.2.1)

/-- A count with more text behind it. -/
def countBefore (t : List Char) (x : Option (Repetition × List Char)) :
    Option (Repetition × List Char) :=
  x.map fun y => (y.1, y.2 ++ t)

theorem readBounds_text (v : Bool) (least : Nat) (s : List Char) :
    countText (readBounds v least s) = match Gap.outside.skip v s with
      | .ok (c :: r) =>
        if c = ',' then
          match Gap.outside.skip v r with
          | .ok u => ((readBrace v (readMost u).2.1).map (·.1)).map
              fun w => (⟨least, (readMost u).1⟩, w)
          | .error _ => none
        else ((readBrace v (c :: r)).map (·.1)).map fun w => (⟨least, boundOf least⟩, w)
      | _ => none := by
  unfold readBounds
  cases hskip : skipGaps v s with
  | error e =>
    rw [skipGaps_eq_error hskip]
    rfl
  | ok u =>
    obtain ⟨u, hu⟩ := u
    rw [skipGaps_eq_ok.mp hskip]
    cases u with
    | nil => rfl
    | cons c u =>
      dsimp only
      split
      · cases hskip' : skipGaps v u with
        | error e =>
          rw [skipGaps_eq_error hskip']
          rfl
        | ok w =>
          rw [skipGaps_eq_ok.mp hskip']
          dsimp only
          cases readBrace v (readMost w.1).2.1 <;> rfl
      · cases readBrace v (c :: u) <;> rfl

theorem map_countBefore (o : Option (List Char)) (count : Repetition) :
    (o.map (· ++ t)).map (fun w => (count, w)) = countBefore t (o.map fun w => (count, w)) := by
  cases o <;> rfl

theorem readBounds_append (h : Reads v s) (ht : Benign t) (least : Nat) :
    countText (readBounds v least (s ++ t)) = countBefore t (countText (readBounds v least s)) := by
  obtain ⟨u, hu, hreads⟩ := h.skip
  obtain ⟨x, hx, hbenign, hne⟩ := skip_append hu ht
  rw [readBounds_text, readBounds_text, hu, hx]
  cases u with
  | nil =>
    cases x with
    | nil => rfl
    | cons c x =>
      have hc : c ≠ ',' := fun hc => hbenign.head_ne (by decide) (congrArg some hc)
      have hc' : c ≠ '\x7d' := fun hc => hbenign.head_ne (by decide) (congrArg some hc)
      rw [List.nil_append] at hx ⊢
      simp only [if_neg hc, readBrace_text, skip_skip hx, if_neg hc']
      rfl
  | cons c u =>
    obtain rfl := hne nofun
    dsimp only [List.cons_append]
    split
    · rename_i hc
      obtain ⟨w, hw, hreads'⟩ := (hreads.cons (Or.inr hc)).skip
      obtain ⟨y, hy, hbenign', hne'⟩ := skip_append hw hbenign
      obtain ⟨hmost, hrest⟩ := readMost_append (s := w) hbenign'
      rw [hw, hy]
      dsimp only
      rw [hmost, hrest, readBrace_append hreads'.readMost hbenign']
      by_cases hnil : w = []
      · subst hnil
        rfl
      · rw [hne' hnil]
        exact map_countBefore _ _
    · have hbrace := readBrace_append hreads ht
      rw [List.cons_append] at hbrace
      rw [hbrace]
      exact map_countBefore _ _

theorem readCount?_text (v : Bool) (s : List Char) :
    countText (readCount? v s) = match Gap.outside.skip v s with
      | .ok u =>
        if u.head? = some ',' then countText (readBounds v 0 u)
        else (decimal? (u.takeWhile Char.isDigit)).bind fun least =>
          countText (readBounds v least (u.dropWhile Char.isDigit))
      | .error _ => none := by
  unfold readCount?
  cases hskip : skipGaps v s with
  | error e =>
    rw [skipGaps_eq_error hskip]
    rfl
  | ok u =>
    rw [skipGaps_eq_ok.mp hskip]
    dsimp only
    split
    · cases readBounds v 0 u.1 <;> rfl
    · cases decimal? (u.1.takeWhile Char.isDigit) with
      | none => rfl
      | some least =>
        dsimp only [Option.bind]
        cases readBounds v least (u.1.dropWhile Char.isDigit) <;> rfl

/-- **Whether there is a count** does not depend on what stands behind, if the text can be read. -/
theorem readCount?_append (h : Reads v s) (ht : Benign t) :
    countText (readCount? v (s ++ t)) = countBefore t (countText (readCount? v s)) := by
  obtain ⟨u, hu, hreads⟩ := h.skip
  obtain ⟨x, hx, hbenign, hne⟩ := skip_append hu ht
  have hdigit := hbenign.head?_any_isDigit
  rw [readCount?_text, readCount?_text, hu, hx]
  dsimp only
  by_cases hnil : u = []
  · subst hnil
    have hc : x.head? ≠ some ',' := hbenign.head_ne (by decide)
    rw [if_neg (by simpa using hc), takeWhile_append_of_head? hdigit]
    rfl
  · obtain rfl := hne hnil
    have hhead : (u ++ x).head? = u.head? := by
      obtain ⟨c, u, rfl⟩ := List.exists_cons_of_ne_nil hnil
      rfl
    rw [hhead, takeWhile_append_of_head? hdigit, dropWhile_append_of_head? hdigit]
    split
    · exact readBounds_append hreads ht 0
    · cases decimal? (u.takeWhile Char.isDigit) with
      | none => rfl
      | some least => exact readBounds_append hreads.dropDigits ht least

/-! ### Counts that are there -/

theorem readBrace_eq_some {r : List Char} :
    (readBrace v s).map (·.1) = some r ↔ Gap.outside.skip v s = .ok ('\x7d' :: r) := by
  rw [readBrace_text]
  split
  · rename_i c u hu
    rw [hu]
    split
    · rename_i hc
      subst hc
      simp
    · rename_i hc
      simp [hc]
  · rename_i hskip
    exact ⟨nofun, fun h => absurd h (hskip _ _)⟩

/-- What a pair of bounds is: a comma with what stands behind it, or the brace at once. -/
theorem readBounds_eq_some {least : Nat} {count : Repetition} {r : List Char} :
    countText (readBounds v least s) = some (count, r) ↔
      (∃ u w, Gap.outside.skip v s = .ok (',' :: u) ∧ Gap.outside.skip v u = .ok w ∧
        Gap.outside.skip v (readMost w).2.1 = .ok ('\x7d' :: r) ∧
        count = ⟨least, (readMost w).1⟩) ∨
      (Gap.outside.skip v s = .ok ('\x7d' :: r) ∧ count = ⟨least, boundOf least⟩) := by
  rw [readBounds_text]
  constructor
  · intro h
    split at h
    · rename_i c u hu
      split at h
      · rename_i hc
        subst hc
        split at h
        · rename_i w hw
          obtain ⟨b, hb, heq⟩ := Option.map_eq_some_iff.mp h
          cases heq
          exact Or.inl ⟨u, w, hu, hw, readBrace_eq_some.mp hb, rfl⟩
        · cases h
      · obtain ⟨b, hb, heq⟩ := Option.map_eq_some_iff.mp h
        cases heq
        refine Or.inr ⟨?_, rfl⟩
        rw [← readBrace_eq_some.mp hb, hu, skip_skip hu]
    · cases h
  · rintro (⟨u, w, hu, hw, hbrace, rfl⟩ | ⟨hbrace, rfl⟩)
    · rw [hu]
      dsimp only
      rw [if_pos rfl, hw]
      dsimp only
      rw [readBrace_eq_some.mpr hbrace]
      rfl
    · rw [hbrace]
      dsimp only
      rw [if_neg (by decide), readBrace_eq_some.mpr (skip_skip hbrace)]
      rfl

theorem readCount?_eq_some {count : Repetition} {r : List Char} :
    countText (readCount? v s) = some (count, r) ↔
      ∃ u, Gap.outside.skip v s = .ok u ∧
        if u.head? = some ',' then countText (readBounds v 0 u) = some (count, r)
        else ∃ least, decimal? (u.takeWhile Char.isDigit) = some least ∧
          countText (readBounds v least (u.dropWhile Char.isDigit)) = some (count, r) := by
  rw [readCount?_text]
  cases Gap.outside.skip v s with
  | error e => exact ⟨nofun, fun ⟨u, hu, _⟩ => nomatch hu⟩
  | ok u =>
    simp only [Except.ok.injEq, exists_eq_left']
    split
    · exact Iff.rfl
    · exact Option.bind_eq_some_iff

theorem readBounds_append_of_some {least : Nat} {count : Repetition} {r : List Char}
    (h : countText (readBounds v least s) = some (count, r)) (ht : Benign t) :
    countText (readBounds v least (s ++ t)) = some (count, r ++ t) := by
  rw [readBounds_eq_some] at h ⊢
  rcases h with ⟨u, w, hu, hw, hbrace, rfl⟩ | ⟨hbrace, rfl⟩
  · have hne : w ≠ [] := by
      rintro rfl
      cases v <;> cases hbrace
    obtain ⟨hmost, hrest⟩ := readMost_append (s := w) ht
    refine Or.inl ⟨u ++ t, w ++ t, skip_append_of_ne_nil hu nofun ht,
      skip_append_of_ne_nil hw hne ht, ?_, ?_⟩
    · rw [hrest]
      exact skip_append_of_ne_nil hbrace nofun ht
    · rw [hmost]
  · exact Or.inr ⟨skip_append_of_ne_nil hbrace nofun ht, rfl⟩

/-- A count that is there is the same with more text behind. -/
theorem readCount?_append_of_some {count : Repetition} {r : List Char}
    (h : countText (readCount? v s) = some (count, r)) (ht : Benign t) :
    countText (readCount? v (s ++ t)) = some (count, r ++ t) := by
  rw [readCount?_eq_some] at h ⊢
  obtain ⟨u, hu, h⟩ := h
  have hne : u ≠ [] := by
    rintro rfl
    obtain ⟨least, hleast, -⟩ := h
    cases hleast
  have hhead : (u ++ t).head? = u.head? := by
    rw [List.head?_append, List.head?_eq_some_head hne, Option.some_or]
  have hdigit := ht.head?_any_isDigit
  refine ⟨u ++ t, skip_append_of_ne_nil hu hne ht, ?_⟩
  rw [hhead, takeWhile_append_of_head? hdigit, dropWhile_append_of_head? hdigit]
  split_ifs at h ⊢
  · exact readBounds_append_of_some h ht
  · obtain ⟨least, hleast, h⟩ := h
    exact ⟨least, hleast, readBounds_append_of_some h ht⟩

end Counts

end Verbal.Extended
