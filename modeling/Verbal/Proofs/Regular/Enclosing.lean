import Verbal.Compiled
import Verbal.Proofs.Regular.Search
import Verbal.Proofs.Regular.Surroundings

/-!
# Patterns that have to cover a text

A pattern that has to cover a text is put into a group between two assertions. If it ends in a
comment, the comment takes in what closes the group, and there is a second form with the end of a
line in front of it.

* **`written_anchored`** and **`written_afterComment_of_comment`**: of the two forms, the one that
  is meant for the pattern reads it as it reads on its own.
* `written_anchored_of_comment`: the first form is refused if the pattern ends in a comment.
* `written_afterComment`: if it does not, the second form at most adds an item.
-/

namespace Verbal.Regular

open Verbal.Unicode

/-! ## Comments -/

/-- Whether a text of blanks and comments ends in a comment, if it begins inside of one or not. -/
def inComment : Bool → List Char → Bool
  | k, [] => k
  | true, c :: s => if c = '\n' then inComment false s else inComment true s
  | false, c :: s => if c = '#' then inComment true s else inComment false s

theorem dropBlanks_append {k : Bool} {s : List Char} (h : dropBlanks k s = []) (t : List Char) :
    dropBlanks k (s ++ t) = dropBlanks (inComment k s) t := by
  fun_induction dropBlanks k s with
  | case1 k => cases k <;> rfl
  | case2 s ih => simpa [dropBlanks, inComment] using ih h
  | case3 c s hc ih => simpa [dropBlanks, inComment, hc] using ih h
  | case4 c s hc ih =>
    have hne : c ≠ '#' := by
      rintro rfl
      exact absurd hc (by decide)
    simpa [dropBlanks, inComment, hc, hne] using ih h
  | case5 s hc ih => simpa [dropBlanks, inComment, hc] using ih h
  | case6 c s hc hne => cases h

theorem inComment_append (k : Bool) (s t : List Char) :
    inComment k (s ++ t) = inComment (inComment k s) t := by
  fun_induction inComment k s with
  | case1 k => rfl
  | case2 s ih => simpa [inComment] using ih
  | case3 c s hc ih => simpa [inComment, hc] using ih
  | case4 s ih => simpa [inComment] using ih
  | case5 c s hc ih => simpa [inComment, hc] using ih

theorem inComment_of_not_mem {q : List Char} (h : '\n' ∉ q) : inComment true q = true := by
  induction q with
  | nil => rfl
  | cons c q ih =>
    have hc : c ≠ '\n' := fun hc => h (by simp [hc])
    rw [inComment, if_neg hc]
    exact ih fun hq => h (List.mem_cons_of_mem c hq)

theorem dropBlanks_comment {q : List Char} (h : '\n' ∉ q) : dropBlanks true q = [] := by
  induction q with
  | nil => rfl
  | cons c q ih =>
    have hc : c ≠ '\n' := fun hc => h (by simp [hc])
    rw [dropBlanks, if_neg hc]
    exact ih fun hq => h (List.mem_cons_of_mem c hq)

/-- Blanks that end in a comment have a last `#` with no end of the line after it. -/
theorem exists_comment {k : Bool} {s : List Char} (h : dropBlanks k s = [])
    (hc : inComment k s = true) :
    k = true ∧ '\n' ∉ s ∨ ∃ b q, s = b ++ '#' :: q ∧ '\n' ∉ q ∧ dropBlanks k b = [] ∧
      inComment k b = false := by
  fun_induction dropBlanks k s with
  | case1 k => exact Or.inl ⟨hc, List.not_mem_nil⟩
  | case2 s ih =>
    rcases ih h (by simpa [inComment] using hc) with ⟨hk, -⟩ | ⟨b, q, rfl, hq, hb, hin⟩
    · cases hk
    · exact Or.inr ⟨'\n' :: b, q, rfl, hq, by simpa [dropBlanks] using hb, by
        simpa [inComment] using hin⟩
  | case3 c s hne ih =>
    rcases ih h (by simpa [inComment, hne] using hc) with ⟨-, hs⟩ | ⟨b, q, rfl, hq, hb, hin⟩
    · exact Or.inl ⟨rfl, by simp [hs, Ne.symm hne]⟩
    · exact Or.inr ⟨c :: b, q, rfl, hq, by simpa [dropBlanks, hne] using hb, by
        simpa [inComment, hne] using hin⟩
  | case4 c s hspace ih =>
    have hne : c ≠ '#' := by
      rintro rfl
      exact absurd hspace (by decide)
    rcases ih h (by simpa [inComment, hne] using hc) with ⟨hk, -⟩ | ⟨b, q, rfl, hq, hb, hin⟩
    · cases hk
    · exact Or.inr ⟨c :: b, q, rfl, hq, by simpa [dropBlanks, hspace] using hb, by
        simpa [inComment, hne] using hin⟩
  | case5 s hspace ih =>
    rcases ih h (by simpa [inComment] using hc) with ⟨-, hs⟩ | ⟨b, q, rfl, hq, hb, hin⟩
    · exact Or.inr ⟨[], s, rfl, hs, rfl, rfl⟩
    · exact Or.inr ⟨'#' :: b, q, rfl, hq, by simpa [dropBlanks, hspace] using hb, by
        simpa [inComment] using hin⟩
  | case6 c s hspace hne => cases h

/-- Whether a pattern ends in a comment: it can be read up to a `#`, where the mode is verbose, and
the line does not end after it. -/
def EndsInComment (pattern : List Char) : Prop :=
  ∃ p q d, pattern = p ++ '#' :: q ∧ '\n' ∉ q ∧ readAll .start p = .ok d ∧ d.verbose = true

/-! ## Reading the pattern in its place -/

/-- The assertion in front of what has to cover a text. -/
def startText : Ast := .primitive (.assertion .startText)

/-- The assertion behind it. -/
def endText : Ast := .primitive (.assertion .endText)

/-- What stands around a pattern that has to cover a text. -/
def enclosing : Surroundings := ⟨[⟨.plain [], false, [], [startText]⟩], 0, []⟩

/-- A pattern that has to cover a text. -/
def Source.wrapped (source : Source) : Source :=
  { source with ast := .concat startText (.concat (.group (.plain []) source.ast) endText) }

/-- What is written, however deeply it is nested. -/
def Source.written (pattern : List Char) : Except Fault Source :=
  (readAll .start pattern).bind Draft.finish

theorem read_eq_written (pattern : List Char) :
    Source.read pattern = (Source.written pattern).bind Source.checkDepth := by
  unfold Source.read Source.written
  cases readAll .start pattern <;> rfl

theorem written_eq_ok {pattern : List Char} {source : Source} :
    Source.written pattern = .ok source ↔ ∃ d, readAll .start pattern = .ok d ∧
      d.levels = [] ∧ source = ⟨d.body, d.groups, d.names⟩ := by
  unfold Source.written Draft.finish
  rw [bind_eq_ok]
  refine exists_congr fun d => and_congr_right fun _ => ?_
  by_cases h : d.levels = []
  · simp only [h, List.isEmpty_nil, if_true, Except.ok.injEq, true_and]
    exact eq_comm
  · simp [h]

theorem readAll_opening (s : List Char) :
    readAll .start ("\\A(?:".toList ++ s) = readAll (Draft.start.inside enclosing) s := by
  have h1 : readToken false '\\' ('A' :: '(' :: '?' :: ':' :: s) =
      .ok (.primitive (.assertion .startText), '(' :: '?' :: ':' :: s) := rfl
  have h2 : readToken false '(' ('?' :: ':' :: s) = .ok (.switches [] true, s) := rfl
  calc
    readAll .start ("\\A(?:".toList ++ s) =
        readAll (Draft.start.push startText) ('(' :: '?' :: ':' :: s) :=
      readAll_of_token rfl h1 rfl
    _ = _ := readAll_of_token rfl h2 rfl

/-- What has been read once a pattern is closed. -/
def Draft.enclosed (d : Draft) : Draft :=
  ⟨[], [], [endText, .group (.plain []) d.body, startText], false, d.groups, d.names⟩

theorem finish_enclosed (d : Draft) :
    d.enclosed.finish = .ok (Source.wrapped ⟨d.body, d.groups, d.names⟩) := rfl

theorem readAll_closing {d : Draft} (hlevels : d.levels = []) :
    readAll (d.inside enclosing) ")\\z".toList = .ok d.enclosed := by
  have h1 : skipBlanks d.verbose ")\\z".toList = ')' :: "\\z".toList := by
    cases d.verbose <;> decide
  have h2 : (d.inside enclosing).take .close = .ok
      ⟨[], [], [.group (.plain []) d.body, startText], false, d.groups, d.names⟩ := by
    refine Draft.closeGroup_eq_ok.mpr ⟨⟨.plain [], false, [], [startText]⟩, [], ?_, ?_⟩
    · simp [Draft.inside, hlevels, enclosing]
    · rw [Draft.body_inside]
      simp [Draft.inside, enclosing, Ast.shift_zero]
  have h3 : readToken false '\\' ['z'] = .ok (.primitive (.assertion .endText), []) := rfl
  calc
    _ = readAll _ "\\z".toList := readAll_of_token (d := d.inside enclosing) h1 rfl h2
    _ = readAll d.enclosed [] := readAll_of_token rfl h3 rfl
    _ = .ok d.enclosed := readAll_of_blank rfl

/-! ### What is left over at the end -/

theorem fits_enclosing (d : Draft) : d.Fits enclosing := fun _ _ _ => nofun

theorem readAll_congr {d : Draft} {s t : List Char}
    (h : skipBlanks d.verbose s = skipBlanks d.verbose t) : readAll d s = readAll d t := by
  rw [readAll_text, readAll_text d t, h]

theorem ends_append {v : Bool} {b t : List Char} (hb : skipBlanks v b = []) (ht : Ends v t)
    (hlater : (skipBlanks v (b ++ t)).head? ≠ some '?') : Ends v (b ++ t) := by
  cases b with
  | nil => exact ht
  | cons c b =>
    cases v with
    | false => cases hb
    | true =>
      have hmark : c ≠ '?' := by
        rintro rfl
        cases hb
      have hbrace : c ≠ '\x7b' := by
        rintro rfl
        cases hb
      exact ⟨⟨fun h => absurd (by simpa using h) hmark, fun h => absurd h hlater⟩,
        fun h => by
          obtain ⟨t', ht'⟩ := eq_cons_of_opensName h
          exact absurd (List.cons.inj ht').1 hbrace⟩

theorem ends_of_blank {v : Bool} {b : List Char} (hb : skipBlanks v b = []) : Ends v b := by
  have h := ends_append (t := []) hb (looksAlike_nil []) (by rw [List.append_nil, hb]; nofun)
  rwa [List.append_nil] at h

/-- A run on its own is a run with nothing around. -/
theorem readAll_leftover {d d' : Draft} {w b : List Char}
    (hrun : ∀ around t, d'.Fits around → Ends d'.verbose t →
      readAll (d.inside around) (w ++ t) = readAll (d'.inside around) t)
    (hb : skipBlanks d'.verbose b = []) : readAll d (w ++ b) = .ok d' := by
  have h := hrun ⟨[], 0, []⟩ b (fun _ _ _ => nofun) (ends_of_blank hb)
  rw [Draft.inside_trivial, Draft.inside_trivial] at h
  rw [h]
  exact readAll_of_blank hb

/-- What a run leaves over at its end are blanks, and the pattern ends in a comment iff they do. -/
theorem exists_leftover {d : Draft} {pattern : List Char} (h : readAll .start pattern = .ok d) :
    ∃ b, skipBlanks d.verbose b = [] ∧
      (EndsInComment pattern ↔ d.verbose = true ∧ inComment false b = true) ∧
      ∀ t, Ends d.verbose (b ++ t) →
        readAll .start ("\\A(?:".toList ++ (pattern ++ t)) =
          readAll (d.inside enclosing) (b ++ t) := by
  by_cases hcomment : EndsInComment pattern
  · obtain ⟨p, q, d', rfl, hq, hp, hverbose⟩ := id hcomment
    obtain ⟨w, b, rfl, hb, -, -, hrun⟩ := readAll_inside hp
    have hin : inComment false (b ++ '#' :: q) = true := by
      rw [inComment_append]
      cases inComment false b
      · exact inComment_of_not_mem hq
      · exact inComment_of_not_mem (by simpa using hq)
    have hblank : skipBlanks d'.verbose (b ++ '#' :: q) = [] := by
      rw [hverbose] at hb ⊢
      rw [skipBlanks, if_pos rfl, dropBlanks_append hb]
      cases inComment false b
      · exact dropBlanks_comment hq
      · exact dropBlanks_comment (by simpa using hq)
    have hread := readAll_leftover hrun hblank
    rw [← List.append_assoc, h] at hread
    obtain rfl := Except.ok.inj hread
    refine ⟨b ++ '#' :: q, hblank, ⟨fun _ => ⟨hverbose, hin⟩, fun _ => hcomment⟩,
      fun t ht => ?_⟩
    rw [readAll_opening, List.append_assoc, List.append_assoc, ← List.append_assoc b]
    exact hrun enclosing _ (fits_enclosing d) ht
  · obtain ⟨w, b, rfl, hb, -, -, hrun⟩ := readAll_inside h
    refine ⟨b, hb, ⟨fun h => absurd h hcomment, fun hend => ?_⟩, fun t ht => ?_⟩
    · obtain ⟨hverbose, hin⟩ := hend
      rw [hverbose] at hb
      rcases exists_comment hb hin with ⟨hfalse, -⟩ | ⟨b', q, rfl, hq, hb', -⟩
      · cases hfalse
      · refine ⟨w ++ b', q, d, by simp, hq, readAll_leftover hrun ?_, hverbose⟩
        rw [hverbose]
        exact hb'
    · rw [readAll_opening, List.append_assoc]
      exact hrun enclosing (b ++ t) (fits_enclosing d) ht

/-! ## The two forms -/

theorem toList_anchoredPattern (pattern : String) :
    (anchoredPattern pattern).toList =
      "\\A(?:".toList ++ (pattern.toList ++ ")\\z".toList) := by
  simp [anchoredPattern]

theorem toList_anchoredAfterComment (pattern : String) :
    (anchoredAfterComment pattern).toList =
      "\\A(?:".toList ++ (pattern.toList ++ '\n' :: ")\\z".toList) := by
  simp [anchoredAfterComment]

theorem ends_closing (v : Bool) : Ends v ")\\z".toList where
  here := nofun
  later := by cases v <;> decide
  names := nofun

theorem ends_newline_closing (v : Bool) : Ends v ('\n' :: ")\\z".toList) where
  here := nofun
  later := by cases v <;> decide
  names := nofun

variable {pattern : String} {source : Source}

/-- Where the pattern does not end in a comment, it is closed. -/
theorem written_anchored (h : Source.written pattern.toList = .ok source)
    (hcomment : ¬EndsInComment pattern.toList) :
    Source.written (anchoredPattern pattern).toList = .ok source.wrapped := by
  obtain ⟨d, hread, hlevels, rfl⟩ := written_eq_ok.mp h
  obtain ⟨b, hb, hiff, hrun⟩ := exists_leftover hread
  -- what is left over does not hide what closes the group
  have hskip : skipBlanks d.verbose (b ++ ")\\z".toList) = skipBlanks d.verbose ")\\z".toList := by
    cases hverbose : d.verbose with
    | false =>
      rw [hverbose] at hb
      rw [show b = [] from hb]
      rfl
    | true =>
      rw [hverbose] at hb
      rw [skipBlanks, if_pos rfl, dropBlanks_append hb,
        Bool.eq_false_iff.mpr fun hin => hcomment (hiff.mpr ⟨hverbose, hin⟩)]
      rfl
  have hends : Ends d.verbose (b ++ ")\\z".toList) :=
    ends_append hb (ends_closing d.verbose) (by rw [hskip]; cases d.verbose <;> decide)
  rw [toList_anchoredPattern, Source.written, hrun _ hends,
    readAll_congr (d := d.inside enclosing) hskip, readAll_closing hlevels]
  exact finish_enclosed d

/-- Where it ends in a comment, the comment takes in what closes it. -/
theorem written_anchored_of_comment (h : Source.written pattern.toList = .ok source)
    (hcomment : EndsInComment pattern.toList) :
    Source.written (anchoredPattern pattern).toList = .error .groupUnclosed := by
  obtain ⟨d, hread, hlevels, rfl⟩ := written_eq_ok.mp h
  obtain ⟨b, hb, hiff, hrun⟩ := exists_leftover hread
  obtain ⟨hverbose, hin⟩ := hiff.mp hcomment
  have hskip : skipBlanks d.verbose (b ++ ")\\z".toList) = [] := by
    rw [hverbose] at hb ⊢
    rw [skipBlanks, if_pos rfl, dropBlanks_append hb, hin]
    decide
  have hends : Ends d.verbose (b ++ ")\\z".toList) :=
    ends_append hb (ends_closing d.verbose) (by rw [hskip]; simp)
  rw [toList_anchoredPattern, Source.written, hrun _ hends,
    readAll_of_blank (d := d.inside enclosing) hskip]
  simp [Except.bind, Draft.finish, Draft.inside, enclosing]

/-- The end of the line ends the comment. -/
theorem written_afterComment_of_comment (h : Source.written pattern.toList = .ok source)
    (hcomment : EndsInComment pattern.toList) :
    Source.written (anchoredAfterComment pattern).toList = .ok source.wrapped := by
  obtain ⟨d, hread, hlevels, rfl⟩ := written_eq_ok.mp h
  obtain ⟨b, hb, hiff, hrun⟩ := exists_leftover hread
  obtain ⟨hverbose, hin⟩ := hiff.mp hcomment
  have hskip : skipBlanks d.verbose (b ++ '\n' :: ")\\z".toList) =
      skipBlanks d.verbose ")\\z".toList := by
    rw [hverbose] at hb ⊢
    rw [skipBlanks, if_pos rfl, dropBlanks_append hb, hin]
    decide
  have hends : Ends d.verbose (b ++ '\n' :: ")\\z".toList) :=
    ends_append hb (ends_newline_closing d.verbose) (by rw [hskip]; cases d.verbose <;> decide)
  rw [toList_anchoredAfterComment, Source.written, hrun _ hends,
    readAll_congr (d := d.inside enclosing) hskip, readAll_closing hlevels]
  exact finish_enclosed d

/-- The end of a line as an item. -/
def newline : Ast := .primitive (.letter ⟨'\n', false⟩)

/-- Elsewhere the end of the line is a blank, or it is read as an item of the pattern. -/
theorem written_afterComment (h : Source.written pattern.toList = .ok source)
    (hcomment : ¬EndsInComment pattern.toList) :
    Source.written (anchoredAfterComment pattern).toList = .ok source.wrapped ∨
      ∃ d : Draft, source = ⟨d.body, d.groups, d.names⟩ ∧
        Source.written (anchoredAfterComment pattern).toList =
          .ok (Source.wrapped ⟨(d.push newline).body, d.groups, d.names⟩) := by
  obtain ⟨d, hread, hlevels, rfl⟩ := written_eq_ok.mp h
  obtain ⟨b, hb, hiff, hrun⟩ := exists_leftover hread
  cases hverbose : d.verbose with
  | false =>
    rw [hverbose] at hb
    obtain rfl : b = [] := hb
    refine Or.inr ⟨d, rfl, ?_⟩
    have htake : (d.inside enclosing).take (.primitive (.letter ⟨'\n', false⟩)) =
        .ok ((d.push newline).inside enclosing) := rfl
    rw [toList_anchoredAfterComment, Source.written, hrun _ (ends_newline_closing d.verbose),
      List.nil_append, readAll_of_token (d := d.inside enclosing)
        (show skipBlanks d.verbose _ = '\n' :: ")\\z".toList by rw [hverbose]; rfl)
        (show readToken d.verbose '\n' ")\\z".toList = .ok (_, ")\\z".toList) by rfl) htake,
      readAll_closing (d := d.push newline) hlevels]
    exact finish_enclosed (d.push newline)
  | true =>
    refine Or.inl ?_
    have hskip : skipBlanks d.verbose (b ++ '\n' :: ")\\z".toList) =
        skipBlanks d.verbose ")\\z".toList := by
      rw [hverbose] at hb ⊢
      rw [skipBlanks, if_pos rfl, dropBlanks_append hb,
        Bool.eq_false_iff.mpr fun hin => hcomment (hiff.mpr ⟨hverbose, hin⟩)]
      decide
    have hends : Ends d.verbose (b ++ '\n' :: ")\\z".toList) :=
      ends_append hb (ends_newline_closing d.verbose) (by rw [hskip]; cases d.verbose <;> decide)
    rw [toList_anchoredAfterComment, Source.written, hrun _ hends,
      readAll_congr (d := d.inside enclosing) hskip, readAll_closing hlevels]
    exact finish_enclosed d

end Verbal.Regular
