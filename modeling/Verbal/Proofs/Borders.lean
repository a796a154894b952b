import Verbal.Proofs.Failures
import Verbal.Proofs.Regular.Alternation

/-!
# Anchors at the borders of a text

What covers a text begins where the text does and ends where it does, and there the anchors hold,
whatever the flags are under which they are read. So a test of the whole text does not depend on
them. A pattern of raw pieces can hide an anchor behind it in a comment, or have it in one branch
only; neither makes a difference.

* **`Ast.AgreesOn`**: two patterns match alike between the places in question.
* `readAll_stop_anywhere`: an anchor behind a pattern is its last item, or part of a comment.
* **`Expression.test_bounded`**: a test of the whole text gives the same verdict with anchors around
  the pattern and without.
-/

namespace Verbal

namespace Regular

/-! ## Patterns that match alike at the borders -/

/-- Whether an assertion is met at a border: at the start of every text, or at the end of it. -/
def Look.AtBorder (l : Look) (stop : Bool) : Prop :=
  ∀ text : List Char, l.HoldsAt text (if stop then text.length else 0)

theorem atBorder_startLine (flags : Flags) : (flags.look .startLine).AtBorder false := by
  intro text
  cases flags with | mk anyCase multiLine dotAll swapGreed unicode crlf => ?_
  cases multiLine <;> cases crlf <;> rfl

theorem atBorder_endLine (flags : Flags) : (flags.look .endLine).AtBorder true := by
  intro text
  cases flags with | mk anyCase multiLine dotAll swapGreed unicode crlf => ?_
  cases multiLine <;> cases crlf <;> simp [Flags.look, Look.HoldsAt, Look.holds]

namespace Ast

/-- Whether two patterns match alike between places that are in question; they leave the same flags
in force. -/
def AgreesOn (places : List Char → Nat → Nat → Prop) (a b : Ast) : Prop :=
  ∀ flags r flags', a.regex flags = .ok (r, flags') →
    ∃ r', b.regex flags = .ok (r', flags') ∧
      ∀ text i j, places text i j → (r.Spans text i j ↔ r'.Spans text i j)

/-- Places of which the first is where the text begins. -/
def FromStart (_ : List Char) (i _ : Nat) : Prop := i = 0

/-- Places of which the second is where the text ends. -/
def ToEnd (text : List Char) (_ j : Nat) : Prop := j = text.length

variable {places places' : List Char → Nat → Nat → Prop} {a b c : Ast}

theorem AgreesOn.refl (a : Ast) : AgreesOn places a a :=
  fun _ r _ h => ⟨r, h, fun _ _ _ _ => Iff.rfl⟩

theorem AgreesOn.trans (hab : AgreesOn places a b) (hbc : AgreesOn places b c) :
    AgreesOn places a c := by
  intro flags r flags' h
  obtain ⟨rb, hb, hspans⟩ := hab flags r flags' h
  obtain ⟨rc, hc, hspans'⟩ := hbc flags rb flags' hb
  exact ⟨rc, hc, fun text i j hp => (hspans text i j hp).trans (hspans' text i j hp)⟩

theorem AgreesOn.mono (h : AgreesOn places a b)
    (hplaces : ∀ text i j, places' text i j → places text i j) : AgreesOn places' a b := by
  intro flags r flags' hr
  obtain ⟨r', hr', hspans⟩ := h flags r flags' hr
  exact ⟨r', hr', fun text i j hp => hspans text i j (hplaces text i j hp)⟩

theorem AgreesOn.alternate {a' b' : Ast} (ha : AgreesOn places a a')
    (hb : AgreesOn places b b') : AgreesOn places (alternate a b) (alternate a' b') := by
  intro flags r flags' hr
  obtain ⟨ra, flags₁, rb, hra, hrb, rfl⟩ := regex_alternate_eq_ok.mp hr
  obtain ⟨ra', hra', hspans⟩ := ha flags ra flags₁ hra
  obtain ⟨rb', hrb', hspans'⟩ := hb flags₁ rb flags' hrb
  exact ⟨.alternate ra' rb', regex_alternate_eq_ok.mpr ⟨_, _, _, hra', hrb', rfl⟩,
    fun text i j hp => or_congr (hspans text i j hp) (hspans' text i j hp)⟩

theorem agreesOn_ofBranches {as bs : List Ast} (h : List.Forall₂ (AgreesOn places) as bs) :
    AgreesOn places (ofBranches as) (ofBranches bs) := by
  induction h with
  | nil => exact .refl _
  | cons h hrest ih =>
    cases hrest with
    | nil => exact h
    | cons h' hrest => exact h.alternate ih

theorem branchwise_agreesOn : Branchwise (AgreesOn places) := ⟨.refl, agreesOn_ofBranches⟩

/-- From the start of a text on, an anchor in front makes no difference. -/
theorem agreesOn_cons (items : List Ast) :
    AgreesOn FromStart (ofItems (.primitive (.assertion .startLine) :: items)) (ofItems items) := by
  intro flags r flags' h
  have hborder := atBorder_startLine flags
  cases items with
  | nil =>
    cases h
    refine ⟨.empty, rfl, ?_⟩
    rintro text _ j rfl
    exact ⟨And.left, fun hs => ⟨hs, hborder text⟩⟩
  | cons a items =>
    obtain ⟨rl, flags₁, r, hl, hr, rfl⟩ := regex_concat_eq_ok.mp h
    cases hl
    refine ⟨r, hr, ?_⟩
    rintro text _ j rfl
    constructor
    · rintro ⟨k, ⟨rfl, -⟩, hs⟩
      exact hs
    · exact fun hs => ⟨0, ⟨rfl, hborder text⟩, hs⟩

/-- Up to the end of a text, an anchor behind makes none. -/
theorem agreesOn_concat (items : List Ast) :
    AgreesOn ToEnd (ofItems (items ++ [.primitive (.assertion .endLine)])) (ofItems items) := by
  intro flags r flags' h
  match items with
  | [] =>
    cases h
    refine ⟨.empty, rfl, ?_⟩
    rintro text i _ rfl
    exact ⟨And.left, fun hs => ⟨hs, hs ▸ atBorder_endLine flags text⟩⟩
  | [a] =>
    obtain ⟨r, flags₁, rl, hr, hl, rfl⟩ := regex_concat_eq_ok.mp h
    cases hl
    refine ⟨r, hr, ?_⟩
    rintro text i _ rfl
    constructor
    · rintro ⟨k, hs, rfl, -⟩
      exact hs
    · exact fun hs => ⟨text.length, hs, rfl, atBorder_endLine flags' text⟩
  | a :: b :: items =>
    obtain ⟨ra, flags₁, rb, ha, hb, rfl⟩ := regex_concat_eq_ok.mp h
    obtain ⟨rc, hc, hspans⟩ := agreesOn_concat (b :: items) flags₁ rb flags' hb
    refine ⟨.concat ra rc, regex_concat_eq_ok.mpr ⟨_, _, _, ha, hc, rfl⟩, ?_⟩
    rintro text i j hj
    exact exists_congr fun k => and_congr_right fun _ => hspans text k j hj

end Ast

/-! ## An anchor behind a pattern -/

theorem skipBlanks_stop {v : Bool} {b : List Char} (hb : skipBlanks v b = []) :
    skipBlanks v (b ++ ['$']) = [] ∨ skipBlanks v (b ++ ['$']) = ['$'] := by
  cases v with
  | false =>
    obtain rfl : b = [] := hb
    exact Or.inr rfl
  | true =>
    rw [skipBlanks, if_pos rfl, dropBlanks_append hb]
    cases inComment false b
    · exact Or.inr (by decide)
    · exact Or.inl (by decide)

/-- **An anchor behind a pattern is its last item**, or part of a comment in which the pattern
ends. -/
theorem readAll_stop_anywhere {d : Draft} {body : List Char} (h : readAll .start body = .ok d) :
    readAll .start (body ++ ['$']) = .ok d ∨
      readAll .start (body ++ ['$']) = .ok (d.push (.primitive (.assertion .endLine))) := by
  obtain ⟨w, b, rfl, hb, -, -, hrun⟩ := readAll_inside h
  have hskip := skipBlanks_stop hb
  have hends : Ends d.verbose (b ++ ['$']) := by
    refine ends_append hb (ends_stop d.verbose true) ?_
    rcases hskip with hskip | hskip <;> rw [hskip] <;> decide
  have hread := hrun ⟨[], 0, []⟩ (b ++ ['$']) (fun _ _ _ => nofun) hends
  rw [Draft.inside_trivial, Draft.inside_trivial] at hread
  rw [List.append_assoc, hread]
  rcases hskip with hskip | hskip
  · exact Or.inl (readAll_of_blank hskip)
  · rw [← List.append_nil ['$'], ← readAll_skipBlanks id, List.append_nil, hskip]
    exact Or.inr (readAll_stop_of_verbose d true)

/-! ## Anchors around a pattern -/

/-- **Anchors around a pattern make no difference** to what covers a text. -/
theorem agreesOn_anchored {source source' : Source} {body : List Char}
    (h : Source.written body = .ok source) (start stop : Bool)
    (h' : Source.written ((openingText start false).toList ++
      (body ++ (closingText stop false).toList)) = .ok source') :
    source'.ast.AgreesOn (fun text i j => i = 0 ∧ j = text.length) source.ast := by
  obtain ⟨d, hread, hlevels, rfl⟩ := written_eq_ok.mp h
  -- the anchor behind goes into the last branch, or into a comment
  obtain ⟨e, hstop, helevels, hagrees⟩ : ∃ e,
      readAll .start (body ++ (closingText stop false).toList) = .ok e ∧ e.levels = [] ∧
        e.body.AgreesOn Ast.ToEnd d.body := by
    cases stop with
    | false => exact ⟨d, by simpa [closingText] using hread, hlevels, .refl _⟩
    | true =>
      rcases readAll_stop_anywhere hread with hsame | hpush
      · exact ⟨d, hsame, hlevels, .refl _⟩
      · exact ⟨_, hpush, hlevels, d.rel_body_push Ast.branchwise_agreesOn Ast.agreesOn_concat⟩
  have hlast : e.body.AgreesOn (fun text i j => i = 0 ∧ j = text.length) d.body :=
    hagrees.mono fun _ _ _ hp => hp.2
  -- the anchor in front goes into the first branch
  have hstart := readAll_start (d := .start) rfl start (body ++ (closingText stop false).toList)
  cases start with
  | false =>
    rw [written_eq_ok.mpr ⟨e, hstart.trans hstop, helevels, rfl⟩] at h'
    cases h'
    exact hlast
  | true =>
    have hfirst : Draft.start.Fronted (.primitive (.assertion .startLine))
        (Draft.start.pushAll (startItems true)) := ⟨.first [], rfl, rfl, rfl⟩
    obtain ⟨e', hread', hfronted⟩ := readAll_fronted hfirst hstop
    obtain ⟨helevels', hagrees'⟩ :=
      hfronted.rel_body Ast.branchwise_agreesOn Ast.agreesOn_cons helevels
    rw [written_eq_ok.mpr ⟨e', hstart.trans hread', helevels', rfl⟩] at h'
    cases h'
    exact (hagrees'.mono fun text i j hp => hp.1).trans hlast

end Regular

/-! ## Tests of the whole text -/

namespace Expression

/-- An expression with an anchor more in front of what stands in front of its body, or behind what
stands behind it. -/
def bounded (e : Expression) (start stop : Bool) : Expression :=
  { e with
    opening := (if start then "^" else "") ++ e.opening
    closing := e.closing ++ (if stop then "$" else "") }

theorem toList_pattern_bounded (e : Expression) (start stop : Bool) :
    (e.bounded start stop).pattern.toList =
      (openingText start false).toList ++
        (e.pattern.toList ++ (closingText stop false).toList) := by
  simp [bounded, pattern, openingText, closingText]

theorem tested_bounded (e : Expression) (start stop : Bool) (input : String) :
    (e.bounded start stop).tested input = e.tested input := rfl

variable {e : Expression} {start stop : Bool} {input : String} {b b' : Bool}

/-- A test of the whole text by a regular expression says whether what the pattern stands for covers
what is tested. -/
theorem exists_covers_of_test (hglobal : e.modifiers.contains .global = false)
    (h : e.test .regular input = .ok b) :
    ∃ source r flags, Regular.Source.written e.pattern.toList = .ok source ∧
      source.ast.regex (.initial (e.modifiers.contains .anyCase)) = .ok (r, flags) ∧
      (b = true ↔ r.Covers (e.tested input).toList) := by
  obtain ⟨c, hc, hmatch⟩ := bind_eq_ok.mp h
  rw [hglobal, if_neg Bool.false_ne_true] at hmatch
  obtain ⟨source, r, hread, hregex, hiff, -⟩ := Compiled.fullMatch_iff_spans hc hmatch
  obtain ⟨source', flags, hread', hr, -⟩ := Regular.regexOf_eq_ok.mp hregex
  obtain rfl := Except.ok.inj (hread.symm.trans hread')
  exact ⟨source, r, flags, (Regular.read_eq_ok.mp hread).1, hr, hiff⟩

/-- **Anchors do not matter to a test of the whole text.** With the regular backend and without the
global modifier, whatever the pattern is, an expression and the same one with an anchor more in
front or behind give the same verdict on every input on which neither fails. -/
theorem test_bounded (hglobal : e.modifiers.contains .global = false)
    (h : e.test .regular input = .ok b)
    (h' : (e.bounded start stop).test .regular input = .ok b') : b' = b := by
  obtain ⟨source, r, flags, hread, hr, hiff⟩ := exists_covers_of_test hglobal h
  obtain ⟨source', r', flags', hread', hr', hiff'⟩ :=
    exists_covers_of_test (e := e.bounded start stop) hglobal h'
  rw [toList_pattern_bounded] at hread'
  obtain ⟨r'', hr'', hagrees⟩ :=
    Regular.agreesOn_anchored hread start stop hread' _ r' flags' hr'
  obtain ⟨rfl, -⟩ := Prod.mk.inj (Except.ok.inj (hr.symm.trans hr''))
  rw [Bool.eq_iff_iff, hiff, hiff', tested_bounded]
  exact hagrees _ 0 _ ⟨rfl, rfl⟩

/-- Neither anchor binds all of the pattern, the second one stands in a comment, and both verdicts
are the same. -/
theorem test_bounded_of_comment :
    (⟨"", "(?mx)a|b#", "", .empty⟩ : Expression).test .regular "b" = .ok true ∧
      ((⟨"", "(?mx)a|b#", "", .empty⟩ : Expression).bounded true true).test .regular "b" =
        .ok true := by
  have h : (⟨"", "(?mx)a|b#", "", .empty⟩ : Expression).test .regular "b" = .ok true := by
    decide +kernel
  obtain ⟨b', h'⟩ := exists_ok_of_isSome (by decide +kernel :
    (((⟨"", "(?mx)a|b#", "", .empty⟩ : Expression).bounded true true).test .regular
      "b").toOption.isSome = true)
  exact ⟨h, test_bounded rfl h h' ▸ h'⟩

end Expression

end Verbal
