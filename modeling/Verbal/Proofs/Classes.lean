import Verbal.Proofs.Agreement
import Verbal.Proofs.Extended.Continuations

/-!
# Patterns that are one class

A class is read as the same items in both dialects, and a pattern that has to cover the text can be
put around it. What remains to be said of the items is which characters they stand for.

* `Regular.compile_class`, `Extended.compile_class`: a pattern that is one class compiles to its
  set, and **`compile_anchored_class`**: so it does where it has to cover a text.
* `Regular.length_lt_count`, `Extended.compile_class_unclosed`: an opening bracket in it takes a
  closing one.
* **`Expression.test_classText`**: what passes is one character of the set.
-/

namespace Verbal

open Verbal.Unicode
open Verbal.Extended (negation)
open Verbal.Regular (Ast ClassItem Regex)

/-- The text of a class. -/
def classText (negated : Bool) (text : List Char) : List Char :=
  '[' :: (negation negated ++ (text ++ [']']))

/-- Whether a text is read as the items of a class, whatever follows, and these stand for a set. -/
structure IsClassText (anyCase negated : Bool) (text : List Char) (set : CharSet) : Prop where
  first : ∃ c rest, text = c :: rest ∧ c ≠ '^'
  items : ∃ items,
    (∀ r, (Regular.readClass false (negation negated ++ (text ++ ']' :: r))).text =
      .ok (.bracketed negated (.ofItems items), r)) ∧
    (Ast.ofClass negated items).Denotes anyCase 2 (.letter set)

/-- What a class and the characters behind it stand for. -/
def classRegex (anyCase : Bool) (set : CharSet) (tail : List Char) : Regex :=
  .sequence (.letter set :: tail.map fun c => .ofText anyCase [c])

theorem size_classRegex_le {anyCase : Bool} (set : CharSet) :
    (classRegex anyCase set []).size ≤ (classRegex anyCase set ['\n']).size :=
  Nat.le_add_right _ _

variable {anyCase negated : Bool} {text tail : List Char} {set : CharSet}

theorem classText_append (r : List Char) :
    classText negated text ++ r = '[' :: (negation negated ++ (text ++ ']' :: r)) := by
  simp [classText]

/-! ## Classes as regular patterns -/

namespace Regular

/-- No comment begins in a class. -/
theorem not_endsInComment_class {item : ClassItem} {s : List Char}
    (hread : (readClass false s).text = .ok (item, tail)) (htail : '#' ∉ tail) :
    ¬EndsInComment ('[' :: s) := by
  rintro ⟨p, q, d, hpattern, -, hp, -⟩
  cases p with
  | nil => simp at hpattern
  | cons c p =>
    obtain ⟨rfl, rfl⟩ : '[' = c ∧ s = p ++ '#' :: q := by simpa using hpattern
    rcases eq_ok_of_readAll hp with ⟨hblank, -⟩ | ⟨c, r, token, r', d', hskip, htoken, -, -⟩
    · cases hblank
    · obtain ⟨rfl, rfl⟩ := List.cons.inj hskip
      obtain ⟨⟨item', r''⟩, hclass, heq⟩ :=
        bind_eq_ok.mp (show (readClass false p).text.bind _ = _ from htoken)
      obtain ⟨u, rfl, hu⟩ := exact_readClass p item' r'' hclass
      -- what was read of the class up to the comment is all of it
      have hwhole : (readClass false (u ++ (r'' ++ '#' :: q))).text =
          .ok (item', r'' ++ '#' :: q) := hu _
      rw [← List.append_assoc, hread] at hwhole
      cases hwhole
      simp at htail

theorem written_class (h : IsClassText anyCase negated text set)
    (htail : ∀ c ∈ tail, IsPlainChar c) : ∃ source,
      Source.written (classText negated text ++ tail) = .ok source ∧ source.names = [] ∧
        source.ast.Denotes anyCase 3 (classRegex anyCase set tail) := by
  obtain ⟨items, hread, hdenotes⟩ := h.items
  have hall : readAll .start (classText negated text ++ tail) =
      .ok (Draft.start.pushAll (.ofClass negated items :: tail.map .ofChar)) := by
    calc
      _ = readAll (Draft.start.push (.ofClass negated items)) (tail ++ []) := by
          rw [classText_append, List.append_nil, readAll_class rfl (hread tail)]
          rfl
      _ = readAll ((Draft.start.push (.ofClass negated items)).pushAll (tail.map .ofChar)) [] :=
          readAll_chars rfl htail []
      _ = .ok ((Draft.start.push (.ofClass negated items)).pushAll (tail.map .ofChar)) :=
          readAll_of_blank rfl
      _ = _ := by simp [Draft.pushAll, Draft.push]
  refine ⟨_, written_eq_ok.mpr ⟨_, hall, rfl, rfl⟩, rfl, ?_⟩
  have hbody : (Draft.start.pushAll (.ofClass negated items :: tail.map .ofChar)).body =
      .ofItems (.ofClass negated items :: tail.map .ofChar) := by
    simp [Draft.pushAll, Draft.body, Draft.start, Ast.ofBranches]
  rw [hbody]
  exact Ast.denotes_ofItems (.cons hdenotes (Ast.forall₂_denotes_chars anyCase 2 tail))

theorem compile_class (h : IsClassText anyCase negated text set) :
    Program.compile anyCase (classText negated text) =
      if (classRegex anyCase set []).size ≤ sizeLimit then
        .ok ⟨(classRegex anyCase set []).unroll none, []⟩
      else .error .tooLarge := by
  obtain ⟨source, hwritten, hnames, hdenotes⟩ := written_class h (List.forall_mem_nil IsPlainChar)
  rw [List.append_nil] at hwritten
  exact compile_of_denotes hwritten hnames hdenotes (by decide)

theorem compile_anchored_class (h : IsClassText anyCase negated text set)
    (htail : ∀ c ∈ tail, IsPlainChar c) :
    Program.compile anyCase
        (anchoredPattern (String.ofList (classText negated text ++ tail))).toList =
      if (classRegex anyCase set tail).wrapped.size ≤ sizeLimit then
        .ok ⟨(classRegex anyCase set tail).wrapped.unroll none, []⟩
      else .error .tooLarge := by
  obtain ⟨source, hwritten, hnames, hdenotes⟩ := written_class h htail
  obtain ⟨items, hread, -⟩ := h.items
  have hcomment : ¬EndsInComment (String.ofList (classText negated text ++ tail)).toList := by
    rw [String.toList_ofList, classText_append]
    exact not_endsInComment_class (hread tail) fun hmem => absurd (htail '#' hmem) (by decide)
  exact compile_anchored_of_denotes (by rwa [String.toList_ofList]) hcomment hnames hdenotes
    (by decide)

/-! ### Classes that are not closed -/

/-- Each class that is open when items are read ends at a bracket of its own. -/
theorem length_lt_count {v : Bool} {outer : List OpenClass} {cls : OpenClass} {s r : List Char}
    {item : ClassItem} (h : (readItems v outer cls s).text = .ok (item, r)) :
    outer.length < s.count ']' := by
  induction hn : s.length using Nat.strongRecOn generalizing outer cls s with
  | ind n ih =>
    rcases step_of_readItems h with ⟨rfl, -, hmem⟩ | ⟨outer', cls', s', h, hlt, hcases⟩
    · exact List.count_pos_iff.mpr hmem
    · have hlater := ih _ (hn ▸ hlt) h rfl
      rcases hcases with ⟨hlength, hsuffix⟩ | ⟨hle, hsuffix⟩
      · have hcount := hsuffix.sublist.count_le ']'
        rw [List.count_cons_self] at hcount
        omega
      · exact Nat.lt_of_le_of_lt hle (Nat.lt_of_lt_of_le hlater (hsuffix.sublist.count_le _))

/-- What cannot be read as a class is no pattern. -/
theorem compile_class_unread {s : List Char} (h : ∀ x, (readClass false s).text ≠ .ok x) :
    ∃ fault, Program.compile anyCase ('[' :: s) = .error fault := by
  cases hread : readAll .start ('[' :: s) with
  | error fault =>
    exact ⟨fault, by simp only [Program.compile, regexOf, Source.read, hread, bind, Except.bind]⟩
  | ok d =>
    rcases eq_ok_of_readAll hread with ⟨hblank, -⟩ | ⟨c, r, token, r', d', hskip, htoken, -, -⟩
    · cases hblank
    · obtain ⟨rfl, rfl⟩ := List.cons.inj hskip
      obtain ⟨x, hclass, -⟩ :=
        bind_eq_ok.mp (show (readClass false s).text.bind _ = _ from htoken)
      exact absurd hclass (h x)

end Regular

/-! ## Classes as extended patterns -/

namespace Extended

variable {d : Draft} {rest : List Char} {n : Nat}

theorem run_classText (hd : d.Ready n) (hfirst : ∃ c rest, text = c :: rest ∧ c ≠ '^')
    (hletters : ∀ c ∈ text, c ∉ ['\\', '[', ']']) (htail : ∀ c ∈ tail, IsPlainChar c)
    (hrest : IsTame rest) :
    run d (classText negated text ++ (tail ++ rest)) =
      run (d.add (.ofClass negated text :: tail.map (.literal · false))) rest := by
  obtain ⟨c, text, rfl, hc⟩ := hfirst
  have htame := isTame_plain htail hrest
  calc
    _ = run (d.push (.ofClass negated (c :: text))) (tail ++ rest) := by
        rw [classText_append]
        exact run_class hd hc hletters negated _
    _ = run (d.add [.ofClass negated (c :: text)]) (tail ++ rest) := run_push hd nofun htame
    _ = _ := run_chars (hd.add _) htail hrest
    _ = _ := by rw [Draft.add_add]; rfl

theorem cooks_classText (h : IsClassText anyCase negated text set) (tail : List Char) :
    (Tree.ofItems (.ofClass negated text :: tail.map (.literal · false))).Cooks anyCase 4
      (classRegex anyCase set tail) := by
  obtain ⟨items, hread, hdenotes⟩ := h.items
  exact Tree.cooks_ofItems (.cons (Tree.cooks_class (hread []) hdenotes)
    (Tree.forall₂_cooks_literals anyCase 2 tail))

theorem body_add {ts : List Tree} (hbranches : d.branches = []) (hitems : d.flush.items = []) :
    (d.add ts).body = .ofItems ts := by
  rw [Draft.body, Draft.flush_add]
  simp [Draft.add, hbranches, hitems, Tree.ofBranches]

theorem compile_class (h : IsClassText anyCase negated text set)
    (hletters : ∀ c ∈ text, c ∉ ['\\', '[', ']']) :
    Program.compile anyCase (classText negated text) =
      if (classRegex anyCase set []).size ≤ Regular.sizeLimit then
        .ok ⟨.easy ((classRegex anyCase set []).unroll none), []⟩
      else .error .partTooLarge := by
  have hd := Draft.ready_start (classText negated text)
  have hread : Source.read (classText negated text) =
      .ok ⟨.ofItems [.ofClass negated text], [], []⟩ := by
    calc
      _ = run (.start (classText negated text)) (classText negated text ++ ([] ++ [])) := by
          rw [List.append_nil, List.append_nil]
          rfl
      _ = run ((Draft.start (classText negated text)).add [.ofClass negated text]) [] :=
          run_classText hd h.first hletters (List.forall_mem_nil _) isTame_nil
      _ = _ := (run_nil (hd.add _)).trans (hd.add _).finish
      _ = _ := by rw [body_add rfl rfl]
  exact compile_of_cooks hread (cooks_classText h []) (by decide)

theorem compile_anchored_class (h : IsClassText anyCase negated text set)
    (hletters : ∀ c ∈ text, c ∉ ['\\', '[', ']']) (htail : ∀ c ∈ tail, IsPlainChar c) :
    Program.compile anyCase
        (anchoredPattern (String.ofList (classText negated text ++ tail))).toList =
      if (anchoredRegex (classRegex anyCase set tail)).size ≤ Regular.sizeLimit then
        .ok ⟨.easy ((anchoredRegex (classRegex anyCase set tail)).unroll none), []⟩
      else .error .partTooLarge := by
  refine compile_anchored_of_run (fun p => ?_) (n := 4) (by decide)
  have hd := ready_anchored p
  obtain ⟨hbranches, hitems, -⟩ := fresh_anchored p
  refine ⟨(Draft.anchored p).add (.ofClass negated text :: tail.map (.literal · false)),
    hd.add _, rfl, ?_, ?_⟩
  · rw [body_add hbranches hitems]
    exact cooks_classText h tail
  · rw [String.toList_ofList, List.append_assoc]
    exact run_classText hd h.first hletters htail (isTame_cons (by decide) _)

/-- A class with an opening bracket in it is not closed. -/
theorem compile_class_unclosed (hfirst : ∃ c rest, text = c :: rest ∧ c ≠ '^')
    (hletters : ∀ c ∈ text, c ∉ ['\\', ']']) (hopen : '[' ∈ text) :
    Program.compile anyCase (classText false text) = .error .classInvalid := by
  obtain ⟨c, text, rfl, hc⟩ := hfirst
  generalize hpattern : classText false (c :: text) = p
  have hclass : (readClass (Draft.start p).scope (c :: text ++ [']'])).text =
      .error .classInvalid := by
    have hbracket : c ≠ ']' := by
      rintro rfl
      exact hletters ']' List.mem_cons_self (by simp)
    have hopening : classOpening (c :: text ++ [']']) = [] := by
      simp [classOpening, hc, hbracket]
    rw [readClass_text, hopening]
    exact congrArg (Except.map _) (readBrackets_unclosed hletters hopen)
  have hread : Source.read p = .error .classInvalid := by
    have hprefix : ¬"(?#".toList <+: '[' :: (c :: text ++ [']']) := by simp
    calc
      _ = run (.start p) ('[' :: (c :: text ++ [']'])) := by
          rw [show Source.read p = run (.start p) p from rfl, ← hpattern]
          rfl
      _ = (readStep (.start p) '[' (c :: text ++ [']'])).text.bind fun x => run x.1 x.2 :=
          run_cons (Draft.ready_start p) hprefix
      _ = _ := by
          rw [show (readStep (.start p) '[' (c :: text ++ [']'])).text = _ from
            text_map _ fun text => (Draft.start p).push (.fragment text _), hclass]
          rfl
  simp only [Program.compile, hread, bind, Except.bind]

end Extended

/-! ## Expressions that are one class -/

namespace Backend

variable {pattern : String}

theorem build_classText (backend : Backend) (h : IsClassText anyCase negated text set)
    (hletters : backend = extended → ∀ c ∈ text, c ∉ ['\\', '[', ']'])
    (hpattern : pattern.toList = classText negated text) :
    backend.build anyCase pattern = backend.built (classRegex anyCase set []) := by
  cases backend with
  | regular => exact build_regular_of_compile (by rw [hpattern, Regular.compile_class h])
  | extended =>
    exact build_extended_of_compile (by rw [hpattern, Extended.compile_class h (hletters rfl)])

theorem build_anchored_classText (backend : Backend) (h : IsClassText anyCase negated text set)
    (hletters : backend = extended → ∀ c ∈ text, c ∉ ['\\', '[', ']'])
    (htail : ∀ c ∈ tail, IsPlainChar c)
    (hpattern : pattern.toList = classText negated text ++ tail) :
    backend.build anyCase (anchoredPattern pattern) =
      backend.built (backend.anchored (classRegex anyCase set tail)) := by
  obtain rfl : pattern = String.ofList (classText negated text ++ tail) := by
    rw [← hpattern, String.ofList_toList]
  cases backend with
  | regular => exact build_regular_of_compile (Regular.compile_anchored_class h htail)
  | extended =>
    exact build_extended_of_compile (Extended.compile_anchored_class h (hletters rfl) htail)

theorem buildAnchored_classText (backend : Backend) (h : IsClassText anyCase negated text set)
    (hletters : backend = extended → ∀ c ∈ text, c ∉ ['\\', '[', ']'])
    (hpattern : pattern.toList = classText negated text) :
    backend.buildAnchored anyCase pattern =
      if (backend.anchored (classRegex anyCase set [])).size ≤ Regular.sizeLimit then
        .ok (backend.programOf (backend.anchored (classRegex anyCase set [])))
      else .error (.invalidPattern pattern backend.tooLarge) := by
  have hfirst : backend.build anyCase (anchoredPattern pattern) =
      backend.built (backend.anchored (classRegex anyCase set [])) :=
    backend.build_anchored_classText h hletters (List.forall_mem_nil _)
      (by rw [hpattern, List.append_nil])
  have hsecond : backend.build anyCase (anchoredAfterComment pattern) =
      backend.built (backend.anchored (classRegex anyCase set ['\n'])) := by
    rw [anchoredAfterComment_eq]
    exact backend.build_anchored_classText h hletters (List.forall_mem_singleton.mpr rfl)
      (by simp [hpattern])
  exact buildAnchored_of_forms hfirst hsecond (size_classRegex_le set)

end Backend

namespace Expression

/-- Where both programs of an expression are built of the same, what passes is what that covers. -/
theorem test_of_built {e : Expression} {backend : Backend} {r : Regex}
    (hglobal : e.modifiers.contains .global = false)
    (hcase : e.modifiers.contains .anyCase = anyCase)
    (hsearch : backend.build anyCase e.pattern = backend.built r)
    (hanchored : backend.buildAnchored anyCase e.pattern =
      if (backend.anchored r).size ≤ Regular.sizeLimit then
        .ok (backend.programOf (backend.anchored r))
      else .error (.invalidPattern e.pattern backend.tooLarge)) (input : String) :
    if (backend.anchored r).size ≤ Regular.sizeLimit then
      ∃ b, e.test backend input = .ok b ∧ (b = true ↔ r.Covers (e.tested input).toList)
    else e.test backend input = .error (.invalidPattern e.pattern backend.tooLarge) := by
  unfold test compile Backend.compile
  rw [hcase, hsearch, Backend.built]
  split
  next hsize =>
    rw [if_pos (backend.size_le_of_anchored hsize)]
    refine ⟨_, ?_, backend.isMatch_anchored r (e.tested input).toList⟩
    simp only [Except.bind, hglobal, Compiled.fullMatch, Compiled.anchoredProgram, hanchored,
      if_pos hsize, Backend.isMatch_programOf]
    rfl
  next hsize =>
    by_cases hsmall : r.size ≤ Regular.sizeLimit
    · rw [if_pos hsmall]
      simp only [Except.bind, hglobal, Compiled.fullMatch, Compiled.anchoredProgram, hanchored,
        if_neg hsize]
      rfl
    · rw [if_neg hsmall]
      rfl

/-- What passes an expression that is one class is one character of its set. -/
theorem test_classText {e : Expression} (hglobal : e.modifiers.contains .global = false)
    (hcase : e.modifiers.contains .anyCase = anyCase)
    (hpattern : e.pattern.toList = classText negated text)
    (h : IsClassText anyCase negated text set) (backend : Backend)
    (hletters : backend = .extended → ∀ c ∈ text, c ∉ ['\\', '[', ']']) (input : String) :
    if Regular.setSize set + 64 ≤ Regular.sizeLimit then
      ∃ b, e.test backend input = .ok b ∧
        (b = true ↔ ∃ c, (e.tested input).toList = [c] ∧ set.contains c = true)
    else e.test backend input = .error (.invalidPattern e.pattern backend.tooLarge) := by
  have htest := test_of_built hglobal hcase (backend.build_classText h hletters hpattern)
    (backend.buildAnchored_classText h hletters hpattern) input
  have hsize : (backend.anchored (classRegex anyCase set [])).size ≤ Regular.sizeLimit ↔
      Regular.setSize set + 64 ≤ Regular.sizeLimit := backend.anchored_size_iff
  simp only [hsize] at htest
  split
  next hsmall =>
    rw [if_pos hsmall] at htest
    obtain ⟨b, hb, hcovers⟩ := htest
    exact ⟨b, hb, hcovers.trans (Regex.reads_letter.covers_iff _)⟩
  next hlarge => rwa [if_neg hlarge] at htest

end Expression

end Verbal
