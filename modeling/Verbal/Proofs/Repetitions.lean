import Verbal.Proofs.Alternatives
import Verbal.Proofs.Extended.Repetitions
import Verbal.Proofs.Regular.Repetitions

/-!
# Stacked signs

The verb for repetitions adds its sign to whatever was written before it, so signs can be stacked.
The regular backend reads each of them as one more repetition. The extended backend reads one sign
in the same way, a plus behind it as the wish to give no round back, and refuses any other second
sign. So the backends agree where no signs are stacked, and not everywhere else.

* **`Expression.test_repetitions`**: what both backends make of words and signs, for all inputs and
  modifiers, limits apart.
* `Expression.backends_differ_on_stacked_signs`: where they do not agree.
-/

namespace Verbal

open Verbal.Regular (Regex)

/-- Whether what is tested of an input is one of the passages, with nothing left, or has one in it
if the expression is searched for. -/
def Expression.Meets (e : Expression) (passages : Passages) (input : String) : Prop :=
  if e.modifiers.contains .global then
    ∃ u w v, (e.tested input).toList = u ++ (w ++ v) ∧ passages w v
  else passages (e.tested input).toList []

section Answers

variable {e : Expression} {backend : Backend} {c : Compiled} {passages : Passages}
  {l : Language Char} {r : Regex}

/-- An expression that reads a language matches somewhere in a text if there is a passage in it. -/
theorem Regular.Regex.Reads.exists_spans_iff (h : r.Reads l) (text : List Char) :
    (∃ i j, i ≤ text.length ∧ r.Spans text i j) ↔ ∃ u w v, text = u ++ (w ++ v) ∧ w ∈ l := by
  constructor
  · rintro ⟨i, j, hi, hs⟩
    obtain ⟨w, v, hdrop, -, hw⟩ := (h.spans_iff hi).mp hs
    exact ⟨text.take i, w, v, by rw [← hdrop, List.take_append_drop], hw⟩
  · rintro ⟨u, w, v, rfl, hw⟩
    exact ⟨u.length, _, by simp, h.spans_append.mpr ⟨w, v, rfl, rfl, hw⟩⟩

/-- A test of a pattern that stands for an expression. -/
theorem Expression.test_of_reads (hc : e.compile backend = .ok c) (h : r.Reads l)
    (hfull : ∀ text, ∃ b, c.fullMatch text = .ok b ∧ (b = true ↔ r.Covers text.toList))
    (hsearch : ∀ text, ∃ b, c.search.isMatch text = .ok b ∧
      (b = true ↔ ∃ i j, i ≤ text.toList.length ∧ r.Spans text.toList i j)) (input : String) :
    ∃ b, e.test backend input = .ok b ∧ (b = true ↔ e.Meets (.ofLanguage l) input) := by
  rw [test_of_compile hc]
  unfold Meets
  split
  · obtain ⟨b, hb, hiff⟩ := hsearch (e.tested input)
    exact ⟨b, hb, hiff.trans (h.exists_spans_iff _)⟩
  · obtain ⟨b, hb, hiff⟩ := hfull (e.tested input)
    exact ⟨b, hb, hiff.trans (h.covers_iff _)⟩

end Answers

/-- An answer, if it is not to be had in time, is that a search gave up. -/
theorem Program.answer_cases {x : Option Bool} {p : Prop} (htrue : x = some true → p)
    (hfalse : p → x ≠ some false) :
    answer x = .error gaveUp ∨ ∃ b, answer x = .ok b ∧ (b = true ↔ p) := by
  match x with
  | none => exact Or.inl rfl
  | some true => exact Or.inr ⟨true, rfl, fun _ => htrue rfl, fun _ => rfl⟩
  | some false => exact Or.inr ⟨false, rfl, nofun, fun hp => absurd rfl (hfalse hp)⟩

/-- How a pattern without names is tested. -/
theorem exists_form_of_nameless {anyCase : Bool} {pattern : String} {t : Extended.Tree}
    {program : Extended.Program}
    (hread : Extended.Source.read pattern.toList = .ok ⟨t, [], []⟩)
    (hp : Extended.Program.compile anyCase pattern.toList = .ok program)
    (hlimits : Backend.extended.TestWithinLimits anyCase pattern) :
    ∃ c, Backend.extended.compile pattern anyCase = .ok c ∧ c.search = .extended program ∧
      ∃ form p', Extended.Source.read form = .ok ⟨t.anchored, [], []⟩ ∧
        Extended.Program.compile anyCase form = .ok p' ∧
        ∀ text, c.fullMatch text = Program.answer (p'.isMatch text.toList) := by
  have hunmixed : ¬Extended.NumbersBesideNames pattern.toList := by
    rintro ⟨d, hd, -, hnames⟩
    obtain ⟨d', hd', -, -, -, hsource⟩ := Extended.read_eq_ok.mp hread
    obtain rfl := Except.ok.inj (hd.symm.trans hd')
    exact hnames (congrArg Extended.Source.names hsource).symm
  have hc : Backend.extended.compile pattern anyCase = .ok _ :=
    compile_eq_ok.mpr ⟨_, build_extended_eq_ok.mpr ⟨_, hp, rfl⟩, rfl⟩
  exact ⟨_, hc, rfl, exists_form_of_fullMatch hc hread hunmixed hlimits⟩

section Tests

variable {e : Expression} {fs : List Factor} (hpattern : e.pattern.toList = fs.flatMap Factor.text)
  (hfs : ∀ f ∈ fs, IsPlainText f.word)
include hpattern hfs

/-- **A test of the regular backend** tells whether the input meets what the words describe. -/
theorem Expression.test_regular_factors
    (hlimits : Backend.regular.TestWithinLimits (e.modifiers.contains .anyCase) e.pattern)
    (input : String) :
    ∃ b, e.test .regular input = .ok b ∧ (b = true ↔ e.Meets
      (.ofLanguage (fs.map (Factor.language (e.modifiers.contains .anyCase))).prod) input) := by
  obtain ⟨source, hwritten, hr⟩ :=
    Regular.written_factors hpattern hfs (e.modifiers.contains .anyCase)
  obtain ⟨hregex, hp⟩ := Regular.compile_of_written hwritten hr hlimits.search
  obtain ⟨_, _, hread, -, -⟩ := Regular.regexOf_eq_ok.mp hregex
  obtain rfl := Except.ok.inj (hwritten.symm.trans (Regular.read_eq_ok.mp hread).1)
  obtain ⟨program, hprogram⟩ :=
    exists_buildAnchored (exists_form_regular hp hlimits.first hlimits.second)
  have hc := compile_regular_eq_ok.mpr ⟨_, hp, rfl⟩
  refine test_of_reads hc (Factor.reads_sequence _ fs) (fun text => ?_)
    (fun text => ⟨_, rfl, Regular.isMatch_iff _ _⟩) input
  have hiff := fullMatch_regular hc hread hr hprogram text
  obtain ⟨rfl, -⟩ := form_of_buildAnchored hread hr hprogram
  have hfull := Compiled.fullMatch_of_compile hc text
  rw [hprogram] at hfull
  rw [hfull] at hiff
  exact ⟨_, hfull, ⟨fun hb => hiff.mp (congrArg Except.ok hb), fun h => Except.ok.inj (hiff.mpr h)⟩⟩

/-- What is left of signs that have nothing to repeat. -/
theorem Expression.test_extended_illegible (hillegible : ¬∀ f ∈ fs, f.Legible) (input : String) :
    e.test .extended input = .error (.invalidPattern e.pattern
      "Parsing error: Target of repeat operator is invalid") := by
  have hread := Extended.read_factors hpattern hfs
  rw [if_neg hillegible] at hread
  have hcompile := @Extended.compile_of_read_error (e.modifiers.contains .anyCase) _ _ hread
  have hbuild : Backend.extended.build (e.modifiers.contains .anyCase) e.pattern =
      .error "Parsing error: Target of repeat operator is invalid" := by
    rw [Backend.build, hcompile]
    rfl
  exact test_of_compile_eq_error (compile_eq_error.mpr ⟨_, hbuild, rfl⟩) input

/-- **A test of the extended backend**, if no word has more than one sign, tells the same. -/
theorem Expression.test_extended_easy (hsigns : ∀ f ∈ fs, f.signs.tail = [])
    (hlimits : Backend.extended.TestWithinLimits (e.modifiers.contains .anyCase) e.pattern)
    (input : String) :
    ∃ b, e.test .extended input = .ok b ∧ (b = true ↔ e.Meets
      (.ofLanguage (fs.map (Factor.language (e.modifiers.contains .anyCase))).prod) input) := by
  generalize hcase : e.modifiers.contains .anyCase = anyCase at hlimits ⊢
  have hlegible : ∀ f ∈ fs, f.Legible := fun f hf => Or.inl (hsigns f hf)
  have hread := Extended.read_factors hpattern hfs
  rw [if_pos hlegible] at hread
  have hcooks := Extended.cooks_factors anyCase (fun f hf => (hfs f hf).1) hsigns
  have hlettered := (Extended.Tree.sound_ofItems (List.forall_mem_map.mpr
    fun f (_ : f ∈ fs) => Extended.sound_tree f)).2
  have hr := hcooks.regex hlettered
  have hcompile := Extended.compile_of_cooks hread hcooks (by decide)
  split at hcompile
  next =>
    obtain ⟨c, hc, hsearch, form, p', hform, hp', hfull⟩ :=
      exists_form_of_nameless hread hcompile hlimits
    refine test_of_reads (hcase ▸ hc) (Factor.reads_sequence anyCase fs) (fun text => ?_)
      (fun text => ?_) input
    · have hcovers : (Extended.Tree.ofItems (fs.map Factor.tree)).Covers anyCase [] text.toList ↔
          (Regex.sequence (fs.map (Factor.regex anyCase))).Covers text.toList := by
        rw [Extended.Tree.covers_iff_regex hcooks.easy, hr]
        simp
      rw [hfull]
      refine (Program.answer_cases
        (fun h => hcovers.mp (Extended.covers_of_isMatch hform hlettered hp' h))
        fun h => Extended.isMatch_ne_false hform hlettered hp' (hcovers.mpr h)).resolve_left ?_
      rcases Extended.compile_anchored hform hp' with ⟨hhard, -⟩ | ⟨-, _, _, _, -, -, rfl⟩
      · exact Bool.noConfusion (hcooks.easy.symm.trans hhard)
      · nofun
    · rw [hsearch]
      exact ⟨_, rfl, Regular.isMatch_iff _ _⟩
  next => exact absurd rfl (hlimits.search.faults _ hcompile).2

/-- **A test of the extended backend**, if some word has a second sign, tells whether the input
meets the passages of the words, or gives up. Such patterns are compiled part by part, and the parts
are not told to ignore case. -/
theorem Expression.test_extended_hard (hlegible : ∀ f ∈ fs, f.Legible)
    (hpossessive : ∃ f ∈ fs, f.Possessive)
    (hlimits : Backend.extended.TestWithinLimits (e.modifiers.contains .anyCase) e.pattern)
    (input : String) :
    e.test .extended input = .error Program.gaveUp ∨
      ∃ b, e.test .extended input = .ok b ∧
        (b = true ↔ e.Meets (.ofFactors false fs) input) := by
  generalize hcase : e.modifiers.contains .anyCase = anyCase at hlimits
  have hread := Extended.read_factors hpattern hfs
  rw [if_pos hlegible] at hread
  have hhard := (Extended.hard_factors hlegible).mpr hpossessive
  obtain ⟨f, hf, -⟩ := hpossessive
  have hcompile := @Extended.compile_of_read anyCase _ _ hread
  rw [if_pos hhard] at hcompile
  rcases Extended.plans_factors (fun f hf => (hfs f hf).1) hlegible (List.ne_nil_of_mem hf) with
    htooLarge | ⟨plan, hplan, hreads⟩
  · rw [htooLarge] at hcompile
    exact absurd rfl (hlimits.search.faults _ hcompile).2
  · rw [hplan] at hcompile
    obtain ⟨c, hc, hsearch, form, p', hform, hp', hfull⟩ :=
      exists_form_of_nameless hread hcompile hlimits
    rw [test_of_compile (hcase ▸ hc)]
    unfold Meets
    split
    · rw [hsearch]
      refine Program.answer_cases (fun h => hreads.exists_of_isMatch h) ?_
      rintro ⟨u, w, v, htext, hw⟩
      rw [htext]
      exact hreads.isMatch_ne_false hw
    · rw [hfull]
      rcases Extended.compile_anchored hform hp' with ⟨-, plan', hplan', rfl⟩ | ⟨heasy, -⟩
      · obtain rfl := Except.ok.inj (hplan.symm.trans hplan')
        exact Program.answer_cases
          (fun h => hreads.covers_iff.mp (Extended.Plan.covers_of_isMatch h))
          fun h => Extended.Plan.isMatch_ne_false (hreads.covers_iff.mpr h)
      · exact Bool.noConfusion (heasy.symm.trans hhard)

end Tests

namespace Expression

/-- **What both backends make of words and signs.** For a chain of words and signs that begins with
a word, with any modifiers and any input, and limits of nesting and size apart:

* the regular backend answers whether the input meets what the words describe, each with all the
  signs that follow it as nested repetitions;
* so does the extended backend, with the same answer, if no word has more than one sign;
* if some sign is neither the first one of its word nor a plus at the end of two, the extended
  backend refuses the pattern;
* and otherwise it takes the second signs to mean that no round is given back: it answers whether
  the input meets the passages of the words, unless it gives up. This is left open for an expression
  that ignores case, if a letter of it has another case. -/
theorem test_repetitions {verbs : List Verb} (h : ∀ v ∈ verbs, v.IsWordOrSign)
    (hfirst : ∀ v ∈ verbs.head?, ∃ word, v = .andThen word) (ms : Modifiers) (input : String) :
    let e : Expression := { ofVerbs verbs with modifiers := ms }
    let fs := factors verbs
    let described : Passages :=
      .ofLanguage (fs.map (Factor.language (ms.contains .anyCase))).prod
    fs.flatMap Factor.verbs = verbs ∧
    (Backend.regular.TestWithinLimits (ms.contains .anyCase) e.pattern →
      ∃ b, e.test .regular input = .ok b ∧ (b = true ↔ e.Meets described input)) ∧
    ((∀ f ∈ fs, f.signs.tail = []) →
      Backend.extended.TestWithinLimits (ms.contains .anyCase) e.pattern →
      ∃ b, e.test .extended input = .ok b ∧ (b = true ↔ e.Meets described input)) ∧
    ((∃ f ∈ fs, ¬f.Legible) →
      e.test .extended input = .error (.invalidPattern e.pattern
        "Parsing error: Target of repeat operator is invalid")) ∧
    ((∀ f ∈ fs, f.Legible) → (∃ f ∈ fs, f.Possessive) →
      (ms.contains .anyCase = true → ∀ f ∈ fs, f.Caseless) →
      Backend.extended.TestWithinLimits (ms.contains .anyCase) e.pattern →
      e.test .extended input = .error Program.gaveUp ∨
        ∃ b, e.test .extended input = .ok b ∧
          (b = true ↔ e.Meets (.ofFactors (ms.contains .anyCase) fs) input)) := by
  intro e fs described
  obtain ⟨hverbs, hwords⟩ := flatMap_factors h hfirst
  have hpattern : e.pattern.toList = fs.flatMap Factor.text := by
    rw [← toList_pattern_factors, hverbs]
    rfl
  refine ⟨hverbs, fun hlimits => test_regular_factors hpattern hwords hlimits input,
    fun hsigns hlimits => test_extended_easy hpattern hwords hsigns hlimits input,
    fun ⟨f, hf, hillegible⟩ => test_extended_illegible hpattern hwords
      (fun hlegible => hillegible (hlegible f hf)) input,
    fun hlegible hpossessive hcaseless hlimits => ?_⟩
  rw [Passages.ofFactors_of_caseless hcaseless]
  exact test_extended_hard hpattern hwords hlegible hpossessive hlimits input

/-- A word that is repeated, and one that is repeated and gives no round back. -/
theorem test_repetitions_of_plus :
    ((ofVerbs [.andThen "ab", .multiple "*", .andThen "a"]).test .regular "aba" = .ok true ∧
      (ofVerbs [.andThen "ab", .multiple "*", .andThen "a"]).Meets (.ofLanguage
        ([⟨"ab", [.star]⟩, ⟨"a", []⟩].map (Factor.language false)).prod) "aba" ∧
      ∃ b, (ofVerbs [.andThen "ab", .multiple "*", .andThen "a"]).test .extended "aba" = .ok b) ∧
    (ofVerbs [.andThen "a", .multiple "+", .multiple "+", .andThen "b"]).test .extended "aab" =
        .ok true ∧
      (ofVerbs [.andThen "a", .multiple "+", .multiple "+", .andThen "b"]).Meets
        (.ofFactors false [⟨"a", [.plus, .plus]⟩, ⟨"b", []⟩]) "aab" := by
  constructor
  · have hchain : ∀ v ∈ [Verb.andThen "ab", .multiple "*", .andThen "a"], v.IsWordOrSign := by
      decide
    obtain ⟨-, hregular, heasy, -⟩ := test_repetitions hchain (by simp) .empty "aba"
    have htest : (ofVerbs [.andThen "ab", .multiple "*", .andThen "a"]).test .regular "aba" =
        .ok true := by
      decide +kernel
    obtain ⟨b, hb, hiff⟩ := hregular
      (Backend.testWithinLimits_of_isSome (by decide +kernel) (by decide +kernel))
    obtain ⟨b', hb', -⟩ := heasy (by decide)
      (Backend.testWithinLimits_of_isSome (by decide +kernel) (by decide +kernel))
    obtain rfl : b = true := Except.ok.inj (hb.symm.trans htest)
    exact ⟨htest, hiff.mp rfl, b', hb'⟩
  · have hchain : ∀ v ∈ [Verb.andThen "a", .multiple "+", .multiple "+", .andThen "b"],
        v.IsWordOrSign := by
      decide
    obtain ⟨-, -, -, -, hhard⟩ := test_repetitions hchain (by simp) .empty "aab"
    have htest : (ofVerbs [.andThen "a", .multiple "+", .multiple "+", .andThen "b"]).test
        .extended "aab" = .ok true := by
      decide +kernel
    have hanswer := hhard (by decide) (by decide) nofun
      (Backend.testWithinLimits_of_isSome (by decide +kernel) (by decide +kernel))
    rcases hanswer with hgaveUp | ⟨b, hb, hiff⟩
    · cases hgaveUp.symm.trans htest
    · obtain rfl : b = true := Except.ok.inj (hb.symm.trans htest)
      exact ⟨htest, hiff.mp rfl⟩

/-- The backends do not agree where signs are stacked: a repetition that gives no round back leaves
nothing for the word behind it, a pattern is refused, and case is heeded. -/
theorem backends_differ_on_stacked_signs :
    ((ofVerbs [.andThen "a", .multiple "*", .multiple "+", .andThen "a"]).test .regular "a" =
        .ok true ∧
      (ofVerbs [.andThen "a", .multiple "*", .multiple "+", .andThen "a"]).test .extended "a" =
        .ok false) ∧
    ((ofVerbs [.andThen "a", .multiple "*", .multiple "*"]).test .regular "aa" = .ok true ∧
      (ofVerbs [.andThen "a", .multiple "*", .multiple "*"]).test .extended "aa" =
        .error (.invalidPattern "(?:a)**"
          "Parsing error: Target of repeat operator is invalid")) ∧
    ((ofVerbs [.andThen "a", .multiple "+", .multiple "+", .anyCase true]).test .regular "A" =
        .ok true ∧
      (ofVerbs [.andThen "a", .multiple "+", .multiple "+", .anyCase true]).test .extended "A" =
        .ok false) := by
  refine ⟨⟨?_, ?_⟩, ⟨?_, ?_⟩, ?_, ?_⟩ <;> decide +kernel

end Expression

end Verbal
