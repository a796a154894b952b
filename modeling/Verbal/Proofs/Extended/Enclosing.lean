import Verbal.Proofs.Extended.Chains
import Verbal.Proofs.Extended.Surroundings

/-!
# Extended patterns that have to cover a text

A pattern that has to cover a text is read between `\A(?:` and `)\z`, as it is read on its own. One
check is made only where a branch ends that has no others beside it: that no group is referred to by
a number while others are named. In a pattern with branches nobody made it; between the assertions
it is made.

* **`read_enclosed`**: what is read of a pattern between the assertions.
* **`compile_enclosed`**: it compiles if the pattern does, unless it exceeds a limit.
-/

namespace Verbal.Extended

open Verbal.Regular (Ast Chain Regex)

/-! ## Reading -/

/-- Whether a pattern refers to a group by a number and gives a name to one. -/
def NumbersBesideNames (pattern : List Char) : Prop :=
  ∃ d, readAll (.start pattern) pattern = .ok d ∧ d.numbered = true ∧ d.scope.names ≠ []

/-- What stands around a pattern that has to cover a text, if that is the whole text of it. -/
def enclosing (form : List Char) : Surroundings :=
  ⟨[⟨.plain .none, [], [.assertion .startText]⟩], [], byteLength form⟩

theorem Behind.eq_of_nil {branches items branches' items' : List Tree}
    (h : Behind [] branches items branches' items') : branches' = branches ∧ items' = items := by
  cases h with
  | first items => exact ⟨rfl, List.append_nil items⟩
  | later branches items first => exact ⟨by rw [List.append_nil], rfl⟩

theorem placed_anchored {pattern form : List Char} (h : byteLength pattern ≤ byteLength form) :
    Placed (enclosing form) (.start pattern) (.anchored form) where
  frames := .bottom (.first [])
  scope := rfl
  byteLength := h
  pending := rfl
  flags := rfl
  numbered := rfl
  referred := rfl
  unopened := rfl

section Closing

variable {form : List Char} {d e : Draft}

/-- What has been read once the pattern is closed. -/
def Draft.closed (e : Draft) (body : Tree) : Draft :=
  ({ (e.leave ⟨.plain .none, [], [.assertion .startText]⟩ []).push body.enclosed with
      flags := .none }).push (.assertion .endText)

theorem readAll_closing (he : Placed (enclosing form) d e) (hlevels : d.levels = [])
    (hend : d.checkEnd = .ok ()) : readAll e ")\\z".toList = .ok (e.closed d.body) := by
  have hframes := he.frames_flush
  rw [hlevels] at hframes
  obtain ⟨helevels, hbehind⟩ := hframes.levels_nil
  obtain ⟨hbranches, hitems⟩ := hbehind.eq_of_nil
  have hbody : e.body = d.body := by
    unfold Draft.body
    rw [hbranches, hitems]
  have hending : Ending ")\\z".toList := ⟨by simp, by decide⟩
  generalize houter : ({ (e.leave ⟨.plain .none, [], [.assertion .startText]⟩ []).push
    d.body.enclosed with flags := .none } : Draft) = outer
  have hverbose : outer.flags.verbose = false := by
    rw [← houter]
    rfl
  have hclose : (readStep e ')' "\\z".toList).text = .ok (outer, "\\z".toList) := by
    change (closeGroup e "\\z".toList).text = _
    rw [closeGroup_text, he.checkEnd, hend, helevels, hbody, ← houter]
    rfl
  have hassert : (readStep outer '\\' ['z']).text = .ok (outer.push (.assertion .endText), []) :=
    rfl
  calc
    readAll e ")\\z".toList = readAll outer "\\z".toList := readAll_of_step hending.skip hclose
    _ = readAll (outer.push (.assertion .endText)) [] :=
      readAll_of_step (by rw [hverbose]; rfl) hassert
    _ = .ok (e.closed d.body) := by
      rw [readAll_nil, ← houter]
      rfl

/-- The check that nobody may have made of the pattern is made of what is around it. -/
theorem finish_closed (he : Placed (enclosing form) d e) (hunopened : d.unopened = false) :
    (e.closed d.body).finish =
      if d.numbered = true ∧ d.scope.names ≠ [] then .error .numberBesideNames
      else .ok ⟨d.body.anchored, d.referred, d.scope.names⟩ := by
  have hclosed : e.closed d.body = { e.closed d.body with
      levels := [], branches := [], numbered := d.numbered, referred := d.referred,
      unopened := false, scope := { d.scope with byteLength := byteLength form } } := by
    unfold Draft.closed
    rw [Draft.push_eq, Draft.push_eq]
    simp only [Draft.leave, he.numbered, he.referred, he.unopened, hunopened, he.scope]
    rfl
  have hbody : (e.closed d.body).body = d.body.anchored := by
    refine Eq.trans ?_ (body_anchored (d := e.leave ⟨.plain .none, [], [.assertion .startText]⟩ [])
      (b := d.body.enclosed) (c := .assertion .endText) rfl rfl Tree.noConfusion)
    unfold Draft.closed
    generalize d.body.enclosed = body
    cases body <;> rfl
  unfold Draft.finish Draft.checkEnd
  rw [hbody, hclosed]
  cases d.numbered <;> cases d.scope.names <;> simp [Except.bind]

end Closing

/-! ### The two forms -/

theorem read_eq_ok {pattern : List Char} {source : Source} :
    Source.read pattern = .ok source ↔ ∃ d, readAll (.start pattern) pattern = .ok d ∧
      d.levels = [] ∧ d.checkEnd = .ok () ∧ d.unopened = false ∧
      source = ⟨d.body, d.referred, d.scope.names⟩ := by
  unfold Source.read Draft.finish
  rw [bind_eq_ok]
  refine exists_congr fun d => and_congr_right fun _ => ?_
  rw [bind_eq_ok]
  by_cases hlevels : d.levels = []
  · cases hunopened : d.unopened
    · simp only [hlevels, List.isEmpty_nil, Bool.not_true, Bool.false_eq_true, if_false, true_and,
        Except.ok.injEq]
      constructor
      · rintro ⟨⟨⟩, hend, rfl⟩
        exact ⟨hend, rfl⟩
      · rintro ⟨hend, rfl⟩
        exact ⟨(), hend, rfl⟩
    · simp [hlevels]
  · simp [hlevels]

/-- What a pattern with more text behind it is read as between the assertions. -/
def Encloses (pattern t : List Char) (d : Draft) (b : List Char) : Prop :=
  ∀ form, form = "\\A(?:".toList ++ (pattern ++ t) →
    ∃ e, Placed (enclosing form) d e ∧ Source.read form = run e (b ++ t)

theorem byteLength_le_append (s t u : List Char) : byteLength t ≤ byteLength (s ++ (t ++ u)) := by
  rw [byteLength_append, byteLength_append]
  omega

/-- **A pattern is read between the assertions** as it is read on its own, unless its groups are open
too deep in one another, whatever stands behind it. -/
theorem read_enclosed {pattern : List Char} {d : Draft}
    (h : readAll (.start pattern) pattern = .ok d) :
    (∀ t, Benign t → ∀ form, form = "\\A(?:".toList ++ (pattern ++ t) →
      Source.read form = .error .nestingTooDeep) ∨
    ∃ b, Gap.outside.skip d.flags.verbose b = .ok [] ∧ ∀ t, Benign t → Encloses pattern t d b := by
  obtain ⟨b, -, hb, deep, hrun⟩ := readAll_placed h
  have hform {t form : List Char} (ht : Benign t)
      (hform : form = "\\A(?:".toList ++ (pattern ++ t)) :
      deep 1 ∧ Source.read form = .error .nestingTooDeep ∨
        ¬deep 1 ∧ ∃ e, Placed (enclosing form) d e ∧ Source.read form = run e (b ++ t) := by
    have hstart : Source.read form = run (.anchored form) (pattern ++ t) :=
      (congrArg (run (.start form)) hform).trans (run_anchored form _)
    have hlength : byteLength pattern ≤ byteLength form := by
      rw [hform]
      exact byteLength_le_append _ _ _
    rw [hstart]
    unfold run
    rcases hrun _ _ t (placed_anchored hlength) ht with ⟨hdeep, heq⟩ | ⟨hdeep, e, he, heq⟩
    · exact Or.inl ⟨hdeep, by rw [heq]; rfl⟩
    · exact Or.inr ⟨hdeep, e, he, by rw [heq]⟩
  by_cases hdeep : deep 1
  · exact Or.inl fun t ht form h => ((hform ht h).resolve_right fun hnot => hnot.1 hdeep).2
  · exact Or.inr ⟨b, hb, fun t ht form h => ((hform ht h).resolve_left fun hd => hdeep hd.1).2⟩

/-- What is made of a pattern between the assertions, if so much was read of it. -/
def Draft.reading (d : Draft) : Except Fault Source :=
  if d.numbered = true ∧ d.scope.names ≠ [] then .error .numberBesideNames
  else .ok ⟨d.body.anchored, d.referred, d.scope.names⟩

section Forms

variable {pattern : List Char} {d e : Draft} {form b t : List Char}

theorem run_closing (he : Placed (enclosing form) d e) (hlevels : d.levels = [])
    (hend : d.checkEnd = .ok ()) (hunopened : d.unopened = false)
    (hskip : Gap.outside.skip d.flags.verbose t = .ok ")\\z".toList) :
    run e t = d.reading := by
  rw [← he.flags] at hskip
  unfold run
  rw [readAll_of_skip hskip, readAll_closing he hlevels hend]
  exact finish_closed he hunopened

/-- A comment that takes in what closes the pattern leaves it open. -/
theorem run_swallowed (he : Placed (enclosing form) d e) (hlevels : d.levels = [])
    (hskip : Gap.outside.skip d.flags.verbose t = .ok []) : ∃ fault, run e t = .error fault := by
  have hframes := he.frames
  rw [hlevels] at hframes
  rw [← he.flags] at hskip
  unfold run
  rw [readAll_of_skip hskip, readAll_nil]
  simp only [Except.bind, Draft.finish, hframes.levels_nil.1]
  cases e.checkEnd with
  | error fault => exact ⟨fault, rfl⟩
  | ok u => exact ⟨.groupUnclosed, rfl⟩

theorem ending_closing : Ending ")\\z".toList := ⟨by simp, by decide⟩

theorem benign_closing : Benign ")\\z".toList := Or.inl ending_closing

theorem benign_newline_closing : Benign ('\n' :: ")\\z".toList) :=
  Or.inr ⟨_, rfl, ending_closing⟩

/-- The end of the line that closes a comment is a blank, or it is an item of the pattern. -/
theorem run_newline_closing (he : Placed (enclosing form) d e) (hlevels : d.levels = [])
    (hend : d.checkEnd = .ok ()) (hunopened : d.unopened = false)
    (hskip : ∀ t, Gap.outside.skip d.flags.verbose (b ++ t) =
      Gap.outside.skip d.flags.verbose t) :
    run e (b ++ '\n' :: ")\\z".toList) = d.reading ∨
      run e (b ++ '\n' :: ")\\z".toList) =
        (d.push (.literal '\n' d.flags.anyCase)).reading := by
  have hnewline := hskip ('\n' :: ")\\z".toList)
  cases hverbose : d.flags.verbose with
  | true =>
    rw [hverbose] at hnewline
    refine Or.inl (run_closing he hlevels hend hunopened ?_)
    rw [hverbose, hnewline]
    rfl
  | false =>
    rw [hverbose] at hnewline
    have hstep : (readStep e '\n' ")\\z".toList).text =
        .ok (e.push (.literal '\n' d.flags.anyCase), ")\\z".toList) := by
      rw [← he.flags]
      rfl
    have hrun : run e (b ++ '\n' :: ")\\z".toList) =
        run (e.push (.literal '\n' d.flags.anyCase)) ")\\z".toList := by
      unfold run
      rw [readAll_of_step (by rw [he.flags, hverbose, hnewline]; rfl) hstep]
    have hpush := Draft.push_eq d (.literal '\n' d.flags.anyCase)
    refine Or.inr ?_
    rw [hrun]
    refine run_closing (he.push _) ?_ ?_ ?_ ending_closing.skip
    · rw [hpush]
      exact hlevels
    · rw [hpush]
      exact hend
    · rw [hpush]
      exact hunopened

/-- **How the two forms are read.** The first one is read as the pattern between the assertions, and
then the second one is too, or with the end of a line as one more item; if a comment at the end of
the pattern takes in what closes it, the first form is refused and the second one is read as the
pattern between the assertions; and if the groups of the pattern are too deep, both are refused. -/
theorem read_forms {source : Source} {pattern : String}
    (h : Source.read pattern.toList = .ok source) :
    ∃ d, readAll (.start pattern.toList) pattern.toList = .ok d ∧
      source = ⟨d.body, d.referred, d.scope.names⟩ ∧
      (Source.read (anchoredPattern pattern).toList = .error .nestingTooDeep ∧
          Source.read (anchoredAfterComment pattern).toList = .error .nestingTooDeep ∨
        Source.read (anchoredPattern pattern).toList = d.reading ∧
          (Source.read (anchoredAfterComment pattern).toList = d.reading ∨
            Source.read (anchoredAfterComment pattern).toList =
              (d.push (.literal '\n' d.flags.anyCase)).reading) ∨
        (∃ fault, Source.read (anchoredPattern pattern).toList = .error fault) ∧
          Source.read (anchoredAfterComment pattern).toList = d.reading) := by
  obtain ⟨d, hread, hlevels, hend, hunopened, rfl⟩ := read_eq_ok.mp h
  refine ⟨d, hread, rfl, ?_⟩
  have htoList := Regular.toList_anchoredPattern pattern
  have htoList' := Regular.toList_anchoredAfterComment pattern
  rcases read_enclosed hread with hdeep | ⟨b, hb, hencloses⟩
  · exact Or.inl ⟨hdeep _ benign_closing _ htoList, hdeep _ benign_newline_closing _ htoList'⟩
  refine Or.inr ?_
  obtain ⟨e, he, hfirst⟩ := hencloses _ benign_closing _ htoList
  obtain ⟨e', he', hsecond⟩ := hencloses _ benign_newline_closing _ htoList'
  rw [hfirst, hsecond]
  obtain ⟨g, hg, hskip⟩ := skip_append_of_nil hb
  rcases hg with rfl | rfl
  · exact Or.inl ⟨run_closing he hlevels hend hunopened ((hskip _).trans ending_closing.skip),
      run_newline_closing he' hlevels hend hunopened hskip⟩
  · exact Or.inr ⟨run_swallowed he hlevels ((hskip _).trans (skip_line ending_closing.newline)),
      run_closing he' hlevels hend hunopened ((hskip _).trans ending_closing.skip)⟩

theorem reading_eq_ok {source : Source} :
    d.reading = .ok source ↔ ¬(d.numbered = true ∧ d.scope.names ≠ []) ∧
      source = ⟨d.body.anchored, d.referred, d.scope.names⟩ := by
  unfold Draft.reading
  by_cases hbeside : d.numbered = true ∧ d.scope.names ≠ []
  · rw [if_pos hbeside]
    exact ⟨nofun, fun h => absurd hbeside h.1⟩
  · rw [if_neg hbeside, Except.ok.injEq]
    exact ⟨fun h => ⟨hbeside, h.symm⟩, fun h => h.2.symm⟩

/-- Both forms are refused where numbers stand beside names. -/
theorem read_forms_of_numbersBesideNames {source : Source} {pattern : String}
    (h : Source.read pattern.toList = .ok source) (hnumbers : NumbersBesideNames pattern.toList) :
    (∃ fault, Source.read (anchoredPattern pattern).toList = .error fault) ∧
      ∃ fault, Source.read (anchoredAfterComment pattern).toList = .error fault := by
  obtain ⟨d, hread, -, hforms⟩ := read_forms h
  obtain ⟨d', hread', hbeside⟩ := hnumbers
  obtain rfl : d = d' := Except.ok.inj (hread.symm.trans hread')
  have hreading : d.reading = .error .numberBesideNames := if_pos hbeside
  have hpushed : (d.push (.literal '\n' d.flags.anyCase)).reading = .error .numberBesideNames := by
    rw [Draft.push_eq]
    exact if_pos hbeside
  rcases hforms with ⟨hfirst, hsecond⟩ | ⟨hfirst, hsecond⟩ | ⟨hfirst, hsecond⟩
  · exact ⟨⟨_, hfirst⟩, _, hsecond⟩
  · refine ⟨⟨_, hfirst.trans hreading⟩, ?_⟩
    exact hsecond.elim (fun h => ⟨_, h.trans hreading⟩) fun h => ⟨_, h.trans hpushed⟩
  · exact ⟨hfirst, _, hsecond.trans hreading⟩

end Forms

/-! ## Compiling -/

/-- Whether a pattern is refused neither for its nesting nor for its size, by the reader or as a
part that is matched as one. -/
structure WithinLimits (anyCase : Bool) (pattern : List Char) : Prop where
  faults : ∀ fault, Program.compile anyCase pattern = .error fault →
    fault ≠ .nestingTooDeep ∧ fault ≠ .partTooLarge
  depth : ∀ source ast, Source.read pattern = .ok source →
    source.tree.hard source.referred = false → source.tree.cook 0 .none = .ok ast →
    ast.depth .none ≤ Regular.nestingLimit

theorem compile_of_read_error {anyCase : Bool} {pattern : List Char} {fault : Fault}
    (h : Source.read pattern = .error fault) : Program.compile anyCase pattern = .error fault := by
  simp only [Program.compile, h]
  rfl

theorem compile_of_read {anyCase : Bool} {pattern : List Char} {source : Source}
    (h : Source.read pattern = .ok source) :
    Program.compile anyCase pattern =
      if source.tree.hard source.referred then
        (source.tree.plan source.referred .alone true).map fun plan => ⟨.hard plan, source.names⟩
      else (source.tree.cook 0 .none).bind fun ast =>
        (partOf anyCase ast).map fun part => ⟨.easy part, source.names⟩ := by
  simp only [Program.compile, h, bind, Except.bind]
  split
  · cases source.tree.plan source.referred .alone true <;> rfl
  · cases source.tree.cook 0 .none with
    | error e => rfl
    | ok ast => cases partOf anyCase ast <;> rfl

theorem exists_source_of_compile {anyCase : Bool} {pattern : List Char} {program : Program}
    (h : Program.compile anyCase pattern = .ok program) :
    ∃ source, Source.read pattern = .ok source := by
  cases hsource : Source.read pattern with
  | error fault =>
    rw [compile_of_read_error hsource] at h
    cases h
  | ok source => exact ⟨source, rfl⟩

/-- What is accepted exceeds no limit. -/
theorem withinLimits_of_compile {anyCase : Bool} {pattern : List Char} {program : Program}
    (h : Program.compile anyCase pattern = .ok program) : WithinLimits anyCase pattern where
  faults fault hfault := by
    rw [h] at hfault
    cases hfault
  depth source ast hsource heasy hast := by
    rw [compile_of_read hsource, heasy, hast] at h
    obtain ⟨part, hpart, -⟩ := map_eq_ok.mp h
    by_contra hdeep
    unfold partOf at hpart
    rw [if_pos (Nat.not_le.mp hdeep)] at hpart
    cases hpart

namespace Tree

variable (referred : List Nat) (t : Tree)

@[simp]
theorem hard_enclosed : t.enclosed.hard referred = t.hard referred := by
  cases t <;> rfl

@[simp]
theorem cook_enclosed (binding : Nat) : t.enclosed.cook binding .none = t.cook binding .none := by
  cases t <;> rfl

theorem anchored_of_empty (h : t.enclosed = .empty) :
    t.anchored = .concat (.assertion .startText) (.assertion .endText) := by
  rw [anchored, if_pos h]
  rfl

theorem anchored_of_ne (h : t.enclosed ≠ .empty) :
    t.anchored =
      .concat (.assertion .startText) (.concat t.enclosed (.assertion .endText)) := by
  rw [anchored, if_neg h]
  rfl

theorem hard_anchored : t.anchored.hard referred = t.hard referred := by
  by_cases h : t.enclosed = .empty
  · rw [anchored_of_empty t h, ← hard_enclosed referred t, h]
    rfl
  · rw [anchored_of_ne t h]
    simp [hard, hardLook]

/-! ### Easy patterns -/

/-- Where a tree stands makes no more difference to what is made of it than a group around. -/
theorem cook_binding (t : Tree) (binding : Nat) (chain : Chain) :
    t.cook binding chain = t.cook 0 .none ∨
      t.cook binding chain = (t.cook 0 .none).map (.group (.plain [])) := by
  have hgrouped (needed : Bool) (a : Ast) :
      Except.ok (ε := Fault) (grouped needed a) = .ok a ∨
        Except.ok (ε := Fault) (grouped needed a) = (Except.ok a).map (.group (.plain [])) := by
    cases needed
    · exact Or.inl rfl
    · exact Or.inr rfl
  induction t generalizing chain with
  | concat a b =>
    rw [cook_concat, cook_concat]
    cases a.cook 2 .none with
    | error e => exact Or.inl rfl
    | ok a =>
      cases b.cook 2 .concat with
      | error e => exact Or.inl rfl
      | ok b => exact hgrouped _ _
  | alternate a b =>
    rw [cook_alternate, cook_alternate]
    cases a.cook 1 .none with
    | error e => exact Or.inl rfl
    | ok a =>
      cases b.cook 1 .alternate with
      | error e => exact Or.inl rfl
      | ok b => exact hgrouped _ _
  | repetition least most greedy t =>
    rw [cook_repetition, cook_repetition]
    cases t.cook 3 .none with
    | error e => exact Or.inl rfl
    | ok a =>
      cases countOf least most with
      | error e => exact Or.inl rfl
      | ok count => exact hgrouped _ _
  | plain t ih => exact ih .none
  | assertion l => cases l <;> exact Or.inl rfl
  | _ => exact Or.inl rfl

theorem regex_plain {a : Ast} {r : Regex} {flags flags' : Regular.Flags} :
    (Ast.group (.plain []) a).regex flags = .ok (r, flags') ↔
      ∃ inner, a.regex flags = .ok (r, inner) ∧ flags' = flags := by
  simp only [Ast.regex, Regular.Flags.apply, List.foldl_nil, bind, pure, Except.pure]
  rw [bind_eq_ok]
  constructor
  · rintro ⟨⟨r', inner⟩, hr, heq⟩
    cases heq
    exact ⟨inner, hr, rfl⟩
  · rintro ⟨inner, hr, rfl⟩
    exact ⟨_, hr, rfl⟩

/-- What a tree is made into stands for the same wherever the tree stands. -/
theorem regex_of_cook {t : Tree} {binding : Nat} {chain : Chain} {a : Ast} {r : Regex}
    {flags flags' : Regular.Flags} (h : t.cook binding chain = .ok a)
    (hr : a.regex flags = .ok (r, flags')) :
    ∃ a inner, t.cook 0 .none = .ok a ∧ a.regex flags = .ok (r, inner) := by
  rcases cook_binding t binding chain with heq | heq
  · exact ⟨a, flags', heq ▸ h, hr⟩
  · obtain ⟨a', ha', rfl⟩ := map_eq_ok.mp (heq.symm.trans h)
    obtain ⟨inner, hinner, -⟩ := regex_plain.mp hr
    exact ⟨a', inner, ha', hinner⟩

theorem exists_regex_of_cook {t : Tree} {a : Ast} {r : Regex} {flags flags' : Regular.Flags}
    (h : t.cook 0 .none = .ok a) (hr : a.regex flags = .ok (r, flags')) (binding : Nat)
    (chain : Chain) :
    ∃ a inner, t.cook binding chain = .ok a ∧ a.regex flags = .ok (r, inner) := by
  rcases cook_binding t binding chain with heq | heq
  · exact ⟨a, flags', heq.trans h, hr⟩
  · exact ⟨_, flags, heq.trans (congrArg (Except.map _) h), regex_plain.mpr ⟨_, hr, rfl⟩⟩

theorem cook_anchored (h : t.enclosed ≠ .empty) :
    t.anchored.cook 0 .none = (t.cook 2 .none).map fun a =>
      .concat (.primitive (.assertion .startLine))
        (.concat a (.primitive (.assertion .endLine))) := by
  rw [anchored_of_ne t h, cook_concat, cook_concat, cook_enclosed]
  cases t.cook 2 .none <;> rfl

theorem regex_assertion (assertion : Regular.Assertion) (flags : Regular.Flags) :
    (Ast.primitive (.assertion assertion)).regex flags =
      .ok (.look (flags.look assertion), flags) := rfl

/-- An easy tree between the assertions is made into what stands for something. -/
theorem exists_cook_anchored {t : Tree} {a : Ast} {r : Regex} {flags flags' : Regular.Flags}
    (h : t.cook 0 .none = .ok a) (hr : a.regex flags = .ok (r, flags')) :
    ∃ ast x, t.anchored.cook 0 .none = .ok ast ∧ ast.regex flags = .ok x := by
  by_cases ht : t.enclosed = .empty
  · refine ⟨.concat (.primitive (.assertion .startLine)) (.primitive (.assertion .endLine)),
      (_, flags), ?_, Ast.regex_concat_eq_ok.mpr
        ⟨_, _, _, regex_assertion _ _, regex_assertion _ _, rfl⟩⟩
    rw [anchored_of_empty t ht]
    rfl
  · obtain ⟨a', inner, ha', hr'⟩ := exists_regex_of_cook h hr 2 .none
    exact ⟨_, (_, inner), by rw [cook_anchored t ht, ha']; rfl,
      Ast.regex_concat_eq_ok.mpr ⟨_, _, _, regex_assertion _ _,
        Ast.regex_concat_eq_ok.mpr ⟨_, _, _, hr', regex_assertion _ _, rfl⟩, rfl⟩⟩

/-! ### Other patterns -/

theorem planPart_startText :
    planPart [assertion .startText] = .ok (.part (.look .startText) []) := rfl

theorem plan_enclosed : t.enclosed.plan referred .alone true = t.plan referred .alone true := by
  cases t <;> rfl

theorem plan_concat_of_front {referred : List Nat} {a : Tree} (h : a.isFront referred = true)
    (b : Tree) : (concat a b).plan referred .alone true = b.plan referred (.front [a]) true := by
  simp [plan, h]

/-- A sequence is cut in front of a first item that cannot be matched with what waits. -/
theorem plan_concat_front {referred waiting : List _} {a b : Tree}
    (hfront : a.isFront referred = false) (hend : (concat a b).isEnd referred true = false) :
    (concat a b).plan referred (.front waiting) true =
      (planPart waiting).bind fun before => (a.plan referred .alone true).bind fun first =>
        (b.plan referred .middle true).bind fun rest => .ok (.seq before (.seq first rest)) := by
  simp only [plan, hfront, hend, Bool.false_eq_true, if_false, bind]
  cases planPart waiting with
  | error e => rfl
  | ok before =>
    cases a.plan referred .alone true with
    | error e => rfl
    | ok first => cases b.plan referred .middle true <;> rfl

/-- Between the assertions a tree that is not easy is matched as it is matched on its own. -/
theorem plan_anchored (h : t.hard referred = true) :
    t.anchored.plan referred .alone true = (t.plan referred .alone true).map fun plan =>
      .seq (.part (.look .startText) []) (.seq plan (.part (.look .endText) [])) := by
  have hhard : t.enclosed.hard referred = true := (hard_enclosed referred t).trans h
  have hne : t.enclosed ≠ .empty := by
    intro hempty
    rw [hempty] at hhard
    cases hhard
  have hfront : t.enclosed.isFront referred = false := by
    rw [isFront, hhard]
    simp
  have hend : (concat t.enclosed (assertion .endText)).isEnd referred true = false := by
    simp [isEnd, hard, hhard]
  have hlast : (assertion .endText).plan referred .middle true =
      .ok (.part (.look .endText) []) := rfl
  rw [anchored_of_ne t hne, plan_concat_of_front rfl, plan_concat_front hfront hend,
    planPart_startText, plan_enclosed, hlast]
  cases t.plan referred .alone true <;> rfl

end Tree

theorem regex_of_partOf {anyCase : Bool} {a : Ast} {part : Part} (h : partOf anyCase a = .ok part) :
    ∃ r flags, a.regex (.initial anyCase) = .ok (r, flags) := by
  unfold partOf at h
  split at h
  · cases h
  · split at h
    · cases h
    · rename_i r flags hr
      exact ⟨r, flags, hr⟩

theorem partOf_of_regex {anyCase : Bool} {a : Ast} {r : Regex} {flags : Regular.Flags}
    (hdepth : a.depth .none ≤ Regular.nestingLimit)
    (hr : a.regex (.initial anyCase) = .ok (r, flags)) :
    (∃ part, partOf anyCase a = .ok part) ∨ partOf anyCase a = .error .partTooLarge := by
  unfold partOf
  rw [if_neg (Nat.not_lt.mpr hdepth), hr]
  dsimp only
  cases r.compile with
  | ok part => exact Or.inl ⟨part, rfl⟩
  | error fault => exact Or.inr rfl

/-- **Between the assertions a pattern compiles** if it does on its own, unless it exceeds a
limit. -/
theorem compile_enclosed {anyCase : Bool} {pattern form : List Char} {source : Source}
    {program : Program} (h : Program.compile anyCase pattern = .ok program)
    (hsource : Source.read pattern = .ok source)
    (hform : Source.read form = .ok ⟨source.tree.anchored, source.referred, source.names⟩)
    (hlimits : WithinLimits anyCase form) :
    ∃ program, Program.compile anyCase form = .ok program := by
  rw [compile_of_read hsource] at h
  have hcompile := @compile_of_read anyCase _ _ hform
  rw [Tree.hard_anchored] at hcompile
  split at h
  · rename_i hhard
    obtain ⟨plan, hplan, -⟩ := map_eq_ok.mp h
    rw [hcompile, if_pos hhard, Tree.plan_anchored _ _ hhard, hplan]
    exact ⟨_, rfl⟩
  · rename_i heasy
    rw [if_neg heasy] at hcompile
    obtain ⟨a, ha, h⟩ := bind_eq_ok.mp h
    obtain ⟨part, hpart, -⟩ := map_eq_ok.mp h
    obtain ⟨r, flags, hr⟩ := regex_of_partOf hpart
    obtain ⟨ast, ⟨r', flags'⟩, hast, hr'⟩ := Tree.exists_cook_anchored ha hr
    rw [hast] at hcompile
    have hdepth := hlimits.depth _ ast hform
      ((Tree.hard_anchored _ _).trans (Bool.eq_false_iff.mpr heasy)) hast
    rcases partOf_of_regex hdepth hr' with ⟨part', hpart'⟩ | hlarge
    · exact ⟨⟨.easy part', source.names⟩, by rw [hcompile]; simp [Except.bind, Except.map, hpart']⟩
    · refine absurd rfl (hlimits.faults .partTooLarge ?_).2
      rw [hcompile]
      simp [Except.bind, Except.map, hlarge]

end Verbal.Extended
