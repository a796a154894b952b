import Verbal.Proofs.Extended.Additions
import Verbal.Proofs.Extended.Names
import Verbal.Proofs.Rejections

/-!
# Another alternative only adds

Another alternative puts all that was written into a group, in front of a bar. Whatever passed a
test still does, and so does the alternative, as long as what was written means the same behind a
group that is opened in front of it. References by name do, by `movesWithGroups_of_namesOnly`.

* **`Expression.test_alt`**: what passes a test still does once another alternative is added, and so
  does the alternative.
-/

namespace Verbal

open Verbal.Regular (IsAlphanumText)

/-- Whether neither a pattern nor the forms that a test builds of it exceed a limit of nesting or
size. The second form matters only if the first one is refused. -/
structure Backend.TestWithinLimits (backend : Backend) (anyCase : Bool) (pattern : String) :
    Prop where
  search : backend.WithinLimits anyCase pattern
  first : backend.WithinLimits anyCase (anchoredPattern pattern)
  second : (∃ reason, backend.build anyCase (anchoredPattern pattern) = .error reason) →
    backend.WithinLimits anyCase (anchoredAfterComment pattern)

/-- What is accepted exceeds no limit, and neither does the first form of it. -/
theorem Backend.testWithinLimits_of_isSome {backend : Backend} {anyCase : Bool} {pattern : String}
    (h : (backend.build anyCase pattern).toOption.isSome = true)
    (hfirst : (backend.build anyCase (anchoredPattern pattern)).toOption.isSome = true) :
    backend.TestWithinLimits anyCase pattern := by
  obtain ⟨program, h⟩ := exists_ok_of_isSome h
  obtain ⟨program', hfirst⟩ := exists_ok_of_isSome hfirst
  refine ⟨withinLimits_of_build h, withinLimits_of_build hfirst, ?_⟩
  rintro ⟨reason, hrefused⟩
  cases hfirst.symm.trans hrefused

/-- Whether a test is passed, or the extended pattern has too many ways to try. -/
def Backend.Passes (backend : Backend) (result : Except Failure Bool) : Prop :=
  result = .ok true ∨ backend = .extended ∧ result = .error Program.gaveUp

/-! ## Patterns -/

section Patterns

variable {anyCase start stop : Bool} {body pattern alternative value : String} {c : Compiled}

/-- A test of a regular pattern is passed by what its expression covers. -/
theorem fullMatch_regular {source : Regular.Source} {r : Regular.Regex} {flags : Regular.Flags}
    {program : Program} (hc : Backend.regular.compile pattern anyCase = .ok c)
    (hsource : Regular.Source.read pattern.toList = .ok source)
    (hr : source.ast.regex (.initial anyCase) = .ok (r, flags))
    (hbuild : Backend.regular.buildAnchored anyCase pattern = .ok program) (text : String) :
    c.fullMatch text = .ok true ↔ r.Covers text.toList := by
  obtain ⟨rfl, -⟩ := form_of_buildAnchored hsource hr hbuild
  rw [Compiled.fullMatch_of_compile hc, hbuild]
  refine Iff.trans ?_ Regular.spans_wrapped
  rw [← Regular.isMatch_iff]
  exact ⟨Except.ok.inj, congrArg Except.ok⟩

/-- **Another alternative only adds to what a regular pattern passes.** -/
theorem exists_fullMatch_regular {b : Regular.Program}
    (hbody : Regular.Program.compile anyCase body.toList = .ok b)
    (hc : Backend.regular.compile pattern anyCase = .ok c) (hhash : '#' ∉ body.toList)
    (hvalue : IsAlphanumText value)
    (hpattern : pattern.toList = (openingText start false).toList ++
      (body.toList ++ (closingText stop false).toList))
    (halternative : alternative.toList = alternativeText start stop body.toList value.toList)
    (hlimits : Backend.regular.TestWithinLimits anyCase alternative) :
    ∃ c', Backend.regular.compile alternative anyCase = .ok c' ∧
      c'.fullMatch value = .ok true ∧
      ∀ text, c.fullMatch text = .ok true → c'.fullMatch text = .ok true := by
  obtain ⟨_, _, hregex, -, -⟩ := Regular.compile_eq_ok.mp hbody
  obtain ⟨_, _, hread, -, -⟩ := Regular.regexOf_eq_ok.mp hregex
  obtain ⟨d, hd, hlevels, rfl⟩ := Regular.written_eq_ok.mp (Regular.read_eq_ok.mp hread).1
  -- what the pattern covers, its body covers
  obtain ⟨source, hwritten, hnarrows⟩ := Regular.written_anchors hd hlevels hhash start stop
  rw [← hpattern] at hwritten
  obtain ⟨p, hp, -⟩ := compile_regular_eq_ok.mp hc
  obtain ⟨r, _, hregex, -, -⟩ := Regular.compile_eq_ok.mp hp
  obtain ⟨_, flags, hread, hr, -⟩ := Regular.regexOf_eq_ok.mp hregex
  cases hwritten.symm.trans (Regular.read_eq_ok.mp hread).1
  obtain ⟨r', hr', -, hspans⟩ := hnarrows _ _ _ hr
  -- the alternative covers that
  obtain ⟨source', r'', hwritten', hr'', hcoversValue, hcovers⟩ :=
    Regular.exists_alternative hd hlevels hhash hr' hvalue start stop
  rw [← halternative] at hwritten'
  obtain ⟨hregex', hp'⟩ := Regular.compile_of_written hwritten' hr'' hlimits.search
  obtain ⟨_, _, hread', hr₂, -⟩ := Regular.regexOf_eq_ok.mp hregex'
  cases hwritten'.symm.trans (Regular.read_eq_ok.mp hread').1
  have hc' := compile_regular_eq_ok.mpr ⟨_, hp', rfl⟩
  obtain ⟨program, hprogram⟩ :=
    exists_buildAnchored (exists_form_regular hp' hlimits.first hlimits.second)
  have hiff := fullMatch_regular hc' hread' hr₂ hprogram
  refine ⟨_, hc', (hiff value).mpr hcoversValue, fun text hs => (hiff text).mpr (hcovers _ ?_)⟩
  have hbuilt := (Compiled.fullMatch_of_compile hc text).symm.trans hs
  obtain ⟨program, hprogram, -⟩ := bind_eq_ok.mp hbuilt
  exact hspans _ _ _ ((fullMatch_regular hc hread hr hprogram text).mp hs)

/-- A test of an extended pattern looks for the form of it that was built. -/
theorem exists_form_of_fullMatch {source : Extended.Source}
    (hc : Backend.extended.compile pattern anyCase = .ok c)
    (hsource : Extended.Source.read pattern.toList = .ok source)
    (hunmixed : ¬Extended.NumbersBesideNames pattern.toList)
    (hlimits : Backend.extended.TestWithinLimits anyCase pattern) :
    ∃ form p', Extended.Source.read form =
        .ok ⟨source.tree.anchored, source.referred, source.names⟩ ∧
      Extended.Program.compile anyCase form = .ok p' ∧
      ∀ text, c.fullMatch text = Program.answer (p'.isMatch text.toList) := by
  obtain ⟨_, hbuild, -⟩ := compile_eq_ok.mp hc
  obtain ⟨p, hp, -⟩ := build_extended_eq_ok.mp hbuild
  obtain ⟨form, p', hform, hp', hanchored⟩ :=
    form_of_extended hp hsource hunmixed hlimits.first hlimits.second
  refine ⟨form, p', hform, hp', fun text => ?_⟩
  rw [Compiled.fullMatch_of_compile hc, hanchored]
  rfl

/-- What passes a test of an extended pattern is covered, and what is covered does not fail it. -/
theorem fullMatch_extended {source : Extended.Source}
    (hc : Backend.extended.compile pattern anyCase = .ok c)
    (hsource : Extended.Source.read pattern.toList = .ok source) (hlettered : source.tree.Lettered)
    (hunmixed : ¬Extended.NumbersBesideNames pattern.toList)
    (hlimits : Backend.extended.TestWithinLimits anyCase pattern) (text : String) :
    (c.fullMatch text = .ok true → source.tree.Covers anyCase source.referred text.toList) ∧
      (source.tree.Covers anyCase source.referred text.toList →
        Backend.extended.Passes (c.fullMatch text)) := by
  obtain ⟨form, p', hform, hp', hmatch⟩ :=
    exists_form_of_fullMatch hc hsource hunmixed hlimits
  rw [hmatch]
  cases hresult : p'.isMatch text.toList with
  | none =>
    refine ⟨fun h => ?_, fun _ => Or.inr ⟨rfl, rfl⟩⟩
    cases h
  | some b =>
    cases b with
    | true =>
      have hcovers := Extended.covers_of_isMatch hform hlettered hp' hresult
      exact ⟨fun _ => hcovers, fun _ => Or.inl rfl⟩
    | false =>
      refine ⟨fun h => ?_, fun hs => ?_⟩
      · cases h
      · exact absurd hresult (Extended.isMatch_ne_false hform hlettered hp' hs)

/-- What can be tested has no number beside a name. -/
theorem not_numbersBesideNames_of_fullMatch {text : String} {result : Bool}
    (hc : Backend.extended.compile pattern anyCase = .ok c) (h : c.fullMatch text = .ok result) :
    ¬Extended.NumbersBesideNames pattern.toList := by
  intro hnumbers
  obtain ⟨_, hbuild, -⟩ := compile_eq_ok.mp hc
  obtain ⟨p, hp, -⟩ := build_extended_eq_ok.mp hbuild
  obtain ⟨failure, hfailure⟩ := buildAnchored_of_numbersBesideNames hp hnumbers
  rw [Compiled.fullMatch_of_compile hc, hfailure] at h
  cases h

/-- **So it does to what an extended pattern passes**, if its body can be moved. -/
theorem exists_fullMatch_extended {b : Extended.Program}
    (hbody : Extended.Program.compile anyCase body.toList = .ok b)
    (hc : Backend.extended.compile pattern anyCase = .ok c) (hhash : '#' ∉ body.toList)
    (hvalue : IsAlphanumText value) (hmovable : Extended.Movable body.toList)
    (hpattern : pattern.toList = (openingText start false).toList ++
      (body.toList ++ (closingText stop false).toList))
    (halternative : alternative.toList = alternativeText start stop body.toList value.toList)
    (hlimits : Backend.extended.TestWithinLimits anyCase pattern)
    (hlimits' : Backend.extended.TestWithinLimits anyCase alternative)
    (hunmixed : ¬Extended.NumbersBesideNames body.toList ∨ ∃ text, c.fullMatch text = .ok true) :
    ∃ c', Backend.extended.compile alternative anyCase = .ok c' ∧
      Backend.extended.Passes (c'.fullMatch value) ∧
      ∀ text, c.fullMatch text = .ok true → Backend.extended.Passes (c'.fullMatch text) := by
  obtain ⟨d, hd⟩ := Extended.exists_reads hbody
  -- what the pattern covers, its body covers
  obtain ⟨_, hbuild, -⟩ := compile_eq_ok.mp hc
  obtain ⟨p, hp, -⟩ := build_extended_eq_ok.mp hbuild
  obtain ⟨source, hsource⟩ := Extended.exists_source_of_compile hp
  obtain ⟨hlettered, hmixed, hcovers⟩ :=
    Extended.covers_of_anchors hbody hd hmovable hhash hpattern hsource
  have hunmixed : ¬Extended.NumbersBesideNames body.toList := by
    refine hunmixed.elim id ?_
    rintro ⟨text, hs⟩
    exact mt hmixed.mpr (not_numbersBesideNames_of_fullMatch hc hs)
  -- the alternative covers that
  obtain ⟨hunmixed', ⟨p', hp'⟩, source', hsource', hlettered', hcoversValue, hcovers'⟩ :=
    Extended.exists_both hbody hd hmovable hunmixed hhash hvalue halternative hlimits'.search
  have hc' : Backend.extended.compile alternative anyCase = .ok _ :=
    compile_eq_ok.mpr ⟨_, build_extended_eq_ok.mpr ⟨p', hp', rfl⟩, rfl⟩
  have hpasses := fullMatch_extended hc' hsource' hlettered' hunmixed' hlimits'
  refine ⟨_, hc', (hpasses value).2 hcoversValue, fun text hs => (hpasses text).2 (hcovers' _ ?_)⟩
  exact hcovers _
    ((fullMatch_extended hc hsource hlettered (mt hmixed.mp hunmixed) hlimits text).1 hs)

end Patterns

/-! ## Expressions -/

namespace Expression

variable {verbs : List Verb} {backend : Backend} {value : String} {c : Compiled}

/-- Without any alternative the anchors stand around the body. -/
theorem toList_pattern_of_no_alt (h : ∀ v ∈ verbs, v.isAlt = false) :
    (ofVerbs verbs).pattern.toList =
      (openingText ((lastWord Verb.startAnchor? verbs).getD false) false).toList ++
        ((ofVerbs verbs).body.toList ++
          (closingText ((lastWord Verb.endAnchor? verbs).getD false) false).toList) := by
  rw [pattern, opening_ofVerbs, closing_ofVerbs, altSince_of_no_alt h, altSince_of_no_alt h]
  simp only [String.toList_append, List.append_assoc]

/-- The first alternative puts the body into a group, between the anchors. -/
theorem toList_pattern_alt (h : ∀ v ∈ verbs, v.isAlt = false) (value : String) :
    ((ofVerbs verbs).apply (.alt value)).pattern.toList =
      alternativeText ((lastWord Verb.startAnchor? verbs).getD false)
        ((lastWord Verb.endAnchor? verbs).getD false) (ofVerbs verbs).body.toList value.toList := by
  have hopening := opening_ofVerbs verbs
  have hclosing := closing_ofVerbs verbs
  rw [altSince_of_no_alt h] at hopening hclosing
  rw [pattern, opening_apply hopening, closing_apply hclosing, body_apply]
  simp [Verb.startAnchor?, Verb.endAnchor?, Verb.isAlt, Verb.fragment, alternativeText]

theorem modifiers_alt (e : Expression) (value : String) :
    (e.apply (.alt value)).modifiers = e.modifiers := modifiers_apply e (.alt value)

/-- Letters and digits are one line. -/
theorem tested_of_isAlphanum (e : Expression) (h : IsAlphanumText value) :
    e.tested value = value := by
  unfold tested firstLine
  split
  · rfl
  · have hall : value.toList.takeWhile (· != '\n') = value.toList :=
      List.takeWhile_eq_self_iff.mpr fun c hc => by
        have hne : c ≠ '\n' := fun heq => absurd (h c hc) (by rw [heq]; decide)
        simp [hne]
    rw [hall, String.ofList_toList]

/-- **Another alternative only adds.** If a pattern without alternatives is accepted, has no number
sign, and its body is accepted on its own, then whatever passes its test still does once the first
alternative is added, limits apart. So does the alternative, unless an extended body has a number
beside a name, so that nothing can be tested. An extended body has to mean the same behind a group
that is opened in front of it, and the tests may give up. -/
theorem test_alt {program : Program} (hfirst : ∀ v ∈ verbs, v.isAlt = false)
    (hglobal : (ofVerbs verbs).modifiers.contains .global = false)
    (hbody : backend.build ((ofVerbs verbs).modifiers.contains .anyCase) (ofVerbs verbs).body =
      .ok program)
    (hc : (ofVerbs verbs).compile backend = .ok c) (hhash : '#' ∉ (ofVerbs verbs).pattern.toList)
    (hvalue : IsAlphanumText value)
    (hmovable : backend = .extended → Extended.Movable (ofVerbs verbs).body.toList)
    (hlimits : backend.TestWithinLimits ((ofVerbs verbs).modifiers.contains .anyCase)
      (ofVerbs verbs).pattern)
    (hlimits' : backend.TestWithinLimits ((ofVerbs verbs).modifiers.contains .anyCase)
      ((ofVerbs verbs).apply (.alt value)).pattern) :
    (∀ input, (ofVerbs verbs).test backend input = .ok true →
      backend.Passes (((ofVerbs verbs).apply (.alt value)).test backend input) ∧
      backend.Passes (((ofVerbs verbs).apply (.alt value)).test backend value)) ∧
    ((backend = .extended → ¬Extended.NumbersBesideNames (ofVerbs verbs).body.toList) →
      backend.Passes (((ofVerbs verbs).apply (.alt value)).test backend value)) := by
  have hpattern := toList_pattern_of_no_alt hfirst
  have halternative := toList_pattern_alt hfirst value
  have hbodyHash : '#' ∉ (ofVerbs verbs).body.toList := fun hmem =>
    hhash (hpattern ▸ List.mem_append_right _ (List.mem_append_left _ hmem))
  have htested : (ofVerbs verbs).tested value = value := tested_of_isAlphanum _ hvalue
  have hadds (h : backend = .extended →
      ¬Extended.NumbersBesideNames (ofVerbs verbs).body.toList ∨
        ∃ text, c.fullMatch text = .ok true) :
      ∃ c', ((ofVerbs verbs).apply (.alt value)).compile backend = .ok c' ∧
        backend.Passes (c'.fullMatch value) ∧
        ∀ text, c.fullMatch text = .ok true → backend.Passes (c'.fullMatch text) := by
    unfold compile at hc ⊢
    rw [modifiers_alt]
    cases backend with
    | regular =>
      obtain ⟨b, hb, -⟩ := build_regular_eq_ok.mp hbody
      obtain ⟨c', hc', hvalue, htext⟩ :=
        exists_fullMatch_regular hb hc hbodyHash hvalue hpattern halternative hlimits'
      exact ⟨c', hc', Or.inl hvalue, fun text hs => Or.inl (htext text hs)⟩
    | extended =>
      obtain ⟨b, hb, -⟩ := build_extended_eq_ok.mp hbody
      exact exists_fullMatch_extended hb hc hbodyHash hvalue (hmovable rfl) hpattern halternative
        hlimits hlimits' (h rfl)
  have htest {c' : Compiled}
      (hc' : ((ofVerbs verbs).apply (.alt value)).compile backend = .ok c') (input : String) :
      ((ofVerbs verbs).apply (.alt value)).test backend input =
        c'.fullMatch ((ofVerbs verbs).tested input) := by
    rw [test_of_compile hc', modifiers_alt, hglobal, if_neg Bool.false_ne_true, tested, tested,
      modifiers_alt]
  refine ⟨fun input hs => ?_, fun hunmixed => ?_⟩
  · rw [test_of_compile hc, hglobal, if_neg Bool.false_ne_true] at hs
    obtain ⟨c', hc', hpassesValue, hpasses⟩ := hadds fun _ => Or.inr ⟨_, hs⟩
    rw [htest hc', htest hc', htested]
    exact ⟨hpasses _ hs, hpassesValue⟩
  · obtain ⟨c', hc', hpassesValue, -⟩ := hadds fun h => Or.inl (hunmixed h)
    rw [htest hc', htested]
    exact hpassesValue

/-- A reference by name finds its group behind the one that the alternative opens. -/
theorem test_alt_of_reference :
    (ofVerbs [.startOfLine true, .add "(?<n>a|b)\\k<n>"]).test .extended "bb" = .ok true ∧
      Backend.extended.Passes (((ofVerbs [.startOfLine true, .add "(?<n>a|b)\\k<n>"]).apply
        (.alt "c")).test .extended "bb") ∧
      Backend.extended.Passes (((ofVerbs [.startOfLine true, .add "(?<n>a|b)\\k<n>"]).apply
        (.alt "c")).test .extended "c") := by
  have hsource : Extended.Source.read "(?<n>a|b)\\k<n>".toList =
      .ok ⟨.concat (.group 1 (.alternate (.literal 'a' false) (.literal 'b' false))) (.backref 1),
        [1], [(['n'], 1)]⟩ := by decide +kernel
  have hmovable : Extended.Movable "(?<n>a|b)\\k<n>".toList := by
    refine ⟨Extended.movesWithGroups_of_namesOnly (by decide), fun source h => ?_⟩
    cases hsource.symm.trans h
    exact ⟨trivial, ⟨trivial, trivial, trivial, trivial⟩, trivial⟩
  obtain ⟨program, hbody⟩ := exists_ok_of_isSome
    (x := Backend.extended.build false "(?<n>a|b)\\k<n>") (by decide +kernel)
  obtain ⟨c, hc⟩ := exists_ok_of_isSome
    (x := (ofVerbs [.startOfLine true, .add "(?<n>a|b)\\k<n>"]).compile .extended)
    (by decide +kernel)
  have htest : (ofVerbs [.startOfLine true, .add "(?<n>a|b)\\k<n>"]).test .extended "bb" =
      .ok true := by decide +kernel
  obtain ⟨hinput, -⟩ := @test_alt [.startOfLine true, .add "(?<n>a|b)\\k<n>"] .extended "c" c
    program (by decide) rfl hbody hc (by decide +kernel) (by decide) (fun _ => hmovable)
    (Backend.testWithinLimits_of_isSome (by decide +kernel) (by decide +kernel))
    (Backend.testWithinLimits_of_isSome (by decide +kernel) (by decide +kernel))
  exact ⟨htest, hinput "bb" htest⟩

/-- Another alternative takes something away where a reference by number comes to mean the group that
it opens, and where a class is read as more than one. -/
theorem test_alt_lost :
    ((Backend.extended.build false "(a)\\1").toOption.isSome = true ∧
      (ofVerbs [.add "(a)\\1"]).test .extended "aa" = .ok true ∧
      ((ofVerbs [.add "(a)\\1"]).apply (.alt "b")).test .extended "aa" = .ok false) ∧
    ((Backend.extended.build false "(?=\\+)[+-[][+-\\]]*?]").toOption.isSome = true ∧
      (ofVerbs [.add "(?=\\+)[+-[][+-\\]]*?]", .endOfLine true]).test .extended "+]]" =
        .ok true ∧
      ((ofVerbs [.add "(?=\\+)[+-[][+-\\]]*?]", .endOfLine true]).apply (.alt "b")).test .extended
        "+]]" = .ok false) := by
  refine ⟨⟨?_, ?_, ?_⟩, ?_, ?_, ?_⟩ <;> decide +kernel

end Expression

end Verbal
