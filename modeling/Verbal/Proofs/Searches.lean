import Verbal.Proofs.Extended.Drafts
import Verbal.Proofs.Extended.Forward
import Verbal.Proofs.Failures

/-!
# Searching, listing and replacing agree

A compiled pattern is searched for, its matches are listed, and they are replaced, each by a walk
over the text of its own. The walks find the same matches.

* **`Compiled.searches_agree`**: a pattern that neither forgets what it read nor asks where the last
  match ended is found iff its list of matches is not empty; the matches lie between characters, in
  order and apart; and replacing puts what the replacement makes of each in its place, and copies
  all else.
-/

namespace Verbal

/-! ## Extended patterns -/

namespace Extended

/-- Whether listing the matches of a program ends by itself, and not for want of fuel. -/
def Program.Ends (program : Program) (text : List Char) : Prop :=
  match program.method with
  | .easy _ => True
  | .hard plan => ∀ strict fuel, text.length + 2 ≤ fuel →
    (tabulated plan text).listMatches text.toArray strict fuel 0 none = program.findAll strict text

theorem steady_of_read {pattern : List Char} {source : Source} (h : Source.read pattern = .ok source)
    (hstraight : source.tree.Straight) : source.tree.Steady := by
  obtain ⟨d, hread, -, -, -, rfl⟩ := read_eq_ok.mp h
  exact Tree.steady_of_numbered hstraight (readAll_tidy (.start pattern) hread).body

theorem steady_tabulated {plan : Plan Part} (h : plan.Steady Part.IsRegex) (text : List Char) :
    (Program.tabulated plan text).Steady (Table.Onward text.length) := by
  refine h.map ?_
  rintro _ ⟨r, rfl⟩ i trail htrail
  have honward := Regular.onward_found r text i trail (by simpa using htrail)
  rwa [Nat.zero_add] at honward

/-- What is searched for is found iff something is listed. -/
theorem Program.isMatch_of_findAll {program : Program} {strict : Bool} {text : List Char}
    {ms : List Match} (h : program.findAll strict text = some ms) :
    program.isMatch text = some (!ms.isEmpty) := by
  obtain ⟨method, names⟩ := program
  cases method with
  | easy part =>
    cases h
    rw [Regular.listMatches_isEmpty (Nat.le_refl 0), Bool.not_not]
    rfl
  | hard plan =>
    simp only [findAll, Plan.listMatches, Option.any_none, Bool.and_false, Bool.not_false,
      Nat.not_lt_zero, if_false] at h
    simp only [isMatch]
    cases hsearch : (tabulated plan text).search ⟨text.toArray, 0, true⟩ with
    | exhausted =>
      rw [hsearch] at h
      cases h
    | absent =>
      rw [hsearch] at h
      cases h
      rfl
    | found m =>
      simp only [hsearch, reduceCtorEq, if_false] at h
      split at h <;> (obtain ⟨ms', -, rfl⟩ := Option.map_eq_some_iff.mp h; rfl)

/-- If listing gives up, something is found first, or searching gives up as well. -/
theorem Program.isMatch_ne_false {program : Program} {strict : Bool} {text : List Char}
    (h : program.findAll strict text = none) : program.isMatch text ≠ some false := by
  obtain ⟨method, names⟩ := program
  cases method with
  | easy part => cases h
  | hard plan =>
    simp only [findAll, Plan.listMatches, Option.any_none, Bool.and_false, Bool.not_false,
      Nat.not_lt_zero, if_false] at h
    simp only [isMatch]
    cases hsearch : (tabulated plan text).search ⟨text.toArray, 0, true⟩ with
    | exhausted =>
      intro hfalse
      cases hfalse
    | absent =>
      rw [hsearch] at h
      cases h
    | found m =>
      intro hfalse
      cases hfalse

/-- **The matches of a straight pattern follow one another**, unless a search for one gives up, and
they are the same whether or not an empty one that was passed over counts. -/
theorem exists_matches {anyCase : Bool} {pattern : List Char} {program : Program}
    (h : Program.compile anyCase pattern = .ok program)
    (hstraight : ∀ source, Source.read pattern = .ok source → source.tree.Straight)
    (text : List Char) :
    program.Ends text ∧ ((∀ strict, program.findAll strict text = none) ∨
      ∃ ms, Follow text.length 0 none ms ∧ ∀ strict, program.findAll strict text = some ms) := by
  obtain ⟨source, hsource⟩ := exists_source_of_compile h
  have hsteady := steady_of_read hsource (hstraight source hsource)
  rw [compile_of_read hsource] at h
  split at h
  · obtain ⟨plan, hplan, rfl⟩ := map_eq_ok.mp h
    have htable := steady_tabulated (Tree.yields_plan hsteady .alone true trivial plan hplan) text
    have hsize : text.toArray.size = text.length := List.size_toArray
    rw [← hsize] at htable ⊢
    refine ⟨fun strict fuel hfuel => listMatches_fuel htable (by omega) (by omega), ?_⟩
    have hstrict (strict : Bool) :
        (Program.tabulated plan text).listMatches text.toArray strict (text.length + 2) 0 none =
          (Program.tabulated plan text).listMatches text.toArray true (text.length + 2) 0 none :=
      listMatches_strict htable strict true _
    cases hlist : (Program.tabulated plan text).listMatches text.toArray true
        (text.length + 2) 0 none with
    | none => exact Or.inl fun strict => (hstrict strict).trans hlist
    | some ms =>
      exact Or.inr ⟨ms, follow_listMatches htable hlist, fun strict => (hstrict strict).trans hlist⟩
  · obtain ⟨ast, -, h⟩ := bind_eq_ok.mp h
    obtain ⟨part, hpart, rfl⟩ := map_eq_ok.mp h
    obtain ⟨-, r, flags, -, -, rfl⟩ := partOf_eq_ok.mp hpart
    have hfollow := @Regular.follow_listMatches _ 0 0 none _ (Regular.onward_found r text)
    exact ⟨trivial, Or.inr ⟨_, hfollow, fun _ => rfl⟩⟩

end Extended

/-! ## Programs -/

namespace Program

/-- The names of the groups of a program. -/
def names : Program → List (List Char × Nat)
  | regular program => program.names
  | extended program => program.names

/-- Whether listing matches ends by itself. A regular program goes over the text once. -/
def Ends (program : Program) (text : List Char) : Prop :=
  match program with
  | regular _ => True
  | extended program => program.Ends text

variable {program : Program} {text : String}

/-- The whole match stands for itself, unless an extended pattern gives a group its number as a
name. -/
theorem expansion_whole (hnames : program.backend = .extended → ∀ i, (['0'], i) ∉ program.names)
    (text : List Char) (m : Match) :
    program.expansion text "$0".toList m = slice text m.start m.stop := by
  cases program with
  | regular program =>
    have hpieces : ReferenceRule.regular.pieces 0 "$0".toList = [.reference ['0']] := by
      decide +kernel
    simp only [expansion, hpieces, expandPieces, List.append_nil]
    rfl
  | extended program =>
    have hpieces : ReferenceRule.extended.pieces 0 "$0".toList = [.reference ['0']] := by
      decide +kernel
    have hnone : named? program.names ['0'] = none := by
      rw [named?, Option.map_eq_none_iff, List.find?_eq_none]
      rintro ⟨name, i⟩ hmem heq
      exact hnames rfl i (beq_iff_eq.mp heq ▸ hmem)
    simp only [expansion, hpieces, expandPieces, List.append_nil, extendedReference, hnone]
    rfl

end Program

/-- Whether spans lie inside a text, between characters, each behind the one before it, and an empty
one not where the one before it ends. -/
structure Spaced (text : List Char) (spans : List (Nat × Nat)) : Prop where
  inside : ∀ s ∈ spans, ∃ i j, i ≤ j ∧ j ≤ text.length ∧
    s = (byteOffset text i, byteOffset text j)
  apart : spans.Pairwise fun s t => s.2 ≤ t.1 ∧ s.1 < t.1 ∧ (t.1 = t.2 → s.2 < t.1)

theorem Follow.spaced {text : List Char} {resume : Nat} {last : Option Nat} {ms : List Match}
    (h : Follow text.length resume last ms) : Spaced text (ms.map (·.span text)) :=
  ⟨h.span_bounds, h.pairwise_span⟩

namespace Program

variable {program : Program} {text : String}

/-- Whether a program goes through those matches, whichever way it walks over a text. -/
structure Visits (program : Program) (text : String) (ms : List Match) : Prop where
  follow : Follow text.toList.length 0 none ms
  listed : program.findAll text = .ok (ms.map (·.span text.toList))
  found : program.isMatch text = .ok (!ms.isEmpty)
  replaced (replacement : List Char) : program.replaced text.toList replacement = .ok ms

/-- A regular program visits the matches of its only walk. -/
theorem visits_regular {p : Regular.Program} {anyCase : Bool} {pattern : List Char}
    (h : Regular.Program.compile anyCase pattern = .ok p) (text : String) :
    (regular p).Visits text (p.findAll text.toList) := by
  obtain ⟨r, names, -, -, rfl⟩ := Regular.compile_eq_ok.mp h
  have hfollow := @Regular.follow_listMatches _ 0 0 none _ (Regular.onward_found r text.toList)
  refine ⟨hfollow, rfl, ?_, fun _ => rfl⟩
  rw [Regular.Program.findAll, Regular.listMatches_isEmpty (Nat.le_refl 0), Bool.not_not]
  rfl

/-- An extended program visits the matches that it lists. -/
theorem visits_extended {p : Extended.Program} {ms : List Match}
    (hfollow : Follow text.toList.length 0 none ms)
    (hlist : ∀ strict, p.findAll strict text.toList = some ms) : (extended p).Visits text ms where
  follow := hfollow
  listed := by simp only [findAll, hlist, Option.map_some, answer]
  found := by simp only [isMatch, Extended.Program.isMatch_of_findAll (hlist true), answer]
  replaced replacement := by simp only [Program.replaced, hlist, answer]

variable {ms : List Match}

theorem Visits.replaceAll (h : program.Visits text ms) (replacement : String) :
    program.replaceAll text replacement = .ok (String.ofList
      (splice text.toList (program.expansion text.toList replacement.toList) 0 ms)) := by
  simp only [Program.replaceAll, h.replaced, Except.map]

/-- Each visited match is replaced, and all else is copied. -/
theorem Visits.substituted (h : program.Visits text ms) (replacement : String) :
    ∃ result, program.replaceAll text replacement = .ok (String.ofList result) ∧
      Substituted (program.expansion text.toList replacement.toList) 0 text.toList ms result :=
  ⟨_, h.replaceAll replacement, substituted_splice h.follow (Nat.le_refl 0)⟩

/-- Where nothing is visited, nothing is replaced. -/
theorem Visits.replaceAll_nil (h : program.Visits text []) (replacement : String) :
    program.replaceAll text replacement = .ok text := by
  rw [h.replaceAll, splice, List.drop_zero, String.ofList_toList]

/-- Replacing every match by itself changes nothing. -/
theorem Visits.replaceAll_whole (h : program.Visits text ms)
    (hnames : program.backend = .extended → ∀ i, (['0'], i) ∉ program.names) :
    program.replaceAll text "$0" = .ok text := by
  rw [h.replaceAll, splice_self h.follow (fun m _ => expansion_whole hnames text.toList m)
    (Nat.le_refl 0), List.drop_zero, String.ofList_toList]

/-- A straight program visits matches, unless a search for one gives up. -/
theorem exists_visits {backend : Backend} {anyCase : Bool} {pattern : String}
    (h : backend.build anyCase pattern = .ok program)
    (hstraight : backend = .extended → ∀ source,
      Extended.Source.read pattern.toList = .ok source → source.tree.Straight) (text : String) :
    program.Ends text.toList ∧
      ((program.findAll text = .error gaveUp ∧ program.isMatch text ≠ .ok false ∧
        ∀ replacement, program.replaceAll text replacement = .error gaveUp) ∨
      ∃ ms, program.Visits text ms) := by
  cases backend with
  | regular =>
    obtain ⟨p, hp, rfl⟩ := build_regular_eq_ok.mp h
    exact ⟨trivial, Or.inr ⟨_, visits_regular hp text⟩⟩
  | extended =>
    obtain ⟨p, hp, rfl⟩ := build_extended_eq_ok.mp h
    obtain ⟨hends, hnone | ⟨ms, hfollow, hlist⟩⟩ :=
      Extended.exists_matches hp (hstraight rfl) text.toList
    · refine ⟨hends, Or.inl ⟨?_, fun hfalse => ?_, fun replacement => ?_⟩⟩
      · simp only [findAll, hnone, Option.map_none, answer]
      · exact Extended.Program.isMatch_ne_false (hnone true) (answer_eq_ok.mp hfalse)
      · simp only [Program.replaceAll, Program.replaced, hnone, answer, Except.map]
    · exact ⟨hends, Or.inr ⟨ms, visits_extended hfollow hlist⟩⟩

end Program

/-- **Searching, listing and replacing agree.** Listing the matches of a pattern ends. Unless it
gives up, the matches are between characters, in order and apart; the pattern is found iff there is
one; and every replacement puts what is made of each match in its place, and copies all else. In
particular, where there is no match nothing changes, and neither does it if each match is replaced
by itself, unless an extended pattern gives a group the name `0`. -/
theorem Compiled.searches_agree {backend : Backend} {pattern : String} {anyCase : Bool}
    {c : Compiled} (hc : backend.compile pattern anyCase = .ok c)
    (hstraight : backend = .extended → ∀ source,
      Extended.Source.read pattern.toList = .ok source → source.tree.Straight) (text : String) :
    c.search.Ends text.toList ∧
    ((c.search.findAll text = .error Program.gaveUp ∧
      c.search.isMatch text ≠ .ok false ∧
      ∀ replacement, c.search.replaceAll text replacement = .error Program.gaveUp) ∨
    ∃ ms : List Match,
      c.search.findAll text = .ok (ms.map (·.span text.toList)) ∧
      Spaced text.toList (ms.map (·.span text.toList)) ∧
      c.search.isMatch text = .ok (!ms.isEmpty) ∧
      (∀ replacement, ∃ result,
        c.search.replaceAll text replacement = .ok (String.ofList result) ∧
        Substituted (c.search.expansion text.toList replacement.toList) 0 text.toList ms result) ∧
      (ms = [] → ∀ replacement, c.search.replaceAll text replacement = .ok text) ∧
      ((backend = .extended → ∀ i, (['0'], i) ∉ c.search.names) →
        c.search.replaceAll text "$0" = .ok text)) := by
  obtain ⟨program, hbuild, rfl⟩ := compile_eq_ok.mp hc
  obtain ⟨hends, hgave | ⟨ms, h⟩⟩ := program.exists_visits hbuild hstraight text
  · exact ⟨hends, Or.inl hgave⟩
  · refine ⟨hends, Or.inr ⟨ms, h.listed, h.follow.spaced, h.found, h.substituted, ?_, ?_⟩⟩
    · rintro rfl
      exact h.replaceAll_nil
    · intro hnames
      exact h.replaceAll_whole (backend_of_build hbuild ▸ hnames)

/-- Where a match ends, the next one is not empty: of a character or the place in front of a `b`,
only the character is listed. -/
theorem Compiled.searches_agree_of_adjacent :
    ∃ c, Backend.extended.compile "(?=b)|é" false = .ok c ∧ c.search.isMatch "éb" = .ok true ∧
      Spaced "éb".toList [(0, 2)] ∧ c.search.replaceAll "éb" "$0" = .ok "éb" := by
  obtain ⟨c, hc⟩ := exists_ok_of_isSome (x := Backend.extended.compile "(?=b)|é" false)
    (by decide +kernel)
  have hread : Extended.Source.read "(?=b)|é".toList =
      .ok ⟨.alternate (.look .ahead false (.literal 'b' false)) (.literal 'é' false), [], []⟩ := by
    decide +kernel
  have hlist : (Backend.extended.compile "(?=b)|é" false).bind (·.search.findAll "éb") =
      .ok [(0, 2)] := by decide +kernel
  have hnames : (Backend.extended.compile "(?=b)|é" false).map (·.search.names) = .ok [] := by
    decide +kernel
  simp only [hc, Except.bind, Except.map] at hlist hnames
  have hagree := Compiled.searches_agree hc (fun _ source hsource => by
    rw [hread] at hsource
    cases hsource
    exact ⟨trivial, ⟨trivial, trivial⟩, trivial⟩) "éb"
  obtain ⟨-, ⟨hgave, -⟩ | ⟨ms, hms, hspaced, hmatch, -, -, hwhole⟩⟩ := hagree
  · cases hlist.symm.trans hgave
  · have hspans : [(0, 2)] = ms.map (·.span "éb".toList) := Except.ok.inj (hlist.symm.trans hms)
    refine ⟨c, hc, ?_, hspans ▸ hspaced, hwhole fun _ i hi => ?_⟩
    · rw [hmatch]
      cases ms with
      | nil => cases hspans
      | cons m ms => rfl
    · rw [Except.ok.inj hnames] at hi
      cases hi

/-- A name is tried before a number, so what stands for the whole match stands for a group that
gives itself the name `0`. -/
theorem Compiled.exists_replaceAll_whole_ne :
    ∃ c, Backend.extended.compile "(?<0>a)b" false = .ok c ∧
      (∀ source, Extended.Source.read "(?<0>a)b".toList = .ok source → source.tree.Straight) ∧
      c.search.findAll "ab" = .ok [(0, 2)] ∧ c.search.replaceAll "ab" "$0" = .ok "a" := by
  obtain ⟨c, hc⟩ := exists_ok_of_isSome (x := Backend.extended.compile "(?<0>a)b" false)
    (by decide +kernel)
  have hread : Extended.Source.read "(?<0>a)b".toList =
      .ok ⟨.concat (.group 1 (.literal 'a' false)) (.literal 'b' false), [], [(['0'], 1)]⟩ := by
    decide +kernel
  have hlist : (Backend.extended.compile "(?<0>a)b" false).bind (·.search.findAll "ab") =
      .ok [(0, 2)] := by decide +kernel
  have hreplace : (Backend.extended.compile "(?<0>a)b" false).bind
      (·.search.replaceAll "ab" "$0") = .ok "a" := by decide +kernel
  simp only [hc, Except.bind] at hlist hreplace
  refine ⟨c, hc, fun source hsource => ?_, hlist, hreplace⟩
  rw [hread] at hsource
  cases hsource
  exact ⟨trivial, ⟨trivial, trivial⟩, trivial⟩

end Verbal
