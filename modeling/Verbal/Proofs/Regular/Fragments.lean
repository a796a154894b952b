import Verbal.Evaluation
import Verbal.Proofs.Regular.Denotations
import Verbal.Proofs.Regular.Renumbering

/-!
# Fragments in groups of their own

The verbs that add a fragment put it into a group that captures nothing, as it is written. Nothing
inside of the group gets out: what the fragment switches ends with the group, and so do its
branches.

* **`fragments_isolated`**: what is assembled from fragments matches exactly where the fragments
  match one after the other, each in the way in which it matches on its own.
* `Regular.readAll_spliced`: a fragment is renumbered, and nothing around it changes.
* `Regular.compile_of_written`: what is written compiles unless it exceeds a limit.
-/

namespace Verbal

open Verbal.Regular (Ast Draft Regex Repetition Source Surroundings)

/-! ## Fragments -/

/-- A fragment of a pattern that is added as it is, and whether it may be missing. -/
structure Fragment where
  value : String
  optional : Bool
  deriving Repr, DecidableEq

/-- The verb that adds a fragment. -/
def Fragment.verb (f : Fragment) : Verb :=
  if f.optional then .maybe f.value else .andThen f.value

/-- The expression that is assembled from fragments. -/
def Expression.ofFragments (fragments : List Fragment) : Expression :=
  ofVerbs (fragments.map Fragment.verb)

/-- Whether a pattern of the regular dialect can match from one place to another, along any path. -/
def CanMatch (anyCase : Bool) (pattern : String) (text : List Char) (i j : Nat) : Prop :=
  ∃ r names, Regular.regexOf anyCase pattern.toList = .ok (r, names) ∧ r.Spans text i j

/-- Whether a fragment can match from one place to another, or be missing between them. -/
def Fragment.CanMatch (anyCase : Bool) (f : Fragment) (text : List Char) (i j : Nat) : Prop :=
  Verbal.CanMatch anyCase f.value text i j ∨ f.optional = true ∧ i = j

/-- The names of the capture groups in a pattern. -/
def groupNames (pattern : String) : List (List Char) :=
  match Source.read pattern.toList with
  | .ok source => source.names.map (·.1)
  | .error _ => []

/-- Whether a pattern is refused neither for its nesting nor for its size. -/
def WithinLimits (anyCase : Bool) (pattern : String) : Prop :=
  ∀ fault, Regular.Program.compile anyCase pattern.toList = .error fault →
    fault ≠ .nestingTooDeep ∧ fault ≠ .tooLarge

theorem Expression.toList_pattern_ofFragments (fragments : List Fragment) :
    (ofFragments fragments).pattern.toList =
      fragments.flatMap fun f => f.verb.fragment.toList := by
  refine (toList_pattern_of_append fun v hv e => ?_).trans (List.flatMap_map _ _ _)
  obtain ⟨f, -, rfl⟩ := List.mem_map.mp hv
  unfold Fragment.verb
  split <;> rfl

theorem Fragment.toList_fragment (f : Fragment) :
    f.verb.fragment.toList =
      "(?:".toList ++ (f.value.toList ++ ')' :: if f.optional then ['?'] else []) := by
  unfold verb
  cases f.optional <;> simp [Verb.fragment]

/-! ## Limits -/

namespace Regular

/-- **What is written compiles** if it stands for something and exceeds no limit. -/
theorem compile_of_written {anyCase : Bool} {pattern : String} {source : Source} {r : Regex}
    {flags : Flags} (hsource : Source.written pattern.toList = .ok source)
    (hr : source.ast.regex (.initial anyCase) = .ok (r, flags))
    (hlimits : WithinLimits anyCase pattern) :
    regexOf anyCase pattern.toList = .ok (r, source.names) ∧
      Program.compile anyCase pattern.toList = .ok ⟨r.unroll none, source.names⟩ := by
  have hdepth : source.ast.depth .none ≤ nestingLimit := by
    by_contra hdeep
    have hread : Source.read pattern.toList = .error .nestingTooDeep := by
      rw [read_eq_written, hsource]
      exact if_neg hdeep
    refine (hlimits .nestingTooDeep ?_).1 rfl
    simp only [Program.compile, regexOf, hread]
    rfl
  have hregex : regexOf anyCase pattern.toList = .ok (r, source.names) :=
    regexOf_eq_ok.mpr ⟨source, flags, read_eq_ok.mpr ⟨hsource, hdepth⟩, hr, rfl⟩
  have hsize : r.size ≤ sizeLimit := by
    by_contra hlarge
    refine (hlimits .tooLarge ?_).2 rfl
    simp only [Program.compile, hregex, bind, Except.bind, Regex.compile, if_neg hlarge]
  exact ⟨hregex, compile_eq_ok.mpr ⟨r, _, hregex, hsize, rfl⟩⟩

/-! ## Reading a fragment -/

/-- What stands around a group that is opened and captures nothing. -/
def Draft.around (d : Draft) : Surroundings :=
  ⟨⟨.plain [], d.verbose, d.branches, d.items⟩ :: d.levels, d.groups, d.names⟩

/-- The item that a fragment becomes, if so much was read of it. -/
def fragmentItem (optional : Bool) (body : Ast) : Ast :=
  if optional then .repetition ⟨0, some 1⟩ false (.group (.plain []) body)
  else .group (.plain []) body

/-- What has been read once a fragment is added, if so much was read of it. -/
def Draft.splice (d : Draft) (optional : Bool) (part : Draft) : Draft :=
  { d with
    items := fragmentItem optional (part.body.shift d.groups) :: d.items
    groups := part.groups + d.groups
    names := part.names.map (fun x => (x.1, x.2 + d.groups)) ++ d.names }

/-- **A fragment is read as an item**, renumbered, and nothing around it changes. -/
theorem readAll_spliced {d part : Draft} {f : Fragment} (hverbose : d.verbose = false)
    (h : readAll .start f.value.toList = .ok part) (hlevels : part.levels = [])
    (hhash : '#' ∉ f.value.toList) (hfit : part.Fits d.around) {t : List Char}
    (ht : t.head? ≠ some '?') :
    readAll d (f.verb.fragment.toList ++ t) = readAll (d.splice f.optional part) t := by
  have hopen (s : List Char) : readAll d ("(?:".toList ++ s) =
      readAll (Draft.start.inside d.around) s := by
    have hread : readToken d.verbose '(' ('?' :: ':' :: s) = .ok (.switches [] true, s) := by
      rw [hverbose]
      rfl
    refine readAll_of_token (by rw [hverbose]; rfl) hread
      (Draft.switch_eq_ok.mpr (Or.inl ⟨rfl, ?_⟩))
    simp [Draft.start, Draft.inside, Draft.around, Draft.openGroup, Switches.state?, hverbose]
  have hclose (s : List Char) : readAll (part.inside d.around) (')' :: s) =
      readAll (d.splice false part) s := by
    have hread (v : Bool) : readToken v ')' s = .ok (.close, s) := rfl
    refine readAll_of_token (skipBlanks_parenthesis _ s) (hread _)
      (Draft.closeGroup_eq_ok.mpr ⟨⟨.plain [], d.verbose, d.branches, d.items⟩, d.levels, ?_, ?_⟩)
    · simp [Draft.inside, hlevels, Draft.around]
    · rw [Draft.body_inside]
      rfl
  rw [f.toList_fragment, List.append_assoc, List.append_assoc, List.cons_append, hopen,
    readAll_part h hhash hfit (ends_parenthesis _ _), hclose]
  cases f.optional with
  | false => rfl
  | true =>
    have hread : readToken false '?' t = .ok (.repetition ⟨0, some 1⟩ false, t) := by
      simp only [readToken, Repetition.ofChar?, reluctantText_of_ne ht]
      rfl
    exact readAll_of_token (by rw [show (d.splice false part).verbose = false from hverbose]; rfl)
      (by rw [show (d.splice false part).verbose = false from hverbose]; exact hread) rfl

/-! ## What fragments stand for -/

/-- What is known of a fragment that is accepted on its own. -/
structure Stands (anyCase : Bool) (f : Fragment) (part : Draft) (r : Regex) : Prop where
  read : readAll .start f.value.toList = .ok part
  levels : part.levels = []
  regex : ∃ flags, part.body.regex (.initial anyCase) = .ok (r, flags)
  names : groupNames f.value = part.names.map (·.1)
  canMatch : ∀ text i j, Verbal.CanMatch anyCase f.value text i j ↔ r.Spans text i j

theorem exists_stands {anyCase : Bool} {f : Fragment} {c : Compiled}
    (h : Backend.regular.compile f.value anyCase = .ok c) :
    ∃ part r, Stands anyCase f part r := by
  obtain ⟨p, hp, -⟩ := compile_regular_eq_ok.mp h
  obtain ⟨r, names, hregex, -, -⟩ := compile_eq_ok.mp hp
  obtain ⟨source, flags, hread, hr, rfl⟩ := regexOf_eq_ok.mp hregex
  obtain ⟨part, hpart, hlevels, rfl⟩ := written_eq_ok.mp (read_eq_ok.mp hread).1
  refine ⟨part, r, hpart, hlevels, ⟨flags, hr⟩, by simp only [groupNames, hread],
    fun text i j => ⟨?_, fun hspans => ⟨r, _, hregex, hspans⟩⟩⟩
  rintro ⟨r', names', hregex', hspans⟩
  rw [hregex] at hregex'
  cases hregex'
  exact hspans

theorem repeated_option (greedy : Bool) (r : Regex) :
    Regex.repeated ⟨0, some 1⟩ greedy r = .repetition ⟨0, some 1⟩ greedy r := by
  unfold Regex.repeated
  cases r.onlyEmpty <;> rfl

theorem spans_option {greedy : Bool} {r : Regex} {text : List Char} {i j : Nat} :
    (Regex.repetition ⟨0, some 1⟩ greedy r).Spans text i j ↔ r.Spans text i j ∨ i = j := by
  constructor
  · rintro ⟨n, ⟨-, hn⟩, h⟩
    match n with
    | 0 => exact Or.inr h
    | 1 => exact Or.inl (rounds_one.mp h)
    | n + 2 =>
      have hle : n + 2 ≤ max 0 1 := hn 1 rfl
      omega
  · rintro (h | rfl)
    · exact ⟨1, ⟨Nat.zero_le 1, by simp⟩, rounds_one.mpr h⟩
    · exact ⟨0, ⟨Nat.le_refl 0, by simp⟩, rfl⟩

/-- The item of a fragment matches where the fragment does, whatever its groups are numbered. -/
theorem Stands.denotes {anyCase : Bool} {f : Fragment} {part : Draft} {r : Regex}
    (h : Stands anyCase f part r) (k : Nat) :
    ∃ n r', (fragmentItem f.optional (part.body.shift k)).Denotes anyCase n r' ∧
      ∀ text i j, r'.Spans text i j ↔ f.CanMatch anyCase text i j := by
  obtain ⟨flags, hr⟩ := h.regex
  have hgroup : (Ast.group (.plain []) (part.body.shift k)).regex (.initial anyCase) =
      .ok (r.shift k, .initial anyCase) := by
    simp only [Ast.regex, Flags.apply, List.foldl_nil, Ast.regex_shift, hr, bind, Except.bind,
      Except.map, pure, Except.pure]
  unfold fragmentItem Fragment.CanMatch
  cases f.optional with
  | false =>
    refine ⟨_, r.shift k, ⟨hgroup, Nat.le_refl _⟩, fun text i j => ?_⟩
    rw [Regex.spans_shift, h.canMatch]
    simp
  | true =>
    have hitem : (Ast.repetition ⟨0, some 1⟩ false (.group (.plain []) (part.body.shift k))).regex
        (.initial anyCase) =
          .ok (.repetition ⟨0, some 1⟩ true (r.shift k), .initial anyCase) := by
      rw [Ast.regex, hgroup, ← repeated_option]
      rfl
    refine ⟨_, _, ⟨hitem, Nat.le_refl _⟩, fun text i j => ?_⟩
    rw [spans_option, Regex.spans_shift, h.canMatch]
    simp

/-- Whether fragments can match one after the other. -/
def InTurn (anyCase : Bool) (text : List Char) : List Fragment → Nat → Nat → Prop
  | [], i, j => i = j
  | f :: fragments, i, j => ∃ k, f.CanMatch anyCase text i k ∧ InTurn anyCase text fragments k j

theorem head?_fragments (fragments : List Fragment) :
    (fragments.flatMap fun f => f.verb.fragment.toList).head? ≠ some '?' := by
  cases fragments with
  | nil => nofun
  | cons f fragments => simp [f.toList_fragment]

/-- **Fragments are read one after the other**, each as an item that matches where it does. -/
theorem readAll_fragments {anyCase : Bool} {fragments : List Fragment} {d : Draft}
    (hverbose : d.verbose = false)
    (haccepted : ∀ f ∈ fragments, ∃ c, Backend.regular.compile f.value anyCase = .ok c)
    (hhash : ∀ f ∈ fragments, '#' ∉ f.value.toList)
    (hnames : fragments.Pairwise fun f g => (groupNames f.value).Disjoint (groupNames g.value))
    (hfree : ∀ f ∈ fragments, (groupNames f.value).Disjoint (d.names.map (·.1))) :
    ∃ d' items rs n, readAll d (fragments.flatMap fun f => f.verb.fragment.toList) = .ok d' ∧
      d'.levels = d.levels ∧ d'.branches = d.branches ∧ d'.items = items.reverse ++ d.items ∧
      List.Forall₂ (Ast.Denotes anyCase n) items rs ∧
      ∀ text i j, (Regex.sequence rs).Spans text i j ↔ InTurn anyCase text fragments i j := by
  induction fragments generalizing d with
  | nil =>
    refine ⟨d, [], [], 0, readAll_of_blank ?_, rfl, rfl, rfl, .nil, fun _ _ _ => Iff.rfl⟩
    rw [hverbose]
    rfl
  | cons f fragments ih =>
    obtain ⟨c, hc⟩ := haccepted f (List.mem_cons_self ..)
    obtain ⟨part, r, hstands⟩ := exists_stands hc
    obtain ⟨hpair, hnames⟩ := List.pairwise_cons.mp hnames
    have hfits : part.Fits d.around := by
      intro x hx y hy heq
      refine hfree f (List.mem_cons_self ..) (a := x.1) ?_ ?_
      · rw [hstands.names]
        exact List.mem_map_of_mem hx
      · rw [heq]
        exact List.mem_map_of_mem hy
    have hfree' : ∀ g ∈ fragments,
        (groupNames g.value).Disjoint ((d.splice f.optional part).names.map (·.1)) := by
      intro g hg name hname hmem
      simp only [Draft.splice, List.map_append, List.map_map, List.mem_append] at hmem
      rcases hmem with hmem | hmem
      · refine hpair g hg ?_ hname
        rw [hstands.names]
        exact hmem
      · exact hfree g (List.mem_cons_of_mem f hg) hname hmem
    obtain ⟨d', items, rs, n, hread, hlevels, hbranches, hitems, hdenotes, hspans⟩ :=
      ih (d := d.splice f.optional part) hverbose
        (fun g hg => haccepted g (List.mem_cons_of_mem f hg))
        (fun g hg => hhash g (List.mem_cons_of_mem f hg)) hnames hfree'
    obtain ⟨m, r', hitem, hspans'⟩ := hstands.denotes d.groups
    refine ⟨d', fragmentItem f.optional (part.body.shift d.groups) :: items, r' :: rs, max m n,
      ?_, hlevels, hbranches, ?_, ?_, fun text i j => ?_⟩
    · rw [List.flatMap_cons, readAll_spliced hverbose hstands.read hstands.levels
        (hhash f (List.mem_cons_self ..)) hfits (head?_fragments fragments), hread]
    · simp [hitems, Draft.splice]
    · exact .cons (hitem.mono (Nat.le_max_left m n))
        (hdenotes.imp fun a r h => h.mono (Nat.le_max_right m n))
    · rw [Regex.spans_sequence_cons]
      exact exists_congr fun k => and_congr (hspans' text i k) (hspans text k j)

end Regular

/-! ## Places -/

/-- A fragment matches forward. -/
theorem Fragment.CanMatch.le {anyCase : Bool} {f : Fragment} {text : List Char} {i j : Nat}
    (h : f.CanMatch anyCase text i j) : i ≤ j := by
  rcases h with ⟨r, names, -, hspans⟩ | ⟨-, rfl⟩
  · exact hspans.le
  · exact Nat.le_refl i

/-- Fragments match one after the other iff there are places between which each of them does. -/
theorem Regular.inTurn_iff {anyCase : Bool} {text : List Char} {fragments : List Fragment}
    {i j : Nat} :
    InTurn anyCase text fragments i j ↔ ∃ place : Nat → Nat, place 0 = i ∧
      place fragments.length = j ∧ ∀ m (h : m < fragments.length),
        place m ≤ place (m + 1) ∧ fragments[m].CanMatch anyCase text (place m) (place (m + 1)) := by
  induction fragments generalizing i with
  | nil =>
    constructor
    · rintro rfl
      exact ⟨fun _ => i, rfl, rfl, fun m h => absurd h (Nat.not_lt_zero m)⟩
    · rintro ⟨place, rfl, rfl, -⟩
      rfl
  | cons f fragments ih =>
    constructor
    · rintro ⟨k, hk, hturn⟩
      obtain ⟨place, rfl, rfl, hplace⟩ := ih.mp hturn
      refine ⟨fun m => m.casesOn i place, rfl, rfl, fun m h => ?_⟩
      cases m with
      | zero => exact ⟨hk.le, hk⟩
      | succ m => exact hplace m (Nat.lt_of_succ_lt_succ h)
    · rintro ⟨place, rfl, rfl, hplace⟩
      refine ⟨place 1, (hplace 0 (Nat.zero_lt_succ _)).2, ih.mpr
        ⟨fun m => place (m + 1), rfl, rfl, fun m h => hplace (m + 1) (Nat.succ_lt_succ h)⟩⟩

/-- A search finds something iff the pattern can match between two places of the text. -/
theorem search_iff_canMatch {pattern : String} {anyCase : Bool} {c : Compiled}
    (hc : Backend.regular.compile pattern anyCase = .ok c) (text : String) :
    c.search.isMatch text = .ok true ↔
      ∃ i j, i ≤ text.toList.length ∧ CanMatch anyCase pattern text.toList i j := by
  obtain ⟨p, hp, rfl⟩ := compile_regular_eq_ok.mp hc
  obtain ⟨r, names, hregex, -, rfl⟩ := Regular.compile_eq_ok.mp hp
  have hsearch : ((.regular ⟨r.unroll none, names⟩ : Program).isMatch text = .ok true) ↔
      ∃ i j, i ≤ text.toList.length ∧ r.Spans text.toList i j := by
    rw [← Regular.isMatch_iff]
    exact ⟨fun h => Except.ok.inj h, fun h => congrArg Except.ok h⟩
  refine hsearch.trans (exists_congr fun i => exists_congr fun j => and_congr_right fun _ =>
    ⟨fun h => ⟨r, names, hregex, h⟩, ?_⟩)
  rintro ⟨r', names', hregex', h⟩
  rw [hregex] at hregex'
  cases hregex'
  exact h

namespace Expression

variable {anyCase : Bool} {fragments : List Fragment}

/-- **Fragments are isolated from each other.** Fragments that are accepted on their own, without
comments and without a name in common, make a pattern that is accepted unless it exceeds a limit,
and a search finds what the pattern can match. It can match between two places of a text exactly if
there are places from the one to the other between which the fragments match, each in the way in
which it matches on its own. -/
theorem fragments_isolated
    (haccepted : ∀ f ∈ fragments, ∃ c, Backend.regular.compile f.value anyCase = .ok c)
    (hhash : ∀ f ∈ fragments, '#' ∉ f.value.toList)
    (hnames : fragments.Pairwise fun f g => (groupNames f.value).Disjoint (groupNames g.value))
    (hlimits : WithinLimits anyCase (ofFragments fragments).pattern) :
    (∃ c, Backend.regular.compile (ofFragments fragments).pattern anyCase = .ok c ∧
      ∀ text, c.search.isMatch text = .ok true ↔ ∃ i j, i ≤ text.toList.length ∧
        CanMatch anyCase (ofFragments fragments).pattern text.toList i j) ∧
      ∀ text i j, CanMatch anyCase (ofFragments fragments).pattern text i j ↔
        ∃ place : Nat → Nat, place 0 = i ∧ place fragments.length = j ∧
          ∀ m (h : m < fragments.length), place m ≤ place (m + 1) ∧
            fragments[m].CanMatch anyCase text (place m) (place (m + 1)) := by
  obtain ⟨d, items, rs, n, hread, hlevels, hbranches, hitems, hdenotes, hspans⟩ :=
    Regular.readAll_fragments (d := .start) rfl haccepted hhash hnames (by simp [Draft.start])
  have hbody : d.body = .ofItems items := by
    simp [Draft.body, hbranches, hitems, Draft.start, Ast.ofBranches]
  have hwritten : Source.written (ofFragments fragments).pattern.toList =
      .ok ⟨d.body, d.groups, d.names⟩ :=
    Regular.written_eq_ok.mpr ⟨d, by rw [toList_pattern_ofFragments, hread], hlevels, rfl⟩
  have hregex : d.body.regex (.initial anyCase) = .ok (.sequence rs, .initial anyCase) := by
    rw [hbody]
    exact (Ast.denotes_ofItems hdenotes).regex
  obtain ⟨hregexOf, hcompile⟩ := Regular.compile_of_written hwritten hregex hlimits
  have hc := compile_regular_eq_ok.mpr ⟨_, hcompile, rfl⟩
  refine ⟨⟨_, hc, search_iff_canMatch hc⟩, fun text i j => ?_⟩
  rw [← Regular.inTurn_iff, ← hspans]
  constructor
  · rintro ⟨r, names, hr, h⟩
    rw [hregexOf] at hr
    cases hr
    exact h
  · exact fun h => ⟨_, _, hregexOf, h⟩

/-- A branch and a switch of the first fragment do not reach the second one, which may be missing. -/
theorem fragments_isolated_of_switch :
    ((ofFragments [⟨"a|(?i)b", false⟩, ⟨"c", true⟩]).pattern = "(?:a|(?i)b)(?:c)?") ∧
      CanMatch false "(?:a|(?i)b)(?:c)?" "Bc".toList 0 2 := by
  have hok {pattern : String}
      (h : (Backend.regular.compile pattern false).toOption.isSome = true) :
      ∃ c, Backend.regular.compile pattern false = .ok c := by
    cases hc : Backend.regular.compile pattern false with
    | error e => rw [hc] at h; cases h
    | ok c => exact ⟨c, rfl⟩
  have hpattern : (ofFragments [⟨"a|(?i)b", false⟩, ⟨"c", true⟩]).pattern =
      "(?:a|(?i)b)(?:c)?" := by decide
  have hlimits : WithinLimits false "(?:a|(?i)b)(?:c)?" := by
    intro fault hfault
    have heval : (Regular.Program.compile false "(?:a|(?i)b)(?:c)?".toList).toOption.isSome =
        true := by decide +kernel
    rw [hfault] at heval
    cases heval
  have hnames : groupNames "a|(?i)b" = [] := by decide +kernel
  have hfirst : CanMatch false "a|(?i)b" "Bc".toList 0 1 :=
    ⟨.alternate (.letter (.single 'a')) (.concat .empty (.letter (.ofChars ['b', 'B']))), [],
      by decide +kernel, Or.inr ⟨0, rfl, rfl, 'B', rfl, by decide⟩⟩
  have hsecond : CanMatch false "c" "Bc".toList 1 2 :=
    ⟨.letter (.single 'c'), [], by decide +kernel, rfl, 'c', rfl, by decide⟩
  obtain ⟨-, hplaces⟩ := @fragments_isolated false [⟨"a|(?i)b", false⟩, ⟨"c", true⟩]
    (List.forall_mem_cons.mpr ⟨hok (by decide +kernel),
      List.forall_mem_singleton.mpr (hok (by decide +kernel))⟩)
    (by decide) (List.pairwise_pair.mpr (hnames ▸ List.disjoint_nil_left _)) (hpattern ▸ hlimits)
  refine ⟨hpattern, hpattern ▸ (hplaces _ 0 2).mpr ⟨id, rfl, rfl, fun m h => ?_⟩⟩
  match m with
  | 0 => exact ⟨Nat.zero_le 1, Or.inl hfirst⟩
  | 1 => exact ⟨Nat.le_succ 1, Or.inl hsecond⟩

end Expression

end Verbal
