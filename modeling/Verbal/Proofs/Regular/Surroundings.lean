import Verbal.Proofs.Regular.Tokens

/-!
# Parts of patterns

A part of a pattern that can be read on its own is read in the same way wherever it stands: in
groups that are open, behind other capture groups, and in front of any text by which its last item
does not go on. Its groups are renumbered, and its names have to be free.

* **`readAll_inside`**: a run on its own is a run inside of its surroundings.
* `readAll_induction`: a run goes from token to token.
* `Draft.take_inside`: one token. `Settles` is what carries the induction: what was read behind a
  token settles everything that the token looked at.
-/

namespace Verbal.Regular

open Verbal.Unicode

/-! ## Renumbering -/

/-- A group with its number raised. -/
def GroupKind.shift (n : Nat) : GroupKind → GroupKind
  | capture index => capture (index + n)
  | plain switches => plain switches

namespace Ast

/-- A pattern with the numbers of its groups raised. -/
def shift (n : Nat) : Ast → Ast
  | empty => empty
  | flags switches => flags switches
  | primitive p => primitive p
  | set item => set item
  | repetition count reluctant body => repetition count reluctant (body.shift n)
  | group kind body => group (kind.shift n) (body.shift n)
  | concat first rest => concat (first.shift n) (rest.shift n)
  | alternate first rest => alternate (first.shift n) (rest.shift n)

theorem shift_zero (a : Ast) : a.shift 0 = a := by
  induction a with
  | empty => rfl
  | flags switches => rfl
  | primitive p => rfl
  | set item => rfl
  | repetition count reluctant body ih => rw [shift, ih]
  | group kind body ih => rw [shift, ih]; cases kind <;> rfl
  | concat first rest ihf ihr => rw [shift, ihf, ihr]
  | alternate first rest ihf ihr => rw [shift, ihf, ihr]

theorem shift_ofItems (n : Nat) (items : List Ast) :
    (ofItems items).shift n = ofItems (items.map (shift n)) := by
  match items with
  | [] => rfl
  | [a] => rfl
  | a :: b :: items => exact congrArg (concat (a.shift n)) (shift_ofItems n (b :: items))

theorem shift_ofBranches (n : Nat) (branches : List Ast) :
    (ofBranches branches).shift n = ofBranches (branches.map (shift n)) := by
  match branches with
  | [] => rfl
  | [a] => rfl
  | a :: b :: branches =>
    exact congrArg (alternate (a.shift n)) (shift_ofBranches n (b :: branches))

end Ast

/-- An open group with all numbers raised. -/
def Level.shift (n : Nat) (level : Level) : Level :=
  ⟨level.kind.shift n, level.verbose, level.branches.map (.shift n), level.items.map (.shift n)⟩

/-! ## What a token does -/

namespace Draft

variable {d d' : Draft}

theorem repeatLast_eq_ok {count : Repetition} {reluctant : Bool} :
    d.repeatLast count reluctant = .ok d' ↔
      ∃ a items, d.items = a :: items ∧ (∀ switches, a ≠ .flags switches) ∧
        d' = { d with items := .repetition count reluctant a :: items } := by
  unfold repeatLast
  split
  · rename_i hitems
    simp [hitems]
  · rename_i switches items hitems
    simp [hitems]
  · rename_i a items hflags hitems
    rw [hitems, Except.ok.injEq]
    constructor
    · rintro rfl
      exact ⟨a, items, rfl, fun switches h => hflags switches h, rfl⟩
    · rintro ⟨a', items', heq, -, rfl⟩
      cases heq
      rfl

theorem closeGroup_eq_ok :
    d.closeGroup = .ok d' ↔ ∃ level levels, d.levels = level :: levels ∧
      d' = { d with
        levels := levels
        branches := level.branches
        items := .group level.kind d.body :: level.items
        verbose := level.verbose } := by
  unfold closeGroup
  split
  · rename_i hlevels
    simp [hlevels]
  · rename_i level levels hlevels
    rw [hlevels, Except.ok.injEq]
    constructor
    · rintro rfl
      exact ⟨level, levels, rfl, rfl⟩
    · rintro ⟨level', levels', heq, rfl⟩
      cases heq
      rfl

theorem openNamed_eq_ok {name : List Char} :
    d.openNamed name = .ok d' ↔ name ≠ [] ∧ (∀ x ∈ d.names, x.1 ≠ name) ∧
      d' = { d.openCapture with names := (name, d.groups + 1) :: d.names } := by
  unfold openNamed
  split
  · rename_i hname
    simp [List.isEmpty_iff.mp hname]
  · rename_i hname
    have hname' : name ≠ [] := fun h => hname (List.isEmpty_iff.mpr h)
    split
    · rename_i hany
      obtain ⟨x, hx, heq⟩ := List.any_eq_true.mp hany
      refine ⟨nofun, fun ⟨_, hfree, _⟩ => absurd (beq_iff_eq.mp heq) (hfree x hx)⟩
    · rename_i hany
      have hfree : ∀ x ∈ d.names, x.1 ≠ name := fun x hx heq =>
        hany (List.any_eq_true.mpr ⟨x, hx, beq_iff_eq.mpr heq⟩)
      rw [Except.ok.injEq]
      exact ⟨fun h => ⟨hname', hfree, h.symm⟩, fun ⟨_, _, h⟩ => h.symm⟩

theorem switch_eq_ok {switches : Switches} {opens : Bool} :
    d.switch switches opens = .ok d' ↔
      opens = true ∧
          d' = d.openGroup (.plain switches) ((switches.state? .verbose).getD d.verbose) ∨
        opens = false ∧ switches ≠ [] ∧
          d' = { d.push (.flags switches) with
            verbose := (switches.state? .verbose).getD d.verbose } := by
  unfold switch
  cases opens with
  | true =>
    simp only [if_true, Except.ok.injEq, true_and, Bool.true_eq_false, false_and, or_false]
    exact eq_comm
  | false =>
    by_cases h : switches = []
    · simp [h]
    · simp only [Bool.false_eq_true, if_false, List.isEmpty_iff, Except.ok.injEq,
        false_and, false_or, true_and, ne_eq, h, not_false_eq_true]
      exact eq_comm

/-- Names are only added. -/
theorem names_take {token : Token} (h : d.take token = .ok d') :
    ∃ names, d'.names = names ++ d.names := by
  cases token with
  | primitive p => cases h; exact ⟨[], rfl⟩
  | set item => cases h; exact ⟨[], rfl⟩
  | bar => cases h; exact ⟨[], rfl⟩
  | capture => cases h; exact ⟨[], rfl⟩
  | repetition count reluctant =>
    obtain ⟨a, items, -, -, rfl⟩ := repeatLast_eq_ok.mp h
    exact ⟨[], rfl⟩
  | close =>
    obtain ⟨level, levels, -, rfl⟩ := closeGroup_eq_ok.mp h
    exact ⟨[], rfl⟩
  | named name =>
    obtain ⟨-, -, rfl⟩ := openNamed_eq_ok.mp h
    exact ⟨[(name, d.groups + 1)], rfl⟩
  | switches switches opens =>
    rcases switch_eq_ok.mp h with ⟨-, rfl⟩ | ⟨-, -, rfl⟩
    · exact ⟨[], rfl⟩
    · exact ⟨[], rfl⟩

theorem verbose_take {token : Token} (hmode : token.keepsMode = true)
    (h : d.take token = .ok d') : d'.verbose = d.verbose := by
  cases token with
  | primitive p => cases h; rfl
  | set item => cases h; rfl
  | bar => cases h; rfl
  | capture => cases h; rfl
  | repetition count reluctant =>
    obtain ⟨a, items, -, -, rfl⟩ := repeatLast_eq_ok.mp h
    rfl
  | named name =>
    obtain ⟨-, -, rfl⟩ := openNamed_eq_ok.mp h
    rfl
  | close => cases hmode
  | switches switches opens => cases hmode

end Draft

/-! ## Surroundings -/

/-- What stands around a part of a pattern: the groups that are open, how many capture groups there
are, and the names that are taken. -/
structure Surroundings where
  levels : List Level
  groups : Nat
  names : List (List Char × Nat)

namespace Draft

/-- What has been read of a part of a pattern, with what stands around it. -/
def inside (d : Draft) (around : Surroundings) : Draft :=
  ⟨d.levels.map (.shift around.groups) ++ around.levels, d.branches.map (.shift around.groups),
    d.items.map (.shift around.groups), d.verbose, d.groups + around.groups,
    d.names.map (fun x => (x.1, x.2 + around.groups)) ++ around.names⟩

variable {d d' : Draft} {around : Surroundings}

/-- Whether the names of a part of a pattern are free. -/
def Fits (d : Draft) (around : Surroundings) : Prop :=
  ∀ x ∈ d.names, ∀ y ∈ around.names, x.1 ≠ y.1

theorem body_inside : (d.inside around).body = d.body.shift around.groups := by
  unfold body inside
  rw [Ast.shift_ofBranches]
  simp [Ast.shift_ofItems]

theorem inside_trivial (d : Draft) : d.inside ⟨[], 0, []⟩ = d := by
  have hlevel (l : Level) : l.shift 0 = l := by
    obtain ⟨kind, verbose, branches, items⟩ := l
    simp only [Level.shift, funext Ast.shift_zero, List.map_id']
    cases kind <;> rfl
  simp only [inside, funext hlevel, funext Ast.shift_zero, Nat.add_zero, List.map_id',
    List.append_nil]

theorem openCapture_inside :
    (d.inside around).openCapture = d.openCapture.inside around := by
  simp only [openCapture, openGroup, inside, List.map_cons, Level.shift, GroupKind.shift,
    List.cons_append, List.map_nil]
  rw [Nat.add_right_comm]

/-- **A token is taken in the same way** whatever stands around. -/
theorem take_inside {token : Token} (h : d.take token = .ok d') (hfit : d'.Fits around) :
    (d.inside around).take token = .ok (d'.inside around) := by
  cases token with
  | primitive p => cases h; rfl
  | set item => cases h; rfl
  | bar =>
    cases h
    simp only [take, branch, inside, List.map_cons, List.map_nil, Ast.shift_ofItems,
      List.map_reverse]
  | capture =>
    cases h
    exact congrArg Except.ok openCapture_inside
  | repetition count reluctant =>
    obtain ⟨a, items, hitems, hflags, rfl⟩ := repeatLast_eq_ok.mp h
    refine repeatLast_eq_ok.mpr
      ⟨a.shift around.groups, items.map (.shift around.groups), ?_, ?_, ?_⟩
    · simp [inside, hitems]
    · intro switches
      cases a <;> simp_all [Ast.shift]
    · simp [inside, Ast.shift]
  | close =>
    obtain ⟨level, levels, hlevels, rfl⟩ := closeGroup_eq_ok.mp h
    refine closeGroup_eq_ok.mpr ⟨level.shift around.groups,
      levels.map (.shift around.groups) ++ around.levels, ?_, ?_⟩
    · simp [inside, hlevels]
    · simp [inside, Level.shift, Ast.shift, ← body_inside]
  | named name =>
    obtain ⟨hname, hfree, rfl⟩ := openNamed_eq_ok.mp h
    refine openNamed_eq_ok.mpr ⟨hname, fun x hx => ?_, ?_⟩
    · rcases List.mem_append.mp hx with hx | hx
      · obtain ⟨y, hy, rfl⟩ := List.mem_map.mp hx
        exact hfree y hy
      · exact (hfit (name, d.groups + 1) (List.mem_cons_self ..) x hx).symm
    · rw [openCapture_inside]
      simp [inside, Nat.add_right_comm]
  | switches switches opens =>
    refine switch_eq_ok.mpr ?_
    rcases switch_eq_ok.mp h with ⟨hopens, rfl⟩ | ⟨hopens, hswitches, rfl⟩
    · exact Or.inl ⟨hopens, rfl⟩
    · exact Or.inr ⟨hopens, hswitches, rfl⟩

end Draft

/-! ## Runs -/

theorem readAll_text (d : Draft) (s : List Char) :
    readAll d s = match skipBlanks d.verbose s with
      | [] => .ok d
      | c :: r => (readStep d c r).text.bind fun x => readAll x.1 x.2 := by
  rw [readAll]
  split
  · rename_i hs _
    simp [hs]
  · rename_i c r _ hs _
    simp only [hs]
    cases readStep d c r <;> rfl

theorem readAll_skipBlanks {d : Draft} {k : Bool} (hk : k = true → d.verbose = true)
    (s : List Char) : readAll d (skipBlanks k s) = readAll d s := by
  rw [readAll_text, readAll_text d s, skipBlanks_skipBlanks hk]

theorem readAll_of_blank {d : Draft} {s : List Char} (hs : skipBlanks d.verbose s = []) :
    readAll d s = .ok d := by
  rw [readAll_text, hs]

theorem readAll_of_token {d d' : Draft} {c : Char} {s r r' : List Char} {token : Token}
    (hs : skipBlanks d.verbose s = c :: r) (hread : readToken d.verbose c r = .ok (token, r'))
    (htake : d.take token = .ok d') : readAll d s = readAll d' r' := by
  rw [readAll_text, hs]
  dsimp only
  rw [readStep_eq_ok.mpr ⟨token, hread, htake⟩]
  rfl

/-- What a run begins with: nothing is left, or there is a first token. -/
theorem eq_ok_of_readAll {d d' : Draft} {s : List Char} (h : readAll d s = .ok d') :
    skipBlanks d.verbose s = [] ∧ d' = d ∨
      ∃ c r token r' d₁, skipBlanks d.verbose s = c :: r ∧
        readToken d.verbose c r = .ok (token, r') ∧ d.take token = .ok d₁ ∧
        readAll d₁ r' = .ok d' := by
  rw [readAll_text] at h
  cases hs : skipBlanks d.verbose s with
  | nil =>
    rw [hs] at h
    exact Or.inl ⟨rfl, (Except.ok.inj h).symm⟩
  | cons c r =>
    rw [hs] at h
    obtain ⟨⟨d₁, r'⟩, hstep, h⟩ := bind_eq_ok.mp h
    obtain ⟨token, hread, htake⟩ := readStep_eq_ok.mp hstep
    exact Or.inr ⟨c, r, token, r', d₁, rfl, hread, htake, h⟩

/-- **A run goes from token to token.** What holds where only blanks are left, and in front of a token
if it holds behind it, holds of every run that comes to the end. -/
@[elab_as_elim]
theorem readAll_induction {d' : Draft} {motive : ∀ d s, readAll d s = .ok d' → Prop}
    (blank : ∀ s (hs : skipBlanks d'.verbose s = []), motive d' s (readAll_of_blank hs))
    (token : ∀ d d₁ s c r r' token (hs : skipBlanks d.verbose s = c :: r)
      (hread : readToken d.verbose c r = .ok (token, r')) (htake : d.take token = .ok d₁)
      (hrest : readAll d₁ r' = .ok d'), motive d₁ r' hrest →
      motive d s ((readAll_of_token hs hread htake).trans hrest))
    {d : Draft} {s : List Char} (h : readAll d s = .ok d') : motive d s h := by
  induction hn : s.length using Nat.strongRecOn generalizing d s with
  | ind n ih =>
    rcases eq_ok_of_readAll h with ⟨hs, rfl⟩ | ⟨c, r, t, r', d₁, hs, hread, htake, hrest⟩
    · exact blank s hs
    · have hlength : r'.length < n := by
        have hskip := skipBlanks_length_le d.verbose s
        have hstep := Reading.length_le_of_text (readStep_eq_ok.mpr ⟨t, hread, htake⟩)
        rw [hs, List.length_cons] at hskip
        omega
      exact token d d₁ s c r r' t hs hread htake hrest (ih _ hlength hrest rfl)

/-! ### What is looked at between two tokens -/

/-- A text that begins nothing by which an item could continue. -/
def Ends (v : Bool) (t : List Char) : Prop := LooksAlike v [] t

theorem Ends.looksAlike {v : Bool} {t : List Char} (h : Ends v t) (u : List Char) :
    LooksAlike v u t where
  here ht := absurd (h.here ht) nofun
  later ht := absurd (h.later ht) (by cases v <;> nofun)
  names ht := absurd (h.names ht) nofun

/-- Whether a text settles how it goes on, whatever follows. -/
def Settles (v : Bool) (m : List Char) : Prop :=
  skipBlanks v m ≠ [] ∧ ∀ m', m = '\x7b' :: m' → skipBlanks v m' ≠ []

theorem head?_skipBlanks_append {v : Bool} {m : List Char} (h : skipBlanks v m ≠ [])
    (x : List Char) : (skipBlanks v (m ++ x)).head? = (skipBlanks v m).head? := by
  cases hm : skipBlanks v m with
  | nil => exact absurd hm h
  | cons c r =>
    obtain ⟨b, rfl, hb⟩ := skipBlanks_eq_cons hm
    rw [List.append_assoc, List.cons_append, hb]
    rfl

theorem Settles.ne_nil {v : Bool} {m : List Char} (h : Settles v m) : m ≠ [] := by
  rintro rfl
  exact h.1 (by cases v <;> rfl)

theorem Settles.opensName_append {v : Bool} {m : List Char} (h : Settles v m) (x : List Char) :
    opensName v (m ++ x) = opensName v m := by
  cases m with
  | nil => exact absurd rfl h.ne_nil
  | cons c m =>
    by_cases hc : c = '\x7b'
    · subst hc
      cases hm : skipBlanks v m with
      | nil => exact absurd hm (h.2 m rfl)
      | cons e r =>
        obtain ⟨b, rfl, hb⟩ := skipBlanks_eq_cons hm
        simp only [opensName, List.cons_append, List.append_assoc, hb]
    · simp [opensName, hc]

/-- What follows a text that settles how it goes on looks alike. -/
theorem Settles.looksAlike {v : Bool} {m : List Char} (h : Settles v m) (x y : List Char) :
    LooksAlike v (m ++ x) (m ++ y) where
  here ht := by
    obtain ⟨c, m, rfl⟩ := List.exists_cons_of_ne_nil h.ne_nil
    exact ht
  later ht := by
    rw [head?_skipBlanks_append h.1] at ht ⊢
    exact ht
  names ht := by
    rw [h.opensName_append] at ht ⊢
    exact ht

theorem Settles.append {v : Bool} {m : List Char} (h : Settles v m) (x : List Char) :
    Settles v (m ++ x) := by
  refine ⟨fun hnil => ?_, fun m' hm' => ?_⟩
  · have := head?_skipBlanks_append h.1 x
    rw [hnil] at this
    exact h.1 (List.head?_eq_none_iff.mp this.symm)
  · cases m with
    | nil => exact absurd rfl h.ne_nil
    | cons c m =>
      obtain ⟨rfl, hm⟩ := List.cons.inj hm'
      rw [← hm]
      intro hnil
      have := head?_skipBlanks_append (h.2 m rfl) x
      rw [show skipBlanks v (m ++ x) = [] from hnil] at this
      exact h.2 m rfl (List.head?_eq_none_iff.mp this.symm)

theorem skipBlanks_brace (v : Bool) (m : List Char) :
    skipBlanks v ('\x7b' :: m) = '\x7b' :: m := by
  cases v
  · rfl
  · have hspace : isSpace '\x7b' = false := by decide
    simp [skipBlanks, dropBlanks, hspace]

/-- Blanks in front do not unsettle anything. -/
theorem Settles.append_left {k v : Bool} {a m : List Char} (h : Settles v m)
    (hk : k = true → v = true) (ha : skipBlanks k (a ++ m) = m) : Settles v (a ++ m) := by
  refine ⟨?_, fun m' hm' => ?_⟩
  · rw [← skipBlanks_skipBlanks hk, ha]
    exact h.1
  · rw [hm', skipBlanks_brace, ← hm'] at ha
    obtain rfl : a = [] := List.append_left_eq_self.mp ha
    exact h.2 m' hm'

/-- A token that has been read settles how the text goes on. -/
theorem settles_token {v : Bool} {a p : List Char} {c : Char} {x : Token × List Char}
    (hs : skipBlanks v (a ++ c :: p) = c :: p) (hread : readToken v c p = .ok x) :
    Settles v (a ++ c :: p) := by
  refine Settles.append_left (k := v) ⟨?_, fun m' hm' => ?_⟩ id hs
  · rw [skipBlanks_cons_of_eq_cons hs]
    nofun
  · obtain ⟨rfl, rfl⟩ := List.cons.inj hm'
    intro hblank
    obtain ⟨y, hy, -⟩ := bind_eq_ok.mp (show (readCount v p).text.bind _ = _ from hread)
    rw [readCount_text, afterBlanks, hblank] at hy
    cases hy

/-! ### Runs inside of something -/

namespace Draft

variable {d d' : Draft} {around : Surroundings}

theorem Fits.of_names {names : List (List Char × Nat)} (h : d'.Fits around)
    (hnames : d'.names = names ++ d.names) : d.Fits around :=
  fun x hx => h x (hnames ▸ List.mem_append_right names hx)

end Draft

/-- **A part of a pattern is read in the same way wherever it stands.** What is left of it in the
end are blanks, or the beginning of a comment, which are read with what follows. -/
theorem readAll_inside {d d' : Draft} {s : List Char} (h : readAll d s = .ok d') :
    ∃ w b, s = w ++ b ∧ skipBlanks d'.verbose b = [] ∧
      (w = [] ∧ d' = d ∨ Settles d.verbose w) ∧ (∃ names, d'.names = names ++ d.names) ∧
      ∀ around t, d'.Fits around → Ends d'.verbose t →
        readAll (d.inside around) (w ++ t) = readAll (d'.inside around) t := by
  induction h using readAll_induction with
  | blank s hs => exact ⟨[], s, rfl, hs, Or.inl ⟨rfl, rfl⟩, ⟨[], rfl⟩, fun around t _ _ => rfl⟩
  | token d d₁ s c r r' token hs hread htake hrest ih =>
    obtain ⟨p, u, k, rfl, hk, rfl, hp⟩ := takes_readToken hread
    obtain ⟨a, rfl, ha⟩ := skipBlanks_eq_cons hs
    have hmode (hk' : k = true) : d₁.verbose = true := by
      rw [Draft.verbose_take (hk hk').2 htake]
      exact (hk hk').1
    obtain ⟨w', b', hw, hb', hsettled, ⟨names, hnames⟩, hrun⟩ := ih
    obtain ⟨names₁, hnames₁⟩ := Draft.names_take htake
    have hgrow : ∃ names, d'.names = names ++ d.names :=
      ⟨names ++ names₁, by rw [hnames, hnames₁, List.append_assoc]⟩
    -- the token is taken, and the run goes on with what follows it
    have hstep (around : Surroundings) (t : List Char) (hfit : d'.Fits around)
        (ht : token.keepsMode = true → LooksAlike d.verbose u t) :
        readAll (d.inside around) (a ++ c :: (p ++ t)) = readAll (d₁.inside around) t := by
      rw [readAll_of_token (d := d.inside around) (ha (p ++ t)) (hp t ht)
        (Draft.take_inside htake (hfit.of_names hnames))]
      exact readAll_skipBlanks (d := d₁.inside around) hmode t
    have hfirst : Settles d.verbose (a ++ c :: p) :=
      settles_token (ha p) (by simpa using hp [] fun _ => looksAlike_nil u)
    rcases hsettled with ⟨rfl, rfl⟩ | hsettled
    · -- nothing else was read
      refine ⟨a ++ c :: p, u, by simp, ?_, Or.inr ?_, hgrow, fun around t hfit ht => ?_⟩
      · rw [← skipBlanks_skipBlanks hmode, hw]
        exact hb'
      · exact hfirst
      · rw [List.append_assoc, List.cons_append]
        refine hstep around t hfit fun hkeeps => ?_
        rw [← Draft.verbose_take hkeeps htake]
        exact ht.looksAlike u
    · -- something else was read, which settles what the token looked at
      obtain ⟨e, w'', rfl⟩ := List.exists_cons_of_ne_nil hsettled.ne_nil
      obtain ⟨a', rfl, ha'⟩ := skipBlanks_eq_cons hw
      refine ⟨a ++ c :: (p ++ (a' ++ e :: w'')), b', by simp, hb', Or.inr ?_, hgrow,
        fun around t hfit ht => ?_⟩
      · rw [show a ++ c :: (p ++ (a' ++ e :: w'')) = (a ++ c :: p) ++ (a' ++ e :: w'') by simp]
        exact hfirst.append _
      · rw [show a ++ c :: (p ++ (a' ++ e :: w'')) ++ t =
          a ++ c :: (p ++ (a' ++ e :: (w'' ++ t))) by simp]
        rw [hstep around _ hfit fun hkeeps => ?_,
          ← readAll_skipBlanks (d := d₁.inside around) hmode, ha']
        · exact hrun around t hfit ht
        · rw [← Draft.verbose_take hkeeps htake]
          simpa using (hsettled.append_left hmode (ha' w'')).looksAlike b' t

end Verbal.Regular
