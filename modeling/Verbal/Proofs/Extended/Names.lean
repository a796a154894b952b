import Verbal.Proofs.Extended.Drafts

/-!
# References by name

Behind other groups a name stands for its group as before, and so a pattern that refers to groups by
name only is read there as it is on its own, but for the numbers.

* `NamesOnly`: whether nothing in a text refers to a group by a number.
* **`readAll_raised`**: what is read behind other groups.
* **`movesWithGroups_of_namesOnly`**: references by name move with the groups.
-/

namespace Verbal.Extended

open Verbal.Regular (Repetition)

/-! ## Texts -/

/-- Whether in a text no character of a kind stands behind any of the marks. -/
def NoneBehind (marks : List String) (p : Char → Bool) (s : List Char) : Prop :=
  ∀ mark ∈ marks, ∀ c, mark.toList ++ [c] <:+: s → p c = false

/-- Only characters of the text can stand there. -/
instance (marks : List String) (p : Char → Bool) (s : List Char) :
    Decidable (NoneBehind marks p s) :=
  have (mark : String) : Decidable (∀ c ∈ s, mark.toList ++ [c] <:+: s → p c = false) :=
    List.decidableBAll _ _
  decidable_of_iff (∀ mark ∈ marks, ∀ c ∈ s, mark.toList ++ [c] <:+: s → p c = false)
    ⟨fun h mark hmark c hc => h mark hmark c (hc.subset (by simp)) hc,
      fun h mark hmark c _ => h mark hmark c⟩

/-- Whether a character begins a number that may be relative. -/
def beginsNumber (c : Char) : Bool := c.isDigit || c == '-'

/-- Whether a text is empty or begins with something else than a number. -/
def Unnumbered (s : List Char) : Prop := ∀ c, s.head? = some c → beginsNumber c = false

/-- What begins a reference by number. -/
def numberMarks : List String := ["\\", "?("]

/-- What begins a reference by name, in place of which a number may stand. -/
def nameMarks : List String := ["\\k<", "\\k'", "?P=", "?(<", "?('"]

/-- Whether nothing in a text refers to a group by a number. -/
structure NamesOnly (s : List Char) : Prop where
  numbers : NoneBehind numberMarks Char.isDigit s
  names : NoneBehind nameMarks beginsNumber s

namespace NamesOnly

variable {s u : List Char} {c : Char}

instance (s : List Char) : Decidable (NamesOnly s) :=
  decidable_of_iff (NoneBehind numberMarks Char.isDigit s ∧ NoneBehind nameMarks beginsNumber s)
    ⟨fun h => ⟨h.1, h.2⟩, fun h => ⟨h.numbers, h.names⟩⟩

theorem of_suffix (h : NamesOnly s) (hu : u <:+ s) : NamesOnly u where
  numbers mark hmark c hc := h.numbers mark hmark c (hc.trans hu.isInfix)
  names mark hmark c hc := h.names mark hmark c (hc.trans hu.isInfix)

theorem isDigit (mark : String) (h : NamesOnly (mark.toList ++ u)) (hmark : mark ∈ numberMarks)
    (hc : u.head? = some c) : c.isDigit = false := by
  obtain ⟨v, rfl⟩ := List.head?_eq_some_iff.mp hc
  exact h.numbers mark hmark c ⟨[], v, by simp⟩

theorem unnumbered (mark : String) (h : NamesOnly (mark.toList ++ u))
    (hmark : mark ∈ nameMarks) : Unnumbered u := by
  intro c hc
  obtain ⟨v, rfl⟩ := List.head?_eq_some_iff.mp hc
  exact h.names mark hmark c ⟨[], v, by simp⟩

end NamesOnly

/-! ## References -/

/-- What references look at behind `n` other groups. -/
def Scope.shift (n : Nat) (scope : Scope) : Scope :=
  ⟨scope.groups + n, scope.names.map fun x => (x.1, x.2 + n), scope.byteLength⟩

/-- What an escape stands for behind `n` other groups. -/
def Escaped.shift (n : Nat) : Escaped → Escaped
  | backref index numbered => backref (raise n index) numbered
  | e => e

section References

variable {n i : Nat} {scope : Scope} {name s r : List Char}

theorem named?_shift (names : List (List Char × Nat)) (name : List Char) :
    named? (names.map fun x => (x.1, x.2 + n)) name = (named? names name).map (· + n) := by
  unfold named?
  rw [List.find?_map, Option.map_map, Option.map_map]
  rfl

theorem group?_shift (hnamed : ∀ x ∈ scope.names, 0 < x.2) (hname : Unnumbered name)
    (h : scope.group? name = some i) : (scope.shift n).group? name = some (raise n i) := by
  unfold Scope.group? at h ⊢
  rw [show (scope.shift n).names = scope.names.map fun x => (x.1, x.2 + n) from rfl, named?_shift]
  cases hindex : named? scope.names name with
  | some index =>
    rw [hindex] at h
    cases h
    obtain ⟨x, hx, rfl⟩ := Option.map_eq_some_iff.mp hindex
    rw [raise_of_pos (hnamed x (List.mem_of_find?_eq_some hx))]
    rfl
  | none =>
    -- what does not begin with a number is none
    rw [hindex] at h
    cases name with
    | nil => cases h
    | cons c name =>
      obtain ⟨hdigit, hminus⟩ : c.isDigit = false ∧ c ≠ '-' := by
        simpa [beginsNumber] using hname c rfl
      have hdecimal : decimal? (c :: name) = none := by simp [decimal?, hdigit]
      dsimp only at h
      split at h
      · rename_i heq
        exact absurd (List.cons.inj heq).1 hminus
      · rw [hdecimal] at h
        cases h

theorem readNamed_shift {relative : Bool} {close : Char}
    (hnamed : ∀ x ∈ scope.names, 0 < x.2) (hs : Unnumbered s)
    (h : (readNamed scope relative close s).text = .ok (i, r)) :
    (readNamed (scope.shift n) relative close s).text = .ok (raise n i, r) := by
  obtain ⟨name, hname, hindex⟩ := readNamed_eq_ok.mp h
  refine readNamed_eq_ok.mpr ⟨name, hname, group?_shift hnamed ?_ hindex⟩
  obtain ⟨-, hne, rfl⟩ := readName_eq_ok.mp hname
  obtain ⟨c, name, rfl⟩ := List.exists_cons_of_ne_nil hne
  exact hs

theorem readQuoted_shift (hnamed : ∀ x ∈ scope.names, 0 < x.2)
    (hs : ∀ c u, s = c :: u → c = '<' ∨ c = '\'' → Unnumbered u)
    (h : (readQuoted scope s).text = .ok (i, r)) :
    (readQuoted (scope.shift n) s).text = .ok (raise n i, r) := by
  unfold readQuoted at h
  split at h
  · rw [Reading.text_within] at h
    rw [readQuoted, Reading.text_within]
    exact readNamed_shift hnamed (hs _ _ rfl (Or.inl rfl)) h
  · rw [Reading.text_within] at h
    rw [readQuoted, Reading.text_within]
    exact readNamed_shift hnamed (hs _ _ rfl (Or.inr rfl)) h
  · cases h

/-- An escape of one character refers to no group. -/
theorem Escaped.shift_ofChar {inClass : Bool} {c : Char} {e : Escaped}
    (h : Escaped.ofChar inClass c = .ok e) : e.shift n = e := by
  have houtside (h : Escaped.outside? c = some e) : e.shift n = e := by
    unfold Escaped.outside? at h
    split at h <;> cases h <;> rfl
  have hanywhere (h : Escaped.anywhere? c = some e) : e.shift n = e := by
    unfold Escaped.anywhere? at h
    split at h
    · cases h
      rfl
    · split at h <;> cases h <;> rfl
  unfold Escaped.ofChar at h
  split at h
  · rename_i e' he
    cases h
    rcases Option.or_eq_some_iff.mp he with he | ⟨-, he⟩
    · split at he
      · cases he
      · exact houtside he
    · exact hanywhere he
  · unfold Escaped.ofOther at h
    split_ifs at h <;> cases h <;> rfl

theorem readEscape_shift {inClass : Bool} {e : Escaped} (hnamed : ∀ x ∈ scope.names, 0 < x.2)
    (hs : NamesOnly ('\\' :: s)) (h : (readEscape scope inClass s).text = .ok (e, r)) :
    (readEscape (scope.shift n) inClass s).text = .ok (e.shift n, r) := by
  cases s with
  | nil => cases h
  | cons c s =>
    have hdigit : c.isDigit = false := NamesOnly.isDigit "\\" hs (by decide) rfl
    have hsame {α : Type} {x : Except Fault α} {f : α → Escaped × List Char}
        (hf : ∀ z, (f z).1.shift n = (f z).1) (h : x.map f = .ok (e, r)) :
        x.map f = .ok (e.shift n, r) := by
      obtain ⟨z, hz, heq⟩ := map_eq_ok.mp h
      refine map_eq_ok.mpr ⟨z, hz, ?_⟩
      rw [show e = (f z).1 by rw [heq], hf, heq]
    replace h := readEscape_eq_ok.mp h
    refine readEscape_eq_ok.mpr ?_
    unfold escapeText at h ⊢
    dsimp only at h ⊢
    split_ifs at h ⊢ with hc hk
    · rw [hdigit] at hc
      cases hc
    · obtain ⟨⟨index, u⟩, hindex, heq⟩ := map_eq_ok.mp h
      cases heq
      obtain ⟨-, rfl⟩ : inClass = false ∧ c = 'k' := by simpa using hk
      refine map_eq_ok.mpr ⟨_, readQuoted_shift hnamed ?_ hindex, rfl⟩
      rintro d u rfl (rfl | rfl)
      · exact NamesOnly.unnumbered "\\k<" hs (by decide)
      · exact NamesOnly.unnumbered "\\k'" hs (by decide)
    · exact hsame (fun _ => rfl) h
    · exact hsame (fun _ => rfl) h
    · exact hsame (fun _ => rfl) h
    · exact hsame (fun _ => rfl) h
    · obtain ⟨e, he, heq⟩ := map_eq_ok.mp h
      cases heq
      exact map_eq_ok.mpr ⟨e, he, by rw [Escaped.shift_ofChar he]⟩

theorem Escaped.classText_shift (e : Escaped) : (e.shift n).classText = e.classText := by
  cases e <;> rfl

theorem readBrackets_shift {depth : Nat} {text a : List Char}
    (hnamed : ∀ x ∈ scope.names, 0 < x.2) (hs : NamesOnly s)
    (h : (readBrackets scope depth text s).text = .ok (a, r)) :
    (readBrackets (scope.shift n) depth text s).text = .ok (a, r) := by
  induction hlength : s.length using Nat.strongRecOn generalizing depth text s with
  | ind m ih =>
    cases s with
    | nil =>
      rw [readBrackets] at h
      cases h
    | cons c s =>
      have hlt : s.length < m := by
        rw [← hlength]
        exact Nat.lt_succ_self _
      have hrest := hs.of_suffix (List.suffix_cons c s)
      rw [readBrackets_cons] at h ⊢
      split_ifs at h ⊢ with hc
      · subst hc
        obtain ⟨⟨e, u⟩, he, h⟩ := bind_eq_ok.mp h
        obtain ⟨w, hw, h⟩ := bind_eq_ok.mp h
        have hu : u.length < m := Nat.lt_of_le_of_lt (Reading.length_le_of_text he) hlt
        refine bind_eq_ok.mpr ⟨_, readEscape_shift hnamed hs he, bind_eq_ok.mpr ⟨w, ?_, ?_⟩⟩
        · exact (Escaped.classText_shift e).trans hw
        · exact ih _ hu (hrest.of_suffix (suffix_of_readEscape he)) h rfl
      · exact ih _ hlt hrest h rfl
      · exact h
      · exact ih _ hlt hrest h rfl
      · exact ih _ hlt hrest h rfl

theorem readClass_shift {a : List Char} (hnamed : ∀ x ∈ scope.names, 0 < x.2)
    (hs : NamesOnly s) (h : (readClass scope s).text = .ok (a, r)) :
    (readClass (scope.shift n) s).text = .ok (a, r) := by
  rw [readClass_text] at h ⊢
  obtain ⟨x, hx, heq⟩ := map_eq_ok.mp h
  exact map_eq_ok.mpr ⟨x, readBrackets_shift hnamed (hs.of_suffix (List.drop_suffix _ s)) hx, heq⟩

end References

/-! ## Trees -/

namespace Tree

variable (n : Nat) (t : Tree)

theorem isRepeatable_shift : (t.shift n).isRepeatable = t.isRepeatable := by cases t <;> rfl

theorem enclosed_shift : (t.shift n).enclosed = t.enclosed.shift n := by cases t <;> rfl

theorem bare_shift : (t.shift n).bare = t.bare.shift n := by cases t <;> rfl

theorem asCondition_shift : (t.shift n).asCondition = t.asCondition.shift n := by cases t <;> rfl

theorem shift_eq_empty : t.shift n = empty ↔ t = empty := by cases t <;> simp [shift]

theorem conditionalOf_shift (condition body : Tree) :
    conditionalOf (condition.shift n) (body.shift n) = (conditionalOf condition body).shift n := by
  have hof (yes no : Tree) :
      (if yes.shift n = empty ∧ no.shift n = empty then (condition.shift n).enclosed
        else conditional (condition.shift n) (yes.shift n) (no.shift n)) =
      (if yes = empty ∧ no = empty then condition.enclosed
        else conditional condition yes no).shift n := by
    simp only [shift_eq_empty]
    split
    · exact enclosed_shift n condition
    · rfl
  unfold conditionalOf
  rw [bare_shift]
  generalize body.bare = t
  cases t with
  | alternate yes no => exact hof yes no
  | _ => exact hof _ empty

end Tree

/-! ## Drafts -/

/-- Whether a draft is another one behind `n` groups, and names stand for groups. -/
structure Raised (n : Nat) (d e : Draft) : Prop where
  eq : e = d.shift n
  named : ∀ x ∈ d.scope.names, 0 < x.2

namespace Raised

variable {n : Nat} {d e : Draft}

theorem start (n : Nat) (pattern : List Char) :
    Raised n (.start pattern) ((Draft.start pattern).shift n) :=
  ⟨rfl, List.forall_mem_nil _⟩

theorem flags (h : Raised n d e) : e.flags = d.flags := by rw [h.eq]; rfl

theorem scope (h : Raised n d e) : e.scope = d.scope.shift n := by rw [h.eq]; rfl

theorem pending (h : Raised n d e) : e.pending = d.pending.map (.shift n) := by rw [h.eq]; rfl

theorem checkEnd (h : Raised n d e) : e.checkEnd = d.checkEnd := by
  rw [h.eq, Draft.checkEnd_shift]

theorem body (h : Raised n d e) : e.body = d.body.shift n := by rw [h.eq, Draft.body_shift]

theorem flush (h : Raised n d e) : Raised n d.flush e.flush := by
  refine ⟨by rw [h.eq, Draft.flush_shift], ?_⟩
  rw [Draft.flush_eq]
  exact h.named

theorem push (h : Raised n d e) (t : Tree) : Raised n (d.push t) (e.push (t.shift n)) := by
  obtain ⟨hflush, hnamed⟩ := h.flush
  refine ⟨?_, hnamed⟩
  unfold Draft.push
  rw [hflush]
  rfl

theorem branch (h : Raised n d e) : Raised n d.branch e.branch := by
  obtain ⟨hflush, hnamed⟩ := h.flush
  refine ⟨?_, hnamed⟩
  unfold Draft.branch
  rw [hflush]
  simp [Draft.shift, Tree.shift_ofItems]

theorem openLevel (h : Raised n d e) (kind : LevelKind) :
    Raised n (d.openLevel kind) (e.openLevel (kind.shift n)) := by
  obtain ⟨hflush, hnamed⟩ := h.flush
  refine ⟨?_, hnamed⟩
  unfold Draft.openLevel
  rw [hflush]
  rfl

theorem openCapture (h : Raised n d e) : Raised n d.openCapture e.openCapture := by
  have hgroups : e.scope.groups + 1 = d.scope.groups + 1 + n := by
    rw [h.scope]
    exact Nat.add_right_comm _ _ _
  have hlevel : e.openLevel (.capture (d.scope.groups + 1 + n)) = _ :=
    (h.openLevel (.capture (d.scope.groups + 1))).eq
  refine ⟨?_, h.named⟩
  unfold Draft.openCapture
  dsimp only
  rw [hgroups, hlevel, h.scope]
  rfl

theorem openNamed (h : Raised n d e) (name : List Char) :
    Raised n (d.openNamed name) (e.openNamed name) := by
  obtain ⟨hcapture, hnamed⟩ := h.openCapture
  refine ⟨?_, List.forall_mem_cons.mpr ⟨Nat.succ_pos _, hnamed⟩⟩
  unfold Draft.openNamed
  rw [hcapture]
  rfl

theorem refer (h : Raised n d e) (index : Nat) (numbered : Bool) :
    Raised n (d.refer index numbered) (e.refer (raise n index) numbered) := by
  refine ⟨?_, h.named⟩
  have hunopened : d.scope.groups + n < raise n index ↔ d.scope.groups < index := by
    unfold raise
    split <;> omega
  obtain ⟨rfl, -⟩ := h
  simp only [Draft.refer, Draft.shift, hunopened, List.map_cons]

theorem setFlags (h : Raised n d e) (flags : Flags) :
    Raised n { d with flags := flags } { e with flags := flags } := by
  obtain ⟨rfl, hnamed⟩ := h
  exact ⟨rfl, hnamed⟩

theorem pushEscaped (h : Raised n d e) (x : Escaped) :
    Raised n (d.pushEscaped x) (e.pushEscaped (x.shift n)) := by
  have hflags := h.flags
  cases x with
  | letter c folds =>
    unfold Draft.pushEscaped Escaped.shift
    rw [hflags]
    exact h.push (.literal c _)
  | fragment text folds =>
    unfold Draft.pushEscaped Escaped.shift
    rw [hflags]
    exact h.push (.fragment text _)
  | assertion look => exact h.push (.assertion look)
  | backref index numbered => exact (h.refer index numbered).push (.backref index)
  | keepOut => exact h.push .keepOut
  | contiguous => exact h.push .contiguous

/-- Adds an item behind those that no repetition can follow. -/
theorem addItem (h : Raised n d e) (t : Tree) :
    Raised n { d with items := t :: d.items, pending := none }
      { e with items := t.shift n :: e.items, pending := none } := by
  obtain ⟨rfl, hnamed⟩ := h
  exact ⟨rfl, hnamed⟩

theorem leave (h : Raised n d e) (level : Level) (levels : List Level) :
    Raised n (d.leave level levels) (e.leave (level.shift n) (levels.map (.shift n))) := by
  obtain ⟨rfl, hnamed⟩ := h
  exact ⟨rfl, hnamed⟩

end Raised

/-! ## Steps -/

section Steps

variable {n : Nat} {d d' e : Draft} {s r : List Char}

theorem repeatedItem_raised (h : Raised n d e) (count : Repetition) (item : Tree) (s : List Char) :
    repeatedItem e count (item.shift n) s =
      ((repeatedItem d count item s).1.shift n, (repeatedItem d count item s).2) := by
  unfold repeatedItem
  dsimp only
  rw [h.flags]
  split <;> rfl

theorem readRepeated_raised {count : Repetition} (h : (readRepeated d count s).text = .ok (d', r))
    (he : Raised n d e) :
    ∃ e', Raised n d' e' ∧ (readRepeated e count s).text = .ok (e', r) := by
  rw [readRepeated_text] at h ⊢
  rw [he.pending]
  cases hpending : d.pending with
  | none =>
    rw [hpending] at h
    cases h
  | some item =>
    rw [hpending] at h
    dsimp only [Option.map_some] at h ⊢
    rw [Tree.isRepeatable_shift]
    split_ifs at h ⊢
    obtain ⟨u, hu, heq⟩ := map_eq_ok.mp h
    cases heq
    refine ⟨_, he.addItem (repeatedItem d count item u).1, map_eq_ok.mpr ⟨u, ?_, ?_⟩⟩
    · rw [he.flags]
      exact hu
    · rw [repeatedItem_raised he]

theorem conditionalText_raised {condition : Tree}
    (h : conditionalText d condition s = .ok (d', r)) (he : Raised n d e) :
    ∃ e', Raised n d' e' ∧ conditionalText e (condition.shift n) s = .ok (e', r) := by
  rcases conditionalText_eq_ok.mp h with ⟨index, rfl, rfl, hend, rfl⟩ | ⟨c, u, hc, rfl, rfl, rfl⟩
  · rw [← he.checkEnd] at hend
    exact ⟨_, he.push (.groupTest index),
      conditionalText_eq_ok.mpr (Or.inl ⟨_, rfl, rfl, hend, rfl⟩)⟩
  · exact ⟨_, he.openLevel (.branches condition),
      conditionalText_eq_ok.mpr (Or.inr ⟨c, u, hc, rfl, rfl, rfl⟩)⟩

theorem referenceText_raised {numbered : Bool} {index : Nat}
    (h : referenceText d numbered (index, s) = .ok (d', r)) (he : Raised n d e) :
    ∃ e', Raised n d' e' ∧ referenceText e numbered (raise n index, s) = .ok (e', r) := by
  obtain ⟨u, rfl, hu⟩ := referenceText_eq_ok.mp h
  exact conditionalText_raised hu (he.refer index numbered)

theorem readConditional_raised (h : (readConditional d s).text = .ok (d', r))
    (hs : NamesOnly ("?(".toList ++ s)) (he : Raised n d e) :
    ∃ e', Raised n d' e' ∧ (readConditional e s).text = .ok (e', r) := by
  rw [readConditional_text] at h ⊢
  cases s with
  | nil => cases h
  | cons c s =>
    have hdigit : c.isDigit = false := NamesOnly.isDigit "?(" hs (by decide) rfl
    dsimp only [List.head?_cons] at h ⊢
    split_ifs at h ⊢ with hc hquote
    · rw [hdigit] at hc
      cases hc
    · obtain ⟨⟨index, u⟩, hindex, h⟩ := bind_eq_ok.mp h
      obtain ⟨e', he', hread⟩ := referenceText_raised h he
      refine ⟨e', he', bind_eq_ok.mpr ⟨_, ?_, hread⟩⟩
      rw [he.scope]
      refine readQuoted_shift he.named ?_ hindex
      rintro _ u ⟨⟩ (rfl | rfl)
      · exact NamesOnly.unnumbered "?(<" hs (by decide)
      · exact NamesOnly.unnumbered "?('" hs (by decide)
    · cases h
      exact ⟨_, he.openLevel .condition, rfl⟩

theorem shift_of_opening {kind : LevelKind} (h : (opening s).1 = .level kind) :
    kind.shift n = kind := by
  unfold opening at h
  split at h <;> first | (cases h; rfl) | cases h

theorem of_opening_reference (h : (opening s).1 = .reference) :
    s = "?P=".toList ++ s.drop (opening s).2 := by
  unfold opening at h ⊢
  split at h <;> first | rfl | cases h

theorem of_opening_conditional (h : (opening s).1 = .conditional) :
    s = "?(".toList ++ s.drop (opening s).2 := by
  unfold opening at h ⊢
  split at h <;> first | rfl | cases h

theorem groupText_raised (h : groupText d s = .ok (d', r)) (hs : NamesOnly s)
    (he : Raised n d e) : ∃ e', Raised n d' e' ∧ groupText e s = .ok (e', r) := by
  unfold groupText at h ⊢
  dsimp only at h ⊢
  cases hopening : (opening s).1 with
  | level kind =>
    rw [hopening] at h
    cases h
    have hlevel := he.openLevel kind
    rw [shift_of_opening hopening] at hlevel
    exact ⟨_, hlevel, rfl⟩
  | named =>
    rw [hopening] at h
    obtain ⟨⟨name, u⟩, hname, heq⟩ := map_eq_ok.mp h
    cases heq
    exact ⟨_, he.openNamed name, map_eq_ok.mpr ⟨_, hname, rfl⟩⟩
  | reference =>
    rw [hopening] at h
    obtain ⟨⟨index, u⟩, hindex, heq⟩ := map_eq_ok.mp h
    cases heq
    have hunnumbered : Unnumbered (s.drop (opening s).2) := by
      rw [of_opening_reference hopening] at hs
      exact NamesOnly.unnumbered "?P=" hs (by decide)
    refine ⟨_, (he.refer index false).push (.backref index),
      map_eq_ok.mpr ⟨(raise n index, u), ?_, rfl⟩⟩
    rw [he.scope]
    exact readNamed_shift he.named hunnumbered hindex
  | conditional =>
    rw [hopening] at h
    rw [of_opening_conditional hopening] at hs
    exact readConditional_raised h hs he
  | flags =>
    rw [hopening] at h
    obtain ⟨⟨⟨flags, opens⟩, u⟩, hflags, heq⟩ := map_eq_ok.mp h
    cases heq
    dsimp only
    rw [he.flags]
    cases opens with
    | true =>
      exact ⟨_, (he.openLevel (.plain d.flags)).setFlags flags, map_eq_ok.mpr ⟨_, hflags, rfl⟩⟩
    | false =>
      exact ⟨_, (he.push .empty).setFlags flags, map_eq_ok.mpr ⟨_, hflags, rfl⟩⟩
  | capture =>
    rw [hopening] at h
    cases h
    exact ⟨_, he.openCapture, rfl⟩

theorem closedText_raised {body : Tree} {kind : LevelKind}
    (h : closedText d body s kind = .ok (d', r)) (he : Raised n d e) :
    ∃ e', Raised n d' e' ∧ closedText e (body.shift n) s (kind.shift n) = .ok (e', r) := by
  cases kind with
  | capture index =>
    cases h
    exact ⟨_, he.push (.group index body), rfl⟩
  | plain flags =>
    cases h
    have hpush := (he.push body.enclosed).setFlags flags
    rw [← Tree.enclosed_shift] at hpush
    exact ⟨_, hpush, rfl⟩
  | look direction negated =>
    cases h
    have hpush := he.push (.look direction negated body.bare)
    rw [Tree.shift, ← Tree.bare_shift] at hpush
    exact ⟨_, hpush, rfl⟩
  | atomic =>
    cases h
    exact ⟨_, he.push (.atomic body), rfl⟩
  | condition =>
    have hcondition := conditionalText_raised h he
    rwa [← Tree.asCondition_shift] at hcondition
  | branches condition =>
    cases h
    have hpush := he.push (.conditionalOf condition body)
    rw [← Tree.conditionalOf_shift] at hpush
    exact ⟨_, hpush, rfl⟩

theorem closeGroup_raised (h : (closeGroup d s).text = .ok (d', r)) (he : Raised n d e) :
    ∃ e', Raised n d' e' ∧ (closeGroup e s).text = .ok (e', r) := by
  rw [closeGroup_text] at h ⊢
  obtain ⟨u, hu, h⟩ := bind_eq_ok.mp h
  have hlevels' : e.levels = d.levels.map (.shift n) := by
    rw [he.eq]
    rfl
  rw [he.checkEnd, hlevels', he.body]
  cases hlevels : d.levels with
  | nil =>
    rw [hlevels] at h
    cases h
  | cons level levels =>
    rw [hlevels] at h
    obtain ⟨e', he', hread⟩ := closedText_raised h (he.leave level levels)
    exact ⟨e', he', bind_eq_ok.mpr ⟨u, hu, hread⟩⟩

theorem braceText_raised (h : braceText d s = .ok (d', r)) (he : Raised n d e) :
    ∃ e', Raised n d' e' ∧ braceText e s = .ok (e', r) := by
  unfold braceText at h ⊢
  rw [he.pending, Option.isNone_map, he.flags]
  split at h
  · rename_i hpending
    cases h
    rw [if_pos hpending]
    exact ⟨_, he.push (.literal '\x7b' d.flags.anyCase), rfl⟩
  · rename_i hpending
    rw [if_neg hpending]
    split at h
    · exact readRepeated_raised h he
    · cases h
      exact ⟨_, he.push (.literal '\x7b' d.flags.anyCase), rfl⟩

theorem readGroup_raised (h : (readGroup d s).text = .ok (d', r)) (hs : NamesOnly s)
    (he : Raised n d e) : ∃ e', Raised n d' e' ∧ (readGroup e s).text = .ok (e', r) := by
  have hlevels : e.levels.length = d.levels.length := by
    rw [he.eq]
    exact List.length_map _
  rw [readGroup_text] at h ⊢
  rw [hlevels, he.flags]
  split_ifs at h ⊢
  obtain ⟨u, hu, h⟩ := bind_eq_ok.mp h
  obtain ⟨e', he', hread⟩ := groupText_raised h (hs.of_suffix (suffix_of_skip hu)) he
  exact ⟨e', he', bind_eq_ok.mpr ⟨u, hu, hread⟩⟩

theorem shift_item (n : Nat) (flags : Flags) (c : Char) :
    (flags.item c).shift n = flags.item c := by
  unfold Flags.item
  split <;> rfl

/-- **Every step is the same behind other groups.** -/
theorem readStep_raised {c : Char} (h : (readStep d c s).text = .ok (d', r))
    (hs : NamesOnly (c :: s)) (he : Raised n d e) :
    ∃ e', Raised n d' e' ∧ (readStep e c s).text = .ok (e', r) := by
  have hrest := hs.of_suffix (List.suffix_cons c s)
  rw [readStep_text] at h ⊢
  cases hrole : Role.ofChar c with rw [hrole] at h
  | repeats count => exact readRepeated_raised h he
  | opening => exact readGroup_raised h hrest he
  | closing => exact closeGroup_raised h he
  | bar =>
    cases h
    exact ⟨_, he.branch, rfl⟩
  | bracket =>
    obtain ⟨⟨text, u⟩, htext, heq⟩ := map_eq_ok.mp h
    cases heq
    refine ⟨_, he.push (.fragment text d.flags.anyCase), ?_⟩
    rw [stepText, he.scope, he.flags]
    exact map_eq_ok.mpr ⟨_, readClass_shift he.named hrest htext, rfl⟩
  | escape =>
    obtain ⟨⟨x, u⟩, hx, heq⟩ := map_eq_ok.mp h
    cases heq
    refine ⟨_, he.pushEscaped x, ?_⟩
    rw [stepText, he.scope]
    -- a reference by number would begin with the backslash
    rw [eq_of_role_escape hrole] at hs
    exact map_eq_ok.mpr ⟨_, readEscape_shift he.named hs hx, rfl⟩
  | brace => exact braceText_raised h he
  | item =>
    cases h
    refine ⟨_, he.push (d.flags.item c), ?_⟩
    rw [stepText, he.flags, shift_item]

end Steps

/-! ## Runs -/

/-- **What is read behind other groups** is the same but for the numbers. -/
theorem readAll_raised {n : Nat} {d d' e : Draft} {s : List Char} (h : readAll d s = .ok d')
    (hs : NamesOnly s) (he : Raised n d e) :
    ∃ e', Raised n d' e' ∧ readAll e s = .ok e' := by
  induction h using readAll_induction generalizing e with
  | gaps s hblank =>
    rw [← he.flags] at hblank
    exact ⟨e, he, (readAll_of_skip hblank).trans (readAll_nil e)⟩
  | step d d₁ s c u r hu hstep _ ih =>
    have hus := suffix_of_skip hu
    obtain ⟨e₁, he₁, hstep'⟩ := readStep_raised hstep (hs.of_suffix hus) he
    have hrs := ((readStep_suffix hstep).trans (List.suffix_cons c u)).trans hus
    obtain ⟨e', he', hread⟩ := ih (hs.of_suffix hrs) he₁
    rw [← he.flags] at hu
    exact ⟨e', he', (readAll_of_step hu hstep').trans hread⟩

/-- **References by name move with the groups.** -/
theorem movesWithGroups_of_namesOnly {pattern : List Char} (h : NamesOnly pattern) :
    MovesWithGroups pattern := by
  intro d hd
  obtain ⟨e, he, hread⟩ := readAll_raised hd h (.start 1 pattern)
  rw [hread, he.eq]

/-- A reference may be relative. -/
example : ¬NamesOnly "(?<n>a|b)\\k<-1>".toList := by decide

end Verbal.Extended
