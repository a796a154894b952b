import Verbal.Proofs.Extended.Runs

/-!
# What may stand behind a pattern

A pattern that is read to its end is read in the same way with more text behind it, if that text
begins with nothing by which the last item could go on. Only blanks and comments at the end of the
pattern are read together with what follows.

* `Benign`: the texts that may stand behind.
* **`skip_append`**: what is left behind gaps, with more text behind it.
* `readEscape_append`, `readClass_append`, `readFlags_append`: the pieces of a pattern.
-/

namespace Verbal.Extended

/-! ## Texts that may stand behind -/

/-- A text that is empty or begins with what closes a group, ends a branch or asserts an end. -/
structure Ending (t : List Char) : Prop where
  head : ∀ c, t.head? = some c → c ∈ [')', '|', '$']
  newline : '\n' ∉ t

/-- A text that may stand behind a pattern: an ending, on the same line or on the next one. -/
def Benign (t : List Char) : Prop := Ending t ∨ ∃ t', t = '\n' :: t' ∧ Ending t'

theorem ending_nil : Ending [] := ⟨nofun, List.not_mem_nil⟩

theorem benign_nil : Benign [] := Or.inl ending_nil

theorem Benign.head_ne {t : List Char} (h : Benign t) {c : Char} (hc : c ∉ [')', '|', '$', '\n']) :
    t.head? ≠ some c := by
  intro hhead
  rcases h with h | ⟨t', rfl, -⟩
  · have := h.head c hhead
    simp_all
  · simp only [List.head?_cons, Option.some.injEq] at hhead
    simp [← hhead] at hc

/-- No character of a kind stands first in a text that may stand behind. -/
theorem Benign.head_mem {t : List Char} (h : Benign t) {c : Char} (hc : t.head? = some c) :
    c ∈ [')', '|', '$', '\n'] := by
  by_contra hmem
  exact h.head_ne hmem hc

theorem Benign.head?_any {t : List Char} (h : Benign t) {p : Char → Bool}
    (hp : ∀ c ∈ [')', '|', '$', '\n'], p c = false) : t.head?.any p = false := by
  cases ht : t.head? with
  | none => rfl
  | some c =>
    by_cases hc : c ∈ [')', '|', '$', '\n']
    · exact hp c hc
    · exact absurd ht (h.head_ne hc)

theorem Benign.head?_any_isDigit {t : List Char} (h : Benign t) :
    t.head?.any Char.isDigit = false := by
  refine h.head?_any fun c hc => ?_
  simp only [List.mem_cons, List.not_mem_nil, or_false] at hc
  rcases hc with rfl | rfl | rfl | rfl <;> rfl

section Lists

variable {p : Char → Bool} {s t : List Char}

/-- What is taken of a text ends where a text of other characters begins. -/
theorem takeWhile_append_of_head? (h : t.head?.any p = false) :
    (s ++ t).takeWhile p = s.takeWhile p := by
  have ht : t.takeWhile p = [] := by
    cases t with
    | nil => rfl
    | cons c t => simpa using h
  rw [List.takeWhile_append, ht, List.append_nil]
  split
  · rename_i hlength
    exact ((List.takeWhile_prefix p).eq_of_length hlength).symm
  · rfl

theorem dropWhile_append_of_head? (h : t.head?.any p = false) :
    (s ++ t).dropWhile p = s.dropWhile p ++ t := by
  have ht : t.dropWhile p = t := by
    cases t with
    | nil => rfl
    | cons c t => simpa using h
  rw [List.dropWhile_append, ht]
  split
  · rename_i hnil
    rw [List.isEmpty_iff.mp hnil, List.nil_append]
  · rfl

theorem dropWhile_append_of_ne (h : s.dropWhile p ≠ []) :
    (s ++ t).dropWhile p = s.dropWhile p ++ t := by
  rw [List.dropWhile_append, if_neg (by simpa using h)]

theorem takeWhile_append_of_dropWhile (h : s.dropWhile p ≠ []) :
    (s ++ t).takeWhile p = s.takeWhile p := by
  have hwhole : (s ++ t).takeWhile p ++ (s ++ t).dropWhile p =
      s.takeWhile p ++ (s ++ t).dropWhile p := by
    rw [List.takeWhile_append_dropWhile, dropWhile_append_of_ne h, ← List.append_assoc,
      List.takeWhile_append_dropWhile]
  exact List.append_cancel_right hwhole

end Lists

/-! ## Gaps -/

/-- Where a pattern can end among blanks and comments. -/
def Gap.Ends (g : Gap) : Prop := g = outside ∨ g = line

section Gaps

variable {v : Bool} {g : Gap} {s t r : List Char}

theorem isPrefixOf_append (h : ['(', '?', '#'].isPrefixOf s = false) (hs : s ≠ [])
    (ht : Benign t) : ['(', '?', '#'].isPrefixOf (s ++ t) = false := by
  have h1 := ht.head_ne (c := '?') (by decide)
  have h2 := ht.head_ne (c := '#') (by decide)
  match s with
  | [a] =>
    cases t with
    | nil => exact h
    | cons c t =>
      have hc : ('?' == c) = false := beq_eq_false_iff_ne.mpr fun hc => h1 (by simp [← hc])
      simp [List.isPrefixOf, hc]
  | [a, b] =>
    cases t with
    | nil => exact h
    | cons c t =>
      have hc : ('#' == c) = false := beq_eq_false_iff_ne.mpr fun hc => h2 (by simp [← hc])
      simp [List.isPrefixOf, hc]
  | a :: b :: c :: s => simpa [List.isPrefixOf] using h

theorem skip_append_of_ne_nil (h : g.skip v s = .ok r) (hr : r ≠ []) (ht : Benign t) :
    g.skip v (s ++ t) = .ok (r ++ t) := by
  fun_induction Gap.skip v g s with
  | case1 => cases h; exact absurd rfl hr
  | case2 => cases h; exact absurd rfl hr
  | case3 => cases h
  | case4 => cases h
  | case5 c s ih => simpa [Gap.skip] using ih h
  | case6 c s ih => simpa [Gap.skip] using ih h
  | case7 c s ih => simpa [Gap.skip] using ih h
  | case8 c s hc ih => simpa [Gap.skip, hc] using ih h
  | case9 c s hc hc' ih => simpa [Gap.skip, hc, hc'] using ih h
  | case10 c s hc hc' hp ih =>
    have hp' : ['(', '?', '#'].isPrefixOf (c :: (s ++ t)) = true := by
      rw [List.isPrefixOf_iff_prefix] at hp ⊢
      exact hp.trans (List.prefix_append (c :: s) t)
    rw [List.cons_append, Gap.skip, if_neg hc, if_neg hc', if_pos hp']
    exact ih h
  | case11 c s hc hc' hp =>
    cases h
    have hp' := isPrefixOf_append (Bool.eq_false_iff.mpr hp) hr ht
    rw [List.cons_append] at hp' ⊢
    rw [Gap.skip, if_neg hc, if_neg hc', if_neg (Bool.eq_false_iff.mp hp')]

theorem skip_append_of_nil (h : g.skip v s = .ok []) :
    ∃ g' : Gap, g'.Ends ∧ ∀ t, g.skip v (s ++ t) = g'.skip v t := by
  fun_induction Gap.skip v g s with
  | case1 => exact ⟨.outside, Or.inl rfl, fun t => rfl⟩
  | case2 => exact ⟨.line, Or.inr rfl, fun t => rfl⟩
  | case3 => cases h
  | case4 => cases h
  | case5 c s ih =>
    obtain ⟨g', hg', ih⟩ := ih h
    exact ⟨g', hg', fun t => by simpa [Gap.skip] using ih t⟩
  | case6 c s ih =>
    obtain ⟨g', hg', ih⟩ := ih h
    exact ⟨g', hg', fun t => by simpa [Gap.skip] using ih t⟩
  | case7 c s ih =>
    obtain ⟨g', hg', ih⟩ := ih h
    exact ⟨g', hg', fun t => by simpa [Gap.skip] using ih t⟩
  | case8 c s hc ih =>
    obtain ⟨g', hg', ih⟩ := ih h
    exact ⟨g', hg', fun t => by simpa [Gap.skip, hc] using ih t⟩
  | case9 c s hc hc' ih =>
    obtain ⟨g', hg', ih⟩ := ih h
    exact ⟨g', hg', fun t => by simpa [Gap.skip, hc, hc'] using ih t⟩
  | case10 c s hc hc' hp ih =>
    obtain ⟨g', hg', ih⟩ := ih h
    refine ⟨g', hg', fun t => ?_⟩
    have hp' : ['(', '?', '#'].isPrefixOf (c :: (s ++ t)) = true := by
      rw [List.isPrefixOf_iff_prefix] at hp ⊢
      exact hp.trans (List.prefix_append (c :: s) t)
    rw [List.cons_append, Gap.skip, if_neg hc, if_neg hc', if_pos hp']
    exact ih t
  | case11 => cases h

theorem skip_line (h : '\n' ∉ t) : Gap.line.skip v t = .ok [] := by
  induction t with
  | nil => rfl
  | cons c t ih =>
    have hc : c ≠ '\n' := fun hc => h (by simp [hc])
    rw [Gap.skip, if_neg hc]
    exact ih fun ht => h (List.mem_cons_of_mem c ht)

theorem skip_cons {c : Char} (hblank : isBlank c = false) (hc : c ∉ ['#', '(']) (s : List Char) :
    Gap.outside.skip v (c :: s) = .ok (c :: s) := by
  obtain ⟨hhash, hopen⟩ : c ≠ '#' ∧ c ≠ '(' := by simpa using hc
  have hprefix : ['(', '?', '#'].isPrefixOf (c :: s) = false := by
    rw [← Bool.not_eq_true, List.isPrefixOf_iff_prefix]
    exact fun ⟨_, hu⟩ => hopen (List.cons.inj hu).1.symm
  rw [Gap.skip, if_neg (by simp [hblank]), if_neg (by simp [hhash]), hprefix]
  simp

theorem Ending.skip (h : Ending t) : Gap.outside.skip v t = .ok t := by
  cases t with
  | nil => rfl
  | cons c t =>
    have hc := h.head c rfl
    simp only [List.mem_cons, List.not_mem_nil, or_false] at hc
    rcases hc with rfl | rfl | rfl <;> exact skip_cons (by decide) (by decide) t

/-- Behind a gap, a text that may stand behind is still one. -/
theorem Benign.skip (h : Benign t) (hg : g.Ends) : ∃ r, g.skip v t = .ok r ∧ Benign r := by
  rcases h with h | ⟨t', rfl, h⟩
  · rcases hg with rfl | rfl
    · exact ⟨t, h.skip, Or.inl h⟩
    · exact ⟨[], skip_line h.newline, benign_nil⟩
  · rcases hg with rfl | rfl
    · cases v
      · refine ⟨'\n' :: t', ?_, Or.inr ⟨t', rfl, h⟩⟩
        simp [Gap.skip]
      · exact ⟨t', by simpa [Gap.skip, isBlank] using h.skip, Or.inl h⟩
    · exact ⟨t', by simpa [Gap.skip] using h.skip, Or.inl h⟩

/-- **What is left behind gaps** is the same with more text behind it. If nothing is left, the gap
goes on in that text. -/
theorem skip_append (h : g.skip v s = .ok r) (ht : Benign t) :
    ∃ x, g.skip v (s ++ t) = .ok (r ++ x) ∧ Benign x ∧ (r ≠ [] → x = t) := by
  by_cases hr : r = []
  · subst hr
    obtain ⟨g', hg', happend⟩ := skip_append_of_nil h
    obtain ⟨x, hx, hbenign⟩ := ht.skip hg'
    exact ⟨x, (happend t).trans hx, hbenign, fun hr => absurd rfl hr⟩
  · exact ⟨t, skip_append_of_ne_nil h hr ht, ht, fun _ => rfl⟩

theorem skip_skip (h : g.skip v s = .ok r) : Gap.outside.skip v r = .ok r := by
  fun_induction Gap.skip v g s with
  | case1 => cases h; rfl
  | case2 => cases h; rfl
  | case3 => cases h
  | case4 => cases h
  | case5 c s ih => exact ih h
  | case6 c s ih => exact ih h
  | case7 c s ih => exact ih h
  | case8 c s hc ih => exact ih h
  | case9 c s hc hc' ih => exact ih h
  | case10 c s hc hc' hp ih => exact ih h
  | case11 c s hc hc' hp =>
    cases h
    rw [Gap.skip, if_neg hc, if_neg hc', if_neg hp]

end Gaps

/-! ## Names and numbers -/

section References

variable {s t r : List Char} {n : Nat}

theorem takeWhile_cons_congr {p : Char → Bool} {a : List Char} {c : Char}
    (h : (a ++ c :: r).takeWhile p = a) (u : List Char) : (a ++ c :: u).takeWhile p = a := by
  induction a with
  | nil =>
    simp only [List.nil_append, List.takeWhile_cons] at h ⊢
    split
    · rename_i hc
      rw [if_pos hc] at h
      cases h
    · rfl
  | cons b a ih =>
    simp only [List.cons_append, List.takeWhile_cons] at h ⊢
    split
    · rename_i hb
      rw [if_pos hb] at h
      rw [ih (List.cons.inj h).2]
    · rename_i hb
      rw [if_neg hb] at h
      cases h

theorem prefix_nameOf (relative : Bool) (s : List Char) : nameOf relative s <+: s := by
  unfold nameOf
  split
  · rename_i h
    obtain ⟨-, h⟩ := Bool.and_eq_true_iff.mp h
    cases s with
    | nil => cases h
    | cons c s =>
      obtain rfl : c = '-' := by simpa using h
      exact (List.prefix_cons_inj '-').mpr (List.takeWhile_prefix _)
  · exact List.takeWhile_prefix _

theorem nameOf_cons_congr {relative : Bool} {a : List Char} {c : Char} (ha : a ≠ [])
    (h : nameOf relative (a ++ c :: r) = a) (u : List Char) :
    nameOf relative (a ++ c :: u) = a := by
  obtain ⟨b, a, rfl⟩ := List.exists_cons_of_ne_nil ha
  unfold nameOf at h ⊢
  by_cases hb : (relative && some b == some '-') = true
  · rw [List.cons_append, List.head?_cons, if_pos hb, List.tail_cons] at h ⊢
    obtain ⟨rfl, hdigits⟩ := List.cons.inj h
    rw [takeWhile_cons_congr hdigits]
  · rw [List.cons_append, List.head?_cons, if_neg hb] at h ⊢
    exact takeWhile_cons_congr (a := b :: a) h u

theorem readName_eq_ok {relative : Bool} {close : Char} {a : List Char} :
    (readName relative close s).text = .ok (a, r) ↔
      nameOf relative s = a ∧ a ≠ [] ∧ s = a ++ close :: r := by
  have hsplit := List.prefix_iff_eq_append.mp (prefix_nameOf relative s)
  unfold readName
  dsimp only
  split
  · rename_i hempty
    refine ⟨nofun, ?_⟩
    rintro ⟨rfl, hne, -⟩
    exact absurd (List.isEmpty_iff.mp hempty) hne
  · rename_i hempty
    have hne : nameOf relative s ≠ [] := fun h => hempty (List.isEmpty_iff.mpr h)
    split
    · rename_i hdrop
      refine ⟨nofun, ?_⟩
      rintro ⟨rfl, -, hs⟩
      have hrest := List.append_cancel_left (hsplit.trans hs)
      rw [hdrop] at hrest
      cases hrest
    · rename_i c u hdrop
      have hrest (close : Char) (r : List Char) (hs : s = nameOf relative s ++ close :: r) :
          c :: u = close :: r := hdrop.symm.trans (List.append_cancel_left (hsplit.trans hs))
      split
      · rename_i hc
        subst hc
        simp only [Reading.text_ok, Except.ok.injEq, Prod.mk.injEq]
        constructor
        · rintro ⟨rfl, rfl⟩
          exact ⟨rfl, hne, by rw [← hdrop, hsplit]⟩
        · rintro ⟨rfl, -, hs⟩
          exact ⟨rfl, (List.cons.inj (hrest _ _ hs)).2⟩
      · rename_i hc
        refine ⟨nofun, ?_⟩
        rintro ⟨rfl, -, hs⟩
        exact absurd (List.cons.inj (hrest _ _ hs)).1 hc

theorem readName_append {relative : Bool} {close : Char} {a : List Char}
    (h : (readName relative close s).text = .ok (a, r)) (t : List Char) :
    (readName relative close (s ++ t)).text = .ok (a, r ++ t) := by
  obtain ⟨hname, hne, rfl⟩ := readName_eq_ok.mp h
  rw [List.append_assoc, List.cons_append]
  exact readName_eq_ok.mpr ⟨nameOf_cons_congr hne hname _, hne, rfl⟩

variable {scope : Scope}

theorem readNamed_text (scope : Scope) (relative : Bool) (close : Char) (s : List Char) :
    (readNamed scope relative close s).text =
      (readName relative close s).text.bind fun x =>
        match scope.group? x.1 with
        | some index => .ok (index, x.2)
        | none => .error (.nameUnknown x.1) := by
  unfold readNamed
  cases readName relative close s with
  | error e => rfl
  | ok x =>
    change Reading.text (match scope.group? x.1 with | some index => _ | none => _) =
      match scope.group? x.1 with | some index => _ | none => _
    cases scope.group? x.1 <;> rfl

theorem readNamed_eq_ok {relative : Bool} {close : Char} {i : Nat} :
    (readNamed scope relative close s).text = .ok (i, r) ↔
      ∃ name, (readName relative close s).text = .ok (name, r) ∧ scope.group? name = some i := by
  rw [readNamed_text, bind_eq_ok]
  constructor
  · rintro ⟨⟨name, rest⟩, hname, h⟩
    dsimp only at h
    split at h
    · rename_i index hindex
      cases h
      exact ⟨name, hname, hindex⟩
    · cases h
  · rintro ⟨name, hname, hindex⟩
    exact ⟨(name, r), hname, by simp only [hindex]⟩

theorem readNamed_append {relative : Bool} {close : Char} {i : Nat}
    (h : (readNamed scope relative close s).text = .ok (i, r)) (n : Nat) (t : List Char) :
    (readNamed { scope with byteLength := n } relative close (s ++ t)).text = .ok (i, r ++ t) := by
  obtain ⟨name, hname, hindex⟩ := readNamed_eq_ok.mp h
  exact readNamed_eq_ok.mpr ⟨name, readName_append hname t, hindex⟩

theorem readQuoted_append {i : Nat} (h : (readQuoted scope s).text = .ok (i, r)) (n : Nat)
    (t : List Char) :
    (readQuoted { scope with byteLength := n } (s ++ t)).text = .ok (i, r ++ t) := by
  unfold readQuoted at h
  split at h
  · rw [Reading.text_within] at h
    rw [List.cons_append, readQuoted, Reading.text_within]
    exact readNamed_append h n t
  · rw [Reading.text_within] at h
    rw [List.cons_append, readQuoted, Reading.text_within]
    exact readNamed_append h n t
  · cases h

theorem readNumber_eq_ok {i : Nat} :
    (readNumber scope s).text = .ok (i, r) ↔ decimal? (s.takeWhile Char.isDigit) = some i ∧
      i < scope.byteLength / 2 ∧ r = s.dropWhile Char.isDigit := by
  unfold readNumber
  cases decimal? (s.takeWhile Char.isDigit) with
  | none => simp
  | some m =>
    dsimp only
    split
    · rename_i hm
      simp only [Reading.text_ok, Except.ok.injEq, Prod.mk.injEq, Option.some.injEq]
      constructor
      · rintro ⟨rfl, rfl⟩
        exact ⟨rfl, hm, rfl⟩
      · rintro ⟨rfl, -, rfl⟩
        exact ⟨rfl, rfl⟩
    · rename_i hm
      refine ⟨nofun, ?_⟩
      rintro ⟨hi, hlt, -⟩
      cases hi
      exact absurd hlt hm

theorem readNumber_append {i : Nat} (h : (readNumber scope s).text = .ok (i, r)) {n : Nat}
    (hn : scope.byteLength ≤ n) {t : List Char} (ht : Benign t) :
    (readNumber { scope with byteLength := n } (s ++ t)).text = .ok (i, r ++ t) := by
  have hdigit := ht.head?_any_isDigit
  obtain ⟨hi, hlt, rfl⟩ := readNumber_eq_ok.mp h
  refine readNumber_eq_ok.mpr ⟨by rwa [takeWhile_append_of_head? hdigit], ?_,
    (dropWhile_append_of_head? hdigit).symm⟩
  exact Nat.lt_of_lt_of_le hlt (Nat.div_le_div_right hn)

end References

/-! ## Escapes -/

section Escapes

variable {α β : Type} {s t r : List Char}

theorem text_map (x : Reading α s) (f : α → β) :
    Reading.text (Except.map (fun z => (f z.1, z.2)) x) = x.text.map fun z => (f z.1, z.2) := by
  cases x <;> rfl

theorem text_map_within {s' : List Char} (h : s'.length ≤ s.length) (x : Reading α s')
    (f : α → β) : Reading.text (Except.map (fun z => (f z.1, z.2)) (x.within h)) =
      x.text.map fun z => (f z.1, z.2) := by
  rw [text_map, Reading.text_within]

/-- A value made of what was read, with more text behind it. -/
theorem map_append {x y : Except Fault (α × List Char)} (f : α → β) {b : β}
    (h : x.map (fun z => (f z.1, z.2)) = .ok (b, r))
    (hy : ∀ a, x = .ok (a, r) → y = .ok (a, r ++ t)) :
    y.map (fun z => (f z.1, z.2)) = .ok (b, r ++ t) := by
  obtain ⟨⟨a, r'⟩, hx, heq⟩ := map_eq_ok.mp h
  cases heq
  rw [hy a hx]
  rfl

theorem readHexBraced_of_cons {c : Char} {u : List Char}
    (h : s.dropWhile isHexDigit = c :: u) :
    (readHexBraced ('\x7b' :: s)).text =
      if c = '\x7d' ∧ s.takeWhile isHexDigit ≠ [] ∧ (s.takeWhile isHexDigit).length ≤ 8 then
        (charOfHex (s.takeWhile isHexDigit)).map fun d => (d, u)
      else .error .hexInvalid := by
  rw [readHexBraced]
  split
  · rename_i hnil
    rw [h] at hnil
    cases hnil
  · rename_i c' u' hcons
    rw [h] at hcons
    cases hcons
    split
    · exact Reading.text_map_value _ _
    · rfl

theorem readHexBraced_of_ne {c : Char} (h : c ≠ '\x7b') :
    readHexBraced (c :: s) = .error .hexInvalid :=
  readHexBraced.eq_2 _ fun _ heq => h (List.cons.inj heq).1

theorem dropWhile_of_readHexBraced {x : Char × List Char}
    (h : (readHexBraced ('\x7b' :: s)).text = .ok x) : s.dropWhile isHexDigit ≠ [] := by
  intro hnil
  rw [readHexBraced] at h
  split at h
  · cases h
  · rename_i hcons
    rw [hnil] at hcons
    cases hcons

theorem readHexBraced_append {c : Char} (h : (readHexBraced s).text = .ok (c, r))
    (t : List Char) : (readHexBraced (s ++ t)).text = .ok (c, r ++ t) := by
  cases s with
  | nil => cases h
  | cons e s =>
    by_cases he : e = '\x7b'
    · subst he
      have hne := dropWhile_of_readHexBraced h
      obtain ⟨d, u, hd⟩ := List.exists_cons_of_ne_nil hne
      have hd' : (s ++ t).dropWhile isHexDigit = d :: (u ++ t) := by
        rw [dropWhile_append_of_ne hne, hd, List.cons_append]
      rw [readHexBraced_of_cons hd] at h
      rw [List.cons_append, readHexBraced_of_cons hd', takeWhile_append_of_dropWhile hne]
      split at h
      · rename_i hif
        rw [if_pos hif]
        obtain ⟨x, hx, heq⟩ := map_eq_ok.mp h
        cases heq
        rw [hx]
        rfl
      · cases h
    · rw [readHexBraced_of_ne he] at h
      cases h

theorem readHex_text (count : Nat) (s : List Char) :
    (readHex count s).text =
      if (s.take count).length = count ∧ (s.take count).all isHexDigit then
        (charOfHex (s.take count)).map fun c => (c, s.drop count)
      else (readHexBraced s).text := by
  unfold readHex
  dsimp only
  split
  · exact Reading.text_map_value _ _
  · rfl

theorem readHex_append {count : Nat} (hcount : 0 < count) {c : Char}
    (h : (readHex count s).text = .ok (c, r)) (t : List Char) :
    (readHex count (s ++ t)).text = .ok (c, r ++ t) := by
  rw [readHex_text] at h ⊢
  split at h
  · rename_i hif
    have hlength : count ≤ s.length := by
      have := hif.1
      rw [List.length_take] at this
      omega
    rw [List.take_append_of_le_length hlength, if_pos hif, List.drop_append_of_le_length hlength]
    obtain ⟨x, hx, heq⟩ := map_eq_ok.mp h
    cases heq
    rw [hx]
    rfl
  · -- the digits are in braces
    cases s with
    | nil => cases h
    | cons e s =>
      by_cases he : e = '\x7b'
      · obtain ⟨count, rfl⟩ := Nat.exists_eq_succ_of_ne_zero (Nat.ne_of_gt hcount)
        have hdigit : isHexDigit '\x7b' = false := by decide
        rw [List.cons_append, List.take_succ_cons, List.all_cons, he, hdigit, if_neg (by simp)]
        rw [he] at h
        exact readHexBraced_append h t
      · rw [readHexBraced_of_ne he] at h
        cases h

theorem readProperty_of_cons {c : Char} {u : List Char}
    (h : s.dropWhile (· != '\x7d') = c :: u) :
    (readProperty ('\x7b' :: s)).text =
      .ok ('\x7b' :: s.takeWhile (· != '\x7d') ++ ['\x7d'], u) := by
  rw [readProperty]
  split
  · rename_i hnil
    rw [h] at hnil
    cases hnil
  · rename_i hcons
    rw [h] at hcons
    cases hcons
    rfl

theorem readProperty_of_ne {c : Char} (h : c ≠ '\x7b') :
    (readProperty (c :: s)).text = .ok ([c], s) := by
  rw [readProperty]
  · rfl
  · exact h

theorem readProperty_append {a : List Char} (h : (readProperty s).text = .ok (a, r))
    (t : List Char) : (readProperty (s ++ t)).text = .ok (a, r ++ t) := by
  cases s with
  | nil => cases h
  | cons e s =>
    by_cases he : e = '\x7b'
    · subst he
      cases hd : s.dropWhile (· != '\x7d') with
      | nil =>
        rw [readProperty] at h
        split at h
        · cases h
        · rename_i hcons
          rw [hd] at hcons
          cases hcons
      | cons d u =>
        have hne : s.dropWhile (· != '\x7d') ≠ [] := hd ▸ List.cons_ne_nil d u
        have hd' : (s ++ t).dropWhile (· != '\x7d') = d :: (u ++ t) := by
          rw [dropWhile_append_of_ne hne, hd, List.cons_append]
        rw [readProperty_of_cons hd] at h
        rw [List.cons_append, readProperty_of_cons hd', takeWhile_append_of_dropWhile hne]
        cases h
        rfl
    · rw [readProperty_of_ne he] at h
      cases h
      exact readProperty_of_ne he

/-- What an escape of one character stands for. -/
def Escaped.ofChar (inClass : Bool) (c : Char) : Except Fault Escaped :=
  match (if inClass then none else outside? c).or (anywhere? c) with
  | some e => .ok e
  | none => ofOther inClass c

/-- What an escape that begins with the given character is read as, and what follows it. -/
def escapeText (scope : Scope) (inClass : Bool) (c : Char) (s : List Char) :
    Except Fault (Escaped × List Char) :=
  let hex (count : Nat) := (readHex count s).text.map fun x => (Escaped.letter x.1 true, x.2)
  if c.isDigit then
    (readNumber scope (c :: s)).text.map fun x => (.backref x.1 true, x.2)
  else if !inClass && c = 'k' then
    (readQuoted scope s).text.map fun x => (.backref x.1 false, x.2)
  else if !inClass && (c = 'b' || c = 'B') && s.head? = some '\x7b' then .error (.escapeInvalid c)
  else if c = 'x' then hex 2
  else if c = 'u' then hex 4
  else if c = 'U' then hex 8
  else if c = 'p' || c = 'P' then
    (readProperty s).text.map fun x => (.fragment ('\\' :: c :: x.1) true, x.2)
  else (Escaped.ofChar inClass c).map fun e => (e, s)

theorem readEscape_eq_ok {scope : Scope} {inClass : Bool} {c : Char}
    {x : Escaped × List Char} :
    (readEscape scope inClass (c :: s)).text = .ok x ↔ escapeText scope inClass c s = .ok x := by
  have hproperty (hp : (c = 'p' || c = 'P') = true) :
      Escaped.ofChar inClass c = .error (.escapeInvalid c) := by
    simp only [Bool.or_eq_true, decide_eq_true_eq] at hp
    rcases hp with rfl | rfl <;> cases inClass <;> rfl
  have hchar (rest : Rest (c :: s)) :
      Reading.text (match (if inClass then none else Escaped.outside? c).or
          (Escaped.anywhere? c) with
        | some e => (.ok (e, rest) : Reading Escaped (c :: s))
        | none => (Escaped.ofOther inClass c).map fun e => (e, rest)) =
      (Escaped.ofChar inClass c).map fun e => (e, rest.1) := by
    unfold Escaped.ofChar
    split
    · rfl
    · exact Reading.text_map_value _ _
  unfold readEscape escapeText
  dsimp only
  split
  · rw [text_map _ fun n => Escaped.backref n true]
  · split
    · rw [text_map_within _ _ fun n => Escaped.backref n false]
    · split
      · simp
      · split
        · rw [text_map_within _ _ fun d => Escaped.letter d true]
        · split
          · rw [text_map_within _ _ fun d => Escaped.letter d true]
          · split
            · rw [text_map_within _ _ fun d => Escaped.letter d true]
            · by_cases hp : (c = 'p' || c = 'P') = true
              · rw [if_pos hp]
                by_cases hs : s = []
                · rw [if_neg (by simp [hs])]
                  refine iff_of_false (fun h => ?_) (by rw [hs]; nofun)
                  have h := (hchar _).symm.trans h
                  rw [hproperty hp] at h
                  cases h
                · rw [if_pos (by simp [hp, hs]),
                    text_map_within _ _ fun text => Escaped.fragment ('\\' :: c :: text) true]
              · rw [if_neg hp, if_neg (by simp [hp])]
                exact Eq.to_iff (congrArg (· = _) (hchar _))

/-- **An escape is read as the same** with more text behind it. -/
theorem readEscape_append {scope : Scope} {inClass : Bool} {e : Escaped}
    (h : (readEscape scope inClass s).text = .ok (e, r)) {n : Nat} (hn : scope.byteLength ≤ n)
    (ht : Benign t) :
    (readEscape { scope with byteLength := n } inClass (s ++ t)).text = .ok (e, r ++ t) := by
  cases s with
  | nil => cases h
  | cons c s =>
    have hbrace : (s ++ t).head? = some '\x7b' ↔ s.head? = some '\x7b' := by
      cases s with
      | nil => exact iff_of_false (ht.head_ne (by decide)) nofun
      | cons d s => rfl
    have hhex {count : Nat} (hcount : 0 < count)
        (h : (readHex count s).text.map (fun x => (Escaped.letter x.1 true, x.2)) = .ok (e, r)) :
        (readHex count (s ++ t)).text.map (fun x => (Escaped.letter x.1 true, x.2)) =
          .ok (e, r ++ t) :=
      map_append (fun d => Escaped.letter d true) h fun a ha => readHex_append hcount ha t
    replace h := readEscape_eq_ok.mp h
    rw [List.cons_append]
    refine readEscape_eq_ok.mpr ?_
    unfold escapeText at h ⊢
    simp only [hbrace] at h ⊢
    split_ifs at h ⊢
    · exact map_append (fun n => Escaped.backref n true) h fun a ha => readNumber_append ha hn ht
    · exact map_append (fun n => Escaped.backref n false) h fun a ha => readQuoted_append ha n t
    · exact hhex (by decide) h
    · exact hhex (by decide) h
    · exact hhex (by decide) h
    · exact map_append (fun text => Escaped.fragment ('\\' :: c :: text) true) h
        fun a ha => readProperty_append ha t
    · obtain ⟨x, hx, heq⟩ := map_eq_ok.mp h
      cases heq
      rw [hx]
      rfl

end Escapes

/-! ## Classes and flags -/

section Classes

variable {s t r : List Char}

theorem readBrackets_cons (scope : Scope) (depth : Nat) (text : List Char) (c : Char)
    (s : List Char) :
    (readBrackets scope depth text (c :: s)).text =
      if c = '\\' then
        (readEscape scope true s).text.bind fun x =>
          x.1.classText.bind fun u => (readBrackets scope depth (u.reverse ++ text) x.2).text
      else if c = '[' then (readBrackets scope (depth + 1) (c :: text) s).text
      else if c = ']' then
        if depth = 0 then .ok (c :: text, s)
        else (readBrackets scope (depth - 1) (c :: text) s).text
      else (readBrackets scope depth (c :: text) s).text := by
  rw [readBrackets]
  split
  · cases readEscape scope true s with
    | error e => rfl
    | ok x =>
      obtain ⟨e, rest⟩ := x
      change Reading.text (Except.bind e.classText _) = Except.bind e.classText _
      cases e.classText with
      | error e => rfl
      | ok u => exact Reading.text_within (Nat.le_succ_of_le rest.2) _
  · split
    · exact Reading.text_within _ _
    · split
      · split
        · rfl
        · exact Reading.text_within _ _
      · exact Reading.text_within _ _

theorem readBrackets_append {scope : Scope} {depth : Nat} {text a : List Char}
    (h : (readBrackets scope depth text s).text = .ok (a, r)) {n : Nat}
    (hn : scope.byteLength ≤ n) (ht : Benign t) :
    (readBrackets { scope with byteLength := n } depth text (s ++ t)).text = .ok (a, r ++ t) := by
  induction hlength : s.length using Nat.strongRecOn generalizing depth text s with
  | ind m ih =>
    cases s with
    | nil =>
      rw [readBrackets] at h
      cases h
    | cons c s =>
      have hs : s.length < m := by
        rw [← hlength]
        exact Nat.lt_succ_self _
      rw [readBrackets_cons] at h
      rw [List.cons_append, readBrackets_cons]
      split_ifs at h ⊢
      · obtain ⟨⟨e, u⟩, he, h⟩ := bind_eq_ok.mp h
        obtain ⟨w, hw, h⟩ := bind_eq_ok.mp h
        have hu : u.length < m := Nat.lt_of_le_of_lt (Reading.length_le_of_text he) hs
        exact bind_eq_ok.mpr ⟨_, readEscape_append he hn ht,
          bind_eq_ok.mpr ⟨w, hw, ih _ hu h rfl⟩⟩
      · exact ih _ hs h rfl
      · cases h
        rfl
      · exact ih _ hs h rfl
      · exact ih _ hs h rfl

theorem classOpening_cons_cons (c d : Char) (s : List Char) :
    classOpening (c :: d :: s) =
      if c = '^' then if d = ']' then ['^', ']'] else ['^'] else if c = ']' then [']'] else [] := by
  by_cases hc : c = '^'
  · by_cases hd : d = ']'
    · simp [classOpening, hc, hd]
    · simp [classOpening, hc, hd]
  · by_cases hc' : c = ']'
    · simp [classOpening, hc']
    · simp [classOpening, hc, hc']

theorem classOpening_append (hs : s ≠ []) (hs' : s ≠ ['^']) (t : List Char) :
    classOpening (s ++ t) = classOpening s := by
  match s with
  | [c] =>
    have hc : c ≠ '^' := fun hc => hs' (by rw [hc])
    unfold classOpening
    split <;> simp_all
  | c :: d :: s => simp only [List.cons_append, classOpening_cons_cons]

/-- **A class is read as the same** with more text behind it. -/
theorem readClass_append {scope : Scope} {a : List Char}
    (h : (readClass scope s).text = .ok (a, r)) {n : Nat} (hn : scope.byteLength ≤ n)
    (ht : Benign t) :
    (readClass { scope with byteLength := n } (s ++ t)).text = .ok (a, r ++ t) := by
  have hs : s ≠ [] ∧ s ≠ ['^'] := by
    rw [readClass_text] at h
    constructor <;> rintro rfl <;>
      · rw [show List.drop _ _ = ([] : List Char) from rfl, readBrackets] at h
        cases h
  have hlength : (classOpening s).length ≤ s.length := by
    unfold classOpening
    split <;> simp
  rw [readClass_text] at h ⊢
  rw [classOpening_append hs.1 hs.2, List.drop_append_of_le_length hlength]
  exact map_append List.reverse h fun a ha => readBrackets_append ha hn ht

end Classes

section Flags

variable {s t r : List Char}

theorem skipGaps_eq_ok {v : Bool} {u : Rest s} :
    skipGaps v s = .ok u ↔ Gap.outside.skip v s = .ok u.1 := by
  rw [← skipGaps_text, map_eq_ok]
  constructor
  · exact fun h => ⟨u, h, rfl⟩
  · rintro ⟨w, hw, heq⟩
    rw [hw, Subtype.ext heq]

theorem skipGaps_eq_error {v : Bool} {e : Fault} (h : skipGaps v s = .error e) :
    Gap.outside.skip v s = .error e := by
  rw [← skipGaps_text, h]
  rfl

theorem readFlags_text (start : List Char) (flags : Flags) (negated : Bool) (s : List Char) :
    (readFlags start flags negated s).text =
      (Gap.outside.skip flags.verbose s).bind fun
        | [] => .error .groupUnclosed
        | c :: r =>
          let written := start.take (start.length - (r.length + 1))
          if c = ')' then
            if written = [] ∨ written = ['-'] then .error (.flagUnknown (written ++ [c]))
            else .ok ((flags, false), r)
          else if c = ':' then
            if written = ['-'] then .error (.flagUnknown (written ++ [c]))
            else .ok ((flags, true), r)
          else if c = '-' then
            if negated then .error (.flagUnknown (written ++ [c]))
            else (readFlags start flags true r).text
          else if c = 'u' then
            if negated then .error .unicodeDisabled
            else (readFlags start flags negated r).text
          else
            match flags.set? c (!negated) with
            | none => .error (.flagUnknown (written ++ [c]))
            | some flags => (readFlags start flags negated r).text := by
  rw [readFlags]
  cases hskip : skipGaps flags.verbose s with
  | error e =>
    rw [skipGaps_eq_error hskip]
    rfl
  | ok u =>
    obtain ⟨u, hu⟩ := u
    rw [skipGaps_eq_ok.mp hskip]
    cases u with
    | nil => rfl
    | cons c u =>
      simp only [Except.bind]
      cases flags.set? c (!negated) <;> split_ifs <;>
        first | rfl | exact Reading.text_within _ _

/-- **Flags are read as the same** with more text behind them. -/
theorem readFlags_append {start : List Char} {flags : Flags} {negated : Bool}
    {a : Flags × Bool} (h : (readFlags start flags negated s).text = .ok (a, r))
    (ht : Benign t) : (readFlags (start ++ t) flags negated (s ++ t)).text = .ok (a, r ++ t) := by
  induction hlength : s.length using Nat.strongRecOn generalizing flags negated s with
  | ind m ih =>
    rw [readFlags_text] at h ⊢
    obtain ⟨u, hu, h⟩ := bind_eq_ok.mp h
    obtain ⟨x, hx, -, hne⟩ := skip_append hu ht
    cases u with
    | nil => cases h
    | cons c u =>
      obtain rfl := hne nofun
      have hum : u.length < m := by
        have := Gap.length_le_of_skip hu
        rw [hlength, List.length_cons] at this
        omega
      have hwritten : (start ++ x).take ((start ++ x).length - ((u ++ x).length + 1)) =
          start.take (start.length - (u.length + 1)) := by
        rw [List.length_append, List.length_append,
          show start.length + x.length - (u.length + x.length + 1) =
            start.length - (u.length + 1) by omega]
        exact List.take_append_of_le_length (Nat.sub_le _ _)
      rw [hx]
      dsimp only [Except.bind, List.cons_append] at h ⊢
      rw [hwritten]
      split_ifs at h ⊢
      · cases h
        rfl
      · cases h
        rfl
      · exact ih _ hum h rfl
      · exact ih _ hum h rfl
      · cases hflags : flags.set? c (!negated) with
        | none =>
          rw [hflags] at h
          cases h
        | some flags' =>
          rw [hflags] at h
          exact ih _ hum h rfl

end Flags

end Verbal.Extended
