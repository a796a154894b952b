import Verbal.Proofs.Regular.Locality

/-!
# What escapes take

What is read after a backslash depends on what follows it in one case only: a brace after `\b` might
begin the name of a boundary. Everywhere else an escape ends by itself, up to blanks behind it.

* **`takes_readEscape`**: the only thing that an escape looks at.
* `takes_readEscape_cons`: all escapes but `\b` look at nothing.
* `assertion_of_readBoundary`: a boundary is an assertion, under whatever name.
-/

namespace Verbal.Regular

open Verbal.Unicode

variable {v : Bool} {look : List Char → List Char → Prop}

/-! ## Numbers -/

theorem readHexDigits_text (v : Bool) (n value : Nat) (c : Char) (s : List Char) :
    (readHexDigits v (n + 1) value (c :: s)).text =
      match hexValue? c with
      | none => .error .hexDigitInvalid
      | some d => (readHexDigits v n (16 * value + d) (skipBlanks v s)).text := by
  rw [readHexDigits]
  cases hexValue? c <;> simp

theorem takes_readHexDigits_cons (n value : Nat) (c : Char) (s : List Char) :
    Takes v Anything (fun s => (readHexDigits v (n + 1) value (c :: s)).text) s := by
  induction n generalizing value c s with
  | zero =>
    refine Takes.congr ?_ (readHexDigits_text v 0 value c)
    cases hexValue? c with
    | none => exact (exact_error .hexDigitInvalid).takes
    | some d => exact takes_skipBlanks (16 * value + d)
  | succ n ih =>
    refine Takes.congr ?_ (readHexDigits_text v (n + 1) value c)
    cases hexValue? c with
    | none => exact (exact_error .hexDigitInvalid).takes
    | some d =>
      refine Takes.skip (f := fun s => (readHexDigits v (n + 1) (16 * value + d) s).text) ?_
      cases skipBlanks v s with
      | nil => intro a r h; simp [readHexDigits] at h
      | cons c s => exact Takes.cons (ih _ c s)

theorem readHexBraced_text (v : Bool) (value : Option Nat) (s : List Char) :
    (readHexBraced v value s).text = afterBlanks v .escapeUnfinished (fun c r =>
      if c = '\x7d' then .ok (value, skipBlanks v r)
      else
        match hexValue? c with
        | none => .error .hexDigitInvalid
        | some d => (readHexBraced v (some (16 * value.getD 0 + d)) r).text) s := by
  rw [readHexBraced]
  unfold afterBlanks
  split
  · rename_i h
    simp [h]
  · rename_i c r h
    simp only [h]
    split
    · simp
    · cases hexValue? c <;> simp

theorem takes_readHexBraced (value : Option Nat) (s : List Char) :
    Takes v Anything (fun s => (readHexBraced v value s).text) s := by
  induction hn : s.length using Nat.strongRecOn generalizing value s with
  | ind n ih =>
    refine Takes.congr (Takes.afterBlanks fun c r hs => ?_) (readHexBraced_text v value)
    split
    · exact takes_skipBlanks value
    · cases hexValue? c with
      | none => exact (exact_error .hexDigitInvalid).takes
      | some d => exact ih _ (hn ▸ length_le_of_skipBlanks hs) _ _ rfl

/-- The letter of a number. -/
def letterOf (byte : Bool) (n : Nat) : Except Fault Primitive :=
  match charOfNat? n with
  | none => .error .hexNoCharacter
  | some c => .ok (.letter ⟨c, byte⟩)

/-- The letter of a number in braces. -/
def letterOfBraced : Option Nat → Except Fault Primitive
  | none => .error .hexEmpty
  | some n => letterOf false n

theorem letterOfNumber_text {s : List Char} (byte : Bool) (n : Nat) (rest : Rest s) :
    Reading.text (letterOfNumber byte (n, rest)) = (letterOf byte n).map fun p => (p, rest.1) := by
  simp only [letterOfNumber, letterOf]
  cases charOfNat? n <;> rfl

theorem readHex_text (v : Bool) (digits : Nat) (s : List Char) :
    (readHex v digits s).text = afterBlanks v .escapeUnfinished (fun c r =>
      if c = '\x7b' then (readHexBraced v none r).text.bind fun x =>
        (letterOfBraced x.1).map fun p => (p, x.2)
      else (readHexDigits v digits 0 (c :: r)).text.bind fun x =>
        (letterOf (digits == 2) x.1).map fun p => (p, x.2)) s := by
  rw [readHex]
  unfold afterBlanks
  split
  · rename_i h
    simp [h]
  · rename_i c r h
    simp only [h]
    split
    · rw [Reading.text_bind _ (g := fun value r => (letterOfBraced value).map fun p => (p, r)),
        Reading.text_within]
      intro value rest
      cases value with
      | none => rfl
      | some n => exact letterOfNumber_text false n rest
    · rw [Reading.text_bind _ (g := fun n r => (letterOf (digits == 2) n).map fun p => (p, r)),
        Reading.text_within]
      exact letterOfNumber_text (digits == 2)

theorem takes_readHex (n : Nat) (s : List Char) :
    Takes v Anything (fun s => (readHex v (n + 1) s).text) s := by
  refine Takes.congr (Takes.afterBlanks fun c r hs => ?_) (readHex_text v (n + 1))
  split
  · exact (takes_readHexBraced none r).map_value letterOfBraced
  · exact (takes_readHexDigits_cons n 0 c r).map_value (letterOf (n + 1 == 2))

/-! ## Properties -/

theorem readBraced_text (v : Bool) (text s : List Char) :
    (readBraced v text s).text = afterBlanks v .escapeUnfinished
      (fun c r => if c = '\x7d' then .ok (text, r) else (readBraced v (c :: text) r).text) s := by
  rw [readBraced]
  unfold afterBlanks
  split
  · rename_i h
    simp [h]
  · rename_i c r h
    simp only [h]
    split <;> simp

theorem exact_readBraced (text s : List Char) :
    Exact (fun s => (readBraced v text s).text) s := by
  induction hn : s.length using Nat.strongRecOn generalizing text s with
  | ind n ih =>
    refine Exact.congr (Exact.afterBlanks fun c r hs => ?_) (readBraced_text v text)
    split
    · exact exact_ok text
    · exact ih _ (hn ▸ length_le_of_skipBlanks hs) _ _ rfl

/-- The property of a text in braces, which is given with the last character first. -/
def propertyOf (negated : Bool) (text : List Char) : Primitive :=
  .property (queryOf text.reverse).1 (negated != (queryOf text.reverse).2)

theorem readProperty_text (v negated : Bool) (s : List Char) :
    (readProperty v negated s).text = afterBlanks v .escapeUnfinished (fun c r =>
      if c = '\x7b' then (readBraced v [] r).text.bind fun x => .ok (propertyOf negated x.1, x.2)
      else if c = '\\' then .error .propertyInvalid
      else .ok (.property (.named [c]) negated, skipBlanks v r)) s := by
  rw [readProperty]
  unfold afterBlanks
  split
  · rename_i h
    simp [h]
  · rename_i c r h
    simp only [h]
    split
    · cases h : readBraced v [] r <;> rfl
    · split <;> simp

theorem takes_readProperty (negated : Bool) (s : List Char) :
    Takes v look (fun s => (readProperty v negated s).text) s := by
  refine Takes.congr (Takes.afterBlanks fun c r hs => ?_) (readProperty_text v negated)
  split
  · exact ((exact_readBraced [] r).bind fun _ _ _ => exact_ok _).takes
  · split
    · exact (exact_error .propertyInvalid).takes
    · exact takes_skipBlanks _

/-! ## Word boundaries -/

theorem readBoundaryName_nil (v : Bool) (name : List Char) :
    (readBoundaryName v name []).1 = name ∧ (readBoundaryName v name []).2.1 = [] := by
  rw [readBoundaryName]
  exact ⟨rfl, rfl⟩

/-- The name of a boundary and what follows it. -/
def boundaryName (v : Bool) (name s : List Char) : Except Fault (List Char × List Char) :=
  .ok ((readBoundaryName v name s).1, (readBoundaryName v name s).2.1)

theorem boundaryName_cons (v : Bool) (name : List Char) (c : Char) (s : List Char) :
    boundaryName v name (c :: s) =
      if isBoundaryChar c then boundaryName v (c :: name) (skipBlanks v s)
      else .ok (name, c :: s) := by
  unfold boundaryName
  rw [readBoundaryName]
  split <;> rfl

theorem upTo_boundaryName (name s : List Char) : UpTo (boundaryName v name) s := by
  induction hn : s.length using Nat.strongRecOn generalizing name s with
  | ind n ih =>
    cases s with
    | nil =>
      intro a c r h
      simp [boundaryName, readBoundaryName_nil] at h
    | cons c s =>
      by_cases hc : isBoundaryChar c = true
      · refine UpTo.cons (UpTo.congr (f := fun s => boundaryName v (c :: name) (skipBlanks v s))
          (UpTo.skip (ih _ ?_ _ _ rfl)) fun s => ?_)
        · have := skipBlanks_length_le v s
          simp only [List.length_cons] at hn
          omega
        · rw [boundaryName_cons, if_pos hc]
      · exact upTo_of_stays fun t => by rw [boundaryName_cons, if_neg hc]

/-- The boundary of a name, which is given with the last character first. -/
def boundaryOf (name : List Char) : Except Fault Primitive :=
  match boundary? name.reverse with
  | none => .error .boundaryUnknown
  | some a => .ok (.assertion a)

/-- Closes the name of a boundary. -/
def closeBoundary (name : List Char) : List Char → Except Fault (Primitive × List Char)
  | [] => .error .boundaryUnclosed
  | d :: r =>
    if d ≠ '\x7d' then .error .boundaryUnclosed else (boundaryOf name).map fun a => (a, r)

theorem readBoundaryNamed_text (v : Bool) (s : List Char) :
    (readBoundaryNamed v s).text =
      (boundaryName v [] s).bind fun x => closeBoundary x.1 x.2 := by
  unfold readBoundaryNamed boundaryName
  simp only [Except.bind]
  split
  · rename_i h
    simp [h, closeBoundary]
  · rename_i d r h
    simp only [h, closeBoundary, boundaryOf]
    split
    · rfl
    · cases boundary? (readBoundaryName v [] s).1.reverse <;> rfl

theorem takes_readBoundaryNamed_cons {c : Char} (hc : isBoundaryChar c = true) (s : List Char) :
    Takes v look (fun s => (readBoundaryNamed v (c :: s)).text) s := by
  have hfirst : UpTo (fun s => boundaryName v [] (c :: s)) s :=
    UpTo.congr (f := fun s => boundaryName v [c] (skipBlanks v s))
      (UpTo.skip (upTo_boundaryName [c] _)) fun s => by rw [boundaryName_cons, if_pos hc]
  refine Takes.congr (UpTo.bind_takes hfirst (fun a b => by simp [closeBoundary])
    fun name d r _ => ?_) fun s => readBoundaryNamed_text v (c :: s)
  by_cases hd : d = '\x7d'
  · exact (exact_value (boundaryOf name)).takes.congr fun s => by simp [closeBoundary, hd]
  · exact (exact_error .boundaryUnclosed).takes.congr fun s => by simp [closeBoundary, hd]

/-- Whether what follows `\b` is taken for the name of a boundary. -/
def opensName (v : Bool) : List Char → Bool
  | '\x7b' :: s =>
    match skipBlanks v s with
    | [] => true
    | c :: _ => isBoundaryChar c
  | _ => false

theorem eq_cons_of_opensName {s : List Char} (h : opensName v s = true) :
    ∃ t, s = '\x7b' :: t := by
  unfold opensName at h
  split at h
  · exact ⟨_, rfl⟩
  · cases h

theorem readBoundary_of_not_opensName {s : List Char} (h : opensName v s = false) :
    (readBoundary v s).text = .ok (.assertion .wordBoundary, s) := by
  cases s with
  | nil => rfl
  | cons b s =>
    unfold readBoundary
    by_cases hb : b = '\x7b'
    · subst hb
      unfold opensName at h
      simp only [ne_eq, not_true_eq_false, if_false]
      split
      · rename_i hs _
        simp [hs] at h
      · rename_i c r _ hs _
        simp only [hs] at h
        simp [h, Rest.all]
    · simp [hb, Rest.all]

theorem readBoundary_of_opensName {s : List Char} (h : opensName v ('\x7b' :: s) = true) :
    (readBoundary v ('\x7b' :: s)).text = afterBlanks v .boundaryUnfinished
      (fun c r => (readBoundaryNamed v (c :: r)).text) s := by
  unfold readBoundary afterBlanks
  unfold opensName at h
  simp only [ne_eq, not_true_eq_false, if_false]
  split
  · rename_i hs _
    simp [hs]
  · rename_i c r _ hs _
    simp only [hs] at h
    simp [hs, h]

theorem assertion_of_readBoundaryNamed {s r : List Char} {p : Primitive}
    (h : (readBoundaryNamed v s).text = .ok (p, r)) : ∃ a, p = .assertion a := by
  rw [readBoundaryNamed_text] at h
  obtain ⟨⟨name, s'⟩, -, h⟩ := bind_eq_ok.mp h
  cases s' with
  | nil => cases h
  | cons d s' =>
    simp only [closeBoundary] at h
    split at h
    · cases h
    · obtain ⟨q, hq, h⟩ := map_eq_ok.mp h
      cases h
      unfold boundaryOf at hq
      split at hq
      · cases hq
      · exact ⟨_, (Except.ok.inj hq).symm⟩

/-- A boundary is an assertion, under whatever name. -/
theorem assertion_of_readBoundary {s r : List Char} {p : Primitive}
    (h : (readBoundary v s).text = .ok (p, r)) : ∃ a, p = .assertion a := by
  cases ho : opensName v s with
  | false =>
    rw [readBoundary_of_not_opensName ho] at h
    cases h
    exact ⟨_, rfl⟩
  | true =>
    obtain ⟨s, rfl⟩ := eq_cons_of_opensName ho
    rw [readBoundary_of_opensName ho] at h
    unfold afterBlanks at h
    split at h
    · cases h
    · exact assertion_of_readBoundaryNamed h

/-- Texts look alike if neither begins the name of a boundary that the other does not begin. -/
def NamesAlike (v : Bool) (s t : List Char) : Prop := opensName v t = true → opensName v s = true

theorem takes_readBoundary (s : List Char) :
    Takes v (NamesAlike v) (fun s => (readBoundary v s).text) s := by
  intro a r h
  cases ho : opensName v s with
  | false =>
    simp only [readBoundary_of_not_opensName ho, Except.ok.injEq, Prod.mk.injEq] at h
    obtain ⟨rfl, rfl⟩ := h
    refine ⟨[], _, false, rfl, nofun, rfl, fun t ht => ?_⟩
    have hot : opensName v t = false := by
      rw [← Bool.not_eq_true]
      intro h
      rw [ht h] at ho
      cases ho
    exact readBoundary_of_not_opensName hot
  | true =>
    obtain ⟨s, rfl⟩ := eq_cons_of_opensName ho
    simp only [readBoundary_of_opensName ho, afterBlanks] at h
    split at h
    · cases h
    · rename_i c r' hs
      simp only [opensName, hs] at ho
      obtain ⟨p, u, k, rfl, hk, hr, hp⟩ :=
        @takes_readBoundaryNamed_cons v (NamesAlike v) c ho r' a r h
      obtain ⟨b, rfl, hb⟩ := skipBlanks_eq_cons hs
      refine ⟨'\x7b' :: (b ++ c :: p), u, k, by simp, hk, hr, fun t ht => ?_⟩
      have hopens : opensName v ('\x7b' :: (b ++ c :: (p ++ t))) = true := by
        simp only [opensName, hb, ho]
      have hread := readBoundary_of_opensName hopens
      rw [afterBlanks, hb] at hread
      rw [List.cons_append, List.append_assoc]
      exact hread.trans (hp t ht)

/-! ## Escapes -/

theorem takes_readEscape_cons {c : Char} (hb : c ≠ 'b') (s : List Char) :
    Takes v Anything (fun s => (readEscape v (c :: s)).text) s := by
  intro a r hf
  have hpart (f : List Char → Except Fault (Primitive × List Char)) (htakes : Takes v Anything f s)
      (heq : ∀ s, (readEscape v (c :: s)).text = f s) := htakes.congr heq a r hf
  have hstays (hok : ∀ t, (readEscape v (c :: t)).text = .ok (a, t)) (hrest : r = s) :=
    hpart _ ((exact_ok a).takes) hok
  dsimp only at hf
  unfold readEscape at hf
  dsimp only at hf
  split at hf
  · cases hf
  · rename_i hdigit
    split at hf
    · rename_i hesc
      cases hf
      exact hstays (fun t => by simp [readEscape, hdigit, hesc]) rfl
    · rename_i hesc
      split at hf
      case h_1 => exact hpart _ (takes_readHex 1 s) fun s => by simp [readEscape, hdigit, hesc]
      case h_2 => exact hpart _ (takes_readHex 3 s) fun s => by simp [readEscape, hdigit, hesc]
      case h_3 => exact hpart _ (takes_readHex 7 s) fun s => by simp [readEscape, hdigit, hesc]
      case h_4 =>
        exact hpart _ (takes_readProperty false s) fun s => by simp [readEscape, hdigit, hesc]
      case h_5 =>
        exact hpart _ (takes_readProperty true s) fun s => by simp [readEscape, hdigit, hesc]
      case h_20 => exact absurd rfl hb
      all_goals
        cases hf
        try exact hstays (fun t => by simp [readEscape, hdigit, hesc]) rfl

theorem readEscape_boundary (v : Bool) (s : List Char) :
    (readEscape v ('b' :: s)).text = (readBoundary v s).text :=
  Reading.text_within (Nat.le_succ _) (readBoundary v s)

/-- What is read after a backslash depends on what follows only if that might name a boundary. -/
theorem takes_readEscape (s : List Char) :
    Takes v (NamesAlike v) (fun s => (readEscape v s).text) s := by
  cases s with
  | nil => intro a r h; cases h
  | cons c s =>
    by_cases hb : c = 'b'
    · subst hb
      exact Takes.cons ((takes_readBoundary s).congr (readEscape_boundary v))
    · exact Takes.cons ((takes_readEscape_cons hb s).mono fun _ _ _ => trivial)

end Verbal.Regular
