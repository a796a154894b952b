import Verbal.Proofs.Extended.Counts

/-!
# Steps of the reader of extended patterns

What each step makes of a draft and a text, told without the bounds on the length of what is left
over. What is left over is always the end of what was given.

* **`readStep_text`**: what a step does, by the role of the character that it begins with.
* `readStep_suffix`: what a step leaves over; and so **`readAll_induction`**, which goes through a run
  step by step.
* `groupText`, `closedText`, `conditionalText`: what the steps that open and close groups make; and
  `conditionalText_eq_ok`, when they go on after a condition and with what.
-/

namespace Verbal.Extended

open Verbal.Regular (Repetition)

section Texts

variable {d d' : Draft} {s r : List Char}

/-! ## Repetitions -/

theorem readMark_text (mark : Char) (s : List Char) :
    ((readMark mark s).1, (readMark mark s).2.1) =
      if s.head? = some mark then (true, s.tail) else (false, s) := by
  cases s with
  | nil => rfl
  | cons c s =>
    by_cases hc : c = mark
    · simp [readMark, hc]
    · simp [readMark, hc]

/-- What is made of an item by a repetition, of which the marks have been read. -/
def repeatedItem (d : Draft) (count : Repetition) (item : Tree) (s : List Char) :
    Tree × List Char :=
  let (reluctant, rest) := readMark '?' s
  let (possessive, rest') := readMark '+' rest.1
  let repeated : Tree :=
    .repetition count.least count.most (reluctant == d.flags.swapGreed) item
  (if possessive then .atomic repeated else repeated, rest'.1)

theorem readRepeated_text (d : Draft) (count : Repetition) (s : List Char) :
    (readRepeated d count s).text = match d.pending with
      | none => .error .targetInvalid
      | some item =>
        if !item.isRepeatable then .error .targetInvalid
        else (Gap.outside.skip d.flags.verbose s).map fun u =>
          ({ d with items := (repeatedItem d count item u).1 :: d.items, pending := none },
            (repeatedItem d count item u).2) := by
  unfold readRepeated
  cases d.pending with
  | none => rfl
  | some item =>
    dsimp only
    split
    · rfl
    · rw [← skipGaps_text]
      cases skipGaps d.flags.verbose s <;> rfl

/-! ## Conditions -/

/-- What goes on after a condition, as a text. -/
def conditionalText (d : Draft) (condition : Tree) :
    List Char → Except Fault (Draft × List Char)
  | [] => d.checkEnd.bind fun _ =>
      match condition with
      | .groupTest _ => .error .groupUnclosed
      | _ => .error .conditionAlone
  | c :: s =>
    if c = ')' then
      d.checkEnd.bind fun _ =>
        match condition with
        | .groupTest index => .ok (d.push (.groupTest index), s)
        | _ => .error .conditionAlone
    else .ok (d.openLevel (.branches condition), c :: s)

theorem openConditional_text (d : Draft) (condition : Tree) (s : List Char) :
    (d.openConditional condition s).text = conditionalText d condition s := by
  cases s with
  | nil =>
    unfold Draft.openConditional conditionalText
    cases d.checkEnd with
    | error e => rfl
    | ok u => cases condition <;> rfl
  | cons c s =>
    unfold Draft.openConditional conditionalText
    dsimp only
    by_cases hc : c = ')'
    · rw [if_pos hc, if_pos hc]
      cases d.checkEnd with
      | error e => rfl
      | ok u => cases condition <;> rfl
    · rw [if_neg hc, if_neg hc]
      rfl

/-- What goes on after a reference that is a condition. -/
def referenceText (d : Draft) (numbered : Bool) :
    Nat × List Char → Except Fault (Draft × List Char)
  | (_, []) => .error .groupUnclosed
  | (index, c :: r) =>
    if c = ')' then conditionalText (d.refer index numbered) (.groupTest index) r
    else .error .closeExpected

/-- **What goes on after a condition** is nothing if a test of a group stands alone, and the branches
otherwise. -/
theorem conditionalText_eq_ok {condition : Tree} :
    conditionalText d condition s = .ok (d', r) ↔
      (∃ index, condition = .groupTest index ∧ s = ')' :: r ∧ d.checkEnd = .ok () ∧
        d' = d.push (.groupTest index)) ∨
      ∃ c u, c ≠ ')' ∧ s = c :: u ∧ r = c :: u ∧ d' = d.openLevel (.branches condition) := by
  constructor
  · intro h
    cases s with
    | nil =>
      obtain ⟨_, -, h⟩ := bind_eq_ok.mp (show d.checkEnd.bind _ = _ from h)
      split at h <;> cases h
    | cons c s =>
      unfold conditionalText at h
      dsimp only at h
      split at h
      · rename_i hc
        obtain ⟨_, hend, h⟩ := bind_eq_ok.mp h
        split at h
        · cases h
          exact Or.inl ⟨_, rfl, congrArg (· :: r) hc, hend, rfl⟩
        · cases h
      · rename_i hc
        cases h
        exact Or.inr ⟨c, s, hc, rfl, rfl, rfl⟩
  · rintro (⟨index, rfl, rfl, hend, rfl⟩ | ⟨c, u, hc, rfl, rfl, rfl⟩)
    · exact bind_eq_ok.mpr ⟨(), hend, rfl⟩
    · exact if_neg hc

/-- A reference that is a condition is closed, and then it goes on as after any condition. -/
theorem referenceText_eq_ok {numbered : Bool} {index : Nat} :
    referenceText d numbered (index, s) = .ok (d', r) ↔ ∃ u, s = ')' :: u ∧
      conditionalText (d.refer index numbered) (.groupTest index) u = .ok (d', r) := by
  constructor
  · intro h
    cases s with
    | nil => cases h
    | cons c s =>
      unfold referenceText at h
      dsimp only at h
      split at h
      · rename_i hc
        exact ⟨s, congrArg (· :: s) hc, h⟩
      · cases h
  · rintro ⟨u, rfl, h⟩
    exact h

/-- What goes on after a reference, without the bounds that a reader keeps. -/
theorem readReference_text (d : Draft) (numbered : Bool) {s : List Char} (x : Reading Nat s) :
    Reading.text (Except.bind x fun
      | (_, ⟨[], _⟩) => .error .groupUnclosed
      | (index, ⟨c :: r, h⟩) =>
        if c = ')' then
          ((d.refer index numbered).openConditional (.groupTest index) r).within (Nat.le_of_lt h)
        else .error .closeExpected) = x.text.bind (referenceText d numbered) := by
  refine Reading.text_bind (g := fun index r => referenceText d numbered (index, r)) x
    fun index r => ?_
  obtain ⟨r, hr⟩ := r
  cases r with
  | nil => rfl
  | cons c r =>
    dsimp only [referenceText]
    split
    · rw [Reading.text_within, openConditional_text]
    · rfl

theorem readConditional_text (d : Draft) (s : List Char) :
    (readConditional d s).text = match s.head? with
      | none => .error .groupUnclosed
      | some c =>
        if c.isDigit then (readNumber d.scope s).text.bind (referenceText d true)
        else if c = '\'' || c = '<' then (readQuoted d.scope s).text.bind (referenceText d false)
        else .ok (d.openLevel .condition, s) := by
  unfold readConditional
  cases s.head? with
  | none => rfl
  | some c =>
    dsimp only
    split
    · exact readReference_text d true _
    · split
      · exact readReference_text d false _
      · rfl

/-! ## Groups -/

theorem opening_of_ne {b : Char} (h : b ≠ '<') (h' : b ≠ 'P') (u : List Char) :
    opening ('?' :: b :: u) = opening ['?', b] := by
  by_cases hlook : b ∈ ['=', '!', '>', '(']
  · simp only [List.mem_cons, List.not_mem_nil, or_false] at hlook
    rcases hlook with rfl | rfl | rfl | rfl <;> rfl
  · simp only [List.mem_cons, List.not_mem_nil, or_false, not_or] at hlook
    simp [opening, h, h', hlook]

/-- What tells what begins is at most three characters. -/
theorem opening_of_three (a b c : Char) (s : List Char) :
    opening (a :: b :: c :: s) = opening [a, b, c] := by
  by_cases ha : a = '?'
  · subst ha
    by_cases hb : b = '<' ∨ b = 'P'
    · by_cases hc : c ∈ ['=', '!', '<']
      · simp only [List.mem_cons, List.not_mem_nil, or_false] at hc
        rcases hb with rfl | rfl <;> rcases hc with rfl | rfl | rfl <;> rfl
      · simp only [List.mem_cons, List.not_mem_nil, or_false, not_or] at hc
        rcases hb with rfl | rfl <;> simp [opening, hc]
    · rw [not_or] at hb
      exact (opening_of_ne hb.1 hb.2 _).trans (opening_of_ne hb.1 hb.2 _).symm
  · simp [opening, ha]

/-- What begins after a parenthesis is the same with more text behind. -/
theorem opening_append {s t : List Char} (ht : Benign t) : opening (s ++ t) = opening s := by
  cases t with
  | nil => rw [List.append_nil]
  | cons c t =>
    have hc := ht.head_mem rfl
    simp only [List.mem_cons, List.not_mem_nil, or_false] at hc
    match s with
    | [] => rcases hc with rfl | rfl | rfl | rfl <;> rfl
    | [a] =>
      by_cases ha : a = '?'
      · subst ha
        rcases hc with rfl | rfl | rfl | rfl <;> rfl
      · simp [opening, ha]
    | [a, b] =>
      by_cases ha : a = '?'
      · subst ha
        by_cases hb : b = '<' ∨ b = 'P'
        · rcases hb with rfl | rfl <;> rcases hc with rfl | rfl | rfl | rfl <;> rfl
        · rw [not_or] at hb
          exact opening_of_ne hb.1 hb.2 _
      · simp [opening, ha]
    | a :: b :: d :: s =>
      exact (opening_of_three a b d _).trans (opening_of_three a b d s).symm

theorem snd_opening_le (s : List Char) : (opening s).2 ≤ s.length := by
  unfold opening
  split <;> simp

/-- What follows an opening parenthesis, once the blanks are skipped. -/
def groupText (d : Draft) (s : List Char) : Except Fault (Draft × List Char) :=
  let (kind, read) := opening s
  let r := s.drop read
  match kind with
  | .level kind => .ok (d.openLevel kind, r)
  | .named => (readName false '>' r).text.map fun x => (d.openNamed x.1, x.2)
  | .reference => (readNamed d.scope false ')' r).text.map fun x =>
      ((d.refer x.1 false).push (.backref x.1), x.2)
  | .conditional => (readConditional d r).text
  | .flags => (readFlags r d.flags false r).text.map fun x =>
      (if x.1.2 then { d.openLevel (.plain d.flags) with flags := x.1.1 }
        else { d.push .empty with flags := x.1.1 }, x.2)
  | .capture => .ok (d.openCapture, r)

theorem readGroup_text (d : Draft) (s : List Char) :
    (readGroup d s).text =
      if nestingBound ≤ d.levels.length + 1 then .error .nestingTooDeep
      else (Gap.outside.skip d.flags.verbose s).bind (groupText d) := by
  unfold readGroup
  split
  · rfl
  · rw [← skipGaps_text]
    cases skipGaps d.flags.verbose s with
    | error e => rfl
    | ok u =>
      obtain ⟨u, hu⟩ := u
      unfold groupText
      simp only [Except.bind, Except.map]
      cases (opening u).1 with
      | level kind => rfl
      | named =>
        dsimp only
        cases readName false '>' (u.drop (opening u).2) <;> rfl
      | reference =>
        dsimp only
        cases readNamed d.scope false ')' (u.drop (opening u).2) <;> rfl
      | conditional => exact Reading.text_within _ _
      | flags =>
        dsimp only
        cases readFlags (u.drop (opening u).2) d.flags false (u.drop (opening u).2) with
        | error e => rfl
        | ok x =>
          obtain ⟨⟨flags, opens⟩, rest⟩ := x
          cases opens <;> rfl
      | capture => rfl

/-- What a closed group becomes, as a text. -/
def closedText (outer : Draft) (body : Tree) (s : List Char) :
    LevelKind → Except Fault (Draft × List Char)
  | .capture index => .ok (outer.push (.group index body), s)
  | .plain flags => .ok ({ outer.push body.enclosed with flags := flags }, s)
  | .look direction negated => .ok (outer.push (.look direction negated body.bare), s)
  | .atomic => .ok (outer.push (.atomic body), s)
  | .condition => conditionalText outer body.asCondition s
  | .branches condition => .ok (outer.push (.conditionalOf condition body), s)

theorem closeGroup_text (d : Draft) (s : List Char) :
    (closeGroup d s).text = d.checkEnd.bind fun _ =>
      match d.levels with
      | [] => .error .endNotReached
      | level :: levels => closedText (d.leave level levels) d.body s level.kind := by
  unfold closeGroup
  cases d.checkEnd with
  | error e => rfl
  | ok u =>
    cases d.levels with
    | nil => rfl
    | cons level levels =>
      simp only [Except.bind, closedText]
      cases level.kind with
      | condition => exact openConditional_text _ _ s
      | _ => rfl

/-! ## Braces -/

/-- A brace begins a count or is a letter. -/
def braceText (d : Draft) (s : List Char) : Except Fault (Draft × List Char) :=
  if d.pending.isNone then .ok (d.push (.literal '\x7b' d.flags.anyCase), s)
  else
    match countText (readCount? d.flags.verbose s) with
    | some (count, r) => (readRepeated d count r).text
    | none => .ok (d.push (.literal '\x7b' d.flags.anyCase), s)

theorem readStep_brace_text (d : Draft) (s : List Char) :
    (readStep d '\x7b' s).text = braceText d s := by
  unfold braceText
  change Reading.text (if d.pending.isNone then _ else _) = _
  by_cases hpending : d.pending.isNone = true
  · rw [if_pos hpending, if_pos hpending]
    rfl
  · rw [if_neg hpending, if_neg hpending]
    cases readCount? d.flags.verbose s with
    | none => rfl
    | some x => exact Reading.text_within _ _

/-! ## Steps by their first characters -/

/-- What a character is where a step begins. -/
inductive Role where
  | repeats (count : Repetition)
  | opening
  | closing
  | bar
  | bracket
  | escape
  | brace
  | item

/-- The role of a character. -/
def Role.ofChar (c : Char) : Role :=
  match countOf? c with
  | some count => .repeats count
  | none =>
    match c with
    | '(' => .opening
    | ')' => .closing
    | '|' => .bar
    | '[' => .bracket
    | '\\' => .escape
    | '\x7b' => .brace
    | _ => .item

theorem eq_of_role_escape {c : Char} (h : Role.ofChar c = .escape) : c = '\\' := by
  unfold Role.ofChar at h
  split at h
  · cases h
  · split at h <;> first | rfl | cases h

/-- The item that a character is if it is nothing else. -/
def Flags.item (flags : Flags) : Char → Tree
  | '.' => .any flags.dotAll
  | '^' => .assertion (if flags.multiLine then .startLine else .startText)
  | '$' => .assertion (if flags.multiLine then .endLine else .endText)
  | c => .literal c flags.anyCase

/-- What a step makes of a character in that role. -/
def stepText (d : Draft) (c : Char) (s : List Char) : Role → Except Fault (Draft × List Char)
  | .repeats count => (readRepeated d count s).text
  | .opening => (readGroup d s).text
  | .closing => (closeGroup d s).text
  | .bar => .ok (d.branch, s)
  | .bracket =>
    (readClass d.scope s).text.map fun x => (d.push (.fragment x.1 d.flags.anyCase), x.2)
  | .escape => (readEscape d.scope false s).text.map fun x => (d.pushEscaped x.1, x.2)
  | .brace => braceText d s
  | .item => .ok (d.push (d.flags.item c), s)

/-- **What a step does**, by the role of the character that it begins with. -/
theorem readStep_text (d : Draft) (c : Char) (s : List Char) :
    (readStep d c s).text = stepText d c s (.ofChar c) := by
  by_cases hbrace : c = '\x7b'
  · subst hbrace
    exact readStep_brace_text d s
  · unfold readStep Role.ofChar
    cases countOf? c with
    | some count => rfl
    | none =>
      dsimp only
      split
      · rfl
      · rfl
      · rfl
      · exact text_map _ fun text => d.push (.fragment text d.flags.anyCase)
      · exact text_map _ d.pushEscaped
      · rfl
      · rfl
      · rfl
      · exact absurd rfl hbrace
      · simp_all [stepText, Flags.item]

end Texts

/-! ## What is left over -/

section Leftover

variable {α β : Type} {s r : List Char}

theorem suffix_of_skip {g : Gap} {v : Bool} (h : g.skip v s = .ok r) : r <:+ s := by
  fun_induction Gap.skip v g s with
  | case1 => cases h; exact List.suffix_rfl
  | case2 => cases h; exact List.suffix_rfl
  | case3 => cases h
  | case4 => cases h
  | case5 c s ih => exact (ih h).trans (List.suffix_cons c s)
  | case6 c s ih => exact (ih h).trans (List.suffix_cons c s)
  | case7 c s ih => exact (ih h).trans (List.suffix_cons c s)
  | case8 c s _ ih => exact (ih h).trans (List.suffix_cons c s)
  | case9 c s _ _ ih => exact (ih h).trans (List.suffix_cons c s)
  | case10 c s _ _ _ ih => exact (ih h).trans (List.suffix_cons c s)
  | case11 => cases h; exact List.suffix_rfl

theorem suffix_of_readName {relative : Bool} {close : Char} {a : List Char}
    (h : (readName relative close s).text = .ok (a, r)) : r <:+ s := by
  obtain ⟨-, -, rfl⟩ := readName_eq_ok.mp h
  exact (List.suffix_cons close r).trans (List.suffix_append a _)

theorem suffix_of_readNamed {scope : Scope} {relative : Bool} {close : Char} {i : Nat}
    (h : (readNamed scope relative close s).text = .ok (i, r)) : r <:+ s := by
  obtain ⟨name, hname, -⟩ := readNamed_eq_ok.mp h
  exact suffix_of_readName hname

theorem suffix_of_readQuoted {scope : Scope} {i : Nat}
    (h : (readQuoted scope s).text = .ok (i, r)) : r <:+ s := by
  unfold readQuoted at h
  split at h
  · rw [Reading.text_within] at h
    exact (suffix_of_readNamed h).trans (List.suffix_cons _ _)
  · rw [Reading.text_within] at h
    exact (suffix_of_readNamed h).trans (List.suffix_cons _ _)
  · cases h

theorem suffix_of_readNumber {scope : Scope} {i : Nat}
    (h : (readNumber scope s).text = .ok (i, r)) : r <:+ s := by
  obtain ⟨-, -, rfl⟩ := readNumber_eq_ok.mp h
  exact List.dropWhile_suffix _

theorem suffix_of_readHexBraced {c : Char} (h : (readHexBraced s).text = .ok (c, r)) :
    r <:+ s := by
  cases s with
  | nil => cases h
  | cons e s =>
    by_cases he : e = '\x7b'
    · subst he
      cases hd : s.dropWhile isHexDigit with
      | nil => exact absurd hd (dropWhile_of_readHexBraced h)
      | cons d u =>
        rw [readHexBraced_of_cons hd] at h
        split at h
        · obtain ⟨_, -, heq⟩ := map_eq_ok.mp h
          cases heq
          exact (List.suffix_cons d _).trans (hd ▸ (List.dropWhile_suffix _).trans
            (List.suffix_cons _ s))
        · cases h
    · rw [readHexBraced_of_ne he] at h
      cases h

theorem suffix_of_readHex {count : Nat} {c : Char} (h : (readHex count s).text = .ok (c, r)) :
    r <:+ s := by
  rw [readHex_text] at h
  split at h
  · obtain ⟨_, -, heq⟩ := map_eq_ok.mp h
    cases heq
    exact List.drop_suffix count s
  · exact suffix_of_readHexBraced h

theorem suffix_of_readProperty {a : List Char} (h : (readProperty s).text = .ok (a, r)) :
    r <:+ s := by
  cases s with
  | nil => cases h
  | cons e s =>
    by_cases he : e = '\x7b'
    · subst he
      cases hd : s.dropWhile (· != '\x7d') with
      | nil =>
        rw [readProperty] at h
        split at h
        · cases h
        · rename_i hcons
          rw [hd] at hcons
          cases hcons
      | cons d u =>
        rw [readProperty_of_cons hd] at h
        cases h
        exact (List.suffix_cons d _).trans (hd ▸ (List.dropWhile_suffix _).trans
          (List.suffix_cons _ s))
    · rw [readProperty_of_ne he] at h
      cases h
      exact List.suffix_cons e _

theorem suffix_of_map {x : Except Fault (α × List Char)} {f : α × List Char → β × List Char}
    {b : β} (h : x.map f = .ok (b, r)) (hf : ∀ y, (f y).2 = y.2)
    (hx : ∀ a, x = .ok (a, r) → r <:+ s) : r <:+ s := by
  obtain ⟨⟨a, r'⟩, ha, heq⟩ := map_eq_ok.mp h
  obtain rfl : r' = r := (hf (a, r')).symm.trans (congrArg Prod.snd heq)
  exact hx a ha

theorem suffix_of_readEscape {scope : Scope} {inClass : Bool} {e : Escaped}
    (h : (readEscape scope inClass s).text = .ok (e, r)) : r <:+ s := by
  cases s with
  | nil => cases h
  | cons c s =>
    have hs := List.suffix_cons c s
    replace h := readEscape_eq_ok.mp h
    unfold escapeText at h
    dsimp only at h
    split_ifs at h
    · exact suffix_of_map h (fun _ => rfl) fun a ha => suffix_of_readNumber ha
    · exact suffix_of_map h (fun _ => rfl) fun a ha => (suffix_of_readQuoted ha).trans hs
    · exact suffix_of_map h (fun _ => rfl) fun a ha => (suffix_of_readHex ha).trans hs
    · exact suffix_of_map h (fun _ => rfl) fun a ha => (suffix_of_readHex ha).trans hs
    · exact suffix_of_map h (fun _ => rfl) fun a ha => (suffix_of_readHex ha).trans hs
    · exact suffix_of_map h (fun _ => rfl) fun a ha => (suffix_of_readProperty ha).trans hs
    · obtain ⟨_, -, heq⟩ := map_eq_ok.mp h
      cases heq
      exact hs

theorem suffix_of_readBrackets {scope : Scope} {depth : Nat} {text a : List Char}
    (h : (readBrackets scope depth text s).text = .ok (a, r)) : r <:+ s := by
  induction hlength : s.length using Nat.strongRecOn generalizing depth text s with
  | ind m ih =>
    cases s with
    | nil =>
      rw [readBrackets] at h
      cases h
    | cons c s =>
      have hs : s.length < m := by
        rw [← hlength]
        exact Nat.lt_succ_self _
      rw [readBrackets_cons] at h
      refine List.IsSuffix.trans ?_ (List.suffix_cons c s)
      split_ifs at h
      · obtain ⟨⟨e, u⟩, he, h⟩ := bind_eq_ok.mp h
        obtain ⟨w, -, h⟩ := bind_eq_ok.mp h
        have hu : u.length < m := Nat.lt_of_le_of_lt (Reading.length_le_of_text he) hs
        exact (ih _ hu h rfl).trans (suffix_of_readEscape he)
      · exact ih _ hs h rfl
      · cases h
        exact List.suffix_rfl
      · exact ih _ hs h rfl
      · exact ih _ hs h rfl

theorem suffix_of_readClass {scope : Scope} {a : List Char}
    (h : (readClass scope s).text = .ok (a, r)) : r <:+ s := by
  rw [readClass_text] at h
  exact suffix_of_map h (fun _ => rfl) fun a ha => (suffix_of_readBrackets ha).trans (List.drop_suffix _ s)

theorem suffix_of_readFlags {start : List Char} {flags : Flags} {negated : Bool}
    {a : Flags × Bool} (h : (readFlags start flags negated s).text = .ok (a, r)) : r <:+ s := by
  induction hlength : s.length using Nat.strongRecOn generalizing flags negated s with
  | ind m ih =>
    rw [readFlags_text] at h
    obtain ⟨u, hu, h⟩ := bind_eq_ok.mp h
    have hus := suffix_of_skip hu
    cases u with
    | nil => cases h
    | cons c u =>
      have hum : u.length < m := by
        have := hus.length_le
        rw [hlength, List.length_cons] at this
        omega
      refine List.IsSuffix.trans ?_ ((List.suffix_cons c u).trans hus)
      dsimp only at h
      split_ifs at h
      · cases h
        exact List.suffix_rfl
      · cases h
        exact List.suffix_rfl
      · exact ih _ hum h rfl
      · exact ih _ hum h rfl
      · cases hflags : flags.set? c (!negated) with
        | none =>
          rw [hflags] at h
          cases h
        | some flags' =>
          rw [hflags] at h
          exact ih _ hum h rfl

/-! ### Counts -/

theorem suffix_readMost (s : List Char) : (readMost s).2.1 <:+ s := by
  have hs := readMost_text s
  split at hs
  · rw [(Prod.mk.inj hs).2]
    exact List.dropWhile_suffix _
  · exact ⟨[], (Prod.mk.inj hs).2⟩

theorem suffix_of_readBounds {v : Bool} {least : Nat} {count : Repetition}
    (h : countText (readBounds v least s) = some (count, r)) : r <:+ s := by
  rcases readBounds_eq_some.mp h with ⟨u, w, hu, hw, hbrace, -⟩ | ⟨hbrace, -⟩
  · have hmost : r <:+ w :=
      (List.suffix_cons _ r).trans ((suffix_of_skip hbrace).trans (suffix_readMost w))
    exact hmost.trans ((suffix_of_skip hw).trans ((List.suffix_cons _ u).trans (suffix_of_skip hu)))
  · exact (List.suffix_cons _ r).trans (suffix_of_skip hbrace)

theorem suffix_of_readCount? {v : Bool} {count : Repetition}
    (h : countText (readCount? v s) = some (count, r)) : r <:+ s := by
  obtain ⟨u, hu, h⟩ := readCount?_eq_some.mp h
  refine List.IsSuffix.trans ?_ (suffix_of_skip hu)
  split at h
  · exact suffix_of_readBounds h
  · obtain ⟨least, -, h⟩ := h
    exact (suffix_of_readBounds h).trans (List.dropWhile_suffix _)

theorem suffix_readMark (mark : Char) (s : List Char) : (readMark mark s).2.1 <:+ s := by
  have hs := readMark_text mark s
  split at hs
  · rw [(Prod.mk.inj hs).2]
    exact List.tail_suffix s
  · exact ⟨[], (Prod.mk.inj hs).2⟩

/-! ### Steps -/

variable {d d' : Draft}

theorem suffix_of_readRepeated {count : Repetition}
    (h : (readRepeated d count s).text = .ok (d', r)) : r <:+ s := by
  rw [readRepeated_text] at h
  split at h
  · cases h
  · split at h
    · cases h
    · obtain ⟨u, hu, heq⟩ := map_eq_ok.mp h
      cases heq
      exact ((suffix_readMark '+' _).trans (suffix_readMark '?' u)).trans (suffix_of_skip hu)

theorem suffix_of_conditionalText {condition : Tree}
    (h : conditionalText d condition s = .ok (d', r)) : r <:+ s := by
  rcases conditionalText_eq_ok.mp h with ⟨index, rfl, rfl, -, -⟩ | ⟨c, u, -, rfl, rfl, -⟩
  · exact List.suffix_cons _ r
  · exact List.suffix_rfl

theorem suffix_of_referenceText {numbered : Bool} {index : Nat}
    (h : referenceText d numbered (index, s) = .ok (d', r)) : r <:+ s := by
  obtain ⟨u, rfl, hu⟩ := referenceText_eq_ok.mp h
  exact (suffix_of_conditionalText hu).trans (List.suffix_cons _ u)

theorem suffix_of_readConditional (h : (readConditional d s).text = .ok (d', r)) : r <:+ s := by
  rw [readConditional_text] at h
  split at h
  · cases h
  · split_ifs at h
    · obtain ⟨⟨index, u⟩, hu, h⟩ := bind_eq_ok.mp h
      exact (suffix_of_referenceText h).trans (suffix_of_readNumber hu)
    · obtain ⟨⟨index, u⟩, hu, h⟩ := bind_eq_ok.mp h
      exact (suffix_of_referenceText h).trans (suffix_of_readQuoted hu)
    · cases h
      exact List.suffix_rfl

theorem suffix_of_groupText (h : groupText d s = .ok (d', r)) : r <:+ s := by
  have hdrop := List.drop_suffix (opening s).2 s
  unfold groupText at h
  dsimp only at h
  split at h
  · cases h
    exact hdrop
  · exact suffix_of_map h (fun _ => rfl) fun a ha => (suffix_of_readName ha).trans hdrop
  · exact suffix_of_map h (fun _ => rfl) fun a ha => (suffix_of_readNamed ha).trans hdrop
  · exact (suffix_of_readConditional h).trans hdrop
  · obtain ⟨⟨⟨flags, opens⟩, u⟩, hflags, heq⟩ := map_eq_ok.mp h
    cases heq
    exact (suffix_of_readFlags hflags).trans hdrop
  · cases h
    exact hdrop

theorem suffix_of_closeGroup (h : (closeGroup d s).text = .ok (d', r)) : r <:+ s := by
  rw [closeGroup_text] at h
  obtain ⟨u, -, h⟩ := bind_eq_ok.mp h
  split at h
  · cases h
  · unfold closedText at h
    split at h
    case h_5 => exact suffix_of_conditionalText h
    all_goals
      cases h
      exact List.suffix_rfl

theorem suffix_of_readGroup (h : (readGroup d s).text = .ok (d', r)) : r <:+ s := by
  rw [readGroup_text] at h
  split at h
  · cases h
  · obtain ⟨u, hu, h⟩ := bind_eq_ok.mp h
    exact (suffix_of_groupText h).trans (suffix_of_skip hu)

theorem suffix_of_braceText (h : braceText d s = .ok (d', r)) : r <:+ s := by
  unfold braceText at h
  split at h
  · cases h
    exact List.suffix_rfl
  · split at h
    · rename_i hcount
      exact (suffix_of_readRepeated h).trans (suffix_of_readCount? hcount)
    · cases h
      exact List.suffix_rfl

/-- **What a step leaves over** is the end of what it was given. -/
theorem readStep_suffix {c : Char} (h : (readStep d c s).text = .ok (d', r)) : r <:+ s := by
  rw [readStep_text] at h
  cases hrole : Role.ofChar c with rw [hrole] at h
  | repeats count => exact suffix_of_readRepeated h
  | opening => exact suffix_of_readGroup h
  | closing => exact suffix_of_closeGroup h
  | bracket => exact suffix_of_map h (fun _ => rfl) fun a ha => suffix_of_readClass ha
  | escape => exact suffix_of_map h (fun _ => rfl) fun a ha => suffix_of_readEscape ha
  | brace => exact suffix_of_braceText h
  | bar | item =>
    cases h
    exact List.suffix_rfl

/-- **A run goes from step to step.** What holds where only gaps are left, and in front of a step if
it holds behind it, holds of every run that comes to the end. -/
@[elab_as_elim]
theorem readAll_induction {d' : Draft} {motive : ∀ d s, readAll d s = .ok d' → Prop}
    (gaps : ∀ s (hs : Gap.outside.skip d'.flags.verbose s = .ok []),
      motive d' s ((readAll_of_skip hs).trans (readAll_nil d')))
    (step : ∀ d d₁ s c u r (hs : Gap.outside.skip d.flags.verbose s = .ok (c :: u))
      (hstep : (readStep d c u).text = .ok (d₁, r)) (hrest : readAll d₁ r = .ok d'),
      motive d₁ r hrest → motive d s ((readAll_of_step hs hstep).trans hrest))
    {d : Draft} {s : List Char} (h : readAll d s = .ok d') : motive d s h := by
  induction hn : s.length using Nat.strongRecOn generalizing d s with
  | ind n ih =>
    obtain ⟨u, hu, hrest⟩ := bind_eq_ok.mp ((readAll_text d s).symm.trans h)
    cases u with
    | nil =>
      cases hrest
      exact gaps s hu
    | cons c u =>
      obtain ⟨⟨d₁, r⟩, hstep, hrest⟩ := bind_eq_ok.mp hrest
      have hlength : r.length < n := by
        have hsuffix := (readStep_suffix hstep).length_le
        have hskip := (suffix_of_skip hu).length_le
        rw [hn, List.length_cons] at hskip
        omega
      exact step d d₁ s c u r hu hstep hrest (ih _ hlength hrest rfl)

end Leftover

end Verbal.Extended
