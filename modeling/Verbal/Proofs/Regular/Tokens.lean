import Verbal.Proofs.Regular.Brackets

/-!
# Tokens of patterns

A step of the reader is split into two: `readToken` reads a token, for which only the mode of the
text matters, and `Draft.take` takes it, for which the text does not matter.

* **`readStep_eq_ok`**: a step reads a token and takes it.
* **`takes_readToken`**: what follows a token matters only where it might continue the token, by a
  question mark or by a brace.
-/

namespace Verbal.Regular

open Verbal.Unicode

variable {v : Bool} {look : List Char → List Char → Prop}

/-! ## Names and switches -/

theorem readName_cons (name : List Char) (c : Char) (s : List Char) :
    (readName name (c :: s)).text =
      if c = '>' then .ok (name, s)
      else if isNameChar name.isEmpty c then (readName (c :: name) s).text
      else .error .groupNameInvalid := by
  rw [readName]
  split
  · rfl
  · split <;> simp

theorem exact_readName (name s : List Char) : Exact (fun s => (readName name s).text) s := by
  induction s generalizing name with
  | nil => nofun
  | cons c s ih =>
    exact Exact.cons (Exact.congr (Exact.ite (fun _ => exact_ok name) fun _ =>
      Exact.ite (fun _ => ih (c :: name)) fun _ => exact_error .groupNameInvalid)
      (readName_cons name c))

theorem readSwitches_cons (d : DraftSwitches) (c : Char) (s : List Char) :
    (readSwitches d (c :: s)).text =
      if c = ':' || c = ')' then
        if d.dangling then .error .flagNegationDangling
        else .ok ((d.switches.reverse, c == ':'), s)
      else if c = '-' then
        if d.negated then .error .flagNegationRepeated
        else (readSwitches { d with negated := true, dangling := true } s).text
      else
        match Flag.ofChar? c with
        | none => .error .flagUnknown
        | some flag =>
          if d.switches.any (·.1 == flag) then .error .flagDuplicate
          else
            (readSwitches { d with switches := (flag, !d.negated) :: d.switches, dangling := false }
              s).text := by
  rw [readSwitches]
  split
  · split <;> rfl
  · split
    · split <;> simp
    · cases Flag.ofChar? c with
      | none => rfl
      | some flag =>
        dsimp only
        split
        · rfl
        · exact Reading.text_within _ _

theorem exact_readSwitches (d : DraftSwitches) (s : List Char) :
    Exact (fun s => (readSwitches d s).text) s := by
  induction s generalizing d with
  | nil => nofun
  | cons c s ih =>
    refine Exact.cons (Exact.congr (Exact.ite (fun _ => Exact.ite (fun _ => exact_error _)
      fun _ => exact_ok _) fun _ => Exact.ite (fun _ => Exact.ite (fun _ => exact_error _)
      fun _ => ih _) fun _ => ?_) (readSwitches_cons d c))
    cases Flag.ofChar? c with
    | none => exact exact_error _
    | some flag => exact Exact.ite (fun _ => exact_error _) fun _ => ih _

/-! ## Counts -/

/-- Digits and what follows them. -/
def digitsText (v : Bool) (digits s : List Char) : Except Fault (List Char × List Char) :=
  .ok ((readDigits v digits s).1, (readDigits v digits s).2.1)

theorem digitsText_cons (v : Bool) (digits : List Char) (c : Char) (s : List Char) :
    digitsText v digits (c :: s) =
      if c.isDigit then digitsText v (c :: digits) (skipBlanks v s) else .ok (digits, c :: s) := by
  unfold digitsText
  rw [readDigits]
  split <;> rfl

theorem upTo_digitsText (digits s : List Char) : UpTo (digitsText v digits) s := by
  induction hn : s.length using Nat.strongRecOn generalizing digits s with
  | ind n ih =>
    cases s with
    | nil =>
      intro a c r h
      simp [digitsText, readDigits] at h
    | cons c s =>
      by_cases hc : c.isDigit = true
      · refine UpTo.cons (UpTo.congr (f := fun s => digitsText v (c :: digits) (skipBlanks v s))
          (UpTo.skip (ih _ ?_ _ _ rfl)) fun s => ?_)
        · have := skipBlanks_length_le v s
          simp only [List.length_cons] at hn
          omega
        · rw [digitsText_cons, if_pos hc]
      · exact upTo_of_stays fun t => by rw [digitsText_cons, if_neg hc]

/-- A count and what follows it. -/
def decimalText (v : Bool) (s : List Char) : Except Fault (Except Fault Nat × List Char) :=
  .ok ((readDecimal v s).1, (readDecimal v s).2.1)

/-- The count that digits stand for, the last one first. -/
def countOf (digits : List Char) : Except Fault Nat :=
  if digits.isEmpty then .error .repetitionWithoutCount
  else if ofDigits digits < UInt32.size then .ok (ofDigits digits)
  else .error .decimalTooLarge

theorem decimalText_eq (v : Bool) (s : List Char) :
    decimalText v s = (digitsText v [] (s.dropWhile isSpace)).bind fun x =>
      .ok (countOf x.1, x.2.dropWhile isSpace) := rfl

theorem upTo_decimalText (s : List Char) : UpTo (decimalText v) s := by
  refine UpTo.congr (UpTo.bind (f := fun s => digitsText v [] (s.dropWhile isSpace))
    (g := fun digits s => .ok (countOf digits, s.dropWhile isSpace))
    (UpTo.dropWhile (upTo_digitsText [] _)) fun digits r _ => ?_) (decimalText_eq v)
  exact UpTo.dropWhile (f := fun s => .ok (countOf digits, s)) (exact_ok (countOf digits)).upTo

theorem readCountEnd_cons (v : Bool) (least : Except Fault Nat) (c : Char) (s : List Char) :
    (readCountEnd v least (c :: s)).text =
      if c ≠ ',' then (least.map fun n => ⟨n, some n⟩).map fun count => (count, c :: s)
      else afterBlanks v .repetitionUnclosed (fun d r =>
        if d = '\x7d' then (least.map fun n => ⟨n, none⟩).map fun count => (count, d :: r)
        else (decimalText v (d :: r)).bind fun x =>
          (least.bind fun n => x.1.map fun m => (⟨n, some m⟩ : Repetition)).map
            fun count => (count, x.2)) s := by
  unfold readCountEnd
  dsimp only
  split
  · cases least <;> rfl
  · unfold afterBlanks
    split
    · rename_i hs _
      simp [hs]
    · rename_i d r _ hs _
      simp only [hs]
      split
      · cases least <;> rfl
      · simp only [decimalText, Except.bind]
        cases least with
        | error e => rfl
        | ok n => cases (readDecimal v (d :: r)).1 <;> rfl

theorem upTo_readCountEnd (least : Except Fault Nat) (s : List Char) :
    UpTo (fun s => (readCountEnd v least s).text) s := by
  cases s with
  | nil =>
    intro a c r h
    cases h
  | cons c s =>
    by_cases hc : c = ','
    · refine UpTo.cons (UpTo.congr (UpTo.skip (f := afterBlanks false .repetitionUnclosed fun d r =>
        if d = '\x7d' then (least.map fun n => ⟨n, none⟩).map fun count => (count, d :: r)
        else (decimalText v (d :: r)).bind fun x =>
          (least.bind fun n => x.1.map fun m => (⟨n, some m⟩ : Repetition)).map
            fun count => (count, x.2)) ?_) fun s => by
              rw [readCountEnd_cons, if_neg (not_not_intro hc)]; rfl)
      cases skipBlanks v s with
      | nil => intro a d r h; cases h
      | cons d s =>
        by_cases hd : d = '\x7d'
        · exact (exact_value (least.map fun n => ⟨n, none⟩)).upTo.congr_cons fun s => by
            simp only [afterBlanks, skipBlanks_false, if_pos hd]
        · exact (UpTo.bind (f := decimalText v) (upTo_decimalText (d :: s)) fun value r _ =>
            (exact_value (least.bind fun n => value.map fun m =>
              (⟨n, some m⟩ : Repetition))).upTo).congr_cons fun s => by
                simp only [afterBlanks, skipBlanks_false, if_neg hd]
    · exact (exact_value (least.map fun n => (⟨n, some n⟩ : Repetition))).upTo.congr_cons
        fun s => by simp only [readCountEnd_cons, if_pos hc]

/-! ## Reluctance -/

/-- Texts look alike behind a repetition if neither makes it reluctant unless the other does. -/
structure MarksAlike (v : Bool) (s t : List Char) : Prop where
  here : t.head? = some '?' → s.head? = some '?'
  later : (skipBlanks v t).head? = some '?' → (skipBlanks v s).head? = some '?'

/-- Whether a repetition is reluctant, and what follows. -/
def reluctantText (s : List Char) : Except Fault (Bool × List Char) :=
  .ok ((readReluctant s).1, (readReluctant s).2.1)

theorem reluctantText_of_ne {s : List Char} (h : s.head? ≠ some '?') :
    reluctantText s = .ok (false, s) := by
  unfold reluctantText readReluctant
  split
  · exact absurd rfl h
  · rfl

theorem takes_reluctantText (s : List Char) :
    Takes v (MarksAlike v) reluctantText s := by
  intro a r h
  by_cases hs : s.head? = some '?'
  · cases s with
    | nil => cases hs
    | cons c s =>
      obtain rfl : c = '?' := by simpa using hs
      cases h
      exact ⟨['?'], s, false, rfl, nofun, rfl, fun t _ => rfl⟩
  · rw [reluctantText_of_ne hs] at h
    cases h
    exact ⟨[], s, false, rfl, nofun, rfl, fun t ht => reluctantText_of_ne fun h => hs (ht.here h)⟩

theorem takes_reluctantText_later (s : List Char) :
    Takes v (MarksAlike v) (fun s => reluctantText (skipBlanks v s)) s := by
  intro a r h
  by_cases hs : (skipBlanks v s).head? = some '?'
  · cases hskip : skipBlanks v s with
    | nil => rw [hskip] at hs; cases hs
    | cons c s' =>
      obtain rfl : c = '?' := by simpa [hskip] using hs
      simp only [hskip] at h
      cases h
      obtain ⟨b, rfl, hb⟩ := skipBlanks_eq_cons hskip
      refine ⟨b ++ ['?'], s', false, by simp, nofun, rfl, fun t _ => ?_⟩
      simp only [List.append_assoc, List.cons_append, List.nil_append, hb]
      rfl
  · simp only [reluctantText_of_ne hs] at h
    cases h
    exact ⟨[], s, v, rfl, id, rfl, fun t ht => reluctantText_of_ne fun h => hs (ht.later h)⟩

/-- Closes a count, and tells whether the repetition is reluctant. -/
def closeCount (v : Bool) (count : Repetition) :
    List Char → Except Fault ((Repetition × Bool) × List Char)
  | [] => .error .repetitionUnclosed
  | c :: r =>
    if c ≠ '\x7d' then .error .repetitionUnclosed
    else (reluctantText (skipBlanks v r)).bind fun x =>
      (count.check.map fun _ => (count, x.1)).map fun y => (y, x.2)

theorem readCount_text (v : Bool) (s : List Char) :
    (readCount v s).text = afterBlanks v .repetitionUnclosed (fun c r =>
      ((decimalText v (c :: r)).bind fun x => (readCountEnd v x.1 x.2).text).bind
        fun y => closeCount v y.1 y.2) s := by
  unfold readCount afterBlanks
  split
  · rename_i hs _
    simp [hs]
  · rename_i c r _ hs _
    simp only [hs]
    rw [Reading.text_bind _ (g := fun count r => closeCount v count r), Reading.text_within]
    · rfl
    · rintro count ⟨_ | ⟨d, r'⟩, h⟩
      · rfl
      · simp only [closeCount, reluctantText]
        split
        · rfl
        · cases count.check <;> rfl

/-- Texts look alike to an item that has been read. -/
structure LooksAlike (v : Bool) (s t : List Char) : Prop extends MarksAlike v s t where
  names : NamesAlike v s t

theorem looksAlike_nil (s : List Char) : LooksAlike v s [] where
  here := nofun
  later h := by cases v <;> cases h
  names := nofun

theorem takes_readCount (s : List Char) :
    Takes v (LooksAlike v) (fun s => (readCount v s).text) s := by
  refine Takes.congr (Takes.afterBlanks fun c r hs => ?_) (readCount_text v)
  refine Takes.of_cons (f := fun s => ((decimalText v s).bind fun x =>
    (readCountEnd v x.1 x.2).text).bind fun y => closeCount v y.1 y.2) ?_ looksAlike_nil ?_
  · refine UpTo.bind_takes (f := fun s => (decimalText v s).bind fun x =>
      (readCountEnd v x.1 x.2).text) (UpTo.bind (upTo_decimalText (c :: r)) fun least r _ =>
        upTo_readCountEnd least r) (fun count b => by simp [closeCount]) fun count d r _ => ?_
    by_cases hd : d = '\x7d'
    · refine Takes.congr (((takes_reluctantText_later r).map_value fun reluctant =>
        count.check.map fun _ => (count, reluctant)).mono fun u t h => h.toMarksAlike) fun s => ?_
      simp only [closeCount, if_neg (not_not_intro hd)]
    · exact (exact_error .repetitionUnclosed).takes.congr fun s => by
        simp only [closeCount, if_pos hd]
  · intro x h
    obtain ⟨y, hy, -⟩ := bind_eq_ok.mp h
    obtain ⟨z, hz, hy⟩ := bind_eq_ok.mp hy
    have hnil : z.2 = [] := by
      cases hz
      simp [readDecimal, readDigits]
    rw [hnil] at hy
    cases hy

/-! ## Tokens -/

/-- What a pattern is made of: items, repetitions of the item in front of them, bars, and the
brackets of groups. -/
inductive Token where
  | primitive (p : Primitive)
  | set (item : ClassItem)
  | repetition (count : Repetition) (reluctant : Bool)
  | bar
  | close
  | capture
  | named (name : List Char)
  | switches (switches : Switches) (opens : Bool)

/-- What has been read of a pattern after one more token. -/
def Draft.take (d : Draft) : Token → Except Fault Draft
  | .primitive p => .ok (d.push (.primitive p))
  | .set item => .ok (d.push (.set item))
  | .repetition count reluctant => d.repeatLast count reluctant
  | .bar => .ok d.branch
  | .close => d.closeGroup
  | .capture => .ok d.openCapture
  | .named name => d.openNamed name
  | .switches switches opens => d.switch switches opens

/-- Reads what follows an opening parenthesis and a question mark. -/
def readQuestion (s : List Char) : Except Fault (Token × List Char) :=
  match opening ('?' :: s) with
  | .lookAround => .error .lookAround
  | .named n => (readName [] (('?' :: s).drop n)).text.bind fun x => .ok (.named x.1.reverse, x.2)
  | .switches =>
    match s with
    | [] => .error .groupUnclosed
    | c :: r => (readSwitches ⟨[], false, false⟩ (c :: r)).text.bind fun x =>
      .ok (.switches x.1.1 x.1.2, x.2)
  | .capture => .ok (.capture, '?' :: s)

/-- Reads what follows an opening parenthesis. -/
def readParenthesis (v : Bool) (s : List Char) : Except Fault (Token × List Char) :=
  match skipBlanks v s with
  | '?' :: r => readQuestion r
  | t => .ok (.capture, t)

/-- Reads the token that begins with the given character. -/
def readToken (v : Bool) (c : Char) (s : List Char) : Except Fault (Token × List Char) :=
  match Repetition.ofChar? c with
  | some count => (reluctantText s).bind fun x => .ok (.repetition count x.1, x.2)
  | none =>
    match c with
    | '(' => readParenthesis v s
    | ')' => .ok (.close, s)
    | '|' => .ok (.bar, s)
    | '[' => (readClass v s).text.bind fun x => .ok (.set x.1, x.2)
    | '\x7b' => (readCount v s).text.bind fun x => .ok (.repetition x.1.1 x.1.2, x.2)
    | '\\' => (readEscape v s).text.bind fun x => .ok (.primitive x.1, x.2)
    | '.' => .ok (.primitive .dot, s)
    | '^' => .ok (.primitive (.assertion .startLine), s)
    | '$' => .ok (.primitive (.assertion .endLine), s)
    | c => .ok (.primitive (.letter ⟨c, false⟩), s)

theorem opening_of_ne {t : List Char} (h : t.head? ≠ some '?') : opening t = .capture := by
  unfold opening
  split <;> first | rfl | exact absurd rfl h

theorem opening_question_ne_capture (s : List Char) : opening ('?' :: s) ≠ .capture := by
  unfold opening
  split <;> simp_all

theorem readParenthesis_of_ne_capture {s : List Char}
    (h : opening (skipBlanks v s) ≠ .capture) :
    ∃ r, skipBlanks v s = '?' :: r ∧ readParenthesis v s = readQuestion r := by
  cases hs : skipBlanks v s with
  | nil => exact absurd (by rw [hs]; rfl) h
  | cons c r =>
    by_cases hc : c = '?'
    · subst hc
      exact ⟨r, rfl, by simp only [readParenthesis, hs]⟩
    · exact absurd (opening_of_ne (by simp [hs, hc])) h

theorem readParenthesis_of_capture {s : List Char} (h : opening (skipBlanks v s) = .capture) :
    readParenthesis v s = .ok (.capture, skipBlanks v s) := by
  unfold readParenthesis
  split
  · rename_i r hs
    rw [hs] at h
    exact absurd h (opening_question_ne_capture r)
  · rfl

theorem readGroup_text (d : Draft) (s : List Char) :
    (readGroup d s).text = (readParenthesis d.verbose s).bind fun x =>
      (d.take x.1).map fun d => (d, x.2) := by
  unfold readGroup
  dsimp only
  split
  · rename_i ho
    obtain ⟨r, hs, heq⟩ := readParenthesis_of_ne_capture (by rw [ho]; nofun)
    rw [hs] at ho
    simp only [heq, readQuestion, ho]
    rfl
  · rename_i n ho
    obtain ⟨r, hs, heq⟩ := readParenthesis_of_ne_capture (by rw [ho]; nofun)
    rw [Reading.text_bind _ (g := fun name r =>
      (d.take (.named name.reverse)).map fun d => (d, r)), Reading.text_within, heq, hs]
    · rw [hs] at ho
      simp only [readQuestion, ho]
      cases (readName [] (('?' :: r).drop n)).text <;> rfl
    · intro name rest
      exact Reading.text_map_value _ _
  · rename_i ho
    obtain ⟨r, hs, heq⟩ := readParenthesis_of_ne_capture (by rw [ho]; nofun)
    rw [hs] at ho
    simp only [heq, readQuestion, ho]
    split
    · rename_i htail _
      obtain rfl : r = [] := by simpa [hs] using htail
      rfl
    · rename_i c r' _ htail _
      obtain rfl : r = c :: r' := by simpa [hs] using htail
      rw [Reading.text_bind _ (g := fun x r =>
        (d.take (.switches x.1 x.2)).map fun d => (d, r)), Reading.text_within]
      · dsimp only
        cases (readSwitches ⟨[], false, false⟩ (c :: r')).text <;> rfl
      · intro x rest
        exact Reading.text_map_value _ _
  · rename_i ho
    rw [readParenthesis_of_capture ho]
    rfl

theorem readStep_text (d : Draft) {c : Char} (hc : c ≠ '\x7b') (s : List Char) :
    (readStep d c s).text = (readToken d.verbose c s).bind fun x =>
      (d.take x.1).map fun d => (d, x.2) := by
  unfold readStep readToken
  dsimp only
  cases Repetition.ofChar? c with
  | some count => exact Reading.text_map_value _ _
  | none =>
    dsimp only
    split
    · exact readGroup_text d s
    · exact Reading.text_map_value _ _
    · rfl
    · cases readClass d.verbose s <;> rfl
    · exact absurd rfl hc
    · cases readEscape d.verbose s <;> rfl
    · rfl
    · rfl
    · rfl
    · simp_all [Except.bind, Except.map, Draft.take]

theorem checkTarget_of_repeatLast {d d' : Draft} {count : Repetition} {reluctant : Bool}
    (h : d.repeatLast count reluctant = .ok d') : d.checkTarget = .ok () := by
  unfold Draft.repeatLast at h
  unfold Draft.checkTarget
  split at h <;> simp_all

theorem taken_iff {d d' : Draft} {x : Except Fault (Token × List Char)} {r : List Char} :
    (x.bind fun x => (d.take x.1).map fun d => (d, x.2)) = .ok (d', r) ↔
      ∃ token, x = .ok (token, r) ∧ d.take token = .ok d' := by
  rw [bind_eq_ok]
  constructor
  · rintro ⟨⟨token, r'⟩, hread, hmap⟩
    obtain ⟨d'', htake, heq⟩ := map_eq_ok.mp hmap
    cases heq
    exact ⟨token, hread, htake⟩
  · rintro ⟨token, hread, htake⟩
    exact ⟨_, hread, by rw [htake]; rfl⟩

/-- **A step reads a token**, which depends on the mode of the text only, and takes it. -/
theorem readStep_eq_ok {d d' : Draft} {c : Char} {s r : List Char} :
    (readStep d c s).text = .ok (d', r) ↔
      ∃ token, readToken d.verbose c s = .ok (token, r) ∧ d.take token = .ok d' := by
  by_cases hc : c = '\x7b'
  · subst hc
    have hstep : (readStep d '\x7b' s).text = d.checkTarget.bind fun _ =>
        (readToken d.verbose '\x7b' s).bind fun x => (d.take x.1).map fun d => (d, x.2) := by
      unfold readStep readToken
      simp only [Repetition.ofChar?]
      cases d.checkTarget with
      | error e => rfl
      | ok u =>
        cases readCount d.verbose s with
        | error e => rfl
        | ok x => exact Reading.text_map_value _ _
    rw [hstep, bind_eq_ok]
    constructor
    · rintro ⟨-, -, h⟩
      exact taken_iff.mp h
    intro h
    refine ⟨(), ?_, taken_iff.mpr h⟩
    obtain ⟨token, hread, htake⟩ := h
    -- the token is a count, so it is taken only if there is something to repeat
    obtain ⟨x, -, heq⟩ := bind_eq_ok.mp (show (readCount d.verbose s).text.bind _ = _ from hread)
    cases heq
    exact checkTarget_of_repeatLast htake
  · rw [readStep_text d hc, taken_iff]

/-! ### What a token looks at -/

theorem opening_switches {c : Char} (h : c ∉ ['=', '!', '<', 'P']) (s : List Char) :
    opening ('?' :: c :: s) = .switches := by
  unfold opening
  split <;> simp_all

theorem opening_named {c : Char} (h : c ∉ ['=', '!']) (s : List Char) :
    opening ('?' :: '<' :: c :: s) = .named 2 := by
  unfold opening
  split <;> simp_all
  rename_i hname heq
  exact hname _ heq.symm

theorem eq_of_opening_named {s : List Char} {n : Nat} (h : opening ('?' :: s) = .named n) :
    (∃ r, s = 'P' :: '<' :: r ∧ n = 3) ∨
      ∃ r, s = '<' :: r ∧ n = 2 ∧ r.head? ≠ some '=' ∧ r.head? ≠ some '!' := by
  unfold opening at h
  split at h
  case h_5 r heq =>
    cases heq
    cases h
    exact Or.inl ⟨r, rfl, rfl⟩
  case h_6 r h1 h2 heq =>
    cases heq
    cases h
    refine Or.inr ⟨r, rfl, rfl, fun hr => ?_, fun hr => ?_⟩
    all_goals cases r <;> simp_all
  all_goals cases h

theorem not_mem_of_opening_switches {c : Char} {s : List Char}
    (h : opening ('?' :: c :: s) = .switches) : c ∉ ['=', '!', '<'] := by
  intro hc
  simp only [List.mem_cons, List.not_mem_nil, or_false] at hc
  rcases hc with rfl | rfl | rfl
  · cases h
  · cases h
  · unfold opening at h
    split at h <;> simp_all
    rename_i hname heq
    exact hname _ heq.symm

/-- A name or switches behind a question mark end by themselves. -/
theorem exact_readQuestion (s : List Char) : Exact readQuestion s := by
  intro token r h
  unfold readQuestion at h
  split at h
  · cases h
  · rename_i n ho
    obtain ⟨⟨name, r'⟩, hname, heq⟩ := bind_eq_ok.mp h
    cases heq
    obtain ⟨p, hp, hpt⟩ := exact_readName [] _ name r' hname
    rcases eq_of_opening_named ho with ⟨q, rfl, rfl⟩ | ⟨q, rfl, rfl, heq, hbang⟩
    · obtain rfl : q = p ++ r' := hp
      refine ⟨'P' :: '<' :: p, rfl, fun t => ?_⟩
      exact bind_eq_ok.mpr ⟨_, hpt t, rfl⟩
    · obtain rfl : q = p ++ r' := hp
      cases p with
      | nil => cases hpt []
      | cons c p =>
        have hc : c ∉ ['=', '!'] := by simpa using And.intro heq hbang
        refine ⟨'<' :: c :: p, rfl, fun t => ?_⟩
        unfold readQuestion
        simp only [List.cons_append, opening_named hc]
        exact bind_eq_ok.mpr ⟨_, hpt t, rfl⟩
  · rename_i ho
    cases s with
    | nil => cases h
    | cons c s =>
      obtain ⟨⟨⟨switches, opens⟩, r'⟩, hread, heq⟩ := bind_eq_ok.mp h
      cases heq
      obtain ⟨p, hp, hpt⟩ := exact_readSwitches _ _ _ _ hread
      cases p with
      | nil => cases hpt []
      | cons d p =>
        obtain ⟨rfl, rfl⟩ := List.cons.inj hp
        have hc : c ∉ ['=', '!', '<', 'P'] := by
          have hother := not_mem_of_opening_switches ho
          intro hc
          obtain rfl : c = 'P' := by simp_all
          rw [readSwitches_cons] at hread
          cases hread
        refine ⟨c :: p, rfl, fun t => ?_⟩
        unfold readQuestion
        simp only [List.cons_append, opening_switches hc]
        exact bind_eq_ok.mpr ⟨_, hpt t, rfl⟩
  · rename_i ho
    exact absurd ho (opening_question_ne_capture s)

/-- Whether a token leaves the mode of the text as it is, whatever has been read before. -/
def Token.keepsMode : Token → Bool
  | close => false
  | switches _ _ => false
  | _ => true

/-- Whether a token that is read there, with `r` left over, is read of any text that goes on in a
way that looks alike. Blanks behind it are read with it only if it leaves the mode as it is. -/
def TakesToken (v : Bool) (c : Char) (s : List Char) (token : Token) (r : List Char) : Prop :=
  ∃ p u k, s = p ++ u ∧ (k = true → v = true ∧ token.keepsMode = true) ∧ r = skipBlanks k u ∧
    ∀ t, (token.keepsMode = true → LooksAlike v u t) →
      readToken v c (p ++ t) = .ok (token, skipBlanks k t)

section Takes

variable {c : Char} {s r : List Char} {token : Token}
  {f : List Char → Except Fault (Token × List Char)}

theorem Exact.takesToken (hf : Exact f s) (heq : ∀ s, readToken v c s = f s)
    (h : readToken v c s = .ok (token, r)) : TakesToken v c s token r := by
  obtain ⟨p, hs, hp⟩ := hf.congr heq token r h
  exact ⟨p, r, false, hs, nofun, rfl, fun t _ => hp t⟩

theorem Takes.takesToken (hf : Takes v (LooksAlike v) f s) (heq : ∀ s, readToken v c s = f s)
    (h : readToken v c s = .ok (token, r)) (hmode : token.keepsMode = true) :
    TakesToken v c s token r := by
  obtain ⟨p, u, k, hs, hk, hr, hp⟩ := hf.congr heq token r h
  exact ⟨p, u, k, hs, fun h => ⟨hk h, hmode⟩, hr, fun t ht => hp t (ht hmode)⟩

/-- A parenthesis is taken with the question mark behind it, or it opens a capture group. -/
theorem takesToken_parenthesis (h : readToken v '(' s = .ok (token, r)) :
    TakesToken v '(' s token r := by
  by_cases hmark : (skipBlanks v s).head? = some '?'
  · replace h : readParenthesis v s = .ok (token, r) := h
    cases hs : skipBlanks v s with
    | nil => rw [hs] at hmark; cases hmark
    | cons c r' =>
      obtain rfl : c = '?' := by simpa [hs] using hmark
      simp only [readParenthesis, hs] at h
      obtain ⟨p, rfl, hp⟩ := exact_readQuestion r' token r h
      obtain ⟨b, rfl, hb⟩ := skipBlanks_eq_cons hs
      refine ⟨b ++ '?' :: p, r, false, by simp, nofun, rfl, fun t _ => ?_⟩
      have hread : readToken v '(' (b ++ '?' :: (p ++ t)) = readQuestion (p ++ t) := by
        change readParenthesis v _ = _
        simp only [readParenthesis, hb]
      simpa using hread.trans (hp t)
  · have hread (s : List Char) (hs : (skipBlanks v s).head? ≠ some '?') :
        readToken v '(' s = .ok (.capture, skipBlanks v s) :=
      readParenthesis_of_capture (opening_of_ne hs)
    have h' := (hread s hmark).symm.trans h
    cases h'
    exact ⟨[], s, v, rfl, fun h => ⟨h, rfl⟩, rfl, fun t ht =>
      hread t fun h => hmark ((ht rfl).later h)⟩

/-- **What follows a token matters only where it might continue the token.** -/
theorem takes_readToken (h : readToken v c s = .ok (token, r)) : TakesToken v c s token r := by
  have hread := h
  unfold readToken at h
  split at h
  · rename_i count hcount
    obtain ⟨x, -, heq⟩ := bind_eq_ok.mp h
    cases heq
    refine Takes.takesToken (((takes_reluctantText s).map_value fun b =>
      .ok (.repetition count b)).mono fun u t ht => ht.toMarksAlike) (fun s => ?_) hread rfl
    simp only [readToken, hcount]
    rfl
  · rename_i hcount
    split at h
    · exact takesToken_parenthesis hread
    · exact (exact_ok _).takesToken (fun _ => rfl) hread
    · exact (exact_ok _).takesToken (fun _ => rfl) hread
    · exact ((exact_readClass s).bind fun item r _ => exact_ok (Token.set item)).takesToken
        (fun _ => rfl) hread
    · obtain ⟨x, -, heq⟩ := bind_eq_ok.mp h
      cases heq
      exact ((takes_readCount s).map_value fun x => .ok (.repetition x.1 x.2)).takesToken
        (fun _ => rfl) hread rfl
    · obtain ⟨x, -, heq⟩ := bind_eq_ok.mp h
      cases heq
      exact (((takes_readEscape s).map_value fun p => .ok (.primitive p)).mono
        fun u t ht => ht.names).takesToken (fun _ => rfl) hread rfl
    · exact (exact_ok _).takesToken (fun _ => rfl) hread
    · exact (exact_ok _).takesToken (fun _ => rfl) hread
    · exact (exact_ok _).takesToken (fun _ => rfl) hread
    · refine (exact_ok (.primitive (.letter ⟨c, false⟩))).takesToken (fun s => ?_) hread
      unfold readToken
      simp_all

end Takes

end Verbal.Regular
