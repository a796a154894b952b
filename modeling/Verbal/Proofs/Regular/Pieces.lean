import Verbal.Proofs.Segments
import Verbal.Proofs.Regular.Surroundings

/-!
# Reading the pieces of verbs

The piece of a plain verb is one item of a pattern, `Verb.ast?`. It is read as that item wherever
the mode of the text is not verbose, if what follows does not go on with a repetition.

* **`readAll_fragment`**: a piece is read as one item.
* `readClass_chars`, `readClass_negated`, `readClass_pairs`: the classes that verbs write.
-/

namespace Verbal.Regular

open Verbal.Unicode

/-! ## Items -/

/-- A character that stands for itself in a class. -/
def ClassItem.ofChar (c : Char) : ClassItem := .letter ⟨c, false⟩

/-- A range between characters that stand for themselves. -/
def ClassItem.ofPair (p : Char × Char) : ClassItem := .range ⟨p.1, false⟩ ⟨p.2, false⟩

namespace Ast

/-- A character that stands for itself. -/
def ofChar (c : Char) : Ast := .primitive (.letter ⟨c, false⟩)

/-- A group that does nothing but group. -/
def plainGroup (items : List Ast) : Ast := .group (.plain []) (.ofItems items)

/-- A class. -/
def ofClass (negated : Bool) (items : List ClassItem) : Ast :=
  .set (.bracketed negated (.ofItems items))

/-- Any number of rounds from `least` on. -/
def fromOn (least : Nat) (a : Ast) : Ast := .repetition ⟨least, none⟩ false a

end Ast

end Verbal.Regular

namespace Verbal

open Verbal.Regular Verbal.Unicode

/-- The item that the piece of a verb is read as. Settings have none. -/
def Verb.ast? : Verb → Option Ast
  | andThen value => some (.plainGroup (value.toList.map .ofChar))
  | maybe value => some (.repetition ⟨0, some 1⟩ false (.plainGroup (value.toList.map .ofChar)))
  | anything => some (.plainGroup [.fromOn 0 (.primitive .dot)])
  | anythingBut value =>
    some (.plainGroup [.fromOn 0 (.ofClass true (value.toList.map .ofChar))])
  | something => some (.plainGroup [.fromOn 1 (.primitive .dot)])
  | somethingBut value =>
    some (.plainGroup [.fromOn 1 (.ofClass true (value.toList.map .ofChar))])
  | linebreak =>
    some (.group (.plain []) (.alternate (.plainGroup [.ofChar '\n'])
      (.plainGroup [.ofChar '\r', .ofChar '\n'])))
  | tab => some (.ofChar '\t')
  | word => some (.fromOn 1 (.primitive (.perl .word false)))
  | anyOf value => some (.ofClass false (value.toList.map .ofChar))
  | range pairs => some (.ofClass false (pairs.map .ofPair))
  | _ => none

namespace Regular

/-! ## Reading classes -/

section Classes

variable {cls : OpenClass} {a b c : Char} {r text : List Char} {pairs : List (Char × Char)}

theorem operator_of_isPlainChar (h : IsPlainChar c) (r : List Char) :
    readItems.operator? c r = none := by
  have h1 := h.ne (d := '&') rfl
  have h2 := h.ne (d := '-') rfl
  have h3 := h.ne (d := '~') rfl
  simp [readItems.operator?, h1, h2, h3]

theorem readItem_letter (h : c ≠ '\\') (s : List Char) :
    (readItem false c s).text = .ok (.letter ⟨c, false⟩, s) := by
  rw [readItem_text, if_neg h]

theorem readRange_char (h : c ≠ '\\') (hb : b ≠ '-') :
    (readRange false c (b :: r)).text = .ok (.ofChar c, b :: r) := by
  rw [readRange_text, readItem_letter h]
  simp [Except.bind, afterBlanks, rangeEnd, hb, Primitive.asItem, Except.map, ClassItem.ofChar]

theorem readRange_pair (h : IsLegibleRange (a, b)) :
    (readRange false a ('-' :: b :: r)).text = .ok (.ofPair (a, b), r) := by
  obtain ⟨ha, hb, hab⟩ := h
  simp only [List.mem_cons, List.not_mem_nil, or_false, not_or] at ha hb
  rw [readRange_text, readItem_letter ha.1]
  simp [Except.bind, afterBlanks, rangeEnd, peekBlanks, hb, readItem_letter hb.1, rangeBetween,
    Primitive.asBoundary, hab, Except.map, bind, pure, Except.pure, ClassItem.ofPair]

theorem readItems_cons {item : ClassItem} {s : List Char} (hc : c ∉ ['[', ']'])
    (hoperator : readItems.operator? c s = none)
    (hitem : (readRange false c s).text = .ok (item, r)) :
    (readItems false [] cls (c :: s)).text = (readItems false [] (cls.push item) r).text := by
  simp only [List.mem_cons, List.not_mem_nil, or_false, not_or] at hc
  rw [readItems_text, afterBlanks, skipBlanks_false]
  dsimp only
  rw [if_neg hc.1, if_neg hc.2, hoperator]
  dsimp only
  rw [hitem]
  rfl

theorem readItems_close (cls : OpenClass) (r : List Char) :
    (readItems false [] cls (']' :: r)).text = .ok (cls.close, r) := by
  rw [readItems_text]
  rfl

theorem readItems_chars (h : ∀ c ∈ text, IsPlainChar c) (r : List Char) :
    (readItems false [] cls (text ++ ']' :: r)).text =
      .ok ({ cls with items := (text.map ClassItem.ofChar).reverse ++ cls.items }.close, r) := by
  induction text generalizing cls with
  | nil => exact readItems_close cls r
  | cons c text ih =>
    obtain ⟨hc, htext⟩ := List.forall_mem_cons.mp h
    have hitem : (readRange false c (text ++ ']' :: r)).text =
        .ok (.ofChar c, text ++ ']' :: r) := by
      cases text with
      | nil => exact readRange_char (hc.ne rfl) (by decide)
      | cons b text =>
        exact readRange_char (hc.ne rfl) ((List.forall_mem_cons.mp htext).1.ne rfl)
    rw [List.cons_append,
      readItems_cons (hc.notMem rfl) (operator_of_isPlainChar hc _) hitem, ih htext]
    simp [OpenClass.push]

/-- A dash makes a range of a bound that would make an operator with another one like it. -/
theorem readItems_pair {p : Char × Char} (h : IsLegibleRange p) (hopen : p.1 ≠ '[')
    (r : List Char) : (readItems false [] cls (rangeText p ++ r)).text =
      (readItems false [] (cls.push (.ofPair p)) r).text := by
  have hlo := h.1
  simp only [List.mem_cons, List.not_mem_nil, or_false, not_or] at hlo
  have hoperator : readItems.operator? p.1 ('-' :: p.2 :: r) = none := by
    simp [readItems.operator?, Ne.symm hlo.2.2]
  exact readItems_cons (by simp [hlo, hopen]) hoperator (readRange_pair h)

theorem readItems_pairs (h : ∀ p ∈ pairs, IsLegibleRange p) (hopen : ∀ p ∈ pairs, p.1 ≠ '[')
    (r : List Char) :
    (readItems false [] cls (pairs.flatMap rangeText ++ r)).text =
      (readItems false []
        { cls with items := (pairs.map .ofPair).reverse ++ cls.items } r).text := by
  induction pairs generalizing cls with
  | nil => rfl
  | cons p pairs ih =>
    obtain ⟨hp, hpairs⟩ := List.forall_mem_cons.mp h
    obtain ⟨hpopen, hopen⟩ := List.forall_mem_cons.mp hopen
    rw [List.flatMap_cons, List.append_assoc, readItems_pair hp hpopen, ih hpairs hopen]
    simp [OpenClass.push]

theorem readOpening_other (h : c ∉ ['^', '-', ']']) (r : List Char) :
    (readOpening false (c :: r)).text = .ok (⟨false, none, []⟩, c :: r) := by
  simp only [List.mem_cons, List.not_mem_nil, or_false, not_or] at h
  have hcaret : (c == '^') = false := beq_eq_false_iff_ne.mpr h.1
  rw [readOpening_text, afterBlanks, skipBlanks_false]
  dsimp only
  rw [hcaret, if_neg Bool.false_ne_true, readDashes_cons, if_neg h.2.1]
  simp [Except.bind, readFirstBracket_cons, h.2.2]

theorem readOpening_negated (h : IsPlainChar c) (r : List Char) :
    (readOpening false ('^' :: c :: r)).text = .ok (⟨true, none, []⟩, c :: r) := by
  have h2 := h.ne (d := '-') rfl
  have h3 := h.ne (d := ']') rfl
  rw [readOpening_text, afterBlanks, skipBlanks_false]
  dsimp only
  rw [if_pos (beq_self_eq_true '^'), skipBlanks_false, readDashes_cons, if_neg h2]
  simp [Except.bind, readFirstBracket_cons, h3]

theorem readClass_chars (hne : text ≠ []) (h : ∀ c ∈ text, IsPlainChar c) (r : List Char) :
    (readClass false (text ++ ']' :: r)).text =
      .ok (.bracketed false (.ofItems (text.map .ofChar)), r) := by
  obtain ⟨c, text, rfl⟩ := List.exists_cons_of_ne_nil hne
  rw [readClass_text, List.cons_append,
    readOpening_other ((List.forall_mem_cons.mp h).1.notMem rfl)]
  simp only [Except.bind, ← List.cons_append, readItems_chars h]
  simp [OpenClass.close, OpenClass.set]

theorem readClass_negated (hne : text ≠ []) (h : ∀ c ∈ text, IsPlainChar c) (r : List Char) :
    (readClass false ('^' :: (text ++ ']' :: r))).text =
      .ok (.bracketed true (.ofItems (text.map .ofChar)), r) := by
  obtain ⟨c, text, rfl⟩ := List.exists_cons_of_ne_nil hne
  rw [readClass_text, List.cons_append, readOpening_negated (List.forall_mem_cons.mp h).1]
  simp only [Except.bind, ← List.cons_append, readItems_chars h]
  simp [OpenClass.close, OpenClass.set]

/-- Nothing of the opening of a class is read in front of ranges. -/
theorem readOpening_pairs (h : AreLegibleRanges pairs) (r : List Char) :
    (readOpening false (pairs.flatMap rangeText ++ r)).text =
      .ok (⟨false, none, []⟩, pairs.flatMap rangeText ++ r) := by
  obtain ⟨p, pairs, rfl⟩ := List.exists_cons_of_ne_nil h.ne_nil
  have hcaret := h.first
  have hlo := (h.ranges p List.mem_cons_self).1
  exact readOpening_other (by simp_all) _

theorem readClass_pairs (h : AreLegibleRanges pairs) (hopen : ∀ p ∈ pairs, p.1 ≠ '[')
    (r : List Char) :
    (readClass false (pairs.flatMap rangeText ++ ']' :: r)).text =
      .ok (.bracketed false (.ofItems (pairs.map .ofPair)), r) := by
  rw [readClass_text, readOpening_pairs h]
  simp only [Except.bind, readItems_pairs h.ranges hopen, readItems_close]
  simp [OpenClass.close, OpenClass.set]

end Classes

/-! ## Reading pieces -/

namespace Draft

/-- Adds items. -/
def pushAll (d : Draft) (items : List Ast) : Draft := { d with items := items.reverse ++ d.items }

theorem pushAll_pushAll (d : Draft) (items items' : List Ast) :
    (d.pushAll items).pushAll items' = d.pushAll (items ++ items') := by
  simp [pushAll]

end Draft

section Pieces

variable {d : Draft} {text rest : List Char}

/-- Outside of verbose mode a token begins right where the text begins. -/
theorem readAll_token (hv : d.verbose = false) {d' : Draft} {c : Char} {s r : List Char}
    (token : Token) (hread : readToken false c s = .ok (token, r))
    (htake : d.take token = .ok d') : readAll d (c :: s) = readAll d' r :=
  readAll_of_token (by rw [hv, skipBlanks_false]) (by rw [hv, hread]) htake

theorem readAll_char (hv : d.verbose = false) {c : Char} (hc : IsPlainChar c) (s : List Char) :
    readAll d (c :: s) = readAll (d.push (.ofChar c)) s := by
  refine readAll_token hv (.primitive (.letter ⟨c, false⟩)) ?_ rfl
  have h1 := hc.ne (d := '?') rfl
  have h2 := hc.ne (d := '*') rfl
  have h3 := hc.ne (d := '+') rfl
  have hcount : Repetition.ofChar? c = none := by
    unfold Repetition.ofChar?
    split <;> simp_all
  unfold readToken
  rw [hcount]
  dsimp only
  split <;> first | rfl | exact absurd hc (by decide)

theorem readAll_chars (hv : d.verbose = false) (h : ∀ c ∈ text, IsPlainChar c) (s : List Char) :
    readAll d (text ++ s) = readAll (d.pushAll (text.map .ofChar)) s := by
  induction text generalizing d with
  | nil => rfl
  | cons c text ih =>
    obtain ⟨hc, htext⟩ := List.forall_mem_cons.mp h
    rw [List.cons_append, readAll_char hv hc, ih (d := d.push (.ofChar c)) hv htext]
    simp [Draft.pushAll, Draft.push]

theorem readAll_class (hv : d.verbose = false) {item : ClassItem} {s : List Char}
    (h : (readClass false s).text = .ok (item, rest)) :
    readAll d ('[' :: s) = readAll (d.push (.set item)) rest := by
  refine readAll_token hv (.set item) ?_ rfl
  rw [show readToken false '[' s = (readClass false s).text.bind fun x => .ok (.set x.1, x.2)
    from rfl, h]
  rfl

/-- A mark repeats the last item, unless the text goes on with a question mark. -/
theorem readAll_mark (hv : d.verbose = false) {c : Char} {count : Repetition}
    (hcount : Repetition.ofChar? c = some count) {a : Ast} (ha : ∀ switches, a ≠ .flags switches)
    (ht : rest.head? ≠ some '?') :
    readAll (d.push a) (c :: rest) = readAll (d.push (.repetition count false a)) rest := by
  refine readAll_token (d := d.push a) hv (.repetition count false) ?_
    (Draft.repeatLast_eq_ok.mpr ⟨a, d.items, rfl, ha, rfl⟩)
  unfold readToken
  rw [hcount]
  dsimp only
  rw [reluctantText_of_ne ht]
  rfl

theorem readAll_open (hv : d.verbose = false) (s : List Char) :
    readAll d ("(?:".toList ++ s) = readAll (d.openGroup (.plain []) false) s := by
  have htake : d.take (.switches [] true) = .ok (d.openGroup (.plain []) false) :=
    Draft.switch_eq_ok.mpr (Or.inl ⟨rfl, by rw [hv]; rfl⟩)
  exact readAll_token hv (.switches [] true) rfl htake

theorem readAll_close {e : Draft} (hv : e.verbose = false) {level : Level} {levels : List Level}
    (hlevels : e.levels = level :: levels) (s : List Char) :
    readAll e (')' :: s) = readAll { e with
      levels := levels
      branches := level.branches
      items := .group level.kind e.body :: level.items
      verbose := level.verbose } s :=
  readAll_token hv .close rfl (Draft.closeGroup_eq_ok.mpr ⟨level, levels, hlevels, rfl⟩)

theorem readAll_plainGroup (hv : d.verbose = false) {items : List Ast}
    (hbody : ∀ e : Draft, e.verbose = false →
      readAll e (text ++ ')' :: rest) = readAll (e.pushAll items) (')' :: rest)) :
    readAll d ("(?:".toList ++ (text ++ ')' :: rest)) =
      readAll (d.push (.plainGroup items)) rest := by
  rw [readAll_open hv, hbody (d.openGroup (.plain []) false) rfl,
    readAll_close (e := (d.openGroup (.plain []) false).pushAll items) rfl rfl]
  simp [Draft.openGroup, Draft.pushAll, Draft.push, Draft.body, Ast.plainGroup, Ast.ofBranches]

theorem readAll_charGroup (hv : d.verbose = false) (h : ∀ c ∈ text, IsPlainChar c) :
    readAll d ("(?:".toList ++ (text ++ ')' :: rest)) =
      readAll (d.push (.plainGroup (text.map .ofChar))) rest :=
  readAll_plainGroup hv fun _ he => readAll_chars he h _

/-- Rounds of one item in a group, as most verbs are written. -/
theorem readAll_roundsGroup (hv : d.verbose = false) {c : Char} {least : Nat}
    (hcount : Repetition.ofChar? c = some ⟨least, none⟩) {a : Ast}
    (ha : ∀ switches, a ≠ .flags switches)
    (hitem : ∀ e : Draft, e.verbose = false →
      readAll e (text ++ c :: ')' :: rest) = readAll (e.push a) (c :: ')' :: rest)) :
    readAll d ("(?:".toList ++ (text ++ c :: ')' :: rest)) =
      readAll (d.push (.plainGroup [.fromOn least a])) rest := by
  have hbody (e : Draft) (he : e.verbose = false) : readAll e (text ++ [c] ++ ')' :: rest) =
      readAll (e.pushAll [.fromOn least a]) (')' :: rest) := by
    rw [List.append_assoc, List.singleton_append, hitem e he,
      readAll_mark he hcount ha (by simp)]
    rfl
  simpa using readAll_plainGroup hv hbody

/-- Rounds of any character of a line. -/
theorem readAll_roundsAny (hv : d.verbose = false) {c : Char} {least : Nat}
    (hcount : Repetition.ofChar? c = some ⟨least, none⟩) :
    readAll d ("(?:".toList ++ ('.' :: c :: ')' :: rest)) =
      readAll (d.push (.plainGroup [.fromOn least (.primitive .dot)])) rest :=
  @readAll_roundsGroup _ ['.'] rest hv c least hcount (.primitive .dot) (by simp) fun _ he =>
    readAll_token he (.primitive .dot) rfl rfl

/-- Rounds of any character that a plain text does not hold. -/
theorem readAll_roundsBut (hv : d.verbose = false) {c : Char} {least : Nat}
    (hcount : Repetition.ofChar? c = some ⟨least, none⟩) {value : String} (h : IsPlainText value) :
    readAll d ("(?:[^".toList ++ (value.toList ++ ']' :: c :: ')' :: rest)) =
      readAll (d.push (.plainGroup
        [.fromOn least (.ofClass true (value.toList.map .ofChar))])) rest := by
  have htext : "(?:[^".toList ++ (value.toList ++ ']' :: c :: ')' :: rest) =
      "(?:".toList ++ ('[' :: '^' :: (value.toList ++ [']']) ++ c :: ')' :: rest) := by simp
  rw [htext]
  refine readAll_roundsGroup hv hcount (by simp [Ast.ofClass]) fun e he => ?_
  rw [List.cons_append, List.cons_append, List.append_assoc, List.singleton_append]
  exact readAll_class he (readClass_negated (by simpa using h.1) h.2 (c :: ')' :: rest))

theorem readAll_linebreak (hv : d.verbose = false) :
    readAll d ("(?:(?:\\n)|(?:\\r\\n))".toList ++ rest) =
      readAll (d.pushAll Verb.linebreak.ast?.toList) rest := by
  have hescape (e : Draft) (he : e.verbose = false) (s : List Char) :
      readAll e ('\\' :: 'n' :: s) = readAll (e.push (.ofChar '\n')) s :=
    readAll_token he (.primitive (.letter ⟨'\n', false⟩)) rfl rfl
  have hescape' (e : Draft) (he : e.verbose = false) (s : List Char) :
      readAll e ('\\' :: 'r' :: s) = readAll (e.push (.ofChar '\r')) s :=
    readAll_token he (.primitive (.letter ⟨'\r', false⟩)) rfl rfl
  have hfirst : ∀ e : Draft, e.verbose = false → ∀ s,
      readAll e ("(?:".toList ++ ("\\n".toList ++ ')' :: s)) =
        readAll (e.push (.plainGroup [.ofChar '\n'])) s :=
    fun e he s => readAll_plainGroup he fun e he => hescape e he _
  have hsecond : ∀ e : Draft, e.verbose = false → ∀ s,
      readAll e ("(?:".toList ++ ("\\r\\n".toList ++ ')' :: s)) =
        readAll (e.push (.plainGroup [.ofChar '\r', .ofChar '\n'])) s :=
    fun e he s => readAll_plainGroup he fun e he =>
      (hescape' e he _).trans (hescape (e.push _) he _)
  calc
    _ = readAll (d.openGroup (.plain []) false) ("(?:".toList ++ ("\\n".toList ++ ')' ::
          '|' :: ("(?:".toList ++ ("\\r\\n".toList ++ ')' :: ')' :: rest)))) := readAll_open hv _
    _ = readAll ((d.openGroup (.plain []) false).push (.plainGroup [.ofChar '\n']))
          ('|' :: ("(?:".toList ++ ("\\r\\n".toList ++ ')' :: ')' :: rest))) := hfirst _ rfl _
    _ = readAll ((d.openGroup (.plain []) false).push (.plainGroup [.ofChar '\n'])).branch
          ("(?:".toList ++ ("\\r\\n".toList ++ ')' :: ')' :: rest)) :=
        readAll_token rfl .bar rfl rfl
    _ = _ := hsecond _ rfl _
    _ = _ := readAll_close rfl rfl rest
    _ = _ := by
      simp [Draft.openGroup, Draft.push, Draft.branch, Draft.body, Draft.pushAll, hv, Verb.ast?,
        Ast.ofBranches, Ast.ofItems]

/-- **A piece is read as one item**, whatever was read before it and whatever follows. -/
theorem readAll_fragment (hv : d.verbose = false) {v : Verb} (h : v.IsPiece) (ht : IsTame rest) :
    readAll d (v.fragment.toList ++ rest) = readAll (d.pushAll v.ast?.toList) rest := by
  obtain ⟨hplain, halt⟩ := h
  cases v with
  | add _ => cases hplain
  | multiple _ => cases hplain
  | alt _ => cases halt
  | andThen value =>
    have htext : (Verb.andThen value).fragment.toList ++ rest =
        "(?:".toList ++ (value.toList ++ ')' :: rest) := by simp [Verb.fragment]
    rw [htext]
    exact readAll_charGroup hv hplain.2
  | maybe value =>
    have htext : (Verb.maybe value).fragment.toList ++ rest =
        "(?:".toList ++ (value.toList ++ ')' :: '?' :: rest) := by simp [Verb.fragment]
    rw [htext, readAll_charGroup hv hplain.2]
    exact readAll_mark hv rfl (by simp [Ast.plainGroup]) (ht.1 '?' (by simp))
  | anything => exact readAll_roundsAny hv rfl
  | anythingBut value =>
    have htext : (Verb.anythingBut value).fragment.toList ++ rest =
        "(?:[^".toList ++ (value.toList ++ ']' :: '*' :: ')' :: rest) := by simp [Verb.fragment]
    rw [htext]
    exact readAll_roundsBut hv rfl hplain
  | something => exact readAll_roundsAny hv rfl
  | somethingBut value =>
    have htext : (Verb.somethingBut value).fragment.toList ++ rest =
        "(?:[^".toList ++ (value.toList ++ ']' :: '+' :: ')' :: rest) := by simp [Verb.fragment]
    rw [htext]
    exact readAll_roundsBut hv rfl hplain
  | linebreak => exact readAll_linebreak hv
  | tab =>
    exact readAll_token hv (.primitive (.letter ⟨'\t', false⟩)) rfl rfl
  | word =>
    have hescape : readAll d ("\\w+".toList ++ rest) =
        readAll (d.push (.primitive (.perl .word false))) ('+' :: rest) :=
      readAll_token hv (.primitive (.perl .word false)) rfl rfl
    exact hescape.trans (readAll_mark hv rfl (by simp) (ht.1 '?' (by simp)))
  | anyOf value =>
    have htext : (Verb.anyOf value).fragment.toList ++ rest =
        '[' :: (value.toList ++ ']' :: rest) := by simp [Verb.fragment]
    rw [htext]
    exact readAll_class hv (readClass_chars (by simpa using hplain.1) hplain.2 rest)
  | range pairs =>
    have htext : (Verb.range pairs).fragment.toList ++ rest =
        '[' :: (pairs.flatMap rangeText ++ ']' :: rest) := by simp [Verb.fragment]
    rw [htext]
    exact readAll_class hv (readClass_pairs hplain.legible hplain.lower_ne rest)
  -- What is left are the settings, which write nothing.
  | _ => rfl

end Pieces

end Regular

end Verbal
