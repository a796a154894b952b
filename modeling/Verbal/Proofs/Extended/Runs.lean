import Verbal.Extended.Reader
import Verbal.Proofs.Segments
import Verbal.Proofs.Regular.Locality

/-!
# Running the reader of extended patterns

`run` reads the rest of a pattern and finishes it. The last item of a branch waits for a repetition,
and with it goes what would have to be said about drafts that differ only in what waits: where the
text does not go on with a repetition, what was pushed counts as added.

* `Draft.add`: the draft with more items, none of which waits.
* **`run_push`**: what is pushed counts as added where no repetition follows.
* `run_chars`, `run_open`, `run_parenthesis`, `run_close`, `run_mark`: the steps of the reader.
-/

namespace Verbal.Extended

open Verbal.Regular (Repetition)

/-! ## Items that wait -/

namespace Draft

theorem flush_eq (d : Draft) : d.flush = { d with items := d.flush.items, pending := none } := by
  obtain ⟨_, _, _, _, pending, _, _, _, _⟩ := d
  cases pending with
  | none => rfl
  | some t => cases t <;> rfl

theorem finish_flush (d : Draft) : d.flush.finish = d.finish := by
  obtain ⟨_, _, _, _, pending, _, _, _, _⟩ := d
  cases pending with
  | none => rfl
  | some t => cases t <;> rfl

theorem push_eq (d : Draft) (t : Tree) :
    d.push t = { d with items := d.flush.items, pending := some t } := by
  unfold push
  rw [flush_eq]

theorem branch_eq (d : Draft) : d.branch =
    { d with
      branches := Tree.ofItems d.flush.items.reverse :: d.branches
      items := []
      pending := none } := by
  unfold branch
  rw [flush_eq]

theorem openLevel_eq (d : Draft) (kind : LevelKind) : d.openLevel kind =
    { d with
      levels := ⟨kind, d.branches, d.flush.items⟩ :: d.levels
      branches := []
      items := []
      pending := none } := by
  unfold openLevel
  rw [flush_eq]

/-- Adds items that no repetition can follow any more. -/
def add (d : Draft) (ts : List Tree) : Draft :=
  { d with items := ts.reverse ++ d.flush.items, pending := none }

theorem add_nil (d : Draft) : d.add [] = d.flush := (flush_eq d).symm

theorem flush_add (d : Draft) (ts : List Tree) : (d.add ts).flush = d.add ts := rfl

theorem add_add (d : Draft) (ts ts' : List Tree) : (d.add ts).add ts' = d.add (ts ++ ts') := by
  rw [add, flush_add]
  simp [add]

/-- If nothing was read before, what is added is the body. -/
theorem body_add {d : Draft} (hbranches : d.branches = []) (hitems : d.flush.items = [])
    (ts : List Tree) : (d.add ts).body = .ofItems ts := by
  rw [body, flush_add]
  simp [add, hbranches, hitems, Tree.ofBranches]

theorem flush_push (d : Draft) {t : Tree} (h : t ≠ .empty) : (d.push t).flush = d.add [t] := by
  rw [push_eq]
  cases t <;> first | rfl | exact absurd rfl h

/-- Whether no more groups are open than given, and nothing was read that would change how the rest
is read: no flags, names or references. -/
structure Ready (n : Nat) (d : Draft) : Prop where
  levels : d.levels.length ≤ n
  flags : d.flags = .none
  names : d.scope.names = []
  numbered : d.numbered = false
  referred : d.referred = []
  unopened : d.unopened = false

variable {n : Nat} {d : Draft}

theorem ready_flush : d.flush.Ready n ↔ d.Ready n := by
  rw [flush_eq]
  exact ⟨fun h => { h with }, fun h => { h with }⟩

theorem Ready.add (h : d.Ready n) (ts : List Tree) : (d.add ts).Ready n :=
  { h with }

theorem Ready.push (h : d.Ready n) (t : Tree) : (d.push t).Ready n := by
  rw [push_eq]
  exact { h with }

theorem Ready.branch (h : d.Ready n) : d.branch.Ready n := by
  rw [branch_eq]
  exact { h with }

theorem Ready.openLevel (h : d.Ready n) (kind : LevelKind) : (d.openLevel kind).Ready (n + 1) := by
  rw [openLevel_eq]
  exact { h with levels := Nat.succ_le_succ h.levels }

theorem Ready.mono (h : d.Ready n) {m : Nat} (hnm : n ≤ m) : d.Ready m :=
  { h with levels := Nat.le_trans h.levels hnm }

theorem Ready.checkEnd (h : d.Ready n) : d.checkEnd = .ok () := by
  unfold Draft.checkEnd
  rw [h.numbered]
  simp

theorem Ready.finish (h : d.Ready 0) : d.finish = .ok ⟨d.body, [], []⟩ := by
  have hlevels : d.levels = [] := List.length_eq_zero_iff.mp (Nat.le_zero.mp h.levels)
  unfold Draft.finish
  rw [h.checkEnd, hlevels, h.unopened, h.referred, h.names]
  rfl

theorem ready_start (pattern : List Char) : (Draft.start pattern).Ready 0 :=
  ⟨Nat.le_refl 0, rfl, rfl, rfl, rfl, rfl⟩

end Draft

theorem closeGroup_flush (d : Draft) (s : List Char) : closeGroup d.flush s = closeGroup d s := by
  obtain ⟨_, _, _, _, pending, _, _, _, _⟩ := d
  cases pending with
  | none => rfl
  | some t => cases t <;> rfl

theorem readGroup_flush (d : Draft) (s : List Char) : readGroup d.flush s = readGroup d s := by
  obtain ⟨_, _, _, _, pending, _, _, _, _⟩ := d
  cases pending with
  | none => rfl
  | some t => cases t <;> rfl

/-- A step that repeats nothing does not look at what waits. -/
theorem readStep_flush {c : Char} (hcount : countOf? c = none) (hc : c ≠ '\x7b') (d : Draft)
    (s : List Char) : readStep d.flush c s = readStep d c s := by
  obtain ⟨_, _, _, _, pending, _, _, _, _⟩ := d
  cases pending with
  | none => rfl
  | some t =>
    unfold readStep
    rw [hcount]
    dsimp only
    split
    · exact readGroup_flush _ s
    · exact closeGroup_flush _ s
    · cases t <;> rfl
    · cases t <;> rfl
    · cases t <;> rfl
    · cases t <;> rfl
    · cases t <;> rfl
    · cases t <;> rfl
    · exact absurd rfl hc
    · cases t <;> rfl

/-- What is read as a class: its opening, and the brackets from there on. -/
theorem readClass_text (scope : Scope) (s : List Char) :
    (readClass scope s).text = (readBrackets scope 0 ((classOpening s).reverse ++ ['['])
      (s.drop (classOpening s).length)).text.map fun x => (x.1.reverse, x.2) := by
  unfold readClass
  dsimp only
  generalize readBrackets scope 0 _ _ = x
  cases x <;> rfl

/-! ## Runs -/

/-- Reads the rest of a pattern. -/
def run (d : Draft) (s : List Char) : Except Fault Source := (readAll d s).bind Draft.finish

section Runs

variable {d : Draft} {c : Char} {s t text rest : List Char} {n : Nat}

theorem skip_eq_self (h : ¬"(?#".toList <+: s) : Gap.outside.skip false s = .ok s := by
  cases s with
  | nil => rfl
  | cons c s =>
    have hprefix : ['(', '?', '#'].isPrefixOf (c :: s) = false := by
      rw [← Bool.not_eq_true, List.isPrefixOf_iff_prefix]
      exact h
    simp [Gap.skip, hprefix]

theorem skipGaps_text (verbose : Bool) (s : List Char) :
    (skipGaps verbose s).map (·.1) = Gap.outside.skip verbose s := by
  unfold skipGaps
  split <;> simp_all [Except.map]

theorem skipGaps_eq_self (h : ¬"(?#".toList <+: s) :
    skipGaps false s = .ok ⟨s, Nat.le_refl _⟩ := by
  have htext := skipGaps_text false s
  rw [skip_eq_self h] at htext
  obtain ⟨r, hr, heq⟩ := map_eq_ok.mp htext
  rw [hr]
  exact congrArg _ (Subtype.ext heq)

theorem run_nil (hd : d.Ready n) : run d [] = d.finish := by
  unfold run
  rw [readAll, hd.flags]
  rfl

theorem run_cons (hd : d.Ready n) (h : ¬"(?#".toList <+: c :: s) :
    run d (c :: s) = (readStep d c s).text.bind fun x => run x.1 x.2 := by
  unfold run
  rw [readAll, hd.flags, show Flags.none.verbose = false from rfl, skipGaps_eq_self h]
  dsimp only [Rest.all]
  cases readStep d c s <;> rfl

theorem run_flush (hd : d.Ready n) (h : IsTame s) : run d.flush s = run d s := by
  have hd' := Draft.ready_flush.mpr hd
  cases s with
  | nil => rw [run_nil hd, run_nil hd', Draft.finish_flush]
  | cons c s =>
    have hne (e : Char) (he : e ∈ ['?', '*', '+', '\x7b']) : c ≠ e := by
      rintro rfl
      exact h.1 c he rfl
    have hcount : countOf? c = none := by
      unfold countOf?
      split <;> simp_all
    rw [run_cons hd h.2, run_cons hd' h.2, readStep_flush hcount (hne _ (by simp))]

/-- What is pushed counts as added where no repetition follows. -/
theorem run_push (hd : d.Ready n) {t : Tree} (ht : t ≠ .empty) (h : IsTame s) :
    run (d.push t) s = run (d.add [t]) s := by
  rw [← run_flush (hd.push t) h, Draft.flush_push d ht]

/-! ### Steps -/

theorem run_step (hd : d.Ready n) (hc : c ≠ '(') {e : Draft} {r : List Char}
    (h : (readStep d c s).text = .ok (e, r)) : run d (c :: s) = run e r := by
  have hprefix : ¬"(?#".toList <+: c :: s := fun ⟨u, hu⟩ => hc (List.cons.inj hu).1.symm
  rw [run_cons hd hprefix, h]
  rfl

theorem readStep_char (d : Draft) (hc : IsPlainChar c) (s : List Char) :
    (readStep d c s).text = .ok (d.push (.literal c d.flags.anyCase), s) := by
  have h1 := hc.ne (d := '?') rfl
  have h2 := hc.ne (d := '*') rfl
  have h3 := hc.ne (d := '+') rfl
  have hcount : countOf? c = none := by
    unfold countOf?
    split <;> simp_all
  unfold readStep
  rw [hcount]
  dsimp only
  split <;> first | rfl | exact absurd hc (by decide)

theorem run_char (hd : d.Ready n) (hc : IsPlainChar c) (s : List Char) :
    run d (c :: s) = run (d.push (.literal c false)) s := by
  refine run_step hd (hc.ne rfl) ?_
  rw [readStep_char d hc, hd.flags]
  rfl

theorem run_chars (hd : d.Ready n) (h : ∀ c ∈ text, IsPlainChar c) (hs : IsTame s) :
    run d (text ++ s) = run (d.add (text.map (.literal · false))) s := by
  induction text generalizing d with
  | nil =>
    rw [List.map_nil, Draft.add_nil, run_flush hd hs]
    rfl
  | cons c text ih =>
    obtain ⟨hc, htext⟩ := List.forall_mem_cons.mp h
    have hpush : run (d.push (.literal c false)) (text ++ s) =
        run (d.add [.literal c false]) (text ++ s) := run_push hd nofun (isTame_plain htext hs)
    rw [List.cons_append, run_char hd hc, hpush, ih (hd.add _) htext, Draft.add_add]
    rfl

theorem readFlags_colon (s : List Char) :
    (readFlags (':' :: s) .none false (':' :: s)).text = .ok ((.none, true), s) := by
  have hprefix : ¬"(?#".toList <+: ':' :: s := by simp
  rw [readFlags, show Flags.none.verbose = false from rfl, skipGaps_eq_self hprefix]
  simp

theorem readGroup_open (hd : d.Ready 62) (s : List Char) :
    (readGroup d ('?' :: ':' :: s)).text = .ok (d.openLevel (.plain .none), s) := by
  have hprefix : ¬"(?#".toList <+: '?' :: ':' :: s := by simp
  have hlevels := hd.levels
  have hbound : ¬nestingBound ≤ d.levels.length + 1 := by
    unfold nestingBound
    omega
  have hopening : opening ('?' :: ':' :: s) = (.flags, 1) := rfl
  have hread := readFlags_colon s
  unfold readGroup
  rw [if_neg hbound, hd.flags, show Flags.none.verbose = false from rfl, skipGaps_eq_self hprefix]
  simp only [Except.bind, hopening, List.drop_succ_cons, List.drop_zero]
  change Reading.text (Except.map _ ((readFlags (':' :: s) .none false (':' :: s)).within _)) = _
  rw [Reading.eq_ok_of_text hread, Draft.openLevel_eq, hd.flags]
  rfl

theorem run_open (hd : d.Ready 62) (s : List Char) :
    run d ("(?:".toList ++ s) = run (d.openLevel (.plain .none)) s := by
  have hprefix : ¬"(?#".toList <+: '(' :: '?' :: ':' :: s := by simp
  have hstep : (readStep d '(' ('?' :: ':' :: s)).text = .ok (d.openLevel (.plain .none), s) :=
    readGroup_open hd s
  change run d ('(' :: '?' :: ':' :: s) = _
  rw [run_cons hd hprefix, hstep]
  rfl

theorem run_parenthesis (hd : d.Ready 62) (hs : IsTame s) :
    run d ('(' :: s) = run d.openCapture s := by
  have hlevels := hd.levels
  have hbound : ¬nestingBound ≤ d.levels.length + 1 := by
    unfold nestingBound
    omega
  have hopening : opening s = (.capture, 0) := by
    have := hs.1 '?' (by simp)
    unfold opening
    split <;> simp_all
  have hstep : (readStep d '(' s).text = .ok (d.openCapture, s) := by
    change (readGroup d s).text = _
    unfold readGroup
    rw [if_neg hbound, hd.flags, show Flags.none.verbose = false from rfl, skipGaps_eq_self hs.2]
    simp only [Except.bind, hopening]
    rfl
  rw [run_cons hd (isTame_parenthesis hs).2, hstep]
  rfl

/-- What tells that a group looks ahead, and for what must not follow if it is `negated`. -/
def aheadOpening (negated : Bool) : List Char := if negated then "(?!".toList else "(?=".toList

theorem isTame_ahead (negated : Bool) (s : List Char) : IsTame (aheadOpening negated ++ s) := by
  cases negated <;> simp [IsTame, aheadOpening]

theorem run_open_ahead (hd : d.Ready 62) (negated : Bool) (s : List Char) :
    run d (aheadOpening negated ++ s) = run (d.openLevel (.look .ahead negated)) s := by
  have hlevels := hd.levels
  have hbound : ¬nestingBound ≤ d.levels.length + 1 := by
    unfold nestingBound
    omega
  obtain ⟨mark, hmark, hopening⟩ : ∃ mark, aheadOpening negated = ['(', '?', mark] ∧
      mark ≠ '#' ∧ opening ('?' :: mark :: s) = (.level (.look .ahead negated), 2) := by
    cases negated <;> exact ⟨_, rfl, by decide, rfl⟩
  have hprefix : ¬"(?#".toList <+: '?' :: mark :: s := by simp
  have hprefix' : ¬"(?#".toList <+: '(' :: '?' :: mark :: s := by simp [hopening.1.symm]
  have hstep : (readStep d '(' ('?' :: mark :: s)).text =
      .ok (d.openLevel (.look .ahead negated), s) := by
    change (readGroup d _).text = _
    unfold readGroup
    rw [if_neg hbound, hd.flags, show Flags.none.verbose = false from rfl, skipGaps_eq_self hprefix]
    simp only [Except.bind, hopening.2]
    rfl
  rw [hmark]
  change run d ('(' :: '?' :: mark :: s) = _
  rw [run_cons hd hprefix', hstep]
  rfl

theorem run_close {e : Draft} (he : e.Ready n) {bs is : List Tree} {levels : List Level}
    (hlevels : e.levels = ⟨.plain .none, bs, is⟩ :: levels) (s : List Char) :
    run e (')' :: s) =
      run ((e.leave ⟨.plain .none, bs, is⟩ levels).push e.body.enclosed) s := by
  refine run_step he (by decide) ?_
  change (closeGroup e s).text = _
  unfold closeGroup
  rw [he.checkEnd, hlevels]
  have hflags : ((e.leave ⟨.plain .none, bs, is⟩ levels).push e.body.enclosed).flags = .none := by
    rw [← he.flags]
    rfl
  rw [← hflags]
  rfl

theorem run_close_capture {e : Draft} (he : e.Ready n) {k : Nat} {bs is : List Tree}
    {levels : List Level} (hlevels : e.levels = ⟨.capture k, bs, is⟩ :: levels) (s : List Char) :
    run e (')' :: s) = run ((e.leave ⟨.capture k, bs, is⟩ levels).push (.group k e.body)) s := by
  refine run_step he (by decide) ?_
  change (closeGroup e s).text = _
  unfold closeGroup
  rw [he.checkEnd, hlevels]
  rfl

theorem run_close_look {e : Draft} (he : e.Ready n) {direction : Direction} {negated : Bool}
    {bs is : List Tree} {levels : List Level}
    (hlevels : e.levels = ⟨.look direction negated, bs, is⟩ :: levels) (s : List Char) :
    run e (')' :: s) = run ((e.leave ⟨.look direction negated, bs, is⟩ levels).push
      (.look direction negated e.body.bare)) s := by
  refine run_step he (by decide) ?_
  change (closeGroup e s).text = _
  unfold closeGroup
  rw [he.checkEnd, hlevels]
  rfl

/-! ### Marks -/

theorem readMark_of_ne {mark : Char} (h : s.head? ≠ some mark) :
    readMark mark s = (false, ⟨s, Nat.le_refl _⟩) := by
  cases s with
  | nil => rfl
  | cons c s =>
    have hc : c ≠ mark := fun hc => h (congrArg some hc)
    rw [readMark, if_neg hc]
    rfl

/-- A mark repeats what waits. If the text goes on with a plus sign, nothing is given back. -/
theorem run_marks (hd : d.Ready n) (count : Repetition) (hcount : countOf? c = some count)
    {t : Tree} (ht : t.isRepeatable = true) (hreluctant : s.head? ≠ some '?')
    (hgap : ¬"(?#".toList <+: s) :
    run (d.push t) (c :: s) =
      if s.head? = some '+' then
        run (d.add [.atomic (.repetition count.least count.most true t)]) s.tail
      else run (d.add [.repetition count.least count.most true t]) s := by
  have hc : c ≠ '(' := by
    rintro rfl
    cases hcount
  have hverbose : (d.push t).flags.verbose = false := by
    rw [(hd.push t).flags]
    rfl
  have hgreed : (d.push t).flags.swapGreed = false := by
    rw [(hd.push t).flags]
    rfl
  have hstep : readStep (d.push t) c s = readRepeated (d.push t) count s := by
    unfold readStep
    rw [hcount]
  unfold readRepeated at hstep
  rw [show (d.push t).pending = some t from rfl] at hstep
  dsimp only at hstep
  rw [ht, if_neg (by simp), hverbose, skipGaps_eq_self hgap, hgreed] at hstep
  dsimp only [Except.map] at hstep
  rw [readMark_of_ne hreluctant] at hstep
  dsimp only at hstep
  split
  next hpossessive =>
    obtain ⟨s, rfl⟩ : ∃ s', s = '+' :: s' := by
      cases s with
      | nil => cases hpossessive
      | cons e s => exact ⟨s, by rw [Option.some.inj hpossessive]⟩
    refine run_step (hd.push t) hc ?_
    rw [hstep, Draft.push_eq]
    rfl
  next hpossessive =>
    refine run_step (hd.push t) hc ?_
    rw [hstep, readMark_of_ne hpossessive, Draft.push_eq]
    rfl

/-- A mark repeats what waits, unless the text goes on with another one. -/
theorem run_mark (hd : d.Ready n) (count : Repetition) (hcount : countOf? c = some count)
    {t : Tree} (ht : t.isRepeatable = true) (hs : IsTame s) :
    run (d.push t) (c :: s) = run (d.add [.repetition count.least count.most true t]) s := by
  rw [run_marks hd count hcount ht (hs.1 '?' (by simp)) hs.2, if_neg (hs.1 '+' (by simp))]

/-- A mark that nothing waits for is refused. -/
theorem run_mark_of_pending (hd : d.Ready n) {count : Repetition}
    (hcount : countOf? c = some count) (hpending : d.pending = none) (s : List Char) :
    run d (c :: s) = .error .targetInvalid := by
  have hc : c ≠ '(' := by
    rintro rfl
    cases hcount
  have hprefix : ¬"(?#".toList <+: c :: s := fun ⟨u, hu⟩ => hc (List.cons.inj hu).1.symm
  have hstep : readStep d c s = .error .targetInvalid := by
    unfold readStep
    rw [hcount]
    dsimp only
    unfold readRepeated
    rw [hpending]
  rw [run_cons hd hprefix, hstep]
  rfl

end Runs

end Verbal.Extended
