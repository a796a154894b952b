import Verbal.Proofs.Regular.Escapes

/-!
# What classes take

A class ends at the bracket that closes it. On the way readers look ahead, at the name of an ASCII
class and at what comes after a dash, but never further than to a closing bracket.

* **`closes_readItems`** and `exact_readClass`: what follows a class does not matter.
* `eq_of_readAscii`, `readAscii_eq_none`: an ASCII class ends at the first closing bracket.
* `takes_readRange`: whether a dash makes a range can be told in front of the closing bracket.
* `step_of_readItems`: what one step of reading items takes, and what it leaves open.
-/

namespace Verbal.Regular

open Verbal.Unicode

variable {v : Bool}

/-! ## The beginning of a class -/

theorem readDashes_cons (v : Bool) (cls : OpenClass) (c : Char) (s : List Char) :
    (readDashes v cls (c :: s)).text =
      if c = '-' then (readDashes v (cls.push (.letter ⟨'-', false⟩)) (skipBlanks v s)).text
      else .ok (cls, c :: s) := by
  rw [readDashes]
  split <;> simp

theorem upTo_readDashes (cls : OpenClass) (s : List Char) :
    UpTo (fun s => (readDashes v cls s).text) s := by
  induction hn : s.length using Nat.strongRecOn generalizing cls s with
  | ind n ih =>
    cases s with
    | nil =>
      intro a c r h
      simp [readDashes] at h
    | cons c s =>
      by_cases hc : c = '-'
      · refine UpTo.cons (UpTo.congr (UpTo.skip (ih _ ?_ (cls.push (.letter ⟨'-', false⟩)) _ rfl))
          fun s => by rw [readDashes_cons, if_pos hc])
        have := skipBlanks_length_le v s
        simp only [List.length_cons] at hn
        omega
      · exact upTo_of_stays fun t => by rw [readDashes_cons, if_neg hc]

theorem readFirstBracket_cons (v : Bool) (cls : OpenClass) (c : Char) (s : List Char) :
    (readFirstBracket v cls (c :: s)).text =
      if c = ']' && cls.items.isEmpty then
        afterBlanks v .classUnclosed
          (fun d r => .ok (cls.push (.letter ⟨']', false⟩), d :: r)) s
      else .ok (cls, c :: s) := by
  unfold readFirstBracket afterBlanks
  dsimp only
  split
  · split <;> simp_all
  · rfl

theorem upTo_readFirstBracket (cls : OpenClass) (s : List Char) :
    UpTo (fun s => (readFirstBracket v cls s).text) s := by
  cases s with
  | nil =>
    intro a c r h
    cases h
  | cons c s =>
    cases hc : c = ']' && cls.items.isEmpty with
    | true =>
      refine UpTo.cons (UpTo.congr (UpTo.skip (f := afterBlanks false .classUnclosed
        fun d r => .ok (cls.push (.letter ⟨']', false⟩), d :: r)) ?_) fun s => by
          rw [readFirstBracket_cons, if_pos hc]; rfl)
      cases skipBlanks v s with
      | nil => intro a d r h; cases h
      | cons d s => exact upTo_of_stays fun t => rfl
    | false => exact upTo_of_stays fun t => by rw [readFirstBracket_cons, hc]; rfl

theorem readOpening_text (v : Bool) (s : List Char) :
    (readOpening v s).text = afterBlanks v .classUnclosed (fun c r =>
      (readDashes v ⟨c == '^', none, []⟩ (if c == '^' then skipBlanks v r else c :: r)).text.bind
        fun x => (readFirstBracket v x.1 x.2).text) s := by
  unfold readOpening afterBlanks
  split
  · simp_all
  · rename_i c r _ hs _
    simp only [hs]
    rw [Reading.text_bind _ (g := fun cls r => (readFirstBracket v cls r).text),
      Reading.text_within]
    intro cls rest
    exact Reading.text_within _ _

theorem upTo_readOpening (s : List Char) : UpTo (fun s => (readOpening v s).text) s := by
  refine UpTo.congr (UpTo.skip (f := afterBlanks false .classUnclosed (fun c r =>
      (readDashes v ⟨c == '^', none, []⟩ (if c == '^' then skipBlanks v r else c :: r)).text.bind
        fun x => (readFirstBracket v x.1 x.2).text)) ?_) (readOpening_text v)
  cases skipBlanks v s with
  | nil => intro a c r h; cases h
  | cons c s =>
    by_cases hc : c = '^'
    · subst hc
      exact UpTo.cons (UpTo.bind (UpTo.skip (upTo_readDashes ⟨true, none, []⟩ _))
        fun cls r _ => upTo_readFirstBracket cls r)
    · have hc' : (c == '^') = false := beq_eq_false_iff_ne.mpr hc
      refine UpTo.congr_cons (f := fun s => (readDashes v ⟨false, none, []⟩ s).text.bind
        fun x => (readFirstBracket v x.1 x.2).text) ?_ fun s => by
          simp only [afterBlanks, skipBlanks_false]
          rw [hc', if_neg Bool.false_ne_true]
      exact UpTo.bind (upTo_readDashes ⟨false, none, []⟩ (c :: s))
        fun cls r _ => upTo_readFirstBracket cls r

/-! ## ASCII classes -/

theorem not_mem_of_asciiClass {name : List Char} {kind : AsciiClass}
    (h : AsciiClass.ofName? name = some kind) : ']' ∉ name := by
  have hname : name = (String.ofList name).toList := String.toList_ofList.symm
  unfold AsciiClass.ofName? at h
  split at h
  case h_15 => cases h
  all_goals
    rename_i heq
    rw [hname, heq]
    decide

/-- What is looked at for the name of an ASCII class after the colon. -/
def asciiName (r : List Char) : List Char := if r.head? == some '^' then r.tail else r

theorem readAscii_of_closed {r rest : List Char} {kind : AsciiClass}
    (hname : AsciiClass.ofName? ((asciiName r).takeWhile (· != ':')) = some kind)
    (hrest : (asciiName r).dropWhile (· != ':') = ':' :: ']' :: rest) :
    (readAscii? (':' :: r)).map (fun x => (x.1, x.2.1)) =
      some (.ascii kind (r.head? == some '^'), rest) := by
  unfold asciiName at hname hrest
  rw [readAscii?]
  split
  · rename_i rest' h
    cases h.symm.trans hrest
    rw [hname]
    rfl
  · rename_i h
    exact absurd hrest (h rest)

/-- An ASCII class ends at its first closing bracket, and what follows does not matter. -/
theorem eq_of_readAscii {s : List Char} {item : ClassItem} {rest : Rest s}
    (h : readAscii? s = some (item, rest)) :
    ∃ w, s = w ++ ']' :: rest.1 ∧ ']' ∉ w ∧
      ∀ t, (readAscii? (w ++ ']' :: t)).map (fun x => (x.1, x.2.1)) = some (item, t) := by
  unfold readAscii? at h
  split at h
  · rename_i r
    dsimp only at h
    split at h
    · rename_i rest' hdrop
      obtain ⟨kind, hkind, heq⟩ := Option.map_eq_some_iff.mp h
      cases heq
      change (asciiName r).dropWhile _ = _ at hdrop
      change AsciiClass.ofName? ((asciiName r).takeWhile _) = _ at hkind
      have hcolon (c : Char) (hc : c ∈ (asciiName r).takeWhile (· != ':')) : (c != ':') = true :=
        List.mem_takeWhile_imp (p := (· != ':')) hc
      have hsplit := List.takeWhile_append_dropWhile (p := (· != ':')) (l := asciiName r)
      rw [hdrop] at hsplit
      have hbracket := not_mem_of_asciiClass hkind
      generalize (asciiName r).takeWhile (· != ':') = name at *
      have htake (t : List Char) : (name ++ ':' :: ']' :: t).takeWhile (· != ':') = name := by
        rw [List.takeWhile_append_of_pos hcolon]
        simp
      have hclosed (t : List Char) :
          (name ++ ':' :: ']' :: t).dropWhile (· != ':') = ':' :: ']' :: t := by
        rw [List.dropWhile_append_of_pos hcolon]
        simp
      -- a caret in front of the name is not part of it
      by_cases hcaret : (r.head? == some '^') = true
      · obtain ⟨r, rfl⟩ : ∃ r', r = '^' :: r' := by
          cases r with
          | nil => cases hcaret
          | cons c r => exact ⟨r, by simpa using hcaret⟩
        change name ++ ':' :: ']' :: rest' = r at hsplit
        subst hsplit
        refine ⟨':' :: '^' :: (name ++ [':']), by simp, by simp [hbracket], fun t => ?_⟩
        rw [show ':' :: '^' :: (name ++ [':']) ++ ']' :: t =
          ':' :: '^' :: (name ++ ':' :: ']' :: t) by simp]
        exact readAscii_of_closed ((congrArg _ (htake t)).trans hkind) (hclosed t)
      · rw [asciiName, if_neg hcaret] at hsplit
        subst hsplit
        have hhead (t : List Char) : (name ++ ':' :: ']' :: t).head? =
            (name ++ ':' :: ']' :: rest').head? := by
          cases name <;> rfl
        refine ⟨':' :: (name ++ [':']), by simp, by simp [hbracket], fun t => ?_⟩
        have hname : asciiName (name ++ ':' :: ']' :: t) = name ++ ':' :: ']' :: t := by
          rw [asciiName, hhead, if_neg hcaret]
        rw [show ':' :: (name ++ [':']) ++ ']' :: t = ':' :: (name ++ ':' :: ']' :: t) by simp,
          readAscii_of_closed (by rw [hname, htake, hkind]) (by rw [hname, hclosed t]), hhead]
    · cases h
  · cases h

/-- Whether an ASCII class begins there can be told at the first closing bracket. -/
theorem readAscii_eq_none {m x : List Char} (h : readAscii? (m ++ ']' :: x) = none)
    (y : List Char) : readAscii? (m ++ ']' :: y) = none := by
  rw [Option.eq_none_iff_forall_ne_some]
  rintro ⟨item, rest⟩ hsome
  obtain ⟨w, hw, hfresh, hread⟩ := eq_of_readAscii hsome
  -- the class ends at the first bracket, so it lies in front of `y`
  obtain ⟨z, hz⟩ : ∃ z, m ++ [']'] = w ++ ']' :: z := by
    rcases List.append_eq_append_iff.mp hw with ⟨a, ha, ha'⟩ | ⟨a, ha, ha'⟩
    · cases a with
      | nil => exact ⟨[], by simpa using ha.symm⟩
      | cons c a =>
        obtain ⟨rfl, -⟩ := List.cons.inj ha'
        exact absurd (by simp [ha]) hfresh
    · cases a with
      | nil => exact ⟨[], by simpa using ha⟩
      | cons c a =>
        obtain ⟨rfl, -⟩ := List.cons.inj ha'
        exact ⟨a ++ [']'], by simp [ha]⟩
  have := hread (z ++ x)
  rw [show w ++ ']' :: (z ++ x) = m ++ ']' :: x by
    rw [← List.cons_append, ← List.append_assoc, ← hz]; simp, h] at this
  cases this

/-! ## Items and ranges -/

theorem readItem_text (v : Bool) (c : Char) (s : List Char) :
    (readItem v c s).text =
      if c = '\\' then (readEscape v s).text else .ok (.letter ⟨c, false⟩, s) := by
  unfold readItem
  split <;> rfl

theorem takes_readItem {c : Char} {s : List Char} (hb : c = '\\' → s.head? ≠ some 'b') :
    Takes v Anything (fun s => (readItem v c s).text) s := by
  by_cases hc : c = '\\'
  · refine Takes.congr (f := fun s => (readEscape v s).text) ?_ fun s => by
      rw [readItem_text, if_pos hc]
    cases s with
    | nil => intro a r h; cases h
    | cons d s => exact Takes.cons (takes_readEscape_cons (fun hd => hb hc (by simp [hd])) s)
  · exact (exact_ok (Primitive.letter ⟨c, false⟩)).takes.congr fun s => by
      rw [readItem_text, if_neg hc]

/-- What follows the first item of a range, or of what might be one. -/
def rangeEnd (v : Bool) (lo : Primitive) (d : Char) (r : List Char) :
    Except Fault (ClassItem × List Char) :=
  if d ≠ '-' || peekBlanks v r = some ']' || peekBlanks v r = some '-' then
    lo.asItem.map fun item => (item, d :: r)
  else
    afterBlanks v .classUnclosed (fun e r => (readItem v e r).text.bind fun x =>
      (rangeBetween lo x.1).map fun item => (item, x.2)) r

theorem readRange_text (v : Bool) (c : Char) (s : List Char) :
    (readRange v c s).text = (readItem v c s).text.bind fun x =>
      afterBlanks v .classUnclosed (rangeEnd v x.1) x.2 := by
  unfold readRange
  rw [Reading.text_bind _ (g := fun lo r => afterBlanks v .classUnclosed (rangeEnd v lo) r)]
  intro lo rest
  unfold afterBlanks rangeEnd
  dsimp only
  split
  · rename_i hs _
    simp [hs]
  · rename_i d r h hs _
    simp only [hs]
    split
    · exact Reading.text_map_value _ _
    · unfold afterBlanks
      split
      · rename_i hr _
        simp [hr]
      · rename_i e r' h' hr _
        simp only [hr]
        rw [Reading.text_bind _ (g := fun hi r => (rangeBetween lo hi).map fun item => (item, r)),
          Reading.text_within]
        intro hi rest
        exact Reading.text_map_value _ _

theorem rangeBetween_assertion_ne_ok (lo : Primitive) (a : Assertion) (item : ClassItem) :
    rangeBetween lo (.assertion a) ≠ .ok item := by
  cases lo <;> nofun

theorem assertion_rangeBetween_ne_ok (hi : Primitive) (a : Assertion) (item : ClassItem) :
    rangeBetween (.assertion a) hi ≠ .ok item := by
  nofun

theorem rangeEnd_assertion_ne_ok (a : Assertion) (d : Char) (r : List Char)
    (x : ClassItem × List Char) : rangeEnd v (.assertion a) d r ≠ .ok x := by
  unfold rangeEnd
  split
  · nofun
  · unfold afterBlanks
    split
    · nofun
    · intro h
      obtain ⟨hi, -, h⟩ := bind_eq_ok.mp h
      obtain ⟨item, hitem, -⟩ := map_eq_ok.mp h
      exact assertion_rangeBetween_ne_ok _ a item hitem

/-! ### What a dash looks at -/

theorem dropWhile_space_append {m : List Char} (h : ']' ∈ m) (x : List Char) :
    (m ++ x).dropWhile isSpace = m.dropWhile isSpace ++ x ∧ ']' ∈ m.dropWhile isSpace := by
  induction m with
  | nil => cases h
  | cons c m ih =>
    by_cases hc : isSpace c = true
    · have hm : ']' ∈ m := by
        rcases List.mem_cons.mp h with rfl | h
        · exact absurd hc (by decide)
        · exact h
      simpa [List.dropWhile_cons, hc] using ih hm
    · simpa [List.dropWhile_cons, hc] using h

theorem head?_append_of_mem {m : List Char} {c : Char} (h : c ∈ m) (x : List Char) :
    (m ++ x).head? = m.head? := by
  cases m with
  | nil => cases h
  | cons d m => rfl

/-- What comes next after a dash can be told from what is in front of the closing bracket. -/
theorem peekBlanks_append {m : List Char} (h : ']' ∈ m) (x : List Char) :
    peekBlanks v (m ++ x) = peekBlanks v m := by
  unfold peekBlanks
  cases v with
  | false => simpa using head?_append_of_mem h x
  | true =>
    obtain ⟨hdrop, hmem⟩ := dropWhile_space_append h x
    simp only [if_true, hdrop]
    cases hm : m.dropWhile isSpace with
    | nil => rw [hm] at hmem; cases hmem
    | cons c r =>
      rw [hm] at hmem
      by_cases hc : c = '#'
      · subst hc
        have hr : ']' ∈ r := by simpa using hmem
        obtain ⟨hdrop', hmem'⟩ := dropWhile_space_append hr x
        simp [hdrop', head?_append_of_mem hmem', head?_append_of_mem h]
      · simp [hc, head?_append_of_mem h]

/-- Texts look alike to a class if they are the same up to the bracket that closes it. -/
def ClosesAlike (v : Bool) (s t : List Char) : Prop :=
  ∃ m x y, s = m ++ ']' :: x ∧ t = m ++ ']' :: y ∧ skipBlanks v (m ++ [']']) ≠ []

theorem ClosesAlike.skip {s t r : List Char} {d : Char} (h : ClosesAlike v s t)
    (hs : skipBlanks v s = d :: r) :
    ∃ m x y, r = m ++ x ∧ skipBlanks v t = d :: (m ++ y) ∧ (d ≠ ']' → ']' ∈ m) := by
  obtain ⟨m, x, y, rfl, rfl, hm⟩ := h
  cases hskip : skipBlanks v (m ++ [']']) with
  | nil => exact absurd hskip hm
  | cons e m' =>
    obtain ⟨b, hb, hread⟩ := skipBlanks_eq_cons hskip
    have happ (z : List Char) : skipBlanks v (m ++ ']' :: z) = e :: (m' ++ z) := by
      rw [← hread (m' ++ z), ← List.cons_append, ← List.append_assoc, ← hb]
      simp
    rw [happ] at hs
    cases hs
    refine ⟨m', x, y, rfl, happ y, fun hd => ?_⟩
    -- what is shared ends in the bracket
    rcases m'.eq_nil_or_concat with rfl | ⟨m'', f, rfl⟩
    · exact absurd (List.cons.inj (List.append_inj_right' hb rfl)).1.symm hd
    · have hsplit : m ++ [']'] = (b ++ d :: m'') ++ [f] := by simpa using hb
      obtain rfl : ']' = f := (List.cons.inj (List.append_inj_right' hsplit rfl)).1
      simp

theorem takes_rangeEnd (lo : Primitive) (s : List Char) :
    Takes v (ClosesAlike v) (afterBlanks v .classUnclosed (rangeEnd v lo)) s := by
  intro item r h
  unfold afterBlanks rangeEnd at h
  split at h
  · cases h
  · rename_i d r' hs
    split at h
    · rename_i hsingle
      obtain ⟨item, hitem, heq⟩ := map_eq_ok.mp h
      cases heq
      refine ⟨[], s, v, rfl, id, hs.symm, fun t ht => ?_⟩
      obtain ⟨m, x, y, rfl, htt, hm⟩ := ht.skip hs
      have hsame : (d ≠ '-' || peekBlanks v (m ++ y) = some ']' ||
          peekBlanks v (m ++ y) = some '-') = true := by
        by_cases hd : d = '-'
        · have hmem : ']' ∈ m := hm (by rw [hd]; decide)
          rw [peekBlanks_append hmem] at hsingle ⊢
          exact hsingle
        · simp [hd]
      rw [List.nil_append, afterBlanks, htt]
      simp only [rangeEnd]
      rw [if_pos hsame, hitem]
      rfl
    · rename_i hrange
      unfold afterBlanks at h
      split at h
      · cases h
      · rename_i e r'' hs'
        obtain ⟨⟨hi, r₃⟩, hhi, hmap⟩ := bind_eq_ok.mp h
        obtain ⟨item', hitem, heq⟩ := map_eq_ok.mp hmap
        cases heq
        simp only at hitem
        -- a boundary would be no end of a range
        have hletter : e = '\\' → r''.head? ≠ some 'b' := by
          rintro rfl hb
          obtain ⟨r'', rfl⟩ : ∃ q, r'' = 'b' :: q := by
            cases r'' with
            | nil => cases hb
            | cons c q => exact ⟨q, by simpa using hb⟩
          rw [readItem_text, if_pos rfl, readEscape_boundary] at hhi
          obtain ⟨a, rfl⟩ := assertion_of_readBoundary hhi
          exact rangeBetween_assertion_ne_ok lo a item hitem
        obtain ⟨p, u, k, rfl, hk, hr, hp⟩ := takes_readItem hletter hi r₃ hhi
        obtain ⟨b, rfl, hb⟩ := skipBlanks_eq_cons hs'
        obtain ⟨b', rfl, hb'⟩ := skipBlanks_eq_cons hs
        refine ⟨b' ++ d :: (b ++ e :: p), u, k, by simp, hk, hr, ?_⟩
        rintro t ⟨m, x, y, rfl, rfl, hm⟩
        have hsame : ¬(d ≠ '-' || peekBlanks v (b ++ e :: (p ++ (m ++ ']' :: y))) = some ']' ||
            peekBlanks v (b ++ e :: (p ++ (m ++ ']' :: y))) = some '-') = true := by
          have hpeek (z : List Char) : peekBlanks v (b ++ e :: (p ++ (m ++ ']' :: z))) =
              peekBlanks v (b ++ e :: (p ++ (m ++ [']']))) := by
            rw [← peekBlanks_append (m := b ++ e :: (p ++ (m ++ [']']))) (by simp) z]
            simp
          rw [hpeek] at hrange ⊢
          exact hrange
        simp only [List.append_assoc, List.cons_append]
        rw [afterBlanks, hb']
        simp only [rangeEnd]
        rw [if_neg hsame, afterBlanks, hb]
        simp only at hp ⊢
        rw [hp _ trivial]
        simp only [Except.bind, hitem, Except.map]

/-- Whether a range begins there can be told at the bracket that closes the class. -/
theorem takes_readRange (c : Char) (s : List Char) :
    Takes v (ClosesAlike v) (fun s => (readRange v c s).text) s := by
  by_cases hletter : c = '\\' → s.head? ≠ some 'b'
  · refine Takes.congr (Takes.bind (takes_readItem hletter) (fun lo s => ?_)
      fun lo u => takes_rangeEnd lo u) (readRange_text v c)
    rw [afterBlanks, afterBlanks, skipBlanks_self]
  · intro item r h
    obtain ⟨rfl, hb⟩ := Classical.not_imp.mp hletter
    rw [not_not] at hb
    obtain ⟨s, rfl⟩ : ∃ q, s = 'b' :: q := by
      cases s with
      | nil => cases hb
      | cons c q => exact ⟨q, by simpa using hb⟩
    simp only [readRange_text, readItem_text, if_true, readEscape_boundary] at h
    obtain ⟨⟨p, r'⟩, hp, hitem⟩ := bind_eq_ok.mp h
    obtain ⟨a, rfl⟩ := assertion_of_readBoundary hp
    unfold afterBlanks at hitem
    split at hitem
    · cases hitem
    · exact absurd hitem (rangeEnd_assertion_ne_ok a _ _ _)

/-! ## Whole classes -/

theorem readItems_text (v : Bool) (outer : List OpenClass) (cls : OpenClass) (s : List Char) :
    (readItems v outer cls s).text = afterBlanks v .classUnclosed (fun c r =>
      if c = '[' then
        match (readAscii? r).map fun x => (x.1, x.2.1) with
        | some (item, rest) => (readItems v outer (cls.push item) rest).text
        | none => (readOpening v r).text.bind fun x => (readItems v (cls :: outer) x.1 x.2).text
      else if c = ']' then
        match outer with
        | [] => .ok (cls.close, r)
        | o :: outer => (readItems v outer (o.push cls.close) r).text
      else
        match readItems.operator? c r with
        | some op => (readItems v outer (cls.combine op) r.tail).text
        | none => (readRange v c r).text.bind fun x =>
          (readItems v outer (cls.push x.1) x.2).text) s := by
  rw [readItems]
  unfold afterBlanks
  split
  · rename_i hs _
    simp [hs]
  · rename_i c r _ hs _
    simp only [hs]
    split
    · cases readAscii? r with
      | some x => simp
      | none =>
        simp only [Option.map_none]
        cases readOpening v r with
        | error e => rfl
        | ok x => exact Reading.text_within _ _
    · split
      · cases outer <;> simp
      · cases readItems.operator? c r with
        | some op => simp
        | none =>
          cases readRange v c r with
          | error e => rfl
          | ok x => exact Reading.text_within _ _

theorem operator_congr (c : Char) {r r' : List Char} (h : r.head? = r'.head?) :
    readItems.operator? c r = readItems.operator? c r' := by
  unfold readItems.operator?
  rw [h]

theorem eq_cons_of_operator {c : Char} {s : List Char} {op : SetOp}
    (h : readItems.operator? c s = some op) : ∃ r, s = c :: r := by
  unfold readItems.operator? at h
  split at h
  · cases h
  · rename_i hhead
    cases s with
    | nil => simp at hhead
    | cons d r => exact ⟨r, by simpa using hhead⟩

theorem suffix_of_readOpening {cls : OpenClass} {s r : List Char}
    (h : (readOpening v s).text = .ok (cls, r)) : r <:+ s := by
  cases r with
  | nil => exact List.nil_suffix
  | cons c r =>
    obtain ⟨w, hw, -⟩ := upTo_readOpening s cls c r h
    exact ⟨w, hw.symm⟩

theorem suffix_of_readRange {c : Char} {item : ClassItem} {s r : List Char}
    (h : (readRange v c s).text = .ok (item, r)) : r <:+ s := by
  obtain ⟨w, u, k, rfl, -, hu, -⟩ := takes_readRange c s item r h
  cases r with
  | nil => exact List.nil_suffix
  | cons d r =>
    obtain ⟨b, rfl, -⟩ := skipBlanks_eq_cons hu.symm
    exact ⟨w ++ b, by simp⟩

/-- A step of reading items takes the bracket of the innermost class, which may be the last one, or
goes on behind what it took with all classes still open. -/
theorem step_of_readItems {outer : List OpenClass} {cls : OpenClass} {s r : List Char}
    {item : ClassItem} (h : (readItems v outer cls s).text = .ok (item, r)) :
    (outer = [] ∧ item = cls.close ∧ ']' ∈ s) ∨ ∃ outer' cls' s',
      (readItems v outer' cls' s').text = .ok (item, r) ∧ s'.length < s.length ∧
        (outer.length = outer'.length + 1 ∧ ']' :: s' <:+ s ∨
          outer.length ≤ outer'.length ∧ s' <:+ s) := by
  rw [readItems_text] at h
  unfold afterBlanks at h
  split at h
  · cases h
  · rename_i c s' hs
    have hlen : s'.length < s.length := length_le_of_skipBlanks hs
    obtain ⟨b, rfl, -⟩ := skipBlanks_eq_cons hs
    have hrest : s' <:+ b ++ c :: s' := ⟨b ++ [c], by simp⟩
    dsimp only at h
    by_cases hopen : c = '['
    · rw [if_pos hopen] at h
      cases hascii : readAscii? s' with
      | some x =>
        obtain ⟨w, hw, -, -⟩ := eq_of_readAscii hascii
        rw [hascii] at h
        exact Or.inr ⟨_, _, _, h, Nat.lt_of_le_of_lt x.2.2 hlen,
          Or.inr ⟨Nat.le_refl _, List.IsSuffix.trans ⟨w ++ [']'], by simp [hw]⟩ hrest⟩⟩
      | none =>
        rw [hascii] at h
        obtain ⟨⟨inner, s''⟩, hopening, h⟩ := bind_eq_ok.mp h
        exact Or.inr ⟨_, _, _, h, Nat.lt_of_le_of_lt (Reading.length_le_of_text hopening) hlen,
          Or.inr ⟨Nat.le_succ _, (suffix_of_readOpening hopening).trans hrest⟩⟩
    · rw [if_neg hopen] at h
      by_cases hclose : c = ']'
      · rw [if_pos hclose] at h
        subst hclose
        cases outer with
        | nil =>
          cases h
          exact Or.inl ⟨rfl, rfl, by simp⟩
        | cons o outer => exact Or.inr ⟨_, _, _, h, hlen, Or.inl ⟨rfl, List.suffix_append b _⟩⟩
      · rw [if_neg hclose] at h
        cases hoperator : readItems.operator? c s' with
        | some op =>
          rw [hoperator] at h
          exact Or.inr ⟨_, _, _, h, Nat.lt_of_le_of_lt (by simp) hlen,
            Or.inr ⟨Nat.le_refl _, (List.tail_suffix s').trans hrest⟩⟩
        | none =>
          rw [hoperator] at h
          obtain ⟨⟨item', s''⟩, hrange, h⟩ := bind_eq_ok.mp h
          exact Or.inr ⟨_, _, _, h, Nat.lt_of_le_of_lt (Reading.length_le_of_text hrange) hlen,
            Or.inr ⟨Nat.le_refl _, (suffix_of_readRange hrange).trans hrest⟩⟩

/-- What a reader takes there ends in a closing bracket and does not depend on what follows. -/
def Closes {α : Type} (f : List Char → Except Fault (α × List Char)) (s : List Char) : Prop :=
  ∀ a r, f s = .ok (a, r) → ∃ p, s = p ++ ']' :: r ∧ ∀ t, f (p ++ ']' :: t) = .ok (a, t)

section Closes

variable {α β : Type} {s : List Char} {f : List Char → Except Fault (α × List Char)}

theorem Closes.exact (h : Closes f s) : Exact f s := by
  intro a r hf
  obtain ⟨p, rfl, hp⟩ := h a r hf
  exact ⟨p ++ [']'], by simp, fun t => by simpa using hp t⟩

/-- The bracket is taken in the rest of the text, or it is the first character. -/
theorem Closes.afterBlanks {e : Fault} {f : Char → List Char → Except Fault (α × List Char)}
    (h : ∀ c r, skipBlanks v s = c :: r →
      Closes (f c) r ∨ c = ']' ∧ ∃ a, ∀ t, f c t = .ok (a, t)) :
    Closes (afterBlanks v e f) s := by
  intro a r hf
  unfold Regular.afterBlanks at hf
  split at hf
  · cases hf
  · rename_i c r' hs
    obtain ⟨b, rfl, hb⟩ := skipBlanks_eq_cons hs
    rcases h c r' hs with h | ⟨rfl, a', htake⟩
    · obtain ⟨p, rfl, hp⟩ := h a r hf
      exact ⟨b ++ c :: p, by simp, fun t => by simp [Regular.afterBlanks, hb, hp]⟩
    · rw [htake] at hf
      cases hf
      exact ⟨b, rfl, fun t => by simp [Regular.afterBlanks, hb, htake]⟩

/-- The first reader looks at the next character, which is taken by the second one. -/
theorem UpTo.bind_closes {g : α → List Char → Except Fault (β × List Char)} (hf : UpTo f s)
    (hg : ∀ a r, f s = .ok (a, r) → Closes (g a) r) :
    Closes (fun s => (f s).bind fun x => g x.1 x.2) s := by
  intro b r h
  obtain ⟨⟨a, r'⟩, ha, hb⟩ := bind_eq_ok.mp h
  obtain ⟨q, rfl, hq⟩ := hg a r' ha b r hb
  obtain ⟨c, q', hc⟩ :
      ∃ (c : Char) (q' : List Char → List Char), ∀ t, q ++ ']' :: t = c :: q' t := by
    cases q with
    | nil => exact ⟨']', id, fun t => rfl⟩
    | cons c q => exact ⟨c, fun t => q ++ ']' :: t, fun t => rfl⟩
  rw [hc] at ha
  obtain ⟨p, rfl, hp⟩ := hf a c _ ha
  refine ⟨p ++ q, by rw [← hc]; simp, fun t => ?_⟩
  dsimp only
  rw [List.append_assoc, hc, hp, ← hc]
  exact hq t

/-- The first reader looks no further than the closing bracket, which is taken by the second one. -/
theorem Takes.bind_closes {g : α → List Char → Except Fault (β × List Char)}
    (hf : Takes v (ClosesAlike v) f s) (hblank : ∀ a s, skipBlanks v s = [] → ∀ x, g a s ≠ .ok x)
    (hg : ∀ a r, f s = .ok (a, r) → Closes (g a) r) :
    Closes (fun s => (f s).bind fun x => g x.1 x.2) s := by
  intro b r h
  obtain ⟨⟨a, r'⟩, ha, hb⟩ := bind_eq_ok.mp h
  obtain ⟨q, rfl, hq⟩ := hg a r' ha b r hb
  obtain ⟨p, u, k, rfl, hk, hu, hp⟩ := hf a _ ha
  obtain ⟨w, rfl, hw⟩ := skipBlanks_eq_append hu.symm
  refine ⟨p ++ (w ++ q), by simp, fun t => ?_⟩
  have hshared : ClosesAlike v (w ++ (q ++ ']' :: r)) (w ++ (q ++ ']' :: t)) := by
    refine ⟨w ++ q, r, t, by simp, by simp, fun hnil => hblank a (q ++ [']']) ?_ _ (hq [])⟩
    rw [← hw [], skipBlanks_skipBlanks hk]
    simpa using hnil
  have := hp _ hshared
  rw [hw] at this
  simp only [List.append_assoc, this]
  exact hq t

end Closes

/-- **A class ends at the bracket that closes it**, and what follows does not matter. -/
theorem closes_readItems (outer : List OpenClass) (cls : OpenClass) (s : List Char) :
    Closes (fun s => (readItems v outer cls s).text) s := by
  induction hn : s.length using Nat.strongRecOn generalizing outer cls s with
  | ind n ih =>
    rw [show (fun s => (readItems v outer cls s).text) = _ from funext (readItems_text v outer cls)]
    refine Closes.afterBlanks fun c s' hs => ?_
    have hlen : s'.length < n := hn ▸ length_le_of_skipBlanks hs
    by_cases hopen : c = '['
    · simp only [if_pos hopen]
      refine Or.inl fun item r h => ?_
      dsimp only at h
      -- an ASCII class is an item of this class, any other bracket opens a class inside
      cases hascii : readAscii? s' with
      | some x =>
        obtain ⟨inner, rest⟩ := x
        rw [hascii] at h
        obtain ⟨w, hw, -, hwt⟩ := eq_of_readAscii hascii
        obtain ⟨p, hp, hpt⟩ :=
          ih _ (Nat.lt_of_le_of_lt rest.2 hlen) outer (cls.push inner) rest.1 rfl item r h
        refine ⟨w ++ ']' :: p, by simp [hw, hp], fun t => ?_⟩
        dsimp only
        rw [List.append_assoc, List.cons_append, hwt]
        exact hpt t
      | none =>
        rw [hascii] at h
        obtain ⟨p, rfl, hpt⟩ := UpTo.bind_closes (upTo_readOpening s')
          (g := fun inner r => (readItems v (cls :: outer) inner r).text)
          (fun inner r hr => ih _ (Nat.lt_of_le_of_lt (Reading.length_le_of_text hr) hlen)
            (cls :: outer) inner r rfl) item r h
        refine ⟨p, rfl, fun t => ?_⟩
        dsimp only
        rw [readAscii_eq_none hascii t]
        exact hpt t
    · simp only [if_neg hopen]
      by_cases hclose : c = ']'
      · simp only [if_pos hclose]
        cases outer with
        | nil => exact Or.inr ⟨hclose, cls.close, fun t => rfl⟩
        | cons o outer => exact Or.inl (ih _ hlen outer (o.push cls.close) s' rfl)
      · simp only [if_neg hclose]
        refine Or.inl fun item r h => ?_
        dsimp only at h
        cases hop : readItems.operator? c s' with
        | some op =>
          rw [hop] at h
          obtain ⟨s', rfl⟩ := eq_cons_of_operator hop
          have hlen' : s'.length < n := Nat.lt_of_succ_lt hlen
          obtain ⟨p, rfl, hpt⟩ := ih _ hlen' outer (cls.combine op) s' rfl item r h
          refine ⟨c :: p, rfl, fun t => ?_⟩
          dsimp only
          have hsame : readItems.operator? c (c :: p ++ ']' :: t) = some op :=
            (operator_congr c rfl).trans hop
          rw [hsame]
          exact hpt t
        | none =>
          rw [hop] at h
          -- a range looks ahead, but nothing is read where there is nothing left to look at
          have hblank (item : ClassItem) (s : List Char) (hs : skipBlanks v s = [])
              (x : ClassItem × List Char) :
              (readItems v outer (cls.push item) s).text ≠ .ok x := by
            rw [readItems_text, afterBlanks, hs]
            intro hok
            cases hok
          obtain ⟨p, rfl, hpt⟩ := Takes.bind_closes (takes_readRange c s') hblank
            (fun item r hr => ih _ (Nat.lt_of_le_of_lt (Reading.length_le_of_text hr) hlen)
              outer (cls.push item) r rfl) item r h
          have hhead (t : List Char) : (p ++ ']' :: t).head? = (p ++ ']' :: r).head? := by
            cases p <;> rfl
          refine ⟨p, rfl, fun t => ?_⟩
          dsimp only
          rw [operator_congr c (hhead t), hop]
          exact hpt t

theorem readClass_text (v : Bool) (s : List Char) :
    (readClass v s).text = (readOpening v s).text.bind fun x => (readItems v [] x.1 x.2).text := by
  unfold readClass
  rw [Reading.text_bind _ (g := fun cls r => (readItems v [] cls r).text)]
  intro cls rest
  exact Reading.text_within _ _

theorem exact_readClass (s : List Char) : Exact (fun s => (readClass v s).text) s :=
  ((upTo_readOpening s).bind_closes fun cls r _ => closes_readItems [] cls r).exact.congr
    (readClass_text v)

end Verbal.Regular
