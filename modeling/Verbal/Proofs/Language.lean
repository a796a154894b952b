import Mathlib.Algebra.GroupWithZero.Nat
import Mathlib.Computability.Language
import Verbal.Proofs.Regular.Spans
import Verbal.Proofs.Segments

/-!
# The language of a chain of verbs

`chainLanguage` says what a chain of plain verbs describes: every verb has a set of texts, a segment
describes what its verbs describe one after the other, and the chain what one of its segments
describes. `chainRegex` is the expression that the pattern of the chain stands for.

* `Regex.Reads`: an expression without assertions reads a language wherever it stands.
* **`covers_chainRegex`**: the expression covers exactly the texts of the language, with anchors or
  without.
-/

namespace Verbal

open Verbal.Regular Verbal.Unicode

/-! ## Languages -/

/-- The texts that a verb describes. Settings describe the empty text. -/
def Verb.language : Verb → Language Char
  | andThen value => {value.toList}
  | maybe value => {value.toList, []}
  | anything => {w : List Char | ∀ c ∈ w, c ≠ '\n'}
  | anythingBut value => {w : List Char | ∀ c ∈ w, c ∉ value.toList}
  | something => {w : List Char | w ≠ [] ∧ ∀ c ∈ w, c ≠ '\n'}
  | somethingBut value => {w : List Char | w ≠ [] ∧ ∀ c ∈ w, c ∉ value.toList}
  | linebreak => {['\n'], ['\r', '\n']}
  | tab => {['\t']}
  | word => {w : List Char | w ≠ [] ∧ ∀ c ∈ w, isWord c = true}
  | anyOf value => {w : List Char | ∃ c ∈ value.toList, w = [c]}
  | range pairs => {w : List Char | ∃ c, w = [c] ∧ ∃ p ∈ pairs, p.1 ≤ c ∧ c ≤ p.2}
  | _ => 1

/-- The texts that a chain describes: those of one of its segments, each of which describes what its
verbs describe one after the other. -/
def chainLanguage (verbs : List Verb) : Language Char :=
  ((segments verbs).map fun s => (s.map Verb.language).prod).sum

/-! ## Branches

A pattern and what it stands for are put together in the same way, so this is said for both. -/

section Branches

variable {α : Type}

/-- Puts items in front of the first branch. -/
def atFront (pre : List α) (bs : List (List α)) : List (List α) := bs.modifyHead (pre ++ ·)

/-- Puts items behind the last branch. -/
def atBack (post : List α) : List (List α) → List (List α)
  | [] => []
  | [b] => [b ++ post]
  | b :: c :: bs => b :: atBack post (c :: bs)

/-- Makes a capture group of every branch. -/
def numbered (group : Nat → List α → α) (k : Nat) : List (List α) → List (List α)
  | [] => []
  | b :: bs => [group k b] :: numbered group (k + 1) bs

/-- The branches of a chain: a segment alone stands as it is, several are groups, and the anchors
stand around all of them. -/
def chainBranches (group : Nat → List α → α) (k : Nat) (pre post : List α) (bs : List (List α)) :
    List (List α) :=
  atFront pre (atBack post (if bs.length ≤ 1 then bs else numbered group k bs))

theorem atFront_nil (bs : List (List α)) : atFront [] bs = bs := by
  cases bs <;> rfl

section Relations

variable {β : Type} {R S : α → β → Prop} {as : List (List α)} {bs : List (List β)}

theorem forall₂_atFront {pre : List α} {pre' : List β} (hpre : List.Forall₂ S pre pre')
    (h : List.Forall₂ (List.Forall₂ S) as bs) :
    List.Forall₂ (List.Forall₂ S) (atFront pre as) (atFront pre' bs) := by
  cases h with
  | nil => exact .nil
  | cons h hrest => exact .cons (List.rel_append hpre h) hrest

theorem forall₂_atBack {post : List α} {post' : List β} (hpost : List.Forall₂ S post post')
    (h : List.Forall₂ (List.Forall₂ S) as bs) :
    List.Forall₂ (List.Forall₂ S) (atBack post as) (atBack post' bs) := by
  induction h with
  | nil => exact .nil
  | cons h hrest ih =>
    cases hrest with
    | nil => exact .cons (List.rel_append h hpost) .nil
    | cons h' hrest => exact .cons h ih

/-- What relates the items of the segments, and the groups of related segments, relates the branches
of chains. -/
theorem forall₂_chainBranches {group : Nat → List α → α} {group' : Nat → List β → β} (k : Nat)
    {pre post : List α} {pre' post' : List β} (hRS : ∀ a b, R a b → S a b)
    (hgroup : ∀ k as bs, List.Forall₂ R as bs → S (group k as) (group' k bs))
    (hpre : List.Forall₂ S pre pre') (hpost : List.Forall₂ S post post')
    (h : List.Forall₂ (List.Forall₂ R) as bs) :
    List.Forall₂ (List.Forall₂ S) (chainBranches group k pre post as)
      (chainBranches group' k pre' post' bs) := by
  have hnumbered (k : Nat) :
      List.Forall₂ (List.Forall₂ S) (numbered group k as) (numbered group' k bs) := by
    induction h generalizing k with
    | nil => exact .nil
    | cons h hrest ih => exact .cons (.cons (hgroup k _ _ h) .nil) (ih (k + 1))
  refine forall₂_atFront hpre (forall₂_atBack hpost ?_)
  rw [h.length_eq]
  split
  · exact h.imp fun _ _ h => h.imp hRS
  · exact hnumbered k

end Relations

end Branches

/-! ## Expressions -/

namespace Regular.Regex

/-- One expression after the other. -/
def sequence : List Regex → Regex
  | [] => empty
  | [a] => a
  | a :: as => concat a (sequence as)

/-- One of the expressions. -/
def choice : List Regex → Regex
  | [] => empty
  | [a] => a
  | a :: as => alternate a (choice as)

/-- The letters of a text. -/
def ofText (anyCase : Bool) (text : List Char) : Regex :=
  sequence (text.map fun c =>
    letter (if anyCase then .ofChars (caseVariants c) else .single c))

end Regular.Regex

/-- The texts that spell a text: letter by letter the same, or in another case if it is ignored. -/
def spelled (anyCase : Bool) (text : List Char) : Language Char :=
  {w : List Char | List.Forall₂ (fun c d => if anyCase then d ∈ caseVariants c else c = d) text w}

/-- The characters in one of the sets. -/
def classOf (anyCase : Bool) (sets : List CharSet) : CharSet :=
  if anyCase then .anyCase (.unions sets) else .unions sets

/-- The characters of a text. -/
def classOfText (anyCase : Bool) (text : List Char) : CharSet :=
  classOf anyCase (text.map CharSet.single)

/-- What the piece of a verb stands for. Settings have none. -/
def Verb.regex? (anyCase : Bool) : Verb → Option Regex
  | andThen value => some (.ofText anyCase value.toList)
  | maybe value => some (.repetition ⟨0, some 1⟩ true (.ofText anyCase value.toList))
  | anything => some (.repetition ⟨0, none⟩ true (.letter (.compl (.single '\n'))))
  | anythingBut value =>
    some (.repetition ⟨0, none⟩ true (.letter (.compl (classOfText anyCase value.toList))))
  | something => some (.repetition ⟨1, none⟩ true (.letter (.compl (.single '\n'))))
  | somethingBut value =>
    some (.repetition ⟨1, none⟩ true (.letter (.compl (classOfText anyCase value.toList))))
  | linebreak => some (.alternate (.ofText anyCase ['\n']) (.ofText anyCase ['\r', '\n']))
  | tab => some (.ofText anyCase ['\t'])
  | word => some (.repetition ⟨1, none⟩ true (.letter .word))
  | anyOf value => some (.letter (classOfText anyCase value.toList))
  | range pairs => some (.letter (classOf anyCase (pairs.map fun p => .range p.1 p.2)))
  | _ => none

/-- What a chain stands for, with anchors around it. -/
def chainRegex (anyCase start stop : Bool) (more : List Regex) (ss : List (List Verb)) : Regex :=
  .choice ((chainBranches (fun k rs => .group k (.sequence rs)) 1
    (if start then [.look .startText] else []) ((if stop then [.look .endText] else []) ++ more)
    (ss.map fun s => s.filterMap (Verb.regex? anyCase))).map .sequence)

/-! ## What expressions read -/

theorem contains_single {c d : Char} : (CharSet.single c).contains d = true ↔ d = c := by
  simp only [CharSet.single, CharSet.contains, Bool.and_eq_true, decide_eq_true_eq]
  exact ⟨fun h => Char.le_antisymm h.2 h.1, fun h => h ▸ ⟨Char.le_refl _, Char.le_refl _⟩⟩

namespace Regular.Regex

/-- Whether an expression, wherever it stands, reads exactly the texts of a language. -/
def Reads (r : Regex) (l : Language Char) : Prop :=
  ∀ u w v, r.Spans (u ++ w ++ v) u.length (u.length + w.length) ↔ w ∈ l

/-- Whether an expression can match all of a text. -/
def Covers (r : Regex) (text : List Char) : Prop := r.Spans text 0 text.length

section Reads

variable {a b : Regex} {l m : Language Char} {set : CharSet}

theorem Reads.congr (h : a.Reads l) (hlm : ∀ w, w ∈ m ↔ w ∈ l) : a.Reads m :=
  fun u w v => (h u w v).trans (hlm w).symm

theorem Reads.covers_iff (h : a.Reads l) (text : List Char) : a.Covers text ↔ text ∈ l := by
  simpa [Covers] using h [] text []

/-- Where an expression leads from a place, it reads a text of the language. -/
theorem Reads.spans_iff (h : a.Reads l) {text : List Char} {i j : Nat} (hi : i ≤ text.length) :
    a.Spans text i j ↔ ∃ w v, text.drop i = w ++ v ∧ j = i + w.length ∧ w ∈ l := by
  have hlength : (text.take i).length = i := by rw [List.length_take, Nat.min_eq_left hi]
  have hreads {w v : List Char} (hdrop : text.drop i = w ++ v) :
      a.Spans text i (i + w.length) ↔ w ∈ l := by
    have hiff := h (text.take i) w v
    rwa [List.append_assoc, ← hdrop, List.take_append_drop, hlength] at hiff
  constructor
  · intro hs
    obtain ⟨n, rfl⟩ := Nat.exists_eq_add_of_le hs.le
    have hsplit := (List.take_append_drop n (text.drop i)).symm
    have hn : ((text.drop i).take n).length = n := by
      have hle := hs.le_length hi
      rw [List.length_take, List.length_drop]
      omega
    exact ⟨_, _, hsplit, by rw [hn], (hreads hsplit).mp (by rwa [hn])⟩
  · rintro ⟨w, v, hdrop, rfl, hw⟩
    exact (hreads hdrop).mpr hw

theorem Reads.spans_append (h : a.Reads l) {u v : List Char} {i : Nat} :
    a.Spans (u ++ v) u.length i ↔ ∃ w y, v = w ++ y ∧ i = u.length + w.length ∧ w ∈ l := by
  rw [h.spans_iff (by simp), List.drop_left]

theorem reads_empty : empty.Reads 1 := by
  intro u w v
  simp only [Spans, Language.mem_one]
  rw [← List.length_eq_zero_iff]
  omega

theorem reads_letter :
    (letter set).Reads {w : List Char | ∃ c, w = [c] ∧ set.contains c = true} := by
  intro u w v
  simp only [Spans]
  constructor
  · rintro ⟨hlength, c, hc, hset⟩
    obtain ⟨d, rfl⟩ := List.length_eq_one_iff.mp (by omega : w.length = 1)
    obtain rfl : d = c := by simpa using hc
    exact ⟨d, rfl, hset⟩
  · rintro ⟨c, rfl, hset⟩
    exact ⟨rfl, c, by simp, hset⟩

theorem Reads.concat (ha : a.Reads l) (hb : b.Reads m) : (concat a b).Reads (l * m) := by
  intro u w v
  rw [Language.mem_mul]
  constructor
  · rintro ⟨k, hk, hk'⟩
    obtain ⟨n, rfl⟩ := Nat.exists_eq_add_of_le hk.le
    have hn := hk'.le
    have hlength : (w.take n).length = n := by rw [List.length_take]; omega
    refine ⟨w.take n, (ha u (w.take n) (w.drop n ++ v)).mp ?_, w.drop n,
      (hb (u ++ w.take n) (w.drop n) v).mp ?_, List.take_append_drop n w⟩
    · rwa [← List.append_assoc, List.append_assoc u, List.take_append_drop, hlength]
    · rw [List.append_assoc u, List.take_append_drop, List.length_append, hlength, Nat.add_assoc]
      rwa [List.length_drop, Nat.add_sub_cancel' (by omega)]
  · rintro ⟨x, hx, y, hy, rfl⟩
    refine ⟨u.length + x.length, ?_, ?_⟩
    · simpa using (ha u x (y ++ v)).mpr hx
    · simpa [Nat.add_assoc] using (hb (u ++ x) y v).mpr hy

theorem Reads.alternate (ha : a.Reads l) (hb : b.Reads m) : (alternate a b).Reads (l + m) :=
  fun u w v => or_congr (ha u w v) (hb u w v)

theorem Reads.option {greedy : Bool} (ha : a.Reads l) :
    (repetition ⟨0, some 1⟩ greedy a).Reads (l + 1) := by
  intro u w v
  rw [Language.mem_add, Language.mem_one, ← ha u w v]
  constructor
  · rintro ⟨n, ⟨-, hn⟩, hrounds⟩
    have hn : n = 0 ∨ n = 1 := by
      have : n ≤ max 0 1 := hn 1 rfl
      omega
    rcases hn with rfl | rfl
    · exact Or.inr ((reads_empty u w v).mp hrounds)
    · exact Or.inl (rounds_one.mp hrounds)
  · rintro (h | rfl)
    · exact ⟨1, ⟨Nat.zero_le _, by simp⟩, rounds_one.mpr h⟩
    · exact ⟨0, ⟨Nat.zero_le _, by simp⟩, rfl⟩

theorem rounds_letter {u w v : List Char} {n : Nat} :
    Rounds ((letter set).Spans (u ++ w ++ v)) n u.length (u.length + w.length) ↔
      w.length = n ∧ ∀ c ∈ w, set.contains c = true := by
  induction n generalizing u w with
  | zero =>
    rw [show Rounds _ 0 u.length (u.length + w.length) ↔ _ from reads_empty u w v,
      Language.mem_one]
    constructor
    · rintro rfl
      exact ⟨rfl, nofun⟩
    · exact fun h => List.length_eq_zero_iff.mp h.1
  | succ n ih =>
    cases w with
    | nil =>
      simp only [List.length_nil, Nat.add_zero, Nat.zero_ne_add_one, false_and, iff_false]
      rintro ⟨k, ⟨rfl, -⟩, hrounds⟩
      exact absurd (hrounds.le Spans.le) (by simp)
    | cons c w =>
      have ih := ih (u := u ++ [c]) (w := w)
      simp only [List.append_assoc, List.cons_append, List.nil_append, List.length_append,
        List.length_cons, List.length_nil] at ih ⊢
      have hget : (u ++ c :: (w ++ v))[u.length]? = some c := by simp
      constructor
      · rintro ⟨k, ⟨rfl, d, hd, hset⟩, hrounds⟩
        obtain rfl : c = d := Option.some.inj (hget.symm.trans hd)
        obtain ⟨hlength, hall⟩ := ih.mp (by rwa [Nat.add_assoc, Nat.add_comm 1])
        exact ⟨by omega, List.forall_mem_cons.mpr ⟨hset, hall⟩⟩
      · rintro ⟨hlength, hall⟩
        obtain ⟨hset, hall⟩ := List.forall_mem_cons.mp hall
        refine ⟨u.length + 1, ⟨rfl, c, hget, hset⟩, ?_⟩
        have := ih.mpr ⟨by omega, hall⟩
        rwa [Nat.add_assoc, Nat.add_comm 1] at this

theorem reads_letters {least : Nat} {greedy : Bool} :
    (repetition ⟨least, none⟩ greedy (letter set)).Reads
      {w : List Char | least ≤ w.length ∧ ∀ c ∈ w, set.contains c = true} := by
  intro u w v
  constructor
  · rintro ⟨n, ⟨hn, -⟩, hrounds⟩
    obtain ⟨rfl, hall⟩ := rounds_letter.mp hrounds
    exact ⟨hn, hall⟩
  · rintro ⟨hn, hall⟩
    exact ⟨w.length, ⟨hn, nofun⟩, rounds_letter.mpr ⟨rfl, hall⟩⟩

/-! ### Sequences and choices -/

variable {text : List Char} {i j : Nat}

theorem spans_concat_empty : (concat a empty).Spans text i j ↔ a.Spans text i j :=
  ⟨fun ⟨_, h, hj⟩ => hj ▸ h, fun h => ⟨j, h, rfl⟩⟩

theorem spans_sequence_cons (rs : List Regex) :
    (sequence (a :: rs)).Spans text i j ↔ (concat a (sequence rs)).Spans text i j := by
  cases rs with
  | nil => exact spans_concat_empty.symm
  | cons r rs => exact Iff.rfl

theorem spans_sequence_append (rs rs' : List Regex) :
    (sequence (rs ++ rs')).Spans text i j ↔
      (concat (sequence rs) (sequence rs')).Spans text i j := by
  induction rs generalizing i with
  | nil => exact ⟨fun h => ⟨i, rfl, h⟩, fun ⟨_, hi, h⟩ => hi ▸ h⟩
  | cons r rs ih =>
    rw [List.cons_append, spans_sequence_cons]
    simp only [Spans, spans_sequence_cons, ih]
    constructor
    · rintro ⟨k, hk, k', hk', h⟩
      exact ⟨k', ⟨k, hk, hk'⟩, h⟩
    · rintro ⟨k', ⟨k, hk, hk'⟩, h⟩
      exact ⟨k, hk, k', hk', h⟩

theorem reads_sequence_cons {rs : List Regex} (ha : a.Reads l) (hrs : (sequence rs).Reads m) :
    (sequence (a :: rs)).Reads (l * m) :=
  fun u w v => (spans_sequence_cons rs).trans (ha.concat hrs u w v)

theorem spans_choice {rs : List Regex} (h : rs ≠ []) :
    (choice rs).Spans text i j ↔ ∃ r ∈ rs, r.Spans text i j := by
  match rs with
  | [] => exact absurd rfl h
  | [r] => simp [choice]
  | r :: r' :: rs =>
    rw [choice, Spans, spans_choice (List.cons_ne_nil r' rs), List.exists_mem_cons_iff _ r]
    exact nofun

theorem covers_choice {rs : List Regex} (h : rs ≠ []) :
    (choice rs).Covers text ↔ ∃ r ∈ rs, r.Covers text :=
  spans_choice h

end Reads

theorem contains_ofChars {cs : List Char} {d : Char} :
    (CharSet.ofChars cs).contains d = true ↔ d ∈ cs := by
  match cs with
  | [] => simp [CharSet.ofChars, CharSet.contains]
  | [c] => simp [CharSet.ofChars, contains_single]
  | c :: c' :: cs =>
    rw [show CharSet.ofChars (c :: c' :: cs) = .union (.single c) (.ofChars (c' :: cs)) from rfl,
      CharSet.contains, Bool.or_eq_true, contains_single, contains_ofChars, ← List.mem_cons]

/-- The letters of a text read what spells it. -/
theorem reads_ofText (anyCase : Bool) (text : List Char) :
    (ofText anyCase text).Reads (spelled anyCase text) := by
  induction text with
  | nil => exact reads_empty.congr fun w => List.forall₂_nil_left_iff
  | cons c text ih =>
    have hletter (d : Char) : (if anyCase then CharSet.ofChars (caseVariants c)
        else .single c).contains d = true ↔ if anyCase then d ∈ caseVariants c else c = d := by
      cases anyCase with
      | true => exact contains_ofChars
      | false => exact contains_single.trans eq_comm
    refine Reads.congr (reads_sequence_cons reads_letter ih) fun w => ?_
    refine List.forall₂_cons_left_iff.trans ⟨?_, ?_⟩
    · rintro ⟨d, w, hd, hw, rfl⟩
      exact ⟨[d], ⟨d, rfl, (hletter d).mpr hd⟩, w, hw, rfl⟩
    · rintro ⟨_, ⟨d, rfl, hd⟩, w, hw, rfl⟩
      exact ⟨d, w, (hletter d).mp hd, hw, rfl⟩

/-- If case counts, nothing else spells a text. -/
theorem mem_spelled {text w : List Char} : w ∈ spelled false text ↔ w = text := by
  change List.Forall₂ (· = ·) text w ↔ w = text
  rw [List.forall₂_eq_eq_eq]
  exact eq_comm

/-- If no letter has another case, it makes no difference that case is ignored. -/
theorem spelled_of_caseless {text : List Char} (h : ∀ c ∈ text, caseVariants c = [c]) :
    spelled true text = spelled false text := by
  induction text with
  | nil => exact Set.ext fun w => List.forall₂_nil_left_iff.trans List.forall₂_nil_left_iff.symm
  | cons c text ih =>
    obtain ⟨hc, h⟩ := List.forall_mem_cons.mp h
    have hcons (anyCase : Bool) (w : List Char) : w ∈ spelled anyCase (c :: text) ↔
        ∃ d u, (if anyCase then d ∈ caseVariants c else c = d) ∧ u ∈ spelled anyCase text ∧
          w = d :: u :=
      List.forall₂_cons_left_iff
    ext w
    rw [hcons, hcons, ih h, hc]
    simp [eq_comm]

end Regular.Regex

/-! ## What verbs read -/

theorem contains_unions {sets : List CharSet} {c : Char} :
    (CharSet.unions sets).contains c = true ↔ ∃ set ∈ sets, set.contains c = true := by
  match sets with
  | [] => simp [CharSet.unions, CharSet.contains]
  | [a] => simp [CharSet.unions]
  | a :: b :: sets =>
    rw [CharSet.unions, CharSet.contains, Bool.or_eq_true, contains_unions,
      List.exists_mem_cons_iff _ a]
    exact nofun

theorem contains_classOfText {text : List Char} {c : Char} :
    (classOfText false text).contains c = true ↔ c ∈ text := by
  unfold classOfText classOf
  rw [if_neg Bool.false_ne_true, contains_unions]
  simp [contains_single]

theorem contains_word (c : Char) : CharSet.word.contains c = isWord c := by
  rw [CharSet.word, CharSet.contains, isWord]

/-- **A verb describes what its piece reads.** -/
theorem Verb.reads_of_regex {v : Verb} {r : Regex} (h : v.regex? false = some r) :
    r.Reads v.language := by
  have htext (text : List Char) : (Regex.ofText false text).Reads {text} :=
    (Regex.reads_ofText false text).congr fun w => Regex.mem_spelled.symm
  have hnewline (c : Char) : (CharSet.compl (.single '\n')).contains c = true ↔ c ≠ '\n' := by
    rw [CharSet.contains, Bool.not_eq_true', ← Bool.not_eq_true, contains_single]
  have hnot (value : List Char) (c : Char) :
      (CharSet.compl (classOfText false value)).contains c = true ↔ c ∉ value := by
    rw [CharSet.contains, Bool.not_eq_true', ← Bool.not_eq_true, contains_classOfText]
  have hpos (w : List Char) : 1 ≤ w.length ↔ w ≠ [] := List.length_pos_iff
  cases v with
  | andThen value => cases h; exact htext _
  | maybe value => cases h; exact (htext _).option
  | anything =>
    cases h
    refine Regex.reads_letters.congr fun w => ?_
    change (∀ c ∈ w, c ≠ '\n') ↔ 0 ≤ w.length ∧ ∀ c ∈ w, _
    simp only [hnewline, Nat.zero_le, true_and]
  | anythingBut value =>
    cases h
    refine Regex.reads_letters.congr fun w => ?_
    change (∀ c ∈ w, c ∉ value.toList) ↔ 0 ≤ w.length ∧ ∀ c ∈ w, _
    simp only [hnot, Nat.zero_le, true_and]
  | something =>
    cases h
    refine Regex.reads_letters.congr fun w => ?_
    change (w ≠ [] ∧ ∀ c ∈ w, c ≠ '\n') ↔ 1 ≤ w.length ∧ ∀ c ∈ w, _
    simp only [hnewline, hpos]
  | somethingBut value =>
    cases h
    refine Regex.reads_letters.congr fun w => ?_
    change (w ≠ [] ∧ ∀ c ∈ w, c ∉ value.toList) ↔ 1 ≤ w.length ∧ ∀ c ∈ w, _
    simp only [hnot, hpos]
  | linebreak => cases h; exact (htext _).alternate (htext _)
  | tab => cases h; exact htext _
  | word =>
    cases h
    refine Regex.reads_letters.congr fun w => ?_
    change (w ≠ [] ∧ ∀ c ∈ w, isWord c = true) ↔ 1 ≤ w.length ∧ ∀ c ∈ w, _
    simp only [contains_word, hpos]
  | anyOf value =>
    cases h
    refine Regex.reads_letter.congr fun w => exists_congr fun c => ?_
    rw [contains_classOfText, and_comm]
  | range pairs =>
    cases h
    refine Regex.reads_letter.congr fun w => exists_congr fun c => and_congr_right fun _ => ?_
    simp [classOf, contains_unions, CharSet.contains]
  | _ => cases h

theorem Verb.language_of_regex {v : Verb} (h : v.regex? false = none) : v.language = 1 := by
  cases v <;> first | rfl | cases h

/-! ## What chains read -/

theorem reads_segment (s : List Verb) :
    (Regex.sequence (s.filterMap (Verb.regex? false))).Reads (s.map Verb.language).prod := by
  induction s with
  | nil => exact Regex.reads_empty
  | cons v s ih =>
    rw [List.map_cons, List.prod_cons]
    cases h : v.regex? false with
    | none => rwa [List.filterMap_cons_none h, Verb.language_of_regex h, one_mul]
    | some r =>
      rw [List.filterMap_cons_some h]
      exact Regex.reads_sequence_cons (Verb.reads_of_regex h) ih

section Branches

variable {α : Type} {P : List α → Prop}

theorem exists_atFront {pre : List α} (h : ∀ b, P (pre ++ b) ↔ P b) (bs : List (List α)) :
    (∃ b ∈ atFront pre bs, P b) ↔ ∃ b ∈ bs, P b := by
  cases bs with
  | nil => exact Iff.rfl
  | cons b bs => simp [atFront, h]

theorem exists_atBack {post : List α} (h : ∀ b, P (b ++ post) ↔ P b) (bs : List (List α)) :
    (∃ b ∈ atBack post bs, P b) ↔ ∃ b ∈ bs, P b := by
  match bs with
  | [] => exact Iff.rfl
  | [b] => simp [atBack, h]
  | b :: c :: bs =>
    rw [atBack, List.exists_mem_cons_iff _ b, List.exists_mem_cons_iff _ b, exists_atBack h]

theorem exists_numbered {group : Nat → List α → α} (h : ∀ k b, P [group k b] ↔ P b) (k : Nat)
    (bs : List (List α)) : (∃ b ∈ numbered group k bs, P b) ↔ ∃ b ∈ bs, P b := by
  induction bs generalizing k with
  | nil => exact Iff.rfl
  | cons b bs ih => rw [numbered, List.exists_mem_cons_iff, List.exists_mem_cons_iff, ih, h]

theorem atFront_ne_nil {pre : List α} {bs : List (List α)} (h : bs ≠ []) : atFront pre bs ≠ [] := by
  cases bs with
  | nil => exact absurd rfl h
  | cons b bs => exact List.cons_ne_nil _ _

theorem atBack_ne_nil {post : List α} {bs : List (List α)} (h : bs ≠ []) : atBack post bs ≠ [] := by
  match bs with
  | [] => exact absurd rfl h
  | [b] => exact List.cons_ne_nil _ _
  | b :: c :: bs => exact List.cons_ne_nil _ _

theorem chainBranches_ne_nil {group : Nat → List α → α} {k : Nat} {pre post : List α}
    {bs : List (List α)} (h : bs ≠ []) : chainBranches group k pre post bs ≠ [] := by
  refine atFront_ne_nil (atBack_ne_nil ?_)
  split
  · exact h
  · obtain ⟨b, bs, rfl⟩ := List.exists_cons_of_ne_nil h
    exact List.cons_ne_nil _ _

/-- As far as groups and what stands around a chain do not matter, its branches are its segments. -/
theorem exists_chainBranches {group : Nat → List α → α} {pre post : List α}
    (hpre : ∀ b, P (pre ++ b) ↔ P b) (hpost : ∀ b, P (b ++ post) ↔ P b)
    (hgroup : ∀ k b, P [group k b] ↔ P b) (k : Nat) (bs : List (List α)) :
    (∃ b ∈ chainBranches group k pre post bs, P b) ↔ ∃ b ∈ bs, P b := by
  unfold chainBranches
  rw [exists_atFront hpre, exists_atBack hpost]
  split
  · exact Iff.rfl
  · exact exists_numbered hgroup k bs

end Branches

theorem mem_chainLanguage {verbs : List Verb} {w : List Char} :
    w ∈ chainLanguage verbs ↔ ∃ s ∈ segments verbs, w ∈ (s.map Verb.language).prod := by
  unfold chainLanguage
  induction segments verbs with
  | nil => simp
  | cons s ss ih =>
    rw [List.map_cons, List.sum_cons, Language.mem_add, ih, List.exists_mem_cons_iff _ s]

theorem covers_anchored_start (start : Bool) (rs : List Regex) (text : List Char) :
    (Regex.sequence ((if start then [.look .startText] else []) ++ rs)).Covers text ↔
      (Regex.sequence rs).Covers text := by
  unfold Regex.Covers
  rw [Regex.spans_sequence_append]
  cases start with
  | true => exact ⟨fun ⟨k, ⟨hk, _⟩, h⟩ => hk ▸ h, fun h => ⟨0, ⟨rfl, rfl⟩, h⟩⟩
  | false => exact ⟨fun ⟨k, hk, h⟩ => hk ▸ h, fun h => ⟨0, rfl, h⟩⟩

theorem covers_anchored_stop (stop : Bool) (rs : List Regex) (text : List Char) :
    (Regex.sequence (rs ++ ((if stop then [.look .endText] else []) ++ []))).Covers text ↔
      (Regex.sequence rs).Covers text := by
  unfold Regex.Covers
  rw [Regex.spans_sequence_append, List.append_nil]
  cases stop with
  | true =>
    refine ⟨?_, fun h => ⟨_, h, rfl, by simp [Look.HoldsAt, Look.holds]⟩⟩
    rintro ⟨k, h, hk, -⟩
    exact hk ▸ h
  | false =>
    refine ⟨?_, fun h => ⟨_, h, rfl⟩⟩
    rintro ⟨k, h, hk⟩
    exact hk ▸ h

/-- **The expression of a chain covers the texts that the chain describes**, whatever anchors stand
around it. -/
theorem covers_chainRegex {start stop : Bool} {verbs : List Verb} {text : List Char} :
    (chainRegex false start stop [] (segments verbs)).Covers text ↔ text ∈ chainLanguage verbs := by
  obtain ⟨s, ss, hs⟩ := exists_segments verbs
  have hne : (segments verbs).map (fun s => s.filterMap (Verb.regex? false)) ≠ [] := by simp [hs]
  have hgroup (k : Nat) (b : List Regex) :
      (Regex.sequence [.group k (.sequence b)]).Covers text ↔ (Regex.sequence b).Covers text :=
    Iff.rfl
  rw [chainRegex, Regex.covers_choice (by simpa using chainBranches_ne_nil hne), mem_chainLanguage]
  simp only [List.mem_map, exists_exists_and_eq_and]
  rw [exists_chainBranches (P := fun b => (Regex.sequence b).Covers text)
    (covers_anchored_start start · text) (covers_anchored_stop stop · text) hgroup]
  simp only [List.mem_map, exists_exists_and_eq_and, (reads_segment _).covers_iff]

/-! ## Size -/

namespace Regular.Regex

theorem size_sequence_le {x : Regex} (hx : 32 ≤ x.size) (rs : List Regex) :
    (sequence rs).size ≤ (sequence (rs ++ [x])).size := by
  match rs with
  | [] => exact hx
  | [r] => exact Nat.le_add_right _ _
  | r :: r' :: rs => exact Nat.add_le_add_left (size_sequence_le hx (r' :: rs)) _

/-- A sequence has room for its parts. -/
theorem sum_size_le_sequence (rs : List Regex) : (rs.map size).sum ≤ (sequence rs).size := by
  match rs with
  | [] => exact Nat.zero_le _
  | [r] => simp [sequence]
  | r :: r' :: rs => exact Nat.add_le_add_left (sum_size_le_sequence (r' :: rs)) r.size

/-- A choice has room for its parts, and for the choices between them. -/
theorem sum_size_le_choice (rs : List Regex) :
    (rs.map size).sum + 48 * rs.length ≤ (choice rs).size + 48 := by
  match rs with
  | [] => exact Nat.le_add_left _ _
  | [r] => simp [choice]
  | r :: r' :: rs =>
    have ih := sum_size_le_choice (r' :: rs)
    have hchoice : (choice (r :: r' :: rs)).size = r.size + (choice (r' :: rs)).size + 48 := rfl
    simp only [List.map_cons, List.sum_cons, List.length_cons] at ih ⊢
    omega

theorem size_choice_le {rs rs' : List Regex} (h : List.Forall₂ (·.size ≤ ·.size) rs rs') :
    (choice rs).size ≤ (choice rs').size := by
  induction h with
  | nil => exact Nat.le_refl _
  | @cons a b as bs hab hrest ih =>
    cases hrest with
    | nil => exact hab
    | cons h hrest =>
      exact Nat.add_le_add_right (Nat.add_le_add hab ih) _

end Regular.Regex

/-- What stands behind a chain only adds to its size. -/
theorem size_chainRegex_le {anyCase start stop : Bool} {x : Regex} (hx : 32 ≤ x.size)
    (ss : List (List Verb)) :
    (chainRegex anyCase start stop [] ss).size ≤ (chainRegex anyCase start stop [x] ss).size := by
  refine Regex.size_choice_le ?_
  rw [List.forall₂_map_left_iff, List.forall₂_map_right_iff]
  have hback (post : List Regex) (bs : List (List Regex)) :
      List.Forall₂ (fun b c => c = b ∨ c = b ++ [x])
        (atBack (post ++ []) bs) (atBack (post ++ [x]) bs) := by
    induction bs with
    | nil => exact .nil
    | cons b bs ih =>
      cases bs with
      | nil => exact .cons (Or.inr (by simp)) .nil
      | cons c bs => exact .cons (Or.inl rfl) ih
  have hfront {bs cs : List (List Regex)} (pre : List Regex)
      (h : List.Forall₂ (fun b c => c = b ∨ c = b ++ [x]) bs cs) :
      List.Forall₂ (fun b c => c = b ∨ c = b ++ [x]) (atFront pre bs) (atFront pre cs) := by
    cases h with
    | nil => exact .nil
    | cons h hrest => exact .cons (by rcases h with rfl | rfl <;> simp) hrest
  refine (hfront _ (hback _ _)).imp fun b c h => ?_
  rcases h with rfl | rfl
  · exact Nat.le_refl _
  · exact Regex.size_sequence_le hx b

end Verbal
