import Verbal.Proofs.CaseFolding
import Verbal.Proofs.Language
import Verbal.Proofs.Regular.Covering

/-!
# Patterns that ignore case

Under the flag for it, every part of a pattern that reads a character reads all of its variants: a
letter does, what stands in brackets is closed before it is negated, and the classes that are read
without folding are closed as they are. Assertions see words and line ends only. Nothing but a
switch can take the flag away, and a pattern without one has groups of two kinds.

* `SameButForCase`: texts that agree character by character but for case.
* **`Ast.IsSwitchless.regex`**: without switches, what a pattern stands for cannot tell such texts
  apart.
* **`OpensPlainly.readAll`**: where no group is opened with switches, none are read.
* **`Program.isMatch_congr`**: both together, for what a pattern is compiled to.
-/

namespace Verbal

open Verbal.Unicode

/-- Whether two texts are the same but for case, character by character. -/
def SameButForCase (x y : List Char) : Prop :=
  List.Forall₂ (fun c d => sameFold c d = true) x y

namespace SameButForCase

variable {x y : List Char}

theorem symm (h : SameButForCase x y) : SameButForCase y x :=
  List.Forall₂.flip (h.imp fun _ _ => sameFold_symm)

theorem length_eq (h : SameButForCase x y) : x.length = y.length := List.Forall₂.length_eq h

/-- At each place there are two characters that are the same but for case, or none at all. -/
theorem getElem? (h : SameButForCase x y) (i : Nat) :
    Option.Rel (fun c d => sameFold c d = true) x[i]? y[i]? := by
  induction h generalizing i with
  | nil => exact .none
  | cons hcd _ ih =>
    cases i with
    | zero => exact .some hcd
    | succ i => exact ih i

end SameButForCase

/-! ## Sets -/

namespace Unicode.CharSet

variable {set : CharSet}

/-- Whether a set has with each character all of its variants. -/
def IgnoresCase (set : CharSet) : Prop :=
  ∀ c d, sameFold c d = true → set.contains c = set.contains d

theorem ignoresCase_variants (c : Char) : (ofChars (caseVariants c)).IgnoresCase := by
  intro d e hde
  rw [Bool.eq_iff_iff, Regular.Regex.contains_ofChars, Regular.Regex.contains_ofChars,
    mem_caseVariants_iff, mem_caseVariants_iff, sameFold_iff, sameFold_iff, sameFold_iff.mp hde]

theorem ignoresCase_anyCase (set : CharSet) : (anyCase set).IgnoresCase := by
  intro c d h
  rw [contains, contains, caseVariants_congr h]

theorem IgnoresCase.compl (h : set.IgnoresCase) : (compl set).IgnoresCase :=
  fun c d hcd => congrArg (!·) (h c d hcd)

theorem ignoresCase_none : none.IgnoresCase := fun _ _ _ => rfl

theorem ignoresCase_table {t : RangeTree} (h : t.IsFolded) : (table t).IgnoresCase :=
  fun _ _ => h.contains_eq

/-- What stands in front of the letters has no case. -/
theorem ignoresCase_ofChars {cs : List Char} (h : ∀ c ∈ cs, c.toNat < 'A'.toNat) :
    (ofChars cs).IgnoresCase := by
  intro c d hcd
  rw [Bool.eq_iff_iff, Regular.Regex.contains_ofChars, Regular.Regex.contains_ofChars]
  constructor
  · intro hc
    rwa [(eq_iff_of_sameFold (h c hc) hcd).mp rfl]
  · intro hd
    rwa [(eq_iff_of_sameFold (h d hd) hcd).mpr rfl]

end Unicode.CharSet

namespace Regular

variable {flags flags' : Flags} {chars chars' : CharSet}

theorem PerlClass.ignoresCase_characters (kind : PerlClass) :
    (kind.characters true).IgnoresCase := by
  cases kind with
  | digit => exact CharSet.ignoresCase_table isFolded_decimalTree
  | space => exact CharSet.ignoresCase_table isFolded_spaceTree
  | word => exact CharSet.ignoresCase_table isFolded_wordTree

namespace Flags

/-- Whether case is ignored in the way of Unicode. -/
structure Folds (flags : Flags) : Prop where
  anyCase : flags.anyCase = true
  unicode : flags.unicode = true

theorem folds_initial : (initial true).Folds := ⟨rfl, rfl⟩

theorem Folds.ignoresCase_fold (h : flags.Folds) (chars : CharSet) :
    (flags.fold chars).IgnoresCase := by
  rw [fold, if_pos h.anyCase, if_pos h.unicode]
  exact CharSet.ignoresCase_anyCase chars

theorem ignoresCase_negate {negated : Bool} (hset : chars.IgnoresCase)
    (h : flags.negate negated chars = .ok chars') : chars'.IgnoresCase := by
  unfold negate at h
  split at h
  · cases h
    exact hset
  · split at h
    · cases h
      exact hset.compl
    · cases h

theorem Folds.ignoresCase_letter (h : flags.Folds) {l : Letter}
    (hl : flags.letter l = .ok chars) : chars.IgnoresCase := by
  rw [letter, if_pos h.unicode, if_pos h.anyCase] at hl
  cases hl
  exact CharSet.ignoresCase_variants l.char

theorem ignoresCase_dot (h : flags.dot = .ok chars) : chars.IgnoresCase := by
  have hnewline : ∀ c ∈ ['\n'], c.toNat < 'A'.toNat := List.forall_mem_singleton.mpr (by decide)
  have hends : ∀ c ∈ ['\n', '\r'], c.toNat < 'A'.toNat :=
    List.forall_mem_cons.mpr ⟨by decide, List.forall_mem_singleton.mpr (by decide)⟩
  unfold dot at h
  split at h
  · cases h
  · split at h
    · cases h
      exact CharSet.ignoresCase_none.compl
    · split at h
      · cases h
        exact (CharSet.ignoresCase_ofChars hends).compl
      · cases h
        exact (CharSet.ignoresCase_ofChars hnewline).compl

theorem Folds.ignoresCase_property (h : flags.Folds) {query : PropertyQuery} {negated : Bool}
    (hset : flags.property query negated = .ok chars) : chars.IgnoresCase := by
  unfold property at hset
  split at hset
  · cases hset
  · split at hset
    · cases hset
    · cases hset
    · exact ignoresCase_negate (h.ignoresCase_fold _) hset

/-- A class in brackets is closed before it is negated, whatever stands in it. -/
theorem Folds.ignoresCase_bracketed (h : flags.Folds) {negated : Bool} {item : ClassItem}
    (hset : (ClassItem.bracketed negated item).characters flags = .ok chars) :
    chars.IgnoresCase := by
  obtain ⟨inner, -, hset⟩ := bind_eq_ok.mp hset
  exact ignoresCase_negate (h.ignoresCase_fold inner) hset

/-! ## Assertions -/

/-- Assertions see whether there are characters, line ends among them, and words. -/
theorem Folds.holds_look (h : flags.Folds) (a : Assertion)
    {before before' after after' : Option Char}
    (hbefore : Option.Rel (fun c d => sameFold c d = true) before before')
    (hafter : Option.Rel (fun c d => sameFold c d = true) after after') :
    (flags.look a).holds before after = (flags.look a).holds before' after' := by
  have hnone {o o' : Option Char} (ho : Option.Rel (fun c d => sameFold c d = true) o o') :
      o.isNone = o'.isNone := by
    cases ho <;> rfl
  have hline {o o' : Option Char} (ho : Option.Rel (fun c d => sameFold c d = true) o o')
      {c : Char} (hc : c.toNat < 'A'.toNat) : (o == some c) = (o' == some c) := by
    cases ho with
    | none => rfl
    | some hde =>
      rw [Bool.eq_iff_iff, beq_iff_eq, beq_iff_eq, Option.some_inj, Option.some_inj]
      exact eq_iff_of_sameFold hc hde
  have hword {o o' : Option Char} (ho : Option.Rel (fun c d => sameFold c d = true) o o') :
      wordSide true o = wordSide true o' := by
    cases ho with
    | none => rfl
    | some hde =>
      simp only [wordSide, if_true, Option.any_some, isWord]
      exact isFolded_wordTree.contains_eq hde
  have hnewline : '\n'.toNat < 'A'.toNat := by decide
  have hreturn : '\r'.toNat < 'A'.toNat := by decide
  obtain ⟨_, multiLine, _, _, unicode, crlf⟩ := flags
  obtain rfl : unicode = true := h.unicode
  cases a <;> cases multiLine <;> cases crlf <;>
    simp [look, Look.holds, bne, hnone hbefore, hnone hafter, hline hbefore hnewline,
      hline hafter hnewline, hline hbefore hreturn, hline hafter hreturn, hword hbefore,
      hword hafter]

end Flags

/-! ## Expressions -/

namespace Regex

variable {a b : Regex}

/-- Whether an expression cannot tell texts apart that are the same but for case. -/
def IgnoresCase (r : Regex) : Prop :=
  ∀ x y, SameButForCase x y → ∀ i j, r.Spans x i j → r.Spans y i j

theorem ignoresCase_empty : empty.IgnoresCase := fun _ _ _ _ _ hs => hs

theorem ignoresCase_letter (h : chars.IgnoresCase) : (letter chars).IgnoresCase := by
  rintro x y hxy i j ⟨rfl, c, hc, hset⟩
  have hrel := hxy.getElem? i
  rw [hc] at hrel
  generalize hget : y[i]? = o at hrel
  cases hrel with
  | some hcd => exact ⟨rfl, _, hget, (h _ _ hcd).symm.trans hset⟩

theorem ignoresCase_look (h : flags.Folds) (a : Assertion) :
    (look (flags.look a)).IgnoresCase := by
  rintro x y hxy i j ⟨rfl, hholds⟩
  refine ⟨rfl, (h.holds_look a ?_ (hxy.getElem? i)).symm.trans hholds⟩
  unfold charBefore?
  split
  · exact .none
  · exact hxy.getElem? (i - 1)

theorem IgnoresCase.concat (ha : a.IgnoresCase) (hb : b.IgnoresCase) :
    (concat a b).IgnoresCase := by
  rintro x y hxy i j ⟨k, hik, hkj⟩
  exact ⟨k, ha x y hxy i k hik, hb x y hxy k j hkj⟩

theorem IgnoresCase.alternate (ha : a.IgnoresCase) (hb : b.IgnoresCase) :
    (alternate a b).IgnoresCase :=
  fun x y hxy i j hs => hs.imp (ha x y hxy i j) (hb x y hxy i j)

theorem IgnoresCase.group (h : a.IgnoresCase) (index : Nat) : (group index a).IgnoresCase := h

theorem IgnoresCase.rounds (h : a.IgnoresCase) {x y : List Char} (hxy : SameButForCase x y)
    {n i j : Nat} (hrounds : Rounds (a.Spans x) n i j) : Rounds (a.Spans y) n i j := by
  induction n generalizing i with
  | zero => exact hrounds
  | succ n ih =>
    obtain ⟨k, hik, hkj⟩ := hrounds
    exact ⟨k, h x y hxy i k hik, ih hkj⟩

theorem IgnoresCase.repeated (h : a.IgnoresCase) (count : Repetition) (greedy : Bool) :
    (repeated count greedy a).IgnoresCase := by
  have hrepetition (count : Repetition) : (repetition count greedy a).IgnoresCase := by
    rintro x y hxy i j ⟨n, hn, hrounds⟩
    exact ⟨n, hn, h.rounds hxy hrounds⟩
  unfold Regex.repeated
  dsimp only
  generalize (if a.onlyEmpty = true then _ else count) = count'
  split
  · exact ignoresCase_empty
  · split
    · exact h
    · exact hrepetition _

end Regex

/-! ## Patterns without switches -/

theorem Primitive.ignoresCase_regex (h : flags.Folds) {p : Primitive} {r : Regex}
    (hr : p.regex flags = .ok r) : r.IgnoresCase := by
  cases p with
  | letter l =>
    obtain ⟨set, hset, rfl⟩ := map_eq_ok.mp hr
    exact Regex.ignoresCase_letter (h.ignoresCase_letter hset)
  | dot =>
    obtain ⟨set, hset, rfl⟩ := map_eq_ok.mp hr
    exact Regex.ignoresCase_letter (Flags.ignoresCase_dot hset)
  | assertion a =>
    cases hr
    exact Regex.ignoresCase_look h a
  | perl kind negated =>
    obtain ⟨set, hset, rfl⟩ := map_eq_ok.mp hr
    rw [h.unicode] at hset
    exact Regex.ignoresCase_letter (Flags.ignoresCase_negate kind.ignoresCase_characters hset)
  | property query negated =>
    obtain ⟨set, hset, rfl⟩ := map_eq_ok.mp hr
    exact Regex.ignoresCase_letter (h.ignoresCase_property hset)

/-- Whether a class is one in brackets. -/
def ClassItem.IsBracketed (item : ClassItem) : Prop :=
  ∃ negated inner, item = .bracketed negated inner

/-- Whether a group switches nothing. -/
def GroupKind.IsSwitchless (kind : GroupKind) : Prop :=
  ∀ switches, kind = .plain switches → switches = []

namespace Ast

/-- Whether nothing is switched in a pattern. -/
def IsSwitchless : Ast → Prop
  | empty => True
  | .flags _ => False
  | primitive _ => True
  | set item => item.IsBracketed
  | repetition _ _ body => body.IsSwitchless
  | group kind body => kind.IsSwitchless ∧ body.IsSwitchless
  | concat first rest => first.IsSwitchless ∧ rest.IsSwitchless
  | alternate first rest => first.IsSwitchless ∧ rest.IsSwitchless

theorem isSwitchless_ofItems {items : List Ast} (h : ∀ a ∈ items, a.IsSwitchless) :
    (ofItems items).IsSwitchless := by
  match items with
  | [] => trivial
  | [a] => exact h a (List.mem_singleton_self a)
  | a :: b :: items =>
    obtain ⟨ha, hrest⟩ := List.forall_mem_cons.mp h
    exact ⟨ha, isSwitchless_ofItems hrest⟩

theorem isSwitchless_ofBranches {branches : List Ast} (h : ∀ a ∈ branches, a.IsSwitchless) :
    (ofBranches branches).IsSwitchless := by
  match branches with
  | [] => trivial
  | [a] => exact h a (List.mem_singleton_self a)
  | a :: b :: branches =>
    obtain ⟨ha, hrest⟩ := List.forall_mem_cons.mp h
    exact ⟨ha, isSwitchless_ofBranches hrest⟩

/-- **Without switches, case is ignored to the end**, and the flags stay as they are. -/
theorem IsSwitchless.regex {a : Ast} (ha : a.IsSwitchless) (h : flags.Folds) {r : Regex}
    (hr : a.regex flags = .ok (r, flags')) : flags' = flags ∧ r.IgnoresCase := by
  induction a generalizing r flags' with
  | empty =>
    cases hr
    exact ⟨rfl, Regex.ignoresCase_empty⟩
  | flags switches => exact ha.elim
  | primitive p =>
    obtain ⟨r', hp, heq⟩ := map_eq_ok.mp hr
    cases heq
    exact ⟨rfl, Primitive.ignoresCase_regex h hp⟩
  | set item =>
    obtain ⟨negated, inner, rfl⟩ := ha
    obtain ⟨set, hset, heq⟩ := map_eq_ok.mp hr
    cases heq
    exact ⟨rfl, Regex.ignoresCase_letter (h.ignoresCase_bracketed hset)⟩
  | repetition count reluctant body ih =>
    obtain ⟨⟨r', flags₁⟩, hbody, heq⟩ := bind_eq_ok.mp hr
    cases heq
    obtain ⟨rfl, hr'⟩ := ih ha hbody
    exact ⟨rfl, hr'.repeated count _⟩
  | group kind body ih =>
    obtain ⟨hkind, hbody⟩ := ha
    cases kind with
    | capture index =>
      obtain ⟨⟨r', flags₁⟩, hr', heq⟩ := bind_eq_ok.mp hr
      cases heq
      exact ⟨rfl, (ih hbody hr').2.group index⟩
    | plain switches =>
      obtain rfl := hkind switches rfl
      obtain ⟨⟨r', flags₁⟩, hr', heq⟩ := bind_eq_ok.mp hr
      cases heq
      exact ⟨rfl, (ih hbody hr').2⟩
  | concat a b iha ihb =>
    obtain ⟨ra, flags₁, rb, hra, hrb, rfl⟩ := regex_concat_eq_ok.mp hr
    obtain ⟨rfl, ha'⟩ := iha ha.1 hra
    obtain ⟨rfl, hb'⟩ := ihb ha.2 hrb
    exact ⟨rfl, ha'.concat hb'⟩
  | alternate a b iha ihb =>
    obtain ⟨ra, flags₁, rb, hra, hrb, rfl⟩ := regex_alternate_eq_ok.mp hr
    obtain ⟨rfl, ha'⟩ := iha ha.1 hra
    obtain ⟨rfl, hb'⟩ := ihb ha.2 hrb
    exact ⟨rfl, ha'.alternate hb'⟩

end Ast

/-! ## Reading without switches -/

/-- Whether no group of a text is opened with anything but a colon behind its question mark. -/
def OpensPlainly : List Char → Prop
  | [] => True
  | c :: s => (c = '(' → s.head? = some '?' → s.tail.head? = some ':') ∧ OpensPlainly s

/-- Whether a token switches nothing. -/
def Token.IsSwitchless : Token → Prop
  | set item => item.IsBracketed
  | .switches given opens => given = [] ∧ opens = true
  | _ => True

/-- Whether nothing is switched in what stands in front of an open group, nor in the group. -/
structure Level.IsSwitchless (level : Level) : Prop where
  verbose : level.verbose = false
  kind : level.kind.IsSwitchless
  branches : ∀ a ∈ level.branches, a.IsSwitchless
  items : ∀ a ∈ level.items, a.IsSwitchless

/-- Whether nothing is switched in what has been read. -/
structure Draft.IsSwitchless (d : Draft) : Prop where
  verbose : d.verbose = false
  levels : ∀ level ∈ d.levels, level.IsSwitchless
  branches : ∀ a ∈ d.branches, a.IsSwitchless
  items : ∀ a ∈ d.items, a.IsSwitchless

instance decidableOpensPlainly : (s : List Char) → Decidable (OpensPlainly s)
  | [] => isTrue trivial
  | _ :: s =>
    have := decidableOpensPlainly s
    inferInstanceAs (Decidable (_ ∧ _))

/-- The same of a text that stands behind an opening parenthesis, or anything else. -/
structure FollowsPlainly (s : List Char) : Prop where
  opens : OpensPlainly s
  head : s.head? ≠ some '?'

instance (s : List Char) : Decidable (FollowsPlainly s) :=
  decidable_of_iff (OpensPlainly s ∧ s.head? ≠ some '?')
    ⟨fun h => ⟨h.1, h.2⟩, fun h => ⟨h.opens, h.head⟩⟩

section Openings

variable {s u : List Char}

theorem OpensPlainly.of_append (h : OpensPlainly (u ++ s)) : OpensPlainly s := by
  induction u with
  | nil => exact h
  | cons c u ih => exact ih h.2

theorem OpensPlainly.append (hu : OpensPlainly u) (hs : FollowsPlainly s) :
    OpensPlainly (u ++ s) := by
  induction u with
  | nil => exact hs.opens
  | cons c u ih =>
    refine ⟨fun hc hmark => ?_, ih hu.2⟩
    match u with
    | [] => exact absurd hmark hs.head
    | [d] => exact absurd (hu.1 hc hmark) nofun
    | _ :: _ :: _ => exact hu.1 hc hmark

theorem FollowsPlainly.append (hu : FollowsPlainly u) (hs : FollowsPlainly s) :
    FollowsPlainly (u ++ s) where
  opens := hu.opens.append hs
  head := by
    cases u with
    | nil => exact hs.head
    | cons c u => exact hu.head

theorem followsPlainly_of_forall (h : ∀ c ∈ s, c ≠ '(' ∧ c ≠ '?') : FollowsPlainly s := by
  induction s with
  | nil => exact ⟨trivial, nofun⟩
  | cons c s ih =>
    obtain ⟨⟨hopen, hmark⟩, hs⟩ := List.forall_mem_cons.mp h
    exact ⟨⟨fun hc => absurd hc hopen, (ih hs).opens⟩, fun hc => hmark (Option.some.inj hc)⟩

end Openings

theorem isBracketed_of_readItems {v : Bool} {outer : List OpenClass} {cls : OpenClass}
    {s r : List Char} {item : ClassItem} (h : (readItems v outer cls s).text = .ok (item, r)) :
    item.IsBracketed := by
  induction hn : s.length using Nat.strongRecOn generalizing outer cls s with
  | ind n ih =>
    -- only the bracket that closes the outermost class ends the reading
    rcases step_of_readItems h with ⟨-, rfl, -⟩ | ⟨outer', cls', s', h, hlt, -⟩
    · exact ⟨_, _, rfl⟩
    · exact ih _ (hn ▸ hlt) h rfl

theorem isBracketed_of_readClass {v : Bool} {s r : List Char} {item : ClassItem}
    (h : (readClass v s).text = .ok (item, r)) : item.IsBracketed := by
  rw [readClass_text] at h
  obtain ⟨_, -, h⟩ := bind_eq_ok.mp h
  exact isBracketed_of_readItems h

theorem isSwitchless_of_readQuestion {s r : List Char} {token : Token}
    (hs : s.head? = some ':') (h : readQuestion s = .ok (token, r)) : token.IsSwitchless := by
  cases s with
  | nil => cases hs
  | cons c s =>
    obtain rfl : c = ':' := Option.some.inj hs
    cases h
    exact ⟨rfl, rfl⟩

/-- A token that opens a group plainly, or none, switches nothing. -/
theorem OpensPlainly.readToken {c : Char} {s r : List Char} {token : Token}
    (hs : OpensPlainly (c :: s)) (h : readToken false c s = .ok (token, r)) :
    token.IsSwitchless := by
  unfold Regular.readToken at h
  split at h
  · obtain ⟨x, -, heq⟩ := bind_eq_ok.mp h
    cases heq
    trivial
  · split at h
    · unfold readParenthesis at h
      split at h
      · rename_i r' hblanks
        obtain rfl : s = '?' :: r' := hblanks
        exact isSwitchless_of_readQuestion (hs.1 rfl rfl) h
      · cases h
        trivial
    · cases h
      trivial
    · cases h
      trivial
    · obtain ⟨⟨item, r'⟩, hclass, heq⟩ := bind_eq_ok.mp h
      cases heq
      exact isBracketed_of_readClass hclass
    · obtain ⟨x, -, heq⟩ := bind_eq_ok.mp h
      cases heq
      trivial
    · obtain ⟨x, -, heq⟩ := bind_eq_ok.mp h
      cases heq
      trivial
    all_goals
      cases h
      trivial

namespace Draft

variable {d d' : Draft}

theorem isSwitchless_start : start.IsSwitchless := ⟨rfl, nofun, nofun, nofun⟩

theorem IsSwitchless.items_reverse (h : d.IsSwitchless) :
    (Ast.ofItems d.items.reverse).IsSwitchless :=
  Ast.isSwitchless_ofItems fun a ha => h.items a (List.mem_reverse.mp ha)

theorem IsSwitchless.body (h : d.IsSwitchless) : d.body.IsSwitchless := by
  refine Ast.isSwitchless_ofBranches fun a ha => ?_
  rcases List.mem_cons.mp (List.mem_reverse.mp ha) with rfl | ha
  · exact h.items_reverse
  · exact h.branches a ha

theorem IsSwitchless.push (h : d.IsSwitchless) {a : Ast} (ha : a.IsSwitchless) :
    (d.push a).IsSwitchless :=
  { h with items := List.forall_mem_cons.mpr ⟨ha, h.items⟩ }

theorem IsSwitchless.openGroup (h : d.IsSwitchless) {kind : GroupKind}
    (hkind : kind.IsSwitchless) : (d.openGroup kind d.verbose).IsSwitchless where
  verbose := h.verbose
  levels := List.forall_mem_cons.mpr ⟨⟨h.verbose, hkind, h.branches, h.items⟩, h.levels⟩
  branches := nofun
  items := nofun

theorem IsSwitchless.openCapture (h : d.IsSwitchless) : d.openCapture.IsSwitchless :=
  have hkind : (GroupKind.capture (d.groups + 1)).IsSwitchless := nofun
  { h.openGroup hkind with }

/-- Taking such a token switches nothing. -/
theorem IsSwitchless.take (h : d.IsSwitchless) {token : Token} (htoken : token.IsSwitchless)
    (htake : d.take token = .ok d') : d'.IsSwitchless := by
  cases token with
  | primitive p =>
    cases htake
    exact h.push trivial
  | set item =>
    cases htake
    exact h.push htoken
  | repetition count reluctant =>
    obtain ⟨a, items, hitems, -, rfl⟩ := repeatLast_eq_ok.mp htake
    obtain ⟨ha, hrest⟩ := List.forall_mem_cons.mp (hitems ▸ h.items)
    exact { h with items := List.forall_mem_cons.mpr ⟨ha, hrest⟩ }
  | bar =>
    cases htake
    exact { h with
      branches := List.forall_mem_cons.mpr ⟨h.items_reverse, h.branches⟩
      items := nofun }
  | close =>
    obtain ⟨level, levels, hlevels, rfl⟩ := closeGroup_eq_ok.mp htake
    obtain ⟨hlevel, hrest⟩ := List.forall_mem_cons.mp (hlevels ▸ h.levels)
    exact ⟨hlevel.verbose, hrest, hlevel.branches,
      List.forall_mem_cons.mpr ⟨⟨hlevel.kind, h.body⟩, hlevel.items⟩⟩
  | capture =>
    cases htake
    exact h.openCapture
  | named name =>
    obtain ⟨-, -, rfl⟩ := openNamed_eq_ok.mp htake
    exact { h.openCapture with }
  | switches switches opens =>
    obtain ⟨rfl, rfl⟩ := htoken
    cases htake
    refine h.openGroup fun switches hswitches => ?_
    cases hswitches
    rfl

end Draft

/-- **Where no group is opened with switches, none are read.** -/
theorem OpensPlainly.readAll {d d' : Draft} {s : List Char} (hs : OpensPlainly s)
    (hd : d.IsSwitchless) (h : readAll d s = .ok d') : d'.IsSwitchless := by
  induction h using readAll_induction with
  | blank s => exact hd
  | token d d₁ s c r r' token hblanks hread htake _ ih =>
    rw [hd.verbose] at hblanks hread
    obtain rfl : s = c :: r := hblanks
    obtain ⟨p, u, k, rfl, hk, rfl, -⟩ := takes_readToken hread
    obtain rfl : k = false := Bool.eq_false_iff.mpr fun hk' => nomatch (hk hk').1
    exact ih hs.2.of_append (hd.take (hs.readToken hread) htake)

namespace Program

variable {pattern x y : List Char}

theorem ignoresCase_of_regexOf {r : Regex} {names : List (List Char × Nat)}
    (hs : OpensPlainly pattern) (h : regexOf true pattern = .ok (r, names)) : r.IgnoresCase := by
  obtain ⟨source, flags, hsource, hr, -⟩ := regexOf_eq_ok.mp h
  obtain ⟨d, hread, -, rfl⟩ := written_eq_ok.mp (read_eq_ok.mp hsource).1
  exact ((hs.readAll Draft.isSwitchless_start hread).body.regex Flags.folds_initial hr).2

/-- **A program that ignores case answers alike** for texts that are the same but for case. -/
theorem isMatch_congr {program : Program} (hs : OpensPlainly pattern)
    (h : compile true pattern = .ok program) (hxy : SameButForCase x y) :
    program.isMatch x = program.isMatch y := by
  obtain ⟨r, names, hr, -, rfl⟩ := compile_eq_ok.mp h
  have hcase := ignoresCase_of_regexOf hs hr
  rw [Bool.eq_iff_iff]
  refine (isMatch_iff r x).trans (Iff.trans ?_ (isMatch_iff r y).symm)
  constructor
  · rintro ⟨i, j, hi, hspans⟩
    exact ⟨i, j, hxy.length_eq ▸ hi, hcase x y hxy i j hspans⟩
  · rintro ⟨i, j, hi, hspans⟩
    exact ⟨i, j, hxy.length_eq ▸ hi, hcase y x hxy.symm i j hspans⟩

end Program

end Regular

end Verbal
