import Verbal.Extended.Program
import Verbal.Proofs.Extended.Pieces
import Verbal.Proofs.Regular.Denotations

/-!
# What extended pieces of verbs stand for

`Tree.Cooks` says that a tree is easy and that the regular patterns made of it stand for an
expression, wherever the tree stands. It passes from items to sequences, alternatives, groups and
repetitions as `Ast.Denotes` does, with one level more for the group that a place may ask for.

* **`cooks_tree`**: the tree of a piece is made into what stands for the expression of its verb.
* `Tree.cooks_ofItems`, `Tree.cooks_ofBranches`: sequences and alternatives of any length.
-/

namespace Verbal.Extended

open Verbal.Unicode
open Verbal.Regular (Ast Chain ClassItem Regex Repetition)

/-- Whether a tree is easy and made into what stands for an expression, which is empty only if the
tree is. -/
structure Tree.Cooks (anyCase : Bool) (n : Nat) (t : Tree) (r : Regex) : Prop where
  easy : t.hard [] = false
  cook : ∀ binding chain, ∃ a, t.cook binding chain = .ok a ∧ a.Denotes anyCase n r
  empty : t = .empty ↔ r = .empty

namespace Tree

variable {anyCase : Bool} {n : Nat} {t : Tree} {r : Regex} {ts : List Tree} {rs : List Regex}

/-! ### What cooking does -/

section Equations

variable (binding : Nat) (chain : Chain)

theorem cook_fragment (text : List Char) (anyCase : Bool) :
    (fragment text anyCase).cook binding chain =
      match Regular.Source.read text with
      | .ok source => .ok (switched (caseSwitch anyCase) source.ast)
      | .error _ => .error .partInvalid := rfl

theorem cook_concat (a b : Tree) : (concat a b).cook binding chain =
    (a.cook 2 .none).bind fun a => (b.cook 2 .concat).bind fun b =>
      .ok (grouped (1 < binding && chain != .concat) (.concat a b)) := rfl

theorem cook_alternate (a b : Tree) : (alternate a b).cook binding chain =
    (a.cook 1 .none).bind fun a => (b.cook 1 .alternate).bind fun b =>
      .ok (grouped (0 < binding && chain != .alternate) (.alternate a b)) := rfl

theorem cook_group (k : Nat) (t : Tree) : (group k t).cook binding chain =
    (t.cook 0 .none).bind fun a => .ok (.group (.capture k) a) := rfl

theorem cook_repetition (least : Nat) (most : Option Nat) (greedy : Bool) (t : Tree) :
    (repetition least most greedy t).cook binding chain =
      (t.cook 3 .none).bind fun a => (countOf least most).bind fun count =>
        .ok (grouped (2 < binding) (.repetition count (!greedy) a)) := rfl

end Equations

/-! ### Items, groups and repetitions -/

theorem Cooks.mono (h : t.Cooks anyCase n r) {m : Nat} (hnm : n ≤ m) : t.Cooks anyCase m r where
  easy := h.easy
  cook binding chain :=
    let ⟨a, ha, hdenotes⟩ := h.cook binding chain
    ⟨a, ha, hdenotes.mono hnm⟩
  empty := h.empty

/-- A tree that is made into the same wherever it stands. -/
theorem cooks_of_cook (easy : t.hard [] = false) {a : Ast}
    (cook : ∀ binding chain, t.cook binding chain = .ok a) (denotes : a.Denotes anyCase n r)
    (ht : t ≠ .empty) (hr : r ≠ .empty) : t.Cooks anyCase n r :=
  ⟨easy, fun binding chain => ⟨a, cook binding chain, denotes⟩, iff_of_false ht hr⟩

theorem denotes_grouped {a : Ast} (needed : Bool) (h : a.Denotes anyCase n r) :
    (grouped needed a).Denotes anyCase (n + 1) r := by
  cases needed with
  | false => exact h.mono (Nat.le_succ n)
  | true => exact h.group

theorem Cooks.enclosed (h : t.Cooks anyCase n r) : t.enclosed.Cooks anyCase n r := by
  cases t with
  | concat a b =>
    exact ⟨h.easy, fun binding _ => h.cook binding .none, iff_of_false nofun (mt h.empty.mpr nofun)⟩
  | alternate a b =>
    exact ⟨h.easy, fun binding _ => h.cook binding .none, iff_of_false nofun (mt h.empty.mpr nofun)⟩
  | _ => exact h

theorem Cooks.group (h : t.Cooks anyCase n r) (k : Nat) :
    (Tree.group k t).Cooks anyCase (n + 1) (.group k r) := by
  obtain ⟨a, ha, hdenotes⟩ := h.cook 0 .none
  refine cooks_of_cook (a := .group (.capture k) a) ?_ (fun _ _ => ?_) (hdenotes.capture k)
    nofun nofun
  · exact Bool.or_eq_false_iff.mpr ⟨h.easy, rfl⟩
  · rw [cook_group, ha]
    rfl

/-- A repetition of what reads characters, unless the count is exact. -/
theorem Cooks.repetition (h : t.Cooks anyCase n r) (hr : r.onlyEmpty = false) (count : Repetition)
    (hcountOf : countOf count.least count.most = .ok count)
    (hcount : count.most ≠ some count.least) :
    (Tree.repetition count.least count.most true t).Cooks anyCase (n + 2)
      (.repetition count true r) := by
  obtain ⟨a, ha, hdenotes⟩ := h.cook 3 .none
  refine ⟨h.easy, fun binding chain => ⟨_, ?_,
    denotes_grouped (2 < binding) (hdenotes.repetition hr hcount)⟩, iff_of_false nofun nofun⟩
  rw [cook_repetition, ha, hcountOf]
  rfl

/-! ### Sequences and alternatives -/

theorem hard_ofItems (h : List.Forall₂ (Cooks anyCase n) ts rs) : (ofItems ts).hard [] = false := by
  induction h with
  | nil => rfl
  | cons ht hrest ih =>
    cases hrest with
    | nil => exact ht.easy
    | cons _ _ => exact Bool.or_eq_false_iff.mpr ⟨ht.easy, ih⟩

theorem hard_ofBranches (h : List.Forall₂ (Cooks anyCase n) ts rs) :
    (ofBranches ts).hard [] = false := by
  induction h with
  | nil => rfl
  | cons ht hrest ih =>
    cases hrest with
    | nil => exact ht.easy
    | cons _ _ => exact Bool.or_eq_false_iff.mpr ⟨ht.easy, ih⟩

/-- The rest of a sequence is made into the rest of a sequence. -/
theorem cook_ofItems (h : List.Forall₂ (Cooks anyCase n) ts rs) (binding : Nat) :
    ∃ as, (ofItems ts).cook binding .concat = .ok (.ofItems as) ∧
      List.Forall₂ (Ast.Denotes anyCase n) as rs := by
  induction h generalizing binding with
  | nil => exact ⟨[], rfl, .nil⟩
  | @cons t r ts rs ht hrest ih =>
    cases hrest with
    | nil =>
      obtain ⟨a, ha, hdenotes⟩ := ht.cook binding .concat
      exact ⟨[a], ha, .cons hdenotes .nil⟩
    | @cons t' r' ts rs ht' hrest =>
      obtain ⟨a, ha, hdenotes⟩ := ht.cook 2 .none
      obtain ⟨as, has, hall⟩ := ih 2
      cases hall with
      | @cons a' _ as _ ha' hall =>
        refine ⟨a :: a' :: as, ?_, .cons hdenotes (.cons ha' hall)⟩
        change (concat t (ofItems (t' :: ts))).cook binding .concat = _
        rw [cook_concat, ha, has]
        simp [Except.bind, grouped, Ast.ofItems]

theorem cook_ofBranches (h : List.Forall₂ (Cooks anyCase n) ts rs) (binding : Nat) :
    ∃ as, (ofBranches ts).cook binding .alternate = .ok (.ofBranches as) ∧
      List.Forall₂ (Ast.Denotes anyCase n) as rs := by
  induction h generalizing binding with
  | nil => exact ⟨[], rfl, .nil⟩
  | @cons t r ts rs ht hrest ih =>
    cases hrest with
    | nil =>
      obtain ⟨a, ha, hdenotes⟩ := ht.cook binding .alternate
      exact ⟨[a], ha, .cons hdenotes .nil⟩
    | @cons t' r' ts rs ht' hrest =>
      obtain ⟨a, ha, hdenotes⟩ := ht.cook 1 .none
      obtain ⟨as, has, hall⟩ := ih 1
      cases hall with
      | @cons a' _ as _ ha' hall =>
        refine ⟨a :: a' :: as, ?_, .cons hdenotes (.cons ha' hall)⟩
        change (alternate t (ofBranches (t' :: ts))).cook binding .alternate = _
        rw [cook_alternate, ha, has]
        simp [Except.bind, grouped, Ast.ofBranches]

theorem cooks_ofItems (h : List.Forall₂ (Cooks anyCase n) ts rs) :
    (ofItems ts).Cooks anyCase (n + 2) (.sequence rs) := by
  cases h with
  | nil => exact ⟨rfl, fun _ _ => ⟨.empty, rfl, rfl, Nat.zero_le _⟩, iff_of_true rfl rfl⟩
  | cons ht hrest =>
    cases hrest with
    | nil => exact ht.mono (Nat.le_add_right n 2)
    | cons ht' hrest =>
      have hall := List.Forall₂.cons ht' hrest
      obtain ⟨a, ha, hdenotes⟩ := ht.cook 2 .none
      obtain ⟨as, has, has'⟩ := cook_ofItems hall 2
      refine ⟨hard_ofItems (.cons ht hall), fun binding chain => ?_, iff_of_false nofun nofun⟩
      cases has' with
      | cons ha' has' =>
        refine ⟨_, ?_, denotes_grouped (1 < binding && chain != .concat)
          (Ast.denotes_ofItems (.cons hdenotes (.cons ha' has')))⟩
        change (concat _ (ofItems _)).cook binding chain = _
        rw [cook_concat, ha, has]
        rfl

theorem cooks_ofBranches (h : List.Forall₂ (Cooks anyCase n) ts rs) :
    (ofBranches ts).Cooks anyCase (n + 2) (.choice rs) := by
  cases h with
  | nil => exact ⟨rfl, fun _ _ => ⟨.empty, rfl, rfl, Nat.zero_le _⟩, iff_of_true rfl rfl⟩
  | cons ht hrest =>
    cases hrest with
    | nil => exact ht.mono (Nat.le_add_right n 2)
    | cons ht' hrest =>
      have hall := List.Forall₂.cons ht' hrest
      obtain ⟨a, ha, hdenotes⟩ := ht.cook 1 .none
      obtain ⟨as, has, has'⟩ := cook_ofBranches hall 1
      refine ⟨hard_ofBranches (.cons ht hall), fun binding chain => ?_, iff_of_false nofun nofun⟩
      cases has' with
      | cons ha' has' =>
        refine ⟨_, ?_, denotes_grouped (0 < binding && chain != .alternate)
          (Ast.denotes_ofBranches (.cons hdenotes (.cons ha' has')))⟩
        change (alternate _ (ofBranches _)).cook binding chain = _
        rw [cook_alternate, ha, has]
        rfl

/-! ### Pieces -/

theorem cooks_literal (anyCase : Bool) (c : Char) :
    (Tree.literal c false).Cooks anyCase 0 (.ofText anyCase [c]) :=
  cooks_of_cook (a := .ofChar c) rfl (fun _ _ => rfl) ⟨rfl, Nat.zero_le _⟩ nofun nofun

/-- The literals of a text are made into its characters, one for one. -/
theorem forall₂_cooks_literals (anyCase : Bool) (n : Nat) (text : List Char) :
    List.Forall₂ (Tree.Cooks anyCase n) (text.map (.literal · false))
      (text.map fun c => .ofText anyCase [c]) := by
  rw [List.forall₂_map_left_iff, List.forall₂_map_right_iff, List.forall₂_same]
  exact fun c _ => (cooks_literal anyCase c).mono (Nat.zero_le n)

theorem cooks_ofText (anyCase : Bool) (text : List Char) :
    (Tree.ofText text).Cooks anyCase 2 (.ofText anyCase text) :=
  cooks_ofItems (forall₂_cooks_literals anyCase 0 text)

theorem cooks_any (anyCase : Bool) :
    (Tree.any false).Cooks anyCase 0 (.letter (.compl (.single '\n'))) :=
  cooks_of_cook (a := .primitive .dot) rfl (fun _ _ => rfl) ⟨rfl, Nat.zero_le _⟩ nofun nofun

/-- A fragment that a regular pattern reads as one token. -/
theorem cooks_fragment {text : List Char} {a : Ast} {set : CharSet}
    (hread : Regular.readAll .start text = .ok (Regular.Draft.start.push a))
    (hdenotes : a.Denotes anyCase n (.letter set)) (hn : n ≤ Regular.nestingLimit) :
    (Tree.fragment text false).Cooks anyCase n (.letter set) := by
  have hwritten := Regular.written_eq_ok.mpr ⟨_, hread, rfl, rfl⟩
  have hsource := Regular.read_eq_ok.mpr ⟨hwritten, Nat.le_trans hdenotes.depth hn⟩
  refine cooks_of_cook (a := a) rfl (fun _ _ => ?_) hdenotes nofun nofun
  rw [cook_fragment, hsource]
  rfl

theorem cooks_class {negated : Bool} {text : List Char} {items : List ClassItem} {set : CharSet}
    (hread : (Regular.readClass false (negation negated ++ (text ++ [']']))).text =
      .ok (.bracketed negated (.ofItems items), []))
    (hdenotes : (Ast.ofClass negated items).Denotes anyCase 2 (.letter set)) :
    (Tree.ofClass negated text).Cooks anyCase 2 (.letter set) :=
  cooks_fragment ((Regular.readAll_class rfl hread).trans (Regular.readAll_of_blank rfl)) hdenotes
    (by decide)

end Tree

/-- **The tree of a piece is made into what stands for the expression of its verb.** -/
theorem cooks_tree {v : Verb} (h : v.IsPiece) (anyCase : Bool) :
    List.Forall₂ (Tree.Cooks anyCase 4) v.tree?.toList (v.regex? anyCase).toList := by
  obtain ⟨hplain, halt⟩ := h
  have hone {t : Tree} {r : Regex} {n : Nat} (h : t.Cooks anyCase n r) (hn : n ≤ 4) :
      List.Forall₂ (Tree.Cooks anyCase 4) [t] [r] := .cons (h.mono hn) .nil
  have hrounds {t : Tree} {set : CharSet} {n : Nat} (h : t.Cooks anyCase n (.letter set)) :
      (Tree.repetition 0 none true t).Cooks anyCase (n + 2)
          (.repetition ⟨0, none⟩ true (.letter set)) ∧
        (Tree.repetition 1 none true t).Cooks anyCase (n + 2)
          (.repetition ⟨1, none⟩ true (.letter set)) :=
    ⟨h.repetition rfl ⟨0, none⟩ rfl (by simp), h.repetition rfl ⟨1, none⟩ rfl (by simp)⟩
  have hchars {value : String} (hvalue : IsPlainText value) :
      (Tree.ofClass false value.toList).Cooks anyCase 2
          (.letter (classOfText anyCase value.toList)) ∧
        (Tree.ofClass true value.toList).Cooks anyCase 2
          (.letter (.compl (classOfText anyCase value.toList))) := by
    have hne : value.toList ≠ [] := by simpa using hvalue.1
    exact ⟨Tree.cooks_class (Regular.readClass_chars hne hvalue.2 [])
        (Ast.denotes_chars_class anyCase false _),
      Tree.cooks_class (Regular.readClass_negated hne hvalue.2 [])
        (Ast.denotes_chars_class anyCase true _)⟩
  cases v with
  | add _ => cases hplain
  | multiple _ => cases hplain
  | alt _ => cases halt
  | andThen value => exact hone (Tree.cooks_ofText _ _).enclosed (by decide)
  | maybe value =>
    exact hone ((Tree.cooks_ofText _ _).enclosed.repetition
      (Ast.onlyEmpty_ofText (by simpa using hplain.1)) ⟨0, some 1⟩ rfl (by decide)) (by decide)
  | anything => exact hone (hrounds (Tree.cooks_any anyCase)).1 (by decide)
  | anythingBut value => exact hone (hrounds (hchars hplain).2).1 (by decide)
  | something => exact hone (hrounds (Tree.cooks_any anyCase)).2 (by decide)
  | somethingBut value => exact hone (hrounds (hchars hplain).2).2 (by decide)
  | linebreak =>
    exact hone (Tree.cooks_ofBranches (.cons ((Tree.cooks_literal anyCase '\n').mono (by decide))
      (.cons (Tree.cooks_ofText anyCase ['\r', '\n']).enclosed .nil))).enclosed (by decide)
  | tab => exact hone (Tree.cooks_literal anyCase '\t') (by decide)
  | word =>
    have hword : (Ast.primitive (.perl .word false)).Denotes anyCase 0 (.letter .word) :=
      ⟨rfl, Nat.zero_le _⟩
    have hread : Regular.readAll .start "\\w".toList =
        .ok (Regular.Draft.start.push (.primitive (.perl .word false))) :=
      (Regular.readAll_token rfl (.primitive (.perl .word false)) rfl rfl).trans
        (Regular.readAll_of_blank rfl)
    exact hone (hrounds (Tree.cooks_fragment hread hword (by decide))).2 (by decide)
  | anyOf value => exact hone (hchars hplain).1 (by decide)
  | range pairs =>
    exact hone (Tree.cooks_class (Regular.readClass_pairs hplain.legible hplain.lower_ne [])
      (Ast.denotes_pairs_class anyCase pairs)) (by decide)
  | _ => exact .nil

end Verbal.Extended
