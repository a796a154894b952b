import Verbal.Proofs.Language
import Verbal.Proofs.Regular.Covering
import Verbal.Proofs.Regular.Pieces

/-!
# What pieces of verbs stand for

`Ast.Denotes` says what an item stands for under the flags that a pattern begins with, and bounds
its depth. Sequences and alternatives stand for sequences and choices, one level deeper.

* **`denotes_ast`**: the item of a piece stands for the expression of its verb.
* `Ast.denotes_ofItems`, `Ast.denotes_ofBranches`: sequences and alternatives of any length.
-/

namespace Verbal.Regular

open Verbal.Unicode

/-- Whether an item stands for an expression under the initial flags, and how deep it is at most. -/
structure Ast.Denotes (anyCase : Bool) (n : Nat) (a : Ast) (r : Regex) : Prop where
  regex : a.regex (.initial anyCase) = .ok (r, .initial anyCase)
  depth : a.depth .none ≤ n

namespace Ast

variable {anyCase : Bool} {n : Nat} {a b : Ast} {r r' : Regex} {as : List Ast} {rs : List Regex}

theorem Denotes.mono (h : a.Denotes anyCase n r) {m : Nat} (hnm : n ≤ m) : a.Denotes anyCase m r :=
  ⟨h.regex, Nat.le_trans h.depth hnm⟩

theorem Denotes.group (h : a.Denotes anyCase n r) :
    (Ast.group (.plain []) a).Denotes anyCase (n + 1) r where
  regex := by
    simp only [Ast.regex, Flags.apply, List.foldl_nil, h.regex, bind, Except.bind, pure,
      Except.pure]
  depth := by
    have := h.depth
    simp only [Ast.depth]
    omega

theorem Denotes.capture (h : a.Denotes anyCase n r) (k : Nat) :
    (Ast.group (.capture k) a).Denotes anyCase (n + 1) (.group k r) where
  regex := by simp only [Ast.regex, h.regex, bind, Except.bind, pure, Except.pure]
  depth := by
    have := h.depth
    simp only [Ast.depth]
    omega

theorem Denotes.alternate (ha : a.Denotes anyCase n r) (hb : b.Denotes anyCase n r') :
    (Ast.alternate a b).Denotes anyCase (n + 1) (.alternate r r') where
  regex := regex_alternate_eq_ok.mpr ⟨_, _, _, ha.regex, hb.regex, rfl⟩
  depth := by
    have := ha.depth
    have := Nat.le_trans (b.depth_le_depth_none .alternate) hb.depth
    simp only [Ast.depth]
    split <;> omega

/-- A repetition of what reads characters stands for a repetition, unless the count is exact. -/
theorem Denotes.repetition (h : a.Denotes anyCase n r) (hr : r.onlyEmpty = false)
    {count : Repetition} (hcount : count.most ≠ some count.least) :
    (Ast.repetition count false a).Denotes anyCase (n + 1) (.repetition count true r) where
  regex := by
    have hzero : count ≠ ⟨0, some 0⟩ := fun hzero => hcount (by rw [hzero])
    have hone : count ≠ ⟨1, some 1⟩ := fun hone => hcount (by rw [hone])
    have hrepeated : Regex.repeated count true r = .repetition count true r := by
      simp [Regex.repeated, hr, hzero, hone]
    simp only [Ast.regex, h.regex, bind, Except.bind, pure, Except.pure]
    rw [← hrepeated]
    rfl
  depth := by
    have := h.depth
    simp only [Ast.depth]
    omega

theorem depth_ofItems_concat (h : ∀ a ∈ as, a.depth .none ≤ n) :
    (ofItems as).depth .concat ≤ n := by
  induction as with
  | nil => exact Nat.zero_le n
  | cons a as ih =>
    obtain ⟨ha, h⟩ := List.forall_mem_cons.mp h
    cases as with
    | nil => exact Nat.le_trans (a.depth_le_depth_none .concat) ha
    | cons b as =>
      have := ih h
      simp only [ofItems, depth, if_true]
      omega

theorem depth_ofBranches_alternate (h : ∀ a ∈ as, a.depth .none ≤ n) :
    (ofBranches as).depth .alternate ≤ n := by
  induction as with
  | nil => exact Nat.zero_le n
  | cons a as ih =>
    obtain ⟨ha, h⟩ := List.forall_mem_cons.mp h
    cases as with
    | nil => exact Nat.le_trans (a.depth_le_depth_none .alternate) ha
    | cons b as =>
      have := ih h
      simp only [ofBranches, depth, if_true]
      omega

theorem depth_le_of_forall₂ (h : List.Forall₂ (Denotes anyCase n) as rs) :
    ∀ a ∈ as, a.depth .none ≤ n := by
  induction h with
  | nil => nofun
  | cons h _ ih => exact List.forall_mem_cons.mpr ⟨h.depth, ih⟩

theorem denotes_ofItems (h : List.Forall₂ (Denotes anyCase n) as rs) :
    (ofItems as).Denotes anyCase (n + 1) (.sequence rs) := by
  induction h with
  | nil => exact ⟨rfl, Nat.zero_le _⟩
  | @cons a r as rs ha hrest ih =>
    cases hrest with
    | nil => exact ha.mono (Nat.le_succ n)
    | @cons b r' as rs hb hrest =>
      refine ⟨regex_concat_eq_ok.mpr ⟨_, _, _, ha.regex, ih.regex, rfl⟩, ?_⟩
      have := ha.depth
      have := depth_ofItems_concat (depth_le_of_forall₂ (.cons hb hrest))
      simp only [ofItems, depth]
      split <;> omega

theorem denotes_ofBranches (h : List.Forall₂ (Denotes anyCase n) as rs) :
    (ofBranches as).Denotes anyCase (n + 1) (.choice rs) := by
  induction h with
  | nil => exact ⟨rfl, Nat.zero_le _⟩
  | @cons a r as rs ha hrest ih =>
    cases hrest with
    | nil => exact ha.mono (Nat.le_succ n)
    | @cons b r' as rs hb hrest =>
      refine ⟨regex_alternate_eq_ok.mpr ⟨_, _, _, ha.regex, ih.regex, rfl⟩, ?_⟩
      have := ha.depth
      have := depth_ofBranches_alternate (depth_le_of_forall₂ (.cons hb hrest))
      simp only [ofBranches, depth]
      split <;> omega

/-! ### Pieces -/

/-- The items of a text stand for its characters, one for one. -/
theorem forall₂_denotes_chars (anyCase : Bool) (n : Nat) (text : List Char) :
    List.Forall₂ (Denotes anyCase n) (text.map ofChar)
      (text.map fun c => .ofText anyCase [c]) := by
  rw [List.forall₂_map_left_iff, List.forall₂_map_right_iff, List.forall₂_same]
  exact fun c _ => ⟨rfl, Nat.zero_le n⟩

theorem denotes_chars (anyCase : Bool) (text : List Char) :
    (ofItems (text.map ofChar)).Denotes anyCase 1 (.ofText anyCase text) :=
  denotes_ofItems (forall₂_denotes_chars anyCase 0 text)

theorem characters_ofItems {flags : Flags} {items : List ClassItem} {sets : List CharSet}
    (h : List.Forall₂ (fun item set => item.characters flags = .ok set) items sets) :
    (ClassItem.ofItems items).characters flags = .ok (.unions sets) := by
  induction h with
  | nil => rfl
  | @cons item set items sets h hrest ih =>
    cases hrest with
    | nil => exact h
    | cons h' hrest =>
      simp only [ClassItem.ofItems, ClassItem.characters, h, bind, Except.bind, pure,
        Except.pure] at ih ⊢
      rw [ih]
      rfl

theorem depth_class {items : List ClassItem} (h : ∀ item ∈ items, ∀ k, item.depth k = 0)
    (k : Bool) : (ClassItem.ofItems items).depth k ≤ if k then 0 else 1 := by
  induction items generalizing k with
  | nil => exact Nat.zero_le _
  | cons item items ih =>
    obtain ⟨hitem, h⟩ := List.forall_mem_cons.mp h
    cases items with
    | nil => rw [ClassItem.ofItems, hitem]; exact Nat.zero_le _
    | cons item' items =>
      have := ih h true
      simp only [if_true] at this
      simp only [ClassItem.ofItems, ClassItem.depth, hitem]
      split <;> simp_all

theorem denotes_class {negated : Bool} {items : List ClassItem} {sets : List CharSet}
    (h : List.Forall₂ (fun item set => item.characters (.initial anyCase) = .ok set) items sets)
    (hdepth : ∀ item ∈ items, ∀ k, item.depth k = 0) :
    (ofClass negated items).Denotes anyCase 2
      (.letter (if negated then .compl (classOf anyCase sets) else classOf anyCase sets)) where
  regex := by
    have hitems : (ClassItem.bracketed negated (.ofItems items)).characters (.initial anyCase) =
        .ok (if negated then .compl (classOf anyCase sets) else classOf anyCase sets) := by
      simp only [ClassItem.characters, characters_ofItems h, bind, Except.bind]
      cases negated <;> cases anyCase <;> rfl
    simp only [ofClass, Ast.regex, hitems, Except.map]
  depth := by
    have : (ClassItem.ofItems items).depth false ≤ 1 := depth_class hdepth false
    simp only [ofClass, Ast.depth, ClassItem.depth]
    omega

theorem denotes_chars_class (anyCase negated : Bool) (text : List Char) :
    (ofClass negated (text.map .ofChar)).Denotes anyCase 2
      (.letter (if negated then .compl (classOfText anyCase text)
        else classOfText anyCase text)) := by
  refine denotes_class ?_ ?_
  · rw [List.forall₂_map_left_iff, List.forall₂_map_right_iff, List.forall₂_same]
    exact fun c _ => rfl
  · intro item hitem k
    obtain ⟨c, -, rfl⟩ := List.mem_map.mp hitem
    rfl

theorem denotes_pairs_class (anyCase : Bool) (pairs : List (Char × Char)) :
    (ofClass false (pairs.map .ofPair)).Denotes anyCase 2
      (.letter (classOf anyCase (pairs.map fun p => .range p.1 p.2))) := by
  refine @denotes_class anyCase false _ (pairs.map fun p => .range p.1 p.2) ?_ ?_
  · rw [List.forall₂_map_left_iff, List.forall₂_map_right_iff, List.forall₂_same]
    exact fun p _ => rfl
  · intro item hitem k
    obtain ⟨p, -, rfl⟩ := List.mem_map.mp hitem
    rfl

theorem onlyEmpty_ofText {text : List Char} (h : text ≠ []) :
    (Regex.ofText anyCase text).onlyEmpty = false := by
  obtain ⟨c, text, rfl⟩ := List.exists_cons_of_ne_nil h
  cases text <;> rfl

end Ast

/-- **The item of a piece stands for the expression of its verb.** -/
theorem denotes_ast {v : Verb} (h : v.IsPiece) (anyCase : Bool) :
    List.Forall₂ (Ast.Denotes anyCase 4) v.ast?.toList (v.regex? anyCase).toList := by
  obtain ⟨hplain, halt⟩ := h
  have hone {a : Ast} {r : Regex} {n : Nat} (h : a.Denotes anyCase n r) (hn : n ≤ 4) :
      List.Forall₂ (Ast.Denotes anyCase 4) [a] [r] := .cons (h.mono hn) .nil
  have hdot : (Ast.primitive .dot).Denotes anyCase 0 (.letter (.compl (.single '\n'))) :=
    ⟨rfl, Nat.zero_le _⟩
  have hrounds {a : Ast} {set : CharSet} {least n : Nat} (h : a.Denotes anyCase n (.letter set)) :
      (Ast.plainGroup [.fromOn least a]).Denotes anyCase (n + 2)
        (.repetition ⟨least, none⟩ true (.letter set)) :=
    (h.repetition rfl (by simp)).group
  cases v with
  | add _ => cases hplain
  | multiple _ => cases hplain
  | alt _ => cases halt
  | andThen value => exact hone (Ast.denotes_chars _ _).group (by decide)
  | maybe value =>
    refine hone ((Ast.denotes_chars _ _).group.repetition
      (Ast.onlyEmpty_ofText (by simpa using hplain.1)) (by decide)) (by decide)
  | anything => exact hone (hrounds hdot) (by decide)
  | anythingBut value => exact hone (hrounds (Ast.denotes_chars_class _ true _)) (by decide)
  | something => exact hone (hrounds hdot) (by decide)
  | somethingBut value => exact hone (hrounds (Ast.denotes_chars_class _ true _)) (by decide)
  | linebreak =>
    exact hone ((Ast.denotes_chars anyCase ['\n']).group.alternate
      (Ast.denotes_chars anyCase ['\r', '\n']).group).group (by decide)
  | tab => exact hone (n := 0) ⟨rfl, Nat.zero_le _⟩ (by decide)
  | word =>
    have hword : (Ast.primitive (.perl .word false)).Denotes anyCase 0 (.letter .word) :=
      ⟨rfl, Nat.zero_le _⟩
    exact hone (hword.repetition rfl (by decide)) (by decide)
  | anyOf value => exact hone (Ast.denotes_chars_class _ false _) (by decide)
  | range pairs => exact hone (Ast.denotes_pairs_class _ _) (by decide)
  | _ => exact .nil

end Verbal.Regular
