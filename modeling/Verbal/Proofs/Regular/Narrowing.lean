import Verbal.Proofs.Regular.Chains
import Verbal.Proofs.Regular.Renumbering

/-!
# Assertions around a pattern

An assertion in front of the first branch of a pattern, or behind the last one, takes matches away
and adds none. It stands in one branch only, so this is no matter of the pattern as a whole: the
item in front is kept apart while the pattern is read, and every branch is compared with its own.

* **`Ast.Narrows`**: a pattern matches nowhere else than another one.
* `readAll_fronted`: an item in front makes no difference to how a pattern is read.
* **`Draft.Fronted.rel_body`** and **`Draft.rel_body_push`**: what an assertion does to the branch it
  stands in, it does to the whole pattern.
-/

namespace Verbal.Regular

/-! ## Patterns that match less -/

namespace Ast

/-- Whether a pattern matches nowhere else than another one, which is no larger and leaves the same
flags in force. -/
def Narrows (a b : Ast) : Prop :=
  ∀ flags r flags', a.regex flags = .ok (r, flags') →
    ∃ r', b.regex flags = .ok (r', flags') ∧ r'.size ≤ r.size ∧
      ∀ text i j, r.Spans text i j → r'.Spans text i j

theorem Narrows.refl (a : Ast) : a.Narrows a :=
  fun _ r _ h => ⟨r, h, Nat.le_refl _, fun _ _ _ hs => hs⟩

theorem Narrows.trans {a b c : Ast} (hab : a.Narrows b) (hbc : b.Narrows c) : a.Narrows c := by
  intro flags r flags' h
  obtain ⟨rb, hb, hsize, hspans⟩ := hab flags r flags' h
  obtain ⟨rc, hc, hsize', hspans'⟩ := hbc flags rb flags' hb
  exact ⟨rc, hc, Nat.le_trans hsize' hsize, fun text i j hs => hspans' _ _ _ (hspans _ _ _ hs)⟩

theorem Narrows.concat (a : Ast) {b c : Ast} (h : b.Narrows c) :
    (concat a b).Narrows (concat a c) := by
  intro flags r flags' hr
  obtain ⟨ra, flags₁, rb, ha, hb, rfl⟩ := regex_concat_eq_ok.mp hr
  obtain ⟨rc, hc, hsize, hspans⟩ := h flags₁ rb flags' hb
  refine ⟨.concat ra rc, regex_concat_eq_ok.mpr ⟨_, _, _, ha, hc, rfl⟩,
    Nat.add_le_add_left hsize _, ?_⟩
  rintro text i j ⟨k, hik, hkj⟩
  exact ⟨k, hik, hspans _ _ _ hkj⟩

theorem Narrows.alternate {a a' b b' : Ast} (ha : a.Narrows a') (hb : b.Narrows b') :
    (alternate a b).Narrows (alternate a' b') := by
  intro flags r flags' hr
  obtain ⟨ra, flags₁, rb, hra, hrb, rfl⟩ := regex_alternate_eq_ok.mp hr
  obtain ⟨ra', hra', hsize, hspans⟩ := ha flags ra flags₁ hra
  obtain ⟨rb', hrb', hsize', hspans'⟩ := hb flags₁ rb flags' hrb
  refine ⟨.alternate ra' rb', regex_alternate_eq_ok.mpr ⟨_, _, _, hra', hrb', rfl⟩, ?_, ?_⟩
  · exact Nat.add_le_add_right (Nat.add_le_add hsize hsize') _
  · exact fun text i j hs => hs.imp (hspans _ _ _) (hspans' _ _ _)

/-- An assertion in front of items takes matches away. -/
theorem narrows_cons (l : Assertion) (items : List Ast) :
    (ofItems (.primitive (.assertion l) :: items)).Narrows (ofItems items) := by
  intro flags r flags' h
  cases items with
  | nil =>
    cases h
    refine ⟨.empty, rfl, Nat.le_refl _, ?_⟩
    rintro text i j ⟨rfl, -⟩
    rfl
  | cons a items =>
    obtain ⟨rl, flags₁, r, hl, hr, rfl⟩ := regex_concat_eq_ok.mp h
    cases hl
    refine ⟨r, hr, Nat.le_add_left _ _, ?_⟩
    rintro text i j ⟨k, ⟨rfl, -⟩, hs⟩
    exact hs

/-- So does one behind them. -/
theorem narrows_concat (l : Assertion) (items : List Ast) :
    (ofItems (items ++ [.primitive (.assertion l)])).Narrows (ofItems items) := by
  match items with
  | [] => exact narrows_cons l []
  | [a] =>
    intro flags r flags' h
    obtain ⟨r, flags₁, rl, hr, hl, rfl⟩ := regex_concat_eq_ok.mp h
    cases hl
    refine ⟨r, hr, Nat.le_add_right _ _, ?_⟩
    rintro text i j ⟨k, hs, rfl, -⟩
    exact hs
  | a :: b :: items => exact (narrows_concat l (b :: items)).concat a

theorem narrows_ofBranches {as bs : List Ast} (h : List.Forall₂ Narrows as bs) :
    (ofBranches as).Narrows (ofBranches bs) := by
  induction h with
  | nil => exact .refl _
  | cons h hrest ih =>
    cases hrest with
    | nil => exact h
    | cons h' hrest => exact h.alternate ih

end Ast

/-! ## An item in front -/

/-- Open groups with the branches and items of the innermost one, and the same with one more item
in front of the first branch of all. -/
inductive Fronted (a : Ast) :
    List Level → List Ast → List Ast → List Level → List Ast → List Ast → Prop
  | first (items : List Ast) : Fronted a [] [] items [] [] (items ++ [a])
  | later (branches items first : List Ast) :
    Fronted a [] (branches ++ [.ofItems first]) items [] (branches ++ [.ofItems (a :: first)]) items
  | above {levels levels' : List Level} {outer outer' before before' : List Ast}
    (kind : GroupKind) (verbose : Bool) (branches items : List Ast)
    (h : Fronted a levels outer before levels' outer' before') :
    Fronted a (⟨kind, verbose, outer, before⟩ :: levels) branches items
      (⟨kind, verbose, outer', before'⟩ :: levels') branches items

namespace Fronted

variable {a : Ast} {levels levels' : List Level} {branches items branches' items' : List Ast}

theorem cons (h : Fronted a levels branches items levels' branches' items') (x : Ast) :
    Fronted a levels branches (x :: items) levels' branches' (x :: items') := by
  cases h with
  | first items => exact .first (x :: items)
  | later branches items first => exact .later branches (x :: items) first
  | above kind verbose branches items h => exact .above kind verbose branches (x :: items) h

/-- The last item is the same, unless the one in front is all there is. -/
theorem tail {x : Ast} (h : Fronted a levels branches (x :: items) levels' branches' items') :
    ∃ rest, items' = x :: rest ∧ Fronted a levels branches items levels' branches' rest := by
  cases h with
  | first items => exact ⟨items ++ [a], rfl, .first items⟩
  | later branches items first => exact ⟨_, rfl, .later branches _ first⟩
  | above kind verbose branches items h => exact ⟨_, rfl, .above kind verbose branches _ h⟩

theorem branch (h : Fronted a levels branches items levels' branches' items') :
    Fronted a levels (.ofItems items.reverse :: branches) []
      levels' (.ofItems items'.reverse :: branches') [] := by
  cases h with
  | first items =>
    rw [List.reverse_append]
    exact .later [] [] items.reverse
  | later branches items first => exact .later (_ :: branches) [] first
  | above kind verbose branches items h => exact .above kind verbose _ [] h

theorem levels_cons {level : Level}
    (h : Fronted a (level :: levels) branches items levels' branches' items') :
    ∃ outer before rest, levels' = ⟨level.kind, level.verbose, outer, before⟩ :: rest ∧
      branches' = branches ∧ items' = items ∧
      Fronted a levels level.branches level.items rest outer before := by
  cases h with
  | above kind verbose branches items h => exact ⟨_, _, _, rfl, rfl, rfl, h⟩

end Fronted

namespace Draft

/-- Whether a draft is the same as another one but for an item in front. -/
structure Fronted (a : Ast) (d e : Draft) : Prop where
  frames : Regular.Fronted a d.levels d.branches d.items e.levels e.branches e.items
  verbose : e.verbose = d.verbose
  groups : e.groups = d.groups
  names : e.names = d.names

variable {a : Ast} {d d' e : Draft}

theorem Fronted.openGroup (h : Fronted a d e) (kind : GroupKind) (verbose : Bool) :
    Fronted a (d.openGroup kind verbose) (e.openGroup kind verbose) := by
  refine ⟨?_, rfl, h.groups, h.names⟩
  simp only [Draft.openGroup, h.verbose]
  exact .above kind d.verbose [] [] h.frames

theorem Fronted.openCapture (h : Fronted a d e) : Fronted a d.openCapture e.openCapture := by
  unfold Draft.openCapture
  dsimp only
  rw [h.groups, h.verbose]
  exact { h.openGroup _ _ with groups := congrArg (· + 1) h.groups }

/-- **A token is taken in the same way** with an item in front. -/
theorem Fronted.take {token : Token} (h : Fronted a d e) (htake : d.take token = .ok d') :
    ∃ e', e.take token = .ok e' ∧ Fronted a d' e' := by
  cases token with
  | primitive p =>
    cases htake
    exact ⟨_, rfl, { h with frames := h.frames.cons _ }⟩
  | set item =>
    cases htake
    exact ⟨_, rfl, { h with frames := h.frames.cons _ }⟩
  | bar =>
    cases htake
    exact ⟨_, rfl, { h with frames := h.frames.branch }⟩
  | capture =>
    cases htake
    exact ⟨_, rfl, h.openCapture⟩
  | repetition count reluctant =>
    obtain ⟨x, items, hitems, hflags, rfl⟩ := repeatLast_eq_ok.mp htake
    have hframes := h.frames
    rw [hitems] at hframes
    obtain ⟨rest, hrest, hframes⟩ := hframes.tail
    exact ⟨_, repeatLast_eq_ok.mpr ⟨x, rest, hrest, hflags, rfl⟩,
      { h with frames := hframes.cons _ }⟩
  | close =>
    obtain ⟨level, levels, hlevels, rfl⟩ := closeGroup_eq_ok.mp htake
    have hframes := h.frames
    rw [hlevels] at hframes
    obtain ⟨outer, before, rest, hlevels', hbranches, hitems, hframes⟩ := hframes.levels_cons
    have hbody : e.body = d.body := by
      unfold body
      rw [hbranches, hitems]
    refine ⟨_, closeGroup_eq_ok.mpr ⟨_, rest, hlevels', rfl⟩,
      { h with frames := ?_, verbose := rfl }⟩
    rw [hbody]
    exact hframes.cons _
  | named name =>
    obtain ⟨hname, hfree, rfl⟩ := openNamed_eq_ok.mp htake
    rw [← h.names, ← h.groups]
    refine ⟨_, openNamed_eq_ok.mpr ⟨hname, by rwa [h.names], rfl⟩, ?_⟩
    exact { h.openCapture with names := rfl }
  | switches switches opens =>
    rcases switch_eq_ok.mp htake with ⟨rfl, rfl⟩ | ⟨rfl, hswitches, rfl⟩
    · refine ⟨_, switch_eq_ok.mpr (Or.inl ⟨rfl, rfl⟩), ?_⟩
      rw [h.verbose]
      exact h.openGroup _ _
    · refine ⟨_, switch_eq_ok.mpr (Or.inr ⟨rfl, hswitches, rfl⟩), ?_⟩
      rw [h.verbose]
      exact { h with frames := h.frames.cons _, verbose := rfl }

end Draft

/-- **An item in front makes no difference** to how a pattern is read. -/
theorem readAll_fronted {a : Ast} {d d' e : Draft} {s : List Char} (h : d.Fronted a e)
    (hread : readAll d s = .ok d') : ∃ e', readAll e s = .ok e' ∧ d'.Fronted a e' := by
  induction hread using readAll_induction generalizing e with
  | blank s hs => exact ⟨e, readAll_of_blank (by rw [h.verbose, hs]), h⟩
  | token d d₁ s c r r' token hs htoken htake _ ih =>
    obtain ⟨e₁, htake', h₁⟩ := h.take htake
    obtain ⟨e', hread', h'⟩ := ih h₁
    rw [← h.verbose] at hs htoken
    exact ⟨e', (readAll_of_token hs htoken htake').trans hread', h'⟩

/-! ## An item more in the first branch or in the last -/

/-- Whether a relation holds of patterns if it holds of their branches. -/
structure Ast.Branchwise (R : Ast → Ast → Prop) : Prop where
  refl : ∀ a, R a a
  branches : ∀ {as bs}, List.Forall₂ R as bs → R (.ofBranches as) (.ofBranches bs)

theorem Ast.branchwise_narrows : Branchwise Narrows := ⟨.refl, narrows_ofBranches⟩

variable {R : Ast → Ast → Prop}

/-- What an item in front does to its branch, it does to the whole pattern. -/
theorem Fronted.rel_body {a : Ast} {branches items branches' items' : List Ast}
    {levels' : List Level} (hR : Ast.Branchwise R)
    (ha : ∀ items, R (.ofItems (a :: items)) (.ofItems items))
    (h : Fronted a [] branches items levels' branches' items') :
    levels' = [] ∧ R (Ast.ofBranches (.ofItems items'.reverse :: branches').reverse)
      (.ofBranches (.ofItems items.reverse :: branches).reverse) := by
  cases h with
  | first items =>
    have hreverse : (items ++ [a]).reverse = a :: items.reverse := List.reverse_concat
    rw [hreverse]
    exact ⟨rfl, hR.branches (.cons (ha items.reverse) .nil)⟩
  | later branches items first =>
    have hreverse (first : List Ast) : (branches ++ [Ast.ofItems first]).reverse =
        .ofItems first :: branches.reverse := List.reverse_concat
    rw [List.reverse_cons, List.reverse_cons, hreverse, hreverse]
    exact ⟨rfl, hR.branches (.cons (ha first) (List.forall₂_same.mpr fun a _ => hR.refl a))⟩

namespace Draft

theorem Fronted.rel_body {a : Ast} {d e : Draft} (hR : Ast.Branchwise R)
    (ha : ∀ items, R (.ofItems (a :: items)) (.ofItems items)) (h : d.Fronted a e)
    (hlevels : d.levels = []) : e.levels = [] ∧ R e.body d.body := by
  have hframes := h.frames
  rw [hlevels] at hframes
  exact hframes.rel_body hR ha

/-- What an item behind does to its branch, it does to the whole pattern. -/
theorem rel_body_push {a : Ast} (hR : Ast.Branchwise R)
    (ha : ∀ items, R (.ofItems (items ++ [a])) (.ofItems items)) (d : Draft) :
    R (d.push a).body d.body := by
  refine hR.branches ?_
  simp only [push, List.reverse_cons]
  exact List.rel_append (List.forall₂_same.mpr fun a _ => hR.refl a)
    (.cons (ha d.items.reverse) .nil)

/-- An assertion in front of a whole pattern takes matches away. -/
theorem Fronted.narrows_body {l : Assertion} {d e : Draft}
    (h : d.Fronted (.primitive (.assertion l)) e) (hlevels : d.levels = []) :
    e.levels = [] ∧ e.body.Narrows d.body :=
  h.rel_body Ast.branchwise_narrows (Ast.narrows_cons l) hlevels

/-- An assertion behind a whole pattern takes matches away. -/
theorem narrows_body_push (d : Draft) (l : Assertion) :
    (d.push (.primitive (.assertion l))).body.Narrows d.body :=
  d.rel_body_push Ast.branchwise_narrows (Ast.narrows_concat l)

end Draft

end Verbal.Regular
