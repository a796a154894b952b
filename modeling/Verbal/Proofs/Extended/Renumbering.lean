import Verbal.Proofs.Extended.Enclosing
import Verbal.Proofs.Regular.Trails

/-!
# Renumbered groups of extended patterns

Behind other groups the groups of a pattern have other numbers, and so have the references to them.
The reference to the whole match stays what it is. A pattern that is renumbered in all of its groups
and references is cut into the same plan but for the numbers.

* **`Tree.plan_shift`**: renumbering a tree renumbers its plan.
* `Tree.Sound`: what has to hold of a tree for that.
-/

namespace Verbal.Extended

open Verbal.Regular (Ast Chain Look Skeleton Switches Trail)

/-! ## Numbers -/

/-- The number of a group behind `n` others. What stands for the whole match keeps its number. -/
def raise (n i : Nat) : Nat := if i = 0 then 0 else i + n

section Raise

variable {n i j : Nat}

theorem raise_of_pos (h : 0 < i) : raise n i = i + n := if_neg (Nat.ne_of_gt h)

theorem raise_inj : raise n i = raise n j ↔ i = j := by
  unfold raise
  split_ifs <;> omega

theorem raise_eq_add (h : 0 < i) : raise n j = i + n ↔ j = i := by
  rw [← raise_of_pos h, raise_inj]

theorem zero_raise (i : Nat) : raise 0 i = i := by
  unfold raise
  split <;> omega

theorem contains_map_raise (referred : List Nat) (h : 0 < i) :
    (referred.map (raise n)).contains (i + n) = referred.contains i := by
  rw [Bool.eq_iff_iff, List.contains_iff_mem, List.contains_iff_mem, List.mem_map]
  exact ⟨fun ⟨j, hj, hji⟩ => (raise_eq_add h).mp hji ▸ hj, fun hi => ⟨i, hi, raise_of_pos h⟩⟩

end Raise

/-! ## Trees -/

/-- Whether a text that is left to regular patterns is read by them as a letter or a class. -/
def readsLetter (text : List Char) : Bool :=
  match Regular.Source.read text with
  | .ok source => source.ast.isLetter
  | .error _ => true

namespace Tree

/-- Whether a tree and all that is in it are of a kind. -/
def All (P : Tree → Prop) : Tree → Prop
  | concat a b => P (concat a b) ∧ a.All P ∧ b.All P
  | alternate a b => P (alternate a b) ∧ a.All P ∧ b.All P
  | plain t => P (plain t) ∧ t.All P
  | group i t => P (group i t) ∧ t.All P
  | look direction negated t => P (look direction negated t) ∧ t.All P
  | repetition least most greedy t => P (repetition least most greedy t) ∧ t.All P
  | atomic t => P (atomic t) ∧ t.All P
  | conditional c yes no => P (conditional c yes no) ∧ c.All P ∧ yes.All P ∧ no.All P
  | t => P t

/-- Whether it can be told of all parts, it can be told of the tree. -/
instance decidableAll (P : Tree → Prop) [DecidablePred P] : (t : Tree) → Decidable (t.All P)
  | concat a b =>
    have := decidableAll P a
    have := decidableAll P b
    inferInstanceAs (Decidable (P (concat a b) ∧ a.All P ∧ b.All P))
  | alternate a b =>
    have := decidableAll P a
    have := decidableAll P b
    inferInstanceAs (Decidable (P (alternate a b) ∧ a.All P ∧ b.All P))
  | plain t =>
    have := decidableAll P t
    inferInstanceAs (Decidable (P (plain t) ∧ t.All P))
  | group i t =>
    have := decidableAll P t
    inferInstanceAs (Decidable (P (group i t) ∧ t.All P))
  | look direction negated t =>
    have := decidableAll P t
    inferInstanceAs (Decidable (P (look direction negated t) ∧ t.All P))
  | repetition least most greedy t =>
    have := decidableAll P t
    inferInstanceAs (Decidable (P (repetition least most greedy t) ∧ t.All P))
  | atomic t =>
    have := decidableAll P t
    inferInstanceAs (Decidable (P (atomic t) ∧ t.All P))
  | conditional c yes no =>
    have := decidableAll P c
    have := decidableAll P yes
    have := decidableAll P no
    inferInstanceAs (Decidable (P (conditional c yes no) ∧ c.All P ∧ yes.All P ∧ no.All P))
  | empty => inferInstanceAs (Decidable (P empty))
  | any newline => inferInstanceAs (Decidable (P (any newline)))
  | literal c anyCase => inferInstanceAs (Decidable (P (literal c anyCase)))
  | fragment text anyCase => inferInstanceAs (Decidable (P (fragment text anyCase)))
  | assertion l => inferInstanceAs (Decidable (P (assertion l)))
  | backref i => inferInstanceAs (Decidable (P (backref i)))
  | groupTest i => inferInstanceAs (Decidable (P (groupTest i)))
  | keepOut => inferInstanceAs (Decidable (P keepOut))
  | contiguous => inferInstanceAs (Decidable (P contiguous))

theorem All.and {P Q : Tree → Prop} {t : Tree} (hp : t.All P) (hq : t.All Q) :
    t.All fun t => P t ∧ Q t := by
  induction t with
  | concat a b iha ihb =>
    exact ⟨⟨hp.1, hq.1⟩, iha hp.2.1 hq.2.1, ihb hp.2.2 hq.2.2⟩
  | alternate a b iha ihb =>
    exact ⟨⟨hp.1, hq.1⟩, iha hp.2.1 hq.2.1, ihb hp.2.2 hq.2.2⟩
  | plain t ih => exact ⟨⟨hp.1, hq.1⟩, ih hp.2 hq.2⟩
  | group i t ih => exact ⟨⟨hp.1, hq.1⟩, ih hp.2 hq.2⟩
  | look direction negated t ih => exact ⟨⟨hp.1, hq.1⟩, ih hp.2 hq.2⟩
  | repetition least most greedy t ih => exact ⟨⟨hp.1, hq.1⟩, ih hp.2 hq.2⟩
  | atomic t ih => exact ⟨⟨hp.1, hq.1⟩, ih hp.2 hq.2⟩
  | conditional c yes no ihc ihy ihn =>
    exact ⟨⟨hp.1, hq.1⟩, ihc hp.2.1 hq.2.1, ihy hp.2.2.1 hq.2.2.1, ihn hp.2.2.2 hq.2.2.2⟩
  | _ => exact ⟨hp, hq⟩

theorem All.imp {P Q : Tree → Prop} {t : Tree} (h : t.All P) (himp : ∀ t, P t → Q t) :
    t.All Q := by
  induction t with
  | concat a b iha ihb => exact ⟨himp _ h.1, iha h.2.1, ihb h.2.2⟩
  | alternate a b iha ihb => exact ⟨himp _ h.1, iha h.2.1, ihb h.2.2⟩
  | plain t ih => exact ⟨himp _ h.1, ih h.2⟩
  | group i t ih => exact ⟨himp _ h.1, ih h.2⟩
  | look direction negated t ih => exact ⟨himp _ h.1, ih h.2⟩
  | repetition least most greedy t ih => exact ⟨himp _ h.1, ih h.2⟩
  | atomic t ih => exact ⟨himp _ h.1, ih h.2⟩
  | conditional c yes no ihc ihy ihn =>
    exact ⟨himp _ h.1, ihc h.2.1, ihy h.2.2.1, ihn h.2.2.2⟩
  | _ => exact himp _ h

theorem All.items {P : Tree → Prop} {t : Tree} (h : t.All P) : ∀ x ∈ t.items, x.All P := by
  induction t with
  | concat a b _ ihb => exact List.forall_mem_cons.mpr ⟨h.2.1, ihb h.2.2⟩
  | _ => exact List.forall_mem_singleton.mpr h

theorem all_ofItems {P : Tree → Prop} {ts : List Tree} (hempty : P empty)
    (hconcat : ∀ a b, P (concat a b)) (h : ∀ t ∈ ts, t.All P) : (ofItems ts).All P := by
  match ts with
  | [] => exact hempty
  | [t] => exact h t (List.mem_singleton_self t)
  | t :: t' :: ts =>
    obtain ⟨ht, hts⟩ := List.forall_mem_cons.mp h
    exact ⟨hconcat _ _, ht, all_ofItems hempty hconcat hts⟩

theorem all_ofBranches {P : Tree → Prop} {ts : List Tree} (hempty : P empty)
    (halternate : ∀ a b, P (alternate a b)) (h : ∀ t ∈ ts, t.All P) : (ofBranches ts).All P := by
  match ts with
  | [] => exact hempty
  | [t] => exact h t (List.mem_singleton_self t)
  | t :: t' :: ts =>
    obtain ⟨ht, hts⟩ := List.forall_mem_cons.mp h
    exact ⟨halternate _ _, ht, all_ofBranches hempty halternate hts⟩

/-- Whether the groups of a tree are not the whole match, and the references are among those that
were noted. -/
def Numbered (referred : List Nat) : Tree → Prop := All fun
  | group i _ => 0 < i
  | backref i => i ∈ referred
  | groupTest i => i ∈ referred
  | _ => True

/-- Whether regular patterns read a letter or a class wherever they are left to. -/
def Lettered : Tree → Prop := All fun
  | fragment text _ => readsLetter text = true
  | _ => True

/-- Whether both hold of a tree. -/
def Sound (referred : List Nat) (t : Tree) : Prop := t.Numbered referred ∧ t.Lettered

section Sound

variable {referred : List Nat} {t a b : Tree}

theorem sound_concat :
    (concat a b).Sound referred ↔ a.Sound referred ∧ b.Sound referred :=
  ⟨fun h => ⟨⟨h.1.2.1, h.2.2.1⟩, h.1.2.2, h.2.2.2⟩,
    fun h => ⟨⟨trivial, h.1.1, h.2.1⟩, trivial, h.1.2, h.2.2⟩⟩

theorem sound_alternate :
    (alternate a b).Sound referred ↔ a.Sound referred ∧ b.Sound referred :=
  ⟨fun h => ⟨⟨h.1.2.1, h.2.2.1⟩, h.1.2.2, h.2.2.2⟩,
    fun h => ⟨⟨trivial, h.1.1, h.2.1⟩, trivial, h.1.2, h.2.2⟩⟩

theorem sound_group {i : Nat} : (group i t).Sound referred ↔ 0 < i ∧ t.Sound referred :=
  ⟨fun h => ⟨h.1.1, h.1.2, h.2.2⟩, fun h => ⟨⟨h.1, h.2.1⟩, trivial, h.2.2⟩⟩

theorem Sound.items (h : t.Sound referred) : ∀ x ∈ t.items, x.Sound referred :=
  fun x hx => ⟨All.items h.1 x hx, All.items h.2 x hx⟩

end Sound

/-- A tree with the numbers of its groups raised, and the references to them. -/
def shift (n : Nat) : Tree → Tree
  | concat a b => concat (a.shift n) (b.shift n)
  | alternate a b => alternate (a.shift n) (b.shift n)
  | plain t => plain (t.shift n)
  | group i t => group (i + n) (t.shift n)
  | look direction negated t => look direction negated (t.shift n)
  | repetition least most greedy t => repetition least most greedy (t.shift n)
  | atomic t => atomic (t.shift n)
  | backref i => backref (raise n i)
  | groupTest i => groupTest (raise n i)
  | conditional c yes no => conditional (c.shift n) (yes.shift n) (no.shift n)
  | t => t

section Shift

variable (n : Nat)

theorem shift_ofItems (ts : List Tree) : (ofItems ts).shift n = ofItems (ts.map (shift n)) := by
  match ts with
  | [] => rfl
  | [t] => rfl
  | t :: t' :: ts => exact congrArg (concat (t.shift n)) (shift_ofItems (t' :: ts))

theorem shift_ofBranches (ts : List Tree) :
    (ofBranches ts).shift n = ofBranches (ts.map (shift n)) := by
  match ts with
  | [] => rfl
  | [t] => rfl
  | t :: t' :: ts => exact congrArg (alternate (t.shift n)) (shift_ofBranches (t' :: ts))

theorem items_shift (t : Tree) : (t.shift n).items = t.items.map (shift n) := by
  induction t with
  | concat a b _ ihb => simp only [shift, items, ihb, List.map_cons]
  | _ => rfl

theorem groups_shift (t : Tree) : (t.shift n).groups = t.groups.map (· + n) := by
  induction t with
  | concat a b iha ihb => simp only [shift, groups, iha, ihb, List.map_append]
  | alternate a b iha ihb => simp only [shift, groups, iha, ihb, List.map_append]
  | plain t ih => exact ih
  | group i t ih => simp only [shift, groups, ih, List.map_cons]
  | look direction negated t ih => exact ih
  | repetition least most greedy t ih => exact ih
  | atomic t ih => exact ih
  | conditional c yes no ihc ihy ihn =>
    simp only [shift, groups, ihc, ihy, ihn, List.map_append]
  | _ => rfl

theorem minSize_shift (t : Tree) : (t.shift n).minSize = t.minSize := by
  induction t with
  | concat a b iha ihb => simp only [shift, minSize, iha, ihb]
  | alternate a b iha ihb => simp only [shift, minSize, iha, ihb]
  | plain t ih => exact ih
  | group i t ih => exact ih
  | repetition least most greedy t ih => simp only [shift, minSize, ih]
  | atomic t ih => exact ih
  | conditional c yes no ihc ihy ihn => simp only [shift, minSize, ihc, ihy, ihn]
  | _ => rfl

theorem constSize_shift (t : Tree) : (t.shift n).constSize = t.constSize := by
  induction t with
  | concat a b iha ihb => simp only [shift, constSize, iha, ihb]
  | alternate a b iha ihb => simp only [shift, constSize, iha, ihb, minSize_shift]
  | plain t ih => exact ih
  | group i t ih => exact ih
  | repetition least most greedy t ih => simp only [shift, constSize, ih]
  | atomic t ih => exact ih
  | conditional c yes no ihc ihy ihn => simp only [shift, constSize, ihc, ihy, ihn, minSize_shift]
  | _ => rfl

variable {referred : List Nat} {t : Tree}

theorem hard_shift (h : t.Numbered referred) :
    (t.shift n).hard (referred.map (raise n)) = t.hard referred := by
  induction t with
  | concat a b iha ihb => simp only [shift, hard, iha h.2.1, ihb h.2.2]
  | alternate a b iha ihb => simp only [shift, hard, iha h.2.1, ihb h.2.2]
  | plain t ih => exact ih h.2
  | group i t ih => simp only [shift, hard, ih h.2, contains_map_raise referred h.1]
  | repetition least most greedy t ih => exact ih h.2
  | _ => rfl

theorem isFront_shift (h : t.Numbered referred) :
    (t.shift n).isFront (referred.map (raise n)) = t.isFront referred := by
  simp only [isFront, constSize_shift, hard_shift n h]

theorem isEnd_shift (h : t.Numbered referred) (later : Bool) :
    (t.shift n).isEnd (referred.map (raise n)) later = t.isEnd referred later := by
  have hall : (t.shift n).items.all constSize = t.items.all constSize := by
    rw [items_shift, List.all_map]
    exact congrArg (t.items.all ·) (funext fun t => constSize_shift n t)
  simp only [isEnd, hall, hard_shift n h]

/-- The groups of an easy tree are none of those that are referred to. -/
theorem mem_groups_of_easy (h : t.Numbered referred) (heasy : t.hard referred = false) :
    ∀ i ∈ t.groups, 0 < i ∧ i ∉ referred := by
  induction t with
  | concat a b iha ihb =>
    obtain ⟨ha, hb⟩ := Bool.or_eq_false_iff.mp heasy
    exact List.forall_mem_append.mpr ⟨iha h.2.1 ha, ihb h.2.2 hb⟩
  | alternate a b iha ihb =>
    obtain ⟨ha, hb⟩ := Bool.or_eq_false_iff.mp heasy
    exact List.forall_mem_append.mpr ⟨iha h.2.1 ha, ihb h.2.2 hb⟩
  | plain t ih => exact ih h.2 heasy
  | group i t ih =>
    obtain ⟨ht, hi⟩ := Bool.or_eq_false_iff.mp heasy
    exact List.forall_mem_cons.mpr ⟨⟨h.1, by simpa using hi⟩, ih h.2 ht⟩
  | repetition least most greedy t ih => exact ih h.2 heasy
  | look => cases heasy
  | atomic => cases heasy
  | conditional => cases heasy
  | _ => exact fun i hi => nomatch hi

theorem hard_items (heasy : t.hard referred = false) : ∀ x ∈ t.items, x.hard referred = false := by
  induction t with
  | concat a b _ ihb =>
    obtain ⟨ha, hb⟩ := Bool.or_eq_false_iff.mp heasy
    exact List.forall_mem_cons.mpr ⟨ha, ihb hb⟩
  | _ => exact List.forall_mem_singleton.mpr heasy

/-! ### Regular patterns -/

theorem switched_shift (switches : Switches) (a : Ast) :
    (switched switches a).shift n = switched switches (a.shift n) := by
  unfold switched
  split <;> rfl

theorem grouped_shift (needed : Bool) (a : Ast) :
    (grouped needed a).shift n = grouped needed (a.shift n) := by
  cases needed <;> rfl

/-- The regular pattern that is made of an easy tree is renumbered with it. -/
theorem cook_shift (h : t.Lettered) (binding : Nat) (chain : Chain) :
    (t.shift n).cook binding chain = (t.cook binding chain).map (.shift n) := by
  induction t generalizing binding chain with
  | fragment text anyCase =>
    have hletter : readsLetter text = true := h
    change (fragment text anyCase).cook binding chain = _
    unfold readsLetter at hletter
    rw [cook_fragment]
    cases hread : Regular.Source.read text with
    | error e => rfl
    | ok source =>
      rw [hread] at hletter
      simp only [Except.map, switched_shift, Ast.shift_of_isLetter hletter]
  | assertion l => cases l <;> rfl
  | any newline => cases newline <;> rfl
  | literal c anyCase => cases anyCase <;> rfl
  | concat a b iha ihb =>
    simp only [shift, cook_concat, iha h.2.1, ihb h.2.2]
    cases a.cook 2 .none with
    | error e => rfl
    | ok a =>
      cases b.cook 2 .concat with
      | error e => rfl
      | ok b => simp only [Except.map, Except.bind, grouped_shift, Ast.shift]
  | alternate a b iha ihb =>
    simp only [shift, cook_alternate, iha h.2.1, ihb h.2.2]
    cases a.cook 1 .none with
    | error e => rfl
    | ok a =>
      cases b.cook 1 .alternate with
      | error e => rfl
      | ok b => simp only [Except.map, Except.bind, grouped_shift, Ast.shift]
  | plain t ih => exact ih h.2 binding .none
  | group i t ih =>
    simp only [shift, cook_group, ih h.2]
    cases t.cook 0 .none <;> rfl
  | repetition least most greedy t ih =>
    simp only [shift, cook_repetition, ih h.2]
    cases t.cook 3 .none with
    | error e => rfl
    | ok a =>
      cases countOf least most with
      | error e => rfl
      | ok count => simp only [Except.map, Except.bind, grouped_shift, Ast.shift]
  | _ => rfl

end Shift

end Tree

/-- A regular pattern is compiled to the same part but for the numbers. -/
theorem partOf_shift (n : Nat) (anyCase : Bool) (a : Ast) :
    partOf anyCase (a.shift n) = (partOf anyCase a).map (.shift n) := by
  unfold partOf
  rw [Ast.depth_shift, Ast.regex_shift]
  split
  · rfl
  · cases a.regex (.initial anyCase) with
    | error e => rfl
    | ok x =>
      simp only [Except.map, Regular.Regex.compile, Regular.Regex.size_shift,
        Skeleton.unroll_shift]
      by_cases hsize : x.1.size ≤ Regular.sizeLimit
      · simp only [if_pos hsize]
      · simp only [if_neg hsize]

theorem Tree.isLiteral_shift (n : Nat) (t : Tree) : (t.shift n).isLiteral = t.isLiteral := by
  induction t with
  | concat a b iha ihb => simp only [shift, isLiteral, iha, ihb]
  | plain t ih => simp only [shift, isLiteral, ih]
  | _ => rfl

theorem partOfTrees_shift (n : Nat) (ts : List Tree) (a : Ast) :
    partOfTrees (ts.map (.shift n)) (a.shift n) = (partOfTrees ts a).map (.shift n) := by
  have hliteral : (ts.map (Tree.shift n)).all Tree.isLiteral = ts.all Tree.isLiteral := by
    rw [List.all_map]
    exact congrArg ts.all (funext (Tree.isLiteral_shift n))
  unfold partOfTrees
  rw [hliteral, partOf_shift, Ast.regex_shift]
  split
  · cases a.regex (.initial false) with
    | error e => rfl
    | ok x => simp only [Except.map, Skeleton.unroll_shift]
  · rfl

/-! ## Plans -/

namespace Plan

variable {δ ε : Type}

/-- A plan with the numbers of its groups raised, and its parts renumbered. -/
def shift (f : δ → δ) (n : Nat) : Plan δ → Plan δ
  | nothing => nothing
  | part d groups => part (f d) (groups.map (· + n))
  | look l => look l
  | seq a b => seq (a.shift f n) (b.shift f n)
  | choice a b => choice (a.shift f n) (b.shift f n)
  | capture index a => capture (index + n) (a.shift f n)
  | times count a => times count (a.shift f n)
  | upTo count greedy a => upTo count greedy (a.shift f n)
  | star greedy a => star greedy (a.shift f n)
  | around back negated a => around back negated (a.shift f n)
  | backref index => backref (raise n index)
  | groupTest index => groupTest (raise n index)
  | atomic a => atomic (a.shift f n)
  | conditional c yes no => conditional (c.shift f n) (yes.shift f n) (no.shift f n)
  | keepOut => keepOut
  | contiguous => contiguous

/-- Whether no group that parts mark is referred to, and the references of a plan are among those
that were noted. -/
def Numbered (referred : List Nat) : Plan δ → Prop
  | part _ groups => ∀ i ∈ groups, 0 < i ∧ i ∉ referred
  | seq a b => a.Numbered referred ∧ b.Numbered referred
  | choice a b => a.Numbered referred ∧ b.Numbered referred
  | capture index a => 0 < index ∧ a.Numbered referred
  | times _ a => a.Numbered referred
  | upTo _ _ a => a.Numbered referred
  | star _ a => a.Numbered referred
  | around _ _ a => a.Numbered referred
  | backref index => index ∈ referred
  | groupTest index => index ∈ referred
  | atomic a => a.Numbered referred
  | conditional c yes no => c.Numbered referred ∧ yes.Numbered referred ∧ no.Numbered referred
  | _ => True

theorem map_shift {f : δ → δ} {g : ε → ε} {k : δ → ε} (h : ∀ d, k (f d) = g (k d)) (n : Nat)
    (a : Plan δ) : (a.shift f n).map k = (a.map k).shift g n := by
  induction a with
  | part d groups => simp only [shift, map, h]
  | seq a b iha ihb => simp only [shift, map, iha, ihb]
  | choice a b iha ihb => simp only [shift, map, iha, ihb]
  | capture index a ih => simp only [shift, map, ih]
  | times count a ih => simp only [shift, map, ih]
  | upTo count greedy a ih => simp only [shift, map, ih]
  | star greedy a ih => simp only [shift, map, ih]
  | around back negated a ih => simp only [shift, map, ih]
  | atomic a ih => simp only [shift, map, ih]
  | conditional c yes no ihc ihy ihn => simp only [shift, map, ihc, ihy, ihn]
  | _ => rfl

theorem numbered_map (k : δ → ε) (referred : List Nat) (a : Plan δ) :
    (a.map k).Numbered referred = a.Numbered referred := by
  induction a with
  | part d groups => rfl
  | seq a b iha ihb => simp only [map, Numbered, iha, ihb]
  | choice a b iha ihb => simp only [map, Numbered, iha, ihb]
  | capture index a ih => simp only [map, Numbered, ih]
  | times count a ih => exact ih
  | upTo count greedy a ih => exact ih
  | star greedy a ih => exact ih
  | around back negated a ih => exact ih
  | atomic a ih => exact ih
  | conditional c yes no ihc ihy ihn => simp only [map, Numbered, ihc, ihy, ihn]
  | _ => rfl

end Plan

/-- A plan with the numbers of its groups raised. -/
abbrev Plan.renumbered (n : Nat) (plan : Plan Part) : Plan Part := plan.shift (.shift n) n

/-- Whether what is planned is planned again but for the numbers, and refers to none of the groups
of its parts. -/
def Follows (n : Nat) (referred : List Nat) (x y : Except Fault (Plan Part)) : Prop :=
  ∀ plan, x = .ok plan → y = .ok (plan.renumbered n) ∧ plan.Numbered referred

namespace Follows

variable {n : Nat} {referred : List Nat} {x y x' y' : Except Fault (Plan Part)}
  {f g : Plan Part → Except Fault (Plan Part)}

theorem ok {a : Plan Part} (h : a.Numbered referred) :
    Follows n referred (.ok a) (.ok (a.renumbered n)) := by
  rintro plan ⟨⟩
  exact ⟨rfl, h⟩

theorem bind (h : Follows n referred x y)
    (hf : ∀ a, a.Numbered referred → Follows n referred (f a) (g (a.renumbered n))) :
    Follows n referred (x >>= f) (y >>= g) := by
  intro plan hplan
  obtain ⟨a, ha, hplan⟩ := bind_eq_ok.mp hplan
  obtain ⟨hy, hnumbered⟩ := h a ha
  obtain ⟨hg, hplan⟩ := hf a hnumbered plan hplan
  exact ⟨bind_eq_ok.mpr ⟨_, hy, hg⟩, hplan⟩

theorem map {k : Plan Part → Plan Part} (h : Follows n referred x y)
    (hk : ∀ a, a.Numbered referred →
      (k a).Numbered referred ∧ k (a.renumbered n) = (k a).renumbered n) :
    Follows n referred (x.map k) (y.map k) := by
  intro plan hplan
  obtain ⟨a, ha, rfl⟩ := map_eq_ok.mp hplan
  obtain ⟨hy, hnumbered⟩ := h a ha
  exact ⟨map_eq_ok.mpr ⟨_, hy, (hk a hnumbered).2⟩, (hk a hnumbered).1⟩

theorem ite {c : Prop} [Decidable c] (h : Follows n referred x y)
    (h' : Follows n referred x' y') :
    Follows n referred (if c then x else x') (if c then y else y') := by
  split
  · exact h
  · exact h'

end Follows

theorem mapM_cook_shift (n : Nat) {ts : List Tree} (h : ∀ t ∈ ts, t.Lettered) :
    (ts.map (.shift n)).mapM (Tree.cook 1 .none) =
      (ts.mapM (Tree.cook 1 .none)).map (·.map (.shift n)) := by
  induction ts with
  | nil => rfl
  | cons t ts ih =>
    obtain ⟨ht, hts⟩ := List.forall_mem_cons.mp h
    rw [List.map_cons, List.mapM_cons, List.mapM_cons, ih hts, Tree.cook_shift n ht]
    cases t.cook 1 .none with
    | error e => rfl
    | ok a => cases ts.mapM (Tree.cook 1 .none) <;> rfl

theorem planPart_shift (n : Nat) {ts : List Tree} (h : ∀ t ∈ ts, t.Lettered) :
    planPart (ts.map (.shift n)) = (planPart ts).map (.renumbered n) := by
  unfold planPart
  rw [mapM_cook_shift n h, List.isEmpty_map]
  split
  · rfl
  · cases ts.mapM (Tree.cook 1 .none) with
    | error e => rfl
    | ok asts =>
      have hgroups : (ts.map (.shift n)).flatMap Tree.groups =
          (ts.flatMap Tree.groups).map (· + n) := by
        rw [List.flatMap_map, List.map_flatMap]
        exact congrArg (ts.flatMap ·) (funext fun t => t.groups_shift n)
      simp only [bind, Except.bind, Except.map, ← Ast.shift_ofItems, partOfTrees_shift, hgroups]
      cases partOfTrees ts (.ofItems asts) <;> rfl

/-- Whether a tree can be left to regular patterns, whatever refers to groups. -/
def Tree.Easy (referred : List Nat) (t : Tree) : Prop :=
  t.Sound referred ∧ t.hard referred = false

theorem follows_planPart (n : Nat) {referred : List Nat} {ts : List Tree}
    (h : ∀ t ∈ ts, t.Easy referred) :
    Follows n referred (planPart ts) (planPart (ts.map (.shift n))) := by
  intro plan hplan
  refine ⟨by rw [planPart_shift n fun t ht => (h t ht).1.2, hplan]; rfl, ?_⟩
  unfold planPart at hplan
  split at hplan
  · cases hplan
    trivial
  · obtain ⟨asts, -, hplan⟩ := bind_eq_ok.mp hplan
    obtain ⟨part, -, hplan⟩ := bind_eq_ok.mp hplan
    cases hplan
    intro i hi
    obtain ⟨t, ht, hi⟩ := List.mem_flatMap.mp hi
    exact Tree.mem_groups_of_easy (h t ht).1.1 (h t ht).2 i hi

/-! ### How a tree is planned where it stands -/

namespace Tree

section Equations

variable (referred : List Nat) (a b t : Tree) (later : Bool) (waiting : List Tree)

theorem planAt_front (plan : Bool → Except Fault (Plan Part)) :
    t.planAt referred later plan (.front waiting) =
      if t.isFront referred then planPart (waiting ++ [t])
      else (planPart waiting).bind fun before =>
        (t.planAt referred later plan .middle).bind fun rest => .ok (.seq before rest) := by
  simp only [planAt, bind]
  split
  · rfl
  · split <;> rfl

theorem plan_middle_concat : (concat a b).plan referred .middle later =
    if (concat a b).isEnd referred later then planPart (concat a b).items
    else (a.plan referred .alone true).bind fun first =>
      (b.plan referred .middle later).bind fun rest => .ok (.seq first rest) := rfl

theorem plan_front_concat : (concat a b).plan referred (.front waiting) later =
    if a.isFront referred then b.plan referred (.front (waiting ++ [a])) later
    else (planPart waiting).bind fun before =>
      ((concat a b).plan referred .middle later).bind fun rest => .ok (.seq before rest) := by
  simp only [plan, bind]
  split
  · rfl
  · split <;> rfl

theorem plan_alone_concat : (concat a b).plan referred .alone later =
    if !later && !(concat a b).hard referred then planPart (concat a b).items
    else (concat a b).plan referred (.front []) later := rfl

theorem plan_behind_concat (negated : Bool) :
    (concat a b).plan referred (.behind negated) later =
      planBehind negated (concat a b) ((concat a b).plan referred .alone false) := rfl

theorem plan_branch : t.plan referred .branch true = t.plan referred .alone true := by
  cases t with
  | look direction negated t => cases direction <;> rfl
  | _ => rfl

end Equations

end Tree

/-! ### Plans of renumbered trees -/

/-- The same position with the numbers of the groups raised. -/
def Position.shift (n : Nat) : Position → Position
  | front waiting => front (waiting.map (.shift n))
  | position => position

/-- Whether what waits in front of a position can be left to regular patterns. -/
def Position.Easy (referred : List Nat) : Position → Prop
  | front waiting => ∀ t ∈ waiting, t.Easy referred
  | _ => True

namespace Tree

variable {n : Nat} {referred : List Nat} {t : Tree} {later : Bool} {position : Position}

theorem easy_append {ts : List Tree} (h : ∀ t ∈ ts, t.Easy referred) (ht : t.Easy referred) :
    ∀ x ∈ ts ++ [t], x.Easy referred :=
  List.forall_mem_append.mpr ⟨h, List.forall_mem_singleton.mpr ht⟩

theorem easy_of_isFront (ht : t.Sound referred) (h : t.isFront referred = true) :
    t.Easy referred := by
  simp only [isFront, Bool.and_eq_true, Bool.not_eq_true'] at h
  exact ⟨ht, h.2⟩

theorem easy_of_isEnd (ht : t.Sound referred) (h : t.isEnd referred later = true) :
    t.Easy referred := by
  simp only [isEnd, Bool.and_eq_true, Bool.not_eq_true'] at h
  exact ⟨ht, h.1⟩

theorem follows_one (n : Nat) (h : t.Easy referred) :
    Follows n referred (planPart [t]) (planPart [t.shift n]) :=
  follows_planPart n (List.forall_mem_singleton.mpr h)

theorem follows_items (n : Nat) (h : t.Easy referred) :
    Follows n referred (planPart t.items) (planPart (t.shift n).items) := by
  rw [items_shift]
  exact follows_planPart n fun x hx => ⟨h.1.items x hx, hard_items h.2 x hx⟩

theorem follows_cut {c : Bool} (hc : c = true → t.Easy referred)
    {x y : Except Fault (Plan Part)} (h : Follows n referred x y) :
    Follows n referred (if c then planPart [t] else x) (if c then planPart [t.shift n] else y) := by
  cases c with
  | true => exact follows_one n (hc rfl)
  | false => exact h

/-- A tree that is no sequence is planned where it stands as its own plan tells. -/
theorem follows_planAt {p : Position} {plan plan' : Bool → Except Fault (Plan Part)}
    (ht : t.Sound referred) (hp : p.Easy referred)
    (h : ∀ later, Follows n referred (plan later) (plan' later)) :
    Follows n referred (t.planAt referred later plan p)
      ((t.shift n).planAt (referred.map (raise n)) later plan' (p.shift n)) := by
  have halone (c : Bool) (later : Bool) : Follows n referred
      (if c && !t.hard referred then planPart [t] else plan later)
      (if c && !t.hard referred then planPart [t.shift n] else plan' later) :=
    follows_cut (fun hc => ⟨ht, by simp_all⟩) (h later)
  have hmiddle : Follows n referred (t.planAt referred later plan .middle)
      ((t.shift n).planAt (referred.map (raise n)) later plan' .middle) := by
    simpa only [planAt, isEnd_shift n ht.1] using follows_cut (easy_of_isEnd ht) (h true)
  cases p with
  | alone => simpa only [planAt, Position.shift, hard_shift n ht.1] using halone (!later) later
  | branch => simpa only [planAt, Position.shift, hard_shift n ht.1] using halone (!later) later
  | middle => exact hmiddle
  | front waiting =>
    rw [Position.shift, planAt_front, planAt_front, isFront_shift n ht.1]
    by_cases hfront : t.isFront referred = true
    · rw [if_pos hfront, if_pos hfront]
      have hparts := follows_planPart n (easy_append hp (easy_of_isFront ht hfront))
      rwa [List.map_append] at hparts
    · rw [if_neg hfront, if_neg hfront]
      exact (follows_planPart n hp).bind fun x hx =>
        hmiddle.bind fun y hy => .ok (a := .seq x y) ⟨hx, hy⟩
  | behind negated =>
    have hinner := halone true false
    rw [Bool.true_and] at hinner
    simp only [planAt, Position.shift, hard_shift n ht.1, planBehind, constSize_shift,
      minSize_shift]
    exact .ite (hinner.map fun a ha => ⟨ha, rfl⟩) (fun plan hplan => nomatch hplan)

/-- Planning a tree again with the numbers raised gives the same plan, wherever the tree stands. -/
def Replans (n : Nat) (referred : List Nat) (t : Tree) : Prop :=
  ∀ position later, position.Easy referred → Follows n referred (t.plan referred position later)
    ((t.shift n).plan (referred.map (raise n)) (position.shift n) later)

/-- A sequence is planned item by item. -/
theorem replans_concat {a b : Tree} (h : (concat a b).Sound referred) (ha : a.Replans n referred)
    (hb : b.Replans n referred) : (concat a b).Replans n referred := by
  obtain ⟨hsa, hsb⟩ := sound_concat.mp h
  have hmiddle (later : Bool) : Follows n referred ((concat a b).plan referred .middle later)
      (((concat a b).shift n).plan (referred.map (raise n)) .middle later) := by
    have hend := isEnd_shift n h.1 later
    rw [shift] at hend ⊢
    rw [plan_middle_concat, plan_middle_concat, hend]
    by_cases hcut : (concat a b).isEnd referred later = true
    · rw [if_pos hcut, if_pos hcut]
      exact follows_items n (easy_of_isEnd h hcut)
    · rw [if_neg hcut, if_neg hcut]
      exact (ha .alone true trivial).bind fun x hx =>
        (hb .middle later trivial).bind fun y hy => .ok (a := .seq x y) ⟨hx, hy⟩
  have hfront (later : Bool) (waiting : List Tree) (hwaiting : ∀ t ∈ waiting, t.Easy referred) :
      Follows n referred ((concat a b).plan referred (.front waiting) later)
        (((concat a b).shift n).plan (referred.map (raise n))
          (.front (waiting.map (.shift n))) later) := by
    rw [shift, plan_front_concat, plan_front_concat, isFront_shift n hsa.1]
    by_cases hcut : a.isFront referred = true
    · rw [if_pos hcut, if_pos hcut]
      have hrest := hb (.front (waiting ++ [a])) later
        (easy_append hwaiting (easy_of_isFront hsa hcut))
      rwa [Position.shift, List.map_append] at hrest
    · rw [if_neg hcut, if_neg hcut]
      exact (follows_planPart n hwaiting).bind fun x hx =>
        (hmiddle later).bind fun y hy => .ok (a := .seq x y) ⟨hx, hy⟩
  have halone (later : Bool) : Follows n referred ((concat a b).plan referred .alone later)
      (((concat a b).shift n).plan (referred.map (raise n)) .alone later) := by
    have hhard := hard_shift n h.1
    rw [shift] at hhard ⊢
    rw [plan_alone_concat, plan_alone_concat, hhard]
    by_cases hcut : (!later && !(concat a b).hard referred) = true
    · rw [if_pos hcut, if_pos hcut]
      exact follows_items n ⟨h, by simp_all⟩
    · rw [if_neg hcut, if_neg hcut]
      exact hfront later [] (List.forall_mem_nil _)
  intro position later hposition
  cases position with
  | alone => exact halone later
  | branch => exact halone later
  | middle => exact hmiddle later
  | front waiting => exact hfront later waiting hposition
  | behind negated =>
    have hconst := constSize_shift n (concat a b)
    have hsize := minSize_shift n (concat a b)
    change Follows n referred _ (((concat a b).shift n).plan _ (.behind negated) later)
    rw [shift] at hconst hsize ⊢
    rw [plan_behind_concat, plan_behind_concat, planBehind, planBehind, hconst, hsize]
    exact .ite ((halone false).map fun a ha => ⟨ha, rfl⟩) (fun plan hplan => nomatch hplan)

theorem replans_alternate {a b : Tree} (h : (alternate a b).Sound referred)
    (ha : a.Replans n referred) (hb : b.Replans n referred) :
    (alternate a b).Replans n referred := by
  have heach (later : Bool) : Follows n referred
      ((a.plan referred .alone later).bind fun x =>
        (b.plan referred .branch later).bind fun y => .ok (.choice x y))
      (((a.shift n).plan (referred.map (raise n)) .alone later).bind fun x =>
        ((b.shift n).plan (referred.map (raise n)) .branch later).bind fun y =>
          .ok (.choice x y)) :=
    (ha .alone later trivial).bind fun x hx =>
      (hb .branch later trivial).bind fun y hy => .ok (a := .choice x y) ⟨hx, hy⟩
  intro position later hposition
  cases position with
  | alone => exact follows_planAt (p := .alone) h trivial heach
  | middle => exact follows_planAt (p := .middle) h trivial heach
  | front waiting => exact follows_planAt (p := .front waiting) h hposition heach
  | branch => exact heach later
  | behind negated =>
    simp only [plan, shift, Position.shift, planBehind, constSize_shift, minSize_shift]
    have hrefused : Follows n referred (.error .lookBehindVaries) (.error .lookBehindVaries) := by
      intro plan hplan
      cases hplan
    refine Follows.bind (.ite ((ha .alone false trivial).map fun a ha => ⟨ha, rfl⟩) hrefused)
      fun x hx => (hb (.behind negated) false trivial).bind fun y hy => ?_
    cases negated with
    | true => exact .ok (a := .seq x y) ⟨hx, hy⟩
    | false => exact .ok (a := .choice x y) ⟨hx, hy⟩

/-- **Renumbering a tree renumbers its plan.** -/
theorem plan_shift (n : Nat) (h : t.Sound referred) : t.Replans n referred := by
  induction t with
  | concat a b iha ihb =>
    obtain ⟨ha, hb⟩ := sound_concat.mp h
    exact replans_concat h (iha ha) (ihb hb)
  | alternate a b iha ihb =>
    obtain ⟨ha, hb⟩ := sound_alternate.mp h
    exact replans_alternate h (iha ha) (ihb hb)
  | empty => exact fun position later hposition => follows_planAt h hposition fun _ => .ok trivial
  | any newline =>
    exact fun position later hposition => follows_planAt h hposition fun _ => follows_one n ⟨h, rfl⟩
  | literal c anyCase =>
    exact fun position later hposition => follows_planAt h hposition fun _ => follows_one n ⟨h, rfl⟩
  | fragment text anyCase =>
    exact fun position later hposition => follows_planAt h hposition fun _ => follows_one n ⟨h, rfl⟩
  | assertion l =>
    exact fun position later hposition =>
      follows_planAt h hposition fun _ => .ok (a := .look l) trivial
  | plain t ih =>
    have ih := ih ⟨h.1.2, h.2.2⟩
    exact fun position later hposition =>
      follows_planAt h hposition fun later => ih .alone later trivial
  | group i t ih =>
    obtain ⟨hi, ht⟩ := sound_group.mp h
    exact fun position later hposition => follows_planAt h hposition fun later =>
      (ih ht .alone later trivial).bind fun x hx => .ok (a := .capture i x) ⟨hi, hx⟩
  | look direction negated t ih =>
    have ih := ih ⟨h.1.2, h.2.2⟩
    have hahead (back : Nat) : Follows n referred
        ((t.plan referred .alone false).bind fun x => .ok (.around back negated x))
        (((t.shift n).plan (referred.map (raise n)) .alone false).bind fun x =>
          .ok (.around back negated x)) :=
      (ih .alone false trivial).bind fun x hx => .ok (a := .around back negated x) hx
    cases direction with
    | ahead =>
      exact fun position later hposition => follows_planAt h hposition fun later => hahead 0
    | behind =>
      intro position later hposition
      refine follows_planAt h hposition fun later => ?_
      rw [constSize_shift, minSize_shift]
      exact .ite (hahead t.minSize) (ih (.behind negated) false trivial)
  | repetition least most greedy t ih =>
    have ih := ih ⟨h.1.2, h.2.2⟩
    refine fun position later hposition => follows_planAt h hposition fun later => ?_
    refine .ite ((ih .alone later trivial).bind fun x hx => .ok (a := .upTo 1 greedy x) hx)
      ((ih .alone true trivial).bind fun x hx => ?_)
    cases most with
    | none => exact .ok (a := .seq (.times _ x) (.star greedy x)) ⟨hx, hx⟩
    | some most => exact .ok (a := .seq (.times _ x) (.upTo _ greedy x)) ⟨hx, hx⟩
  | atomic t ih =>
    have ih := ih ⟨h.1.2, h.2.2⟩
    exact fun position later hposition => follows_planAt h hposition fun later =>
      (ih .alone false trivial).bind fun x hx => .ok (a := .atomic x) hx
  | backref i =>
    exact fun position later hposition =>
      follows_planAt h hposition fun _ => .ok (a := .backref i) h.1
  | groupTest i =>
    exact fun position later hposition =>
      follows_planAt h hposition fun _ => .ok (a := .groupTest i) h.1
  | conditional c yes no ihc ihy ihn =>
    have ihc := ihc ⟨h.1.2.1, h.2.2.1⟩
    have ihy := ihy ⟨h.1.2.2.1, h.2.2.2.1⟩
    have ihn := ihn ⟨h.1.2.2.2, h.2.2.2.2⟩
    exact fun position later hposition => follows_planAt h hposition fun later =>
      (ihc .alone later trivial).bind fun x hx => (ihy .alone later trivial).bind fun y hy =>
        (ihn .alone later trivial).bind fun z hz =>
          .ok (a := .conditional x y z) ⟨hx, hy, hz⟩
  | keepOut =>
    exact fun position later hposition =>
      follows_planAt h hposition fun _ => .ok (a := .keepOut) trivial
  | contiguous =>
    exact fun position later hposition =>
      follows_planAt h hposition fun _ => .ok (a := .contiguous) trivial

end Tree

end Verbal.Extended
