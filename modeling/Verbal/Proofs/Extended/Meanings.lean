import Verbal.Proofs.Extended.Alike

/-!
# What easy trees stand for

`Tree.regex?` tells what an easy tree stands for under the flags of a regular pattern. It is read off
the tree itself, so it does not depend on the groups that a place asks for when the tree is made into
a regular pattern.

* **`Tree.cook_regex`**: the regular pattern that is made of a tree stands for it.
* **`Tree.spans_constSize`**: a tree of constant size reads as many characters as it says.
* `regex_of_planPart`: what trees that are matched as one are matched by.
-/

namespace Verbal.Extended

open Verbal.Regular (Ast Chain Look Regex Repetition Rounds Switches rounds_one)

namespace Tree

/-- What an easy tree stands for under the flags of a regular pattern. -/
def regex? (flags : Regular.Flags) : Tree → Option Regex
  | empty => some .empty
  | any newline =>
    ((flags.apply (if newline then [(.dotAll, true)] else [])).dot.map .letter).toOption
  | literal c anyCase =>
    (((flags.apply (caseSwitch anyCase)).letter ⟨c, false⟩).map .letter).toOption
  | fragment text anyCase =>
    match Regular.Source.read text with
    | .ok source => ((source.ast.regex (flags.apply (caseSwitch anyCase))).map Prod.fst).toOption
    | .error _ => none
  | assertion .startText => some (.look (flags.look .startLine))
  | assertion .endText => some (.look (flags.look .endLine))
  | assertion .startLine => some (.look ((flags.apply [(.multiLine, true)]).look .startLine))
  | assertion .endLine => some (.look ((flags.apply [(.multiLine, true)]).look .endLine))
  | concat a b => do return .concat (← a.regex? flags) (← b.regex? flags)
  | alternate a b => do return .alternate (← a.regex? flags) (← b.regex? flags)
  | plain t => t.regex? flags
  | group i t => (t.regex? flags).map (.group i)
  | repetition least most greedy t =>
    (t.regex? flags).map (.repeated ⟨least, most⟩ ((!greedy) == flags.swapGreed))
  | _ => none

theorem regex_fragment (flags : Regular.Flags) (text : List Char) (anyCase : Bool) :
    (fragment text anyCase).regex? flags =
      match Regular.Source.read text with
      | .ok source =>
        ((source.ast.regex (flags.apply (caseSwitch anyCase))).map Prod.fst).toOption
      | .error _ => none := rfl

end Tree

/-- Whether a regular pattern stands for what is told of every choice of flags, and leaves the flags
alone. -/
def Gives (a : Ast) (f : Regular.Flags → Option Regex) : Prop :=
  ∀ flags r flags', a.regex flags = .ok (r, flags') ↔ f flags = some r ∧ flags' = flags

section Gives

variable {a b : Ast} {f g : Regular.Flags → Option Regex}

theorem Gives.group (h : Gives a f) (switches : Switches) :
    Gives (.group (.plain switches) a) fun flags => f (flags.apply switches) := by
  intro flags r flags'
  simp only [Ast.regex, bind, pure, Except.pure]
  rw [bind_eq_ok]
  constructor
  · rintro ⟨⟨r', flags₁⟩, hr, heq⟩
    cases heq
    exact ⟨((h _ _ _).mp hr).1, rfl⟩
  · rintro ⟨hr, rfl⟩
    exact ⟨_, (h _ _ _).mpr ⟨hr, rfl⟩, rfl⟩

theorem Gives.grouped (h : Gives a f) (needed : Bool) : Gives (Tree.grouped needed a) f := by
  cases needed with
  | false => exact h
  | true => exact h.group []

theorem Gives.switched (h : Gives a f) (switches : Switches) :
    Gives (Tree.switched switches a) fun flags => f (flags.apply switches) := by
  cases switches with
  | nil => exact h
  | cons switch switches => exact h.group _

theorem Gives.concat (ha : Gives a f) (hb : Gives b g) :
    Gives (.concat a b) fun flags => do return .concat (← f flags) (← g flags) := by
  intro flags r flags'
  rw [Ast.regex_concat_eq_ok]
  simp only [ha _ _ _, hb _ _ _, bind, Option.bind_eq_some_iff]
  constructor
  · rintro ⟨ra, flags₁, rb, ⟨hra, rfl⟩, ⟨hrb, rfl⟩, rfl⟩
    exact ⟨⟨ra, hra, rb, hrb, rfl⟩, rfl⟩
  · rintro ⟨⟨ra, hra, rb, hrb, heq⟩, rfl⟩
    cases heq
    exact ⟨ra, _, rb, ⟨hra, rfl⟩, ⟨hrb, rfl⟩, rfl⟩

theorem Gives.alternate (ha : Gives a f) (hb : Gives b g) :
    Gives (.alternate a b) fun flags => do return .alternate (← f flags) (← g flags) := by
  intro flags r flags'
  rw [Ast.regex_alternate_eq_ok]
  simp only [ha _ _ _, hb _ _ _, bind, Option.bind_eq_some_iff]
  constructor
  · rintro ⟨ra, flags₁, rb, ⟨hra, rfl⟩, ⟨hrb, rfl⟩, rfl⟩
    exact ⟨⟨ra, hra, rb, hrb, rfl⟩, rfl⟩
  · rintro ⟨⟨ra, hra, rb, hrb, heq⟩, rfl⟩
    cases heq
    exact ⟨ra, _, rb, ⟨hra, rfl⟩, ⟨hrb, rfl⟩, rfl⟩

theorem Gives.capture (h : Gives a f) (i : Nat) :
    Gives (.group (.capture i) a) fun flags => (f flags).map (.group i) := by
  intro flags r flags'
  simp only [Ast.regex, bind, pure, Except.pure]
  rw [bind_eq_ok, Option.map_eq_some_iff]
  constructor
  · rintro ⟨⟨r', flags₁⟩, hr, heq⟩
    cases heq
    exact ⟨⟨r', ((h _ _ _).mp hr).1, rfl⟩, rfl⟩
  · rintro ⟨⟨r', hr, rfl⟩, rfl⟩
    exact ⟨_, (h _ _ _).mpr ⟨hr, rfl⟩, rfl⟩

theorem Gives.repetition (h : Gives a f) (count : Repetition) (reluctant : Bool) :
    Gives (.repetition count reluctant a) fun flags =>
      (f flags).map (.repeated count (reluctant == flags.swapGreed)) := by
  intro flags r flags'
  simp only [Ast.regex, bind, pure, Except.pure]
  rw [bind_eq_ok, Option.map_eq_some_iff]
  constructor
  · rintro ⟨⟨r', flags₁⟩, hr, heq⟩
    cases heq
    obtain ⟨hr, rfl⟩ := (h _ _ _).mp hr
    exact ⟨⟨r', hr, rfl⟩, rfl⟩
  · rintro ⟨⟨r', hr, rfl⟩, rfl⟩
    exact ⟨_, (h _ _ _).mpr ⟨hr, rfl⟩, rfl⟩

theorem gives_primitive (p : Regular.Primitive) :
    Gives (.primitive p) fun flags => (p.regex flags).toOption := by
  intro flags r flags'
  rw [toOption_eq_some]
  simp only [Ast.regex]
  rw [map_eq_ok]
  constructor
  · rintro ⟨r', hr, heq⟩
    cases heq
    exact ⟨hr, rfl⟩
  · rintro ⟨hr, rfl⟩
    exact ⟨_, hr, rfl⟩

theorem gives_letter (h : a.isLetter = true) :
    Gives a fun flags => ((a.regex flags).map Prod.fst).toOption := by
  intro flags r flags'
  rw [toOption_eq_some, map_eq_ok]
  constructor
  · intro hr
    exact ⟨⟨_, hr, rfl⟩, (Ast.regex_of_isLetter h hr).1⟩
  · rintro ⟨⟨⟨r', flags₁⟩, hr, rfl⟩, rfl⟩
    obtain ⟨rfl, -⟩ := Ast.regex_of_isLetter h hr
    exact hr

end Gives

namespace Tree

variable {t : Tree} {referred : List Nat} {flags : Regular.Flags} {r : Regex}

/-- **The regular pattern that is made of a tree stands for it**, wherever the tree stands. -/
theorem cook_regex (h : t.Lettered) {binding : Nat} {chain : Chain} {a : Ast}
    (ha : t.cook binding chain = .ok a) : Gives a fun flags => t.regex? flags := by
  induction t generalizing binding chain a with
  | empty =>
    cases ha
    intro flags r flags'
    simp only [Ast.regex]
    constructor
    · rintro ⟨⟩
      exact ⟨rfl, rfl⟩
    · rintro ⟨⟨⟩, rfl⟩
      rfl
  | any newline =>
    cases ha
    exact (gives_primitive .dot).switched _
  | literal c anyCase =>
    cases ha
    exact (gives_primitive (.letter ⟨c, false⟩)).switched _
  | fragment text anyCase =>
    have hletter : readsLetter text = true := h
    rw [cook_fragment] at ha
    unfold readsLetter at hletter
    cases hread : Regular.Source.read text with
    | error e => rw [hread] at ha; cases ha
    | ok source =>
      rw [hread] at ha hletter
      cases ha
      have hgives := (gives_letter hletter).switched (caseSwitch anyCase)
      simpa only [regex_fragment, hread] using hgives
  | assertion l =>
    cases l with
    | startText => cases ha; exact gives_primitive (.assertion .startLine)
    | endText => cases ha; exact gives_primitive (.assertion .endLine)
    | startLine => cases ha; exact (gives_primitive (.assertion .startLine)).switched _
    | endLine => cases ha; exact (gives_primitive (.assertion .endLine)).switched _
    | _ => cases ha
  | concat a b iha ihb =>
    rw [cook_concat] at ha
    obtain ⟨a', ha', ha⟩ := bind_eq_ok.mp ha
    obtain ⟨b', hb', ha⟩ := bind_eq_ok.mp ha
    cases ha
    exact ((iha h.2.1 ha').concat (ihb h.2.2 hb')).grouped _
  | alternate a b iha ihb =>
    rw [cook_alternate] at ha
    obtain ⟨a', ha', ha⟩ := bind_eq_ok.mp ha
    obtain ⟨b', hb', ha⟩ := bind_eq_ok.mp ha
    cases ha
    exact ((iha h.2.1 ha').alternate (ihb h.2.2 hb')).grouped _
  | plain t ih => exact ih h.2 ha
  | group i t ih =>
    rw [cook_group] at ha
    obtain ⟨a', ha', ha⟩ := bind_eq_ok.mp ha
    cases ha
    exact (ih h.2 ha').capture i
  | repetition least most greedy t ih =>
    rw [cook_repetition] at ha
    obtain ⟨a', ha', ha⟩ := bind_eq_ok.mp ha
    obtain ⟨count, hcount, ha⟩ := bind_eq_ok.mp ha
    cases ha
    unfold countOf at hcount
    split at hcount
    · cases hcount
      exact ((ih h.2 ha').repetition _ _).grouped _
    · cases hcount
  | _ => cases ha

end Tree

/-! ## Constant size -/

section Width

variable {text : List Char} {a r : Regex} {i j n : Nat}

theorem eq_of_onlyEmpty (h : r.onlyEmpty = true) (hs : r.Spans text i j) : i = j := by
  induction r generalizing i j with
  | empty => exact hs
  | letter set => cases h
  | look l => exact hs.1
  | concat a b iha ihb =>
    obtain ⟨ha, hb⟩ := Bool.and_eq_true_iff.mp h
    obtain ⟨k, hik, hkj⟩ := hs
    exact (iha ha hik).trans (ihb hb hkj)
  | alternate a b iha ihb =>
    obtain ⟨ha, hb⟩ := Bool.and_eq_true_iff.mp h
    exact hs.elim (iha ha) (ihb hb)
  | repetition count greedy a ih =>
    obtain ⟨n, -, hr⟩ := hs
    exact hr.keeps (P := (i = ·)) (fun hs hi => hi.trans (ih h hs)) rfl
  | group index a ih => exact ih h hs

/-- A count that is exact is that many rounds, in its simplest form as well. -/
theorem spans_repeated_exact {greedy : Bool} :
    (Regex.repeated ⟨n, some n⟩ greedy a).Spans text i j ↔ Rounds (a.Spans text) n i j := by
  have hallows (n m : Nat) : (⟨n, some n⟩ : Repetition).Allows m ↔ m = n := by
    unfold Repetition.Allows
    simp only [Option.some.injEq, forall_eq', Nat.max_self]
    omega
  have hexact (n : Nat) :
      (if (⟨n, some n⟩ : Repetition) = ⟨0, some 0⟩ then Regex.empty
        else if (⟨n, some n⟩ : Repetition) = ⟨1, some 1⟩ then a
        else .repetition ⟨n, some n⟩ greedy a).Spans text i j ↔ Rounds (a.Spans text) n i j := by
    match n with
    | 0 => exact Iff.rfl
    | 1 => exact rounds_one.symm
    | n + 2 =>
      rw [if_neg (by simp), if_neg (by simp)]
      simp only [Regex.Spans, hallows, exists_eq_left]
  unfold Regex.repeated
  cases hempty : a.onlyEmpty with
  | false => exact hexact n
  | true =>
    -- what reads nothing is done once at most, and then as often as one likes
    have hself : ∀ m, a.Spans text i i → Rounds (a.Spans text) m i i := by
      intro m hs
      induction m with
      | zero => rfl
      | succ m ih => exact ⟨i, hs, ih⟩
    refine Iff.trans (hexact (min n 1)) ?_
    match n with
    | 0 => exact Iff.rfl
    | 1 => exact Iff.rfl
    | n + 2 =>
      constructor
      · intro h
        obtain rfl := eq_of_onlyEmpty hempty (rounds_one.mp h)
        exact hself _ (rounds_one.mp h)
      · rintro ⟨k, hs, hr⟩
        obtain rfl := eq_of_onlyEmpty hempty hs
        obtain rfl : i = j := hr.keeps (P := (i = ·))
          (fun hs hi => hi.trans (eq_of_onlyEmpty hempty hs)) rfl
        exact rounds_one.mpr hs

theorem eq_add_of_rounds {step : Nat → Nat → Prop} {w : Nat} (h : ∀ i j, step i j → j = i + w)
    (hr : Rounds step n i j) : j = i + w * n := by
  induction n generalizing i with
  | zero => exact hr.symm
  | succ n ih =>
    obtain ⟨k, hs, hr⟩ := hr
    rw [ih hr, h i k hs, Nat.mul_succ, Nat.add_assoc, Nat.add_comm w]

theorem eq_succ_of_letter {x : Except Regular.Fault Verbal.Unicode.CharSet}
    (hr : (x.map Regex.letter).toOption = some r) (hs : r.Spans text i j) : j = i + 1 := by
  obtain ⟨set, -, rfl⟩ := map_eq_ok.mp (toOption_eq_some.mp hr)
  exact hs.1

namespace Tree

/-- **A tree of constant size reads as many characters as it says.** -/
theorem spans_constSize {t : Tree} {flags : Regular.Flags} (h : t.Lettered)
    (hconst : t.constSize = true) (hr : t.regex? flags = some r) (hs : r.Spans text i j) :
    j = i + t.minSize := by
  induction t generalizing r i j with
  | empty =>
    cases hr
    exact hs.symm
  | any newline => exact eq_succ_of_letter hr hs
  | literal c anyCase => exact eq_succ_of_letter hr hs
  | fragment text anyCase =>
    have hread : readsLetter text = true := h
    unfold readsLetter at hread
    rw [regex_fragment] at hr
    split at hr
    · rename_i source hsource
      rw [hsource] at hread
      obtain ⟨⟨r', flags'⟩, hr', rfl⟩ := map_eq_ok.mp (toOption_eq_some.mp hr)
      obtain ⟨-, set, rfl⟩ := Ast.regex_of_isLetter hread hr'
      exact hs.1
    · cases hr
  | assertion l =>
    cases l <;> first | (cases hr; exact hs.1.symm) | cases hr
  | concat a b iha ihb =>
    obtain ⟨ha, hb⟩ := Bool.and_eq_true_iff.mp hconst
    obtain ⟨ra, hra, hr⟩ := Option.bind_eq_some_iff.mp hr
    obtain ⟨rb, hrb, hr⟩ := Option.bind_eq_some_iff.mp hr
    cases hr
    obtain ⟨k, hik, hkj⟩ := hs
    rw [ihb h.2.2 hb hrb hkj, iha h.2.1 ha hra hik, minSize, Nat.add_assoc]
  | alternate a b iha ihb =>
    obtain ⟨hab, hsize⟩ := Bool.and_eq_true_iff.mp hconst
    obtain ⟨ha, hb⟩ := Bool.and_eq_true_iff.mp hab
    have hsize : a.minSize = b.minSize := beq_iff_eq.mp hsize
    obtain ⟨ra, hra, hr⟩ := Option.bind_eq_some_iff.mp hr
    obtain ⟨rb, hrb, hr⟩ := Option.bind_eq_some_iff.mp hr
    cases hr
    rw [minSize, hsize, Nat.min_self]
    rcases hs with hs | hs
    · rw [iha h.2.1 ha hra hs, hsize]
    · exact ihb h.2.2 hb hrb hs
  | plain t ih => exact ih h.2 hconst hr hs
  | group k t ih =>
    obtain ⟨r', hr', rfl⟩ := Option.map_eq_some_iff.mp hr
    exact ih h.2 hconst hr' hs
  | repetition least most greedy t ih =>
    obtain ⟨ht, hmost⟩ := Bool.and_eq_true_iff.mp hconst
    obtain rfl : most = some least := beq_iff_eq.mp hmost
    obtain ⟨r', hr', rfl⟩ := Option.map_eq_some_iff.mp hr
    exact eq_add_of_rounds (fun i j hs => ih h.2 ht hr' hs) (spans_repeated_exact.mp hs)
  | _ => cases hr

end Tree

end Width

/-! ## Sequences and alternatives -/

namespace Tree

variable {flags : Regular.Flags} {t a b : Tree} {r : Regex}

/-- What trees stand for, one by one. -/
abbrev Stand (flags : Regular.Flags) : List Tree → List Regex → Prop :=
  List.Forall₂ fun t r => t.regex? flags = some r

theorem stand_append {ts ts' : List Tree} {rs : List Regex} (h : Stand flags (ts ++ ts') rs) :
    ∃ rs₁ rs₂, Stand flags ts rs₁ ∧ Stand flags ts' rs₂ ∧ rs = rs₁ ++ rs₂ := by
  induction ts generalizing rs with
  | nil => exact ⟨[], rs, .nil, h, rfl⟩
  | cons t ts ih =>
    cases h with
    | cons hr hrs =>
      obtain ⟨rs₁, rs₂, h₁, h₂, rfl⟩ := ih hrs
      exact ⟨_ :: rs₁, rs₂, .cons hr h₁, h₂, rfl⟩

theorem regex_concat : (concat a b).regex? flags = some r ↔
    ∃ ra rb, a.regex? flags = some ra ∧ b.regex? flags = some rb ∧ r = .concat ra rb := by
  change ((a.regex? flags).bind fun ra => (b.regex? flags).bind fun rb =>
    some (Regex.concat ra rb)) = some r ↔ _
  simp only [Option.bind_eq_some_iff]
  exact exists_congr fun ra => ⟨fun ⟨ha, rb, hb, h⟩ => ⟨rb, ha, hb, (Option.some.inj h).symm⟩,
    fun ⟨rb, ha, hb, h⟩ => ⟨ha, rb, hb, congrArg some h.symm⟩⟩

theorem regex_alternate : (alternate a b).regex? flags = some r ↔
    ∃ ra rb, a.regex? flags = some ra ∧ b.regex? flags = some rb ∧ r = .alternate ra rb := by
  change ((a.regex? flags).bind fun ra => (b.regex? flags).bind fun rb =>
    some (Regex.alternate ra rb)) = some r ↔ _
  simp only [Option.bind_eq_some_iff]
  exact exists_congr fun ra => ⟨fun ⟨ha, rb, hb, h⟩ => ⟨rb, ha, hb, (Option.some.inj h).symm⟩,
    fun ⟨rb, ha, hb, h⟩ => ⟨ha, rb, hb, congrArg some h.symm⟩⟩

theorem regex_ofItems {ts : List Tree} : (ofItems ts).regex? flags = some r ↔
    ∃ rs, Stand flags ts rs ∧ r = .sequence rs := by
  induction ts generalizing r with
  | nil =>
    constructor
    · exact fun h => ⟨[], .nil, (Option.some.inj h).symm⟩
    · rintro ⟨rs, h, rfl⟩
      cases h
      rfl
  | cons t ts ih =>
    cases ts with
    | nil =>
      constructor
      · exact fun h => ⟨[r], .cons h .nil, rfl⟩
      · rintro ⟨rs, h, rfl⟩
        cases h with
        | cons h hnil =>
          cases hnil
          exact h
    | cons t' ts =>
      rw [show ofItems (t :: t' :: ts) = concat t (ofItems (t' :: ts)) from rfl, regex_concat]
      simp only [ih]
      constructor
      · rintro ⟨r, _, hr, ⟨rs, hrs, rfl⟩, rfl⟩
        cases hrs with
        | cons hr' hrs => exact ⟨_ :: _ :: _, .cons hr (.cons hr' hrs), rfl⟩
      · rintro ⟨rs, h, rfl⟩
        cases h with
        | cons hr hrs =>
          cases hrs with
          | cons hr' hrs => exact ⟨_, _, hr, ⟨_, .cons hr' hrs, rfl⟩, rfl⟩

theorem ofItems_items (t : Tree) : ofItems t.items = t := by
  induction t with
  | concat a b _ ihb =>
    have hne : b.items ≠ [] := by cases b <;> exact List.cons_ne_nil _ _
    obtain ⟨x, xs, hx⟩ := List.exists_cons_of_ne_nil hne
    rw [items, hx]
    rw [hx] at ihb
    exact congrArg (concat a) ihb
  | _ => rfl

end Tree

/-! ## Parts -/

section Parts

variable {ts : List Tree}

/-- The items of a part, made into regular patterns, stand for the sequence of them. -/
theorem gives_items {asts : List Ast} (h : ∀ t ∈ ts, t.Lettered)
    (hasts : ts.mapM (Tree.cook 1 .none) = .ok asts) :
    Gives (.ofItems asts) fun flags => (Tree.ofItems ts).regex? flags := by
  induction ts generalizing asts with
  | nil =>
    cases hasts
    have hempty : Tree.empty.cook 0 .none = .ok (.ofItems []) := rfl
    exact Tree.cook_regex (t := .empty) trivial hempty
  | cons t ts ih =>
    obtain ⟨ht, hts⟩ := List.forall_mem_cons.mp h
    rw [List.mapM_cons] at hasts
    obtain ⟨a, ha, hasts⟩ := bind_eq_ok.mp hasts
    obtain ⟨as, has, hasts⟩ := bind_eq_ok.mp hasts
    cases hasts
    have hrest := ih hts has
    cases ts with
    | nil =>
      cases has
      exact Tree.cook_regex ht ha
    | cons t' ts =>
      rw [List.mapM_cons] at has
      obtain ⟨a', ha', has⟩ := bind_eq_ok.mp has
      obtain ⟨as', has', has⟩ := bind_eq_ok.mp has
      cases has
      exact (Tree.cook_regex ht ha).concat hrest

theorem partOf_eq_ok {anyCase : Bool} {a : Ast} {part : Part} :
    partOf anyCase a = .ok part ↔ a.depth .none ≤ Regular.nestingLimit ∧
      ∃ r flags, a.regex (.initial anyCase) = .ok (r, flags) ∧
        r.size ≤ Regular.sizeLimit ∧ part = r.unroll none := by
  unfold partOf
  by_cases hdepth : a.depth .none ≤ Regular.nestingLimit
  · rw [if_neg (Nat.not_lt.mpr hdepth)]
    cases hr : a.regex (.initial anyCase) with
    | error e => simp
    | ok x =>
      by_cases hsize : x.1.size ≤ Regular.sizeLimit <;>
        simp [Regular.Regex.compile, hsize, hdepth, Prod.ext_iff, eq_comm]
  · rw [if_pos (Nat.lt_of_not_le hdepth)]
    simp [hdepth]

theorem regex_of_partOfTrees {a : Ast} {part : Part} (h : partOfTrees ts a = .ok part) :
    ∃ r flags, a.regex (.initial false) = .ok (r, flags) ∧ part = r.unroll none := by
  unfold partOfTrees at h
  split at h
  · cases hr : a.regex (.initial false) with
    | error e =>
      rw [hr] at h
      cases h
    | ok x =>
      rw [hr] at h
      exact ⟨x.1, x.2, rfl, (Except.ok.inj h).symm⟩
  · obtain ⟨-, r, flags, hr, -, hpart⟩ := partOf_eq_ok.mp h
    exact ⟨r, flags, hr, hpart⟩

/-- What is matched as one is what the items stand for. -/
theorem regex_of_planPart {plan : Plan Part} (h : ∀ t ∈ ts, t.Lettered) (hne : ts ≠ [])
    (hplan : planPart ts = .ok plan) : ∃ r,
      (Tree.ofItems ts).regex? (.initial false) = some r ∧
        plan = .part (r.unroll none) (ts.flatMap Tree.groups) := by
  unfold planPart at hplan
  rw [if_neg (by simpa using hne)] at hplan
  obtain ⟨asts, hasts, hplan⟩ := bind_eq_ok.mp hplan
  obtain ⟨part, hpart, hplan⟩ := bind_eq_ok.mp hplan
  cases hplan
  obtain ⟨r, flags, hr, rfl⟩ := regex_of_partOfTrees hpart
  exact ⟨r, ((gives_items h hasts _ _ _).mp hr).1, rfl⟩

end Parts

end Verbal.Extended
