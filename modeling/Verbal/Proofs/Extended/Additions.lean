import Verbal.Proofs.Extended.Chains
import Verbal.Proofs.Extended.Covering

/-!
# What another alternative adds

Another alternative adds texts to those that an extended pattern covers and takes none away, as long
as the references move with the groups. What was written stands in a group that is opened in front
of all others, and the alternative in one that is opened behind them.

* `Tree.plan_former`, `Tree.cook_former`: what was written covers in its group what it did.
* `Tree.cooks_latter`, `Tree.covers_of_plan_latter`: another alternative covers itself.
* **`covers_of_anchors`**: what a pattern covers, its body covers.
* **`exists_both`**: with another alternative it covers that one, and all that its body covered.
-/

namespace Verbal.Extended

open Verbal.Regular (Ast Chain Look Regex IsAlphanumText)

/-! ## What was written -/

namespace Plan

variable {referred : List Nat} {plan a b : Plan Part} {text : List Char}

/-- In a group in front of which nothing was opened, a plan leads through the same texts. -/
theorem Covers.capture (hnumbered : plan.Numbered referred) (h : plan.Covers text) :
    (Plan.capture 1 (plan.renumbered 1)).Covers text := by
  obtain ⟨w, hw, hplace⟩ := h
  have hstart : State.Alike 1 referred ⟨0, []⟩ (State.mark ⟨0, []⟩ (2 * 1)) := by
    refine ⟨rfl, fun i _ k hk => ?_⟩
    rw [State.slot?_mark, if_neg]
    · rfl
    · unfold raise
      split_ifs <;> omega
  have hways := ways_shift ⟨text.toArray, 0, true⟩ (n := 1) (numbered_tabulated hnumbered text)
  rw [← tabulated_renumbered] at hways
  obtain ⟨w', hw', hww⟩ := hways.exists_of_mem hstart hw
  exact ⟨w'.mark (2 * 1 + 1), List.mem_map_of_mem hw', hww.place.trans hplace⟩

theorem Covers.behind_start (h : plan.Covers text) :
    (Plan.seq (.part (.look .startText) []) plan).Covers text := by
  obtain ⟨w, hw, hplace⟩ := h
  have hstart : Look.startText.HoldsAt text 0 := (Look.holdsAt_startText (Nat.zero_le _)).mpr rfl
  exact ⟨w, List.mem_flatMap.mpr
    ⟨⟨0, []⟩, mem_waysOn_look.mpr ⟨rfl, Nat.zero_le _, hstart⟩, hw⟩, hplace⟩

theorem Covers.choice_left (h : a.Covers text) : (Plan.choice a b).Covers text :=
  let ⟨w, hw, hplace⟩ := h
  ⟨w, List.mem_append_left _ hw, hplace⟩

theorem Covers.choice_right (h : b.Covers text) : (Plan.choice a b).Covers text :=
  let ⟨w, hw, hplace⟩ := h
  ⟨w, List.mem_append_right _ hw, hplace⟩

end Plan

section Former

variable {anyCase : Bool} {referred : List Nat} {t : Tree} {text : List Char}

namespace Tree

/-- What was written, in a group behind its anchor. -/
def former (start : Bool) (t : Tree) : Tree := ofItems (startTrees start ++ [.group 1 (t.shift 1)])

/-- The group in front is none of those that are referred to. -/
theorem hard_former (h : t.Numbered referred) (start : Bool) :
    (t.former start).hard (referred.map (raise 1)) = t.hard referred := by
  have hone : (referred.map (raise 1)).contains 1 = false := by
    rw [← Bool.not_eq_true, List.contains_iff_mem, List.mem_map]
    rintro ⟨i, -, hi⟩
    unfold raise at hi
    split at hi <;> omega
  have hgroup : (group 1 (t.shift 1)).hard (referred.map (raise 1)) = t.hard referred := by
    rw [hard, hard_shift 1 h, hone, Bool.or_false]
  cases start with
  | false => exact hgroup
  | true => exact hgroup

/-- What was written is planned in its group, and covers what it did. -/
theorem plan_former {plan : Plan Part} (h : t.Sound referred) (hhard : t.hard referred = true)
    (hplan : t.plan referred .alone true = .ok plan) (start : Bool) :
    ∃ plan', (t.former start).plan (referred.map (raise 1)) .alone true = .ok plan' ∧
      ∀ text, plan.Covers text → plan'.Covers text := by
  obtain ⟨hshift, hnumbered⟩ := plan_shift 1 h .alone true trivial plan hplan
  have hgroup : (group 1 (t.shift 1)).plan (referred.map (raise 1)) .alone true =
      .ok (.capture 1 (plan.renumbered 1)) := bind_eq_ok.mpr ⟨_, hshift, rfl⟩
  cases start with
  | false => exact ⟨_, hgroup, fun text hs => hs.capture hnumbered⟩
  | true =>
    have hhard : (group 1 (t.shift 1)).hard (referred.map (raise 1)) = true :=
      (hard_former h.1 false).trans hhard
    have hmiddle : (group 1 (t.shift 1)).plan (referred.map (raise 1)) .middle true =
        .ok (.capture 1 (plan.renumbered 1)) := by
      rw [← hgroup]
      exact if_neg (by simp [isEnd, hhard])
    refine ⟨_, ?_, fun text hs => (hs.capture hnumbered).behind_start⟩
    calc
      _ = (group 1 (t.shift 1)).plan (referred.map (raise 1))
            (.front [.assertion .startText]) true := plan_concat_of_front rfl _
      _ = (planPart [.assertion .startText]).bind fun before =>
            ((group 1 (t.shift 1)).plan (referred.map (raise 1)) .middle true).bind fun rest =>
              .ok (.seq before rest) := by
          refine plan_front_of_not fun x hx => ?_
          obtain rfl := Option.some.inj hx
          simp [isFront, hhard]
      _ = _ := by rw [hmiddle]; rfl

/-- What was written is made into its group, and covers what it did. -/
theorem cook_former {a : Ast} {r : Regex} {flags : Regular.Flags} (h : t.Lettered)
    (ha : t.cook 0 .none = .ok a) (hr : a.regex (.initial anyCase) = .ok (r, flags))
    (start : Bool) : ∃ a' r', (t.former start).cook 1 .none = .ok a' ∧
      a'.regex (.initial anyCase) = .ok (r', .initial anyCase) ∧
      ∀ text, r.Covers text → r'.Covers text := by
  obtain ⟨r', hr', hcovers⟩ := Regular.regex_former hr start
  refine ⟨_, r', ?_, hr', hcovers⟩
  have hgroup (binding : Nat) (chain : Chain) : (group 1 (t.shift 1)).cook binding chain =
      .ok (.group (.capture 1) (a.shift 1)) := by
    rw [cook_group, cook_shift 1 h, ha]
    rfl
  cases start with
  | false => exact hgroup 1 .none
  | true =>
    change (concat (.assertion .startText) (group 1 (t.shift 1))).cook 1 .none = _
    rw [cook_concat, hgroup]
    rfl

theorem lettered_shift (h : t.Lettered) (n : Nat) : (t.shift n).Lettered := by
  induction t with
  | concat a b iha ihb => exact ⟨trivial, iha h.2.1, ihb h.2.2⟩
  | alternate a b iha ihb => exact ⟨trivial, iha h.2.1, ihb h.2.2⟩
  | plain t ih => exact ⟨trivial, ih h.2⟩
  | group i t ih => exact ⟨trivial, ih h.2⟩
  | look direction negated t ih => exact ⟨trivial, ih h.2⟩
  | repetition least most greedy t ih => exact ⟨trivial, ih h.2⟩
  | atomic t ih => exact ⟨trivial, ih h.2⟩
  | conditional c yes no ihc ihy ihn =>
    exact ⟨trivial, ihc h.2.1, ihy h.2.2.1, ihn h.2.2.2⟩
  | fragment text anyCase => exact h
  | _ => trivial

theorem lettered_former (h : t.Lettered) (start : Bool) : (t.former start).Lettered := by
  have hgroup : (group 1 (t.shift 1)).Lettered := ⟨trivial, lettered_shift h 1⟩
  cases start with
  | false => exact hgroup
  | true => exact ⟨trivial, trivial, hgroup⟩

end Tree

end Former

/-! ## The alternative -/

section Latter

variable {anyCase b : Bool} {k : Nat} {referred : List Nat} {value : List Char} {post : List Tree}
  {plan : Plan Part}

/-- Whether trees are anchors behind a pattern. -/
def IsStop (post : List Tree) : Prop :=
  ∀ t ∈ post, t = .assertion .endText ∨ t = .assertion .endLine

namespace Tree

/-- The letters of another alternative, in a group in front of its anchor. -/
def latter (k : Nat) (b : Bool) (value : List Char) (post : List Tree) : List Tree :=
  .group k (ofItems (value.map (.literal · b))).enclosed :: post

/-- A letter stands for itself, and if case is ignored for its variants. -/
theorem cooks_letter (anyCase b : Bool) (c : Char) :
    (Tree.literal c b).Cooks anyCase 1 (.ofText (b || anyCase) [c]) := by
  cases b with
  | false => exact (cooks_literal anyCase c).mono (Nat.le_succ 0)
  | true =>
    exact cooks_of_cook (a := .group (.plain [(.anyCase, true)]) (.ofChar c)) rfl (fun _ _ => rfl)
      ⟨rfl, Nat.le_refl 1⟩ nofun nofun

theorem forall₂_cooks_letters (anyCase b : Bool) (value : List Char) :
    List.Forall₂ (Cooks anyCase 1) (value.map (.literal · b))
      (value.map fun c => .ofText (b || anyCase) [c]) := by
  rw [List.forall₂_map_left_iff, List.forall₂_map_right_iff, List.forall₂_same]
  exact fun c _ => cooks_letter anyCase b c

theorem cooks_letters (anyCase b : Bool) (value : List Char) :
    (ofItems (value.map (.literal · b))).Cooks anyCase 3 (.ofText (b || anyCase) value) :=
  cooks_ofItems (forall₂_cooks_letters anyCase b value)

/-- The end of a line, which is looked for across lines. -/
theorem cooks_endLine (anyCase : Bool) :
    (Tree.assertion .endLine).Cooks anyCase 1 (.look .endLine) := by
  refine cooks_of_cook
    (a := .group (.plain [(.multiLine, true)]) (.primitive (.assertion .endLine))) rfl
    (fun _ _ => rfl) ⟨rfl, Nat.le_refl 1⟩ ?_ ?_
  · intro h
    cases h
  · intro h
    cases h

/-- Anchors behind a pattern hold at the end of the text. -/
theorem cooks_stop (anyCase : Bool) (h : IsStop post) :
    ∃ rs, List.Forall₂ (Cooks anyCase 1) post rs ∧
      ∀ text, (Regex.sequence rs).Spans text text.length text.length := by
  induction post with
  | nil => exact ⟨[], .nil, fun text => rfl⟩
  | cons t post ih =>
    obtain ⟨ht, hpost⟩ := List.forall_mem_cons.mp h
    obtain ⟨rs, hrs, hspans⟩ := ih hpost
    have hone (l : Look) (hl : t.Cooks anyCase 1 (.look l))
        (hholds : ∀ text, l.HoldsAt text text.length) :
        ∃ rs, List.Forall₂ (Cooks anyCase 1) (t :: post) rs ∧
          ∀ text, (Regex.sequence rs).Spans text text.length text.length :=
      ⟨.look l :: rs, .cons hl hrs, fun text =>
        (Regex.spans_sequence_cons _).mpr ⟨text.length, ⟨rfl, hholds text⟩, hspans text⟩⟩
    rcases ht with rfl | rfl
    · exact hone .endText ((cooks_look anyCase).2.mono (Nat.le_succ 0)) fun text => by
        simp [Look.HoldsAt, Look.holds]
    · exact hone .endLine (cooks_endLine anyCase) fun text => by simp [Look.HoldsAt, Look.holds]

/-- **Another alternative covers itself.** -/
theorem cooks_latter (anyCase b : Bool) (k : Nat) (hpost : IsStop post)
    (hvalue : ∀ c ∈ value, c.isAlphanum = true) :
    ∃ rs, List.Forall₂ (Cooks anyCase 4) (latter k b value post) rs ∧
      (Regex.sequence rs).Covers value := by
  obtain ⟨rs, hrs, hspans⟩ := cooks_stop anyCase hpost
  have hgroup := (cooks_letters anyCase b value).enclosed.group k
  refine ⟨_ :: rs, .cons hgroup (hrs.imp fun _ _ h => h.mono (by decide)), ?_⟩
  exact (Regex.spans_sequence_cons _).mpr
    ⟨value.length, Regex.covers_ofText (b || anyCase) hvalue, hspans value⟩

theorem Fixed.enclosed {t : Tree} (h : t.Fixed referred) : t.enclosed.Fixed referred := by
  have hplain : (plain t).Fixed referred :=
    ⟨⟨⟨⟨trivial, h.easy.1.1⟩, trivial, h.easy.1.2⟩, h.easy.2⟩, h.const⟩
  cases t <;> first | exact h | exact hplain

theorem fixed_literal (b : Bool) (c : Char) : (literal c b).Fixed referred :=
  ⟨⟨⟨trivial, trivial⟩, rfl⟩, rfl⟩

/-- All of it can be matched as one. -/
theorem fixed_latter (b : Bool) (value : List Char) (hk : 0 < k) (hreferred : k ∉ referred)
    (hpost : IsStop post) :
    ∀ t ∈ latter k b value post, t.Fixed referred := by
  have hletters : (ofItems (value.map (.literal · b))).enclosed.Fixed referred :=
    (fixed_ofItems (List.forall_mem_map.mpr fun c _ => fixed_literal b c)).enclosed
  refine List.forall_mem_cons.mpr ⟨⟨⟨?_, ?_⟩, hletters.const⟩, fun t ht => ?_⟩
  · exact sound_group.mpr ⟨hk, hletters.easy.1⟩
  · exact Bool.or_eq_false_iff.mpr ⟨hletters.easy.2, by simpa using hreferred⟩
  · rcases hpost t ht with rfl | rfl <;> exact fixed_assertion rfl

theorem isItem_latter (hpost : IsStop post) : ∀ t ∈ latter k b value post, t.IsItem := by
  refine List.forall_mem_cons.mpr ⟨rfl, fun t ht => ?_⟩
  rcases hpost t ht with rfl | rfl <;> rfl

/-! ### Planning it -/

/-- Regular patterns are made of the trees of a part. -/
theorem exists_asts {anyCase : Bool} {ts : List Tree} {rs : List Regex} {n : Nat}
    (h : List.Forall₂ (Cooks anyCase n) ts rs) :
    ∃ asts, ts.mapM (cook 1 .none) = .ok asts ∧
      List.Forall₂ (Ast.Denotes anyCase n) asts rs := by
  induction h with
  | nil => exact ⟨[], rfl, .nil⟩
  | cons h _ ih =>
    obtain ⟨a, ha, hdenotes⟩ := h.cook 1 .none
    obtain ⟨asts, hasts, hall⟩ := ih
    refine ⟨a :: asts, ?_, .cons hdenotes hall⟩
    rw [List.mapM_cons, ha, hasts]
    rfl

/-- Trees that regular patterns are made of are planned as one part, unless it is too large. Letters
alone never are. -/
theorem planPart_of_cooks {ts : List Tree} {rs : List Regex} {n : Nat}
    (h : List.Forall₂ (Cooks false n) ts rs) (hn : n + 1 ≤ Regular.nestingLimit) (hne : ts ≠ []) :
    planPart ts =
      if ts.all isLiteral ∨ (Regex.sequence rs).size ≤ Regular.sizeLimit then
        .ok (.part ((Regex.sequence rs).unroll none) (ts.flatMap groups))
      else .error .partTooLarge := by
  obtain ⟨asts, hasts, hall⟩ := exists_asts h
  have hdenotes := Ast.denotes_ofItems hall
  have hpart : partOfTrees ts (.ofItems asts) =
      if ts.all isLiteral ∨ (Regex.sequence rs).size ≤ Regular.sizeLimit then
        .ok ((Regex.sequence rs).unroll none)
      else .error .partTooLarge := by
    unfold partOfTrees
    rw [hdenotes.regex, partOf_of_denotes hdenotes hn]
    cases ts.all isLiteral <;> simp
  unfold planPart
  rw [if_neg (by simpa using hne), hasts]
  change (partOfTrees ts (.ofItems asts)).bind (fun part =>
    Except.ok (Plan.part part (ts.flatMap groups))) = _
  rw [hpart]
  split <;> rfl

/-- Only its size is against a part that regular patterns are made of. -/
theorem eq_of_planPart_eq_error {ts : List Tree} {rs : List Regex} {n : Nat}
    (h : List.Forall₂ (Cooks false n) ts rs) (hn : n + 1 ≤ Regular.nestingLimit) {fault : Fault}
    (hplan : planPart ts = .error fault) : fault = .partTooLarge := by
  by_cases hne : ts = []
  · subst hne
    cases hplan
  · rw [planPart_of_cooks h hn hne] at hplan
    split at hplan
    · cases hplan
    · exact (Except.error.inj hplan).symm

/-- Items that can all be matched as one are, and are not cut. -/
theorem plan_alone_of_fixed {ts : List Tree} (h : ∀ t ∈ ts, t.Fixed referred)
    (hitems : ∀ t ∈ ts, t.IsItem) (hlength : 1 < ts.length) :
    (ofItems ts).plan referred .alone true = planPart ts := by
  have hne : ts ≠ [] := List.ne_nil_of_length_pos (Nat.lt_of_succ_lt hlength)
  have hfront : (ofItems ts).plan referred .alone true =
      (ofItems ts).plan referred (.front []) true := plan_alone_front isAnchor_nil hne hlength
  rw [hfront, plan_front_of_fixed (fixed_ofItems h), List.nil_append, items_ofItems hitems hne]

theorem plan_letters (b : Bool) (value : List Char) :
    (ofItems (value.map (.literal · b))).plan referred .alone true =
      planPart (value.map (.literal · b)) := by
  match value with
  | [] => rfl
  | [c] => rfl
  | c :: c' :: value =>
    exact plan_alone_of_fixed (List.forall_mem_map.mpr fun c _ => fixed_literal b c)
      (List.forall_mem_map.mpr fun c _ => rfl) (by simp)

/-- Only its size is against another alternative. -/
theorem eq_of_plan_latter_eq_error (hk : 0 < k) (hreferred : k ∉ referred) (hpost : IsStop post)
    (hvalue : ∀ c ∈ value, c.isAlphanum = true) {fault : Fault}
    (h : (ofItems (latter k b value post)).plan referred .alone true = .error fault) :
    fault = .partTooLarge := by
  cases post with
  | nil =>
    rcases bind_eq_error.mp h with h | ⟨plan, -, h⟩
    · rw [plan_enclosed, plan_letters] at h
      exact eq_of_planPart_eq_error (forall₂_cooks_letters false b value) (by decide) h
    · cases h
  | cons t post =>
    obtain ⟨rs, hcooks, -⟩ := cooks_latter false b k hpost hvalue
    rw [plan_alone_of_fixed (fixed_latter _ _ hk hreferred hpost) (isItem_latter hpost)
      (by simp [latter])] at h
    exact eq_of_planPart_eq_error hcooks (by decide) h

/-- What trees are made into is what they stand for. -/
theorem Cooks.regex {t : Tree} {r : Regex} {n : Nat} (h : t.Cooks anyCase n r)
    (hlettered : t.Lettered) : t.regex? (.initial anyCase) = some r := by
  obtain ⟨a, ha, hdenotes⟩ := h.cook 0 .none
  exact ((cook_regex hlettered ha _ _ _).mp hdenotes.regex).1

/-- What is planned of another alternative covers it. -/
theorem covers_of_plan_latter (hk : 0 < k) (hreferred : k ∉ referred) (hpost : IsStop post)
    (hvalue : ∀ c ∈ value, c.isAlphanum = true)
    (h : (ofItems (latter k b value post)).plan referred .alone true = .ok plan) :
    plan.Covers value := by
  obtain ⟨rs, hcooks, hcovers⟩ := cooks_latter false b k hpost hvalue
  have hfixed := fixed_ofItems (fixed_latter b value hk hreferred hpost)
  exact (serves_plan hfixed h ((cooks_ofItems hcooks).regex hfixed.easy.1.2)).covers hcovers

end Tree

end Latter

/-! ## Both -/

section Both

variable {anyCase b start : Bool} {k : Nat} {referred : List Nat}
  {names names' : List (List Char × Nat)} {t : Tree} {body p value : List Char} {post : List Tree}
  {program : Program}

/-- What was written and another alternative. -/
def Tree.both (start : Bool) (t : Tree) (k : Nat) (b : Bool) (value : List Char)
    (post : List Tree) : Tree :=
  .alternate (t.former start) (.ofItems (latter k b value post))

namespace Tree

theorem lettered_both (h : t.Lettered) (hk : 0 < k) (hreferred : k ∉ referred)
    (hpost : IsStop post) : (t.both start k b value post).Lettered :=
  ⟨trivial, lettered_former h start, (fixed_ofItems (fixed_latter _ _ hk hreferred hpost)).easy.1.2⟩

theorem hard_both (start b : Bool) (value : List Char) (ht : t.Numbered referred) (hk : 0 < k)
    (hreferred : k ∉ referred.map (raise 1)) (hpost : IsStop post) :
    (t.both start k b value post).hard (referred.map (raise 1)) = t.hard referred := by
  have heasy := (fixed_ofItems (fixed_latter b value hk hreferred hpost)).easy.2
  rw [both, hard, hard_former ht, heasy, Bool.or_false]

/-- Both are planned if what was written is, unless the other alternative is too large. -/
theorem plan_both (start b : Bool) {plan : Plan Part} (ht : t.Sound referred)
    (hhard : t.hard referred = true) (hplan : t.plan referred .alone true = .ok plan) (hk : 0 < k)
    (hreferred : k ∉ referred.map (raise 1)) (hpost : IsStop post)
    (hvalue : ∀ c ∈ value, c.isAlphanum = true)
    (hsize : (t.both start k b value post).plan (referred.map (raise 1)) .alone true ≠
      .error .partTooLarge) :
    ∃ plan', (t.both start k b value post).plan (referred.map (raise 1)) .alone true =
        .ok plan' ∧ plan'.Covers value ∧ ∀ text, plan.Covers text → plan'.Covers text := by
  obtain ⟨former, hformer, hcovers⟩ := plan_former ht hhard hplan start
  unfold both at hsize ⊢
  rw [plan_alone_alternate, hformer] at hsize ⊢
  cases hlatter : (ofItems (latter k b value post)).plan (referred.map (raise 1)) .alone true with
  | error fault =>
    obtain rfl := eq_of_plan_latter_eq_error hk hreferred hpost hvalue hlatter
    rw [hlatter] at hsize
    exact absurd rfl hsize
  | ok plan' =>
    exact ⟨_, rfl, (covers_of_plan_latter hk hreferred hpost hvalue hlatter).choice_right,
      fun text hs => (hcovers text hs).choice_left⟩

/-- Both are made into a regular pattern if what was written is. -/
theorem cook_both (start b : Bool) (k : Nat) {a : Ast} {r : Regex} {flags : Regular.Flags}
    (h : t.Lettered) (ha : t.cook 0 .none = .ok a)
    (hr : a.regex (.initial anyCase) = .ok (r, flags)) (hpost : IsStop post)
    (hvalue : ∀ c ∈ value, c.isAlphanum = true) :
    ∃ a' r', (t.both start k b value post).cook 0 .none = .ok a' ∧
      a'.regex (.initial anyCase) = .ok (r', .initial anyCase) ∧ r'.Covers value ∧
      ∀ text, r.Covers text → r'.Covers text := by
  obtain ⟨former, rf, hformer, hrf, hcovers⟩ := cook_former h ha hr start
  obtain ⟨rs, hcooks, hcoversValue⟩ := cooks_latter anyCase b k hpost hvalue
  obtain ⟨latter, hlatter, hdenotes⟩ := (cooks_ofItems hcooks).cook 1 .alternate
  refine ⟨.alternate former latter, .alternate rf (.sequence rs), ?_,
    Ast.regex_alternate_eq_ok.mpr ⟨_, _, _, hrf, hdenotes.regex, rfl⟩, Or.inr hcoversValue,
    fun text hs => Or.inl (hcovers text hs)⟩
  rw [both, cook_alternate, hformer, hlatter]
  rfl

end Tree

/-- **Another alternative compiles**, and covers itself and all that was covered. -/
theorem compile_both (hbody : Source.read body = .ok ⟨t, referred, names⟩)
    (h : Program.compile anyCase body = .ok program) (ht : t.Sound referred)
    (hread : Source.read p =
      .ok ⟨t.both start k b value post, referred.map (raise 1), names'⟩)
    (hlimits : WithinLimits anyCase p) (hk : 0 < k) (hreferred : k ∉ referred.map (raise 1))
    (hpost : IsStop post) (hvalue : ∀ c ∈ value, c.isAlphanum = true) :
    (∃ program, Program.compile anyCase p = .ok program) ∧
      (t.both start k b value post).Covers anyCase (referred.map (raise 1)) value ∧
      ∀ text, t.Covers anyCase referred text →
        (t.both start k b value post).Covers anyCase (referred.map (raise 1)) text := by
  have hcompile := @compile_of_read anyCase _ _ hread
  have hlarge : Program.compile anyCase p ≠ .error .partTooLarge :=
    fun herror => (hlimits.faults _ herror).2 rfl
  have hhard := Tree.hard_both start b value ht.1 hk hreferred hpost
  rw [compile_of_read hbody] at h
  cases hcut : t.hard referred with
  | true =>
    rw [hcut] at hhard
    rw [if_pos hcut] at h
    rw [if_pos hhard] at hcompile
    obtain ⟨plan, hplan, rfl⟩ := map_eq_ok.mp h
    obtain ⟨plan', hplan', hvalueCovers, hcovers⟩ := Tree.plan_both start b ht
      hcut hplan hk hreferred hpost hvalue fun hsize => hlarge (by rw [hcompile, hsize]; rfl)
    refine ⟨⟨_, by rw [hcompile, hplan']; rfl⟩, ?_, fun text hs => ?_⟩
    · exact (Tree.covers_iff_plan hhard).mpr ⟨_, hplan', hvalueCovers⟩
    · obtain ⟨_, hx, hs⟩ := (Tree.covers_iff_plan hcut).mp hs
      cases hplan.symm.trans hx
      exact (Tree.covers_iff_plan hhard).mpr ⟨_, hplan', hcovers text hs⟩
  | false =>
    rw [hcut] at hhard
    rw [if_neg (Bool.eq_false_iff.mp hcut)] at h
    rw [if_neg (Bool.eq_false_iff.mp hhard)] at hcompile
    obtain ⟨a, ha, h⟩ := bind_eq_ok.mp h
    obtain ⟨part, hpart, rfl⟩ := map_eq_ok.mp h
    obtain ⟨r, flags, hr⟩ := regex_of_partOf hpart
    obtain ⟨a', r', ha', hr', hvalueCovers, hcovers⟩ :=
      Tree.cook_both start b k ht.2 ha hr hpost hvalue
    have hregex := ((Tree.cook_regex (Tree.lettered_both ht.2 hk hreferred hpost) ha' _ _ _).mp
      hr').1
    refine ⟨?_, (Tree.covers_iff_regex hhard).mpr ⟨r', hregex, hvalueCovers⟩, fun text hs => ?_⟩
    · rw [ha'] at hcompile
      rcases partOf_of_regex (hlimits.depth _ a' hread hhard ha') hr' with ⟨part', hpart'⟩ | hsize
      · exact ⟨⟨.easy part', names'⟩, by rw [hcompile]; simp [Except.bind, Except.map, hpart']⟩
      · exact absurd (by rw [hcompile]; simp [Except.bind, Except.map, hsize]) hlarge
    · obtain ⟨_, hx, hs⟩ := (Tree.covers_iff_regex hcut).mp hs
      cases ((Tree.cook_regex ht.2 ha _ _ _).mp hr).1.symm.trans hx
      exact (Tree.covers_iff_regex hhard).mpr ⟨r', hregex, hcovers text hs⟩

end Both

/-! ## Reading patterns -/

section Reading

variable {anyCase start stop : Bool} {body p value text : List Char} {d : Draft}
  {program : Program}

/-- Whether a body of a pattern keeps its meaning when a group is opened in front of it: its
references move with the groups, and regular patterns read a letter or a class wherever they are
left to. -/
structure Movable (body : List Char) : Prop where
  moves : MovesWithGroups body
  lettered : ∀ source, Source.read body = .ok source → source.tree.Lettered

theorem Tree.lettered_of_around {t t' : Tree} {referred : List Nat} (h : Around referred t t') :
    t.Lettered := by
  obtain ⟨pre, items, post, hpre, hpost, hitems, rfl, rfl⟩ := h
  refine all_ofItems trivial (fun _ _ => trivial) ?_
  simp only [List.forall_mem_append]
  have hanchor {ts : List Tree} (h : IsAnchor ts) : ∀ t ∈ ts, t.Lettered := fun t ht =>
    ((h.fixed t ht : t.Fixed referred).easy.1.2 :)
  exact ⟨hanchor hpre, fun t ht => (hitems t ht).2.2, hanchor hpost⟩

/-- What has been read of a body that is accepted on its own. -/
structure Draft.Reads (d : Draft) (body : List Char) : Prop where
  read : readAll (.start body) body = .ok d
  levels : d.levels = []
  unopened : d.unopened = false
  source : Source.read body = .ok ⟨d.body, d.referred, d.scope.names⟩

theorem exists_reads (h : Program.compile anyCase body = .ok program) :
    ∃ d : Draft, d.Reads body := by
  obtain ⟨source, hsource⟩ := exists_source_of_compile h
  obtain ⟨d, hread, hlevels, -, hunopened, rfl⟩ := read_eq_ok.mp hsource
  exact ⟨d, hread, hlevels, hunopened, hsource⟩

theorem numbersBesideNames_iff (h : readAll (.start p) p = .ok d) :
    NumbersBesideNames p ↔ d.numbered = true ∧ d.scope.names ≠ [] := by
  constructor
  · rintro ⟨d', hd', hmixed⟩
    cases h.symm.trans hd'
    exact hmixed
  · exact fun hmixed => ⟨d, h, hmixed⟩

/-- The groups that are referred to were opened in front of those of another alternative. -/
theorem not_mem_referred (hd : d.Reads body) :
    d.scope.groups + 2 ∉ d.referred.map (raise 1) := by
  have hopened := (readAll_tidy (.start body) hd.read).opened hd.unopened
  rw [List.mem_map]
  rintro ⟨i, hi, hraise⟩
  have hle := hopened i hi
  unfold raise at hraise
  split at hraise <;> omega

theorem isStop_stopTrees (d : Draft) (stop : Bool) : IsStop (d.stopTrees stop) := by
  cases stop with
  | false => exact List.forall_mem_nil _
  | true =>
    refine List.forall_mem_singleton.mpr ?_
    cases d.flags.multiLine
    · exact Or.inl rfl
    · exact Or.inr rfl

/-- **What a pattern with anchors around it covers**, its body covers. -/
theorem covers_of_anchors (hbody : Program.compile anyCase body = .ok program)
    (hd : d.Reads body) (hmovable : Movable body) (hhash : '#' ∉ body)
    (hp : p = (openingText start false).toList ++ (body ++ (closingText stop false).toList))
    {source : Source} (hread : Source.read p = .ok source) :
    source.tree.Lettered ∧ (NumbersBesideNames p ↔ NumbersBesideNames body) ∧
      ∀ text, source.tree.Covers anyCase source.referred text →
        d.body.Covers anyCase d.referred text := by
  obtain ⟨e, he, -, -, -, rfl⟩ := read_eq_ok.mp hread
  have hlettered := hmovable.lettered _ hd.source
  obtain ⟨⟨hnumbered, hreferred, hnames⟩, ts, ts', hts, hts', haround⟩ :=
    body_anchors hd.read hd.levels hhash hlettered start stop hp he
  refine ⟨?_, ?_, fun text hs => ?_⟩
  · rw [hts]
    refine Tree.all_ofBranches trivial (fun _ _ => trivial) fun t ht => ?_
    obtain ⟨i, hi, rfl⟩ := List.mem_iff_getElem.mp ht
    exact Tree.lettered_of_around (haround.get hi (haround.length_eq ▸ hi))
  · rw [numbersBesideNames_iff he, numbersBesideNames_iff hd.read, hnumbered, hnames]
  · rw [hts, hreferred] at hs
    rw [hts']
    refine Tree.covers_of_around haround (fun hhard => ?_) hs
    rw [← hts'] at hhard ⊢
    rw [compile_of_read hd.source, if_pos hhard] at hbody
    obtain ⟨plan, hplan, -⟩ := map_eq_ok.mp hbody
    exact ⟨plan, hplan⟩

/-- How a pattern is read with another alternative. -/
theorem read_both (hd : d.Reads body) (hmoves : MovesWithGroups body)
    (hunmixed : ¬NumbersBesideNames body) (hhash : '#' ∉ body)
    (hvalue : ∀ c ∈ value, c.isAlphanum = true)
    (hp : p = alternativeText start stop body value) :
    Source.read p = .error .nestingTooDeep ∨ ¬NumbersBesideNames p ∧ ∃ names,
      Source.read p = .ok ⟨d.body.both start (d.scope.groups + 2) d.flags.anyCase value
        (d.stopTrees stop), d.referred.map (raise 1), names⟩ := by
  rw [numbersBesideNames_iff hd.read] at hunmixed
  rcases readAll_alternative hd.read hmoves hd.levels hunmixed hhash hvalue start stop hp with
    hdeep | ⟨e, he, helevels, heunopened, henumbered, hereferred, henames, hebody⟩
  · exact Or.inl (by unfold Source.read; rw [hdeep]; rfl)
  · have hunmixed' : ¬(e.numbered = true ∧ e.scope.names ≠ []) := by
      rw [henumbered, henames]
      simpa using hunmixed
    refine Or.inr ⟨mt (numbersBesideNames_iff he).mp hunmixed', e.scope.names, read_eq_ok.mpr
      ⟨e, he, helevels, checkEnd_of_names hunmixed', heunopened.trans hd.unopened, ?_⟩⟩
    rw [hebody, hereferred]
    rfl

/-- **Another alternative only adds texts**: the pattern compiles, and covers the alternative and
all that its body covered. -/
theorem exists_both (hbody : Program.compile anyCase body = .ok program) (hd : d.Reads body)
    (hmovable : Movable body) (hunmixed : ¬NumbersBesideNames body) (hhash : '#' ∉ body)
    (hvalue : ∀ c ∈ value, c.isAlphanum = true) (hp : p = alternativeText start stop body value)
    (hlimits : WithinLimits anyCase p) :
    ¬NumbersBesideNames p ∧ (∃ program, Program.compile anyCase p = .ok program) ∧
      ∃ source, Source.read p = .ok source ∧ source.tree.Lettered ∧
        source.tree.Covers anyCase source.referred value ∧
        ∀ text, d.body.Covers anyCase d.referred text →
          source.tree.Covers anyCase source.referred text := by
  rcases read_both hd hmovable.moves hunmixed hhash hvalue hp with
    hdeep | ⟨hunmixed', names, hread⟩
  · exact absurd rfl (hlimits.faults _ (compile_of_read_error hdeep)).1
  · have hsound : d.body.Sound d.referred :=
      ⟨(readAll_tidy (.start body) hd.read).body, hmovable.lettered _ hd.source⟩
    have hpos : 0 < d.scope.groups + 2 := Nat.succ_pos _
    have hstop := isStop_stopTrees d stop
    obtain ⟨hcompile, hcovers⟩ := compile_both hd.source hbody hsound hread hlimits hpos
      (not_mem_referred hd) hstop hvalue
    exact ⟨hunmixed', hcompile, _, hread,
      Tree.lettered_both hsound.2 hpos (not_mem_referred hd) hstop, hcovers⟩

end Reading

end Verbal.Extended
