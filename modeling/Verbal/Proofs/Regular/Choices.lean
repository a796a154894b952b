import Verbal.Proofs.Language
import Verbal.Proofs.Regular.Trails

/-!
# Which alternative is found, and what it marks

The sweep does not mix alternatives: what is found of them is what it finds of the first one of
which it finds anything. If an alternative is a group, with assertions around it at most and without
a group inside, the only marks on its way are those of the group, where the match begins and ends.

* **`found_choice`**: of several expressions the first one is found that can match from there.
* **`marks_of_found`**: a single group is marked as the whole match.
-/

namespace Verbal.Regular

open Verbal.Unicode

/-! ## Alternatives -/

section Alternatives

/-- Where one may go on, the best way through alternatives is that through the first one, if there
is one. -/
theorem Split.value_alternate (a b : Split) (t : Trail) :
    (a.alternate b).value (some t) = (a.value (some t)).or (b.value (some t)) := by
  obtain ⟨early, skip, late⟩ := a
  cases skip with
  | none => simp [alternate, value, reading, along, Option.or_assoc]
  | some ms => cases early <;> simp [alternate, value, along]

/-- Outside of loops, another alternative leads nowhere. -/
theorem Around.left_outermost (next : Option Trail) (b : Split) :
    (outermost next).left b = outermost next := rfl

theorem Around.right_outermost (t : Trail) (a : Split) :
    (outermost (some t)).right a = outermost (some t) := rfl

/-- Whether what a column knows of alternatives is what two others know of them. -/
structure Column.Alternates (x y column : Column) : Prop where
  values : column.values = x.values.alternate y.values
  found (i : Nat) : column.found[i]?.join = x.found[i]?.join.or y.found[i]?.join

theorem Column.Alternates.back {x y column : Column} (h : x.Alternates y column)
    (cursor : Cursor) : (x.back cursor).Alternates (y.back cursor) (column.back cursor) where
  values := by
    simp only [Column.back, h.values, Skeleton.sweep, Around.left_outermost,
      Around.right_outermost]
  found i := by
    cases i with
    | zero => simp [Column.back, h.values, Skeleton.sweep, Split.value_alternate]
    | succ i => simpa [Column.back] using h.found i

/-- What is found of two alternatives. -/
theorem found_alternate (a b : Skeleton (Option Trail)) (text : List Char) (i : Nat) :
    ((a.alternate b).found text)[i]?.join = (a.found text)[i]?.join.or (b.found text)[i]?.join := by
  have hfold (cs : List Cursor) : (cs.foldr Column.back ⟨a, []⟩).Alternates
      (cs.foldr Column.back ⟨b, []⟩) (cs.foldr Column.back ⟨a.alternate b, []⟩) := by
    induction cs with
    | nil => exact ⟨rfl, fun _ => rfl⟩
    | cons cursor cs ih => exact ih.back cursor
  exact (hfold _).found i

/-- **Of several expressions the first one is found of which anything is.** -/
theorem found_choice {rs : List Regex} (hne : rs ≠ []) (text : List Char) (i : Nat) :
    (((Regex.choice rs).unroll none).found text)[i]?.join =
      rs.findSome? fun r => ((r.unroll none).found text)[i]?.join := by
  match rs with
  | [] => exact absurd rfl hne
  | [r] => simp [Regex.choice]
  | r :: r' :: rs =>
    have ih := found_choice (List.cons_ne_nil r' rs) text i
    have hchoice : Regex.choice (r :: r' :: rs) = .alternate r (.choice (r' :: rs)) := rfl
    rw [hchoice, Regex.unroll, found_alternate, ih, List.findSome?_cons (a := r)]
    cases ((r.unroll none).found text)[i]?.join <;> rfl

end Alternatives

/-! ## Groups -/

/-- The numbers of the groups of an expression, from left to right. -/
def Regex.groups : Regex → List Nat
  | empty => []
  | letter _ => []
  | look _ => []
  | concat a b => a.groups ++ b.groups
  | alternate a b => a.groups ++ b.groups
  | repetition _ _ a => a.groups
  | group index a => index :: a.groups

/-- Whether an expression is a group of that number without another one inside, with assertions
around it. -/
inductive Regex.Framed (index : Nat) : Regex → Prop
  | group {a : Regex} (h : a.groups = []) : Framed index (.group index a)
  | after (l : Look) {a : Regex} (h : Framed index a) : Framed index (.concat (.look l) a)
  | before (l : Look) {a : Regex} (h : Framed index a) : Framed index (.concat a (.look l))

namespace Skeleton

/-- Whether there is no group, and the ways that the letters carry have a property. -/
def Ungrouped (P : Trail → Prop) : Skeleton (Option Trail) → Prop
  | empty => True
  | letter _ value => ∀ t ∈ value, P t
  | look _ => True
  | concat a b => a.Ungrouped P ∧ b.Ungrouped P
  | alternate a b => a.Ungrouped P ∧ b.Ungrouped P
  | plus _ a => a.Ungrouped P
  | group _ _ => False

theorem ungrouped_unroll {r : Regex} (h : r.groups = []) (P : Trail → Prop) :
    (r.unroll none).Ungrouped P := by
  induction r with
  | empty => trivial
  | letter set => exact nofun
  | look l => trivial
  | concat a b iha ihb =>
    obtain ⟨ha, hb⟩ := List.append_eq_nil_iff.mp h
    exact ⟨iha ha, ihb hb⟩
  | alternate a b iha ihb =>
    obtain ⟨ha, hb⟩ := List.append_eq_nil_iff.mp h
    exact ⟨iha ha, ihb hb⟩
  | repetition count greedy a ih =>
    exact rounds_closed (P := Ungrouped P) trivial (fun _ _ ha hb => ⟨ha, hb⟩)
      (fun _ _ ha hb => ⟨ha, hb⟩) (fun _ _ ha => ha) count greedy (ih h)
  | group index a ih => cases h

end Skeleton

/-! ### Ways without marks -/

section Ungrouped

variable {P Q : Trail → Prop}

theorem forall_mem_none {α : Type} {P : α → Prop} : ∀ x ∈ (none : Option α), P x := nofun

theorem forall_mem_or {a b : Option Trail} (ha : ∀ t ∈ a, P t) (hb : ∀ t ∈ b, P t) :
    ∀ t ∈ a.or b, P t := by
  cases a with
  | none => exact hb
  | some t => exact ha

theorem forall_mem_along {marks : Option (List Mark)} {trail : Option Trail}
    (h : ∀ ms ∈ marks, ∀ t ∈ trail, P ⟨t.stop, ms ++ t.marks⟩) : ∀ t ∈ along marks trail, P t := by
  cases marks with
  | none => exact nofun
  | some ms =>
    cases trail with
    | none => exact nofun
    | some t =>
      rintro _ ⟨⟩
      exact h ms rfl t rfl

theorem forall_mem_join {a b : Option (List Mark)} {P : List Mark → Prop}
    (h : ∀ ms ∈ a, ∀ ns ∈ b, P (ms ++ ns)) : ∀ ms ∈ join a b, P ms := by
  cases a with
  | none => exact nofun
  | some ms =>
    cases b with
    | none => exact nofun
    | some ns =>
      rintro _ ⟨⟩
      exact h ms rfl ns rfl

theorem forall_mem_some_nil : ∀ ms ∈ some ([] : List Mark), ms = [] :=
  fun _ hms => (Option.some.inj hms).symm

/-- Nothing is marked on the way. -/
theorem forall_mem_along_nil {marks : Option (List Mark)} {trail : Option Trail}
    (hmarks : ∀ ms ∈ marks, ms = []) (h : ∀ t ∈ trail, P t) : ∀ t ∈ along marks trail, P t :=
  forall_mem_along fun ms hms t ht => by
    rw [hmarks ms hms]
    exact h t ht

theorem forall_mem_join_nil {a b : Option (List Mark)} (ha : ∀ ms ∈ a, ms = [])
    (hb : ∀ ms ∈ b, ms = []) : ∀ ms ∈ join a b, ms = [] :=
  forall_mem_join fun ms hms ns hns => by rw [ha ms hms, hb ns hns]; rfl

/-- The ways through a part without groups. -/
structure Split.Ungrouped (P : Trail → Prop) (s : Split) : Prop where
  early : ∀ t ∈ s.early, P t
  skip : ∀ ms ∈ s.skip, ms = []
  late : ∀ t ∈ s.late, P t

namespace Split.Ungrouped

variable {a b : Split}

theorem reading (h : a.Ungrouped P) : ∀ t ∈ a.reading, P t := forall_mem_or h.early h.late

theorem concat (ha : a.Ungrouped P) (hb : b.Ungrouped P) : (a.concat b).Ungrouped P := by
  have hreading := ha.reading
  obtain ⟨early, skip, late⟩ := a
  cases skip with
  | none => exact ⟨hreading, nofun, nofun⟩
  | some ms =>
    have hreading' := hb.reading
    have hskip := forall_mem_join_nil ha.skip hb.skip
    obtain ⟨early', skip', late'⟩ := b
    cases skip' with
    | none =>
      exact ⟨forall_mem_or ha.early
        (forall_mem_or (forall_mem_along_nil ha.skip hreading') ha.late), nofun, nofun⟩
    | some ns =>
      exact ⟨forall_mem_or ha.early (forall_mem_along_nil ha.skip hb.early), hskip,
        forall_mem_or (forall_mem_along_nil ha.skip hb.late) ha.late⟩

theorem alternate (ha : a.Ungrouped P) (hb : b.Ungrouped P) : (a.alternate b).Ungrouped P := by
  have hreading := ha.reading
  obtain ⟨early, skip, late⟩ := a
  cases skip with
  | none => exact ⟨forall_mem_or hreading hb.early, hb.skip, hb.late⟩
  | some ms => exact ⟨ha.early, ha.skip, forall_mem_or ha.late hb.reading⟩

end Split.Ungrouped

/-- What is around a part without groups, in a part without groups. -/
structure Around.Ungrouped (P : Trail → Prop) (around : Around) : Prop where
  ahead : ∀ t ∈ around.ahead, P t
  again : ∀ ms ∈ around.again, ms = []
  behind : ∀ t ∈ around.behind, P t

namespace Around.Ungrouped

variable {around : Around} {a b : Split}

theorem first (h : around.Ungrouped P) (hb : b.Ungrouped P) : (around.first b).Ungrouped P := by
  have hreading := hb.reading
  obtain ⟨early, skip, late⟩ := b
  cases skip with
  | none => exact ⟨hreading, nofun, nofun⟩
  | some ms =>
    exact ⟨forall_mem_or hb.early (forall_mem_along_nil hb.skip h.ahead),
      forall_mem_join_nil hb.skip h.again,
      forall_mem_or (forall_mem_along_nil hb.skip h.behind) hb.late⟩

theorem second (h : around.Ungrouped P) (ha : a.Ungrouped P) : (around.second a).Ungrouped P := by
  have hreading := ha.reading
  obtain ⟨early, skip, late⟩ := a
  cases skip with
  | none =>
    exact ⟨forall_mem_or h.ahead (forall_mem_along_nil h.again hreading), nofun, h.behind⟩
  | some ms =>
    exact ⟨forall_mem_or h.ahead (forall_mem_along_nil h.again ha.early),
      forall_mem_join_nil h.again ha.skip,
      forall_mem_or (forall_mem_along_nil h.again ha.late) h.behind⟩

theorem left (h : around.Ungrouped P) (hb : b.Ungrouped P) : (around.left b).Ungrouped P :=
  ⟨h.ahead, h.again, forall_mem_or (forall_mem_along_nil h.again hb.reading) h.behind⟩

theorem right (h : around.Ungrouped P) (ha : a.Ungrouped P) : (around.right a).Ungrouped P :=
  ⟨forall_mem_or h.ahead (forall_mem_along_nil h.again ha.reading), h.again, h.behind⟩

theorem loop (h : around.Ungrouped P) (greedy : Bool) : (around.loop greedy).Ungrouped P := by
  unfold Around.loop
  split
  · exact ⟨nofun, forall_mem_some_nil, forall_mem_or h.ahead h.behind⟩
  · split
    · exact ⟨forall_mem_or h.ahead h.behind, forall_mem_some_nil, nofun⟩
    · exact h

theorem value (h : around.Ungrouped P) {own : Option Trail} (hown : ∀ t ∈ own, P t) :
    ∀ t ∈ around.value own, P t :=
  forall_mem_or h.ahead (forall_mem_or (forall_mem_along_nil h.again hown) h.behind)

end Around.Ungrouped

/-- A part without groups marks nothing: it only hands on the ways that it is given. -/
theorem sweep_ungrouped (cursor : Cursor) {a : Skeleton (Option Trail)} (h : a.Ungrouped P) :
    (a.sweep cursor).split.Ungrouped P ∧ ∀ around : Around, around.Ungrouped P →
      ((a.sweep cursor).refill around).Ungrouped P := by
  induction a with
  | empty => exact ⟨⟨forall_mem_none, forall_mem_some_nil, forall_mem_none⟩, fun _ _ => trivial⟩
  | letter set value =>
    have hown : ∀ t ∈ (if cursor.after.any set.contains then value else none), P t := by
      split
      · exact h
      · exact forall_mem_none
    exact ⟨⟨hown, forall_mem_none, forall_mem_none⟩, fun around haround => haround.value hown⟩
  | look l =>
    refine ⟨⟨forall_mem_none, ?_, forall_mem_none⟩, fun _ _ => trivial⟩
    rw [Skeleton.sweep]
    dsimp only
    split
    · exact forall_mem_some_nil
    · exact forall_mem_none
  | concat a b iha ihb =>
    obtain ⟨hsa, hfa⟩ := iha h.1
    obtain ⟨hsb, hfb⟩ := ihb h.2
    exact ⟨hsa.concat hsb, fun around haround =>
      ⟨hfa _ (haround.first hsb), hfb _ (haround.second hsa)⟩⟩
  | alternate a b iha ihb =>
    obtain ⟨hsa, hfa⟩ := iha h.1
    obtain ⟨hsb, hfb⟩ := ihb h.2
    exact ⟨hsa.alternate hsb, fun around haround =>
      ⟨hfa _ (haround.left hsb), hfb _ (haround.right hsa)⟩⟩
  | plus greedy a ih =>
    obtain ⟨hs, hf⟩ := ih h
    exact ⟨hs, fun around haround => hf _ (haround.loop greedy)⟩
  | group index a ih => exact h.elim

end Ungrouped

/-! ### A group alone -/

section Framed

variable {index place : Nat}

/-- Whether a way leaves the group of that number at its end, and marks nothing else. -/
def Leaves (index : Nat) (t : Trail) : Prop := t.marks = [⟨2 * index + 1, t.stop⟩]

/-- Whether a way enters the group at a place and leaves it at its end, and marks nothing else. -/
def Crosses (index place : Nat) (t : Trail) : Prop :=
  t.marks = [⟨2 * index, place⟩, ⟨2 * index + 1, t.stop⟩]

/-- Whether a skeleton is a group with assertions around it, of which the letters carry ways that
leave it. -/
inductive Skeleton.Framed (index : Nat) : Skeleton (Option Trail) → Prop
  | group {a : Skeleton (Option Trail)} (h : a.Ungrouped (Leaves index)) :
      Framed index (.group index a)
  | after (l : Look) {a : Skeleton (Option Trail)} (h : Framed index a) :
      Framed index (.concat (.look l) a)
  | before (l : Look) {a : Skeleton (Option Trail)} (h : Framed index a) :
      Framed index (.concat a (.look l))

theorem Regex.Framed.unroll {r : Regex} (h : r.Framed index) :
    (r.unroll none).Framed index := by
  induction h with
  | group h => exact .group (Skeleton.ungrouped_unroll h _)
  | after l _ ih => exact .after l ih
  | before l _ ih => exact .before l ih

/-- The ways through a group that is alone cross it. -/
structure Split.Framed (index place : Nat) (s : Split) : Prop where
  early : ∀ t ∈ s.early, Crosses index place t
  skip : ∀ ms ∈ s.skip, ms = [⟨2 * index, place⟩, ⟨2 * index + 1, place⟩]
  late : ∀ t ∈ s.late, Crosses index place t

/-- Around a group that is alone there is at most the end of the match. -/
structure Around.Ends (place : Nat) (around : Around) : Prop where
  ahead : ∀ t ∈ around.ahead, t = ⟨place, []⟩
  again : around.again = none
  behind : ∀ t ∈ around.behind, t = ⟨place, []⟩

/-- The ways through an assertion: nothing is read, and nothing marked. -/
theorem sweep_look (cursor : Cursor) (l : Look) :
    ∃ skip : Option (List Mark), ((Skeleton.look l).sweep cursor).split = ⟨none, skip, none⟩ ∧
      ∀ ms ∈ skip, ms = [] := by
  refine ⟨_, rfl, fun ms hms => ?_⟩
  split at hms
  · exact (Option.some.inj hms).symm
  · cases hms

theorem Split.Framed.group {s : Split} (h : s.Ungrouped (Leaves index)) :
    (s.group ⟨2 * index, place⟩ ⟨2 * index + 1, place⟩).Framed index place where
  early := forall_mem_along fun ms hms t ht => by
    obtain rfl := Option.some.inj hms
    exact congrArg (_ :: ·) (h.early t ht)
  skip := forall_mem_join fun ms hms => forall_mem_join fun ns hns os hos => by
    obtain rfl := Option.some.inj hms
    obtain rfl := Option.some.inj hos
    rw [h.skip ns hns]
    rfl
  late := forall_mem_along fun ms hms t ht => by
    obtain rfl := Option.some.inj hms
    exact congrArg (_ :: ·) (h.late t ht)

theorem Around.Ends.group {around : Around} (h : around.Ends place) :
    (around.group ⟨2 * index, place⟩ ⟨2 * index + 1, place⟩).Ungrouped (Leaves index) where
  ahead := forall_mem_along fun ms hms t ht => by
    obtain rfl := Option.some.inj hms
    rw [h.ahead t ht]
    rfl
  again := by simp [Around.group, h.again, join]
  behind := forall_mem_along fun ms hms t ht => by
    obtain rfl := Option.some.inj hms
    rw [h.behind t ht]
    rfl

section Assertions

variable {skip : Option (List Mark)} (hskip : ∀ ms ∈ skip, ms = [])
include hskip

theorem Split.Framed.after {s : Split} (h : s.Framed index place) :
    ((⟨none, skip, none⟩ : Split).concat s).Framed index place := by
  have hnone : ∀ t ∈ (none : Option Trail), Crosses index place t := nofun
  have hreading : ∀ t ∈ s.reading, Crosses index place t := forall_mem_or h.early h.late
  cases skip with
  | none => exact ⟨nofun, nofun, nofun⟩
  | some ms =>
    obtain ⟨early, own, late⟩ := s
    cases own with
    | none =>
      exact ⟨forall_mem_or (forall_mem_along_nil hskip hreading) hnone, nofun, hnone⟩
    | some ns =>
      refine ⟨forall_mem_along_nil hskip h.early, ?_,
        forall_mem_or (forall_mem_along_nil hskip h.late) hnone⟩
      obtain rfl := hskip ms rfl
      exact h.skip

theorem Split.Framed.before {s : Split} (h : s.Framed index place) :
    (s.concat ⟨none, skip, none⟩).Framed index place := by
  have hnone : ∀ t ∈ (none : Option Trail), Crosses index place t := nofun
  have hreading : ∀ t ∈ s.reading, Crosses index place t := forall_mem_or h.early h.late
  obtain ⟨early, own, late⟩ := s
  cases own with
  | none => exact ⟨hreading, nofun, nofun⟩
  | some ms =>
    cases skip with
    | none => exact ⟨forall_mem_or h.early h.late, nofun, hnone⟩
    | some ns =>
      obtain rfl := hskip ns rfl
      refine ⟨forall_mem_or h.early hnone, fun os hos => ?_, h.late⟩
      obtain rfl := Option.some.inj hos
      rw [List.append_nil]
      exact h.skip ms rfl

theorem Around.Ends.first {around : Around} (h : around.Ends place) :
    (around.first ⟨none, skip, none⟩).Ends place := by
  cases skip with
  | none => exact ⟨nofun, rfl, nofun⟩
  | some ms =>
    refine ⟨forall_mem_along_nil hskip h.ahead, ?_,
      forall_mem_or (forall_mem_along_nil hskip h.behind) nofun⟩
    simp [Around.first, h.again, join]

omit hskip in
theorem Around.Ends.second {around : Around} (h : around.Ends place) :
    (around.second ⟨none, skip, none⟩).Ends place := by
  obtain ⟨ahead, again, behind⟩ := around
  obtain rfl := h.again
  cases skip with
  | none => exact ⟨forall_mem_or h.ahead nofun, rfl, h.behind⟩
  | some ms => exact ⟨forall_mem_or h.ahead nofun, rfl, h.behind⟩

end Assertions

/-- **One step of a sweep over a group that is alone**: the ways through it cross it, and its
letters go on to carry ways that leave it. -/
theorem sweep_framed (cursor : Cursor) {a : Skeleton (Option Trail)} (h : a.Framed index) :
    (a.sweep cursor).split.Framed index cursor.place ∧ ∀ around : Around,
      around.Ends cursor.place → ((a.sweep cursor).refill around).Framed index := by
  induction h with
  | @group a h =>
    obtain ⟨hs, hf⟩ := sweep_ungrouped cursor h
    exact ⟨.group hs, fun around haround => .group (hf _ haround.group)⟩
  | @after l a _ ih =>
    obtain ⟨hs, hf⟩ := ih
    obtain ⟨skip, hlook, hskip⟩ := sweep_look cursor l
    rw [Skeleton.sweep, hlook]
    exact ⟨hs.after hskip, fun around haround => .after l (hf _ haround.second)⟩
  | @before l a _ ih =>
    obtain ⟨hs, hf⟩ := ih
    obtain ⟨skip, hlook, hskip⟩ := sweep_look cursor l
    rw [Skeleton.sweep, hlook]
    exact ⟨hs.before hskip, fun around haround => .before l (hf _ (haround.first hskip))⟩

/-- What a column knows of a group that is alone: whatever was found crosses it. -/
structure Column.Framed (index place : Nat) (column : Column) : Prop where
  values : column.values.Framed index
  found : ∀ k, ∀ t ∈ column.found[k]?.join, Crosses index (place + k) t

theorem Column.Framed.back {column : Column} {text : List Char} {i : Nat}
    (h : column.Framed index (i + 1)) : (column.back (cursorAt text i)).Framed index i := by
  obtain ⟨hs, hf⟩ := sweep_framed (cursorAt text i) h.values
  have hends : (Around.outermost (some ⟨i, []⟩)).Ends i :=
    ⟨fun t ht => (Option.some.inj ht).symm, rfl, nofun⟩
  refine ⟨hf _ hends, fun k => ?_⟩
  cases k with
  | zero =>
    refine forall_mem_or hs.early (forall_mem_or (forall_mem_along fun ms hms t ht => ?_) hs.late)
    obtain rfl := Option.some.inj ht
    rw [hs.skip ms hms]
    rfl
  | succ k =>
    have hk := h.found k
    rwa [Nat.add_assoc, Nat.add_comm 1 k] at hk

/-- **A group that is alone is marked as the whole match.** -/
theorem marks_of_found {r : Regex} (h : r.Framed index) {text : List Char} {i : Nat} {t : Trail}
    (ht : ((r.unroll none).found text)[i]?.join = some t) :
    t.marks = [⟨2 * index, i⟩, ⟨2 * index + 1, t.stop⟩] := by
  have hframed : Column.Framed index 0
      ((cursors 0 none text).foldr Column.back ⟨r.unroll none, []⟩) :=
    column_induction ⟨h.unroll, nofun⟩ fun i column _ hcolumn => hcolumn.back
  have hcrosses := hframed.found i t ht
  rwa [Crosses, Nat.zero_add] at hcrosses

end Framed

end Verbal.Regular
