import Verbal.Proofs.Regular.Renumbering

/-!
# Where the ways of a sweep end

A sweep keeps at every letter a way to go on, and the ways that it finds end where the expression
can match to. `Skeleton.Leads` is the invariant for ways that end at one given place; the empty
rounds of loops are left at once, as in the search for places where a match begins.

* **`spans_of_found`**: a way that is found ends where the expression can match to.
* **`found_shift`**: renumbering groups renumbers the marks of what is found, and nothing else.
-/

namespace Verbal.Regular

open Verbal.Unicode

/-! ## The end of a way -/

/-- Whether there is a way, and it ends at a place. -/
def EndsAt (stop : Nat) (trail : Option Trail) : Prop := trail.map Trail.stop = some stop

section Stops

variable {stop : Nat} {P : Prop}

theorem endsAt_or {a b : Option Trail} (ha : EndsAt stop a → P) (hb : EndsAt stop b → P) :
    EndsAt stop (a.or b) → P := by
  cases a with
  | none => exact hb
  | some t => exact ha

theorem endsAt_along {marks : Option (List Mark)} {t : Option Trail}
    (h : marks.isSome = true → EndsAt stop t → P) : EndsAt stop (along marks t) → P := by
  cases marks with
  | none => nofun
  | some ms =>
    cases t with
    | none => nofun
    | some t => exact h rfl

/-- The ways through a part that end at a place tell what it can do. -/
structure Split.Leads (stop : Nat) (x : Split) (reads skips : Prop) : Prop where
  early : EndsAt stop x.early → reads
  skips : x.skip.isSome = true → skips
  late : EndsAt stop x.late → reads

namespace Split

variable {a b : Split} {ra sa rb sb : Prop}

theorem Leads.reading (h : a.Leads stop ra sa) : EndsAt stop a.reading → ra :=
  endsAt_or h.early h.late

theorem Leads.concat (ha : a.Leads stop ra sa) (hb : b.Leads stop rb sb) :
    (a.concat b).Leads stop (ra ∨ sa ∧ rb) (sa ∧ sb) := by
  have hreading := hb.reading
  obtain ⟨early, skip, late⟩ := a
  obtain ⟨early', skip', late'⟩ := b
  cases skip with
  | none => exact ⟨fun h => Or.inl (ha.reading h), nofun, nofun⟩
  | some ms =>
    have hsa : sa := ha.skips rfl
    have hearly (h : EndsAt stop early) : ra ∨ sa ∧ rb := Or.inl (ha.early h)
    have hlate (h : EndsAt stop late) : ra ∨ sa ∧ rb := Or.inl (ha.late h)
    cases skip' with
    | none =>
      exact ⟨endsAt_or hearly (endsAt_or (endsAt_along fun _ h => Or.inr ⟨hsa, hreading h⟩) hlate),
        nofun, nofun⟩
    | some ns =>
      exact ⟨endsAt_or hearly (endsAt_along fun _ h => Or.inr ⟨hsa, hb.early h⟩),
        fun _ => ⟨hsa, hb.skips rfl⟩,
        endsAt_or (endsAt_along fun _ h => Or.inr ⟨hsa, hb.late h⟩) hlate⟩

theorem Leads.alternate (ha : a.Leads stop ra sa) (hb : b.Leads stop rb sb) :
    (a.alternate b).Leads stop (ra ∨ rb) (sa ∨ sb) := by
  obtain ⟨early, skip, late⟩ := a
  cases skip with
  | none =>
    exact ⟨endsAt_or (fun h => Or.inl (ha.reading h)) (fun h => Or.inr (hb.early h)),
      fun h => Or.inr (hb.skips h), fun h => Or.inr (hb.late h)⟩
  | some ms =>
    exact ⟨fun h => Or.inl (ha.early h), fun _ => Or.inl (ha.skips rfl),
      endsAt_or (fun h => Or.inl (ha.late h)) (fun h => Or.inr (hb.reading h))⟩

theorem Leads.group (ha : a.Leads stop ra sa) (enter leave : Mark) :
    (a.group enter leave).Leads stop ra sa := by
  refine ⟨endsAt_along fun _ => ha.early, fun h => ha.skips ?_, endsAt_along fun _ => ha.late⟩
  simpa [Split.group, isSome_join] using h

theorem Leads.value (ha : a.Leads stop ra sa) {next : Option Trail} {onward : Prop}
    (hread : ra → P) (hskip : sa → onward → P) (hnext : EndsAt stop next → onward) :
    EndsAt stop (a.value next) → P :=
  endsAt_or (fun h => hread (ha.early h)) (endsAt_or
    (endsAt_along fun hs h => hskip (ha.skips hs) (hnext h)) fun h => hread (ha.late h))

end Split

/-- The ways around a part that end at a place tell whether it goes on at the end of the part; the
way round counts if the part can read a letter and go on. -/
structure Around.Leads (stop : Nat) (around : Around) (reads onward : Prop) : Prop where
  ahead : EndsAt stop around.ahead → onward
  again : around.again.isSome = true → reads → onward
  behind : EndsAt stop around.behind → onward

namespace Around

variable {around : Around} {a b : Split} {ra sa rb sb onward : Prop}

theorem Leads.first (h : around.Leads stop (ra ∨ sa ∧ rb) onward) (hb : b.Leads stop rb sb) :
    (around.first b).Leads stop ra (rb ∨ sb ∧ onward) := by
  obtain ⟨early, skip, late⟩ := b
  cases skip with
  | none => exact ⟨fun h => Or.inl (hb.reading h), nofun, nofun⟩
  | some ms =>
    have hsb : sb := hb.skips rfl
    refine ⟨endsAt_or (fun h => Or.inl (hb.early h))
        (endsAt_along fun _ ht => Or.inr ⟨hsb, h.ahead ht⟩),
      fun hs hra => Or.inr ⟨hsb, h.again ?_ (Or.inl hra)⟩,
      endsAt_or (endsAt_along fun _ ht => Or.inr ⟨hsb, h.behind ht⟩) fun h => Or.inl (hb.late h)⟩
    simpa [Around.first, isSome_join] using hs

theorem Leads.second (h : around.Leads stop (ra ∨ sa ∧ rb) onward) (ha : a.Leads stop ra sa) :
    (around.second a).Leads stop rb onward := by
  obtain ⟨early, skip, late⟩ := a
  cases skip with
  | none =>
    exact ⟨endsAt_or h.ahead (endsAt_along fun hs ht => h.again hs (Or.inl (ha.reading ht))), nofun,
      h.behind⟩
  | some ms =>
    refine ⟨endsAt_or h.ahead (endsAt_along fun hs ht => h.again hs (Or.inl (ha.early ht))),
      fun hs hrb => h.again ?_ (Or.inr ⟨ha.skips rfl, hrb⟩),
      endsAt_or (endsAt_along fun hs ht => h.again hs (Or.inl (ha.late ht))) h.behind⟩
    simpa [Around.second, isSome_join] using hs

theorem Leads.left (h : around.Leads stop (ra ∨ rb) onward) (hb : b.Leads stop rb sb) :
    (around.left b).Leads stop ra onward :=
  ⟨h.ahead, fun hs hra => h.again hs (Or.inl hra),
    endsAt_or (endsAt_along fun hs ht => h.again hs (Or.inr (hb.reading ht))) h.behind⟩

theorem Leads.right (h : around.Leads stop (ra ∨ rb) onward) (ha : a.Leads stop ra sa) :
    (around.right a).Leads stop rb onward :=
  ⟨endsAt_or h.ahead (endsAt_along fun hs ht => h.again hs (Or.inl (ha.reading ht))),
    fun hs hrb => h.again hs (Or.inr hrb), h.behind⟩

/-- Inside of a loop the way round counts as well. -/
theorem Leads.loop (h : around.Leads stop ra onward) (greedy : Bool) :
    (around.loop greedy).Leads stop ra (onward ∨ ra) := by
  unfold Around.loop
  split
  · exact ⟨nofun, fun _ => Or.inr, endsAt_or (fun ht => Or.inl (h.ahead ht))
      fun ht => Or.inl (h.behind ht)⟩
  · split
    · exact ⟨endsAt_or (fun ht => Or.inl (h.ahead ht)) fun ht => Or.inl (h.behind ht),
        fun _ => Or.inr, nofun⟩
    · exact ⟨fun ht => Or.inl (h.ahead ht), fun _ => Or.inr, fun ht => Or.inl (h.behind ht)⟩

theorem Leads.group (h : around.Leads stop ra onward) (enter leave : Mark) :
    (around.group enter leave).Leads stop ra onward := by
  refine ⟨endsAt_along fun _ => h.ahead, fun hs => h.again ?_, endsAt_along fun _ => h.behind⟩
  simpa [Around.group, isSome_join] using hs

theorem Leads.value {own : Option Trail} (h : around.Leads stop ra onward)
    (hown : EndsAt stop own → ra) : EndsAt stop (around.value own) → onward :=
  endsAt_or h.ahead (endsAt_or (endsAt_along fun hs ht => h.again hs (hown ht)) h.behind)

end Around

/-! ## One step of a sweep -/

/-- The letters carry only ways that lead on from right after them, where `onward` tells from which
places the ways that end at `stop` go on after the skeleton. -/
def Skeleton.Leads (text : List Char) (stop i : Nat) :
    (Nat → Prop) → Skeleton (Option Trail) → Prop
  | _, empty => True
  | onward, letter _ value => EndsAt stop value → onward i
  | _, look _ => True
  | onward, concat a b =>
    a.Leads text stop i (b.Reaches text onward) ∧ b.Leads text stop i onward
  | onward, alternate a b => a.Leads text stop i onward ∧ b.Leads text stop i onward
  | onward, plus _ a => a.Leads text stop i (a.Cycles text onward)
  | onward, group _ a => a.Leads text stop i onward

variable {text : List Char}

/-- **One step of a sweep**: if the letters lead on at the next place, then so do the ways through
the skeleton from this one, and its letters at this one. -/
theorem sweep_leads {i : Nat} (a : Skeleton (Option Trail)) {onward : Nat → Prop}
    (h : a.Leads text stop (i + 1) onward) :
    (a.sweep (cursorAt text i)).split.Leads stop (a.Reads text onward i) (a.Spans text i i) ∧
      ∀ around : Around, around.Leads stop (a.Reads text onward i) (onward i) →
        ((a.sweep (cursorAt text i)).refill around).Leads text stop i onward := by
  induction a generalizing onward with
  | empty => exact ⟨⟨nofun, fun _ => rfl, nofun⟩, fun _ _ => trivial⟩
  | letter set value =>
    have hown : EndsAt stop (if text[i]?.any set.contains then value else none) →
        (Skeleton.letter set value).Reads text onward i := by
      intro hends
      cases htext : text[i]? with
      | none =>
        rw [htext] at hends
        exact nomatch hends
      | some c =>
        rw [htext] at hends
        cases hc : set.contains c with
        | false => simp [hc, EndsAt] at hends
        | true =>
          simp only [Option.any_some, hc, if_true] at hends
          exact ⟨i + 1, Nat.lt_succ_self i, ⟨rfl, c, htext, hc⟩, h hends⟩
    exact ⟨⟨hown, nofun, nofun⟩, fun around haround => haround.value hown⟩
  | look l =>
    refine ⟨⟨nofun, fun hs => ⟨rfl, ?_⟩, nofun⟩, fun _ _ => trivial⟩
    by_contra hl
    simp [Skeleton.sweep, cursorAt, show ¬l.holds (charBefore? text i) text[i]? = true from hl]
      at hs
  | concat a b iha ihb =>
    obtain ⟨hsa, hfa⟩ := iha h.1
    obtain ⟨hsb, hfb⟩ := ihb h.2
    rw [Skeleton.reads_concat, Skeleton.spans_concat_self]
    refine ⟨hsa.concat hsb, fun around haround => ⟨?_, ?_⟩⟩
    · unfold Skeleton.Reaches
      rw [spans_refill]
      refine hfa _ ?_
      rw [Skeleton.reaches_iff]
      exact haround.first hsb
    · exact hfb _ (haround.second hsa)
  | alternate a b iha ihb =>
    obtain ⟨hsa, hfa⟩ := iha h.1
    obtain ⟨hsb, hfb⟩ := ihb h.2
    rw [Skeleton.reads_alternate]
    exact ⟨hsa.alternate hsb, fun around haround =>
      ⟨hfa _ (haround.left hsb), hfb _ (haround.right hsa)⟩⟩
  | plus greedy a ih =>
    obtain ⟨hs, hf⟩ := ih h
    rw [Skeleton.reads_plus, Skeleton.spans_plus_self]
    refine ⟨hs, fun around haround => ?_⟩
    change Skeleton.Leads _ _ _ (Skeleton.Cycles text _ onward) _
    unfold Skeleton.Cycles
    rw [spans_refill]
    refine hf _ ?_
    rw [Skeleton.cycles_iff]
    exact haround.loop greedy
  | group index a ih =>
    obtain ⟨hs, hf⟩ := ih h
    exact ⟨hs.group _ _, fun around haround => hf _ (haround.group _ _)⟩

/-! ## Whole texts -/

/-- Letters without values lead nowhere. -/
theorem Skeleton.Uninformed.leads {a : Skeleton (Option Trail)} (h : a.Uninformed)
    (text : List Char) (stop i : Nat) (onward : Nat → Prop) : a.Leads text stop i onward := by
  induction a generalizing onward with
  | empty => trivial
  | letter set value =>
    obtain rfl : value = none := h
    exact nofun
  | look l => trivial
  | concat a b iha ihb => exact ⟨iha h.1 _, ihb h.2 _⟩
  | alternate a b iha ihb => exact ⟨iha h.1 _, ihb h.2 _⟩
  | plus greedy a ih => exact ih h _
  | group index a ih => exact ih h _

/-- What a column knows of the ways that end at a place: those of its letters lead there, and so do
those that were found. -/
structure Column.LeadsTo (text : List Char) (s : Skeleton (Option Trail)) (stop i : Nat)
    (column : Column) : Prop where
  spans : column.values.Spans text = s.Spans text
  leads : column.values.Leads text stop i (· = stop)
  found : ∀ k, EndsAt stop column.found[k]?.join → s.Spans text (i + k) stop

theorem Column.LeadsTo.back {s : Skeleton (Option Trail)} {i : Nat} {column : Column}
    (h : column.LeadsTo text s stop (i + 1)) :
    (column.back (cursorAt text i)).LeadsTo text s stop i := by
  obtain ⟨hsplit, hrefill⟩ := sweep_leads column.values h.leads
  have hnext : EndsAt stop (some ⟨(cursorAt text i).place, []⟩) → i = stop := Option.some.inj
  refine ⟨(spans_refill _ _ _).trans h.spans, hrefill _ ⟨hnext, nofun, nofun⟩, fun k hk => ?_⟩
  cases k with
  | zero =>
    rw [← h.spans]
    refine hsplit.value ?_ ?_ hnext hk
    · rintro ⟨j, -, hs, rfl⟩
      exact hs
    · rintro hs rfl
      exact hs
  | succ k =>
    have hs := h.found k hk
    rwa [Nat.add_assoc, Nat.add_comm 1 k] at hs

/-- **A way that is found ends where the expression can match to.** -/
theorem spans_of_found {r : Regex} {i : Nat} {trail : Trail}
    (h : ((r.unroll none).found text)[i]?.join = some trail) : r.Spans text i trail.stop := by
  have hleads : Column.LeadsTo text (r.unroll none) trail.stop 0
      ((cursors 0 none text).foldr Column.back ⟨r.unroll none, []⟩) :=
    column_induction
      ⟨rfl, (Skeleton.uninformed_unroll r).leads text _ _ _, fun k hk => nomatch hk⟩
      fun i column _ h => h.back
  have hspans := hleads.found i (congrArg (Option.map Trail.stop) h)
  rw [Nat.zero_add] at hspans
  exact spans_unroll.mp hspans

end Stops

/-! ## Renumbered groups -/

section Shift

variable (n : Nat)

/-- A mark with the numbers of the groups raised. -/
def shiftMark (m : Mark) : Mark := ⟨m.slot + 2 * n, m.place⟩

/-- Marks with the numbers of the groups raised. -/
def shiftMarks (marks : Option (List Mark)) : Option (List Mark) := marks.map (·.map (shiftMark n))

/-- A way with the numbers of the groups raised. -/
def Trail.shift (t : Trail) : Trail := ⟨t.stop, t.marks.map (shiftMark n)⟩

theorem along_shift (marks : Option (List Mark)) (t : Option Trail) :
    along (shiftMarks n marks) (t.map (.shift n)) = (along marks t).map (.shift n) := by
  cases marks <;> cases t <;> simp [along, shiftMarks, Trail.shift]

theorem join_shift (a b : Option (List Mark)) :
    join (shiftMarks n a) (shiftMarks n b) = shiftMarks n (join a b) := by
  cases a <;> cases b <;> simp [join, shiftMarks]

/-- Ways through a part with the numbers of the groups raised. -/
def Split.shift (x : Split) : Split :=
  ⟨x.early.map (.shift n), shiftMarks n x.skip, x.late.map (.shift n)⟩

/-- Ways around a part with the numbers of the groups raised. -/
def Around.shift (x : Around) : Around :=
  ⟨x.ahead.map (.shift n), shiftMarks n x.again, x.behind.map (.shift n)⟩

/-- A skeleton with the numbers of the groups raised, in its values as well. -/
def Skeleton.shift : Skeleton (Option Trail) → Skeleton (Option Trail)
  | empty => empty
  | letter set value => letter set (value.map (.shift n))
  | look l => look l
  | concat a b => concat a.shift b.shift
  | alternate a b => alternate a.shift b.shift
  | plus greedy a => plus greedy a.shift
  | group index a => group (index + n) a.shift

namespace Split

variable (a b : Split)

theorem reading_shift : (a.shift n).reading = a.reading.map (.shift n) := by
  simp [reading, shift, Option.map_or]

theorem value_shift (next : Option Trail) :
    (a.shift n).value (next.map (.shift n)) = (a.value next).map (.shift n) := by
  simp only [value, shift, along_shift, Option.map_or]

theorem concat_shift : (a.shift n).concat (b.shift n) = (a.concat b).shift n := by
  obtain ⟨early, skip, late⟩ := a
  obtain ⟨early', skip', late'⟩ := b
  cases skip with
  | none => simp [concat, shift, shiftMarks, reading, Option.map_or]
  | some ms =>
    have halong := along_shift n (some ms)
    have hreading := reading_shift n ⟨early', none, late'⟩
    simp only [shift, shiftMarks, Option.map_some, Option.map_none] at halong hreading
    cases skip' <;> simp [concat, shift, shiftMarks, Option.map_or, halong, hreading]

theorem alternate_shift : (a.shift n).alternate (b.shift n) = (a.alternate b).shift n := by
  have hreading := b.reading_shift n
  obtain ⟨early, skip, late⟩ := a
  cases skip with
  | none => simp [alternate, shift, shiftMarks, reading, Option.map_or]
  | some ms =>
    simp only [alternate, shift, shiftMarks, Option.map_some, Option.map_or] at hreading ⊢
    rw [hreading]

theorem group_shift (index place : Nat) :
    (a.shift n).group ⟨2 * (index + n), place⟩ ⟨2 * (index + n) + 1, place⟩ =
      (a.group ⟨2 * index, place⟩ ⟨2 * index + 1, place⟩).shift n := by
  have hmarks (slot : Nat) : shiftMarks n (some [⟨slot, place⟩]) =
      some [⟨slot + 2 * n, place⟩] := rfl
  have henter : 2 * (index + n) = 2 * index + 2 * n := Nat.mul_add 2 index n
  have hleave : 2 * index + 2 * n + 1 = 2 * index + 1 + 2 * n := Nat.add_right_comm _ _ _
  simp only [group, shift, henter, hleave, ← hmarks, along_shift, join_shift]

end Split

namespace Around

variable (around : Around) (a b : Split)

theorem first_shift : (around.shift n).first (b.shift n) = (around.first b).shift n := by
  obtain ⟨early, skip, late⟩ := b
  cases skip with
  | none => simp [first, shift, Split.shift, shiftMarks, Split.reading, Option.map_or]
  | some ms =>
    have hmarks : (⟨early, some ms, late⟩ : Split).shift n =
        ⟨early.map (.shift n), shiftMarks n (some ms), late.map (.shift n)⟩ := rfl
    have hfirst (ns : List Mark) : shiftMarks n (some ns) = some (ns.map (shiftMark n)) := rfl
    simp only [first, shift, hmarks, Option.map_or, ← along_shift, ← join_shift, hfirst]

theorem second_shift : (around.shift n).second (a.shift n) = (around.second a).shift n := by
  have hreading := a.reading_shift n
  obtain ⟨early, skip, late⟩ := a
  cases skip with
  | none =>
    simp only [second, shift, Split.shift, shiftMarks, Option.map_none, Option.map_or] at hreading ⊢
    rw [hreading, ← along_shift]
    rfl
  | some ms =>
    have hjoin := join_shift n around.again (some ms)
    simp only [second, shift, Split.shift, shiftMarks, Option.map_some, Option.map_or,
      ← along_shift] at hjoin ⊢
    rw [hjoin]

theorem left_shift : (around.shift n).left (b.shift n) = (around.left b).shift n := by
  simp only [left, shift, Split.reading_shift, along_shift, Option.map_or]

theorem right_shift : (around.shift n).right (a.shift n) = (around.right a).shift n := by
  simp only [right, shift, Split.reading_shift, along_shift, Option.map_or]

theorem loop_shift (greedy : Bool) :
    (around.shift n).loop greedy = (around.loop greedy).shift n := by
  obtain ⟨ahead, again, behind⟩ := around
  cases greedy <;> cases again <;> simp [loop, shift, shiftMarks, Option.map_or]

theorem group_shift (index place : Nat) :
    (around.shift n).group ⟨2 * (index + n), place⟩ ⟨2 * (index + n) + 1, place⟩ =
      (around.group ⟨2 * index, place⟩ ⟨2 * index + 1, place⟩).shift n := by
  have hmarks (slot : Nat) : shiftMarks n (some [⟨slot, place⟩]) =
      some [⟨slot + 2 * n, place⟩] := rfl
  have henter : 2 * (index + n) = 2 * index + 2 * n := Nat.mul_add 2 index n
  have hleave : 2 * index + 2 * n + 1 = 2 * index + 1 + 2 * n := Nat.add_right_comm _ _ _
  simp only [group, shift, henter, hleave, ← hmarks, along_shift, join_shift]

theorem value_shift (own : Option Trail) :
    (around.shift n).value (own.map (.shift n)) = (around.value own).map (.shift n) := by
  simp only [value, shift, along_shift, Option.map_or]

end Around

/-- One step of a sweep does not look at the numbers of the groups. -/
theorem sweep_shift (cursor : Cursor) (a : Skeleton (Option Trail)) :
    ((a.shift n).sweep cursor).split = (a.sweep cursor).split.shift n ∧
      ∀ around : Around, ((a.shift n).sweep cursor).refill (around.shift n) =
        ((a.sweep cursor).refill around).shift n := by
  induction a with
  | empty => exact ⟨rfl, fun _ => rfl⟩
  | letter set value =>
    have hown : (if cursor.after.any set.contains then value.map (Trail.shift n) else none) =
        (if cursor.after.any set.contains then value else none).map (.shift n) := by
      split <;> rfl
    simp only [Skeleton.shift, Skeleton.sweep, hown, Around.value_shift]
    exact ⟨rfl, fun _ => trivial⟩
  | look l =>
    refine ⟨?_, fun _ => rfl⟩
    simp only [Skeleton.shift, Skeleton.sweep, Split.shift]
    split <;> rfl
  | concat a b iha ihb =>
    simp only [Skeleton.shift, Skeleton.sweep, iha.1, ihb.1, Split.concat_shift,
      Around.first_shift, Around.second_shift, iha.2, ihb.2, implies_true, and_self]
  | alternate a b iha ihb =>
    simp only [Skeleton.shift, Skeleton.sweep, iha.1, ihb.1, Split.alternate_shift,
      Around.left_shift, Around.right_shift, iha.2, ihb.2, implies_true, and_self]
  | plus greedy a ih =>
    simp only [Skeleton.shift, Skeleton.sweep, ih.1, Around.loop_shift, ih.2, implies_true,
      and_self]
  | group index a ih =>
    simp only [Skeleton.shift, Skeleton.sweep, ih.1, Split.group_shift, Around.group_shift, ih.2,
      implies_true, and_self]

namespace Skeleton

variable (a : Skeleton (Option Trail))

theorem option_shift (greedy : Bool) : (option greedy a).shift n = option greedy (a.shift n) := by
  cases greedy <;> rfl

theorem times_shift (k : Nat) : (times a k).shift n = times (a.shift n) k := by
  induction k using Nat.strongRecOn with
  | ind k ih =>
    rw [times, times.eq_def (a.shift n)]
    split
    · rfl
    · split
      · rfl
      · rw [shift, ih _ (by omega), ih _ (by omega)]

theorem upTo_shift (greedy : Bool) : ∀ k, (upTo greedy a k).shift n = upTo greedy (a.shift n) k
  | 0 => rfl
  | 1 => option_shift n a greedy
  | k + 2 =>
    (option_shift n (concat a (upTo greedy a (k + 1))) greedy).trans
      (congrArg (fun x => option greedy (concat (a.shift n) x)) (upTo_shift greedy (k + 1)))

theorem fromOn_shift (greedy : Bool) : ∀ k, (fromOn greedy a k).shift n = fromOn greedy (a.shift n) k
  | 0 => option_shift n (plus greedy a) greedy
  | 1 => rfl
  | k + 2 => by
    rw [fromOn, fromOn, shift, times_shift]
    · rfl
    all_goals omega

theorem rounds_shift (count : Repetition) (greedy : Bool) :
    (rounds count greedy a).shift n = rounds count greedy (a.shift n) := by
  unfold rounds
  split
  · exact fromOn_shift n a greedy _
  · split
    · exact times_shift n a _
    · split
      · exact upTo_shift n a greedy _
      · rw [shift, times_shift, upTo_shift]

theorem unroll_shift (r : Regex) : (r.shift n).unroll none = (r.unroll none).shift n := by
  induction r with
  | empty => rfl
  | letter set => rfl
  | look l => rfl
  | concat a b iha ihb => simp only [Regex.shift, Regex.unroll, shift, iha, ihb]
  | alternate a b iha ihb => simp only [Regex.shift, Regex.unroll, shift, iha, ihb]
  | repetition count greedy a ih => simp only [Regex.shift, Regex.unroll, ih, rounds_shift]
  | group index a ih => simp only [Regex.shift, Regex.unroll, shift, ih]

end Skeleton

/-- **Renumbering groups renumbers the marks of what is found**, and nothing else. -/
theorem found_shift (s : Skeleton (Option Trail)) (text : List Char) :
    (s.shift n).found text = (s.found text).map (·.map (.shift n)) := by
  have hback (cursor : Cursor) (column : Column) :
      Column.back cursor ⟨column.values.shift n, column.found.map (·.map (.shift n))⟩ =
        ⟨(column.back cursor).values.shift n, (column.back cursor).found.map (·.map (.shift n))⟩ := by
    obtain ⟨hsplit, hrefill⟩ := sweep_shift n cursor column.values
    have hvalue := (column.values.sweep cursor).split.value_shift n (some ⟨cursor.place, []⟩)
    have hrefill := hrefill (.outermost (some ⟨cursor.place, []⟩))
    simp only [Column.back, List.map_cons, hsplit]
    exact congrArg₂ Column.mk hrefill (congrArg (· :: _) hvalue)
  have hfold (cs : List Cursor) : cs.foldr Column.back ⟨s.shift n, []⟩ =
      ⟨(cs.foldr Column.back ⟨s, []⟩).values.shift n,
        (cs.foldr Column.back ⟨s, []⟩).found.map (·.map (.shift n))⟩ := by
    induction cs with
    | nil => rfl
    | cons cursor cs ih => rw [List.foldr_cons, ih, hback, List.foldr_cons]
  exact congrArg Column.found (hfold _)

end Shift

end Verbal.Regular
