import Verbal.Proofs.Steps

/-!
# Options of the command line

An option turns switches on and may end in a step, whose value is attached to it or comes in an
argument of its own. `Spells` tells what texts spell which option, and `Does` what an option does
to the state of the reader; the reader of options is shown to follow them.

* **`option?_eq_ok`**: which arguments are options, and what they do.
-/

namespace Verbal.CommandLine

/-! ## Switches -/

/-- The letter of a switch. -/
def Switch.letter : Switch → Char
  | anyCase => 'i'
  | multiline => 'm'
  | global => 'g'
  | verbose => 'v'

/-- The name of a switch. -/
def Switch.name : Switch → String
  | anyCase => "any-case"
  | multiline => "multiline"
  | global => "global"
  | verbose => "verbose"

namespace Switches

/-- Turns switches on. -/
def turnOnAll (s : Switches) (ss : List Switch) : Switches := ss.foldl turnOn s

theorem isOn_turnOn (s : Switches) (t u : Switch) :
    (s.turnOn t).isOn u = true ↔ s.isOn u = true ∨ u = t := by
  cases t <;> cases u <;> simp [turnOn, isOn]

theorem isOn_turnOnAll (s : Switches) (ss : List Switch) (u : Switch) :
    (s.turnOnAll ss).isOn u = true ↔ s.isOn u = true ∨ u ∈ ss := by
  induction ss generalizing s with
  | nil => simp [turnOnAll]
  | cons t ss ih =>
    rw [turnOnAll, List.foldl_cons, ← turnOnAll, ih, isOn_turnOn, List.mem_cons, or_assoc]

theorem isOn_union (s t : Switches) (u : Switch) :
    (s.union t).isOn u = true ↔ s.isOn u = true ∨ t.isOn u = true := by
  cases u <;> simp [union, isOn]

theorem isOn_none (u : Switch) : none.isOn u = false := by
  cases u <;> rfl

theorem ext_isOn {s t : Switches} (h : ∀ u, s.isOn u = true ↔ t.isOn u = true) : s = t := by
  have heq (u : Switch) : s.isOn u = t.isOn u := Bool.eq_iff_iff.mpr (h u)
  obtain ⟨i, m, g, v⟩ := s
  obtain ⟨i', m', g', v'⟩ := t
  exact Switches.mk.injEq .. ▸ ⟨heq .anyCase, heq .multiline, heq .global, heq .verbose⟩

/-- Whether switches can be turned on one after the other: none is on, and none comes twice. -/
def Admit (s : Switches) (ss : List Switch) : Prop := ss.Nodup ∧ ∀ u ∈ ss, s.isOn u = false

theorem admit_nil (s : Switches) : s.Admit [] := ⟨List.nodup_nil, nofun⟩

theorem admit_none {ss : List Switch} : none.Admit ss ↔ ss.Nodup :=
  and_iff_left fun u _ => isOn_none u

theorem admit_append {s : Switches} {ss ts : List Switch} :
    s.Admit (ss ++ ts) ↔ s.Admit ss ∧ (s.turnOnAll ss).Admit ts := by
  have hon (u : Switch) : (s.turnOnAll ss).isOn u = false ↔ s.isOn u = false ∧ u ∉ ss := by
    rw [← Bool.not_eq_true, isOn_turnOnAll, not_or, Bool.not_eq_true]
  simp only [Admit, List.nodup_append, List.mem_append, hon]
  grind

theorem admit_singleton {s : Switches} {t : Switch} : s.Admit [t] ↔ s.isOn t = false := by
  simp [Admit]

theorem admit_cons {s : Switches} {t : Switch} {ss : List Switch} :
    s.Admit (t :: ss) ↔ s.isOn t = false ∧ (s.turnOn t).Admit ss := by
  rw [← admit_singleton]
  exact @admit_append s [t] ss

end Switches

/-! ## What options do -/

/-- What stands behind the switches of an option: nothing, a step whose value comes next, or one
with its value. -/
inductive Ending where
  | nothing
  | awaiting
  | step (text : String)

/-- What an option does to a side on which no value waits. -/
inductive Does (side : Side) (ss : List Switch) : Ending → Side → Prop
  | nothing : Does side ss .nothing ⟨side.steps, side.switches.turnOnAll ss, .nothing⟩
  | awaiting : Does side ss .awaiting ⟨side.steps, side.switches.turnOnAll ss, .value⟩
  | step {text : String} {verb : Verb} : Says text.toList verb →
    Does side ss (.step text) ⟨side.steps ++ [verb], side.switches.turnOnAll ss, .nothing⟩

/-- How a step is spelled behind the letters of switches, with or without an equals sign. -/
inductive Tail : List Char → Ending → Prop
  | nothing : Tail [] .nothing
  | awaiting : Tail ['s'] .awaiting
  | equals (value : List Char) : Tail ('s' :: '=' :: value) (.step (String.ofList value))
  | joined {c : Char} (value : List Char) : c ≠ '=' →
    Tail ('s' :: c :: value) (.step (String.ofList (c :: value)))

theorem Tail.eq_nil_or {tail : List Char} {ending : Ending} (h : Tail tail ending) :
    tail = [] ∧ ending = .nothing ∨ ∃ letters, tail = 's' :: letters := by
  cases h
  exacts [Or.inl ⟨rfl, rfl⟩, Or.inr ⟨_, rfl⟩, Or.inr ⟨_, rfl⟩, Or.inr ⟨_, rfl⟩]

/-- How a long option is spelled. -/
inductive Long : List Char → List Switch → Ending → Prop
  | switch (s : Switch) : Long s.name.toList [s] .nothing
  | awaiting : Long "step".toList [] .awaiting
  | step (value : List Char) :
    Long ("step".toList ++ '=' :: value) [] (.step (String.ofList value))

theorem head_ne_dash {ss : List Switch} {tail : List Char} {ending : Ending} (h : Tail tail ending)
    {c : Char} {letters : List Char} (heq : ss.map Switch.letter ++ tail = c :: letters) :
    c ≠ '-' := by
  cases ss with
  | nil =>
    rcases h.eq_nil_or with ⟨rfl, -⟩ | ⟨rest, rfl⟩
    · cases heq
    · cases heq
      decide
  | cons s ss =>
    cases heq
    cases s <;> decide

/-- Which texts spell an option that turns switches on and ends in some way. -/
inductive Spells : List Char → List Switch → Ending → Prop
  | short {ss : List Switch} {tail : List Char} {ending : Ending} : Tail tail ending →
    ss.map Switch.letter ++ tail ≠ [] → Spells ('-' :: (ss.map Switch.letter ++ tail)) ss ending
  | long {text : List Char} {ss : List Switch} {ending : Ending} : Long text ss ending →
    Spells ('-' :: '-' :: text) ss ending

namespace Side

variable {side side' : Side}

theorem addStep_eq_ok {text : String} :
    side.addStep text = .ok side' ↔
      ∃ verb, Says text.toList verb ∧ side' = ⟨side.steps ++ [verb], side.switches, .nothing⟩ := by
  unfold addStep
  split
  · rename_i verb hverb
    rw [readStep_eq_ok] at hverb
    constructor
    · intro h
      exact ⟨verb, hverb, (Except.ok.inj h).symm⟩
    · rintro ⟨verb', hverb', rfl⟩
      have hread := readStep_eq_ok.mpr hverb
      rw [readStep_eq_ok.mpr hverb'] at hread
      rw [Except.ok.inj hread]
  · rename_i fault hfault
    refine iff_of_false nofun ?_
    rintro ⟨verb, hverb, -⟩
    rw [readStep_eq_ok.mpr hverb] at hfault
    cases hfault

theorem settle_of_nothing (h : side.waiting = .nothing) : side.settle = .ok side := by
  rw [settle, h]

theorem waiting_of_settle (h : side.settle = .ok side') : side'.waiting = .nothing := by
  unfold settle at h
  split at h
  · cases h
    assumption
  · cases h
  · obtain ⟨verb, -, rfl⟩ := addStep_eq_ok.mp h
    rfl

theorem waiting_ne_value (h : side.settle = .ok side') : side.waiting ≠ .value := by
  intro hwaiting
  rw [settle, hwaiting] at h
  cases h

theorem turnOn_eq_ok {s : Switch} :
    side.turnOn s = .ok side' ↔
      side.switches.isOn s = false ∧ side' = { side with switches := side.switches.turnOn s } := by
  unfold turnOn
  split <;> rename_i hon <;> simp [hon, eq_comm]

end Side

@[simp]
theorem shortWish?_letter (inside : Bool) (s : Switch) :
    shortWish? inside s.letter = some (.switch s) := by
  cases s <;> rfl

theorem shortWish?_cases (inside : Bool) (c : Char) :
    (c = 's' ∧ shortWish? inside c = some .step) ∨
      (∃ s : Switch, c = s.letter) ∨
      shortWish? inside c = none ∨ shortWish? inside c = some .help ∨
      shortWish? inside c = some .version := by
  unfold shortWish?
  split
  · exact Or.inl ⟨rfl, rfl⟩
  · exact Or.inr (Or.inl ⟨.anyCase, rfl⟩)
  · exact Or.inr (Or.inl ⟨.multiline, rfl⟩)
  · exact Or.inr (Or.inl ⟨.global, rfl⟩)
  · exact Or.inr (Or.inl ⟨.verbose, rfl⟩)
  · exact Or.inr (Or.inr (Or.inr (Or.inl rfl)))
  · cases inside <;> simp
  · exact Or.inr (Or.inr (Or.inl rfl))

namespace Side

variable {side side' : Side} {inside : Bool}

/-- A step that begins does so on a side on which no value waits. -/
theorem step_eq_ok (attached : Option String) :
    side.step attached = .ok side' ↔ ∃ settled, side.settle = .ok settled ∧
      Does settled [] (attached.elim .awaiting .step) side' := by
  unfold step
  rw [bind_eq_ok]
  refine exists_congr fun settled => and_congr_right fun _ => ?_
  cases attached with
  | none =>
    constructor
    · rintro ⟨⟩
      exact .awaiting
    · rintro ⟨⟩
      rfl
  | some text =>
    refine addStep_eq_ok.trans ⟨?_, ?_⟩
    · rintro ⟨verb, hverb, rfl⟩
      exact .step hverb
    · rintro ⟨⟩
      rename_i verb hverb
      exact ⟨verb, hverb, rfl⟩

theorem flag_switch_eq_ok {s : Switch} :
    side.flag (.switch s) = .ok side' ↔ ∃ settled, side.settle = .ok settled ∧
      settled.switches.isOn s = false ∧
      side' = { settled with switches := settled.switches.turnOn s } := by
  simp only [flag, bind_eq_ok, turnOn_eq_ok]

/-- Nothing is read on when information is asked for. -/
theorem flag_ne_ok {wish : Wish} (h : wish = .help ∨ wish = .version) :
    side.flag wish ≠ .ok side' := by
  intro hflag
  rcases h with rfl | rfl
  · obtain ⟨_, -, hrefused⟩ := bind_eq_ok.mp hflag
    cases hrefused
  · obtain ⟨_, -, hrefused⟩ := bind_eq_ok.mp hflag
    cases hrefused

theorem short_ne_ok {c : Char} {letters : List Char}
    (h : shortWish? inside c = none ∨ shortWish? inside c = some .help ∨
      shortWish? inside c = some .version) : side.short inside (c :: letters) ≠ .ok side' := by
  unfold short
  rcases h with hwish | hwish | hwish <;> simp only [hwish, ne_eq, bind_eq_ok]
  · nofun
  · exact fun ⟨_, hflag, _⟩ => flag_ne_ok (Or.inl rfl) hflag
  · exact fun ⟨_, hflag, _⟩ => flag_ne_ok (Or.inr rfl) hflag

theorem short_switch (s : Switch) (letters : List Char) :
    side.short inside (s.letter :: letters) =
      (side.flag (.switch s)).bind fun side => side.short inside letters := by
  cases s <;> rfl

/-- Behind the letter of a step, its value is read. -/
theorem short_step {letters : List Char} {ending : Ending} (h : Tail ('s' :: letters) ending) :
    side.short inside ('s' :: letters) = .ok side' ↔
      ∃ settled, side.settle = .ok settled ∧ Does settled [] ending side' := by
  cases h with
  | awaiting => exact step_eq_ok none
  | equals value => exact step_eq_ok (some (String.ofList value))
  | @joined c value hc =>
    refine Iff.trans (Eq.congr_left ?_) (step_eq_ok (some (String.ofList (c :: value))))
    have hwish : shortWish? inside 's' = some .step := rfl
    simp only [short, hwish]
    congr 1
    split
    · contradiction
    · rename_i heq
      cases heq
      contradiction
    · rfl

theorem exists_tail (letters : List Char) : ∃ ending, Tail ('s' :: letters) ending := by
  match letters with
  | [] => exact ⟨_, .awaiting⟩
  | c :: value =>
    by_cases hc : c = '='
    · rw [hc]
      exact ⟨_, .equals value⟩
    · exact ⟨_, .joined value hc⟩

/-- An option turns its switches on one after the other. -/
theorem does_cons {s : Switch} {ss : List Switch} {ending : Ending} :
    Does side (s :: ss) ending side' ↔
      Does { side with switches := side.switches.turnOn s } ss ending side' := by
  constructor
  · rintro (_ | _ | h)
    exacts [.nothing, .awaiting, .step h]
  · rintro (_ | _ | h)
    exacts [.nothing, .awaiting, .step h]

theorem does_singleton {s : Switch} (hwaiting : side.waiting = .nothing) :
    Does side [s] .nothing side' ↔
      side' = { side with switches := side.switches.turnOn s } := by
  have hside : ({ side with switches := side.switches.turnOn s } : Side) =
      ⟨side.steps, side.switches.turnOnAll [s], .nothing⟩ := by
    rw [← hwaiting]
    rfl
  rw [hside]
  constructor
  · rintro ⟨⟩
    rfl
  · rintro rfl
    exact .nothing

/-- Letters that spell an option are read so. -/
theorem short_of_spelled {ss : List Switch} {tail : List Char} {ending : Ending}
    (htail : Tail tail ending) (hwaiting : side.waiting = .nothing)
    (hadmitted : side.switches.Admit ss) (hdoes : Does side ss ending side') :
    side.short inside (ss.map Switch.letter ++ tail) = .ok side' := by
  induction ss generalizing side with
  | nil =>
    rcases htail.eq_nil_or with ⟨rfl, rfl⟩ | ⟨letters, rfl⟩
    · cases hdoes
      rw [← hwaiting]
      rfl
    · exact (short_step htail).mpr ⟨side, settle_of_nothing hwaiting, hdoes⟩
  | cons s ss ih =>
    obtain ⟨hoff, hrest⟩ := Switches.admit_cons.mp hadmitted
    have hflag : side.flag (.switch s) =
        .ok { side with switches := side.switches.turnOn s } :=
      flag_switch_eq_ok.mpr ⟨side, settle_of_nothing hwaiting, hoff, rfl⟩
    rw [List.map_cons, List.cons_append, short_switch, hflag]
    exact ih hwaiting hrest (does_cons.mp hdoes)

/-- Letters that are read spell an option. -/
theorem exists_of_short {letters : List Char} (hwaiting : side.waiting = .nothing)
    (h : side.short inside letters = .ok side') :
    ∃ ss tail ending, letters = ss.map Switch.letter ++ tail ∧ Tail tail ending ∧
      side.switches.Admit ss ∧ Does side ss ending side' := by
  induction letters generalizing side with
  | nil =>
    obtain rfl : side = side' := Except.ok.inj h
    refine ⟨[], [], .nothing, rfl, .nothing, Switches.admit_nil _, ?_⟩
    obtain ⟨steps, switches, waiting⟩ := side
    obtain rfl : waiting = .nothing := hwaiting
    exact .nothing
  | cons c letters ih =>
    rcases shortWish?_cases inside c with ⟨rfl, -⟩ | ⟨s, rfl⟩ | hrefused
    · obtain ⟨ending, htail⟩ := exists_tail letters
      obtain ⟨settled, hsettled, hdoes⟩ := (short_step htail).mp h
      cases (settle_of_nothing hwaiting).symm.trans hsettled
      exact ⟨[], _, ending, rfl, htail, Switches.admit_nil _, hdoes⟩
    · rw [short_switch, bind_eq_ok] at h
      obtain ⟨next, hflag, hnext⟩ := h
      obtain ⟨settled, hsettled, hoff, rfl⟩ := flag_switch_eq_ok.mp hflag
      cases (settle_of_nothing hwaiting).symm.trans hsettled
      have hwaiting' : ({ side with switches := side.switches.turnOn s } : Side).waiting = .nothing :=
        hwaiting
      obtain ⟨ss, tail, ending, rfl, htail, hss, hdoes⟩ := ih hwaiting' hnext
      exact ⟨s :: ss, tail, ending, rfl, htail, Switches.admit_cons.mpr ⟨hoff, hss⟩,
        does_cons.mpr hdoes⟩
    · exact absurd h (short_ne_ok hrefused)

end Side

/-! ## Options -/

theorem longWish?_name (inside : Bool) (s : Switch) :
    longWish? inside s.name.toList = some (.switch s) := by
  cases s <;> rfl

theorem longWish?_cases (inside : Bool) (name : List Char) :
    (name = "step".toList ∧ longWish? inside name = some .step) ∨
      (∃ s : Switch, name = s.name.toList) ∨
      longWish? inside name = none ∨ longWish? inside name = some .help ∨
      longWish? inside name = some .version := by
  have hname {t : String} (h : String.ofList name = t) : name = t.toList := by
    rw [← h, String.toList_ofList]
  unfold longWish?
  split
  · exact Or.inl ⟨hname ‹_›, rfl⟩
  · exact Or.inr (Or.inl ⟨.anyCase, hname ‹_›⟩)
  · exact Or.inr (Or.inl ⟨.multiline, hname ‹_›⟩)
  · exact Or.inr (Or.inl ⟨.global, hname ‹_›⟩)
  · exact Or.inr (Or.inl ⟨.verbose, hname ‹_›⟩)
  · exact Or.inr (Or.inr (Or.inr (Or.inl rfl)))
  · cases inside <;> simp
  · exact Or.inr (Or.inr (Or.inl rfl))

namespace Side

variable {side side' : Side} {inside : Bool}

/-- Joined letters, of which there is one, are read on a side on which no value waits. -/
theorem short_cons_eq_ok {c : Char} {letters : List Char} :
    side.short inside (c :: letters) = .ok side' ↔
      ∃ settled, side.settle = .ok settled ∧ settled.short inside (c :: letters) = .ok side' := by
  have hagain {settled : Side} (h : side.settle = .ok settled) : settled.settle = .ok settled :=
    settle_of_nothing (waiting_of_settle h)
  rcases shortWish?_cases inside c with ⟨rfl, -⟩ | ⟨s, rfl⟩ | hrefused
  · obtain ⟨ending, htail⟩ := exists_tail letters
    simp only [short_step htail]
    constructor
    · rintro ⟨settled, hsettled, hdoes⟩
      exact ⟨settled, hsettled, settled, hagain hsettled, hdoes⟩
    · rintro ⟨settled, hsettled, settled', hsettled', hdoes⟩
      cases (hagain hsettled).symm.trans hsettled'
      exact ⟨settled, hsettled, hdoes⟩
  · simp only [short_switch, bind_eq_ok, flag_switch_eq_ok]
    constructor
    · rintro ⟨next, ⟨settled, hsettled, hoff, rfl⟩, hnext⟩
      exact ⟨settled, hsettled, _, ⟨settled, hagain hsettled, hoff, rfl⟩, hnext⟩
    · rintro ⟨settled, hsettled, next, ⟨settled', hsettled', hoff, rfl⟩, hnext⟩
      cases (hagain hsettled).symm.trans hsettled'
      exact ⟨_, ⟨settled, hsettled, hoff, rfl⟩, hnext⟩
  · exact iff_of_false (short_ne_ok hrefused) fun ⟨_, _, h⟩ => short_ne_ok hrefused h

/-- A long option is read as it is spelled. -/
theorem long_eq_ok {text : List Char} :
    side.long inside text = .ok side' ↔
      ∃ ss ending settled, Long text ss ending ∧ side.settle = .ok settled ∧
        settled.switches.Admit ss ∧ Does settled ss ending side' := by
  constructor
  · intro h
    obtain ⟨⟨name, value⟩, hsplit⟩ : ∃ x, splitStep text = x := ⟨_, rfl⟩
    obtain rfl := eq_of_splitStep hsplit
    simp only [long, hsplit] at h
    rcases longWish?_cases inside name with ⟨rfl, hwish⟩ | ⟨s, rfl⟩ | hrefused
    · simp only [hwish] at h
      obtain ⟨settled, hsettled, hdoes⟩ := (step_eq_ok _).mp h
      refine ⟨[], _, settled, ?_, hsettled, Switches.admit_nil _, hdoes⟩
      cases value with
      | none => exact .awaiting
      | some value => exact .step value
    · simp only [longWish?_name] at h
      cases value with
      | some value => cases h
      | none =>
        obtain ⟨settled, hsettled, hoff, hside⟩ := flag_switch_eq_ok.mp h
        refine ⟨[s], .nothing, settled, ?_, hsettled, Switches.admit_singleton.mpr hoff,
          (does_singleton (waiting_of_settle hsettled)).mpr hside⟩
        rw [Option.elim, List.append_nil]
        exact .switch s
    · exfalso
      rcases hrefused with hwish | hwish | hwish <;> simp only [hwish] at h
      · cases h
      · split at h
        · cases h
        · exact flag_ne_ok (Or.inl rfl) h
      · split at h
        · cases h
        · exact flag_ne_ok (Or.inr rfl) h
  · rintro ⟨ss, ending, settled, hlong, hsettled, hadmitted, hdoes⟩
    cases hlong with
    | switch s =>
      have hname : '=' ∉ s.name.toList := by cases s <;> decide
      simp only [long, splitStep_bare hname, longWish?_name]
      exact flag_switch_eq_ok.mpr ⟨settled, hsettled, Switches.admit_singleton.mp hadmitted,
        (does_singleton (waiting_of_settle hsettled)).mp hdoes⟩
    | awaiting => exact (step_eq_ok none).mpr ⟨settled, hsettled, hdoes⟩
    | step value =>
      have hsplit := splitStep_equals (show '=' ∉ "step".toList by decide) value
      have hwish : longWish? inside "step".toList = some .step := rfl
      simp only [long, hsplit, hwish]
      exact (step_eq_ok (some (String.ofList value))).mpr ⟨settled, hsettled, hdoes⟩

/-- **Which arguments are options.** An argument is taken as an option iff it spells one, and it
does what it spells once no value waits any more. -/
theorem option?_eq_ok {a : String} :
    side.option? inside a = some (.ok side') ↔
      ∃ ss ending settled, Spells a.toList ss ending ∧ side.settle = .ok settled ∧
        settled.switches.Admit ss ∧ Does settled ss ending side' := by
  constructor
  · intro h
    unfold option? at h
    split at h
    · rename_i text htext
      obtain ⟨ss, ending, settled, hlong, hrest⟩ := long_eq_ok.mp (Option.some.inj h)
      exact ⟨ss, ending, settled, htext ▸ .long hlong, hrest⟩
    · rename_i c letters hne htext
      obtain ⟨settled, hsettled, hshort⟩ := short_cons_eq_ok.mp (Option.some.inj h)
      obtain ⟨ss, tail, ending, heq, htail, hadmitted, hdoes⟩ :=
        exists_of_short (waiting_of_settle hsettled) hshort
      refine ⟨ss, ending, settled, ?_, hsettled, hadmitted, hdoes⟩
      rw [htext, heq]
      exact .short htail (heq ▸ List.cons_ne_nil _ _)
    · cases h
  · rintro ⟨ss, ending, settled, hspells, hsettled, hadmitted, hdoes⟩
    unfold option?
    generalize a.toList = text at hspells
    cases hspells with
    | long hlong =>
      exact congrArg some (long_eq_ok.mpr ⟨ss, ending, settled, hlong, hsettled, hadmitted, hdoes⟩)
    | short htail hne =>
      obtain ⟨c, letters, hcons⟩ := List.exists_cons_of_ne_nil hne
      have hshort := @short_of_spelled _ _ inside _ _ _ htail (waiting_of_settle hsettled) hadmitted
        hdoes
      rw [hcons] at hshort ⊢
      have hdash := head_ne_dash htail hcons
      split
      · rename_i heq
        cases heq
        exact absurd rfl hdash
      · rename_i heq
        cases heq
        exact congrArg some (short_cons_eq_ok.mpr ⟨settled, hsettled, hshort⟩)
      · rename_i hnot
        exact absurd rfl (hnot c letters)

end Side

end Verbal.CommandLine
