import Verbal.Proofs.CommandLine.Options

/-!
# What command lines say

The reader of command lines goes through a state for each side of the command's name. Here the
arguments on one side are described without it, by what they say one after the other.

* `Written` tells what the arguments on one side say, and `Asks` what both sides ask for.
* **`readArguments_eq_ok`**: which command lines are accepted, and what they ask for. The steps are
  those after the command's name if there are any, and else those before it.
* `readArguments_move`: when options can be moved to the other side.
-/

namespace Verbal.CommandLine

/-! ## One side of the command's name -/

/-- Whether an argument can be a value where options are read. -/
def isPlain (a : String) : Bool :=
  match a.toList with
  | '-' :: _ :: _ => false
  | _ => true

/-- What the end of an option says: whether the value of a step comes next, and the verb of a step
that has its value. -/
inductive Ending.Means : Ending → Bool → List Verb → Prop
  | nothing : Means .nothing false []
  | awaiting : Means .awaiting true []
  | step {text : String} {verb : Verb} : Says text.toList verb → Means (.step text) false [verb]

/-- What the arguments on one side of the command's name say: the switches that they turn on, the
verbs of their steps, and the values among them, which stand only behind the name. The first flag
tells the side, the second whether the value of a step comes next. -/
inductive Written (inside : Bool) :
    Bool → List String → List Switch → List Verb → List String → Prop
  | nil : Written inside false [] [] [] []
  | option {a : String} {arguments values : List String} {ss ss' : List Switch} {ending : Ending}
    {awaiting : Bool} {verbs verbs' : List Verb} : Spells a.toList ss ending →
    ending.Means awaiting verbs → Written inside awaiting arguments ss' verbs' values →
    Written inside false (a :: arguments) (ss ++ ss') (verbs ++ verbs') values
  | text {text : String} {arguments values : List String} {ss : List Switch} {verb : Verb}
    {verbs : List Verb} : isPlain text = true → Says text.toList verb →
    Written inside false arguments ss verbs values →
    Written inside true (text :: arguments) ss (verb :: verbs) values
  | value {a : String} {arguments values : List String} {ss : List Switch} {verbs : List Verb} :
    inside = true → isPlain a = true → Written inside false arguments ss verbs values →
    Written inside false (a :: arguments) ss verbs (a :: values)
  | literal (values : List String) : inside = true →
    Written inside false ("--" :: values) [] [] values

namespace Side

variable {side side' settled : Side} {inside : Bool} {a : String}

theorem option?_eq_none : side.option? inside a = none ↔ isPlain a = true := by
  unfold option? isPlain
  split
  · simp [‹a.toList = _›]
  · simp [‹a.toList = _›]
  · rename_i hlong hshort
    refine iff_of_true rfl ?_
    split
    · rename_i c letters heq
      exact absurd heq (hshort c letters)
    · rfl

theorem ne_dashes_of_option? (h : side.option? inside a = some (.ok side')) : a ≠ "--" := by
  rintro rfl
  cases h

/-- How a side stands towards one on which nothing waits: it only has to look at a value, or the
value of a step comes next. -/
def Stands (side settled : Side) : Bool → Prop
  | false => side.settle = .ok settled
  | true => settled.waiting = .nothing ∧ side = { settled with waiting := .value }

/-- A side with more verbs and switches. -/
def more (side : Side) (verbs : List Verb) (ss : List Switch) : Side :=
  ⟨side.steps ++ verbs, side.switches.turnOnAll ss, .nothing⟩

theorem more_more (verbs verbs' : List Verb) (ss ss' : List Switch) :
    (side.more verbs ss).more verbs' ss' = side.more (verbs ++ verbs') (ss ++ ss') := by
  simp [more, Switches.turnOnAll]

theorem more_nil (h : side.waiting = .nothing) : side.more [] [] = side := by
  simp [more, Switches.turnOnAll, ← h]

theorem Stands.waiting {awaiting : Bool} (h : side.Stands settled awaiting) :
    settled.waiting = .nothing := by
  cases awaiting with
  | false => exact waiting_of_settle h
  | true => exact h.1

theorem exists_means {ss : List Switch} {ending : Ending} (h : Does settled ss ending side') :
    ∃ awaiting verbs, ending.Means awaiting verbs ∧
      side'.Stands (settled.more verbs ss) awaiting := by
  cases h with
  | nothing => exact ⟨false, [], .nothing, by simp [Stands, more, settle]⟩
  | awaiting => exact ⟨true, [], .awaiting, by simp [Stands, more]⟩
  | step hsaid => exact ⟨false, _, .step hsaid, rfl⟩

theorem exists_does {ending : Ending} {awaiting : Bool} {verbs : List Verb}
    (h : ending.Means awaiting verbs) (settled : Side) (ss : List Switch) :
    ∃ side', Does settled ss ending side' ∧ side'.Stands (settled.more verbs ss) awaiting := by
  cases h with
  | nothing => exact ⟨_, .nothing, by simp [Stands, more, settle]⟩
  | awaiting => exact ⟨_, .awaiting, by simp [Stands, more]⟩
  | step hsaid => exact ⟨_, .step hsaid, rfl⟩

/-- A value that was given is looked at later. -/
theorem stands_of_given {text : String} {verb : Verb} (h : side.Stands settled true)
    (hsaid : Says text.toList verb) :
    ({ side with waiting := .given text } : Side).Stands (settled.more [verb] []) false := by
  obtain ⟨-, rfl⟩ := h
  exact addStep_eq_ok.mpr ⟨verb, hsaid, rfl⟩

theorem exists_of_given {text : String} {awaiting : Bool} (hwaiting : side.waiting = .value)
    (h : ({ side with waiting := .given text } : Side).Stands settled awaiting) :
    awaiting = false ∧ ∃ before verb, Says text.toList verb ∧ side.Stands before true ∧
      settled = before.more [verb] [] := by
  cases awaiting with
  | true => cases congrArg Side.waiting h.2
  | false =>
    obtain ⟨verb, hsaid, rfl⟩ := addStep_eq_ok.mp h
    refine ⟨rfl, { side with waiting := .nothing }, verb, hsaid, ⟨rfl, ?_⟩, rfl⟩
    rw [← hwaiting]

/-- A side stands in one way only. -/
theorem Stands.unique {other : Side} {awaiting awaiting' : Bool} (h : side.Stands settled awaiting)
    (h' : side.Stands other awaiting') : settled = other ∧ awaiting = awaiting' := by
  cases awaiting with
  | false =>
    cases awaiting' with
    | false => exact ⟨Except.ok.inj (h.symm.trans h'), rfl⟩
    | true =>
      rw [h'.2] at h
      cases h
  | true =>
    cases awaiting' with
    | false =>
      rw [h.2] at h'
      cases h'
    | true =>
      obtain ⟨hwaiting, rfl⟩ := h
      obtain ⟨hwaiting', heq⟩ := h'
      obtain ⟨steps, switches, waiting⟩ := settled
      obtain ⟨steps', switches', waiting'⟩ := other
      simp_all

theorem stands_self (h : side.waiting = .nothing) : side.Stands side false := settle_of_nothing h

end Side

section Inside

variable {arity : Nat} {taken values arguments : List String} {side side' inner : Side} {a : String}

theorem readInside_option (h : side.option? true a = some (.ok side')) :
    readInside arity taken false side (a :: arguments) =
      readInside arity taken false side' arguments := by
  rw [readInside]
  simp only [h, if_neg (Side.ne_dashes_of_option? h), Bool.false_eq_true, if_false]

/-- After two dashes, all are values. -/
theorem readInside_literal (htaken : taken.length ≤ arity) :
    readInside arity taken true side arguments = .ok (inner, values) ↔
      side.settle = .ok inner ∧ values = taken.reverse ++ arguments ∧ values.length ≤ arity := by
  induction arguments generalizing taken side with
  | nil =>
    simp only [readInside, map_eq_ok, Prod.mk.injEq, List.append_nil]
    constructor
    · rintro ⟨settled, hsettled, rfl, rfl⟩
      exact ⟨hsettled, rfl, by simpa using htaken⟩
    · rintro ⟨hsettled, rfl, -⟩
      exact ⟨inner, hsettled, rfl, rfl⟩
  | cons a arguments ih =>
    rw [readInside]
    simp only [if_true]
    split
    · rename_i hroom
      have hagain {settled : Side} (h : side.settle = .ok settled) :
          settled.settle = .ok settled :=
        Side.settle_of_nothing (Side.waiting_of_settle h)
      have hrest (settled : Side) := @ih (a :: taken) settled hroom
      simp only [bind_eq_ok, hrest, List.reverse_cons, List.append_assoc, List.singleton_append]
      constructor
      · rintro ⟨settled, hsettled, hinner, hvalues⟩
        cases (hagain hsettled).symm.trans hinner
        exact ⟨hsettled, hvalues⟩
      · rintro ⟨hsettled, hvalues⟩
        exact ⟨inner, hsettled, hagain hsettled, hvalues⟩
    · rename_i hfull
      refine iff_of_false nofun ?_
      rintro ⟨-, rfl, hlength⟩
      simp at hlength
      omega

/-- Behind two dashes, at which no value is expected. -/
theorem readInside_dashes :
    readInside arity taken false side ("--" :: arguments) =
      readInside arity taken true side arguments := by
  rw [readInside]
  simp

/-- The value of a step that begins in an argument of its own. -/
theorem readInside_given (hplain : isPlain a = true) (hwaiting : side.waiting = .value) :
    readInside arity taken false side (a :: arguments) =
      readInside arity taken false { side with waiting := .given a } arguments := by
  have hdashes : a ≠ "--" := by
    rintro rfl
    cases hplain
  rw [readInside]
  simp [Side.option?_eq_none.mpr hplain, hdashes, hwaiting]

/-- A value of the command. -/
theorem readInside_value (hplain : isPlain a = true) (hwaiting : side.waiting ≠ .value) :
    readInside arity taken false side (a :: arguments) =
      if taken.length < arity then
        side.settle.bind fun side => readInside arity (a :: taken) false side arguments
      else .error .argumentUnknown := by
  have hdashes : a ≠ "--" := by
    rintro rfl
    cases hplain
  rw [readInside]
  simp [Side.option?_eq_none.mpr hplain, hdashes, hwaiting]

/-- What is written behind the command's name is read so. -/
theorem readInside_of_written {awaiting : Bool} {settled : Side} {ss : List Switch}
    {verbs : List Verb} (h : Written true awaiting arguments ss verbs values)
    (hstands : side.Stands settled awaiting) (hadmitted : settled.switches.Admit ss)
    (hlength : taken.length + values.length ≤ arity) :
    readInside arity taken false side arguments =
      .ok (settled.more verbs ss, taken.reverse ++ values) := by
  induction h generalizing side settled taken with
  | nil =>
    have hwaiting := hstands.waiting
    rw [readInside, hstands, Side.more_nil hwaiting, List.append_nil]
    rfl
  | option hspells hmeans _ ih =>
    obtain ⟨hfirst, hrest⟩ := Switches.admit_append.mp hadmitted
    obtain ⟨side', hdoes, hstands'⟩ := Side.exists_does hmeans settled _
    rw [readInside_option (Side.option?_eq_ok.mpr ⟨_, _, settled, hspells, hstands, hfirst, hdoes⟩),
      ih hstands' hrest hlength, Side.more_more]
  | text hplain hsaid _ ih =>
    rw [readInside_given hplain (by rw [hstands.2]), ih (Side.stands_of_given hstands hsaid) hadmitted
      hlength, Side.more_more]
    rfl
  | value _ hplain _ ih =>
    rw [List.length_cons] at hlength
    have hroom : taken.length < arity := by omega
    rw [readInside_value hplain (Side.waiting_ne_value hstands), if_pos hroom, hstands]
    refine (ih (Side.stands_self hstands.waiting) hadmitted ?_).trans ?_
    · rw [List.length_cons]
      omega
    · rw [List.reverse_cons, List.append_assoc, List.singleton_append]
  | literal values _ =>
    rw [readInside_dashes, Side.more_nil hstands.waiting]
    exact (readInside_literal (by omega)).mpr ⟨hstands, rfl, by simpa using hlength⟩

/-- What is read behind the command's name is written so. -/
theorem exists_written_of_readInside (htaken : taken.length ≤ arity)
    (h : readInside arity taken false side arguments = .ok (inner, values)) :
    ∃ awaiting settled ss verbs rest, side.Stands settled awaiting ∧
      Written true awaiting arguments ss verbs rest ∧ settled.switches.Admit ss ∧
      inner = settled.more verbs ss ∧ values = taken.reverse ++ rest := by
  induction arguments generalizing side taken with
  | nil =>
    simp only [readInside, map_eq_ok, Prod.mk.injEq] at h
    obtain ⟨settled, hsettled, rfl, rfl⟩ := h
    refine ⟨false, settled, [], [], [], hsettled, .nil, Switches.admit_nil _, ?_, by simp⟩
    exact (Side.more_nil (Side.waiting_of_settle hsettled)).symm
  | cons a arguments ih =>
    by_cases hdashes : a = "--"
    · rw [hdashes, readInside_dashes, readInside_literal htaken] at h
      obtain ⟨hsettled, rfl, -⟩ := h
      rw [hdashes]
      refine ⟨false, inner, [], [], arguments, hsettled, .literal _ rfl, Switches.admit_nil _, ?_,
        rfl⟩
      exact (Side.more_nil (Side.waiting_of_settle hsettled)).symm
    · cases hoption : side.option? true a with
      | some outcome =>
        cases outcome with
        | error refusal =>
          rw [readInside] at h
          simp [hdashes, hoption] at h
        | ok side' =>
          obtain ⟨ss, ending, settled, hspells, hsettled, hfirst, hdoes⟩ :=
            Side.option?_eq_ok.mp hoption
          obtain ⟨awaiting, verbs, hmeans, hstands⟩ := Side.exists_means hdoes
          rw [readInside_option hoption] at h
          obtain ⟨awaiting', settled', ss', verbs', rest, hstands', hwritten, hadmitted, rfl, rfl⟩ :=
            ih htaken h
          obtain ⟨rfl, rfl⟩ := hstands.unique hstands'
          exact ⟨false, settled, ss ++ ss', verbs ++ verbs', rest, hsettled,
            .option hspells hmeans hwritten, Switches.admit_append.mpr ⟨hfirst, hadmitted⟩,
            Side.more_more .., rfl⟩
      | none =>
        have hplain := Side.option?_eq_none.mp hoption
        by_cases hwaiting : side.waiting = .value
        · rw [readInside_given hplain hwaiting] at h
          obtain ⟨awaiting', settled', ss, verbs, rest, hstands', hwritten, hadmitted, rfl, rfl⟩ :=
            ih htaken h
          obtain ⟨rfl, settled, verb, hsaid, hstands, rfl⟩ := Side.exists_of_given hwaiting hstands'
          exact ⟨true, settled, ss, verb :: verbs, rest, hstands, .text hplain hsaid hwritten, hadmitted,
            Side.more_more .., rfl⟩
        · rw [readInside_value hplain hwaiting] at h
          split at h
          · rename_i hroom
            obtain ⟨settled, hsettled, hnext⟩ := bind_eq_ok.mp h
            obtain ⟨awaiting', settled', ss', verbs', rest, hstands', hwritten, hadmitted, rfl, rfl⟩ :=
              @ih (a :: taken) settled hroom hnext
            obtain ⟨rfl, rfl⟩ := (Side.stands_self (Side.waiting_of_settle hsettled)).unique hstands'
            exact ⟨false, settled, ss', verbs', a :: rest, hsettled, .value rfl hplain hwritten,
              hadmitted, rfl, by simp⟩
          · cases h

end Inside

/-! ## Both sides -/

section Outside

variable {side side' : Side} {arguments : List String} {a : String} {i : Invocation}

theorem isPlain_of_commandArity? {arity : Nat} (h : commandArity? a = some arity) :
    isPlain a = true := by
  unfold commandArity? at h
  split at h
  · rfl
  · rfl
  · rfl
  · cases h

theorem readOutside_option (h : side.option? false a = some (.ok side')) :
    readOutside false side (a :: arguments) = readOutside false side' arguments := by
  have hplain : isPlain a = false := by
    rw [← Bool.not_eq_true, ← Side.option?_eq_none, h]
    nofun
  have harity : commandArity? a = none := by
    cases harity : commandArity? a with
    | none => rfl
    | some arity => simp [isPlain_of_commandArity? harity] at hplain
  have hhelp : a ≠ "help" := by
    rintro rfl
    cases hplain
  rw [readOutside]
  simp [h, harity, hhelp, Side.ne_dashes_of_option? h]

theorem readOutside_given (hplain : isPlain a = true) (hwaiting : side.waiting = .value) :
    readOutside false side (a :: arguments) =
      readOutside false { side with waiting := .given a } arguments := by
  have hdashes : a ≠ "--" := by
    rintro rfl
    cases hplain
  rw [readOutside]
  simp [Side.option?_eq_none.mpr hplain, hdashes, hwaiting]

theorem readOutside_name {arity : Nat} (harity : commandArity? a = some arity)
    (hwaiting : side.waiting ≠ .value) :
    readOutside false side (a :: arguments) =
      (readInside arity [] false .empty arguments).bind fun (inner, values) =>
        invocation a side inner values := by
  have hhelp : a ≠ "help" := by
    rintro rfl
    cases harity
  rw [readOutside]
  simp [harity, hwaiting, hhelp]

/-- No command's name is read after two dashes. -/
theorem readOutside_literal_ne_ok : readOutside true side arguments ≠ .ok i := by
  cases arguments with
  | nil =>
    intro h
    obtain ⟨_, -, hrefused⟩ := bind_eq_ok.mp h
    cases hrefused
  | cons a arguments => nofun

/-- An argument at which a command line is accepted is an option, the value of a step, or the name
of a command. -/
theorem readOutside_cons_cases (h : readOutside false side (a :: arguments) = .ok i) :
    (∃ side', side.option? false a = some (.ok side')) ∨
      side.waiting = .value ∧ isPlain a = true ∨
      side.waiting ≠ .value ∧ ∃ arity, commandArity? a = some arity := by
  cases hoption : side.option? false a with
  | some outcome =>
    cases outcome with
    | ok side' => exact Or.inl ⟨side', rfl⟩
    | error refusal =>
      have hplain : isPlain a = false := by
        rw [← Bool.not_eq_true, ← Side.option?_eq_none, hoption]
        nofun
      exfalso
      rw [readOutside] at h
      simp only [hoption, Bool.false_eq_true, if_false] at h
      split at h
      · split at h
        · exact readOutside_literal_ne_ok h
        · cases h
      · split at h
        · cases h
        · split at h
          · rename_i harity
            simp [isPlain_of_commandArity? harity] at hplain
          · split at h
            · exact readOutside_literal_ne_ok h
            · cases h
  | none =>
    have hplain := Side.option?_eq_none.mp hoption
    by_cases hwaiting : side.waiting = .value
    · exact Or.inr (Or.inl ⟨hwaiting, hplain⟩)
    · refine Or.inr (Or.inr ⟨hwaiting, ?_⟩)
      rw [readOutside] at h
      simp only [hoption, hwaiting, Bool.false_eq_true, if_false] at h
      split at h
      · cases h
      · split at h
        · exact ⟨_, ‹_›⟩
        · split at h
          · exact absurd h readOutside_literal_ne_ok
          · cases h

end Outside

/-- Whether what stands before and behind the name of a command says steps and asks for an
invocation. The steps behind the name take the place of those before it. -/
def Asks (front : List String) (name : String) (rest : List String) (before behind : List Verb)
    (i : Invocation) : Prop :=
  ∃ ss ss' values, Written false false front ss before [] ∧ ss.Nodup ∧
    Written true false rest ss' behind values ∧ ss'.Nodup ∧
    commandOf name values = some i.command ∧
    i.steps = (if behind.isEmpty then before else behind) ∧
    ∀ s, i.switches.isOn s = true ↔ s ∈ ss ∨ s ∈ ss'

section Lines

variable {side settled : Side} {arguments : List String} {i : Invocation}

/-- What the name of a command and the arguments behind it make of the side before it. -/
def Side.Becomes (side : Side) (name : String) (rest : List String) (i : Invocation) : Prop :=
  ∃ arity inner values, commandArity? name = some arity ∧
    readInside arity [] false .empty rest = .ok (inner, values) ∧
    invocation name side inner values = .ok i

/-- A value that waits before the command's name is looked at in the end. -/
theorem invocation_settle (h : side.settle = .ok settled) (name : String) (inner : Side)
    (values : List String) :
    invocation name side inner values = invocation name settled inner values := by
  simp only [invocation, h, Side.settle_of_nothing (Side.waiting_of_settle h)]

/-- What is written before the command's name is read so. -/
theorem readOutside_of_written {awaiting : Bool} {front rest values : List String} {name : String}
    {ss : List Switch} {verbs : List Verb} (h : Written false awaiting front ss verbs values)
    (hstands : side.Stands settled awaiting) (hadmitted : settled.switches.Admit ss)
    (hbecomes : (settled.more verbs ss).Becomes name rest i) :
    readOutside false side (front ++ name :: rest) = .ok i := by
  induction h generalizing side settled with
  | nil =>
    rw [Side.more_nil hstands.waiting] at hbecomes
    obtain ⟨arity, inner, taken, harity, hinside, hinvocation⟩ := hbecomes
    rw [List.nil_append, readOutside_name harity (Side.waiting_ne_value hstands), hinside]
    exact (invocation_settle hstands name inner taken).trans hinvocation
  | option hspells hmeans _ ih =>
    obtain ⟨hfirst, hrest⟩ := Switches.admit_append.mp hadmitted
    obtain ⟨side', hdoes, hstands'⟩ := Side.exists_does hmeans settled _
    rw [List.cons_append, readOutside_option
      (Side.option?_eq_ok.mpr ⟨_, _, settled, hspells, hstands, hfirst, hdoes⟩)]
    exact ih hstands' hrest (Side.more_more .. ▸ hbecomes)
  | text hplain hsaid _ ih =>
    rw [List.cons_append, readOutside_given hplain (by rw [hstands.2])]
    exact ih (Side.stands_of_given hstands hsaid) hadmitted (Side.more_more .. ▸ hbecomes)
  | value hinside => cases hinside
  | literal _ hinside => cases hinside

/-- What is read before the command's name is written so. -/
theorem exists_written_of_readOutside (h : readOutside false side arguments = .ok i) :
    ∃ awaiting settled front name rest ss verbs, side.Stands settled awaiting ∧
      arguments = front ++ name :: rest ∧ Written false awaiting front ss verbs [] ∧
      settled.switches.Admit ss ∧ (settled.more verbs ss).Becomes name rest i := by
  induction arguments generalizing side with
  | nil =>
    obtain ⟨_, -, hrefused⟩ := bind_eq_ok.mp h
    cases hrefused
  | cons a arguments ih =>
    rcases readOutside_cons_cases h with ⟨side', hoption⟩ | ⟨hwaiting, hplain⟩ |
      ⟨hwaiting, arity, harity⟩
    · obtain ⟨ss, ending, settled, hspells, hsettled, hfirst, hdoes⟩ :=
        Side.option?_eq_ok.mp hoption
      obtain ⟨awaiting, verbs, hmeans, hstands⟩ := Side.exists_means hdoes
      rw [readOutside_option hoption] at h
      obtain ⟨awaiting', settled', front, name, rest, ss', verbs', hstands', rfl, hwritten, hadmitted,
        hbecomes⟩ := ih h
      obtain ⟨rfl, rfl⟩ := hstands.unique hstands'
      exact ⟨false, settled, a :: front, name, rest, ss ++ ss', verbs ++ verbs', hsettled, rfl,
        .option hspells hmeans hwritten, Switches.admit_append.mpr ⟨hfirst, hadmitted⟩,
        Side.more_more .. ▸ hbecomes⟩
    · rw [readOutside_given hplain hwaiting] at h
      obtain ⟨awaiting', settled', front, name, rest, ss, verbs, hstands', rfl, hwritten, hadmitted,
        hbecomes⟩ := ih h
      obtain ⟨rfl, settled, verb, hsaid, hstands, rfl⟩ := Side.exists_of_given hwaiting hstands'
      rw [Side.more_more] at hbecomes
      exact ⟨true, settled, a :: front, name, rest, ss, verb :: verbs, hstands, rfl,
        .text hplain hsaid hwritten, hadmitted, hbecomes⟩
    · rw [readOutside_name harity hwaiting] at h
      obtain ⟨⟨inner, values⟩, hinside, hinvocation⟩ := bind_eq_ok.mp h
      obtain ⟨settled, hsettled⟩ : ∃ settled, side.settle = .ok settled := by
        simp only [invocation] at hinvocation
        split at hinvocation
        · cases hinvocation
        · obtain ⟨settled, hsettled, -⟩ := map_eq_ok.mp hinvocation
          exact ⟨settled, hsettled⟩
      refine ⟨false, settled, [], a, arguments, [], [], hsettled, rfl, .nil, Switches.admit_nil _, ?_⟩
      rw [Side.more_nil (Side.waiting_of_settle hsettled)]
      exact ⟨arity, inner, values, harity, hinside,
        (invocation_settle hsettled a inner values).symm.trans hinvocation⟩

theorem commandArity?_of_commandOf {name : String} {values : List String} {command : Command}
    (h : commandOf name values = some command) : commandArity? name = some values.length := by
  unfold commandOf at h
  split at h
  · rfl
  · rfl
  · rfl
  · cases h

/-- What both sides say makes the invocation. -/
theorem invocation_eq_ok {name : String} {before behind : List Verb} {ss ss' : List Switch}
    {values : List String} :
    invocation name (Side.empty.more before ss) (Side.empty.more behind ss') values = .ok i ↔
      commandOf name values = some i.command ∧
      i.steps = (if behind.isEmpty then before else behind) ∧
      ∀ s, i.switches.isOn s = true ↔ s ∈ ss ∨ s ∈ ss' := by
  have hon (ts : List Switch) (s : Switch) :
      (Switches.none.turnOnAll ts).isOn s = true ↔ s ∈ ts := by
    rw [Switches.isOn_turnOnAll, Switches.isOn_none]
    exact or_iff_right Bool.false_ne_true
  have hswitches : i.switches = (Switches.none.turnOnAll ss).union (Switches.none.turnOnAll ss') ↔
      ∀ s, i.switches.isOn s = true ↔ s ∈ ss ∨ s ∈ ss' := by
    refine ⟨fun h s => ?_, fun h => Switches.ext_isOn fun s => ?_⟩
    · rw [h, Switches.isOn_union, hon, hon]
    · rw [h, Switches.isOn_union, hon, hon]
  rw [← hswitches]
  unfold invocation
  cases commandOf name values with
  | none => simp
  | some command =>
    obtain ⟨command', steps, switches⟩ := i
    rw [Side.settle_of_nothing (show (Side.empty.more before ss).waiting = .nothing from rfl)]
    simp only [Except.map, Except.ok.injEq, Option.some.injEq, Invocation.mk.injEq,
      Side.more, Side.empty, List.nil_append]
    exact and_congr Iff.rfl (and_congr eq_comm eq_comm)

/-- **Which command lines are accepted, and what they ask for.** -/
theorem readArguments_eq_ok :
    readArguments arguments = .ok i ↔
      ∃ front name rest before behind, arguments = front ++ name :: rest ∧
        Asks front name rest before behind i := by
  have hempty : Side.empty.Stands .empty false := rfl
  constructor
  · intro h
    obtain ⟨awaiting, settled, front, name, rest, ss, before, hstands, rfl, hfront, hadmitted, arity,
      inner, values, harity, hinside, hinvocation⟩ := exists_written_of_readOutside h
    obtain ⟨rfl, rfl⟩ := hempty.unique hstands
    obtain ⟨awaiting', settled', ss', behind, values', hstands', hrest, hadmitted', rfl, rfl⟩ :=
      exists_written_of_readInside (Nat.zero_le arity) hinside
    obtain ⟨rfl, rfl⟩ := hempty.unique hstands'
    exact ⟨front, name, rest, before, behind, rfl, ss, ss', values, hfront,
      Switches.admit_none.mp hadmitted, hrest, Switches.admit_none.mp hadmitted',
      invocation_eq_ok.mp hinvocation⟩
  · rintro ⟨front, name, rest, before, behind, rfl, ss, ss', values, hfront, hss, hrest, hss',
      hcommand, hi⟩
    refine readOutside_of_written hfront hempty (Switches.admit_none.mpr hss) ?_
    have hinside : readInside values.length [] false .empty rest =
        .ok (Side.empty.more behind ss', values) :=
      readInside_of_written hrest hempty (Switches.admit_none.mpr hss') (Nat.zero_add _).le
    exact ⟨values.length, _, values, commandArity?_of_commandOf hcommand, hinside,
      invocation_eq_ok.mpr ⟨hcommand, hi⟩⟩

/-! ## Options on the other side -/

/-- Options before the name of a command may stand behind it. -/
theorem Written.inside {awaiting : Bool} {values : List String} {ss : List Switch}
    {verbs : List Verb} (h : Written false awaiting arguments ss verbs values) :
    Written true awaiting arguments ss verbs values := by
  induction h with
  | nil => exact .nil
  | option hspells hmeans _ ih => exact .option hspells hmeans ih
  | text hplain hsaid _ ih => exact .text hplain hsaid ih
  | value hinside => cases hinside
  | literal _ hinside => cases hinside

/-- What options say and what is written behind them add up. -/
theorem Written.append {inside awaiting : Bool} {front rest taken values : List String}
    {ss ss' : List Switch} {before behind : List Verb}
    (h : Written false awaiting front ss before taken)
    (hrest : Written inside false rest ss' behind values) :
    Written inside awaiting (front ++ rest) (ss ++ ss') (before ++ behind) values := by
  induction h with
  | nil => exact hrest
  | option hspells hmeans _ ih =>
    rw [List.append_assoc, List.append_assoc]
    exact .option hspells hmeans ih
  | text hplain hsaid _ ih => exact .text hplain hsaid ih
  | value hinside => cases hinside
  | literal _ hinside => cases hinside

/-- Options can be moved to the other side of the command's name if there are no steps but among
them, and no switch comes twice. -/
theorem readArguments_move {front moved rest values : List String} {name : String}
    {ss ss' ss'' : List Switch} {verbs : List Verb} {command : Command}
    (hfront : Written false false front ss [] []) (hmoved : Written false false moved ss' verbs [])
    (hrest : Written true false rest ss'' [] values) (hnodup : (ss ++ ss' ++ ss'').Nodup)
    (hcommand : commandOf name values = some command) :
    ∃ i, readArguments (front ++ moved ++ name :: rest) = .ok i ∧
      readArguments (front ++ name :: (moved ++ rest)) = .ok i ∧ i.steps = verbs := by
  have hss := (List.nodup_append.mp hnodup).1
  have hss' := (List.nodup_append.mp (List.append_assoc ss ss' ss'' ▸ hnodup)).2.1
  have hon (ts ts' : List Switch) (s : Switch) :
      ((Switches.none.turnOnAll (ts ++ ts')).isOn s = true ↔ s ∈ ts ∨ s ∈ ts') := by
    rw [Switches.isOn_turnOnAll, Switches.isOn_none, List.mem_append]
    exact or_iff_right Bool.false_ne_true
  refine ⟨⟨command, verbs, Switches.none.turnOnAll (ss ++ ss' ++ ss'')⟩,
    readArguments_eq_ok.mpr ⟨front ++ moved, name, rest, verbs, [], rfl, ss ++ ss', ss'', values, ?_⟩,
    readArguments_eq_ok.mpr ⟨front, name, moved ++ rest, [], verbs, rfl, ss, ss' ++ ss'', values, ?_⟩,
    rfl⟩
  · exact ⟨hfront.append hmoved, hss, hrest, (List.nodup_append.mp hnodup).2.1, hcommand, rfl, hon _ _⟩
  · refine ⟨hfront, (List.nodup_append.mp hss).1, ?_, hss', hcommand, ?_, ?_⟩
    · simpa using hmoved.append hrest
    · cases verbs <;> rfl
    · rw [List.append_assoc]
      exact hon _ _

/-- **Which steps count.** Of an accepted command line, the expression is built of the steps behind
the command's name if there are any, and else of those before it; so every step counts iff one of
the sides has none. -/
theorem Invocation.expression_of_arguments (h : readArguments arguments = .ok i) :
    ∃ front name rest before behind, arguments = front ++ name :: rest ∧
      Asks front name rest before behind i ∧
      i.expression = { Expression.ofVerbs (if behind.isEmpty then before else behind) with
        modifiers := i.switches.modifiers } ∧
      (i.steps = before ++ behind ↔ before = [] ∨ behind = []) := by
  obtain ⟨front, name, rest, before, behind, rfl, hasks⟩ := readArguments_eq_ok.mp h
  have hsteps : i.steps = if behind.isEmpty then before else behind := by
    obtain ⟨-, -, -, -, -, -, -, -, hsteps, -⟩ := hasks
    exact hsteps
  refine ⟨front, name, rest, before, behind, rfl, hasks, ?_, ?_⟩
  · rw [← hsteps]
    exact i.expression_eq
  · rw [hsteps]
    cases behind with
    | nil => simp
    | cons verb behind => simp

/-- The steps before the name of a command are what is built. -/
theorem Invocation.expression_of_arguments_of_show :
    ∃ i, readArguments ["-s", "start", "-s=tab", "show", "-ig"] = .ok i ∧
      i.expression.pattern = "^\\t" ∧
      ∃ front name rest before behind,
        ["-s", "start", "-s=tab", "show", "-ig"] = front ++ name :: rest ∧
        Asks front name rest before behind i ∧
        (i.steps = before ++ behind ↔ before = [] ∨ behind = []) := by
  have hread : readArguments ["-s", "start", "-s=tab", "show", "-ig"] =
      .ok ⟨.display, [.startOfLine true, .tab], ⟨true, false, true, false⟩⟩ := by decide +kernel
  obtain ⟨front, name, rest, before, behind, hline, hasks, -, hcount⟩ :=
    Invocation.expression_of_arguments hread
  exact ⟨_, hread, by decide +kernel, front, name, rest, before, behind, hline, hasks, hcount⟩

/-- Steps on both sides do not all count: those before the command's name are lost, and the
expression changes when they are moved behind it. -/
theorem exists_step_lost :
    ∃ i j, readArguments ["-s", "then=a", "show", "-s", "then=b"] = .ok i ∧
      readArguments ["show", "-s", "then=a", "-s", "then=b"] = .ok j ∧
      i.expression = Expression.ofVerbs [.andThen "b"] ∧
      j.expression = Expression.ofVerbs [.andThen "a", .andThen "b"] ∧
      i.expression ≠ j.expression := by
  refine ⟨⟨.display, [.andThen "b"], .none⟩, ⟨.display, [.andThen "a", .andThen "b"], .none⟩, ?_⟩
  decide +kernel

end Lines

end Verbal.CommandLine
