import Verbal.Proofs.CommandLine.Arguments
import Verbal.Proofs.CommandLine.Styles
import Verbal.Proofs.Modifiers

/-!
# What runs of the command show

A run shows its outcome by its exit code and by what it writes. Both depend on the expression, the
command and the backend alone: neither what is logged nor whether the run is verbose changes them,
and colors put fixed sequences into what is written, and nothing else.

* `display_inj`: without colors, what is shown of an expression tells it.
* **`runs_tell_outcomes`**: what each command exits with and writes, and what two runs have in
  common that differ in their log or in colors.
-/

namespace Verbal.CommandLine

/-! ## What is shown of an expression -/

/-- What is shown of modifiers, without colors. -/
def modifiersText (ms : Modifiers) : String :=
  if ms.isEmpty then "(none)" else ms.display

/-- The style that modifiers are shown in. -/
def modifiersStyle (ms : Modifiers) : Style :=
  if ms.isEmpty then .dimmed else .yellow

theorem toList_display (color : Bool) (e : Expression) :
    (display color e).toList = (Style.bold.apply color "Expression").toList ++
      ('\n' :: ("  Pattern:   ".toList ++ ((Style.cyan.apply color e.pattern).toList ++
        ('\n' :: ("  Modifiers: ".toList ++
          (((modifiersStyle e.modifiers).apply color (modifiersText e.modifiers)).toList ++
            ['\n'])))))) := by
  unfold display modifiersStyle modifiersText
  split <;> simp

/-- The last line of a text is told apart from what stands before it. -/
theorem lastLine_inj {a b line line' : List Char} (hline : '\n' ∉ line) (hline' : '\n' ∉ line')
    (h : a ++ '\n' :: line = b ++ '\n' :: line') : a = b ∧ line = line' := by
  rcases List.append_eq_append_iff.mp h with ⟨c, rfl, hc⟩ | ⟨c, rfl, hc⟩
  · cases c with
    | nil => simpa using hc
    | cons d c =>
      rw [List.cons_append, List.cons.injEq] at hc
      exact absurd (hc.2 ▸ by simp) hline
  · cases c with
    | nil => simpa [eq_comm] using hc
    | cons d c =>
      rw [List.cons_append, List.cons.injEq] at hc
      exact absurd (hc.2 ▸ by simp) hline'

theorem modifiersText_line (ms : Modifiers) :
    '\n' ∉ "  Modifiers: ".toList ++ (modifiersText ms).toList := by
  obtain ⟨g, m, i⟩ := ms
  cases g <;> cases m <;> cases i <;> decide +kernel

/-- A modifier is shown by its letter, which does not stand in what is shown for none. -/
theorem mem_modifiersText (ms : Modifiers) (n : Modifier) :
    n.toChar ∈ (modifiersText ms).toList ↔ ms.contains n = true := by
  obtain ⟨g, m, i⟩ := ms
  cases g <;> cases m <;> cases i <;> cases n <;> decide +kernel

theorem modifiersText_inj {ms ms' : Modifiers} (h : modifiersText ms = modifiersText ms') :
    ms = ms' :=
  Modifiers.eq_iff_contains.mpr fun n =>
    Bool.eq_iff_iff.mpr (by rw [← mem_modifiersText, ← mem_modifiersText, h])

/-- Without colors, what is shown of an expression tells its pattern and its modifiers, whatever
lines the pattern holds. -/
theorem display_inj {e e' : Expression} (h : display false e = display false e') :
    e.pattern = e'.pattern ∧ e.modifiers = e'.modifiers := by
  have htoList := congrArg String.toList h
  simp only [toList_display, Style.apply, List.append_cancel_left_eq, Bool.false_eq_true, if_false,
    List.cons.injEq, true_and] at htoList
  have hlines : e.pattern.toList ++
        '\n' :: ("  Modifiers: ".toList ++ (modifiersText e.modifiers).toList) =
      e'.pattern.toList ++
        '\n' :: ("  Modifiers: ".toList ++ (modifiersText e'.modifiers).toList) :=
    (List.append_left_inj ['\n']).mp (by simpa using htoList)
  obtain ⟨hpattern, hmodifiers⟩ :=
    lastLine_inj (modifiersText_line _) (modifiersText_line _) hlines
  exact ⟨String.toList_inj.mp hpattern,
    modifiersText_inj (String.toList_inj.mp (List.append_cancel_left hmodifiers))⟩

/-- Colors make no more of what is shown of an expression than a text in styles. -/
theorem recolored_display (e : Expression) : Recolored (display false e) (display true e) where
  adorned := by
    rw [toList_display, toList_display]
    exact (Adorned.apply _ _).append (.copied _ ((Adorned.refl _).append ((Adorned.apply _ _).append
      (.copied _ ((Adorned.refl _).append ((Adorned.apply _ _).append (.refl _)))))))
  bare := by
    have hplain (text : List Char) :
        Style.bare 0 ('\n' :: ("  Pattern:   ".toList ++ text)) =
          '\n' :: ("  Pattern:   ".toList ++ Style.bare 0 text) :=
      Style.bare_plain (p := '\n' :: "  Pattern:   ".toList) (by decide) text
    have hplain' (text : List Char) :
        Style.bare 0 ('\n' :: ("  Modifiers: ".toList ++ text)) =
          '\n' :: ("  Modifiers: ".toList ++ Style.bare 0 text) :=
      Style.bare_plain (p := '\n' :: "  Modifiers: ".toList) (by decide) text
    simp only [toList_display, Style.bare_apply_append (Style.firm_newline _), hplain, hplain']

/-! ## One run -/

section Reports

variable (color : Bool) (log : List String)

/-- A failure is all that is written of what fails. -/
def Report.Fails (r : Report) (color : Bool) (failure : Failure) : Prop :=
  r.stdout = "" ∧ r.stderr = Style.boldRed.apply color "Error:" ++ " " ++ failure.display

theorem exit_testReport (x : Except Failure Bool) :
    ((testReport color log x).exit = 0 ↔ x = .ok true) ∧
    ((testReport color log x).exit = 1 ↔ x = .ok false) ∧
    ((testReport color log x).exit = 2 ↔ ∃ failure, x = .error failure) := by
  cases x with
  | ok matched => cases matched <;> simp [testReport]
  | error failure => simp [testReport, failed]

theorem written_testReport (x : Except Failure Bool) :
    (∀ failure, x = .error failure → (testReport color log x).Fails color failure) ∧
      ((testReport color log x).exit ≠ 2 → (testReport color log x).stderr = "") := by
  cases x with
  | ok matched => cases matched <;> simp [testReport]
  | error failure => simp [testReport, failed, Report.Fails]

theorem exit_replaceReport (x : Except Failure String) :
    ((replaceReport color log x).exit = 0 ↔ ∃ result, x = .ok result) ∧
    ((replaceReport color log x).exit = 2 ↔ ∃ failure, x = .error failure) ∧
    ((replaceReport color log x).exit = 0 ∨ (replaceReport color log x).exit = 2) := by
  cases x <;> simp [replaceReport, failed]

theorem written_replaceReport (x : Except Failure String) :
    (∀ result, x = .ok result → (replaceReport color log x).stdout = result ++ "\n") ∧
    (∀ failure, x = .error failure → (replaceReport color log x).Fails color failure) ∧
      ((replaceReport color log x).exit ≠ 2 → (replaceReport color log x).stderr = "") := by
  cases x <;> simp [replaceReport, failed, Report.Fails]

end Reports

namespace Invocation

/-- Whether what an invocation asks the library for fails, and how. -/
def Fails (i : Invocation) (backend : Backend) (failure : Failure) : Prop :=
  match i.command with
  | .display => False
  | .test input => i.expression.test backend input = .error failure
  | .replace source replacement => i.expression.replace backend source replacement = .error failure

/-- What an invocation has to come to: nothing is evaluated to show an expression, the exit code
tells how a test or a replacement came out, and of a failure of the library nothing but its text is
written. -/
structure ComesTo (i : Invocation) (backend : Backend) (color : Bool) (r : Report) : Prop where
  shown : i.command = .display →
    i.events backend = [] ∧ r = ⟨0, display color i.expression, "", []⟩
  tested : ∀ input, i.command = .test input →
    (r.exit = 0 ↔ i.expression.test backend input = .ok true) ∧
    (r.exit = 1 ↔ i.expression.test backend input = .ok false) ∧
    (r.exit = 2 ↔ ∃ failure, i.expression.test backend input = .error failure)
  replaced : ∀ source replacement, i.command = .replace source replacement →
    (r.exit = 0 ↔ ∃ result, i.expression.replace backend source replacement = .ok result) ∧
    (r.exit = 2 ↔ ∃ failure,
      i.expression.replace backend source replacement = .error failure) ∧
    (r.exit = 0 ∨ r.exit = 2) ∧
    ∀ result, i.expression.replace backend source replacement = .ok result →
      r.stdout = result ++ "\n"
  failed : r.exit = 2 → ∃ failure, i.Fails backend failure ∧ r.Fails color failure
  quiet : r.exit ≠ 2 → r.stderr = ""

section

variable {i : Invocation} {backend : Backend} {color : Bool}

theorem comesTo_testReport {input : String} (h : i.command = .test input) (log : List String) :
    i.ComesTo backend color (testReport color log (i.expression.test backend input)) := by
  have hexit := exit_testReport color log (i.expression.test backend input)
  have hwritten := written_testReport color log (i.expression.test backend input)
  refine ⟨fun h' => ?_, fun input' h' => ?_, fun _ _ h' => ?_, fun hfailed => ?_, hwritten.2⟩
  · cases h.symm.trans h'
  · cases h.symm.trans h'
    exact hexit
  · cases h.symm.trans h'
  · obtain ⟨failure, hfailure⟩ := hexit.2.2.mp hfailed
    exact ⟨failure, by rwa [Fails, h], hwritten.1 failure hfailure⟩

theorem comesTo_replaceReport {source replacement : String}
    (h : i.command = .replace source replacement) (log : List String) :
    i.ComesTo backend color
      (replaceReport color log (i.expression.replace backend source replacement)) := by
  have hexit := exit_replaceReport color log (i.expression.replace backend source replacement)
  have hwritten := written_replaceReport color log (i.expression.replace backend source replacement)
  refine ⟨fun h' => ?_, fun input' h' => ?_, fun _ _ h' => ?_, fun hfailed => ?_, hwritten.2.2⟩
  · cases h.symm.trans h'
  · cases h.symm.trans h'
  · cases h.symm.trans h'
    exact ⟨hexit.1, hexit.2.1, hexit.2.2, hwritten.1⟩
  · obtain ⟨failure, hfailure⟩ := hexit.2.1.mp hfailed
    exact ⟨failure, by rwa [Fails, h], hwritten.2.1 failure hfailure⟩

end

theorem comesTo_report (i : Invocation) (backend : Backend) (color : Bool)
    (logs : Event → Bool) : i.ComesTo backend color (i.report backend color logs) := by
  obtain ⟨command, steps, switches⟩ := i
  cases command with
  | display => constructor <;> simp [report, events, logLines]
  | test input => exact comesTo_testReport rfl _
  | replace source replacement => exact comesTo_replaceReport rfl _

/-! ## Two runs -/

/-- An invocation with the switch for verbose runs off. -/
def quiet (i : Invocation) : Invocation :=
  { i with switches := { i.switches with verbose := false } }

theorem expression_quiet (i : Invocation) : i.quiet.expression = i.expression := rfl

theorem report_quiet (i : Invocation) (backend : Backend) (color : Bool) (logs : Event → Bool) :
    i.quiet.report backend color logs = i.report backend color logs := rfl

/-- What is logged is all that depends on what is to be logged. -/
theorem report_logs (i : Invocation) (backend : Backend) (color : Bool)
    (logs logs' : Event → Bool) :
    ∃ log, i.report backend color logs' = { i.report backend color logs with log := log } := by
  obtain ⟨command, steps, switches⟩ := i
  cases command with
  | display => exact ⟨_, rfl⟩
  | test input =>
    refine ⟨logLines logs' (events ⟨.test input, steps, switches⟩ backend), ?_⟩
    simp only [report]
    cases Expression.test _ backend input with
    | ok matched => cases matched <;> rfl
    | error failure => rfl
  | replace source replacement =>
    refine ⟨logLines logs' (events ⟨.replace source replacement, steps, switches⟩ backend), ?_⟩
    simp only [report]
    cases Expression.replace _ backend source replacement <;> rfl

end Invocation

/-- Whether a report is another in colors. -/
structure Report.Recolored (plain colored : Report) : Prop where
  exit : colored.exit = plain.exit
  log : colored.log = plain.log
  stdout : CommandLine.Recolored plain.stdout colored.stdout
  stderr : CommandLine.Recolored plain.stderr colored.stderr

theorem recolored_failed (failure : Failure) (log : List String) :
    (failed false failure log).Recolored (failed true failure log) := by
  refine ⟨rfl, rfl, .refl _, ?_⟩
  simp only [failed, String.append_assoc]
  exact recolored_apply _ _ (by simpa using Style.firm_space _)

/-- Colors change nothing but what is written, and there they only put sequences in. -/
theorem Invocation.recolored_report (i : Invocation) (backend : Backend) (logs : Event → Bool) :
    (i.report backend false logs).Recolored (i.report backend true logs) := by
  obtain ⟨command, steps, switches⟩ := i
  cases command with
  | display => exact ⟨rfl, rfl, recolored_display _, .refl _⟩
  | test input =>
    simp only [report]
    cases Expression.test _ backend input with
    | ok matched =>
      cases matched with
      | true => exact ⟨rfl, rfl, recolored_apply _ _ (Style.firm_newline _), .refl _⟩
      | false => exact ⟨rfl, rfl, recolored_apply _ _ (Style.firm_newline _), .refl _⟩
    | error failure => exact recolored_failed failure _
  | replace source replacement =>
    simp only [report]
    cases Expression.replace _ backend source replacement with
    | ok result => exact ⟨rfl, rfl, .refl _, .refl _⟩
    | error failure => exact recolored_failed failure _

section Lines

variable {arguments : List String} {i : Invocation}

/-- A run can be made verbose in front. -/
theorem readArguments_verbose (h : readArguments arguments = .ok i)
    (hquiet : i.switches.verbose = false) :
    readArguments ("-v" :: arguments) =
      .ok { i with switches := { i.switches with verbose := true } } := by
  obtain ⟨front, name, rest, before, behind, rfl, ss, ss', values, hfront, hss, hrest, hss',
    hcommand, hsteps, hon⟩ := readArguments_eq_ok.mp h
  have hverbose : Switch.verbose ∉ ss := fun hmem =>
    Bool.false_ne_true (hquiet.symm.trans ((hon .verbose).mpr (.inl hmem)))
  have hspells : Spells "-v".toList [.verbose] .nothing :=
    @Spells.short [.verbose] _ _ .nothing (by simp)
  refine readArguments_eq_ok.mpr ⟨"-v" :: front, name, rest, before, behind, rfl, .verbose :: ss,
    ss', values, .option hspells .nothing hfront, List.nodup_cons.mpr ⟨hverbose, hss⟩, hrest, hss',
    hcommand, hsteps, fun s => ?_⟩
  rw [List.mem_cons, or_assoc, ← hon s]
  cases s <;> simp [Switches.isOn]

/-- **What runs tell.** Of every accepted command line, on every backend, in colors or without, and
whatever is logged: the run comes to what its invocation has to come to. Two runs that differ in how
verbose they are and in what is logged have the same expression, exit code and output, and every
line can be made verbose; of two runs that differ in colors, one is the other in colors; and without
colors, what is shown tells the pattern and the modifiers. -/
theorem runs_tell_outcomes (h : readArguments arguments = .ok i) :
    (∀ around, run around arguments =
      i.report around.backend around.color (around.logs i.switches.verbose)) ∧
    (∀ backend color logs, i.ComesTo backend color (i.report backend color logs)) ∧
    (∀ arguments' j, readArguments arguments' = .ok j → j.quiet = i.quiet →
      j.expression = i.expression ∧ ∀ backend color logs logs',
        ∃ log, j.report backend color logs' = { i.report backend color logs with log := log }) ∧
    (i.switches.verbose = false → ∃ j, readArguments ("-v" :: arguments) = .ok j ∧
      j.quiet = i.quiet ∧ j.switches.verbose = true) ∧
    (∀ backend logs, (i.report backend false logs).Recolored (i.report backend true logs)) ∧
    ∀ arguments' j, readArguments arguments' = .ok j →
      i.command = .display → j.command = .display → ∀ backend backend' logs logs',
        (i.report backend false logs).stdout = (j.report backend' false logs').stdout →
          i.expression.pattern = j.expression.pattern ∧
            i.expression.modifiers = j.expression.modifiers := by
  refine ⟨fun around => ?_, i.comesTo_report, fun _ j _ hj => ?_, fun hquiet => ?_,
    i.recolored_report, fun _ j _ hi hj backend backend' logs logs' hshown => ?_⟩
  · rw [run, h]
    rfl
  · refine ⟨?_, fun backend color logs logs' => ?_⟩
    · rw [← j.expression_quiet, hj, i.expression_quiet]
    · rw [← j.report_quiet, hj, i.report_quiet]
      exact i.report_logs backend color logs logs'
  · refine ⟨_, readArguments_verbose h hquiet, ?_, rfl⟩
    simp [Invocation.quiet]
  · rw [((i.comesTo_report backend false logs).shown hi).2,
      ((j.comesTo_report backend' false logs').shown hj).2] at hshown
    exact display_inj hshown

/-- An expression that no backend accepts is shown all the same, and fails to be tested. -/
theorem runs_tell_outcomes_of_refused :
    ∃ i j, readArguments ["-s", "any=", "show"] = .ok i ∧
      readArguments ["-s", "any=", "test", "a"] = .ok j ∧ i.expression = j.expression ∧
      (∀ around, run around ["-s", "any=", "show"] =
        ⟨0, display around.color i.expression, "", []⟩) ∧
      ∀ around, (run around ["-s", "any=", "test", "a"]).exit = 2 ∧
        (run around ["-s", "any=", "test", "a"]).stdout = "" := by
  have hshow : readArguments ["-s", "any=", "show"] = .ok ⟨.display, [.anyOf ""], .none⟩ := by
    decide +kernel
  have htest : readArguments ["-s", "any=", "test", "a"] = .ok ⟨.test "a", [.anyOf ""], .none⟩ := by
    decide +kernel
  refine ⟨_, _, hshow, htest, rfl, fun around => ?_, fun around => ?_⟩
  · obtain ⟨hrun, hcomes, -⟩ := runs_tell_outcomes hshow
    rw [hrun]
    exact ((hcomes _ _ _).shown rfl).2
  · obtain ⟨hrun, hcomes, -⟩ := runs_tell_outcomes htest
    have hcomesTo := hcomes around.backend around.color (around.logs false)
    have hexit := (hcomesTo.tested "a" rfl).2.2.mpr <| exists_error_of_isNone <| by
      cases around.backend <;> decide +kernel
    obtain ⟨_, _, hstdout, -⟩ := hcomesTo.failed hexit
    rw [hrun]
    exact ⟨hexit, hstdout⟩

end Lines

end Verbal.CommandLine
