import Verbal.Proofs.Failures

/-!
# Reuse of a compiled pattern

What a compiled pattern keeps is state that no answer shows. Only a match of the whole text asks for
it, a clone starts out with it, and when it cannot be built nothing is kept, so that the next match
of the whole text tries again. Each state is therefore one of two: as compiled, or with what is
built for the pattern.

* **`Compiled.reused`**: after any questions, the answers to the next ones are those of a pattern
  that was compiled just now, and what is kept is what is built for this pattern and this flag, once
  a match of the whole text was asked for.
-/

namespace Verbal

/-- Whether a question is for a match of the whole text. -/
def Query.isFullMatch : Query → Bool
  | fullMatch _ => true
  | _ => false

namespace Compiled

/-- The compiled pattern after some questions; after a clone, it is the clone. -/
def afterAll (c : Compiled) (qs : List Query) : Compiled :=
  qs.foldl after c

/-- The compiled pattern with what is built for it, if anything can be. -/
def filled (c : Compiled) : Compiled :=
  { c with anchored := (c.backend.buildAnchored c.anyCase c.pattern).toOption }

variable (c : Compiled) (qs rs : List Query)

/-! ## One question -/

theorem anchor_of_fresh (h : c.anchored = none) : c.anchor = c.filled := by
  obtain ⟨backend, pattern, anyCase, search, anchored⟩ := c
  subst h
  simp only [anchor, anchoredProgram, filled]
  cases backend.buildAnchored anyCase pattern <;> rfl

/-- What was built is kept, and what could not be built still cannot. -/
theorem anchor_filled : c.filled.anchor = c.filled := by
  simp only [anchor, anchoredProgram, filled]
  cases hbuild : c.backend.buildAnchored c.anyCase c.pattern with
  | ok program => rfl
  | error f => simp [Except.toOption]

theorem after_of_fresh (h : c.anchored = none) (q : Query) :
    c.after q = if q.isFullMatch then c.filled else c := by
  cases q with
  | fullMatch text => exact c.anchor_of_fresh h
  | _ => rfl

theorem after_filled (q : Query) : c.filled.after q = c.filled := by
  cases q with
  | fullMatch text => exact c.anchor_filled
  | _ => rfl

/-! ## All of them -/

theorem afterAll_filled : c.filled.afterAll qs = c.filled := by
  induction qs with
  | nil => rfl
  | cons q qs ih => rw [afterAll, List.foldl_cons, after_filled, ← afterAll, ih]

theorem afterAll_of_fresh (h : c.anchored = none) :
    c.afterAll qs = if qs.any Query.isFullMatch then c.filled else c := by
  induction qs with
  | nil => rfl
  | cons q qs ih =>
    rw [afterAll, List.foldl_cons, after_of_fresh c h, List.any_cons, ← afterAll]
    cases q.isFullMatch with
    | true => exact c.afterAll_filled qs
    | false => exact ih

/-- What is asked later is answered in the state that was left. -/
theorem answers_append :
    c.answers (qs ++ rs) = c.answers qs ++ (c.afterAll qs).answers rs := by
  induction qs generalizing c with
  | nil => rfl
  | cons q qs ih => exact congrArg _ (ih (c.after q))

theorem answer_afterAll (q : Query) : (c.afterAll qs).answer q = c.answer q := by
  induction qs generalizing c with
  | nil => rfl
  | cons r qs ih => exact (ih (c.after r)).trans (c.answer_after r q)

variable {c} {backend : Backend} {pattern : String} {anyCase : Bool}

/-- **A compiled pattern can be reused.** Whatever was asked of it, or of the clones it was replaced
by, each answer is the one that the same question gets from a pattern compiled for it alone, a
failure included. What has to cover the whole text is kept only if a match of the whole text was
asked for, and then it is what is built for this pattern and this flag; what cannot be built leaves
the compiled pattern as it was. -/
theorem reused (h : backend.compile pattern anyCase = .ok c) (qs : List Query) :
    c.answers qs = qs.map (fun q => (backend.compile pattern anyCase).bind (·.answer q)) ∧
    (∀ q, (c.afterAll qs).answer q = (backend.compile pattern anyCase).bind (·.answer q)) ∧
    c.afterAll qs = (if qs.any Query.isFullMatch then c.filled else c) ∧
    (∀ program, (c.afterAll qs).anchored = some program →
      backend.buildAnchored anyCase pattern = .ok program ∧ ∃ text, .fullMatch text ∈ qs) ∧
    ∀ f, backend.buildAnchored anyCase pattern = .error f → c.afterAll qs = c := by
  have hanswer : ∀ q, (backend.compile pattern anyCase).bind (·.answer q) = c.answer q :=
    fun q => by rw [h]; rfl
  obtain ⟨search, -, rfl⟩ := compile_eq_ok.mp h
  have hstate := afterAll_of_fresh ⟨backend, pattern, anyCase, search, none⟩ qs rfl
  refine ⟨?_, fun q => ?_, hstate, fun program hprogram => ?_, fun f hf => ?_⟩
  · simp only [hanswer, answers_eq_map]
  · rw [hanswer, answer_afterAll]
  · rw [hstate] at hprogram
    split at hprogram
    · rename_i hasked
      obtain ⟨q, hq, hfull⟩ := List.any_eq_true.mp hasked
      refine ⟨toOption_eq_some.mp hprogram, ?_⟩
      cases q with
      | fullMatch text => exact ⟨text, hq⟩
      | _ => cases hfull
    · cases hprogram
  · rw [hstate]
    split
    · simp only [filled, hf, Except.toOption]
    · rfl

/-- A pattern whose tests are all refused is searched for as before, and so is its clone. -/
theorem reused_of_mixed_references :
    ∃ c, Backend.extended.compile "(?<n>a)|\\1" false = .ok c ∧
      c.afterAll [.fullMatch "a", .clone, .search "a", .fullMatch "b"] = c ∧
      c.answers [.fullMatch "a", .clone, .search "a"] =
        [c.answer (.fullMatch "a"), .ok .cloned, .ok (.bool true)] := by
  obtain ⟨c, hc⟩ := exists_ok_of_isSome
    (x := Backend.extended.compile "(?<n>a)|\\1" false) (by decide +kernel)
  obtain ⟨f, hf⟩ := exists_error_of_isNone
    (x := Backend.extended.buildAnchored false "(?<n>a)|\\1") (by decide +kernel)
  have hsearch : (Backend.extended.compile "(?<n>a)|\\1" false).bind (·.answer (.search "a")) =
      .ok (.bool true) := by
    decide +kernel
  refine ⟨c, hc, (reused hc _).2.2.2.2 f hf, ?_⟩
  rw [(reused hc _).1]
  simp only [List.map_cons, List.map_nil, hsearch]
  rw [hc]
  rfl

end Compiled

end Verbal
