import Verbal.Proofs.Extended.Runs

/-!
# Reading the pieces of verbs in extended patterns

The piece of a plain verb is one item of an extended pattern as well, `Verb.tree?`. A class is kept
as it is written.

* **`run_fragment`**: a piece is read as one item.
* `run_plainGroup`, `run_roundsGroup`, `run_class`: the groups and classes that verbs write.
* `run_plainClass`, `run_roundsAny`, `run_roundsBut`: what they write of a plain text.
-/

namespace Verbal

namespace Extended

/-- Characters that stand for themselves. -/
def Tree.ofText (text : List Char) : Tree := .ofItems (text.map (.literal · false))

/-- What tells that a class is negated. -/
def negation (negated : Bool) : List Char := if negated then ['^'] else []

/-- A class, which is kept as it is written. -/
def Tree.ofClass (negated : Bool) (text : List Char) : Tree :=
  .fragment ('[' :: (negation negated ++ (text ++ [']']))) false

end Extended

open Extended in
/-- The tree that the piece of a verb is read as. Settings have none. -/
def Verb.tree? : Verb → Option Tree
  | andThen value => some (Tree.ofText value.toList).enclosed
  | maybe value => some (.repetition 0 (some 1) true (Tree.ofText value.toList).enclosed)
  | anything => some (.repetition 0 none true (.any false))
  | anythingBut value => some (.repetition 0 none true (.ofClass true value.toList))
  | something => some (.repetition 1 none true (.any false))
  | somethingBut value => some (.repetition 1 none true (.ofClass true value.toList))
  | linebreak =>
    some (.plain (.alternate (.literal '\n' false) (Tree.ofText ['\r', '\n']).enclosed))
  | tab => some (.literal '\t' false)
  | word => some (.repetition 1 none true (.fragment "\\w".toList false))
  | anyOf value => some (.ofClass false value.toList)
  | range pairs => some (.ofClass false (pairs.flatMap rangeText))
  | _ => none

namespace Extended

/-! ## Classes -/

section Classes

variable {scope : Scope} {text read : List Char}

/-- The letters of a class are taken as they are; its brackets are counted. -/
theorem readBrackets_letters (h : ∀ c ∈ text, c ∉ ['\\', ']']) (depth : Nat) (r : List Char) :
    (readBrackets scope depth read (text ++ r)).text =
      (readBrackets scope (depth + text.count '[') (text.reverse ++ read) r).text := by
  induction text generalizing depth read with
  | nil => rfl
  | cons c text ih =>
    obtain ⟨hc, h⟩ := List.forall_mem_cons.mp h
    simp only [List.mem_cons, List.not_mem_nil, or_false, not_or] at hc
    rw [List.cons_append, readBrackets]
    by_cases hopen : c = '['
    · simp [hopen, ih h, Nat.add_assoc, Nat.add_comm 1]
    · simp [hc, hopen, ih h]

theorem readBrackets_close (r : List Char) :
    (readBrackets scope 0 read (']' :: r)).text = .ok (']' :: read, r) := by
  rw [readBrackets]
  simp

/-- A class in which there is an opening bracket is not closed by the first closing one. -/
theorem readBrackets_unclosed (h : ∀ c ∈ text, c ∉ ['\\', ']']) (hopen : '[' ∈ text) :
    (readBrackets scope 0 read (text ++ [']'])).text = .error .classInvalid := by
  have hdepth : text.count '[' ≠ 0 := mt List.count_eq_zero.mp (not_not_intro hopen)
  have hend (depth : Nat) (read : List Char) :
      (readBrackets scope depth read []).text = .error .classInvalid := by
    rw [readBrackets]
    rfl
  rw [readBrackets_letters h, Nat.zero_add, readBrackets]
  simp [hdepth, hend]

theorem readClass_letters {e : Char} (he : e ≠ '^')
    (h : ∀ c ∈ e :: text, c ∉ ['\\', '[', ']']) (negated : Bool) (r : List Char) :
    (readClass scope (negation negated ++ (e :: text ++ ']' :: r))).text =
      .ok ('[' :: (negation negated ++ (e :: text ++ [']'])), r) := by
  have hbracket : e ≠ ']' := by
    rintro rfl
    exact h ']' (by simp) (by simp)
  have hopening : classOpening (negation negated ++ (e :: text ++ ']' :: r)) =
      negation negated := by
    cases negated <;> simp [classOpening, negation, he, hbracket]
  have hletters : ∀ c ∈ e :: text, c ∉ ['\\', ']'] := fun c hc => by
    have := h c hc
    simp_all
  have hcount : (e :: text).count '[' = 0 := List.count_eq_zero.mpr fun hmem => h '[' hmem (by simp)
  rw [readClass_text, hopening, List.drop_left, readBrackets_letters hletters, hcount,
    readBrackets_close]
  cases negated <;> simp [negation, Except.map]

end Classes

/-! ## Reading pieces -/

section Pieces

variable {d : Draft} {c : Char} {s text rest : List Char} {n : Nat}

theorem run_plainGroup (hd : d.Ready 62) {items : List Tree}
    (hbody : ∀ e : Draft, e.Ready 63 →
      run e (text ++ ')' :: rest) = run (e.add items) (')' :: rest)) :
    run d ("(?:".toList ++ (text ++ ')' :: rest)) =
      run (d.push (Tree.ofItems items).enclosed) rest := by
  rw [run_open hd, hbody _ (hd.openLevel _)]
  have hopen := (hd.openLevel (.plain .none)).add items
  rw [Draft.openLevel_eq] at hopen ⊢
  rw [run_close hopen rfl, Draft.push_eq d]
  simp [Draft.leave, Draft.add, Draft.push, Draft.flush, Draft.body, Tree.ofBranches]

theorem run_charGroup (hd : d.Ready 62) (h : ∀ c ∈ text, IsPlainChar c) :
    run d ("(?:".toList ++ (text ++ ')' :: rest)) =
      run (d.push (Tree.ofText text).enclosed) rest :=
  run_plainGroup hd fun _ he => run_chars he h (isTame_cons (by decide) _)

/-- Rounds of one item in a group, as most verbs are written. -/
theorem run_roundsGroup (hd : d.Ready 62) {least : Nat}
    (hcount : countOf? c = some ⟨least, none⟩) {t : Tree} (ht : t.isRepeatable = true)
    (hitem : ∀ e : Draft, e.Ready 63 →
      run e (text ++ c :: ')' :: rest) = run (e.push t) (c :: ')' :: rest)) :
    run d ("(?:".toList ++ (text ++ c :: ')' :: rest)) =
      run (d.push (.repetition least none true t)) rest := by
  have hbody (e : Draft) (he : e.Ready 63) : run e (text ++ [c] ++ ')' :: rest) =
      run (e.add [.repetition least none true t]) (')' :: rest) := by
    rw [List.append_assoc, List.singleton_append, hitem e he,
      run_mark he _ hcount ht (isTame_cons (by decide) _)]
  simpa [Tree.ofItems, Tree.enclosed] using run_plainGroup hd hbody

theorem run_class (hd : d.Ready n) {e : Char} (he : e ≠ '^')
    (h : ∀ c ∈ e :: text, c ∉ ['\\', '[', ']']) (negated : Bool) (s : List Char) :
    run d ('[' :: (negation negated ++ (e :: text ++ ']' :: s))) =
      run (d.push (.ofClass negated (e :: text))) s := by
  refine run_step hd (by decide) ?_
  have hread := @readClass_letters d.scope _ _ he h negated s
  change Reading.text (Except.map _ (readClass d.scope _)) = _
  rw [Reading.eq_ok_of_text hread, hd.flags]
  rfl

theorem run_escape (hd : d.Ready n) {e : Escaped}
    (h : (readEscape d.scope false s).text = .ok (e, rest)) :
    run d ('\\' :: s) = run (d.pushEscaped e) rest := by
  refine run_step hd (by decide) ?_
  change Reading.text (Except.map _ (readEscape d.scope false s)) = _
  rw [Reading.eq_ok_of_text h]
  rfl

theorem run_linebreak (hd : d.Ready 61) (hs : IsTame rest) :
    run d ("(?:(?:\\n)|(?:\\r\\n))".toList ++ rest) =
      run (d.add Verb.linebreak.tree?.toList) rest := by
  have hescape {n : Nat} {e : Draft} (he : e.Ready n) (s : List Char) (hs : IsTame s) :
      run e ('\\' :: 'n' :: s) = run (e.add [.literal '\n' false]) s :=
    (run_escape (e := .letter '\n' false) he rfl).trans (run_push he nofun hs)
  have hescape' {n : Nat} {e : Draft} (he : e.Ready n) (s : List Char) (hs : IsTame s) :
      run e ('\\' :: 'r' :: s) = run (e.add [.literal '\r' false]) s :=
    (run_escape (e := .letter '\r' false) he rfl).trans (run_push he nofun hs)
  have hfirst {e : Draft} (he : e.Ready 62) (s : List Char) (hs : IsTame s) :
      run e ("(?:".toList ++ ("\\n".toList ++ ')' :: s)) =
        run (e.add [.literal '\n' false]) s :=
    (run_plainGroup he fun e he => hescape he _ (isTame_cons (by decide) s)).trans
      (run_push (t := .literal '\n' false) he nofun hs)
  have hsecond {e : Draft} (he : e.Ready 62) (s : List Char) (hs : IsTame s) :
      run e ("(?:".toList ++ ("\\r\\n".toList ++ ')' :: s)) =
        run (e.add [(Tree.ofText ['\r', '\n']).enclosed]) s := by
    refine (run_plainGroup he fun e he => ?_).trans (run_push he nofun hs)
    exact (hescape' he _ (isTame_cons (by decide) _)).trans
      ((hescape (he.add _) _ (isTame_cons (by decide) s)).trans (by rw [Draft.add_add]; rfl))
  have hopen := hd.openLevel (.plain .none)
  calc
    _ = run (d.openLevel (.plain .none)) ("(?:".toList ++ ("\\n".toList ++ ')' ::
          '|' :: ("(?:".toList ++ ("\\r\\n".toList ++ ')' :: ')' :: rest)))) :=
        run_open (hd.mono (by decide)) _
    _ = run ((d.openLevel (.plain .none)).add [.literal '\n' false])
          ('|' :: ("(?:".toList ++ ("\\r\\n".toList ++ ')' :: ')' :: rest))) :=
        hfirst hopen _ (isTame_cons (by decide) _)
    _ = run ((d.openLevel (.plain .none)).add [.literal '\n' false]).branch
          ("(?:".toList ++ ("\\r\\n".toList ++ ')' :: ')' :: rest)) :=
        run_step (hopen.add _) (by decide) rfl
    _ = _ := hsecond (hopen.add _).branch _ (isTame_cons (by decide) _)
    _ = run (d.push (.plain (.alternate (.literal '\n' false)
          (Tree.ofText ['\r', '\n']).enclosed))) rest := by
        have hlast := (hopen.add [.literal '\n' false]).branch.add
          [(Tree.ofText ['\r', '\n']).enclosed]
        rw [Draft.branch_eq, Draft.openLevel_eq] at hlast ⊢
        rw [run_close hlast rfl, Draft.push_eq d]
        rfl
    _ = _ := run_push hd nofun hs

/-- A class of the characters of a plain text. -/
theorem run_plainClass (hd : d.Ready n) {value : String} (h : IsPlainText value) (negated : Bool)
    (s : List Char) : run d ('[' :: (negation negated ++ (value.toList ++ ']' :: s))) =
      run (d.push (.ofClass negated value.toList)) s := by
  obtain ⟨c, text, htext⟩ := List.exists_cons_of_ne_nil (show value.toList ≠ [] by simpa using h.1)
  have hall := h.2
  rw [htext] at hall ⊢
  exact run_class hd ((List.forall_mem_cons.mp hall).1.ne rfl)
    (fun c hc => (hall c hc).notMem rfl) negated s

/-- Rounds of any character of a line. -/
theorem run_roundsAny (hd : d.Ready 61) {least : Nat} (hcount : countOf? c = some ⟨least, none⟩)
    (hs : IsTame rest) : run d ("(?:".toList ++ ('.' :: c :: ')' :: rest)) =
      run (d.add [.repetition least none true (.any false)]) rest := by
  refine (@run_roundsGroup _ _ ['.'] rest (hd.mono (by decide)) least hcount (.any false) rfl
    fun e he => ?_).trans (run_push hd nofun hs)
  refine run_step he (by decide) ?_
  change Reading.text (.ok (e.push (.any e.flags.dotAll), .all _)) = _
  rw [he.flags]
  rfl

/-- Rounds of any character that a plain text does not hold. -/
theorem run_roundsBut (hd : d.Ready 61) {least : Nat} (hcount : countOf? c = some ⟨least, none⟩)
    {value : String} (h : IsPlainText value) (hs : IsTame rest) :
    run d ("(?:[^".toList ++ (value.toList ++ ']' :: c :: ')' :: rest)) =
      run (d.add [.repetition least none true (.ofClass true value.toList)]) rest := by
  have htext : "(?:[^".toList ++ (value.toList ++ ']' :: c :: ')' :: rest) = "(?:".toList ++
      ('[' :: (negation true ++ (value.toList ++ [']'])) ++ c :: ')' :: rest) := by
    simp [negation]
  rw [htext]
  refine (run_roundsGroup (hd.mono (by decide)) hcount (t := .ofClass true value.toList) rfl
    fun e he => ?_).trans (run_push hd nofun hs)
  simpa using run_plainClass he h true (c :: ')' :: rest)

theorem enclosed_ofText {t : List Char} (h : t ≠ []) :
    (Tree.ofText t).enclosed ≠ .empty ∧ (Tree.ofText t).enclosed.isRepeatable = true := by
  obtain ⟨c, text, rfl⟩ := List.exists_cons_of_ne_nil h
  cases text <;> exact ⟨nofun, rfl⟩

/-- **A piece is read as one item**, whatever was read before it and whatever follows. -/
theorem run_fragment (hd : d.Ready 61) {v : Verb} (h : v.IsPiece) (hs : IsTame rest) :
    run d (v.fragment.toList ++ rest) = run (d.add v.tree?.toList) rest := by
  obtain ⟨hplain, halt⟩ := h
  have hd' : d.Ready 62 := hd.mono (by decide)
  cases v with
  | add _ => cases hplain
  | multiple _ => cases hplain
  | alt _ => cases halt
  | andThen value =>
    have htext : (Verb.andThen value).fragment.toList ++ rest =
        "(?:".toList ++ (value.toList ++ ')' :: rest) := by simp [Verb.fragment]
    obtain ⟨hne, -⟩ := enclosed_ofText (t := value.toList) (by simpa using hplain.1)
    rw [htext, run_charGroup hd' hplain.2]
    exact run_push hd hne hs
  | maybe value =>
    have htext : (Verb.maybe value).fragment.toList ++ rest =
        "(?:".toList ++ (value.toList ++ ')' :: '?' :: rest) := by simp [Verb.fragment]
    obtain ⟨-, hrepeatable⟩ := enclosed_ofText (t := value.toList) (by simpa using hplain.1)
    rw [htext, run_charGroup hd' hplain.2]
    exact run_mark hd ⟨0, some 1⟩ rfl hrepeatable hs
  | anything => exact run_roundsAny hd rfl hs
  | anythingBut value =>
    have htext : (Verb.anythingBut value).fragment.toList ++ rest =
        "(?:[^".toList ++ (value.toList ++ ']' :: '*' :: ')' :: rest) := by simp [Verb.fragment]
    rw [htext]
    exact run_roundsBut hd rfl hplain hs
  | something => exact run_roundsAny hd rfl hs
  | somethingBut value =>
    have htext : (Verb.somethingBut value).fragment.toList ++ rest =
        "(?:[^".toList ++ (value.toList ++ ']' :: '+' :: ')' :: rest) := by simp [Verb.fragment]
    rw [htext]
    exact run_roundsBut hd rfl hplain hs
  | linebreak => exact run_linebreak hd hs
  | tab =>
    exact (run_escape (e := .letter '\t' false) hd rfl).trans (run_push hd (by simp) hs)
  | word =>
    have hescape : run d ("\\w+".toList ++ rest) =
        run (d.push (.fragment "\\w".toList false)) ('+' :: rest) := by
      refine (run_escape (e := .fragment "\\w".toList true) hd rfl).trans ?_
      rw [Draft.pushEscaped, hd.flags]
      rfl
    exact hescape.trans (run_mark hd ⟨1, none⟩ rfl rfl hs)
  | anyOf value =>
    have htext : (Verb.anyOf value).fragment.toList ++ rest =
        '[' :: (negation false ++ (value.toList ++ ']' :: rest)) := by
      simp [Verb.fragment, negation]
    rw [htext, run_plainClass hd hplain]
    exact run_push hd (by simp [Tree.ofClass]) hs
  | range pairs =>
    obtain ⟨hne, hpairs⟩ := hplain
    obtain ⟨p, pairs, rfl⟩ := List.exists_cons_of_ne_nil hne
    have htext : (Verb.range (p :: pairs)).fragment.toList ++ rest =
        '[' :: (negation false ++ ((p :: pairs).flatMap rangeText ++ ']' :: rest)) := by
      simp [Verb.fragment, negation]
    have hall : ∀ c ∈ (p :: pairs).flatMap rangeText, c ∉ ['\\', '[', ']'] := by
      intro c hc
      obtain ⟨q, hq, hmem⟩ := List.mem_flatMap.mp hc
      obtain ⟨hlo, hhi, -⟩ := hpairs q hq
      simp only [rangeText, List.mem_cons, List.not_mem_nil, or_false] at hmem
      rcases hmem with rfl | rfl | rfl
      · exact hlo.notMem rfl
      · decide
      · exact hhi.notMem rfl
    rw [htext]
    exact (run_class hd ((List.forall_mem_cons.mp hpairs).1.1.ne rfl) hall false rest).trans
      (run_push hd (by simp [Tree.ofClass]) hs)
  -- What is left are the settings, which write nothing.
  | _ => exact (run_flush hd hs).symm.trans (congrArg (run · rest) (Draft.add_nil d).symm)

end Pieces

end Extended

end Verbal
