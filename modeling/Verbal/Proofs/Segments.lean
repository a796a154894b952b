import Verbal.Proofs.History
import Verbal.Regular.Escape

/-!
# Segments of a chain of verbs

The alternatives cut a chain of verbs into segments, each of which but the first begins with what
its alternative looks for. The body of the expression is the texts of the segments with `)|(`
between them, so that whether its parentheses are balanced is up to what stands around it.

* `Verb.IsPlain`: the verbs with arguments in which no character has a meaning of its own.
* **`toList_pattern`**: the pattern of a chain, read off its segments.
* `altSince_of_last`: whether the parentheses around the body are there is up to the anchors after
  the last alternative.
-/

namespace Verbal

/-! ## Plain verbs -/

/-- Whether a character stands for itself wherever it is written. -/
def IsPlainChar (c : Char) : Prop := Regular.isMeta c = false

instance (c : Char) : Decidable (IsPlainChar c) := inferInstanceAs (Decidable (_ = _))

theorem IsPlainChar.ne {c d : Char} (h : IsPlainChar c) (hd : Regular.isMeta d = true) :
    c ≠ d := by
  rintro rfl
  rw [IsPlainChar, hd] at h
  cases h

theorem IsPlainChar.notMem {c : Char} (h : IsPlainChar c) {cs : List Char}
    (hcs : cs.all Regular.isMeta = true) : c ∉ cs :=
  fun hmem => h.ne (List.all_eq_true.mp hcs c hmem) rfl

/-- Whether a text is not empty and stands for itself. -/
def IsPlainText (text : String) : Prop := text ≠ "" ∧ ∀ c ∈ text.toList, IsPlainChar c

instance (text : String) : Decidable (IsPlainText text) :=
  have : Decidable (∀ c ∈ text.toList, IsPlainChar c) := List.decidableBAll _ _
  inferInstanceAs (Decidable (_ ∧ _))

theorem IsPlainText.toList_ne_nil {text : String} (h : IsPlainText text) : text.toList ≠ [] := by
  simpa using h.1

/-- Whether there are ranges, all of them between plain bounds in the right order. -/
def ArePlainRanges (pairs : List (Char × Char)) : Prop :=
  pairs ≠ [] ∧ ∀ p ∈ pairs, IsPlainChar p.1 ∧ IsPlainChar p.2 ∧ p.1 ≤ p.2

instance (pairs : List (Char × Char)) : Decidable (ArePlainRanges pairs) :=
  have : Decidable (∀ p ∈ pairs, IsPlainChar p.1 ∧ IsPlainChar p.2 ∧ p.1 ≤ p.2) :=
    List.decidableBAll _ _
  inferInstanceAs (Decidable (_ ∧ _))

/-- Whether no bound of a range ends the class that it is written in, begins an escape or is taken
for a dash. -/
def IsLegibleRange (p : Char × Char) : Prop :=
  p.1 ∉ ['\\', ']', '-'] ∧ p.2 ∉ ['\\', ']', '-'] ∧ p.1 ≤ p.2

instance (p : Char × Char) : Decidable (IsLegibleRange p) := inferInstanceAs (Decidable (_ ∧ _))

/-- Whether there are ranges, all of them legible and the first one without a caret in front. -/
structure AreLegibleRanges (pairs : List (Char × Char)) : Prop where
  ne_nil : pairs ≠ []
  first : pairs.head?.map Prod.fst ≠ some '^'
  ranges : ∀ p ∈ pairs, IsLegibleRange p

instance (pairs : List (Char × Char)) : Decidable (AreLegibleRanges pairs) :=
  have : Decidable (∀ p ∈ pairs, IsLegibleRange p) := List.decidableBAll _ _
  decidable_of_iff
    (pairs ≠ [] ∧ pairs.head?.map Prod.fst ≠ some '^' ∧ ∀ p ∈ pairs, IsLegibleRange p)
    ⟨fun ⟨h1, h2, h3⟩ => ⟨h1, h2, h3⟩, fun h => ⟨h.1, h.2, h.3⟩⟩

theorem ArePlainRanges.legible {pairs : List (Char × Char)} (h : ArePlainRanges pairs) :
    AreLegibleRanges pairs where
  ne_nil := h.1
  first hfirst := by
    obtain ⟨p, hp, hcaret⟩ := Option.map_eq_some_iff.mp hfirst
    exact (h.2 p (List.mem_of_mem_head? hp)).1.ne (d := '^') rfl hcaret
  ranges p hp := by
    obtain ⟨hlo, hhi, hle⟩ := h.2 p hp
    exact ⟨hlo.notMem rfl, hhi.notMem rfl, hle⟩

theorem ArePlainRanges.lower_ne {pairs : List (Char × Char)} (h : ArePlainRanges pairs) :
    ∀ p ∈ pairs, p.1 ≠ '[' :=
  fun p hp => (h.2 p hp).1.ne rfl

namespace Verb

/-- Whether a verb has plain arguments. What is added as it is written is not plain. -/
def IsPlain : Verb → Prop
  | add _ => False
  | multiple _ => False
  | andThen value => IsPlainText value
  | maybe value => IsPlainText value
  | anythingBut value => IsPlainText value
  | somethingBut value => IsPlainText value
  | anyOf value => IsPlainText value
  | alt value => IsPlainText value
  | range pairs => ArePlainRanges pairs
  | _ => True

instance (v : Verb) : Decidable v.IsPlain := by
  cases v <;> unfold IsPlain <;> infer_instance

/-- Whether a verb is plain and begins no alternative. -/
def IsPiece (v : Verb) : Prop := v.IsPlain ∧ v.isAlt = false

/-- Whether a verb is about an anchor. -/
def isAnchor (v : Verb) : Bool := v.startAnchor?.isSome || v.endAnchor?.isSome

theorem eq_alt_or_isAlt (v : Verb) : (∃ value, v = alt value) ∨ v.isAlt = false := by
  cases v <;> first | exact Or.inl ⟨_, rfl⟩ | exact Or.inr rfl

end Verb

/-! ## Segments -/

/-- The segments of a chain: an alternative begins another one with what it looks for. -/
def segments : List Verb → List (List Verb)
  | [] => [[]]
  | .alt value :: verbs => [] :: (segments verbs).modifyHead (.andThen value :: ·)
  | v :: verbs => (segments verbs).modifyHead (v :: ·)

/-- What the verbs of a segment add to the body. -/
def segmentText (segment : List Verb) : List Char := segment.flatMap fun v => v.fragment.toList

/-- The text of segments, each in a group but for the parentheses at both ends. -/
def joinedText (segments : List (List Verb)) : List Char :=
  ")|(".toList.intercalate (segments.map segmentText)

section Segments

variable {verbs : List Verb}

theorem segments_cons {v : Verb} (h : v.isAlt = false) (verbs : List Verb) :
    segments (v :: verbs) = (segments verbs).modifyHead (v :: ·) := by
  cases v <;> first | rfl | simp [Verb.isAlt] at h

theorem exists_segments (verbs : List Verb) : ∃ s ss, segments verbs = s :: ss := by
  induction verbs with
  | nil => exact ⟨[], [], rfl⟩
  | cons v verbs ih =>
    obtain ⟨s, ss, ih⟩ := ih
    rcases v.eq_alt_or_isAlt with ⟨value, rfl⟩ | h
    · exact ⟨_, _, rfl⟩
    · exact ⟨v :: s, ss, by rw [segments_cons h, ih]; rfl⟩

/-- There is one segment if there is no alternative, and there are more if there is one. -/
theorem one_lt_length_segments (verbs : List Verb) :
    1 < (segments verbs).length ↔ verbs.any Verb.isAlt = true := by
  induction verbs with
  | nil => simp [segments]
  | cons v verbs ih =>
    rcases v.eq_alt_or_isAlt with ⟨value, rfl⟩ | h
    · obtain ⟨s, ss, hs⟩ := exists_segments verbs
      simp [segments, hs, Verb.isAlt]
    · rw [segments_cons h, List.length_modifyHead, ih, List.any_cons, h, Bool.false_or]

/-- What holds of the verbs of a chain, and of the pieces that stand for its alternatives, holds of
the verbs of the segments. -/
theorem forall_mem_segments {P : Verb → Prop} (hverbs : ∀ v ∈ verbs, v.isAlt = false → P v)
    (halt : ∀ value, .alt value ∈ verbs → P (.andThen value)) :
    ∀ s ∈ segments verbs, ∀ v ∈ s, P v := by
  induction verbs with
  | nil => simp [segments]
  | cons v verbs ih =>
    obtain ⟨s, ss, hs⟩ := exists_segments verbs
    have ih := ih (fun w hw => hverbs w (List.mem_cons_of_mem v hw))
      fun value hvalue => halt value (List.mem_cons_of_mem v hvalue)
    rw [hs, List.forall_mem_cons] at ih
    rcases v.eq_alt_or_isAlt with ⟨value, rfl⟩ | h
    · simp only [segments, hs, List.modifyHead_cons, List.forall_mem_cons]
      exact ⟨fun _ => nofun, ⟨halt value (List.mem_cons_self ..), ih.1⟩, ih.2⟩
    · rw [segments_cons h, hs, List.modifyHead_cons]
      exact List.forall_mem_cons.mpr ⟨List.forall_mem_cons.mpr
        ⟨hverbs v (List.mem_cons_self ..) h, ih.1⟩, ih.2⟩

theorem joinedText_cons (s : List Verb) {ss : List (List Verb)} (h : ss ≠ []) :
    joinedText (s :: ss) = segmentText s ++ ")|(".toList ++ joinedText ss := by
  obtain ⟨t, ss, rfl⟩ := List.exists_cons_of_ne_nil h
  simp only [joinedText, List.map_cons, List.intercalate_cons_cons, List.append_assoc]

theorem joinedText_modifyHead (v : Verb) {ss : List (List Verb)} (h : ss ≠ []) :
    joinedText (ss.modifyHead (v :: ·)) = v.fragment.toList ++ joinedText ss := by
  obtain ⟨s, ss, rfl⟩ := List.exists_cons_of_ne_nil h
  cases ss with
  | nil => simp [joinedText, segmentText]
  | cons t ss =>
    rw [List.modifyHead_cons, joinedText_cons _ (List.cons_ne_nil t ss),
      joinedText_cons s (List.cons_ne_nil t ss)]
    simp [segmentText]

/-- The pieces of a chain are the texts of its segments. -/
theorem flatMap_fragment (verbs : List Verb) :
    verbs.flatMap (fun v => v.fragment.toList) = joinedText (segments verbs) := by
  induction verbs with
  | nil => rfl
  | cons v verbs ih =>
    obtain ⟨s, ss, hs⟩ := exists_segments verbs
    have hne : segments verbs ≠ [] := by simp [hs]
    rw [List.flatMap_cons, ih]
    rcases v.eq_alt_or_isAlt with ⟨value, rfl⟩ | h
    · rw [segments, joinedText_cons _ (by simp [hs]), joinedText_modifyHead _ hne]
      simp [segmentText, Verb.fragment]
    · rw [segments_cons h, joinedText_modifyHead _ hne]

/-! ### What stands behind a piece -/

/-- Whether a text begins with nothing by which the item in front of it goes on, and not with a
comment in parentheses. -/
def IsTame (t : List Char) : Prop :=
  (∀ c ∈ ['?', '*', '+', '\x7b'], t.head? ≠ some c) ∧ ¬"(?#".toList <+: t

theorem isTame_nil : IsTame [] := by simp [IsTame]

theorem isTame_cons {c : Char} (h : c ∉ ['?', '*', '+', '\x7b', '(']) (t : List Char) :
    IsTame (c :: t) := by
  simp_all [IsTame, eq_comm]

theorem isTame_plain {s t : List Char} (h : ∀ c ∈ s, IsPlainChar c) (ht : IsTame t) :
    IsTame (s ++ t) := by
  cases s with
  | nil => exact ht
  | cons c s =>
    have hmeta : ['?', '*', '+', '\x7b', '('].all Regular.isMeta = true := rfl
    exact isTame_cons
      (fun hc => (List.forall_mem_cons.mp h).1.ne (List.all_eq_true.mp hmeta c hc) rfl) _

theorem isTame_group (t : List Char) : IsTame ("(?:".toList ++ t) := by simp [IsTame]

theorem isTame_parenthesis {t : List Char} (h : IsTame t) : IsTame ('(' :: t) := by
  refine ⟨by simp, fun ⟨u, hu⟩ => h.1 '?' (by simp) ?_⟩
  obtain rfl := (List.cons.inj hu).2
  rfl

theorem Verb.IsPiece.isTame {v : Verb} (h : v.IsPiece) {t : List Char} (ht : IsTame t) :
    IsTame (v.fragment.toList ++ t) := by
  obtain ⟨hplain, halt⟩ := h
  cases v with
  | add _ => cases hplain
  | multiple _ => cases hplain
  | alt _ => cases halt
  | andThen value => simpa [fragment] using isTame_group (value.toList ++ ')' :: t)
  | maybe value => simpa [fragment] using isTame_group (value.toList ++ ')' :: '?' :: t)
  | anything => exact isTame_group _
  | anythingBut value =>
    simpa [fragment] using isTame_group ("[^".toList ++ value.toList ++ "]*)".toList ++ t)
  | something => exact isTame_group _
  | somethingBut value =>
    simpa [fragment] using isTame_group ("[^".toList ++ value.toList ++ "]+)".toList ++ t)
  | linebreak => exact isTame_group _
  | tab => exact isTame_cons (by decide) _
  | word => exact isTame_cons (by decide) _
  | anyOf value => simpa [fragment] using isTame_cons (by decide) _
  | range pairs => simpa [fragment] using isTame_cons (by decide) _
  | _ => exact ht

theorem isTame_segmentText {s : List Verb} (hs : ∀ v ∈ s, v.IsPiece) {t : List Char}
    (ht : IsTame t) : IsTame (segmentText s ++ t) := by
  induction s with
  | nil => exact ht
  | cons v s ih =>
    obtain ⟨hv, hs⟩ := List.forall_mem_cons.mp hs
    simpa [segmentText] using hv.isTame (ih hs)

theorem isTame_joinedText {ss : List (List Verb)} (hss : ∀ s ∈ ss, ∀ v ∈ s, v.IsPiece)
    {t : List Char} (ht : IsTame t) : IsTame (joinedText ss ++ t) := by
  match ss with
  | [] => exact ht
  | [s] => simpa [joinedText] using isTame_segmentText (List.forall_mem_cons.mp hss).1 ht
  | s :: s' :: ss =>
    rw [joinedText_cons s (List.cons_ne_nil s' ss), List.append_assoc, List.append_assoc]
    exact isTame_segmentText (List.forall_mem_cons.mp hss).1 (isTame_cons (by decide) _)

theorem isTame_closingText (anchored : Bool) {t : List Char} (ht : IsTame t) :
    IsTame ((closingText anchored false).toList ++ t) := by
  cases anchored with
  | false => exact ht
  | true => exact isTame_cons (by decide) t

theorem isPiece_of_mem_segments (h : ∀ v ∈ verbs, v.IsPlain) :
    ∀ s ∈ segments verbs, ∀ v ∈ s, v.IsPiece :=
  forall_mem_segments (fun v hv halt => ⟨h v hv, halt⟩) fun value hvalue =>
    ⟨(h (.alt value) hvalue :), rfl⟩

end Segments

/-- **The pattern of a chain** is the texts of its segments, with the parenthesis that an
alternative left in front of them and the one that it left behind them, and the anchors. -/
theorem Expression.toList_pattern (verbs : List Verb) :
    (ofVerbs verbs).pattern.toList =
      (openingText ((lastWord Verb.startAnchor? verbs).getD false)
        (altSince Verb.startAnchor? verbs)).toList ++ joinedText (segments verbs) ++
      (closingText ((lastWord Verb.endAnchor? verbs).getD false)
        (altSince Verb.endAnchor? verbs)).toList := by
  have hbody : (ofVerbs verbs).body.toList = joinedText (segments verbs) := by
    rw [body_ofVerbs, ← flatMap_fragment]
    induction verbs with
    | nil => rfl
    | cons v verbs ih => simp [ih]
  simp only [pattern, String.toList_append, hbody, opening_ofVerbs, closing_ofVerbs]

/-- A pattern to which every verb adds its piece is those pieces. -/
theorem Expression.toList_pattern_of_append {verbs : List Verb}
    (h : ∀ v ∈ verbs, ∀ e : Expression, e.apply v = e.append v.fragment) :
    (ofVerbs verbs).pattern.toList = verbs.flatMap fun v => v.fragment.toList := by
  have happly (e : Expression) : (e.applyAll verbs).pattern.toList =
      e.opening.toList ++ (e.body.toList ++ verbs.flatMap fun v => v.fragment.toList) ++
        e.closing.toList := by
    induction verbs generalizing e with
    | nil => simp [applyAll, pattern]
    | cons v verbs ih =>
      obtain ⟨hv, h⟩ := List.forall_mem_cons.mp h
      rw [applyAll, List.foldl_cons, hv]
      refine (ih h _).trans ?_
      simp [append]
  refine (happly empty).trans ?_
  simp [empty]

/-! ## Anchors after alternatives -/

section Order

variable {verbs : List Verb}

/-- Whether the last alternative of a chain, if there is one, was begun after every call for an
anchor. -/
def LastAltAfterAnchors (verbs : List Verb) : Prop :=
  (∀ v ∈ verbs, v.isAlt = false) ∨
    ∃ front value back, verbs = front ++ .alt value :: back ∧
      ∀ v ∈ back, v.isAlt = false ∧ v.isAnchor = false

/-- Whether no call for an anchor comes after an alternative. -/
def AnchorsBeforeAlts (verbs : List Verb) : Prop :=
  verbs.Pairwise fun v w => v.isAlt = true → w.isAnchor = false

instance (verbs : List Verb) : Decidable (AnchorsBeforeAlts verbs) :=
  inferInstanceAs (Decidable (List.Pairwise _ _))

theorem exists_last_alt (verbs : List Verb) :
    (∀ v ∈ verbs, v.isAlt = false) ∨
      ∃ front value back, verbs = front ++ .alt value :: back ∧ ∀ v ∈ back, v.isAlt = false := by
  induction verbs with
  | nil => exact Or.inl nofun
  | cons v verbs ih =>
    rcases ih with hnone | ⟨front, value, back, rfl, hback⟩
    · rcases v.eq_alt_or_isAlt with ⟨value, rfl⟩ | h
      · exact Or.inr ⟨[], value, verbs, rfl, hnone⟩
      · exact Or.inl (List.forall_mem_cons.mpr ⟨h, hnone⟩)
    · exact Or.inr ⟨v :: front, value, back, rfl, hback⟩

theorem AnchorsBeforeAlts.lastAltAfterAnchors (h : AnchorsBeforeAlts verbs) :
    LastAltAfterAnchors verbs := by
  rcases exists_last_alt verbs with hnone | ⟨front, value, back, rfl, hback⟩
  · exact Or.inl hnone
  · have hafter := (List.pairwise_cons.mp (List.pairwise_append.mp h).2.1).1
    exact Or.inr ⟨front, value, back, rfl, fun v hv => ⟨hback v hv, hafter v hv rfl⟩⟩

variable {α : Type} {tells : Verb → Option α}

theorem altSince_of_no_alt (h : ∀ v ∈ verbs, v.isAlt = false) : altSince tells verbs = false := by
  unfold altSince
  rw [List.any_eq_false]
  intro v hv
  simp [h v (List.mem_reverse.mp ((List.takeWhile_sublist _).subset hv))]

/-- An alternative counts unless something was told after it. -/
theorem altSince_of_last {front back : List Verb} {value : String}
    (halt : tells (.alt value) = none) (hback : ∀ v ∈ back, v.isAlt = false) :
    altSince tells (front ++ .alt value :: back) = back.all fun v => (tells v).isNone := by
  induction back using List.reverseRecOn with
  | nil => simp [altSince_concat, halt, Verb.isAlt]
  | append_singleton back v ih =>
    rw [← List.cons_append, ← List.append_assoc, altSince_concat,
      ih fun w hw => hback w (List.mem_append_left _ hw), hback v (by simp), List.all_append]
    simp [Bool.and_comm]

/-- If the last alternative comes last, the parentheses stand around the body iff there is an
alternative. -/
theorem LastAltAfterAnchors.altSince_eq (h : LastAltAfterAnchors verbs) :
    altSince Verb.startAnchor? verbs = verbs.any Verb.isAlt ∧
      altSince Verb.endAnchor? verbs = verbs.any Verb.isAlt := by
  rcases h with hnone | ⟨front, value, back, rfl, hback⟩
  · have hany : verbs.any Verb.isAlt = false := by
      rw [List.any_eq_false]
      exact fun v hv => by simp [hnone v hv]
    rw [hany]
    exact ⟨altSince_of_no_alt hnone, altSince_of_no_alt hnone⟩
  · have hany : (front ++ .alt value :: back).any Verb.isAlt = true := by simp [Verb.isAlt]
    have hall : ∀ v ∈ back, v.startAnchor? = none ∧ v.endAnchor? = none := fun v hv => by
      simpa [Verb.isAnchor] using (hback v hv).2
    have halts : ∀ v ∈ back, v.isAlt = false := fun v hv => (hback v hv).1
    rw [hany, altSince_of_last rfl halts, altSince_of_last rfl halts]
    simp only [List.all_eq_true, Option.isNone_iff_eq_none]
    exact ⟨fun v hv => (hall v hv).1, fun v hv => (hall v hv).2⟩

/-- If it does not, one of the parentheses is missing. -/
theorem altSince_of_not_lastAltAfterAnchors (h : ¬LastAltAfterAnchors verbs) :
    verbs.any Verb.isAlt = true ∧
      (altSince Verb.startAnchor? verbs = false ∨ altSince Verb.endAnchor? verbs = false) := by
  rcases exists_last_alt verbs with hnone | ⟨front, value, back, rfl, hback⟩
  · exact absurd (Or.inl hnone) h
  · refine ⟨by simp [Verb.isAlt], ?_⟩
    rw [altSince_of_last rfl hback, altSince_of_last rfl hback]
    by_contra hboth
    simp only [not_or, Bool.not_eq_false, List.all_eq_true, Option.isNone_iff_eq_none] at hboth
    refine h (Or.inr ⟨front, value, back, rfl, fun v hv => ⟨hback v hv, ?_⟩⟩)
    simp [Verb.isAnchor, hboth.1 v hv, hboth.2 v hv]

/-- The text of a chain of which the last alternative comes last. -/
def chainText (start stop : Bool) (ss : List (List Verb)) : List Char :=
  (openingText start (1 < ss.length)).toList ++ joinedText ss ++
    (closingText stop (1 < ss.length)).toList

theorem LastAltAfterAnchors.toList_pattern (h : LastAltAfterAnchors verbs) :
    (Expression.ofVerbs verbs).pattern.toList =
      chainText ((lastWord Verb.startAnchor? verbs).getD false)
        ((lastWord Verb.endAnchor? verbs).getD false) (segments verbs) := by
  have hany : verbs.any Verb.isAlt = decide (1 < (segments verbs).length) := by
    rw [Bool.eq_iff_iff, decide_eq_true_iff, one_lt_length_segments]
  rw [Expression.toList_pattern, h.altSince_eq.1, h.altSince_eq.2, hany]
  rfl

end Order

end Verbal
