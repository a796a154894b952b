import Verbal.Proofs.Regular.Denotations

/-!
# Chains of verbs as regular patterns

A chain of plain verbs is read segment by segment: the parenthesis in front opens the group of the
first one, and what stands between two segments closes one group and opens the next. Where the
parenthesis behind is missing the last group stays open, and where the one in front is missing the
first alternative closes a group that is not open.

* **`compile_chain`**: a chain with both parentheses or none compiles to the expression that was
  read off it, and **`compile_anchored_chain`**: so it does where it has to cover a text.
* `compile_unopened`, `compile_unclosed`: a chain with one of them is refused.
-/

namespace Verbal.Regular

open Verbal.Unicode

/-! ## Reading segments -/

/-- The items of a segment. -/
def segmentItems (s : List Verb) : List Ast := s.filterMap Verb.ast?

namespace Draft

/-- Adds a capture group. -/
def capture (d : Draft) (items : List Ast) : Draft :=
  { d.push (.group (.capture (d.groups + 1)) (.ofItems items)) with groups := d.groups + 1 }

/-- Adds a capture group in a branch of its own for each of the lists. -/
def captures (d : Draft) : List (List Ast) → Draft
  | [] => d
  | [items] => d.capture items
  | items :: items' :: rest => (d.capture items).branch.captures (items' :: rest)

/-- Adds segments, a single one as it stands. -/
def segments (d : Draft) (bs : List (List Ast)) : Draft :=
  if bs.length ≤ 1 then d.pushAll bs.flatten else d.captures bs

/-- Capture groups leave the groups around them, the mode and the names alone. -/
theorem frame_captures (d : Draft) (bs : List (List Ast)) :
    (d.captures bs).levels = d.levels ∧ (d.captures bs).verbose = d.verbose ∧
      (d.captures bs).names = d.names := by
  match bs with
  | [] => exact ⟨rfl, rfl, rfl⟩
  | [b] => exact ⟨rfl, rfl, rfl⟩
  | b :: b' :: bs => exact frame_captures (d.capture b).branch (b' :: bs)

theorem frame_segments (d : Draft) (bs : List (List Ast)) :
    (d.segments bs).levels = d.levels ∧ (d.segments bs).verbose = d.verbose ∧
      (d.segments bs).names = d.names := by
  unfold segments
  split
  · exact ⟨rfl, rfl, rfl⟩
  · exact d.frame_captures bs

end Draft

section Segments

variable {d : Draft} {rest : List Char} {s : List Verb} {ss : List (List Verb)}

theorem readAll_segment (hv : d.verbose = false) (hs : ∀ v ∈ s, v.IsPiece) (ht : IsTame rest) :
    readAll d (segmentText s ++ rest) = readAll (d.pushAll (segmentItems s)) rest := by
  induction s generalizing d with
  | nil => rfl
  | cons v s ih =>
    obtain ⟨hpiece, hs⟩ := List.forall_mem_cons.mp hs
    have htext : segmentText (v :: s) ++ rest = v.fragment.toList ++ (segmentText s ++ rest) := by
      simp [segmentText]
    have hitems : segmentItems (v :: s) = v.ast?.toList ++ segmentItems s := by
      cases h : v.ast? <;> simp [segmentItems, h]
    rw [htext, readAll_fragment hv hpiece (isTame_segmentText hs ht),
      ih (d := d.pushAll v.ast?.toList) hv hs, Draft.pushAll_pushAll, hitems]

theorem readAll_openCapture (hv : d.verbose = false) {t : List Char} (h : t.head? ≠ some '?') :
    readAll d ('(' :: t) = readAll d.openCapture t := by
  refine readAll_token hv .capture ?_ rfl
  change readParenthesis false t = _
  unfold readParenthesis
  split
  · rename_i r hr
    exact absurd (by rw [show t = '?' :: r from hr]; rfl) h
  · rfl

theorem readAll_parenthesis (hv : d.verbose = false) {t : List Char} (h : IsTame t) :
    readAll d ('(' :: t) = readAll d.openCapture t :=
  readAll_openCapture hv (h.1 '?' (by simp))

theorem readAll_close_capture (hv : d.verbose = false) (items : List Ast) (t : List Char) :
    readAll (d.openCapture.pushAll items) (')' :: t) = readAll (d.capture items) t := by
  rw [readAll_close (e := d.openCapture.pushAll items) hv rfl]
  simp [Draft.openCapture, Draft.openGroup, Draft.pushAll, Draft.capture, Draft.push, Draft.body,
    Ast.ofBranches]

/-- What stands between two segments closes the group of one and opens that of the other. -/
theorem readAll_next (hv : d.verbose = false) (hs : ∀ v ∈ s, v.IsPiece) {t : List Char}
    (ht : IsTame t) :
    readAll d.openCapture (segmentText s ++ ")|(".toList ++ t) =
      readAll (d.capture (segmentItems s)).branch.openCapture t := by
  calc
    _ = readAll (d.openCapture.pushAll (segmentItems s)) (')' :: '|' :: '(' :: t) := by
        rw [List.append_assoc]
        exact readAll_segment (d := d.openCapture) hv hs (isTame_cons (by decide) _)
    _ = readAll (d.capture (segmentItems s)) ('|' :: '(' :: t) := readAll_close_capture hv _ _
    _ = readAll (d.capture (segmentItems s)).branch ('(' :: t) :=
        readAll_token (d := d.capture (segmentItems s)) hv .bar rfl rfl
    _ = _ := readAll_parenthesis (d := (d.capture (segmentItems s)).branch) hv ht

/-- Segments are read as capture groups, if the first one is open and the last one is closed. -/
theorem readAll_captures (hv : d.verbose = false) (hss : ∀ s ∈ ss, ∀ v ∈ s, v.IsPiece)
    (hne : ss ≠ []) (t : List Char) :
    readAll d.openCapture (joinedText ss ++ ')' :: t) =
      readAll (d.captures (ss.map segmentItems)) t := by
  induction ss generalizing d with
  | nil => exact absurd rfl hne
  | cons s ss ih =>
    obtain ⟨hs, hss⟩ := List.forall_mem_cons.mp hss
    cases ss with
    | nil =>
      rw [joinedText, List.map_singleton, List.intercalate_singleton,
        readAll_segment (d := d.openCapture) hv hs (isTame_cons (by decide) t),
        readAll_close_capture hv]
      rfl
    | cons s' ss =>
      have htame : IsTame (joinedText (s' :: ss) ++ ')' :: t) :=
        isTame_joinedText hss (isTame_cons (by decide) t)
      rw [joinedText_cons s (List.cons_ne_nil s' ss), List.append_assoc, readAll_next hv hs htame]
      exact ih (d := (d.capture (segmentItems s)).branch) hv hss (List.cons_ne_nil s' ss)

/-- If the last one is not closed, a group is left open. -/
theorem readAll_unclosed (hv : d.verbose = false) (hss : ∀ s ∈ ss, ∀ v ∈ s, v.IsPiece)
    (hne : ss ≠ []) (ht : IsTame rest) : ∃ e, e.verbose = false ∧ e.levels ≠ [] ∧
      readAll d.openCapture (joinedText ss ++ rest) = readAll e rest := by
  induction ss generalizing d with
  | nil => exact absurd rfl hne
  | cons s ss ih =>
    obtain ⟨hs, hss⟩ := List.forall_mem_cons.mp hss
    cases ss with
    | nil =>
      refine ⟨d.openCapture.pushAll (segmentItems s), hv, List.cons_ne_nil _ _, ?_⟩
      rw [joinedText, List.map_singleton, List.intercalate_singleton]
      exact readAll_segment (d := d.openCapture) hv hs ht
    | cons s' ss =>
      rw [joinedText_cons s (List.cons_ne_nil s' ss), List.append_assoc,
        readAll_next hv hs (isTame_joinedText hss ht)]
      exact ih (d := (d.capture (segmentItems s)).branch) hv hss (List.cons_ne_nil s' ss)

/-- If the first one is not open, there is nothing to close. -/
theorem readAll_unopened (hv : d.verbose = false) (hlevels : d.levels = [])
    (hs : ∀ v ∈ s, v.IsPiece) (hne : ss ≠ []) (t : List Char) :
    readAll d (joinedText (s :: ss) ++ t) = .error .groupUnopened := by
  have htame : IsTame (")|(".toList ++ (joinedText ss ++ t)) := isTame_cons (by decide) _
  rw [joinedText_cons s hne, List.append_assoc, List.append_assoc, readAll_segment hv hs htame,
    readAll_text]
  have hskip : skipBlanks (d.pushAll (segmentItems s)).verbose
      (")|(".toList ++ (joinedText ss ++ t)) = ')' :: '|' :: '(' :: (joinedText ss ++ t) := by
    rw [show (d.pushAll (segmentItems s)).verbose = false from hv]
    rfl
  rw [hskip]
  dsimp only
  rw [readStep_text _ (by decide)]
  simp [readToken, Repetition.ofChar?, Except.bind, Except.map, Draft.take, Draft.closeGroup,
    Draft.pushAll, hlevels]

/-! ### Anchors -/

/-- The item of the anchor in front. -/
def startItems (start : Bool) : List Ast :=
  if start then [.primitive (.assertion .startLine)] else []

/-- The item of the anchor behind. -/
def stopItems (stop : Bool) : List Ast :=
  if stop then [.primitive (.assertion .endLine)] else []

theorem readAll_start (hv : d.verbose = false) (start : Bool) (t : List Char) :
    readAll d ((openingText start false).toList ++ t) =
      readAll (d.pushAll (startItems start)) t := by
  cases start with
  | false => rfl
  | true =>
    exact readAll_token hv (.primitive (.assertion .startLine)) rfl rfl

theorem readAll_stop (hv : d.verbose = false) (stop : Bool) (t : List Char) :
    readAll d ((closingText stop false).toList ++ t) = readAll (d.pushAll (stopItems stop)) t := by
  cases stop with
  | false => rfl
  | true =>
    exact readAll_token hv (.primitive (.assertion .endLine)) rfl rfl

/-- What has been read after a chain. -/
def Draft.chain (d : Draft) (start stop : Bool) (ss : List (List Verb)) : Draft :=
  ((d.pushAll (startItems start)).segments (ss.map segmentItems)).pushAll (stopItems stop)

/-- **A chain is read as its segments** between its anchors. -/
theorem readAll_chain (hv : d.verbose = false) (hss : ∀ s ∈ ss, ∀ v ∈ s, v.IsPiece)
    (hne : ss ≠ []) (start stop : Bool) (ht : IsTame rest) :
    readAll d (chainText start stop ss ++ rest) = readAll (d.chain start stop ss) rest := by
  have htame := isTame_closingText stop ht
  unfold chainText Draft.chain Draft.segments
  rw [toList_openingText, toList_closingText, List.length_map]
  simp only [List.append_assoc]
  rw [readAll_start hv]
  by_cases hlength : ss.length ≤ 1
  · obtain ⟨s, rfl⟩ : ∃ s, ss = [s] := by
      obtain ⟨s, ss, rfl⟩ := List.exists_cons_of_ne_nil hne
      exact ⟨s, by simpa using hlength⟩
    rw [if_neg (by simp), if_neg (by simp), if_pos (by simp), joinedText, List.map_singleton,
      List.intercalate_singleton]
    simp only [List.nil_append]
    rw [readAll_segment (d := d.pushAll _) hv (List.forall_mem_cons.mp hss).1 htame,
      readAll_stop (d := (d.pushAll _).pushAll _) hv]
    simp
  · rw [if_pos (by simpa using hlength), if_pos (by simpa using hlength), if_neg hlength]
    simp only [List.cons_append, List.nil_append]
    rw [readAll_parenthesis (d := d.pushAll _) hv
      (isTame_joinedText hss (isTame_cons (by decide) _)),
      readAll_captures (d := d.pushAll _) hv hss hne, readAll_stop]
    rw [(Draft.frame_captures _ _).2.1]
    exact hv

end Segments

/-! ## What chains stand for -/

/-- A capture group around items. -/
def captureGroup (k : Nat) (items : List Ast) : Ast := .group (.capture k) (.ofItems items)

theorem Draft.body_captures (d : Draft) {bs : List (List Ast)} (hne : bs ≠ []) (post : List Ast) :
    ((d.captures bs).pushAll post).body = .ofBranches (d.branches.reverse ++
      (atFront d.items.reverse (atBack post (numbered captureGroup (d.groups + 1) bs))).map
        .ofItems) := by
  induction bs generalizing d with
  | nil => exact absurd rfl hne
  | cons b bs ih =>
    cases bs with
    | nil =>
      simp [captures, capture, pushAll, push, body, numbered, atBack, atFront, captureGroup]
    | cons b' bs =>
      rw [captures, ih (d.capture b).branch (List.cons_ne_nil b' bs),
        show (d.capture b).branch.items.reverse = [] from rfl, atFront_nil]
      simp [capture, branch, push, numbered, atBack, atFront, captureGroup]

theorem Draft.body_chain {d : Draft} (hbranches : d.branches = []) (hitems : d.items = [])
    (start stop : Bool) {ss : List (List Verb)} (hne : ss ≠ []) (more : List Ast) :
    ((d.chain start stop ss).pushAll more).body =
      .ofBranches ((chainBranches captureGroup (d.groups + 1) (startItems start)
        (stopItems stop ++ more) (ss.map segmentItems)).map .ofItems) := by
  unfold chain segments chainBranches
  rw [pushAll_pushAll, List.length_map]
  by_cases hlength : ss.length ≤ 1
  · obtain ⟨s, rfl⟩ : ∃ s, ss = [s] := by
      obtain ⟨s, ss, rfl⟩ := List.exists_cons_of_ne_nil hne
      exact ⟨s, by simpa using hlength⟩
    simp [pushAll, body, hbranches, hitems, atFront, atBack]
  · rw [if_neg hlength, if_neg hlength, body_captures _ (by simpa using hne)]
    simp [pushAll, hbranches, hitems]

theorem denotes_segment {s : List Verb} (hs : ∀ v ∈ s, v.IsPiece) (anyCase : Bool) :
    List.Forall₂ (Ast.Denotes anyCase 4) (segmentItems s) (s.filterMap (Verb.regex? anyCase)) := by
  induction s with
  | nil => exact .nil
  | cons v s ih =>
    obtain ⟨hv, hs⟩ := List.forall_mem_cons.mp hs
    have hitems : segmentItems (v :: s) = v.ast?.toList ++ segmentItems s := by
      cases h : v.ast? <;> simp [segmentItems, h]
    have hregex : (v :: s).filterMap (Verb.regex? anyCase) =
        (v.regex? anyCase).toList ++ s.filterMap (Verb.regex? anyCase) := by
      cases h : v.regex? anyCase <;> simp [h]
    rw [hitems, hregex]
    exact List.rel_append (denotes_ast hv anyCase) (ih hs)

/-- **A chain stands for the expression that was read off it.** -/
theorem denotes_chain {d : Draft} (hbranches : d.branches = []) (hitems : d.items = [])
    (hgroups : d.groups = 0) {ss : List (List Verb)} (hss : ∀ s ∈ ss, ∀ v ∈ s, v.IsPiece)
    (hne : ss ≠ []) {anyCase : Bool} {more : List Ast} {rs : List Regex}
    (hmore : List.Forall₂ (Ast.Denotes anyCase 6) more rs) (start stop : Bool) :
    ((d.chain start stop ss).pushAll more).body.Denotes anyCase 8
      (chainRegex anyCase start stop rs ss) := by
  have hstart : List.Forall₂ (Ast.Denotes anyCase 6) (startItems start)
      (if start then [.look .startText] else []) := by
    cases start with
    | false => exact .nil
    | true => exact .cons ⟨rfl, Nat.zero_le _⟩ .nil
  have hstop : List.Forall₂ (Ast.Denotes anyCase 6) (stopItems stop)
      (if stop then [.look .endText] else []) := by
    cases stop with
    | false => exact .nil
    | true => exact .cons ⟨rfl, Nat.zero_le _⟩ .nil
  have hsegments : List.Forall₂ (List.Forall₂ (Ast.Denotes anyCase 4)) (ss.map segmentItems)
      (ss.map fun s => s.filterMap (Verb.regex? anyCase)) := by
    rw [List.forall₂_map_left_iff, List.forall₂_map_right_iff, List.forall₂_same]
    exact fun s hs => denotes_segment (hss s hs) anyCase
  rw [Draft.body_chain hbranches hitems start stop hne, hgroups]
  refine Ast.denotes_ofBranches ?_
  rw [List.forall₂_map_left_iff, List.forall₂_map_right_iff]
  exact (forall₂_chainBranches 1 (fun _ _ h => h.mono (by decide))
    (fun k _ _ h => (Ast.denotes_ofItems h).capture k) hstart (List.rel_append hstop hmore)
    hsegments).imp fun _ _ h => Ast.denotes_ofItems h

/-! ## Compiling chains -/

section Compile

variable {ss : List (List Verb)} {tail : List Char} {anyCase start stop : Bool}

/-- What is written by a chain, with plain characters behind it. -/
theorem written_chain (start stop : Bool) (hss : ∀ s ∈ ss, ∀ v ∈ s, v.IsPiece) (hne : ss ≠ [])
    (htail : ∀ c ∈ tail, IsPlainChar c) : ∃ source,
      Source.written (chainText start stop ss ++ tail) = .ok source ∧ source.names = [] ∧
        ∀ anyCase, source.ast.Denotes anyCase 8
          (chainRegex anyCase start stop (tail.map fun c => .ofText anyCase [c]) ss) := by
  obtain ⟨hlevels, hverbose, hnames⟩ := (Draft.start.pushAll (startItems start)).frame_segments
    (ss.map segmentItems)
  refine ⟨_, written_eq_ok.mpr ⟨(Draft.start.chain start stop ss).pushAll (tail.map .ofChar),
    ?_, hlevels, rfl⟩, hnames, fun anyCase => ?_⟩
  · rw [readAll_chain rfl hss hne start stop (by simpa using isTame_plain htail isTame_nil)]
    have hread := readAll_chars (d := Draft.start.chain start stop ss) hverbose htail []
    rw [List.append_nil] at hread
    rw [hread, readAll_of_blank]
    rw [show ((Draft.start.chain start stop ss).pushAll _).verbose = false from hverbose]
    rfl
  · exact denotes_chain rfl rfl rfl hss hne (Ast.forall₂_denotes_chars anyCase _ tail) start stop

/-- What is written compiles unless it is too large. -/
theorem compile_of_denotes {pattern : List Char} {source : Source} {r : Regex} {n : Nat}
    (hwritten : Source.written pattern = .ok source) (hnames : source.names = [])
    (hdenotes : source.ast.Denotes anyCase n r) (hn : n ≤ nestingLimit) :
    Program.compile anyCase pattern =
      if r.size ≤ sizeLimit then .ok ⟨r.unroll none, []⟩ else .error .tooLarge := by
  have hread := read_eq_ok.mpr ⟨hwritten, Nat.le_trans hdenotes.depth hn⟩
  have hregex := regexOf_eq_ok.mpr ⟨source, _, hread, hdenotes.regex, hnames.symm⟩
  simp only [Program.compile, hregex, bind, Except.bind, Regex.compile]
  by_cases hsize : r.size ≤ sizeLimit
  · rw [if_pos hsize, if_pos hsize]
    rfl
  · rw [if_neg hsize, if_neg hsize]

/-- So does what has to cover a text, unless a comment takes in what closes it. -/
theorem compile_anchored_of_denotes {pattern : String} {source : Source} {r : Regex} {n : Nat}
    (hwritten : Source.written pattern.toList = .ok source)
    (hcomment : ¬EndsInComment pattern.toList) (hnames : source.names = [])
    (hdenotes : source.ast.Denotes anyCase n r) (hn : n + 3 ≤ nestingLimit) :
    Program.compile anyCase (anchoredPattern pattern).toList =
      if r.wrapped.size ≤ sizeLimit then .ok ⟨r.wrapped.unroll none, []⟩ else .error .tooLarge := by
  refine compile_of_denotes (written_anchored hwritten hcomment) hnames
    ⟨regex_wrapped hdenotes.regex, ?_⟩ hn
  have := hdenotes.depth
  simp [Source.wrapped, Ast.depth, startText, endText]
  omega

theorem not_mem_fragment {v : Verb} (h : v.IsPiece) : '#' ∉ v.fragment.toList := by
  obtain ⟨hplain, halt⟩ := h
  have htext {value : String} (h : IsPlainText value) : '#' ∉ value.toList := fun hmem =>
    absurd (h.2 '#' hmem) (by decide)
  have hends (pre post : String) {value : String} (h : IsPlainText value) (hpre : '#' ∉ pre.toList)
      (hpost : '#' ∉ post.toList) : '#' ∉ (pre ++ value ++ post).toList := by
    simp [htext h, hpre, hpost]
  cases v with
  | add _ => cases hplain
  | multiple _ => cases hplain
  | alt _ => cases halt
  | andThen value => exact hends "(?:" ")" hplain (by decide) (by decide)
  | maybe value => exact hends "(?:" ")?" hplain (by decide) (by decide)
  | anythingBut value => exact hends "(?:[^" "]*)" hplain (by decide) (by decide)
  | somethingBut value => exact hends "(?:[^" "]+)" hplain (by decide) (by decide)
  | anyOf value => exact hends "[" "]" hplain (by decide) (by decide)
  | range pairs =>
    have hpairs : '#' ∉ pairs.flatMap rangeText := by
      rw [List.mem_flatMap]
      rintro ⟨p, hp, hmem⟩
      obtain ⟨hlo, hhi, -⟩ := hplain.2 p hp
      have h1 := hlo.ne (d := '#') rfl
      have h2 := hhi.ne (d := '#') rfl
      simp [rangeText, h1.symm, h2.symm] at hmem
    simpa [Verb.fragment] using hpairs
  | _ => simp [Verb.fragment]

theorem not_mem_chainText (hss : ∀ s ∈ ss, ∀ v ∈ s, v.IsPiece) : '#' ∉ chainText start stop ss := by
  have hjoined : '#' ∉ joinedText ss := by
    induction ss with
    | nil => simp [joinedText]
    | cons s ss ih =>
      obtain ⟨hs, hss⟩ := List.forall_mem_cons.mp hss
      have hsegment : '#' ∉ segmentText s := by
        simpa [segmentText] using fun v hv => not_mem_fragment (hs v hv)
      cases ss with
      | nil => simpa [joinedText] using hsegment
      | cons s' ss =>
        rw [joinedText_cons s (List.cons_ne_nil s' ss)]
        simp [hsegment, ih hss]
  unfold chainText
  generalize decide (1 < ss.length) = grouped
  cases start <;> cases stop <;> cases grouped <;> simp [openingText, closingText, hjoined]

/-- **A chain compiles** to the expression that was read off it, unless it is too large. -/
theorem compile_chain (hss : ∀ s ∈ ss, ∀ v ∈ s, v.IsPiece) (hne : ss ≠ []) :
    Program.compile anyCase (chainText start stop ss) =
      if (chainRegex anyCase start stop [] ss).size ≤ sizeLimit then
        .ok ⟨(chainRegex anyCase start stop [] ss).unroll none, []⟩
      else .error .tooLarge := by
  obtain ⟨source, hwritten, hnames, hdenotes⟩ :=
    written_chain start stop hss hne (List.forall_mem_nil IsPlainChar)
  rw [List.append_nil] at hwritten
  exact compile_of_denotes hwritten hnames (hdenotes anyCase) (by decide)

/-- So does a chain that has to cover a text, with plain characters behind it or without. -/
theorem compile_anchored_chain (hss : ∀ s ∈ ss, ∀ v ∈ s, v.IsPiece) (hne : ss ≠ [])
    (htail : ∀ c ∈ tail, IsPlainChar c) :
    Program.compile anyCase
        (anchoredPattern (String.ofList (chainText start stop ss ++ tail))).toList =
      if (chainRegex anyCase start stop (tail.map fun c => .ofText anyCase [c]) ss).wrapped.size ≤
          sizeLimit then
        .ok ⟨(chainRegex anyCase start stop
          (tail.map fun c => .ofText anyCase [c]) ss).wrapped.unroll none, []⟩
      else .error .tooLarge := by
  obtain ⟨source, hwritten, hnames, hdenotes⟩ :=
    written_chain start stop hss hne htail
  have hcomment : ¬EndsInComment (String.ofList (chainText start stop ss ++ tail)).toList := by
    rintro ⟨p, q, d, hpattern, -⟩
    have hmem : '#' ∈ chainText start stop ss ++ tail := by
      rw [String.toList_ofList] at hpattern
      simp [hpattern]
    rcases List.mem_append.mp hmem with hmem | hmem
    · exact not_mem_chainText hss hmem
    · exact absurd (htail '#' hmem) (by decide)
  exact compile_anchored_of_denotes (by rwa [String.toList_ofList]) hcomment hnames
    (hdenotes anyCase) (by decide)

/-- Without the parenthesis in front, the first alternative closes a group that is not open. -/
theorem compile_unopened (hss : ∀ s ∈ ss, ∀ v ∈ s, v.IsPiece) (hlength : 1 < ss.length)
    (closing : List Char) :
    Program.compile anyCase ((openingText start false).toList ++ joinedText ss ++ closing) =
      .error .groupUnopened := by
  obtain ⟨s, ss, rfl⟩ : ∃ s ss', ss = s :: ss' :=
    List.exists_cons_of_ne_nil (List.ne_nil_of_length_pos (Nat.lt_of_succ_lt hlength))
  have hne : ss ≠ [] := by
    rintro rfl
    simp at hlength
  have hread : readAll .start ((openingText start false).toList ++ joinedText (s :: ss) ++
      closing) = .error .groupUnopened := by
    rw [List.append_assoc, readAll_start rfl]
    exact readAll_unopened (d := Draft.start.pushAll _) rfl rfl (List.forall_mem_cons.mp hss).1
      hne _
  simp only [Program.compile, regexOf, Source.read, hread, bind, Except.bind]

/-- Without the one behind, the group of the last alternative stays open. -/
theorem compile_unclosed (hss : ∀ s ∈ ss, ∀ v ∈ s, v.IsPiece) (hne : ss ≠ []) :
    Program.compile anyCase ((openingText start true).toList ++ joinedText ss ++
      (closingText stop false).toList) = .error .groupUnclosed := by
  have htame : IsTame (closingText stop false).toList := by
    simpa using isTame_closingText stop isTame_nil
  have hopening : (openingText start true).toList = (openingText start false).toList ++ ['('] :=
    toList_openingText start true
  obtain ⟨e, hverbose, hlevels, hread⟩ :=
    readAll_unclosed (d := Draft.start.pushAll (startItems start)) rfl hss hne htame
  have hall : readAll .start ((openingText start true).toList ++ joinedText ss ++
      (closingText stop false).toList) = .ok (e.pushAll (stopItems stop)) := by
    have hstop := readAll_stop hverbose stop []
    rw [List.append_nil] at hstop
    rw [hopening, List.append_assoc, List.append_assoc, readAll_start rfl]
    rw [List.cons_append, List.nil_append, readAll_parenthesis (d := Draft.start.pushAll _) rfl
      (isTame_joinedText hss htame), hread, hstop, readAll_of_blank]
    rw [show (e.pushAll (stopItems stop)).verbose = false from hverbose]
    rfl
  have hfinish : (e.pushAll (stopItems stop)).finish = .error .groupUnclosed := by
    unfold Draft.finish
    rw [if_neg]
    simpa [Draft.pushAll] using hlevels
  simp only [Program.compile, regexOf, Source.read, hall, hfinish, bind, Except.bind]

end Compile

end Verbal.Regular
