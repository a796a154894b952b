import Verbal.Proofs.Extended.Denotations

/-!
# Chains of verbs as extended patterns

A chain of plain verbs is read as in regular patterns, segment by segment. It is easy, so it is
matched as one part, by the expression that was read off it.

* **`compile_chain`**: a chain with both parentheses or none compiles to the expression that was
  read off it, and **`compile_anchored_chain`**: so it does where it has to cover a text.
* `compile_unopened`, `compile_unclosed`: a chain with one of them is refused.
-/

namespace Verbal.Extended

open Verbal.Unicode
open Verbal.Regular (Regex)

/-! ## Reading segments -/

/-- The trees of a segment. -/
def segmentTrees (s : List Verb) : List Tree := s.filterMap Verb.tree?

namespace Draft

/-- Adds a capture group. -/
def capture (d : Draft) (items : List Tree) : Draft :=
  { d.add [.group (d.scope.groups + 1) (.ofItems items)] with
    scope := { d.scope with groups := d.scope.groups + 1 } }

/-- Adds a capture group in a branch of its own for each of the lists. -/
def captures (d : Draft) : List (List Tree) → Draft
  | [] => d
  | [items] => d.capture items
  | items :: items' :: rest => (d.capture items).branch.captures (items' :: rest)

/-- Adds segments, a single one as it stands. -/
def segments (d : Draft) (bs : List (List Tree)) : Draft :=
  if bs.length ≤ 1 then d.add bs.flatten else d.captures bs

variable {n : Nat} {d : Draft}

theorem flush_capture (d : Draft) (items : List Tree) :
    (d.capture items).flush = d.capture items := rfl

/-- Capture groups leave the groups around them alone. -/
theorem levels_captures (d : Draft) (bs : List (List Tree)) :
    (d.captures bs).levels = d.levels := by
  match bs with
  | [] => rfl
  | [b] => rfl
  | b :: b' :: bs =>
    rw [captures, levels_captures (d.capture b).branch (b' :: bs), branch_eq]
    rfl

theorem Ready.finish_unclosed (h : d.Ready n) (hlevels : d.levels ≠ []) :
    d.finish = .error .groupUnclosed := by
  unfold Draft.finish
  rw [h.checkEnd]
  simp [Except.bind, hlevels]

theorem Ready.capture (h : d.Ready n) (items : List Tree) : (d.capture items).Ready n := { h with }

theorem Ready.captures {e : Draft} (h : e.Ready n) (bs : List (List Tree)) :
    (e.captures bs).Ready n := by
  match bs with
  | [] => exact h
  | [b] => exact h.capture b
  | b :: b' :: bs => exact captures (h.capture b).branch (b' :: bs)

theorem Ready.segments (h : d.Ready n) (bs : List (List Tree)) : (d.segments bs).Ready n := by
  unfold Draft.segments
  split
  · exact h.add _
  · exact h.captures bs

theorem openCapture_eq (d : Draft) : d.openCapture =
    { d with
      levels := ⟨.capture (d.scope.groups + 1), d.branches, d.flush.items⟩ :: d.levels
      branches := []
      items := []
      pending := none
      scope := { d.scope with groups := d.scope.groups + 1 } } := by
  unfold openCapture
  dsimp only
  rw [openLevel_eq]

theorem Ready.openCapture (h : d.Ready n) : d.openCapture.Ready (n + 1) := by
  rw [openCapture_eq]
  exact { h with levels := Nat.succ_le_succ h.levels }

end Draft

section Segments

variable {d : Draft} {rest : List Char} {s : List Verb} {ss : List (List Verb)}

theorem run_segment (hd : d.Ready 61) (hs : ∀ v ∈ s, v.IsPiece) (ht : IsTame rest) :
    run d (segmentText s ++ rest) = run (d.add (segmentTrees s)) rest := by
  induction s generalizing d with
  | nil => exact (run_flush hd ht).symm.trans (congrArg (run · rest) (Draft.add_nil d).symm)
  | cons v s ih =>
    obtain ⟨hpiece, hs⟩ := List.forall_mem_cons.mp hs
    have htext : segmentText (v :: s) ++ rest = v.fragment.toList ++ (segmentText s ++ rest) := by
      simp [segmentText]
    have htrees : segmentTrees (v :: s) = v.tree?.toList ++ segmentTrees s := by
      cases h : v.tree? <;> simp [segmentTrees, h]
    rw [htext, run_fragment hd hpiece (isTame_segmentText hs ht), ih (hd.add _) hs,
      Draft.add_add, htrees]

theorem run_close_group (hd : d.Ready 60) (items : List Tree) {t : List Char} (ht : IsTame t) :
    run (d.openCapture.add items) (')' :: t) = run (d.capture items) t := by
  have hopen := hd.openCapture.add items
  have hleave : ({ d with
      items := d.flush.items
      pending := none
      scope := { d.scope with groups := d.scope.groups + 1 } } : Draft).Ready 60 := { hd with }
  rw [Draft.openCapture_eq] at hopen ⊢
  have hne (body : Tree) : Tree.group (d.scope.groups + 1) body ≠ .empty := nofun
  rw [run_close_capture hopen rfl]
  refine (run_push hleave (hne _) ht).trans ?_
  simp [Draft.add, Draft.capture, Draft.flush, Draft.body, Tree.ofBranches]

/-- What stands between two segments closes the group of one and opens that of the other. -/
theorem run_next (hd : d.Ready 60) (hs : ∀ v ∈ s, v.IsPiece) {t : List Char} (ht : IsTame t) :
    run d.openCapture (segmentText s ++ ")|(".toList ++ t) =
      run (d.capture (segmentTrees s)).branch.openCapture t := by
  have hcapture := hd.capture (segmentTrees s)
  calc
    _ = run (d.openCapture.add (segmentTrees s)) (')' :: '|' :: '(' :: t) := by
        rw [List.append_assoc]
        exact run_segment hd.openCapture hs (isTame_cons (by decide) _)
    _ = run (d.capture (segmentTrees s)) ('|' :: '(' :: t) :=
        run_close_group hd _ (isTame_cons (by decide) _)
    _ = run (d.capture (segmentTrees s)).branch ('(' :: t) := run_step hcapture (by decide) rfl
    _ = _ := run_parenthesis (hcapture.branch.mono (by decide)) ht

/-- Segments are read as capture groups, if the first one is open and the last one is closed. -/
theorem run_captures (hd : d.Ready 60) (hss : ∀ s ∈ ss, ∀ v ∈ s, v.IsPiece) (hne : ss ≠ [])
    {t : List Char} (ht : IsTame t) :
    run d.openCapture (joinedText ss ++ ')' :: t) = run (d.captures (ss.map segmentTrees)) t := by
  induction ss generalizing d with
  | nil => exact absurd rfl hne
  | cons s ss ih =>
    obtain ⟨hs, hss⟩ := List.forall_mem_cons.mp hss
    cases ss with
    | nil =>
      rw [joinedText, List.map_singleton, List.intercalate_singleton,
        run_segment hd.openCapture hs (isTame_cons (by decide) t), run_close_group hd _ ht]
      rfl
    | cons s' ss =>
      have htame : IsTame (joinedText (s' :: ss) ++ ')' :: t) :=
        isTame_joinedText hss (isTame_cons (by decide) t)
      rw [joinedText_cons s (List.cons_ne_nil s' ss), List.append_assoc, run_next hd hs htame]
      exact ih (hd.capture _).branch hss (List.cons_ne_nil s' ss)

/-- If the last one is not closed, a group is left open. -/
theorem run_unclosed (hd : d.Ready 60) (hss : ∀ s ∈ ss, ∀ v ∈ s, v.IsPiece) (hne : ss ≠ [])
    (ht : IsTame rest) : ∃ e : Draft, e.Ready 61 ∧ e.levels ≠ [] ∧
      run d.openCapture (joinedText ss ++ rest) = run e rest := by
  induction ss generalizing d with
  | nil => exact absurd rfl hne
  | cons s ss ih =>
    obtain ⟨hs, hss⟩ := List.forall_mem_cons.mp hss
    cases ss with
    | nil =>
      refine ⟨d.openCapture.add (segmentTrees s), hd.openCapture.add _, ?_, ?_⟩
      · rw [Draft.openCapture_eq]
        exact List.cons_ne_nil _ _
      · rw [joinedText, List.map_singleton, List.intercalate_singleton]
        exact run_segment hd.openCapture hs ht
    | cons s' ss =>
      rw [joinedText_cons s (List.cons_ne_nil s' ss), List.append_assoc,
        run_next hd hs (isTame_joinedText hss ht)]
      exact ih (hd.capture _).branch hss (List.cons_ne_nil s' ss)

/-- If the first one is not open, there is nothing to close. -/
theorem run_unopened (hd : d.Ready 0) (hs : ∀ v ∈ s, v.IsPiece) (hne : ss ≠ []) (t : List Char) :
    run d (joinedText (s :: ss) ++ t) = .error .endNotReached := by
  have htame : IsTame (")|(".toList ++ (joinedText ss ++ t)) := isTame_cons (by decide) _
  have hadd := hd.add (segmentTrees s)
  have hlevels : (d.add (segmentTrees s)).levels = [] :=
    List.length_eq_zero_iff.mp (Nat.le_zero.mp hadd.levels)
  have hprefix : ¬"(?#".toList <+: ")|(".toList ++ (joinedText ss ++ t) := by simp
  rw [joinedText_cons s hne, List.append_assoc, List.append_assoc,
    run_segment (hd.mono (by decide)) hs htame]
  refine (run_cons hadd hprefix).trans ?_
  have hstep : readStep (d.add (segmentTrees s)) ')' ('|' :: '(' :: (joinedText ss ++ t)) =
      .error .endNotReached := by
    change closeGroup _ _ = _
    unfold closeGroup
    rw [hadd.checkEnd, hlevels]
    rfl
  change (Reading.text (readStep _ ')' ('|' :: '(' :: (joinedText ss ++ t)))).bind _ = _
  rw [hstep]
  rfl

/-! ### Anchors -/

/-- The tree of the anchor in front. -/
def startTrees (start : Bool) : List Tree := if start then [.assertion .startText] else []

/-- The tree of the anchor behind. -/
def stopTrees (stop : Bool) : List Tree := if stop then [.assertion .endText] else []

theorem run_start {n : Nat} (hd : d.Ready n) (start : Bool) {t : List Char} (ht : IsTame t) :
    run d ((openingText start false).toList ++ t) = run (d.add (startTrees start)) t := by
  cases start with
  | false => exact (run_flush hd ht).symm.trans (congrArg (run · t) (Draft.add_nil d).symm)
  | true =>
    have hstep : (readStep d '^' t).text = .ok (d.push (.assertion .startText), t) := by
      change Reading.text (.ok (d.push (.assertion (if d.flags.multiLine then _ else _)), _)) = _
      rw [hd.flags]
      rfl
    exact (run_step hd (by decide) hstep).trans (run_push hd nofun ht)

theorem run_stop {n : Nat} (hd : d.Ready n) (stop : Bool) {t : List Char} (ht : IsTame t) :
    run d ((closingText stop false).toList ++ t) = run (d.add (stopTrees stop)) t := by
  cases stop with
  | false => exact (run_flush hd ht).symm.trans (congrArg (run · t) (Draft.add_nil d).symm)
  | true =>
    have hstep : (readStep d '$' t).text = .ok (d.push (.assertion .endText), t) := by
      change Reading.text (.ok (d.push (.assertion (if d.flags.multiLine then _ else _)), _)) = _
      rw [hd.flags]
      rfl
    exact (run_step hd (by decide) hstep).trans (run_push hd nofun ht)

/-- What has been read after a chain. -/
def Draft.chain (d : Draft) (start stop : Bool) (ss : List (List Verb)) : Draft :=
  ((d.add (startTrees start)).segments (ss.map segmentTrees)).add (stopTrees stop)

theorem Draft.levels_chain (d : Draft) (start stop : Bool) (ss : List (List Verb)) :
    (d.chain start stop ss).levels = d.levels := by
  change ((d.add _).segments _).levels = d.levels
  unfold segments
  split
  · rfl
  · exact (d.add _).levels_captures _

theorem Draft.Ready.chain {n : Nat} (h : d.Ready n) (start stop : Bool) (ss : List (List Verb)) :
    (d.chain start stop ss).Ready n :=
  ((h.add _).segments _).add _

/-- **A chain is read as its segments** between its anchors. -/
theorem run_chain (hd : d.Ready 60) (hss : ∀ s ∈ ss, ∀ v ∈ s, v.IsPiece) (hne : ss ≠ [])
    (start stop : Bool) (ht : IsTame rest) :
    run d (chainText start stop ss ++ rest) = run (d.chain start stop ss) rest := by
  have htame := isTame_closingText stop ht
  have hstart := hd.add (startTrees start)
  unfold chainText Draft.chain Draft.segments
  rw [toList_openingText, toList_closingText, List.length_map]
  simp only [List.append_assoc]
  by_cases hlength : ss.length ≤ 1
  · obtain ⟨s, rfl⟩ : ∃ s, ss = [s] := by
      obtain ⟨s, ss, rfl⟩ := List.exists_cons_of_ne_nil hne
      exact ⟨s, by simpa using hlength⟩
    have hs := (List.forall_mem_cons.mp hss).1
    rw [if_neg (by simp), if_neg (by simp), if_pos (by simp), joinedText, List.map_singleton,
      List.intercalate_singleton]
    simp only [List.nil_append]
    rw [run_start hd start (isTame_segmentText hs htame),
      run_segment (hstart.mono (by decide)) hs htame, run_stop (hstart.add _) stop ht]
    simp
  · have hjoined : IsTame (joinedText ss ++ ')' :: ((closingText stop false).toList ++ rest)) :=
      isTame_joinedText hss (isTame_cons (by decide) _)
    rw [if_pos (by simpa using hlength), if_pos (by simpa using hlength), if_neg hlength]
    simp only [List.cons_append, List.nil_append]
    rw [run_start hd start (isTame_parenthesis hjoined),
      run_parenthesis (hstart.mono (by decide)) hjoined, run_captures hstart hss hne htame,
      run_stop (hstart.captures _) stop ht]

end Segments

/-! ## What chains stand for -/

/-- A capture group around trees. -/
def captureTree (k : Nat) (items : List Tree) : Tree := .group k (.ofItems items)

theorem body_captures (d : Draft) {bs : List (List Tree)} (hne : bs ≠ []) (post : List Tree) :
    ((d.captures bs).add post).body = .ofBranches (d.branches.reverse ++
      (atFront d.flush.items.reverse
        (atBack post (numbered captureTree (d.scope.groups + 1) bs))).map .ofItems) := by
  induction bs generalizing d with
  | nil => exact absurd rfl hne
  | cons b bs ih =>
    cases bs with
    | nil =>
      rw [Draft.captures, Draft.body, Draft.flush_add, Draft.add, Draft.flush_capture]
      simp [Draft.capture, Draft.add, numbered, atBack, atFront, captureTree]
    | cons b' bs =>
      have hflush : (d.capture b).branch.flush.items.reverse = [] := by rw [Draft.branch_eq]; rfl
      rw [Draft.captures, ih (d.capture b).branch (List.cons_ne_nil b' bs), hflush, atFront_nil,
        Draft.branch_eq, Draft.flush_capture]
      simp [Draft.capture, Draft.add, numbered, atBack, atFront, captureTree]

theorem body_chain {d : Draft} (hbranches : d.branches = []) (hitems : d.flush.items = [])
    (start stop : Bool) {ss : List (List Verb)} (hne : ss ≠ []) (more : List Tree) :
    ((d.chain start stop ss).add more).body =
      .ofBranches ((chainBranches captureTree (d.scope.groups + 1) (startTrees start)
        (stopTrees stop ++ more) (ss.map segmentTrees)).map .ofItems) := by
  unfold Draft.chain Draft.segments chainBranches
  rw [Draft.add_add, List.length_map]
  by_cases hlength : ss.length ≤ 1
  · obtain ⟨s, rfl⟩ : ∃ s, ss = [s] := by
      obtain ⟨s, ss, rfl⟩ := List.exists_cons_of_ne_nil hne
      exact ⟨s, by simpa using hlength⟩
    rw [if_pos hlength, if_pos hlength, Draft.add_add, Draft.add_add, Draft.body, Draft.flush_add]
    simp [Draft.add, hbranches, hitems, atFront, atBack]
  · rw [if_neg hlength, if_neg hlength, body_captures _ (by simpa using hne), Draft.flush_add]
    simp [Draft.add, hbranches, hitems]

theorem cooks_segment {s : List Verb} (hs : ∀ v ∈ s, v.IsPiece) (anyCase : Bool) :
    List.Forall₂ (Tree.Cooks anyCase 4) (segmentTrees s) (s.filterMap (Verb.regex? anyCase)) := by
  induction s with
  | nil => exact .nil
  | cons v s ih =>
    obtain ⟨hv, hs⟩ := List.forall_mem_cons.mp hs
    have htrees : segmentTrees (v :: s) = v.tree?.toList ++ segmentTrees s := by
      cases h : v.tree? <;> simp [segmentTrees, h]
    have hregex : (v :: s).filterMap (Verb.regex? anyCase) =
        (v.regex? anyCase).toList ++ s.filterMap (Verb.regex? anyCase) := by
      cases h : v.regex? anyCase <;> simp [h]
    rw [htrees, hregex]
    exact List.rel_append (cooks_tree hv anyCase) (ih hs)

/-- The anchors, which are made into assertions about lines that are about the text. -/
theorem cooks_look (anyCase : Bool) :
    (Tree.assertion .startText).Cooks anyCase 0 (.look .startText) ∧
      (Tree.assertion .endText).Cooks anyCase 0 (.look .endText) :=
  ⟨Tree.cooks_of_cook (a := .primitive (.assertion .startLine)) rfl (fun _ _ => rfl)
      ⟨rfl, Nat.zero_le _⟩ nofun nofun,
    Tree.cooks_of_cook (a := .primitive (.assertion .endLine)) rfl (fun _ _ => rfl)
      ⟨rfl, Nat.zero_le _⟩ nofun nofun⟩

/-- **A chain is made into what stands for the expression that was read off it.** -/
theorem cooks_chain {d : Draft} (hbranches : d.branches = []) (hitems : d.flush.items = [])
    (hgroups : d.scope.groups = 0) {ss : List (List Verb)} (hss : ∀ s ∈ ss, ∀ v ∈ s, v.IsPiece)
    (hne : ss ≠ []) {anyCase : Bool} {more : List Tree} {rs : List Regex}
    (hmore : List.Forall₂ (Tree.Cooks anyCase 7) more rs) (start stop : Bool) :
    ((d.chain start stop ss).add more).body.Cooks anyCase 11
      (chainRegex anyCase start stop rs ss) := by
  obtain ⟨hstartText, hendText⟩ := cooks_look anyCase
  have hstart : List.Forall₂ (Tree.Cooks anyCase 7) (startTrees start)
      (if start then [.look .startText] else []) := by
    cases start with
    | false => exact .nil
    | true => exact .cons (hstartText.mono (by decide)) .nil
  have hstop : List.Forall₂ (Tree.Cooks anyCase 7) (stopTrees stop)
      (if stop then [.look .endText] else []) := by
    cases stop with
    | false => exact .nil
    | true => exact .cons (hendText.mono (by decide)) .nil
  have hsegments : List.Forall₂ (List.Forall₂ (Tree.Cooks anyCase 4)) (ss.map segmentTrees)
      (ss.map fun s => s.filterMap (Verb.regex? anyCase)) := by
    rw [List.forall₂_map_left_iff, List.forall₂_map_right_iff, List.forall₂_same]
    exact fun s hs => cooks_segment (hss s hs) anyCase
  rw [body_chain hbranches hitems start stop hne, hgroups]
  refine Tree.cooks_ofBranches ?_
  rw [List.forall₂_map_left_iff, List.forall₂_map_right_iff]
  exact (forall₂_chainBranches 1 (fun _ _ h => h.mono (by decide))
    (fun k _ _ h => (Tree.cooks_ofItems h).group k) hstart (List.rel_append hstop hmore)
    hsegments).imp fun _ _ h => Tree.cooks_ofItems h

/-! ## Compiling chains -/

section Compile

variable {ss : List (List Verb)} {tail : List Char} {anyCase start stop : Bool}

/-- A regular pattern is made into a part, unless it is too large. -/
theorem partOf_of_denotes {a : Regular.Ast} {r : Regex} {n : Nat} (h : a.Denotes anyCase n r)
    (hn : n ≤ Regular.nestingLimit) :
    partOf anyCase a =
      if r.size ≤ Regular.sizeLimit then .ok (r.unroll none) else .error .partTooLarge := by
  unfold partOf
  rw [if_neg (Nat.not_lt.mpr (Nat.le_trans h.depth hn)), h.regex]
  dsimp only
  unfold Regular.Regex.compile
  by_cases hsize : r.size ≤ Regular.sizeLimit
  · rw [if_pos hsize, if_pos hsize]
  · rw [if_neg hsize, if_neg hsize]

/-- An easy pattern compiles unless it is too large. -/
theorem compile_of_cooks {pattern : List Char} {t : Tree} {r : Regex} {n : Nat}
    (hread : Source.read pattern = .ok ⟨t, [], []⟩) (hcooks : t.Cooks anyCase n r)
    (hn : n ≤ Regular.nestingLimit) :
    Program.compile anyCase pattern =
      if r.size ≤ Regular.sizeLimit then .ok ⟨.easy (r.unroll none), []⟩
      else .error .partTooLarge := by
  obtain ⟨a, ha, hdenotes⟩ := hcooks.cook 0 .none
  simp only [Program.compile, hread, hcooks.easy, ha, partOf_of_denotes hdenotes hn, bind,
    Except.bind]
  by_cases hsize : r.size ≤ Regular.sizeLimit
  · rw [if_pos hsize, if_pos hsize]
    rfl
  · rw [if_neg hsize, if_neg hsize]
    rfl

/-- What a chain that has to cover the text stands for. Of an empty one nothing is left between the
assertions. -/
def anchoredRegex (r : Regex) : Regex :=
  if r = .empty then .concat (.look .startText) (.look .endText) else r.wrapped

/-- **A chain compiles** to the expression that was read off it, unless it is too large. -/
theorem compile_chain (hss : ∀ s ∈ ss, ∀ v ∈ s, v.IsPiece) (hne : ss ≠ []) :
    Program.compile anyCase (chainText start stop ss) =
      if (chainRegex anyCase start stop [] ss).size ≤ Regular.sizeLimit then
        .ok ⟨.easy ((chainRegex anyCase start stop [] ss).unroll none), []⟩
      else .error .partTooLarge := by
  have hd := Draft.ready_start (chainText start stop ss)
  have hread : Source.read (chainText start stop ss) =
      .ok ⟨((Draft.start (chainText start stop ss)).chain start stop ss).body, [], []⟩ := by
    have hrun := run_chain (hd.mono (Nat.zero_le 60)) hss hne start stop isTame_nil
    rw [List.append_nil, run_nil (hd.chain start stop ss),
      (hd.chain start stop ss).finish] at hrun
    exact hrun
  have hcooks := cooks_chain (d := .start (chainText start stop ss)) rfl rfl rfl hss hne
    (List.Forall₂.nil (R := Tree.Cooks anyCase 7)) start stop
  rw [show ((Draft.start (chainText start stop ss)).chain start stop ss).add [] =
    (Draft.start (chainText start stop ss)).chain start stop ss from rfl] at hcooks
  exact compile_of_cooks hread hcooks (by decide)

/-! ### Chains that cover a text -/

/-- What has been read after the opening of a pattern that has to cover the text. -/
def Draft.anchored (pattern : List Char) : Draft :=
  ((Draft.start pattern).add [.assertion .startText]).openLevel (.plain .none)

/-- What is read of such a pattern: what stands between the assertions is one item, if it is
anything. -/
def Tree.anchored (t : Tree) : Tree :=
  .ofItems ([.assertion .startText] ++ (if t.enclosed = .empty then [] else [t.enclosed]) ++
    [.assertion .endText])

theorem levels_anchored (pattern : List Char) :
    (Draft.anchored pattern).levels = [⟨.plain .none, [], [.assertion .startText]⟩] := by
  unfold Draft.anchored
  rw [Draft.openLevel_eq]
  rfl

theorem ready_anchored (pattern : List Char) : (Draft.anchored pattern).Ready 1 :=
  ((Draft.ready_start pattern).add _).openLevel _

theorem fresh_anchored (pattern : List Char) : (Draft.anchored pattern).branches = [] ∧
    (Draft.anchored pattern).flush.items = [] ∧ (Draft.anchored pattern).scope.groups = 0 := by
  unfold Draft.anchored
  rw [Draft.openLevel_eq]
  exact ⟨rfl, rfl, rfl⟩

theorem run_anchored (pattern t : List Char) :
    run (.start pattern) ("\\A(?:".toList ++ t) = run (.anchored pattern) t := by
  have hd := Draft.ready_start pattern
  calc
    _ = run ((Draft.start pattern).add [.assertion .startText]) ("(?:".toList ++ t) :=
        (run_escape (e := .assertion .startText) hd rfl).trans (run_push hd nofun (isTame_group t))
    _ = _ := run_open ((hd.add _).mono (by decide)) t

/-- What is read between the assertions is one item, if it is anything. -/
theorem body_anchored {d : Draft} {a b c : Tree} (hbranches : d.branches = [])
    (hitems : d.flush.items = [a]) (hc : c ≠ .empty) :
    ((d.push b).push c).body = .ofItems ([a] ++ (if b = .empty then [] else [b]) ++ [c]) := by
  have hbranches' : ((d.push b).push c).branches = [] := by
    rw [Draft.push_eq, Draft.push_eq]
    exact hbranches
  have hflush : (d.push b).flush.items = if b = .empty then [a] else [b, a] := by
    by_cases hb : b = .empty
    · rw [if_pos hb, hb, Draft.push_eq]
      exact hitems
    · rw [if_neg hb, Draft.flush_push d hb]
      simp [Draft.add, hitems]
  rw [Draft.body, Draft.flush_push _ hc, hbranches']
  by_cases hb : b = .empty
  · rw [if_pos hb] at hflush ⊢
    simp [Draft.add, hflush, Tree.ofBranches]
  · rw [if_neg hb] at hflush ⊢
    simp [Draft.add, hflush, Tree.ofBranches]

theorem run_close_anchored {pattern : List Char} {e : Draft} (he : e.Ready 1)
    (hlevels : e.levels = (Draft.anchored pattern).levels) :
    run e ")\\z".toList = .ok ⟨e.body.anchored, [], []⟩ := by
  rw [levels_anchored] at hlevels
  have hleave : (e.leave ⟨.plain .none, [], [.assertion .startText]⟩ []).Ready 0 :=
    { he with levels := Nat.le_refl 0 }
  have hpush := hleave.push e.body.enclosed
  calc
    _ = run ((e.leave ⟨.plain .none, [], [.assertion .startText]⟩ []).push e.body.enclosed)
          "\\z".toList := run_close he hlevels _
    _ = run (((e.leave ⟨.plain .none, [], [.assertion .startText]⟩ []).push
          e.body.enclosed).push (.assertion .endText)) [] :=
        run_escape (e := .assertion .endText) hpush rfl
    _ = _ := (run_nil (hpush.push _)).trans (hpush.push _).finish
    _ = _ := by
        rw [body_anchored (a := .assertion .startText) rfl rfl (Tree.noConfusion)]
        rfl

theorem cooks_anchored {t : Tree} {r : Regex} {n : Nat} (h : t.Cooks anyCase n r) :
    t.anchored.Cooks anyCase (n + 2) (anchoredRegex r) := by
  obtain ⟨hstart, hend⟩ := cooks_look anyCase
  have hstart := hstart.mono (Nat.zero_le n)
  have hend := hend.mono (Nat.zero_le n)
  unfold Tree.anchored
  by_cases hr : r = .empty
  · rw [if_pos (h.enclosed.empty.mpr hr), anchoredRegex, if_pos hr]
    exact Tree.cooks_ofItems (.cons hstart (.cons hend .nil))
  · rw [if_neg (mt h.enclosed.empty.mp hr), anchoredRegex, if_neg hr]
    exact Tree.cooks_ofItems (.cons hstart (.cons h.enclosed (.cons hend .nil)))

/-- What has to cover a text is read as the pattern between the assertions, if that is read to its
end in its place. -/
theorem read_anchored {pattern : String} {d : Draft} (hd : d.Ready 1)
    (hlevels : d.levels = (Draft.anchored (anchoredPattern pattern).toList).levels)
    (hrun : run (.anchored (anchoredPattern pattern).toList) (pattern.toList ++ ")\\z".toList) =
      run d ")\\z".toList) :
    Source.read (anchoredPattern pattern).toList = .ok ⟨d.body.anchored, [], []⟩ := by
  have htext : (anchoredPattern pattern).toList =
      "\\A(?:".toList ++ (pattern.toList ++ ")\\z".toList) := by
    simp [anchoredPattern]
  calc
    _ = run (.start (anchoredPattern pattern).toList)
          ("\\A(?:".toList ++ (pattern.toList ++ ")\\z".toList)) := by
        rw [← htext]
        rfl
    _ = run (.anchored (anchoredPattern pattern).toList) (pattern.toList ++ ")\\z".toList) :=
        run_anchored _ _
    _ = run d ")\\z".toList := hrun
    _ = _ := run_close_anchored hd hlevels

/-- What has to cover a text compiles unless it is too large, if it is read to its end in its place.
-/
theorem compile_anchored_of_run {pattern : String} {r : Regex} {n : Nat}
    (hread : ∀ p, ∃ d : Draft, d.Ready 1 ∧ d.levels = (Draft.anchored p).levels ∧
      d.body.Cooks anyCase n r ∧
      run (.anchored p) (pattern.toList ++ ")\\z".toList) = run d ")\\z".toList)
    (hn : n + 2 ≤ Regular.nestingLimit) :
    Program.compile anyCase (anchoredPattern pattern).toList =
      if (anchoredRegex r).size ≤ Regular.sizeLimit then
        .ok ⟨.easy ((anchoredRegex r).unroll none), []⟩
      else .error .partTooLarge := by
  obtain ⟨d, hd, hlevels, hcooks, hrun⟩ := hread (anchoredPattern pattern).toList
  exact compile_of_cooks (read_anchored hd hlevels hrun) (cooks_anchored hcooks) hn

/-- So does a chain that has to cover a text, with plain characters behind it or without. -/
theorem compile_anchored_chain (hss : ∀ s ∈ ss, ∀ v ∈ s, v.IsPiece) (hne : ss ≠ [])
    (htail : ∀ c ∈ tail, IsPlainChar c) :
    Program.compile anyCase
        (anchoredPattern (String.ofList (chainText start stop ss ++ tail))).toList =
      if (anchoredRegex (chainRegex anyCase start stop
          (tail.map fun c => .ofText anyCase [c]) ss)).size ≤ Regular.sizeLimit then
        .ok ⟨.easy ((anchoredRegex (chainRegex anyCase start stop
          (tail.map fun c => .ofText anyCase [c]) ss)).unroll none), []⟩
      else .error .partTooLarge := by
  refine compile_anchored_of_run (fun p => ?_) (n := 11) (by decide)
  have htame : IsTame ")\\z".toList := isTame_cons (by decide) _
  have hd := ready_anchored p
  have hchain := hd.chain start stop ss
  have hmore := Tree.forall₂_cooks_literals anyCase 7 tail
  obtain ⟨hbranches, hitems, hgroups⟩ := fresh_anchored p
  refine ⟨((Draft.anchored p).chain start stop ss).add (tail.map (.literal · false)),
    hchain.add _, Draft.levels_chain _ start stop ss,
    cooks_chain hbranches hitems hgroups hss hne hmore start stop, ?_⟩
  calc
    _ = run (.anchored p) (chainText start stop ss ++ (tail ++ ")\\z".toList)) := by
        rw [String.toList_ofList, List.append_assoc]
    _ = run ((Draft.anchored p).chain start stop ss) (tail ++ ")\\z".toList) :=
        run_chain (hd.mono (by decide)) hss hne start stop (isTame_plain htail htame)
    _ = _ := run_chars hchain htail htame

/-! ### Chains that are refused -/

/-- Without the parenthesis in front, the first alternative closes a group that is not open. -/
theorem compile_unopened (hss : ∀ s ∈ ss, ∀ v ∈ s, v.IsPiece) (hlength : 1 < ss.length)
    (closing : List Char) :
    Program.compile anyCase ((openingText start false).toList ++ joinedText ss ++ closing) =
      .error .endNotReached := by
  obtain ⟨s, ss, rfl⟩ : ∃ s ss', ss = s :: ss' :=
    List.exists_cons_of_ne_nil (List.ne_nil_of_length_pos (Nat.lt_of_succ_lt hlength))
  have hne : ss ≠ [] := by
    rintro rfl
    simp at hlength
  have hs := (List.forall_mem_cons.mp hss).1
  have htame : IsTame (joinedText (s :: ss) ++ closing) := by
    rw [joinedText_cons s hne, List.append_assoc, List.append_assoc]
    exact isTame_segmentText hs (isTame_cons (by decide) _)
  have hread : Source.read ((openingText start false).toList ++ joinedText (s :: ss) ++ closing) =
      .error .endNotReached := by
    generalize hpattern : (openingText start false).toList ++ joinedText (s :: ss) ++ closing = p
    have hd := Draft.ready_start p
    calc
      _ = run (.start p)
            ((openingText start false).toList ++ (joinedText (s :: ss) ++ closing)) := by
          rw [← List.append_assoc, hpattern]
          rfl
      _ = run ((Draft.start p).add (startTrees start)) (joinedText (s :: ss) ++ closing) :=
          run_start hd start htame
      _ = _ := run_unopened (hd.add _) hs hne closing
  simp only [Program.compile, hread, bind, Except.bind]

/-- Without the one behind, the group of the last alternative stays open. -/
theorem compile_unclosed (hss : ∀ s ∈ ss, ∀ v ∈ s, v.IsPiece) (hne : ss ≠ []) :
    Program.compile anyCase ((openingText start true).toList ++ joinedText ss ++
      (closingText stop false).toList) = .error .groupUnclosed := by
  have htame : IsTame (closingText stop false).toList := by
    simpa using isTame_closingText stop isTame_nil
  have hopening : (openingText start true).toList = (openingText start false).toList ++ ['('] :=
    toList_openingText start true
  have hjoined := isTame_joinedText hss htame
  have hread : Source.read ((openingText start true).toList ++ joinedText ss ++
      (closingText stop false).toList) = .error .groupUnclosed := by
    generalize hpattern : (openingText start true).toList ++ joinedText ss ++
      (closingText stop false).toList = p
    have hd := Draft.ready_start p
    have hstart := hd.add (startTrees start)
    obtain ⟨e, he, hlevels, hopen⟩ := run_unclosed (hstart.mono (by decide)) hss hne htame
    calc
      _ = run (.start p) ((openingText start false).toList ++ ('(' :: (joinedText ss ++
            (closingText stop false).toList))) := by
          rw [show Source.read p = run (.start p) p from rfl, ← hpattern, hopening]
          simp
      _ = run ((Draft.start p).add (startTrees start)) ('(' :: (joinedText ss ++
            (closingText stop false).toList)) := run_start hd start (isTame_parenthesis hjoined)
      _ = run ((Draft.start p).add (startTrees start)).openCapture (joinedText ss ++
            (closingText stop false).toList) :=
          run_parenthesis (hstart.mono (by decide)) hjoined
      _ = run e ((closingText stop false).toList ++ []) := by rw [hopen, List.append_nil]
      _ = run (e.add (stopTrees stop)) [] := run_stop he stop isTame_nil
      _ = (e.add (stopTrees stop)).finish := run_nil (he.add _)
      _ = _ := (he.add _).finish_unclosed hlevels
  simp only [Program.compile, hread, bind, Except.bind]

end Compile

end Verbal.Extended
