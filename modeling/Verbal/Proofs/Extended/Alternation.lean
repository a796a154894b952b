import Verbal.Proofs.Extended.Drafts
import Verbal.Proofs.Regular.Alternation

/-!
# Another alternative of extended patterns

Another alternative is read as in regular patterns: all that was written stands in a capture group,
in front of a bar, and the alternative in a group behind it. If the references move with the groups,
the groups that were written are the same but for their numbers.

* **`body_anchors`**: how a pattern is read with the anchors around it.
* **`read_alternative`**: how it is read with another alternative.
-/

namespace Verbal.Extended

open Verbal.Regular (IsAlphanumText)

/-! ## Blanks -/

section Blanks

variable {v : Bool} {c : Char} {b s t : List Char}

theorem isPrefixOf_of_not_hash (h : '#' ∉ s) : ['(', '?', '#'].isPrefixOf s = false := by
  rw [← Bool.not_eq_true, List.isPrefixOf_iff_prefix]
  exact fun hmark => h (hmark.subset (by simp))

/-- Without a number sign, nothing but blanks is skipped. -/
theorem skip_of_not_hash (hblank : isBlank c = false) (h : '#' ∉ c :: s) :
    Gap.outside.skip v (c :: s) = .ok (c :: s) := by
  have hc : c ≠ '#' := fun hc => h (by simp [hc])
  rw [Gap.skip, if_neg (by simp [hblank]), if_neg (by simp [hc]), isPrefixOf_of_not_hash h]
  rfl

theorem skip_false_of_not_hash (h : '#' ∉ s) : Gap.outside.skip false s = .ok s :=
  skip_eq_self fun hmark => h (hmark.subset (by simp))

/-- Blanks that are left over are skipped in front of what follows. -/
theorem skip_append_of_blank (h : Gap.outside.skip v b = .ok []) (hhash : '#' ∉ b) :
    Gap.outside.skip v (b ++ t) = Gap.outside.skip v t := by
  induction b with
  | nil => rfl
  | cons c b ih =>
    have hc : c ≠ '#' := fun hc => hhash (by simp [hc])
    have hb : '#' ∉ b := fun hb => hhash (List.mem_cons_of_mem c hb)
    rw [List.cons_append, Gap.skip]
    rw [Gap.skip] at h
    by_cases hblank : (v && isBlank c) = true
    · rw [if_pos hblank] at h ⊢
      exact ih h hb
    · rw [if_neg hblank, if_neg (by simp [hc]), isPrefixOf_of_not_hash hhash] at h
      cases h

end Blanks

/-! ## Items that wait -/

namespace Draft

theorem flush_flush (d : Draft) : d.flush.flush = d.flush := by
  obtain ⟨_, _, _, _, pending, _, _, _, _⟩ := d
  cases pending with
  | none => rfl
  | some t => cases t <;> rfl

theorem push_flush (d : Draft) (t : Tree) : d.flush.push t = d.push t := by
  unfold push
  rw [flush_flush]

end Draft

section Waiting

variable {d d' : Draft} {c : Char} {s t : List Char}

theorem readRepeated_of_waiting {count : Regular.Repetition}
    (h : ∀ t ∈ d.pending, t.isRepeatable = false) :
    (readRepeated d count s).text = .error .targetInvalid := by
  rw [readRepeated_text]
  cases hpending : d.pending with
  | none => rfl
  | some t =>
    dsimp only
    rw [h t hpending]
    rfl

/-- What cannot be repeated need not wait. -/
theorem readAll_of_waiting (hwaiting : ∀ t ∈ d.pending, t.isRepeatable = false)
    (h : readAll d s = .ok d') : (readAll d.flush s).map Draft.flush = .ok d'.flush := by
  have hflags : d.flush.flags = d.flags := by rw [Draft.flush_eq]
  rw [readAll_text] at h ⊢
  rw [hflags]
  obtain ⟨u, hu, h⟩ := bind_eq_ok.mp h
  rw [hu]
  cases u with
  | nil =>
    cases h
    exact congrArg Except.ok d.flush_flush
  | cons c u =>
    obtain ⟨⟨d₁, r⟩, hstep, h⟩ := bind_eq_ok.mp h
    suffices hflush : (readStep d.flush c u).text = .ok (d₁, r) by
      simp only [Except.bind, hflush, h, Except.map]
    by_cases hbrace : c = '\x7b'
    · subst hbrace
      rw [readStep_brace_text, braceText] at hstep ⊢
      have hpending : d.flush.pending.isNone = true := by rw [Draft.flush_eq]; rfl
      rw [if_pos hpending, hflags, Draft.push_flush]
      split at hstep
      · exact hstep
      · split at hstep
        · rw [readRepeated_of_waiting hwaiting] at hstep
          cases hstep
        · exact hstep
    · cases hcount : countOf? c with
      | some count =>
        have hrepeated : (readStep d c u).text = (readRepeated d count u).text := by
          unfold readStep
          rw [hcount]
        rw [hrepeated, readRepeated_of_waiting hwaiting] at hstep
        cases hstep
      | none => rw [readStep_flush hcount hbrace, hstep]

end Waiting

/-! ## Before -/

/-- What is read of the anchor behind a pattern. -/
def Draft.stopTrees (d : Draft) (stop : Bool) : List Tree :=
  if stop then [.assertion (if d.flags.multiLine then .endLine else .endText)] else []

section Anchors

variable {body p : List Char} {d e : Draft}

theorem ending_stop (stop : Bool) : Ending (closingText stop false).toList := by
  cases stop with
  | false => exact ending_nil
  | true =>
    have htext : (closingText true false).toList = ['$'] := rfl
    rw [htext]
    exact ⟨by simp, by decide⟩

theorem readAll_stop (d : Draft) (stop : Bool) :
    ∃ e, readAll d (closingText stop false).toList = .ok e ∧
      e.flush = d.add (d.stopTrees stop) := by
  cases stop with
  | false => exact ⟨d, readAll_nil d, d.add_nil.symm⟩
  | true =>
    have hskip : Gap.outside.skip d.flags.verbose ['$'] = .ok ['$'] :=
      skip_of_not_hash (by decide) (by decide)
    have hne : Tree.assertion (if d.flags.multiLine then .endLine else .endText) ≠ .empty := nofun
    refine ⟨d.push (.assertion (if d.flags.multiLine then .endLine else .endText)), ?_,
      Draft.flush_push d hne⟩
    exact (readAll_of_step hskip rfl).trans (readAll_nil _)

/-- What is read of a pattern with anchors around: the pattern, behind the anchor in front. -/
theorem readAll_anchors (h : readAll (.start body) body = .ok d) (hhash : '#' ∉ body)
    (start stop : Bool)
    (hp : p = (openingText start false).toList ++ (body ++ (closingText stop false).toList))
    (he : readAll (.start p) p = .ok e) :
    ∃ f, Placed ⟨[], startTrees start, byteLength p⟩ d f ∧ e.flush = f.add (f.stopTrees stop) := by
  -- the anchor in front does not wait, as the pattern can be read without it
  obtain ⟨f₀, hplaced, hread⟩ : ∃ f₀, Placed ⟨[], startTrees start, byteLength p⟩ (.start body) f₀ ∧
      (readAll f₀ (body ++ (closingText stop false).toList)).map Draft.flush = .ok e.flush := by
    have hlength : byteLength body ≤ byteLength p := by
      rw [hp]
      exact byteLength_le_append _ _ _
    cases start with
    | false =>
      refine ⟨.start p, ⟨.bottom (.first []), rfl, hlength, rfl, rfl, rfl, rfl, rfl⟩, ?_⟩
      rw [show body ++ (closingText stop false).toList = p from hp.symm, he]
      rfl
    | true =>
      have hstep : readAll (.start p) p =
          readAll ((Draft.start p).push (.assertion .startText))
            (body ++ (closingText stop false).toList) := by
        refine readAll_of_step (c := '^') (u := body ++ (closingText stop false).toList) ?_ rfl
        rw [hp]
        exact skip_cons (by decide) (by decide) _
      rw [hstep] at he
      exact ⟨((Draft.start p).push (.assertion .startText)).flush,
        ⟨.bottom (.first []), rfl, hlength, rfl, rfl, rfl, rfl, rfl⟩,
        readAll_of_waiting (by rintro t ⟨⟩; rfl) he⟩
  obtain ⟨x, hx, hflush⟩ := map_eq_ok.mp hread
  obtain ⟨b, hsuffix, hb, _, hrun⟩ := readAll_placed h
  rcases hrun _ _ _ hplaced (Or.inl (ending_stop stop)) with ⟨-, hdeep⟩ | ⟨-, f, hf, heq⟩
  · rw [hdeep] at hx
    cases hx
  · obtain ⟨y, hy, hstop⟩ := readAll_stop f stop
    have hskip : Gap.outside.skip f.flags.verbose (b ++ (closingText stop false).toList) =
        .ok (closingText stop false).toList := by
      rw [hf.flags, skip_append_of_blank hb fun hmem => hhash (hsuffix.subset hmem)]
      exact (ending_stop stop).skip
    rw [heq, readAll_of_skip hskip, hy] at hx
    cases hx
    exact ⟨f, hf, hflush.symm.trans hstop⟩

/-! ### Branches -/

namespace Tree

variable {referred : List Nat} {pre post ts ts' : List Tree} {t : Tree}

theorem all_of_ofBranches {P : Tree → Prop} {ts : List Tree} (h : (ofBranches ts).All P) :
    ∀ t ∈ ts, t.All P := by
  match ts with
  | [] => exact List.forall_mem_nil _
  | [t] => exact List.forall_mem_singleton.mpr h
  | t :: t' :: ts => exact List.forall_mem_cons.mpr ⟨h.2.1, all_of_ofBranches h.2.2⟩

theorem ofItems_append_congr (hts : ts ≠ []) (hts' : ts' ≠ []) (h : ofItems ts = ofItems ts')
    (pre : List Tree) : ofItems (pre ++ ts) = ofItems (pre ++ ts') := by
  have hcons (t : Tree) {ts : List Tree} (h : ts ≠ []) :
      ofItems (t :: ts) = concat t (ofItems ts) := by
    obtain ⟨x, xs, rfl⟩ := List.exists_cons_of_ne_nil h
    rfl
  induction pre with
  | nil => exact h
  | cons t pre ih =>
    rw [List.cons_append, List.cons_append, hcons t (by simp [hts]), hcons t (by simp [hts']), ih]

/-- A branch that is in order is a sequence of items that are sound, if its classes are letters. -/
theorem Around.of_branch (hpre : IsAnchor pre) (hpost : IsAnchor post)
    (h : ∀ t ∈ ts, t.Tidy referred) (hlettered : (ofItems ts).Lettered) :
    Around referred (ofItems (pre ++ (ts ++ post))) (ofItems ts) := by
  refine ⟨pre, ts, post, hpre, hpost, fun x hx => ⟨(h x hx).isItem, (h x hx).numbered, ?_⟩, rfl,
    rfl⟩
  have hitems : x ∈ (ofItems ts).items := by
    rwa [items_ofItems (fun t ht => (h t ht).isItem) (List.ne_nil_of_mem hx)]
  exact All.items hlettered x hitems

theorem Around.refl (h : ∀ x ∈ t.items, x.Tidy referred) (hlettered : t.Lettered) :
    Around referred t t := by
  rw [← ofItems_items t] at hlettered
  have haround := Around.of_branch isAnchor_nil isAnchor_nil h hlettered
  rwa [List.nil_append, List.append_nil, ofItems_items] at haround

/-- The first branch need not be given by its items one by one. -/
theorem Around.first (hpre : IsAnchor pre) (h : ∀ x ∈ (ofItems ts).items, x.Tidy referred)
    (hlettered : (ofItems ts).Lettered) : Around referred (ofItems (pre ++ ts)) (ofItems ts) := by
  by_cases hne : ts = []
  · subst hne
    exact ⟨pre, [], [], hpre, isAnchor_nil, List.forall_mem_nil _, rfl, rfl⟩
  · have hitems := ofItems_items (ofItems ts)
    have hitemsNe : (ofItems ts).items ≠ [] := by
      generalize ofItems ts = t
      cases t <;> exact List.cons_ne_nil _ _
    rw [← hitems] at hlettered
    have haround := Around.of_branch hpre isAnchor_nil h hlettered
    rwa [List.append_nil, hitems, ofItems_append_congr hitemsNe hne hitems] at haround

end Tree

/-- What stands around a pattern stands around its branches: in front of the first one, and behind the
last one. -/
theorem around_of_behind {referred : List Nat} {front post branches items branches' items' : List Tree}
    (hbehind : Behind front branches items branches' items')
    (hfront : Tree.IsAnchor front.reverse) (hpost : Tree.IsAnchor post)
    (hitems : ∀ t ∈ items, t.Tidy referred) (hbranches : ∀ t ∈ branches, ∀ x ∈ t.items,
      x.Tidy referred) (hlettered : ∀ t ∈ Tree.ofItems items.reverse :: branches, t.Lettered) :
    List.Forall₂ (Tree.Around referred)
      (Tree.ofItems (items'.reverse ++ post) :: branches').reverse
      (Tree.ofItems items.reverse :: branches).reverse := by
  have hlast : ∀ t ∈ items.reverse, t.Tidy referred := fun t ht => hitems t (List.mem_reverse.mp ht)
  obtain ⟨hlastLettered, hrest⟩ := List.forall_mem_cons.mp hlettered
  cases hbehind with
  | first items =>
    rw [List.reverse_append, List.append_assoc]
    exact .cons (.of_branch hfront hpost hlast hlastLettered) .nil
  | later branches items first =>
    have hreverse (t t' : Tree) : (t :: (branches ++ [t'])).reverse =
        t' :: (branches.reverse ++ [t]) := by simp
    rw [hreverse, hreverse, List.reverse_append]
    obtain ⟨hmiddle, hfirst⟩ := List.forall_mem_append.mp hbranches
    obtain ⟨hmiddleLettered, hfirstLettered⟩ := List.forall_mem_append.mp hrest
    refine .cons ?_ (List.rel_append (List.forall₂_same.mpr fun t ht => ?_) (.cons ?_ .nil))
    · exact .first hfront (List.forall_mem_singleton.mp hfirst)
        (List.forall_mem_singleton.mp hfirstLettered)
    · have ht := List.mem_reverse.mp ht
      exact .refl (hmiddle t ht) (hmiddleLettered t ht)
    · exact .of_branch Tree.isAnchor_nil hpost hlast hlastLettered

theorem Draft.body_flush (d : Draft) : d.flush.body = d.body := by
  unfold Draft.body
  rw [Draft.flush_flush, Draft.flush_eq]

theorem isAnchor_startTrees (start : Bool) : Tree.IsAnchor (startTrees start) := by
  cases start with
  | false => exact Tree.isAnchor_nil
  | true => exact Tree.isAnchor_look rfl

theorem Draft.isAnchor_stopTrees (d : Draft) (stop : Bool) : Tree.IsAnchor (d.stopTrees stop) := by
  cases stop with
  | false => exact Tree.isAnchor_nil
  | true =>
    refine Tree.isAnchor_look ?_
    cases d.flags.multiLine <;> rfl

theorem reverse_startTrees (start : Bool) : (startTrees start).reverse = startTrees start := by
  cases start <;> rfl

/-- **A pattern is read with the anchors around its branches.** -/
theorem body_anchors (h : readAll (.start body) body = .ok d) (hlevels : d.levels = [])
    (hhash : '#' ∉ body) (hlettered : d.body.Lettered) (start stop : Bool)
    (hp : p = (openingText start false).toList ++ (body ++ (closingText stop false).toList))
    (he : readAll (.start p) p = .ok e) :
    (e.numbered = d.numbered ∧ e.referred = d.referred ∧ e.scope.names = d.scope.names) ∧
      ∃ ts ts', e.body = .ofBranches ts ∧ d.body = .ofBranches ts' ∧
        List.Forall₂ (Tree.Around d.referred) ts ts' := by
  obtain ⟨f, hf, hflush⟩ := readAll_anchors h hhash start stop hp he
  have hfields : e.numbered = d.numbered ∧ e.referred = d.referred ∧
      e.scope.names = d.scope.names := by
    rw [Draft.flush_eq] at hflush
    exact ⟨(congrArg Draft.numbered hflush).trans hf.numbered,
      (congrArg Draft.referred hflush).trans hf.referred,
      (congrArg (·.scope.names) hflush).trans hf.names⟩
  have hbody : e.body = .ofBranches
      (Tree.ofItems (f.flush.items.reverse ++ f.stopTrees stop) :: f.branches).reverse := by
    rw [← Draft.body_flush e, hflush, Draft.body, Draft.flush_add]
    simp [Draft.add]
  have hframes := hf.frames_flush
  rw [hlevels] at hframes
  obtain ⟨-, hbehind⟩ := hframes.levels_nil
  have htidy := readAll_tidy (.start body) h
  have hall := Tree.all_of_ofBranches hlettered
  refine ⟨hfields, _, _, hbody, rfl, around_of_behind hbehind ?_ (f.isAnchor_stopTrees stop)
    htidy.sequence htidy.branches fun t ht => hall t (List.mem_reverse.mpr ht)⟩
  rw [reverse_startTrees]
  exact isAnchor_startTrees start

end Anchors

/-! ## After -/

section Steps

variable {d e : Draft} {s t text : List Char} {c : Char}

theorem readFlags_of_colon (flags : Flags) (s : List Char) :
    (readFlags (':' :: s) flags false (':' :: s)).text = .ok ((flags, true), s) := by
  rw [readFlags_text, skip_cons (by decide) (by decide)]
  simp [Except.bind]

theorem groupText_capture (d : Draft) (hs : s.head? ≠ some '?') :
    groupText d s = .ok (d.openCapture, s) := by
  have hopening : opening s = (.capture, 0) := by
    unfold opening
    split <;> simp_all
  unfold groupText
  rw [hopening]
  rfl

theorem groupText_plain (d : Draft) (s : List Char) :
    groupText d ('?' :: ':' :: s) = .ok (d.openLevel (.plain d.flags), s) := by
  change (readFlags (':' :: s) d.flags false (':' :: s)).text.map _ = _
  rw [readFlags_of_colon]
  change Except.ok ({ d.openLevel (.plain d.flags) with flags := d.flags }, s) = _
  rw [Draft.openLevel_eq]

/-- A parenthesis opens a group, if no more groups are open than can be. -/
theorem readAll_openGroup {r : List Char} (hlevels : d.levels.length < 62) (hhash : '#' ∉ s)
    (hskip : Gap.outside.skip d.flags.verbose s = .ok s) (h : groupText d s = .ok (e, r)) :
    readAll d ('(' :: s) = readAll e r := by
  have hbound : ¬nestingBound ≤ d.levels.length + 1 := by
    unfold nestingBound
    omega
  refine readAll_of_step (skip_of_not_hash (by decide) (by simpa using hhash)) ?_
  change (readGroup d s).text = _
  rw [readGroup_text, if_neg hbound, hskip]
  exact h

theorem readAll_flush_close (d : Draft) (s : List Char) :
    readAll d.flush (')' :: s) = readAll d (')' :: s) := by
  have hflags : d.flush.flags = d.flags := by rw [Draft.flush_eq]
  rw [readAll_text, readAll_text d, hflags, skip_cons (by decide) (by decide)]
  simp only [Except.bind, readStep_flush (c := ')') rfl (by decide)]

theorem add_push (d : Draft) {t : Tree} (ht : t ≠ .empty) (ts : List Tree) :
    (d.push t).add ts = d.add (t :: ts) := by
  have hflush := Draft.flush_push d ht
  rw [Draft.push_eq] at hflush ⊢
  unfold Draft.add at hflush ⊢
  rw [hflush]
  simp

theorem ordinary_of_isAlphanum (h : c.isAlphanum = true) :
    isBlank c = false ∧ c ∉ ['#', '('] :=
  Regular.forall_isAlphanum (P := fun c => isBlank c = false ∧ c ∉ ['#', '(']) (by decide +kernel) h

/-- Letters and digits stand for themselves. -/
theorem readAll_letters (h : ∀ c ∈ text, c.isAlphanum = true) (d : Draft) (s : List Char) :
    readAll d (text ++ ')' :: s) =
      readAll (d.add (text.map (.literal · d.flags.anyCase))) (')' :: s) := by
  induction text generalizing d with
  | nil => rw [List.map_nil, Draft.add_nil, List.nil_append, readAll_flush_close]
  | cons c text ih =>
    obtain ⟨hc, htext⟩ := List.forall_mem_cons.mp h
    obtain ⟨hblank, hmark⟩ := ordinary_of_isAlphanum hc
    have hflags : (d.push (.literal c d.flags.anyCase)).flags = d.flags := by rw [Draft.push_eq]
    rw [List.cons_append, readAll_of_step (skip_cons hblank hmark _)
      (readStep_char d (Regular.isPlainChar_of_isAlphanum hc) _), ih htext, hflags,
      add_push d Tree.noConfusion]
    rfl

theorem checkEnd_of_names (h : ¬(d.numbered = true ∧ d.scope.names ≠ [])) :
    d.checkEnd = .ok () := by
  unfold Draft.checkEnd
  cases hnumbered : d.numbered with
  | false => simp
  | true =>
    have hnames : d.scope.names = [] := by
      by_contra hne
      exact h ⟨hnumbered, hne⟩
    simp [hnames]

theorem readAll_close {level : Level} {levels : List Level} (hend : d.checkEnd = .ok ())
    (hlevels : d.levels = level :: levels)
    (h : closedText (d.leave level levels) d.body s level.kind = .ok (e, t)) :
    readAll d (')' :: s) = readAll e t := by
  refine readAll_of_step (skip_cons (by decide) (by decide) _) ?_
  change (closeGroup d s).text = _
  rw [closeGroup_text, hend, hlevels]
  exact h

theorem body_push_of_nil (hbranches : d.branches = []) (hitems : d.flush.items = []) (t : Tree) :
    (d.push t).body = t := by
  have hbranches' : (d.push t).branches = [] := by rw [Draft.push_eq]; exact hbranches
  unfold Draft.body
  rw [hbranches']
  by_cases ht : t = .empty
  · subst ht
    rw [Draft.push_eq]
    change Tree.ofBranches [Tree.ofItems d.flush.items.reverse] = _
    rw [hitems]
    rfl
  · rw [Draft.flush_push d ht]
    simp [Draft.add, hitems, Tree.ofBranches, Tree.ofItems]

end Steps

section Alternative

variable {body value p : List Char} {d : Draft}

/-- The items of what was written, in a group behind its anchor. -/
def formerTrees (start : Bool) (d : Draft) : List Tree :=
  startTrees start ++ [.group 1 (d.body.shift 1)]

/-- The items of another alternative, in a group in front of its anchor. -/
def latterTrees (stop : Bool) (d : Draft) (value : List Char) : List Tree :=
  .group (d.scope.groups + 2)
    (Tree.ofItems (value.map (.literal · d.flags.anyCase))).enclosed :: d.stopTrees stop

/-- What has been read once the group of what was written is closed. -/
def Draft.former (start : Bool) (length : Nat) (d : Draft) : Draft where
  scope := ⟨d.scope.groups + 1, d.scope.names.map fun x => (x.1, x.2 + 1), length⟩
  levels := []
  branches := []
  items := (startTrees start).reverse
  pending := some (.group 1 (d.body.shift 1))
  flags := d.flags
  numbered := d.numbered
  referred := d.referred.map (raise 1)
  unopened := d.unopened

/-- What was written is read in a group behind its anchor. -/
theorem readAll_former (h : readAll (.start body) body = .ok d) (hmoves : MovesWithGroups body)
    (hlevels : d.levels = []) (hend : d.checkEnd = .ok ()) (hhash : '#' ∉ body) (start : Bool)
    {t : List Char} (ht : Ending (')' :: t)) (hhash' : '#' ∉ t)
    (hp : p = (openingText start true).toList ++ (body ++ ')' :: t)) :
    readAll (.start p) p = .error .nestingTooDeep ∨
      readAll (.start p) p = readAll (d.former start (byteLength p)) t := by
  -- the group that is opened in front stands around what was written
  have hhashes : '#' ∉ body ++ ')' :: t := by simp [hhash, hhash']
  have hhead : (body ++ ')' :: t).head? ≠ some '?' := by
    cases body with
    | nil => simp
    | cons c body =>
      intro hc
      obtain rfl : c = '?' := by simpa using hc
      rw [readAll_text] at h
      cases h
  have hskip := skip_false_of_not_hash hhashes
  have hgroup (x : Draft) (hx : x.levels = []) (hflags : x.flags = .none) :
      readAll x ('(' :: (body ++ ')' :: t)) = readAll x.openCapture (body ++ ')' :: t) :=
    readAll_openGroup (by rw [hx]; decide) hhashes (by rw [hflags]; exact hskip)
      (groupText_capture x hhead)
  obtain ⟨f₀, hplaced, hread⟩ : ∃ f₀,
      Placed ⟨[⟨.capture 1, [], (startTrees start).reverse⟩], [], byteLength p⟩
        ((Draft.start body).shift 1) f₀ ∧
      readAll (.start p) p = readAll f₀ (body ++ ')' :: t) := by
    have hlength : byteLength body ≤ byteLength p := by
      rw [hp]
      exact byteLength_le_append _ _ _
    cases start with
    | false =>
      refine ⟨(Draft.start p).openCapture,
        ⟨.bottom (.first []), rfl, hlength, rfl, rfl, rfl, rfl, rfl⟩, ?_⟩
      rw [← hgroup (.start p) rfl rfl]
      exact congrArg (readAll _) hp
    | true =>
      refine ⟨((Draft.start p).push (.assertion .startText)).openCapture,
        ⟨.bottom (.first []), rfl, hlength, rfl, rfl, rfl, rfl, rfl⟩, ?_⟩
      rw [← hgroup _ rfl rfl]
      refine readAll_of_step (c := '^') (u := '(' :: (body ++ ')' :: t)) ?_ rfl
      rw [hp]
      exact skip_cons (by decide) (by decide) _
  obtain ⟨b, hsuffix, hb, _, hrun⟩ := readAll_placed (hmoves d h)
  rw [hread]
  refine (hrun _ _ _ hplaced (Or.inl ht)).imp And.right ?_
  rintro ⟨-, f, hf, heq⟩
  have hskip : Gap.outside.skip f.flags.verbose (b ++ ')' :: t) = .ok (')' :: t) := by
    rw [hf.flags, skip_append_of_blank hb fun hmem => hhash (hsuffix.subset hmem)]
    exact ht.skip
  have hframes := hf.frames_flush
  rw [show (d.shift 1).levels = [] by simp [Draft.shift, hlevels]] at hframes
  obtain ⟨hflevels, hbehind⟩ := hframes.levels_nil
  obtain ⟨hbranches, hitems⟩ := hbehind.eq_of_nil
  have hbody : f.body = d.body.shift 1 := by
    rw [← Draft.body_shift]
    unfold Draft.body
    rw [hbranches, hitems]
  rw [heq, readAll_of_skip hskip]
  refine readAll_close (by rw [hf.checkEnd, Draft.checkEnd_shift, hend]) hflevels ?_
  rw [hbody]
  change Except.ok ((f.leave _ _).push _, t) = _
  rw [Draft.push_eq]
  simp only [Draft.leave, hf.scope, hf.flags, hf.numbered, hf.referred, hf.unopened]
  rfl

/-- Letters and digits in a group that captures nothing. -/
theorem readAll_charGroup {x : Draft} (hlevels : x.levels.length < 62)
    (hnames : ¬(x.numbered = true ∧ x.scope.names ≠ []))
    (hvalue : ∀ c ∈ value, c.isAlphanum = true) {s : List Char} (hhash : '#' ∉ value ++ ')' :: s) :
    readAll x ("(?:".toList ++ (value ++ ')' :: s)) =
      readAll (x.push (Tree.ofItems (value.map (.literal · x.flags.anyCase))).enclosed) s := by
  generalize htrees : value.map (Tree.literal · x.flags.anyCase) = trees
  have hopen : (x.openLevel (.plain x.flags)).flags = x.flags := by rw [Draft.openLevel_eq]
  have hinner : (x.openLevel (.plain x.flags)).add trees = { x with
      levels := ⟨.plain x.flags, x.branches, x.flush.items⟩ :: x.levels
      branches := []
      items := trees.reverse
      pending := none } := by
    rw [Draft.openLevel_eq]
    simp [Draft.add, Draft.flush]
  calc
    _ = readAll (x.openLevel (.plain x.flags)) (value ++ ')' :: s) :=
        readAll_openGroup hlevels (s := '?' :: ':' :: (value ++ ')' :: s)) (by simpa using hhash)
          (skip_cons (by decide) (by decide) _) (groupText_plain x _)
    _ = readAll ((x.openLevel (.plain x.flags)).add trees) (')' :: s) := by
        rw [readAll_letters hvalue, hopen, htrees]
    _ = _ := by
        rw [hinner]
        refine readAll_close (checkEnd_of_names hnames) rfl ?_
        rw [Draft.push_eq]
        simp [closedText, Draft.leave, Draft.push_eq, Draft.body, Draft.flush, Tree.ofBranches]

/-- What is read in a capture group is one item behind what stands in front of it. -/
theorem readAll_close_capture {x : Draft} (hnames : ¬(x.numbered = true ∧ x.scope.names ≠ []))
    (t : Tree) (s : List Char) :
    readAll (x.openCapture.push t) (')' :: s) =
      readAll ({ x with scope := { x.scope with groups := x.scope.groups + 1 } }.push
        (.group (x.scope.groups + 1) t)) s := by
  have hbody : (x.openCapture.push t).body = t := by
    refine body_push_of_nil ?_ ?_ t
    · rw [Draft.openCapture_eq]
    · rw [Draft.openCapture_eq]
      rfl
  have hpush : x.openCapture.push t = { x with
      scope := { x.scope with groups := x.scope.groups + 1 }
      levels := ⟨.capture (x.scope.groups + 1), x.branches, x.flush.items⟩ :: x.levels
      branches := []
      items := []
      pending := some t } := by
    rw [Draft.push_eq, Draft.openCapture_eq]
    rfl
  have hlevels : (x.openCapture.push t).levels =
      ⟨.capture (x.scope.groups + 1), x.branches, x.flush.items⟩ :: x.levels := by rw [hpush]
  refine readAll_close (checkEnd_of_names ?_) hlevels ?_
  · rw [hpush]
    exact hnames
  · have hitems : ({ x with scope := { x.scope with groups := x.scope.groups + 1 } } :
        Draft).flush.items = x.flush.items := by
      obtain ⟨_, _, _, _, pending, _, _, _, _⟩ := x
      cases pending with
      | none => rfl
      | some t => cases t <;> rfl
    rw [hbody, hpush, Draft.push_eq, hitems]
    simp only [closedText, Draft.leave, Draft.push_eq]
    rfl

/-- Another alternative is read in a group of its own, in front of its anchor. -/
theorem readAll_latter {x : Draft} (hlevels : x.levels = [])
    (hnames : ¬(x.numbered = true ∧ x.scope.names ≠ []))
    (hvalue : ∀ c ∈ value, c.isAlphanum = true) (stop : Bool) :
    ∃ y, readAll x ('|' :: ("((?:".toList ++ (value ++ ')' :: (closingText stop true).toList))) =
        .ok y ∧
      y.flush = { x.branch with scope := { x.scope with groups := x.scope.groups + 1 } }.add
        (.group (x.scope.groups + 1)
          (Tree.ofItems (value.map (.literal · x.flags.anyCase))).enclosed :: x.stopTrees stop) := by
  have hhash : '#' ∉ value ++ ')' :: (closingText stop true).toList := by
    have hvalue : '#' ∉ value := fun hmem => absurd (hvalue _ hmem) (by decide)
    cases stop <;> simp [closingText, hvalue]
  have hopen : '#' ∉ "(?:".toList ++ (value ++ ')' :: (closingText stop true).toList) :=
    fun hmem => (List.mem_append.mp hmem).elim (by decide) hhash
  have hclosing : (closingText stop true).toList = ')' :: (closingText stop false).toList :=
    toList_closingText stop true
  have hbranch : x.branch = { x with
      branches := .ofItems x.flush.items.reverse :: x.branches
      items := []
      pending := none } := Draft.branch_eq x
  generalize hvalueTree : (Tree.ofItems (value.map (.literal · x.flags.anyCase))).enclosed = t
  obtain ⟨y, hy, hflush⟩ := readAll_stop ({ x.branch with
    scope := { x.scope with groups := x.scope.groups + 1 } }.push
      (.group (x.scope.groups + 1) t)) stop
  refine ⟨y, ?_, ?_⟩
  · rw [← hy]
    calc
      _ = readAll x.branch ('(' :: ("(?:".toList ++ (value ++ ')' ::
            (closingText stop true).toList))) :=
          readAll_of_step (skip_cons (by decide) (by decide) _) rfl
      _ = readAll x.branch.openCapture ("(?:".toList ++ (value ++ ')' ::
            (closingText stop true).toList)) := by
          refine readAll_openGroup ?_ ?_ ?_ (groupText_capture _ (by simp))
          · rw [hbranch, hlevels]
            decide
          · exact hopen
          · exact skip_of_not_hash (by decide) hopen
      _ = readAll (x.branch.openCapture.push t) (')' :: (closingText stop false).toList) := by
          rw [readAll_charGroup ?_ ?_ hvalue hhash, hclosing, ← hvalueTree]
          · rw [Draft.openCapture_eq, hbranch]
          · rw [Draft.openCapture_eq, hbranch]
            simp [hlevels]
          · rw [Draft.openCapture_eq, hbranch]
            exact hnames
      _ = _ := by
          rw [readAll_close_capture]
          · rw [hbranch]
          · rw [hbranch]
            exact hnames
  · rw [hflush, add_push _ Tree.noConfusion, Draft.push_eq, hbranch]
    rfl

/-- **What is read of a pattern with another alternative**: all that was written in the first branch,
and the alternative in the second one. -/
theorem readAll_alternative (h : readAll (.start body) body = .ok d)
    (hmoves : MovesWithGroups body) (hlevels : d.levels = [])
    (hnames : ¬(d.numbered = true ∧ d.scope.names ≠ [])) (hhash : '#' ∉ body)
    (hvalue : ∀ c ∈ value, c.isAlphanum = true) (start stop : Bool)
    (hp : p = alternativeText start stop body value) :
    readAll (.start p) p = .error .nestingTooDeep ∨ ∃ e, readAll (.start p) p = .ok e ∧
      e.levels = [] ∧ e.unopened = d.unopened ∧ e.numbered = d.numbered ∧
      e.referred = d.referred.map (raise 1) ∧
      e.scope.names = d.scope.names.map (fun x => (x.1, x.2 + 1)) ∧
      e.body = .alternate (.ofItems (formerTrees start d)) (.ofItems (latterTrees stop d value)) := by
  have hhash' : '#' ∉ value := fun hmem => absurd (hvalue _ hmem) (by decide)
  have hclosing : ∀ c ∈ (closingText stop true).toList, c ∈ [')', '$'] := by
    cases stop <;> simp [closingText]
  have htail : ∀ c ∈ "|((?:".toList ++ (value ++ ')' :: (closingText stop true).toList),
      c ≠ '#' ∧ c ≠ '\n' := by
    intro c hc
    rcases List.mem_append.mp hc with hc | hc
    · have hmarks : ∀ c ∈ "|((?:".toList, c ≠ '#' ∧ c ≠ '\n' := by simp
      exact hmarks c hc
    rcases List.mem_append.mp hc with hc | hc
    · exact ⟨fun heq => hhash' (heq ▸ hc), fun heq => absurd (hvalue c hc) (by rw [heq]; decide)⟩
    rcases List.mem_cons.mp hc with rfl | hc
    · decide
    · have := hclosing c hc
      simp only [List.mem_cons, List.not_mem_nil, or_false] at this
      rcases this with rfl | rfl <;> decide
  have hending : Ending (')' :: ("|((?:".toList ++ (value ++ ')' :: (closingText stop true).toList))) :=
    ⟨by rintro c ⟨⟩; simp, fun hmem => by
      rcases List.mem_cons.mp hmem with hc | hc
      · contradiction
      · exact (htail _ hc).2 rfl⟩
  have hformer := readAll_former h hmoves hlevels (checkEnd_of_names hnames) hhash start hending
    (fun hmem => (htail _ hmem).1 rfl) (hp.trans (by simp [alternativeText]))
  refine hformer.imp_right fun hformer => ?_
  have hformerNames : ¬((d.former start (byteLength p)).numbered = true ∧
      (d.former start (byteLength p)).scope.names ≠ []) := by
    simpa [Draft.former] using hnames
  obtain ⟨e, he, hflush⟩ := readAll_latter rfl hformerNames hvalue stop
  refine ⟨e, hformer.trans he, ?_⟩
  have hbody := Draft.body_flush e
  rw [hflush, Draft.branch_eq, Draft.body, Draft.flush_add] at hbody
  rw [Draft.flush_eq, Draft.branch_eq] at hflush
  refine ⟨(congrArg Draft.levels hflush :), (congrArg Draft.unopened hflush :),
    (congrArg Draft.numbered hflush :), (congrArg Draft.referred hflush :),
    (congrArg (·.scope.names) hflush :), hbody.symm.trans ?_⟩
  cases start <;>
    simp [Draft.add, Draft.flush, Draft.former, formerTrees, latterTrees, startTrees,
      Draft.stopTrees, Tree.ofBranches, Tree.ofItems]

end Alternative

end Verbal.Extended
