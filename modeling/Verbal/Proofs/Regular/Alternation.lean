import Verbal.Proofs.Regular.Narrowing

/-!
# Another alternative

Another alternative puts all that was written into a capture group, between the anchor in front and
a bar, and itself into a second group between the bar and the anchor behind. What is written stands
for the same there but for the numbers of its groups, and no longer has the anchor behind; so
nothing that matched before is lost.

* **`exists_alternative`**: what was matched is still matched, and so is the other alternative.
* `written_anchors`, `written_alternative`: how the pattern is read before and after.
-/

namespace Verbal.Regular

open Verbal.Unicode

/-! ## Letters and digits -/

/-- Whether a text has only ASCII letters and digits. -/
def IsAlphanumText (text : String) : Prop := ∀ c ∈ text.toList, c.isAlphanum = true

instance (text : String) : Decidable (IsAlphanumText text) :=
  List.decidableBAll (fun c : Char => c.isAlphanum = true) text.toList

theorem ofNat_of_isAlphanum {c : Char} (h : c.isAlphanum = true) :
    c.toNat < 128 ∧ Char.ofNat c.toNat = c := by
  refine ⟨?_, Char.ofNat_toNat c⟩
  change ((decide (c.val ≥ 'A'.val ∧ c.val ≤ 'Z'.val) ||
    decide (c.val ≥ 'a'.val) && decide (c.val ≤ 'z'.val)) ||
    decide (c.val ≥ '0'.val) && decide (c.val ≤ '9'.val)) = true at h
  simp only [Bool.or_eq_true, Bool.and_eq_true, decide_eq_true_eq, UInt32.le_iff_toNat_le] at h
  have hupper : 'Z'.val.toNat = 90 := rfl
  have hlower : 'z'.val.toNat = 122 := rfl
  have hdigit : '9'.val.toNat = 57 := rfl
  change c.val.toNat < 128
  omega

theorem forall_isAlphanum {P : Char → Prop} [DecidablePred P]
    (h : ∀ n < 128, (Char.ofNat n).isAlphanum = true → P (Char.ofNat n)) {c : Char}
    (hc : c.isAlphanum = true) : P c := by
  obtain ⟨hlt, heq⟩ := ofNat_of_isAlphanum hc
  have hn := h c.toNat hlt
  rw [heq] at hn
  exact hn hc

theorem isPlainChar_of_isAlphanum {c : Char} (h : c.isAlphanum = true) : IsPlainChar c :=
  forall_isAlphanum (P := fun c => isMeta c = false) (by decide +kernel) h

theorem mem_caseVariants_of_isAlphanum {c : Char} (h : c.isAlphanum = true) :
    c ∈ caseVariants c :=
  forall_isAlphanum (P := fun c => c ∈ caseVariants c) (by decide +kernel) h

namespace Regex

/-- The letters of a text match the text, whether case is ignored or not. -/
theorem covers_ofText (anyCase : Bool) {value : List Char}
    (h : ∀ c ∈ value, c.isAlphanum = true) : (ofText anyCase value).Covers value := by
  refine ((reads_ofText anyCase value).covers_iff value).mpr (List.forall₂_same.mpr fun c hc => ?_)
  cases anyCase with
  | true => exact mem_caseVariants_of_isAlphanum (h c hc)
  | false => exact rfl

end Regex

/-! ## Before -/

section Anchors

variable {body : List Char} {d : Draft}

theorem ends_stop (v : Bool) (stop : Bool) : Ends v (closingText stop false).toList := by
  cases stop with
  | false => exact looksAlike_nil []
  | true => exact ⟨⟨nofun, by cases v <;> decide⟩, nofun⟩

theorem readAll_stop_of_verbose (d : Draft) (stop : Bool) :
    readAll d (closingText stop false).toList = .ok (d.pushAll (stopItems stop)) := by
  cases stop with
  | false =>
    refine readAll_of_blank ?_
    cases d.verbose <;> rfl
  | true =>
    have hskip (v : Bool) : skipBlanks v ['$'] = ['$'] := by cases v <;> decide
    have hread (v : Bool) : readToken v '$' [] = .ok (.primitive (.assertion .endLine), []) := rfl
    refine (readAll_of_token (hskip _) (hread _) rfl).trans (readAll_of_blank ?_)
    generalize Draft.verbose _ = v
    cases v <;> rfl

/-- **A pattern with anchors around it** matches nowhere else than the pattern itself. -/
theorem written_anchors (h : readAll .start body = .ok d) (hlevels : d.levels = [])
    (hhash : '#' ∉ body) (start stop : Bool) :
    ∃ source, Source.written
        ((openingText start false).toList ++ (body ++ (closingText stop false).toList)) =
          .ok source ∧ source.ast.Narrows d.body := by
  have hfit : d.Fits ⟨[], 0, []⟩ := fun _ _ _ => nofun
  have hpart := readAll_part h hhash hfit (ends_stop d.verbose stop)
  rw [Draft.inside_trivial, Draft.inside_trivial, readAll_stop_of_verbose] at hpart
  have hstop : (d.pushAll (stopItems stop)).body.Narrows d.body := by
    cases stop with
    | false => exact .refl _
    | true => exact d.narrows_body_push .endLine
  have hstart := readAll_start (d := .start) rfl start (body ++ (closingText stop false).toList)
  cases start with
  | false => exact ⟨_, written_eq_ok.mpr ⟨_, hstart.trans hpart, hlevels, rfl⟩, hstop⟩
  | true =>
    have hfirst : Draft.start.Fronted (.primitive (.assertion .startLine))
        (Draft.start.pushAll (startItems true)) := ⟨.first [], rfl, rfl, rfl⟩
    obtain ⟨e, hread, hfronted⟩ := readAll_fronted hfirst hpart
    obtain ⟨helevels, hnarrows⟩ := hfronted.narrows_body hlevels
    exact ⟨_, written_eq_ok.mpr ⟨e, hstart.trans hread, helevels, rfl⟩, hnarrows.trans hstop⟩

end Anchors

end Verbal.Regular

namespace Verbal

/-- The text of a pattern once another alternative is added to the first one. -/
def alternativeText (start stop : Bool) (body value : List Char) : List Char :=
  (openingText start true).toList ++
    (body ++ (")|((?:".toList ++ (value ++ ')' :: (closingText stop true).toList)))

namespace Regular

/-! ## After -/

section Alternative

variable {body value : List Char} {d : Draft}

/-- The items of what was written, in a group behind its anchor. -/
def formerItems (start : Bool) (d : Draft) : List Ast :=
  startItems start ++ [.group (.capture 1) (d.body.shift 1)]

/-- What was written covers in its group what it covered on its own. -/
theorem regex_former {a : Ast} {anyCase : Bool} {r : Regex} {flags : Flags}
    (hr : a.regex (.initial anyCase) = .ok (r, flags)) (start : Bool) :
    ∃ rf, (Ast.ofItems (startItems start ++ [.group (.capture 1) (a.shift 1)])).regex
        (.initial anyCase) = .ok (rf, .initial anyCase) ∧
      ∀ text, r.Covers text → rf.Covers text := by
  have hgroup : (Ast.group (.capture 1) (a.shift 1)).regex (.initial anyCase) =
      .ok (.group 1 (r.shift 1), .initial anyCase) := by
    simp only [Ast.regex, Ast.regex_shift, hr, bind, Except.bind, Except.map, pure, Except.pure]
  have hcovers (text : List Char) (hs : r.Covers text) :
      (Regex.group 1 (r.shift 1)).Covers text := by
    unfold Regex.Covers Regex.Spans
    rwa [Regex.spans_shift]
  cases start with
  | false => exact ⟨_, hgroup, hcovers⟩
  | true =>
    exact ⟨_, Ast.regex_concat_eq_ok.mpr ⟨.look .startText, _, _, rfl, hgroup, rfl⟩,
      fun text hs => ⟨0, ⟨rfl, rfl⟩, hcovers text hs⟩⟩

/-- The items of another alternative, in a group in front of its anchor. -/
def latterItems (stop : Bool) (d : Draft) (value : List Char) : List Ast :=
  .group (.capture (d.groups + 2)) (.plainGroup (value.map .ofChar)) :: stopItems stop

theorem head?_ne_of_readAll (h : readAll .start body = .ok d) (t : List Char) :
    (body ++ ')' :: t).head? ≠ some '?' := by
  cases body with
  | nil => nofun
  | cons c body =>
    intro hc
    obtain rfl : c = '?' := by simpa using hc
    rw [readAll_text] at h
    cases h

/-- **Another alternative is read in a branch of its own**, behind all that was written before. -/
theorem written_alternative (h : readAll .start body = .ok d) (hlevels : d.levels = [])
    (hhash : '#' ∉ body) (hvalue : ∀ c ∈ value, IsPlainChar c) (start stop : Bool) :
    ∃ source, Source.written (alternativeText start stop body value) = .ok source ∧
      source.ast = .alternate (.ofItems (formerItems start d))
        (.ofItems (latterItems stop d value)) := by
  -- the group that is opened in front stands around what was written
  have hopen (t : List Char) (ht : t.head? ≠ some '?') :
      readAll .start ((openingText start true).toList ++ t) =
        readAll (Draft.start.inside
          ⟨[⟨.capture 1, false, [], (startItems start).reverse⟩], 1, []⟩) t := by
    have hopening : (openingText start true).toList = (openingText start false).toList ++ ['('] :=
      toList_openingText start true
    rw [hopening, List.append_assoc, readAll_start rfl, List.singleton_append,
      readAll_openCapture (d := Draft.start.pushAll _) rfl ht]
    cases start <;> rfl
  generalize haround : (⟨[⟨.capture 1, false, [], (startItems start).reverse⟩], 1, []⟩ :
    Surroundings) = around at hopen
  have hfit : d.Fits around := by
    rw [← haround]
    exact fun _ _ _ => nofun
  have hclosing : (closingText stop true).toList = ')' :: (closingText stop false).toList :=
    toList_closingText stop true
  -- the bar stands behind its group, and the other alternative is read like any other group
  let former : Draft := ⟨[], [], (formerItems start d).reverse, false, d.groups + 1,
    d.names.map fun x => (x.1, x.2 + 1)⟩
  have hclose (t : List Char) : readAll (d.inside around) (')' :: t) = readAll former t := by
    refine readAll_of_token (skipBlanks_parenthesis _ t)
      (show readToken (d.inside around).verbose ')' t = .ok (.close, t) from rfl)
      (Draft.closeGroup_eq_ok.mpr
        ⟨⟨.capture 1, false, [], (startItems start).reverse⟩, [], ?_, ?_⟩)
    · rw [← haround]
      simp [Draft.inside, hlevels]
    · rw [Draft.body_inside, ← haround]
      simp [former, formerItems, Draft.inside]
  have hlatter : readAll former.branch.openCapture
      ("(?:".toList ++ (value ++ ')' :: (closingText stop true).toList)) =
        .ok ((former.branch.capture [.plainGroup (value.map .ofChar)]).pushAll
          (stopItems stop)) := by
    rw [readAll_charGroup (d := former.branch.openCapture) rfl hvalue, hclosing]
    exact (readAll_close_capture (d := former.branch) rfl [_] _).trans
      (readAll_stop_of_verbose _ stop)
  refine ⟨_, written_eq_ok.mpr
    ⟨(former.branch.capture [.plainGroup (value.map .ofChar)]).pushAll (stopItems stop), ?_,
      rfl, rfl⟩, ?_⟩
  · calc
      readAll .start (alternativeText start stop body value) =
          readAll (d.inside around) (")|((?:".toList ++ (value ++ ')' ::
            (closingText stop true).toList)) :=
        (hopen _ (head?_ne_of_readAll h _)).trans
          (readAll_part h hhash hfit (ends_parenthesis d.verbose _))
      _ = readAll former.branch ('(' :: ("(?:".toList ++ (value ++ ')' ::
            (closingText stop true).toList))) :=
        (hclose _).trans (readAll_token (d := former) rfl .bar rfl rfl)
      _ = _ := (readAll_openCapture (d := former.branch) rfl (by simp)).trans hlatter
  · cases stop <;> simp [former, Draft.capture, Draft.branch, Draft.pushAll, Draft.push, Draft.body,
      latterItems, stopItems, Ast.ofBranches, Ast.ofItems]

/-- **Another alternative only adds matches**: what the pattern covered is still covered, and so is
the alternative. -/
theorem exists_alternative {anyCase : Bool} {r : Regex} {flags : Flags}
    (h : readAll .start body = .ok d) (hlevels : d.levels = []) (hhash : '#' ∉ body)
    (hr : d.body.regex (.initial anyCase) = .ok (r, flags))
    (hvalue : ∀ c ∈ value, c.isAlphanum = true) (start stop : Bool) :
    ∃ source r', Source.written (alternativeText start stop body value) = .ok source ∧
      source.ast.regex (.initial anyCase) = .ok (r', .initial anyCase) ∧ r'.Covers value ∧
      ∀ text, r.Covers text → r'.Covers text := by
  obtain ⟨source, hsource, hast⟩ := written_alternative h hlevels hhash
    (fun c hc => isPlainChar_of_isAlphanum (hvalue c hc)) start stop
  have hlatter : ∃ rl, (Ast.ofItems (latterItems stop d value)).regex (.initial anyCase) =
      .ok (rl, .initial anyCase) ∧ rl.Covers value := by
    have hcapture := ((Ast.denotes_chars anyCase value).group.capture (d.groups + 2)).regex
    have hcovers : (Regex.group (d.groups + 2) (.ofText anyCase value)).Covers value :=
      Regex.covers_ofText anyCase hvalue
    cases stop with
    | false => exact ⟨_, hcapture, hcovers⟩
    | true =>
      refine ⟨_, Ast.regex_concat_eq_ok.mpr ⟨_, _, .look .endText, hcapture, rfl, rfl⟩,
        value.length, hcovers, rfl, ?_⟩
      simp [Look.HoldsAt, Look.holds]
  obtain ⟨rf, hrf, hformer⟩ := regex_former hr start
  obtain ⟨rl, hrl, hlatter⟩ := hlatter
  refine ⟨source, .alternate rf rl, hsource, ?_, Or.inr hlatter,
    fun text hs => Or.inl (hformer text hs)⟩
  rw [hast]
  exact Ast.regex_alternate_eq_ok.mpr ⟨_, _, _, hrf, hrl, rfl⟩

end Alternative

end Regular

end Verbal
