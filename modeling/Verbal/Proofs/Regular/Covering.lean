import Verbal.Proofs.Regular.Enclosing

/-!
# Full matches of the regular backend

* **`Compiled.fullMatch_iff_spans`**: a full match is a match of the pattern itself that covers the
  text, along whatever path, and the form with the end of a line is built only for patterns that end
  in a comment.
* `endsInComment_of_compile`: nothing else leads to that form, since for other patterns it is never
  less deep nor smaller than the first one (`Draft.depth_body_push_le`, `Draft.outgrows_body_push`).
* `spans_wrapped`: what is wrapped matches the whole text or nothing.
-/

namespace Verbal.Regular

open Verbal.Unicode

/-! ## An item more -/

namespace Ast

theorem depth_le_depth_none (a : Ast) (chain : Chain) : a.depth chain ≤ a.depth .none := by
  cases a <;> simp only [depth, Nat.le_refl]
  all_goals split <;> simp

theorem depth_ofItems_le (items : List Ast) (x : Ast) (chain : Chain) :
    (ofItems items).depth chain ≤ (ofItems (items ++ [x])).depth chain := by
  match items with
  | [] => simp [ofItems, depth]
  | [a] =>
    have h := a.depth_le_depth_none .concat
    have h' := a.depth_le_depth_none chain
    simp only [List.cons_append, List.nil_append, ofItems, depth]
    split
    · rename_i hc
      rw [hc]
      omega
    · omega
  | a :: b :: items =>
    have ih := depth_ofItems_le (b :: items) x .concat
    simp only [List.cons_append, ofItems, depth] at ih ⊢
    omega

theorem depth_ofBranches_le {a b : Ast} (h : ∀ chain, a.depth chain ≤ b.depth chain)
    (branches : List Ast) (chain : Chain) :
    (ofBranches (branches ++ [a])).depth chain ≤ (ofBranches (branches ++ [b])).depth chain := by
  match branches with
  | [] => exact h chain
  | [c] =>
    have := h .alternate
    simp only [List.cons_append, List.nil_append, ofBranches, depth]
    omega
  | c :: d :: branches =>
    have ih := depth_ofBranches_le h (d :: branches) .alternate
    simp only [List.cons_append, ofBranches, depth] at ih ⊢
    omega

theorem regex_concat_eq_ok {a b : Ast} {flags flags' : Flags} {r : Regex} :
    (concat a b).regex flags = .ok (r, flags') ↔ ∃ ra flags₁ rb,
      a.regex flags = .ok (ra, flags₁) ∧ b.regex flags₁ = .ok (rb, flags') ∧
        r = .concat ra rb := by
  simp only [regex, bind, pure, Except.pure]
  constructor
  · intro h
    obtain ⟨⟨ra, flags₁⟩, ha, h⟩ := bind_eq_ok.mp h
    obtain ⟨⟨rb, flags₂⟩, hb, h⟩ := bind_eq_ok.mp h
    cases h
    exact ⟨ra, flags₁, rb, ha, hb, rfl⟩
  · rintro ⟨ra, flags₁, rb, ha, hb, rfl⟩
    exact bind_eq_ok.mpr ⟨_, ha, bind_eq_ok.mpr ⟨_, hb, rfl⟩⟩

theorem regex_alternate_eq_ok {a b : Ast} {flags flags' : Flags} {r : Regex} :
    (alternate a b).regex flags = .ok (r, flags') ↔ ∃ ra flags₁ rb,
      a.regex flags = .ok (ra, flags₁) ∧ b.regex flags₁ = .ok (rb, flags') ∧
        r = .alternate ra rb := by
  simp only [regex, bind, pure, Except.pure]
  constructor
  · intro h
    obtain ⟨⟨ra, flags₁⟩, ha, h⟩ := bind_eq_ok.mp h
    obtain ⟨⟨rb, flags₂⟩, hb, h⟩ := bind_eq_ok.mp h
    cases h
    exact ⟨ra, flags₁, rb, ha, hb, rfl⟩
  · rintro ⟨ra, flags₁, rb, ha, hb, rfl⟩
    exact bind_eq_ok.mpr ⟨_, ha, bind_eq_ok.mpr ⟨_, hb, rfl⟩⟩

/-- Whether a pattern stands for something wherever another one does, and takes no less space. -/
def Outgrows (b a : Ast) : Prop :=
  ∀ flags r flags', a.regex flags = .ok (r, flags') →
    ∃ r', b.regex flags = .ok (r', flags') ∧ r.size ≤ r'.size

theorem outgrows_ofItems {x : Ast}
    (hx : ∀ flags, ∃ r, x.regex flags = .ok (r, flags) ∧ 32 ≤ r.size) (items : List Ast) :
    Outgrows (ofItems (items ++ [x])) (ofItems items) := by
  intro flags r flags' h
  match items with
  | [] =>
    cases h
    exact hx flags
  | [a] =>
    obtain ⟨rx, hrx, -⟩ := hx flags'
    exact ⟨.concat r rx, regex_concat_eq_ok.mpr ⟨r, flags', rx, h, hrx, rfl⟩,
      Nat.le_add_right _ _⟩
  | a :: b :: items =>
    obtain ⟨ra, flags₁, rb, ha, hb, rfl⟩ := regex_concat_eq_ok.mp h
    obtain ⟨r', hr', hsize⟩ := outgrows_ofItems hx (b :: items) flags₁ rb flags' hb
    exact ⟨.concat ra r', regex_concat_eq_ok.mpr ⟨ra, flags₁, r', ha, hr', rfl⟩,
      Nat.add_le_add_left hsize _⟩

theorem outgrows_ofBranches {a b : Ast} (h : Outgrows b a) (branches : List Ast) :
    Outgrows (ofBranches (branches ++ [b])) (ofBranches (branches ++ [a])) := by
  intro flags r flags' hr
  match branches with
  | [] => exact h flags r flags' hr
  | [c] =>
    obtain ⟨rc, flags₁, ra, hc, ha, rfl⟩ := regex_alternate_eq_ok.mp hr
    obtain ⟨r', hr', hsize⟩ := h flags₁ ra flags' ha
    exact ⟨.alternate rc r', regex_alternate_eq_ok.mpr ⟨rc, flags₁, r', hc, hr', rfl⟩,
      Nat.add_le_add_right (Nat.add_le_add_left hsize _) _⟩
  | c :: d :: branches =>
    obtain ⟨rc, flags₁, ra, hc, ha, rfl⟩ := regex_alternate_eq_ok.mp hr
    obtain ⟨r', hr', hsize⟩ := outgrows_ofBranches h (d :: branches) flags₁ ra flags' ha
    exact ⟨.alternate rc r', regex_alternate_eq_ok.mpr ⟨rc, flags₁, r', hc, hr', rfl⟩,
      Nat.add_le_add_right (Nat.add_le_add_left hsize _) _⟩

end Ast

theorem le_setSize_single (c : Char) : 32 ≤ setSize (.single c) := by
  have := Char.utf8Size_pos c
  simp only [CharSet.single, setSize, if_true]
  omega

theorem le_setSize_ofChars (cs : List Char) : 32 ≤ setSize (.ofChars cs) := by
  match cs with
  | [] => exact Nat.le_refl 32
  | [c] => exact le_setSize_single c
  | c :: d :: cs => exact Nat.le_trans (le_setSize_single c) (Nat.le_add_right _ _)

theorem regex_newline (flags : Flags) :
    ∃ r, newline.regex flags = .ok (r, flags) ∧ 32 ≤ r.size := by
  obtain ⟨set, hset, hsize⟩ : ∃ set, flags.letter ⟨'\n', false⟩ = .ok set ∧ 32 ≤ setSize set := by
    unfold Flags.letter
    split
    · refine ⟨_, rfl, ?_⟩
      split
      · exact le_setSize_ofChars _
      · exact le_setSize_single '\n'
    · refine ⟨_, rfl, ?_⟩
      split
      · exact le_setSize_ofChars _
      · exact le_setSize_single '\n'
  exact ⟨.letter set, by simp [newline, Ast.regex, Primitive.regex, hset, Except.map], hsize⟩

theorem Draft.depth_body_push_le (d : Draft) (x : Ast) :
    d.body.depth .none ≤ (d.push x).body.depth .none := by
  simp only [body, push, List.reverse_cons]
  exact Ast.depth_ofBranches_le (Ast.depth_ofItems_le _ x) _ _

theorem Draft.outgrows_body_push (d : Draft) {x : Ast}
    (hx : ∀ flags, ∃ r, x.regex flags = .ok (r, flags) ∧ 32 ≤ r.size) :
    (d.push x).body.Outgrows d.body := by
  simp only [body, push, List.reverse_cons]
  exact Ast.outgrows_ofBranches (Ast.outgrows_ofItems hx _) _

/-! ## What is compiled -/

theorem regexOf_eq_ok {anyCase : Bool} {pattern : List Char} {r : Regex}
    {names : List (List Char × Nat)} :
    regexOf anyCase pattern = .ok (r, names) ↔
      ∃ source flags, Source.read pattern = .ok source ∧
        source.ast.regex (.initial anyCase) = .ok (r, flags) ∧ names = source.names := by
  simp only [regexOf, bind, pure, Except.pure]
  constructor
  · intro h
    obtain ⟨source, hsource, h⟩ := bind_eq_ok.mp h
    obtain ⟨⟨r', flags⟩, hr, h⟩ := bind_eq_ok.mp h
    cases h
    exact ⟨source, flags, hsource, hr, rfl⟩
  · rintro ⟨source, flags, hsource, hr, rfl⟩
    exact bind_eq_ok.mpr ⟨_, hsource, bind_eq_ok.mpr ⟨_, hr, rfl⟩⟩

theorem read_eq_ok {pattern : List Char} {source : Source} :
    Source.read pattern = .ok source ↔
      Source.written pattern = .ok source ∧ source.ast.depth .none ≤ nestingLimit := by
  rw [read_eq_written, bind_eq_ok]
  constructor
  · rintro ⟨source', hsource, h⟩
    unfold Source.checkDepth at h
    split at h
    · cases h
      exact ⟨hsource, ‹_›⟩
    · cases h
  · rintro ⟨hsource, hdepth⟩
    exact ⟨source, hsource, if_pos hdepth⟩

theorem compile_eq_ok {anyCase : Bool} {pattern : List Char} {program : Program} :
    Program.compile anyCase pattern = .ok program ↔ ∃ r names,
      regexOf anyCase pattern = .ok (r, names) ∧ r.size ≤ sizeLimit ∧
        program = ⟨r.unroll none, names⟩ := by
  simp only [Program.compile, bind, pure, Except.pure]
  constructor
  · intro h
    obtain ⟨⟨r, names⟩, hr, h⟩ := bind_eq_ok.mp h
    obtain ⟨skeleton, hskeleton, h⟩ := bind_eq_ok.mp h
    unfold Regex.compile at hskeleton
    split at hskeleton
    · cases hskeleton
      cases h
      exact ⟨r, names, hr, ‹_›, rfl⟩
    · cases hskeleton
  · rintro ⟨r, names, hr, hsize, rfl⟩
    exact bind_eq_ok.mpr ⟨_, hr, bind_eq_ok.mpr ⟨_, if_pos hsize, rfl⟩⟩

/-- What a wrapped pattern stands for. -/
def Regex.wrapped (r : Regex) : Regex := .concat (.look .startText) (.concat r (.look .endText))

theorem regex_wrapped {source : Source} {anyCase : Bool} {r : Regex} {flags : Flags}
    (h : source.ast.regex (.initial anyCase) = .ok (r, flags)) :
    source.wrapped.ast.regex (.initial anyCase) = .ok (r.wrapped, .initial anyCase) := by
  have hgroup : (Ast.group (.plain []) source.ast).regex (.initial anyCase) =
      .ok (r, .initial anyCase) := by
    simp only [Ast.regex, Flags.apply, List.foldl_nil, h, bind, Except.bind, pure, Except.pure]
  exact Ast.regex_concat_eq_ok.mpr ⟨_, _, _, rfl,
    Ast.regex_concat_eq_ok.mpr ⟨_, _, _, hgroup, rfl, rfl⟩, rfl⟩

/-- **What is wrapped matches the whole text or nothing.** -/
theorem spans_wrapped {text : List Char} {r : Regex} :
    (∃ i j, i ≤ text.length ∧ r.wrapped.Spans text i j) ↔ r.Spans text 0 text.length := by
  constructor
  · rintro ⟨i, j, hi, _, ⟨rfl, hstart⟩, k, hr, rfl, hend⟩
    have hi0 : i = 0 := (Look.holdsAt_startText hi).mp hstart
    have hk : k = text.length := (Look.holdsAt_endText (hr.le_length hi)).mp hend
    rwa [hi0, hk] at hr
  · intro h
    exact ⟨0, text.length, Nat.zero_le _, 0, ⟨rfl, rfl⟩, text.length, h, rfl,
      (Look.holdsAt_endText (Nat.le_refl _)).mpr rfl⟩

variable {pattern : String} {anyCase : Bool}

/-- The form with the end of a line is built only where the pattern ends in a comment: elsewhere
the other form is no deeper and no larger. -/
theorem endsInComment_of_compile {source : Source} {r : Regex} {flags : Flags} {program : Program}
    (hsource : Source.written pattern.toList = .ok source)
    (hr : source.ast.regex (.initial anyCase) = .ok (r, flags))
    (hfirst : ∀ program, Program.compile anyCase (anchoredPattern pattern).toList ≠ .ok program)
    (hsecond : Program.compile anyCase (anchoredAfterComment pattern).toList = .ok program) :
    EndsInComment pattern.toList := by
  by_contra hcomment
  obtain ⟨r₂, names, hregex, hsize, -⟩ := compile_eq_ok.mp hsecond
  obtain ⟨source₂, flags₂, hread, hr₂, -⟩ := regexOf_eq_ok.mp hregex
  obtain ⟨hwritten, hdepth⟩ := read_eq_ok.mp hread
  -- it is enough that the first form is no deeper and no larger
  have hforms (hle : source.wrapped.ast.depth .none ≤ source₂.ast.depth .none)
      (hle' : r.wrapped.size ≤ r₂.size) : False :=
    hfirst _ (compile_eq_ok.mpr ⟨r.wrapped, source.names, regexOf_eq_ok.mpr
      ⟨source.wrapped, _, read_eq_ok.mpr ⟨written_anchored hsource hcomment,
        Nat.le_trans hle hdepth⟩, regex_wrapped hr, rfl⟩, Nat.le_trans hle' hsize, rfl⟩)
  rcases written_afterComment hsource hcomment with hsame | ⟨d, rfl, hmore⟩
  · rw [hsame] at hwritten
    obtain rfl := Except.ok.inj hwritten
    rw [regex_wrapped hr] at hr₂
    cases hr₂
    exact hforms (Nat.le_refl _) (Nat.le_refl _)
  · rw [hmore] at hwritten
    obtain rfl := Except.ok.inj hwritten
    obtain ⟨r', hr', hle⟩ := d.outgrows_body_push regex_newline _ _ _ hr
    rw [@regex_wrapped ⟨(d.push newline).body, d.groups, d.names⟩ _ _ _ hr'] at hr₂
    cases hr₂
    refine hforms ?_ ?_
    · have := d.depth_body_push_le newline
      simp only [Source.wrapped, Ast.depth]
      omega
    · simp only [Regex.wrapped, Regex.size]
      omega

/-- Whether a wrapped form is the one to build: the form with the end of a line, if the pattern ends
in a comment, and the other one if not. -/
def IsForm (pattern form : String) : Prop :=
  ¬EndsInComment pattern.toList ∧ form = anchoredPattern pattern ∨
    EndsInComment pattern.toList ∧ form = anchoredAfterComment pattern

end Verbal.Regular

namespace Verbal

open Verbal.Regular

variable {pattern : String} {anyCase : Bool}

theorem build_regular_eq_ok {program : Program} :
    Backend.regular.build anyCase pattern = .ok program ↔ ∃ p,
      Regular.Program.compile anyCase pattern.toList = .ok p ∧ program = .regular p := by
  unfold Backend.build
  dsimp only
  cases Regular.Program.compile anyCase pattern.toList with
  | error fault => simp
  | ok p => simp [eq_comm]

theorem build_regular_eq_error {reason : String} :
    Backend.regular.build anyCase pattern = .error reason ↔ ∃ fault,
      Regular.Program.compile anyCase pattern.toList = .error fault ∧ reason = fault.message := by
  unfold Backend.build
  dsimp only
  cases Regular.Program.compile anyCase pattern.toList with
  | error fault => simp [eq_comm]
  | ok p => simp

theorem compile_regular_eq_ok {c : Compiled} :
    Backend.regular.compile pattern anyCase = .ok c ↔ ∃ p,
      Regular.Program.compile anyCase pattern.toList = .ok p ∧
        c = ⟨.regular, pattern, anyCase, .regular p, none⟩ := by
  unfold Backend.compile Backend.build
  dsimp only
  cases Regular.Program.compile anyCase pattern.toList with
  | error fault => simp
  | ok p => simp [eq_comm]

/-- Which form is built, and that it reads the pattern as the pattern reads on its own. -/
theorem form_of_buildAnchored {source : Source} {r : Regex} {flags : Flags} {program : Program}
    (hsource : Source.read pattern.toList = .ok source)
    (hr : source.ast.regex (.initial anyCase) = .ok (r, flags))
    (h : Backend.regular.buildAnchored anyCase pattern = .ok program) :
    program = .regular ⟨r.wrapped.unroll none, source.names⟩ ∧
      ∃ form, IsForm pattern form ∧ Backend.regular.build anyCase form = .ok program ∧
        Source.read form.toList = .ok source.wrapped := by
  obtain ⟨hwritten, -⟩ := read_eq_ok.mp hsource
  -- whichever form was built reads as the wrapped pattern
  have hform (form : String) (hread : Source.written form.toList = .ok source.wrapped)
      (hbuild : Backend.regular.build anyCase form = .ok program) :
      program = .regular ⟨r.wrapped.unroll none, source.names⟩ ∧
        Source.read form.toList = .ok source.wrapped := by
    obtain ⟨p, hp, rfl⟩ := build_regular_eq_ok.mp hbuild
    obtain ⟨r', names, hregex, -, rfl⟩ := compile_eq_ok.mp hp
    obtain ⟨source', flags', hread', hr', rfl⟩ := regexOf_eq_ok.mp hregex
    obtain rfl : source.wrapped = source' :=
      Except.ok.inj (hread.symm.trans (read_eq_ok.mp hread').1)
    rw [regex_wrapped hr] at hr'
    cases hr'
    exact ⟨rfl, hread'⟩
  unfold Backend.buildAnchored at h
  split at h
  · rename_i program' hfirst
    cases h
    have hcomment : ¬EndsInComment pattern.toList := by
      intro hcomment
      obtain ⟨p, hp, -⟩ := build_regular_eq_ok.mp hfirst
      obtain ⟨r', names, hregex, -, -⟩ := compile_eq_ok.mp hp
      obtain ⟨source', flags', hread, -, -⟩ := regexOf_eq_ok.mp hregex
      have hopen := written_anchored_of_comment hwritten hcomment
      rw [(read_eq_ok.mp hread).1] at hopen
      cases hopen
    obtain ⟨hprogram, hread⟩ := hform _ (written_anchored hwritten hcomment) hfirst
    exact ⟨hprogram, _, Or.inl ⟨hcomment, rfl⟩, hfirst, hread⟩
  · rename_i reason hfirst
    split at h
    · rename_i program' hsecond
      cases h
      obtain ⟨fault, hfault, -⟩ := build_regular_eq_error.mp hfirst
      obtain ⟨p, hp, -⟩ := build_regular_eq_ok.mp hsecond
      have hcomment : EndsInComment pattern.toList :=
        endsInComment_of_compile hwritten hr (fun p hp => by rw [hfault] at hp; cases hp) hp
      obtain ⟨hprogram, hread⟩ :=
        hform _ (written_afterComment_of_comment hwritten hcomment) hsecond
      exact ⟨hprogram, _, Or.inr ⟨hcomment, rfl⟩, hsecond, hread⟩
    · cases h

/-- **A full match is a match of the pattern itself** that covers the text, along whatever path. The
form that was built is the one with the end of a line exactly if the pattern ends in a comment, and
it reads the pattern as the pattern reads on its own. -/
theorem Compiled.fullMatch_iff_spans {c : Compiled} {text : String} {b : Bool}
    (hc : Backend.regular.compile pattern anyCase = .ok c) (hb : c.fullMatch text = .ok b) :
    ∃ source r, Source.read pattern.toList = .ok source ∧
      regexOf anyCase pattern.toList = .ok (r, source.names) ∧
      (b = true ↔ r.Spans text.toList 0 text.toList.length) ∧
      ∃ form program, IsForm pattern form ∧ c.anchoredProgram = .ok program ∧
        Backend.regular.build anyCase form = .ok program ∧
        Source.read form.toList = .ok source.wrapped := by
  obtain ⟨p, hp, rfl⟩ := compile_regular_eq_ok.mp hc
  obtain ⟨r, names, hregex, -, rfl⟩ := compile_eq_ok.mp hp
  obtain ⟨source, flags, hsource, hr, rfl⟩ := regexOf_eq_ok.mp hregex
  obtain ⟨program, hprogram, hmatch⟩ := bind_eq_ok.mp hb
  obtain ⟨rfl, form, hform, hbuild, hread⟩ := form_of_buildAnchored hsource hr hprogram
  refine ⟨source, r, hsource, hregex, ?_, form, _, hform, hprogram, hbuild, hread⟩
  have hb' : b = ((r.wrapped.unroll none).found text.toList).any Option.isSome :=
    (Except.ok.inj hmatch).symm
  rw [hb', isMatch_iff, spans_wrapped]

/-- The end of the line that closes the comment of a pattern is no part of what it matches. -/
theorem Compiled.fullMatch_iff_spans_of_comment :
    ∃ (c : Compiled) (source : Source) (r : Regex),
      Backend.regular.compile "(?x)a#" false = .ok c ∧ c.fullMatch "a\n" = .ok false ∧
      c.fullMatch "a" = .ok true ∧ regexOf false "(?x)a#".toList = .ok (r, source.names) ∧
      r.Spans "a".toList 0 "a".toList.length := by
  have heval : (Backend.regular.compile "(?x)a#" false).toOption.map
      (fun c => ((c.fullMatch "a\n").toOption, (c.fullMatch "a").toOption)) =
        some (some false, some true) := by
    decide +kernel
  cases hc : Backend.regular.compile "(?x)a#" false with
  | error e => rw [hc] at heval; cases heval
  | ok c =>
    rw [hc] at heval
    obtain ⟨hfalse, htrue⟩ := Prod.mk.inj (Option.some.inj heval)
    have hok {x : Except Failure Bool} {b : Bool} (h : x.toOption = some b) : x = .ok b := by
      cases x with
      | error e => cases h
      | ok b' => exact congrArg _ (Option.some.inj h)
    obtain ⟨source, r, -, hregex, hiff, -⟩ := Compiled.fullMatch_iff_spans hc (hok htrue)
    exact ⟨c, source, r, rfl, hok hfalse, hok htrue, hregex, hiff.mp rfl⟩

end Verbal
