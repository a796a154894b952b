import Verbal.Proofs.Extended.Covering
import Verbal.Proofs.Failures

/-!
# What covers a text is found in it

A test of a whole text and a search are made with two programs, of two patterns. Whatever way leads
the first one through the text begins where the text does, and there the second one can go the same
way, up to where it is done: so a search finds something, unless it gives up. The form of a pattern
with the end of a line may have one item more, and then a part of that way will do.

* **`Compiled.found_of_covered`**: for a compiled pattern, and for a test of an expression with and
  without the global modifier.
* `Extended.exists_form_of_buildAnchored`: what is read of the form that was built.
* `Extended.Tree.Continues`: one pattern only goes on where another one is done.
-/

namespace Verbal.Extended

open Verbal.Regular (Ast Chain Regex)

/-! ## One item more -/

namespace Tree

/-- Whether all that an easy tree matches begins with something that another one matches, wherever
both stand. -/
structure Continues (t' t : Tree) : Prop where
  spans : ∀ {binding chain a' a flags r' r flags₁ flags₂},
    t'.cook binding chain = .ok a' → a'.regex flags = .ok (r', flags₁) →
    t.cook binding chain = .ok a → a.regex flags = .ok (r, flags₂) →
    ∀ text i j, r'.Spans text i j → ∃ k, r.Spans text i k

theorem Continues.refl (t : Tree) : t.Continues t where
  spans {binding chain a' a flags r' r flags₁ flags₂} ha' hr' ha hr text i j hs := by
    obtain rfl : a = a' := Except.ok.inj (ha.symm.trans ha')
    obtain ⟨rfl, -⟩ := Prod.mk.inj (Except.ok.inj (hr.symm.trans hr'))
    exact ⟨j, hs⟩

theorem regex_grouped {needed : Bool} {a : Ast} {r : Regex} {flags flags' : Regular.Flags}
    (h : (grouped needed a).regex flags = .ok (r, flags')) :
    ∃ inner, a.regex flags = .ok (r, inner) := by
  cases needed with
  | false => exact ⟨flags', h⟩
  | true =>
    obtain ⟨inner, hr, -⟩ := regex_plain.mp h
    exact ⟨inner, hr⟩

theorem regex_of_cook_concat {a b : Tree} {binding : Nat} {chain : Chain} {x : Ast} {r : Regex}
    {flags flags' : Regular.Flags} (h : (concat a b).cook binding chain = .ok x)
    (hr : x.regex flags = .ok (r, flags')) :
    ∃ y z inner ra rb last, a.cook 2 .none = .ok y ∧ b.cook 2 .concat = .ok z ∧
      y.regex flags = .ok (ra, inner) ∧ z.regex inner = .ok (rb, last) ∧ r = .concat ra rb := by
  rw [cook_concat] at h
  obtain ⟨y, hy, h⟩ := bind_eq_ok.mp h
  obtain ⟨z, hz, h⟩ := bind_eq_ok.mp h
  cases h
  obtain ⟨last, hr⟩ := regex_grouped hr
  obtain ⟨ra, inner, rb, hra, hrb, rfl⟩ := Ast.regex_concat_eq_ok.mp hr
  exact ⟨y, z, inner, ra, rb, last, hy, hz, hra, hrb, rfl⟩

theorem regex_of_cook_alternate {a b : Tree} {binding : Nat} {chain : Chain} {x : Ast} {r : Regex}
    {flags flags' : Regular.Flags} (h : (alternate a b).cook binding chain = .ok x)
    (hr : x.regex flags = .ok (r, flags')) :
    ∃ y z inner ra rb last, a.cook 1 .none = .ok y ∧ b.cook 1 .alternate = .ok z ∧
      y.regex flags = .ok (ra, inner) ∧ z.regex inner = .ok (rb, last) ∧ r = .alternate ra rb := by
  rw [cook_alternate] at h
  obtain ⟨y, hy, h⟩ := bind_eq_ok.mp h
  obtain ⟨z, hz, h⟩ := bind_eq_ok.mp h
  cases h
  obtain ⟨last, hr⟩ := regex_grouped hr
  obtain ⟨ra, inner, rb, hra, hrb, rfl⟩ := Ast.regex_alternate_eq_ok.mp hr
  exact ⟨y, z, inner, ra, rb, last, hy, hz, hra, hrb, rfl⟩

variable {t t' : Tree}

/-- Behind the same item, what goes on still goes on. -/
theorem Continues.concat (h : t'.Continues t) (a : Tree) :
    (concat a t').Continues (concat a t) := by
  refine ⟨fun hx' hr' hx hr text i j hs => ?_⟩
  obtain ⟨y, z', inner, ra, rb', last, hy, hz', hra, hrb', rfl⟩ := regex_of_cook_concat hx' hr'
  obtain ⟨_, z, _, _, rb, _, hy', hz, hra', hrb, rfl⟩ := regex_of_cook_concat hx hr
  obtain rfl := Except.ok.inj (hy.symm.trans hy')
  obtain ⟨rfl, rfl⟩ := Prod.mk.inj (Except.ok.inj (hra.symm.trans hra'))
  obtain ⟨m, him, hmj⟩ := hs
  obtain ⟨k, hk⟩ := h.spans hz' hrb' hz hrb text m j hmj
  exact ⟨k, m, him, hk⟩

theorem Continues.alternate (h : t'.Continues t) (a : Tree) :
    (alternate a t').Continues (alternate a t) := by
  refine ⟨fun hx' hr' hx hr text i j hs => ?_⟩
  obtain ⟨y, z', inner, ra, rb', last, hy, hz', hra, hrb', rfl⟩ := regex_of_cook_alternate hx' hr'
  obtain ⟨_, z, _, _, rb, _, hy', hz, hra', hrb, rfl⟩ := regex_of_cook_alternate hx hr
  obtain rfl := Except.ok.inj (hy.symm.trans hy')
  obtain ⟨rfl, rfl⟩ := Prod.mk.inj (Except.ok.inj (hra.symm.trans hra'))
  rcases hs with hs | hs
  · exact ⟨j, Or.inl hs⟩
  · obtain ⟨k, hk⟩ := h.spans hz' hrb' hz hrb text i j hs
    exact ⟨k, Or.inr hk⟩

/-- A sequence of an item more goes on where the sequence is done. -/
theorem continues_ofItems (items : List Tree) (x : Tree) :
    (ofItems (items ++ [x])).Continues (ofItems items) := by
  match items with
  | [] =>
    refine ⟨fun ha' hr' ha hr text i j hs => ?_⟩
    cases ha
    cases hr
    exact ⟨i, rfl⟩
  | [y] =>
    refine ⟨fun ha' hr' ha hr text i j hs => ?_⟩
    obtain ⟨b, _, _, rb, _, _, hb, -, hrb, -, rfl⟩ := regex_of_cook_concat ha' hr'
    -- the item stands elsewhere in the longer sequence, and for the same
    obtain ⟨c, _, hc, hrc⟩ := regex_of_cook hb hrb
    obtain ⟨c', _, hc', hrc'⟩ := regex_of_cook ha hr
    obtain rfl := Except.ok.inj (hc.symm.trans hc')
    obtain ⟨rfl, -⟩ := Prod.mk.inj (Except.ok.inj (hrc.symm.trans hrc'))
    obtain ⟨k, hik, -⟩ := hs
    exact ⟨k, hik⟩
  | y :: z :: items => exact (continues_ofItems (z :: items) x).concat y

theorem Continues.ofBranches (h : t'.Continues t) (branches : List Tree) :
    (ofBranches (branches ++ [t'])).Continues (ofBranches (branches ++ [t])) := by
  match branches with
  | [] => exact h
  | [a] => exact h.alternate a
  | a :: b :: branches => exact (Continues.ofBranches h (b :: branches)).alternate a

end Tree

namespace Draft

theorem body_push (d : Draft) {t : Tree} (ht : t ≠ .empty) : (d.push t).body =
    .ofBranches (d.branches.reverse ++ [.ofItems (d.flush.items.reverse ++ [t])]) := by
  unfold body
  rw [flush_push d ht, push_eq]
  simp [add]

theorem body_eq (d : Draft) :
    d.body = .ofBranches (d.branches.reverse ++ [.ofItems d.flush.items.reverse]) := by
  unfold body
  rw [List.reverse_cons]

theorem continues_push (d : Draft) {t : Tree} (ht : t ≠ .empty) :
    (d.push t).body.Continues d.body := by
  rw [body_push d ht, body_eq]
  exact (Tree.continues_ofItems _ t).ofBranches _

theorem hard_push (d : Draft) {t : Tree} (ht : t ≠ .empty) {referred : List Nat}
    (heasy : t.hard referred = false) :
    (d.push t).body.hard referred = d.body.hard referred := by
  rw [body_push d ht, body_eq, Tree.any_hard_ofBranches, Tree.any_hard_ofBranches]
  simp only [List.any_append, List.any_cons, List.any_nil, Tree.any_hard_ofItems, heasy,
    Bool.or_false]

end Draft

/-! ## What the form is read as -/

section Forms

variable {anyCase : Bool} {pattern : String} {source : Source} {program : Program}

/-- **What is read of the form that was built**: the pattern between the assertions, or, if it is
easy, a pattern between them that goes on where the pattern is done. -/
theorem exists_form_of_buildAnchored {p : Verbal.Program}
    (h : Program.compile anyCase pattern.toList = .ok program)
    (hsource : Source.read pattern.toList = .ok source)
    (hbuilt : Backend.extended.buildAnchored anyCase pattern = .ok p) :
    ∃ form t p', Source.read form = .ok ⟨t.anchored, source.referred, source.names⟩ ∧
      Program.compile anyCase form = .ok p' ∧ p = .extended p' ∧ t.Continues source.tree ∧
      (t = source.tree ∨ t.hard source.referred = false ∧
        source.tree.hard source.referred = false) := by
  obtain ⟨d, hread, rfl, hforms⟩ := read_forms hsource
  -- a form that is read as the pattern is will do
  have hplain {form : String} {p' : Program} (hform : Source.read form.toList = d.reading)
      (hp' : Program.compile anyCase form.toList = .ok p') (hp : p = .extended p') :
      ∃ form t p', Source.read form = .ok ⟨t.anchored, d.referred, d.scope.names⟩ ∧
        Program.compile anyCase form = .ok p' ∧ p = .extended p' ∧ t.Continues d.body ∧
        (t = d.body ∨ t.hard d.referred = false ∧ d.body.hard d.referred = false) := by
    obtain ⟨_, hok⟩ := exists_source_of_compile hp'
    obtain ⟨-, rfl⟩ := reading_eq_ok.mp (hform.symm.trans hok)
    exact ⟨_, d.body, p', hok, hp', hp, .refl _, Or.inl rfl⟩
  have hrefused {form : String} {fault : Fault} {p' : Program}
      (hform : Source.read form.toList = .error fault)
      (hp' : Program.compile anyCase form.toList = .ok p') : False := by
    rw [compile_of_read_error hform] at hp'
    cases hp'
  unfold Backend.buildAnchored at hbuilt
  split at hbuilt
  · rename_i _ hfirst
    cases hbuilt
    obtain ⟨p', hp', rfl⟩ := build_extended_eq_ok.mp hfirst
    rcases hforms with ⟨hform, -⟩ | ⟨hform, -⟩ | ⟨⟨fault, hform⟩, -⟩
    · exact (hrefused hform hp').elim
    · exact hplain hform hp' rfl
    · exact (hrefused hform hp').elim
  · rename_i reason hfirst
    split at hbuilt
    · rename_i _ hsecond
      cases hbuilt
      obtain ⟨p', hp', rfl⟩ := build_extended_eq_ok.mp hsecond
      rcases hforms with ⟨-, hform⟩ | ⟨hform₁, hform | hform⟩ | ⟨-, hform⟩
      · exact (hrefused hform hp').elim
      · exact hplain hform hp' rfl
      · obtain ⟨_, hok⟩ := exists_source_of_compile hp'
        obtain ⟨hnames, rfl⟩ := reading_eq_ok.mp (hform.symm.trans hok)
        simp only [Draft.push_eq] at hnames
        have hread₁ := hform₁.trans (reading_eq_ok.mpr ⟨hnames, rfl⟩)
        -- a pattern that is not easy would have been built in the first form
        have heasy : d.body.hard d.referred = false := by
          rw [← Bool.not_eq_true]
          intro hhard
          rcases compile_read hsource h with ⟨-, plan, hplan, -⟩ | ⟨heasy, -⟩
          · have hcompile := @compile_of_read anyCase _ _ hread₁
            rw [Tree.hard_anchored, if_pos hhard, Tree.plan_anchored _ _ hhard, hplan] at hcompile
            rw [build_extended_eq_ok.mpr ⟨_, hcompile, rfl⟩] at hfirst
            cases hfirst
          · rw [hhard] at heasy
            cases heasy
        have hne : Tree.literal '\n' d.flags.anyCase ≠ .empty := nofun
        refine ⟨_, _, p', ?_, hp', rfl, d.continues_push hne,
          Or.inr ⟨(d.hard_push hne rfl).trans heasy, heasy⟩⟩
        rw [hok, Draft.push_eq]
      · exact hplain hform hp' rfl
    · cases hbuilt

end Forms

/-! ## What is found -/

section Found

variable {anyCase : Bool} {pattern form : List Char} {t t' : Tree} {referred : List Nat}
  {names : List (List Char × Nat)} {program program' : Program} {text : List Char}

/-- What an easy tree matches between the assertions, it matches without. -/
theorem Tree.exists_spans_of_anchored {a : Ast} {x : Regex} {flags flags' : Regular.Flags}
    (ha : t.anchored.cook 0 .none = .ok a) (hx : a.regex flags = .ok (x, flags')) :
    ∃ b r inner, t.cook 0 .none = .ok b ∧ b.regex flags = .ok (r, inner) ∧
      ∀ text i j, x.Spans text i j → ∃ k, r.Spans text i k := by
  by_cases ht : t.enclosed = .empty
  · obtain rfl : t = .empty := by cases t <;> first | rfl | cases ht
    exact ⟨.empty, .empty, flags, rfl, rfl, fun text i j _ => ⟨i, rfl⟩⟩
  · rw [Tree.cook_anchored t ht] at ha
    obtain ⟨b, hb, rfl⟩ := map_eq_ok.mp ha
    obtain ⟨_, _, rest, hstart, hrest, rfl⟩ := Ast.regex_concat_eq_ok.mp hx
    rw [Tree.regex_assertion] at hstart
    cases hstart
    obtain ⟨r, _, _, hr, -, rfl⟩ := Ast.regex_concat_eq_ok.mp hrest
    obtain ⟨b, inner, hb, hr⟩ := Tree.regex_of_cook hb hr
    refine ⟨b, r, inner, hb, hr, fun text i j hs => ?_⟩
    obtain ⟨_, ⟨rfl, -⟩, k, hk, -⟩ := hs
    exact ⟨k, hk⟩

/-- **What is found between the assertions is found without them**, unless a search gives up. -/
theorem isMatch_ne_false_of_anchored
    (hread : Source.read pattern = .ok ⟨t, referred, names⟩)
    (hform : Source.read form = .ok ⟨t'.anchored, referred, names⟩)
    (hcontinues : t'.Continues t)
    (ht : t' = t ∨ t'.hard referred = false ∧ t.hard referred = false)
    (h : Program.compile anyCase pattern = .ok program)
    (h' : Program.compile anyCase form = .ok program')
    (hmatch : program'.isMatch text = some true) : program.isMatch text ≠ some false := by
  have hsame : t'.hard referred = t.hard referred := by
    rcases ht with rfl | ⟨ht', ht⟩
    · rfl
    · rw [ht', ht]
  rcases compile_anchored hform h' with
    ⟨hhard', plan', hplan', rfl⟩ | ⟨heasy', a', x, flags', ha', hx, rfl⟩
  · rcases compile_read hread h with ⟨-, plan, hplan, rfl⟩ | ⟨heasy, -⟩
    · obtain rfl := ht.resolve_right fun heasy => by simp [heasy.1] at hhard'
      obtain rfl : plan = plan' := Except.ok.inj (hplan.symm.trans hplan')
      obtain ⟨w, hw, -⟩ := Plan.covers_of_isMatch hmatch
      exact Plan.isMatch_ne_false_of_way hw (Nat.zero_le _)
    · rw [← hsame, hhard'] at heasy
      cases heasy
  · rcases compile_read hread h with ⟨hhard, -⟩ | ⟨-, a, r, flags, ha, hr, rfl⟩
    · rw [← hsame, heasy'] at hhard
      cases hhard
    · obtain ⟨b, r', inner, hb, hr', hspans⟩ := Tree.exists_spans_of_anchored ha' hx
      obtain ⟨i, j, hi, hs⟩ := (Regular.isMatch_iff x text).mp (Option.some.inj hmatch)
      obtain ⟨k, hk⟩ := hspans text i j hs
      obtain ⟨k, hk⟩ := hcontinues.spans hb hr' ha hr text i k hk
      have hfound := (Regular.isMatch_iff r text).mpr ⟨i, k, hi, hk⟩
      intro hfalse
      cases hfound.symm.trans (Option.some.inj hfalse)

end Found

end Verbal.Extended

namespace Verbal

variable {pattern : String} {anyCase : Bool} {c : Compiled} {text : String}

/-! ## Both backends -/

theorem found_of_covered_regular (hc : Backend.regular.compile pattern anyCase = .ok c)
    (hfull : c.fullMatch text = .ok true) : c.search.isMatch text ≠ .ok false := by
  rw [Compiled.fullMatch_of_compile hc] at hfull
  obtain ⟨p, hp, rfl⟩ := compile_regular_eq_ok.mp hc
  obtain ⟨r, names, hregex, -, rfl⟩ := Regular.compile_eq_ok.mp hp
  obtain ⟨source, flags, hsource, hr, rfl⟩ := Regular.regexOf_eq_ok.mp hregex
  obtain ⟨program, hprogram, hmatch⟩ := bind_eq_ok.mp hfull
  obtain ⟨rfl, -⟩ := form_of_buildAnchored hsource hr hprogram
  have hcovers := Regular.spans_wrapped.mp
    ((Regular.isMatch_iff r.wrapped text.toList).mp (Except.ok.inj hmatch))
  have hfound := (Regular.isMatch_iff r text.toList).mpr ⟨0, _, Nat.zero_le _, hcovers⟩
  intro hfalse
  cases hfound.symm.trans (Except.ok.inj hfalse)

theorem found_of_covered_extended (hc : Backend.extended.compile pattern anyCase = .ok c)
    (hfull : c.fullMatch text = .ok true) : c.search.isMatch text ≠ .ok false := by
  rw [Compiled.fullMatch_of_compile hc] at hfull
  obtain ⟨_, hbuild, rfl⟩ := compile_eq_ok.mp hc
  obtain ⟨p, hp, rfl⟩ := build_extended_eq_ok.mp hbuild
  obtain ⟨source, hsource⟩ := Extended.exists_source_of_compile hp
  obtain ⟨program, hprogram, hmatch⟩ := bind_eq_ok.mp hfull
  obtain ⟨form, t, p', hform, hp', rfl, hcontinues, ht⟩ :=
    Extended.exists_form_of_buildAnchored hp hsource hprogram
  intro hfalse
  exact Extended.isMatch_ne_false_of_anchored hsource hform hcontinues ht hp hp'
    (Program.answer_eq_ok.mp hmatch) (Program.answer_eq_ok.mp hfalse)

namespace Expression

variable {e : Expression} {backend : Backend}

/-- With the global modifier, an expression is searched for. -/
theorem test_setModifier_global (hc : e.compile backend = .ok c) (input : String) :
    (e.setModifier .global true).test backend input = c.search.isMatch (e.tested input) := by
  have hc : (e.setModifier .global true).compile backend = .ok c := hc
  exact (test_of_compile hc input).trans (if_pos rfl)

end Expression

/-- **What covers a text is found in it.** If a compiled pattern covers a text, whatever it is made
of, then a search for it in that text does not come back with nothing: it finds a match, or it gives
up. So the global modifier never makes a test that holds one that does not hold. -/
theorem Compiled.found_of_covered (backend : Backend) :
    (∀ pattern anyCase c, backend.compile pattern anyCase = .ok c →
      ∀ text, c.fullMatch text = .ok true → c.search.isMatch text ≠ .ok false) ∧
    ∀ (e : Expression) (input : String), e.test backend input = .ok true →
      (e.setModifier .global true).test backend input ≠ .ok false := by
  have hfound : ∀ pattern anyCase c, backend.compile pattern anyCase = .ok c →
      ∀ text, c.fullMatch text = .ok true → c.search.isMatch text ≠ .ok false := by
    intro pattern anyCase c hc text hfull
    cases backend with
    | regular => exact found_of_covered_regular hc hfull
    | extended => exact found_of_covered_extended hc hfull
  refine ⟨hfound, fun e input htest => ?_⟩
  obtain ⟨c, hc, htested⟩ := bind_eq_ok.mp htest
  rw [Expression.test_setModifier_global hc]
  split at htested
  · rw [htested]
    nofun
  · exact hfound _ _ c hc _ htested

/-- A pattern that looks ahead, refers back and gives nothing back; and one that ends in a comment,
so that it is tested in its second form. -/
theorem Compiled.found_of_covered_of_lookahead :
    (∃ c, Backend.extended.compile "(?=(a+))\\1(?>b*)" true = .ok c ∧
      c.fullMatch "aab" = .ok true ∧ c.search.isMatch "aab" ≠ .ok false) ∧
    (Expression.empty.append "(?x)(a)\\1#b").test .extended "aa" = .ok true ∧
      ((Expression.empty.append "(?x)(a)\\1#b").setModifier .global true).test .extended "aa" ≠
        .ok false := by
  obtain ⟨hcompiled, hexpression⟩ := Compiled.found_of_covered .extended
  refine ⟨?_, ?_⟩
  · have hfull : (Backend.extended.compile "(?=(a+))\\1(?>b*)" true).bind (·.fullMatch "aab") =
        .ok true := by
      decide +kernel
    obtain ⟨c, hc, hfull⟩ := bind_eq_ok.mp hfull
    exact ⟨c, hc, hfull, hcompiled _ _ c hc "aab" hfull⟩
  · have htest : (Expression.empty.append "(?x)(a)\\1#b").test .extended "aa" = .ok true := by
      decide +kernel
    exact ⟨htest, hexpression _ "aa" htest⟩

end Verbal
