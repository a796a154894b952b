import Verbal.Proofs.Regular.Caseless
import Verbal.Proofs.Rejections

/-!
# Ignoring case

An expression that ignores case tests texts alike that are the same but for case, however it is
tested: what is built to cover the whole text is built under the same flag, and line ends have no
case. Its pattern could switch the flag off again only where it opens a group with a question mark,
and of the verbs only an argument can do that.

* `Verb.OpensNothing`: whether an argument is free of the two characters for it, as one without any
  operators is.
* `Expression.followsPlainly_pattern`: then every group of the pattern is a plain one.
* **`Expression.test_congr`**: the tests of such a chain agree.
-/

namespace Verbal

open Verbal.Regular (OpensPlainly FollowsPlainly followsPlainly_of_forall)

/-! ## Texts -/

namespace SameButForCase

variable {x y : String}

theorem firstLine (h : SameButForCase x.toList y.toList) :
    SameButForCase (firstLine x).toList (firstLine y).toList := by
  have hnewline : '\n'.toNat < 'A'.toNat := by decide
  rw [Verbal.firstLine, Verbal.firstLine, String.toList_ofList, String.toList_ofList]
  generalize x.toList = xs at h
  generalize y.toList = ys at h
  induction h with
  | nil => exact .nil
  | @cons c d xs ys hcd _ ih =>
    -- the line of both texts ends here, or that of neither
    have hiff := Unicode.eq_iff_of_sameFold hnewline hcd
    by_cases hc : c = '\n'
    · obtain rfl := hc
      obtain rfl := hiff.mp rfl
      exact .nil
    · have hd : d ≠ '\n' := mt hiff.mpr hc
      simp only [List.takeWhile_cons, bne_iff_ne, ne_eq, hc, hd, not_false_eq_true, if_true]
      exact .cons hcd ih

theorem tested (h : SameButForCase x.toList y.toList) (e : Expression) :
    SameButForCase (e.tested x).toList (e.tested y).toList := by
  unfold Expression.tested
  split
  · exact h
  · exact h.firstLine

end SameButForCase

/-! ## Patterns -/

namespace Verb

/-- The argument of a verb, as it is written. -/
def argument : Verb → List Char
  | add fragment => fragment.toList
  | andThen value => value.toList
  | maybe value => value.toList
  | anythingBut value => value.toList
  | somethingBut value => value.toList
  | anyOf value => value.toList
  | range pairs => pairs.flatMap rangeText
  | multiple value => value.toList
  | alt value => value.toList
  | _ => []

/-- Whether the argument of a verb neither opens a group nor tells what a group is for. -/
def OpensNothing (v : Verb) : Prop := ∀ c ∈ v.argument, c ≠ '(' ∧ c ≠ '?'

instance (v : Verb) : Decidable v.OpensNothing := List.decidableBAll _ _

/-- A piece is its argument between two texts of the verb, which open plain groups only. -/
theorem exists_fragment (v : Verb) : ∃ front back : List Char,
    v.fragment.toList = front ++ (v.argument ++ back) ∧ FollowsPlainly front ∧
      FollowsPlainly back := by
  have hbare (text : List Char) (h : v.fragment.toList = text) (hv : v.argument = [])
      (htext : FollowsPlainly text) : ∃ front back : List Char,
      v.fragment.toList = front ++ (v.argument ++ back) ∧ FollowsPlainly front ∧
        FollowsPlainly back :=
    ⟨text, [], by rw [h, hv, List.append_nil, List.append_nil], htext, by decide⟩
  cases v with
  | add value => exact ⟨[], [], by simp [fragment, argument], by decide⟩
  | andThen value => exact ⟨"(?:".toList, ")".toList, by simp [fragment, argument], by decide⟩
  | maybe value => exact ⟨"(?:".toList, ")?".toList, by simp [fragment, argument], by decide⟩
  | anything => exact hbare "(?:.*)".toList rfl rfl (by decide)
  | anythingBut value =>
    exact ⟨"(?:[^".toList, "]*)".toList, by simp [fragment, argument], by decide⟩
  | something => exact hbare "(?:.+)".toList rfl rfl (by decide)
  | somethingBut value =>
    exact ⟨"(?:[^".toList, "]+)".toList, by simp [fragment, argument], by decide⟩
  | linebreak => exact hbare "(?:(?:\\n)|(?:\\r\\n))".toList rfl rfl (by decide)
  | tab => exact hbare "\\t".toList rfl rfl (by decide)
  | word => exact hbare "\\w+".toList rfl rfl (by decide)
  | anyOf value => exact ⟨"[".toList, "]".toList, by simp [fragment, argument], by decide⟩
  | range pairs => exact ⟨"[".toList, "]".toList, by simp [fragment, argument], by decide⟩
  | multiple value =>
    have hsign : (multiple value).fragment = value ∨ (multiple value).fragment = "+" ++ value := by
      simp only [fragment]
      split
      · exact Or.inl rfl
      · exact Or.inr rfl
    rcases hsign with h | h
    · exact ⟨[], [], by rw [h]; simp [argument], by decide⟩
    · exact ⟨"+".toList, [], by rw [h]; simp [argument], by decide⟩
  | alt value => exact ⟨")|((?:".toList, ")".toList, by simp [fragment, argument], by decide⟩
  | _ => exact hbare [] rfl rfl (by decide)

theorem followsPlainly_fragment {v : Verb} (h : v.OpensNothing) :
    FollowsPlainly v.fragment.toList := by
  obtain ⟨front, back, hfragment, hfront, hback⟩ := v.exists_fragment
  rw [hfragment]
  exact hfront.append ((followsPlainly_of_forall h).append hback)

end Verb

/-- **Every group of the pattern is a plain one** if no argument opens one. -/
theorem Expression.followsPlainly_pattern {verbs : List Verb}
    (h : ∀ v ∈ verbs, v.OpensNothing) : FollowsPlainly (ofVerbs verbs).pattern.toList := by
  have hopening (anchored grouped : Bool) :
      FollowsPlainly (openingText anchored grouped).toList := by
    cases anchored <;> cases grouped <;> decide
  have hclosing (anchored grouped : Bool) :
      FollowsPlainly (closingText anchored grouped).toList := by
    cases anchored <;> cases grouped <;> decide
  have hbody : FollowsPlainly (verbs.flatMap fun v => v.fragment.toList) := by
    induction verbs with
    | nil => exact ⟨trivial, nofun⟩
    | cons v verbs ih =>
      obtain ⟨hv, hverbs⟩ := List.forall_mem_cons.mp h
      exact (Verb.followsPlainly_fragment hv).append (ih hverbs)
  rw [toList_pattern, ← flatMap_fragment]
  exact ((hopening _ _).append hbody).append (hclosing _ _)

/-! ## Tests -/

section Tests

variable {pattern x y : String} (hpattern : FollowsPlainly pattern.toList)
  (hxy : SameButForCase x.toList y.toList)

include hpattern hxy

theorem Program.isMatch_congr {program : Program}
    (h : Backend.regular.build true pattern = .ok program) :
    program.isMatch x = program.isMatch y := by
  obtain ⟨p, hp, rfl⟩ := build_regular_eq_ok.mp h
  exact congrArg Except.ok (Regular.Program.isMatch_congr hpattern.opens hp hxy)

/-- What covers the whole text opens one more group, and that is a plain one. -/
theorem Compiled.fullMatch_congr {c : Compiled}
    (h : Backend.regular.compile pattern true = .ok c) : c.fullMatch x = c.fullMatch y := by
  have hopening : FollowsPlainly "\\A(?:".toList := by decide
  have hfirst : FollowsPlainly (anchoredPattern pattern).toList := by
    rw [Regular.toList_anchoredPattern]
    exact hopening.append (hpattern.append (by decide))
  have hsecond : FollowsPlainly (anchoredAfterComment pattern).toList := by
    rw [Regular.toList_anchoredAfterComment]
    exact hopening.append (hpattern.append (by decide))
  rw [fullMatch_of_compile h, fullMatch_of_compile h]
  cases hbuild : Backend.regular.buildAnchored true pattern with
  | error failure => rfl
  | ok program =>
    unfold Backend.buildAnchored at hbuild
    split at hbuild
    · rename_i program' hprogram
      cases hbuild
      exact Program.isMatch_congr hfirst hxy hprogram
    · split at hbuild
      · rename_i program' hprogram
        cases hbuild
        exact Program.isMatch_congr hsecond hxy hprogram
      · cases hbuild

end Tests

/-- **Ignoring case really ignores case.** Whatever a chain consists of, as long as its arguments
open no groups, its test by the regular backend cannot tell texts apart that are the same but for
case, whether it searches or has to cover the text, and in one line or in many. -/
theorem Expression.test_congr {verbs : List Verb} (h : ∀ v ∈ verbs, v.OpensNothing)
    (hcase : (ofVerbs verbs).modifiers.contains .anyCase = true) {x y : String}
    (hxy : SameButForCase x.toList y.toList) :
    (ofVerbs verbs).test .regular x = (ofVerbs verbs).test .regular y := by
  have hpattern := followsPlainly_pattern h
  have htested := hxy.tested (ofVerbs verbs)
  cases hcompile : (ofVerbs verbs).compile .regular with
  | error failure =>
    rw [test_of_compile_eq_error hcompile, test_of_compile_eq_error hcompile]
  | ok c =>
    rw [test_of_compile hcompile, test_of_compile hcompile]
    rw [compile, hcase] at hcompile
    split
    · obtain ⟨program, hbuild, rfl⟩ := compile_eq_ok.mp hcompile
      exact Program.isMatch_congr hpattern htested hbuild
    · exact Compiled.fullMatch_congr hpattern htested hcompile

/-- The kelvin sign is in the range of `k`, `ẞ` is `ß`, and the long `ſ` is what must not stand in
front of the word, though it may stand in it. -/
theorem Expression.test_congr_of_kelvin :
    (ofVerbs [.range [('a', 'k')], .andThen "ß", .somethingBut "s", .word, .anyCase true]).test
        .regular "kßxs" = .ok true ∧
      (ofVerbs [.range [('a', 'k')], .andThen "ß", .somethingBut "s", .word, .anyCase true]).test
        .regular "\u212a\u1e9eX\u017f" = .ok true := by
  have hxy : SameButForCase "kßxs".toList "\u212a\u1e9eX\u017f".toList :=
    .cons (by decide +kernel) (.cons (by decide +kernel) (.cons (by decide +kernel)
      (.cons (by decide +kernel) .nil)))
  have hx : (ofVerbs [.range [('a', 'k')], .andThen "ß", .somethingBut "s", .word,
      .anyCase true]).test .regular "kßxs" = .ok true := by decide +kernel
  exact ⟨hx, (test_congr (by decide) (by decide) hxy).symm.trans hx⟩

end Verbal
