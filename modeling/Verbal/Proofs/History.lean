import Mathlib.Data.List.Induction
import Verbal.Expression

/-!
# An expression is what its verbs left behind

`Expression.ofVerbs` keeps three texts and three flags, and some verbs overwrite what others wrote:
an anchor takes away the parenthesis that an alternative put beside it, and a later alternative puts
it back. This module reads all of the expression off the list of verbs.

* `lastWord tells verbs` is what the last verb that tells something tells, and
  `altSince tells verbs` whether an alternative was begun after it.
* **`ofVerbs_history`**: the body is the concatenation of the pieces; the opening and the closing
  depend on the last anchor and on the alternatives begun since, and on nothing that was added; a
  modifier is set iff the last verb that touches it set it.
-/

namespace Verbal

namespace Verb

/-- Whether a verb begins another alternative. -/
def isAlt : Verb → Bool
  | alt _ => true
  | _ => false

/-- What a verb tells about the anchor in front of the expression. -/
def startAnchor? : Verb → Option Bool
  | startOfLine enable => some enable
  | _ => none

/-- What a verb tells about the anchor behind the expression. -/
def endAnchor? : Verb → Option Bool
  | endOfLine enable => some enable
  | _ => none

/-- The modifier that a verb touches, and whether it is set. A letter that names no modifier touches
none. -/
def setting? : Verb → Option (Modifier × Bool)
  | addModifier letter => (Modifier.ofChar? letter).map (·, true)
  | removeModifier letter => (Modifier.ofChar? letter).map (·, false)
  | anyCase enable => some (.anyCase, enable)
  | searchOneLine enable => some (.multiline, !enable)
  | searchGlobal enable => some (.global, enable)
  | _ => none

/-- What a verb tells about a modifier. -/
def about? (m : Modifier) (v : Verb) : Option Bool :=
  v.setting?.bind fun s => if s.1 = m then some s.2 else none

/-- Whether a verb is about an anchor or a modifier, and adds nothing. -/
def isSetting : Verb → Bool
  | startOfLine _ => true
  | endOfLine _ => true
  | addModifier _ => true
  | removeModifier _ => true
  | anyCase _ => true
  | searchOneLine _ => true
  | searchGlobal _ => true
  | _ => false

theorem fragment_of_isSetting {v : Verb} (h : v.isSetting = true) : v.fragment = "" := by
  cases v <;> first | rfl | simp [isSetting] at h

end Verb

/-! ## Histories -/

section Histories

variable {α : Type}

/-- What the last verb that tells something tells. -/
def lastWord (tells : Verb → Option α) (verbs : List Verb) : Option α :=
  (verbs.filterMap tells).getLast?

/-- Whether an alternative was begun after the last verb that tells something. -/
def altSince (tells : Verb → Option α) (verbs : List Verb) : Bool :=
  (verbs.reverse.takeWhile fun v => (tells v).isNone).any Verb.isAlt

theorem lastWord_concat (tells : Verb → Option α) (verbs : List Verb) (v : Verb) :
    lastWord tells (verbs ++ [v]) = (tells v).or (lastWord tells verbs) := by
  unfold lastWord
  rw [List.filterMap_append]
  cases h : tells v <;> simp [h]

theorem altSince_concat (tells : Verb → Option α) (verbs : List Verb) (v : Verb) :
    altSince tells (verbs ++ [v]) = ((tells v).isNone && (v.isAlt || altSince tells verbs)) := by
  unfold altSince
  rw [List.reverse_concat, List.takeWhile_cons]
  cases h : tells v <;> simp

end Histories

/-! ## The texts around the body -/

/-- The text in front of the body. -/
def openingText (anchored grouped : Bool) : String :=
  (if anchored then "^" else "") ++ (if grouped then "(" else "")

/-- The text behind the body. -/
def closingText (anchored grouped : Bool) : String :=
  (if grouped then ")" else "") ++ (if anchored then "$" else "")

/-- The parenthesis stands next to the body, and the anchor in front of it. -/
theorem toList_openingText (anchored grouped : Bool) :
    (openingText anchored grouped).toList =
      (openingText anchored false).toList ++ if grouped then ['('] else [] := by
  cases anchored <;> cases grouped <;> rfl

theorem toList_closingText (anchored grouped : Bool) :
    (closingText anchored grouped).toList =
      (if grouped then [')'] else []) ++ (closingText anchored false).toList := by
  cases anchored <;> cases grouped <;> rfl

theorem contains_openingText (anchored grouped : Bool) :
    (openingText anchored grouped).toList.contains '(' = grouped := by
  cases anchored <;> cases grouped <;> decide

theorem contains_closingText (anchored grouped : Bool) :
    (closingText anchored grouped).toList.contains ')' = grouped := by
  cases anchored <;> cases grouped <;> decide

namespace Expression

/-! ## One verb -/

theorem body_apply (e : Expression) (v : Verb) : (e.apply v).body = e.body ++ v.fragment := by
  cases v with
  | addModifier letter => simp [apply, setLetter, Verb.fragment]; split <;> rfl
  | removeModifier letter => simp [apply, setLetter, Verb.fragment]; split <;> rfl
  | _ => simp [apply, append, enclose, setModifier, Verb.fragment]

theorem opening_apply {e : Expression} {anchored grouped : Bool}
    (h : e.opening = openingText anchored grouped) (v : Verb) :
    (e.apply v).opening =
      openingText (v.startAnchor?.getD anchored)
        (v.startAnchor?.isNone && (v.isAlt || grouped)) := by
  cases v with
  | startOfLine enable => cases enable <;> rfl
  | alt value =>
    have hc := contains_openingText anchored grouped
    simp only [apply, enclose, append, h, hc]
    cases anchored <;> cases grouped <;> rfl
  | addModifier letter => simp only [apply, setLetter]; split <;> exact h
  | removeModifier letter => simp only [apply, setLetter]; split <;> exact h
  | _ => exact h

theorem closing_apply {e : Expression} {anchored grouped : Bool}
    (h : e.closing = closingText anchored grouped) (v : Verb) :
    (e.apply v).closing =
      closingText (v.endAnchor?.getD anchored) (v.endAnchor?.isNone && (v.isAlt || grouped)) := by
  cases v with
  | endOfLine enable => cases enable <;> rfl
  | alt value =>
    have hc := contains_closingText anchored grouped
    simp only [apply, enclose, append, h, hc]
    cases anchored <;> cases grouped <;> rfl
  | addModifier letter => simp only [apply, setLetter]; split <;> exact h
  | removeModifier letter => simp only [apply, setLetter]; split <;> exact h
  | _ => exact h

/-- A verb leaves the modifiers as they were but for the one that it touches. -/
theorem modifiers_apply (e : Expression) (v : Verb) :
    (e.apply v).modifiers =
      match v.setting? with
      | some (m, enable) => e.modifiers.set m enable
      | none => e.modifiers := by
  cases v with
  | addModifier letter =>
    simp only [apply, setLetter, Verb.setting?]
    cases Modifier.ofChar? letter <;> rfl
  | removeModifier letter =>
    simp only [apply, setLetter, Verb.setting?]
    cases Modifier.ofChar? letter <;> rfl
  | _ => rfl

theorem contains_apply (e : Expression) (v : Verb) (m : Modifier) :
    (e.apply v).modifiers.contains m = (v.about? m).getD (e.modifiers.contains m) := by
  rw [modifiers_apply]
  unfold Verb.about?
  cases h : v.setting? with
  | none => rfl
  | some s =>
    simp only [Option.bind_some, Modifiers.contains_set]
    split <;> rfl

/-! ## All verbs -/

theorem ofVerbs_concat (verbs : List Verb) (v : Verb) :
    ofVerbs (verbs ++ [v]) = (ofVerbs verbs).apply v := by
  simp [ofVerbs, applyAll]

/-- The body is the pieces of the verbs, one after the other. -/
theorem body_ofVerbs (verbs : List Verb) :
    (ofVerbs verbs).body = String.join (verbs.map Verb.fragment) := by
  induction verbs using List.reverseRecOn with
  | nil => rfl
  | append_singleton verbs v ih => simp [ofVerbs_concat, body_apply, ih, String.join_append]

theorem opening_ofVerbs (verbs : List Verb) :
    (ofVerbs verbs).opening =
      openingText ((lastWord Verb.startAnchor? verbs).getD false)
        (altSince Verb.startAnchor? verbs) := by
  induction verbs using List.reverseRecOn with
  | nil => rfl
  | append_singleton verbs v ih =>
    rw [ofVerbs_concat, opening_apply ih, lastWord_concat, altSince_concat]
    cases v.startAnchor? <;> rfl

theorem closing_ofVerbs (verbs : List Verb) :
    (ofVerbs verbs).closing =
      closingText ((lastWord Verb.endAnchor? verbs).getD false)
        (altSince Verb.endAnchor? verbs) := by
  induction verbs using List.reverseRecOn with
  | nil => rfl
  | append_singleton verbs v ih =>
    rw [ofVerbs_concat, closing_apply ih, lastWord_concat, altSince_concat]
    cases v.endAnchor? <;> rfl

theorem contains_ofVerbs (verbs : List Verb) (m : Modifier) :
    (ofVerbs verbs).modifiers.contains m = (lastWord (Verb.about? m) verbs).getD false := by
  induction verbs using List.reverseRecOn with
  | nil => cases m <;> rfl
  | append_singleton verbs v ih =>
    rw [ofVerbs_concat, contains_apply, ih, lastWord_concat]
    cases v.about? m <;> rfl

/-- An expression is shown as its pattern. -/
theorem toString_eq_pattern (e : Expression) : toString e = e.pattern := by
  simp [toString, pattern, String.join]

/-- **An expression is what its verbs left behind.** Whatever the verbs and their arguments, the
body is the concatenation of the pieces of the verbs, of which each depends on its verb alone and
those of anchors and modifiers are empty, and it only grows. In front of it stands `^` iff the last
anchor there was set, and then `(` iff an alternative was begun since; behind it `)` and then `$`,
in the same way. A modifier is set iff the last verb that touches it set it. The pattern is the
three texts together, and so is what is shown. -/
theorem ofVerbs_history (verbs : List Verb) :
    (ofVerbs verbs).body = String.join (verbs.map Verb.fragment) ∧
    (∀ v ∈ verbs, v.isSetting = true → v.fragment = "") ∧
    (∀ more, (ofVerbs (verbs ++ more)).body =
      (ofVerbs verbs).body ++ String.join (more.map Verb.fragment)) ∧
    (ofVerbs verbs).opening =
      (if lastWord Verb.startAnchor? verbs = some true then "^" else "") ++
        (if altSince Verb.startAnchor? verbs then "(" else "") ∧
    (ofVerbs verbs).opening ∈ ["", "^", "(", "^("] ∧
    (ofVerbs verbs).closing =
      (if altSince Verb.endAnchor? verbs then ")" else "") ++
        (if lastWord Verb.endAnchor? verbs = some true then "$" else "") ∧
    (∀ m, (ofVerbs verbs).modifiers.contains m = true ↔
      lastWord (Verb.about? m) verbs = some true) ∧
    (ofVerbs verbs).pattern =
      (ofVerbs verbs).opening ++ (ofVerbs verbs).body ++ (ofVerbs verbs).closing ∧
    toString (ofVerbs verbs) = (ofVerbs verbs).pattern := by
  have getD_eq (o : Option Bool) : o.getD false = true ↔ o = some true := by
    cases o <;> simp
  refine ⟨body_ofVerbs verbs, fun v _ => Verb.fragment_of_isSetting, fun more => ?_, ?_, ?_, ?_,
    fun m => ?_, rfl, toString_eq_pattern _⟩
  · rw [body_ofVerbs, body_ofVerbs, List.map_append, String.join_append]
  · simp only [opening_ofVerbs, openingText, getD_eq]
  · rw [opening_ofVerbs]
    generalize (lastWord Verb.startAnchor? verbs).getD false = anchored
    generalize altSince Verb.startAnchor? verbs = grouped
    cases anchored <;> cases grouped <;> decide
  · simp only [closing_ofVerbs, closingText, getD_eq]
  · rw [contains_ofVerbs, getD_eq]

/-- Parentheses in an added text count for nothing, and an anchor takes away the one that an
alternative put beside it. -/
example :
    (ofVerbs [.add "((", .alt "b", .startOfLine true, .add ")"]).pattern = "^(()|((?:b)))" := by
  decide

end Expression

end Verbal
