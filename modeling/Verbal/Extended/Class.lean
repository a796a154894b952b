import Verbal.Extended.Escape

/-!
# Classes of extended patterns

A class ends where its brackets balance. Its text is passed on to the reader of regular patterns,
with the escapes that only extended patterns have replaced by what they stand for.
-/

namespace Verbal.Extended

/-- The text of an escape in a class. -/
def Escaped.classText : Escaped → Except Fault (List Char)
  | letter c _ => .ok (if Regular.isMeta c then ['\\', c] else [c])
  | fragment text _ => .ok text
  | _ => .error .classInvalid

/-- Reads up to the bracket that closes a class, in which `depth` more are open; the last character
comes first. -/
def readBrackets (scope : Scope) (depth : Nat) (text : List Char) (s : List Char) :
    Reading (List Char) s :=
  match s with
  | [] => .error .classInvalid
  | c :: r =>
    have hr : r.length ≤ (c :: r).length := length_le_cons c r
    if c = '\\' then
      match readEscape scope true r with
      | .error e => .error e
      | .ok (e, rest) =>
        have hrest : rest.1.length < (c :: r).length := Nat.lt_succ_of_le rest.2
        e.classText.bind fun t =>
          (readBrackets scope depth (t.reverse ++ text) rest.1).within (Nat.le_of_lt hrest)
    else if c = '[' then (readBrackets scope (depth + 1) (c :: text) r).within hr
    else if c = ']' then
      if depth = 0 then .ok (c :: text, ⟨r, hr⟩)
      else (readBrackets scope (depth - 1) (c :: text) r).within hr
    else (readBrackets scope depth (c :: text) r).within hr
termination_by s.length
decreasing_by
  · exact hrest
  all_goals exact Nat.lt_succ_self r.length

/-- What may stand first in a class: a negation, and a bracket that is a letter there. -/
def classOpening : List Char → List Char
  | '^' :: ']' :: _ => ['^', ']']
  | '^' :: _ => ['^']
  | ']' :: _ => [']']
  | _ => []

/-- Reads a class after its opening bracket. -/
def readClass (scope : Scope) (s : List Char) : Reading (List Char) s :=
  let opening := classOpening s
  ((readBrackets scope 0 (opening.reverse ++ ['[']) (s.drop opening.length)).within
    (by simp)).map fun (text, rest) => (text.reverse, rest)

end Verbal.Extended
