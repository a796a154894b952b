import Mathlib.Algebra.Order.BigOperators.Group.List
import Mathlib.Algebra.Order.Group.Nat
import Verbal.Proofs.Factors
import Verbal.Proofs.Regular.Denotations

/-!
# Words with signs in regular patterns

A regular pattern reads stacked signs one by one: each of them repeats the item that the signs
before it made. So a word with its signs is one item, and it stands for the expression of the word.

* `readAll_factors`: words with their signs are read as one item each.
* **`written_factors`**: what is read stands for their expressions, one after the other.
-/

namespace Verbal

open Verbal.Regular

/-- What a sign makes of an item. -/
def Sign.ast (a : Ast) (q : Sign) : Ast := .fromOn q.least a

/-- The item that a word with its signs is read as. -/
def Factor.ast (f : Factor) : Ast :=
  f.signs.foldl Sign.ast (.plainGroup (f.word.toList.map .ofChar))

namespace Regular

variable {d : Draft} {rest pattern : List Char} {fs : List Factor} {anyCase : Bool}

/-! ## Reading -/

theorem readAll_signs (hv : d.verbose = false) (ht : rest.head? ≠ some '?') (signs : List Sign)
    {a : Ast} (ha : ∀ switches, a ≠ .flags switches) :
    readAll (d.push a) (signs.map Sign.char ++ rest) =
      readAll (d.push (signs.foldl Sign.ast a)) rest := by
  induction signs generalizing a with
  | nil => rfl
  | cons q signs ih =>
    have hcount : Repetition.ofChar? q.char = some ⟨q.least, none⟩ := by cases q <;> rfl
    have hnext : (signs.map Sign.char ++ rest).head? ≠ some '?' := by
      cases signs with
      | nil => exact ht
      | cons q' signs => cases q' <;> simp [Sign.char]
    exact (readAll_mark hv hcount ha hnext).trans (ih (fun _ => nofun))

/-- A word with its signs is read as one item. -/
theorem readAll_factor (hv : d.verbose = false) (ht : rest.head? ≠ some '?') {f : Factor}
    (hf : IsPlainText f.word) : readAll d (f.text ++ rest) = readAll (d.push f.ast) rest := by
  have htext : f.text ++ rest =
      "(?:".toList ++ (f.word.toList ++ ')' :: (f.signs.map Sign.char ++ rest)) := by
    simp [Factor.text]
  rw [htext, readAll_charGroup hv hf.2]
  refine readAll_signs hv ht f.signs fun _ h => ?_
  cases h

theorem head?_texts (fs : List Factor) : (fs.flatMap Factor.text).head? ≠ some '?' := by
  cases fs <;> simp [Factor.text]

/-- Words with their signs are read as one item each. -/
theorem readAll_factors (hv : d.verbose = false) (hfs : ∀ f ∈ fs, IsPlainText f.word) :
    readAll d (fs.flatMap Factor.text) = .ok (d.pushAll (fs.map Factor.ast)) := by
  induction fs generalizing d with
  | nil => exact readAll_of_blank (by rw [hv]; rfl)
  | cons f fs ih =>
    obtain ⟨hf, hfs⟩ := List.forall_mem_cons.mp hfs
    rw [List.flatMap_cons, readAll_factor hv (head?_texts fs) hf, ih (d := d.push f.ast) hv hfs]
    simp [Draft.push, Draft.pushAll]

/-! ## What is read -/

theorem denotes_factor (f : Factor) (hf : f.word ≠ "") :
    f.ast.Denotes anyCase (2 + f.signs.length) (f.regex anyCase) := by
  have hsigns (signs : List Sign) (n : Nat) (a : Ast) (r : Regex) (h : a.Denotes anyCase n r)
      (hr : r.onlyEmpty = false) :
      (signs.foldl Sign.ast a).Denotes anyCase (n + signs.length)
        (signs.foldl Sign.regex r) := by
    induction signs generalizing n a r with
    | nil => exact h
    | cons q signs ih =>
      have hcount : (Repetition.mk q.least none).most ≠ some q.least := nofun
      have hnext := ih (n + 1) _ _ (h.repetition hr hcount) hr
      rwa [Nat.add_assoc, Nat.add_comm 1] at hnext
  have hne : f.word.toList ≠ [] := by simpa using hf
  exact hsigns f.signs 2 _ _ (Ast.denotes_chars anyCase f.word.toList).group
    (Ast.onlyEmpty_ofText hne)

/-- **What is read of words with signs** stands for their expressions, one after the other. -/
theorem written_factors (hpattern : pattern = fs.flatMap Factor.text)
    (hfs : ∀ f ∈ fs, IsPlainText f.word) (anyCase : Bool) :
    ∃ source, Source.written pattern = .ok source ∧ source.ast.regex (.initial anyCase) =
      .ok (.sequence (fs.map (Factor.regex anyCase)), .initial anyCase) := by
  have hread := readAll_factors (d := .start) rfl hfs
  rw [← hpattern] at hread
  refine ⟨_, written_eq_ok.mpr ⟨_, hread, rfl, rfl⟩, ?_⟩
  have hdenotes : List.Forall₂ (Ast.Denotes anyCase (2 + (fs.map (·.signs.length)).sum))
      (fs.map Factor.ast) (fs.map (Factor.regex anyCase)) := by
    rw [List.forall₂_map_left_iff, List.forall₂_map_right_iff, List.forall₂_same]
    intro f hf
    have hle := List.le_sum_of_mem (List.mem_map_of_mem (f := (·.signs.length)) hf)
    exact (denotes_factor f (hfs f hf).1).mono (Nat.add_le_add_left hle 2)
  have hbody : (Draft.start.pushAll (fs.map Factor.ast)).body =
      .ofBranches [.ofItems (fs.map Factor.ast)] := by
    simp [Draft.body, Draft.pushAll, Draft.start]
  rw [hbody]
  exact (Ast.denotes_ofItems hdenotes).regex

end Regular

end Verbal
