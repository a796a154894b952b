import Verbal.Proofs.Regular.Covering

/-!
# Renumbered groups

A part of a pattern that stands behind other capture groups has its own groups renumbered. What it
stands for is the same but for the numbers, so it matches at the same places and takes the same
space.

* **`Ast.regex_shift`**: renumbering what is written renumbers what it stands for.
* `Regex.spans_shift`, `Regex.size_shift`: nothing else depends on the numbers.
* `readAll_part`: a pattern without comments is read inside of its surroundings up to what stands
  behind it.
-/

namespace Verbal.Regular

open Verbal.Unicode

namespace Regex

/-- An expression with the numbers of its groups raised. -/
def shift (n : Nat) : Regex → Regex
  | empty => empty
  | letter set => letter set
  | look l => look l
  | concat a b => concat (a.shift n) (b.shift n)
  | alternate a b => alternate (a.shift n) (b.shift n)
  | repetition count greedy a => repetition count greedy (a.shift n)
  | group index a => group (index + n) (a.shift n)

variable (n : Nat)

@[simp]
theorem onlyEmpty_shift (r : Regex) : (r.shift n).onlyEmpty = r.onlyEmpty := by
  induction r with
  | empty => rfl
  | letter set => rfl
  | look l => rfl
  | concat a b iha ihb => simp only [shift, onlyEmpty, iha, ihb]
  | alternate a b iha ihb => simp only [shift, onlyEmpty, iha, ihb]
  | repetition count greedy a ih => exact ih
  | group index a ih => exact ih

@[simp]
theorem size_shift (r : Regex) : (r.shift n).size = r.size := by
  induction r with
  | empty => rfl
  | letter set => rfl
  | look l => rfl
  | concat a b iha ihb => simp only [shift, size, iha, ihb]
  | alternate a b iha ihb => simp only [shift, size, iha, ihb]
  | repetition count greedy a ih => simp only [shift, size, ih]
  | group index a ih => simp only [shift, size, ih]

/-- The numbers of the groups do not matter to where an expression can match. -/
theorem spans_shift (r : Regex) (text : List Char) :
    (r.shift n).Spans text = r.Spans text := by
  induction r with
  | empty => rfl
  | letter set => rfl
  | look l => rfl
  | concat a b iha ihb => funext i j; simp only [shift, Spans, iha, ihb]
  | alternate a b iha ihb => funext i j; simp only [shift, Spans, iha, ihb]
  | repetition count greedy a ih => funext i j; simp only [shift, Spans, ih]
  | group index a ih => funext i j; simp only [shift, Spans, ih]

theorem shift_repeated (count : Repetition) (greedy : Bool) (a : Regex) :
    (repeated count greedy a).shift n = repeated count greedy (a.shift n) := by
  simp only [repeated, onlyEmpty_shift, apply_ite (shift n), shift]

end Regex

namespace Ast

/-- **Renumbering what is written renumbers what it stands for.** -/
theorem regex_shift (n : Nat) (a : Ast) (flags : Flags) :
    (a.shift n).regex flags = (a.regex flags).map fun x => (x.1.shift n, x.2) := by
  induction a generalizing flags with
  | empty => rfl
  | flags switches => rfl
  | primitive p =>
    have hshift (r : Regex) (hr : p.regex flags = .ok r) : r.shift n = r := by
      unfold Primitive.regex at hr
      split at hr
      all_goals first
        | (obtain ⟨set, -, rfl⟩ := map_eq_ok.mp hr; rfl)
        | (cases hr; rfl)
    simp only [shift, regex]
    cases hp : p.regex flags with
    | error e => rfl
    | ok r => exact congrArg (fun r => Except.ok (r, flags)) (hshift r hp).symm
  | set item =>
    simp only [shift, regex]
    cases item.characters flags <;> rfl
  | repetition count reluctant body ih =>
    simp only [shift, regex, bind, ih]
    cases body.regex flags with
    | error e => rfl
    | ok x => exact congrArg (fun r => Except.ok (r, x.2)) (Regex.shift_repeated ..).symm
  | group kind body ih =>
    cases kind with
    | capture index =>
      simp only [shift, GroupKind.shift, regex, bind, ih]
      cases body.regex flags <;> rfl
    | plain switches =>
      simp only [shift, GroupKind.shift, regex, bind, ih]
      cases body.regex (flags.apply switches) <;> rfl
  | concat first rest ihf ihr =>
    simp only [shift, regex, bind, ihf]
    cases first.regex flags with
    | error e => rfl
    | ok x =>
      simp only [Except.map, Except.bind, ihr]
      cases rest.regex x.2 <;> rfl
  | alternate first rest ihf ihr =>
    simp only [shift, regex, bind, ihf]
    cases first.regex flags with
    | error e => rfl
    | ok x =>
      simp only [Except.map, Except.bind, ihr]
      cases rest.regex x.2 <;> rfl

theorem depth_shift (n : Nat) (a : Ast) (chain : Chain) :
    (a.shift n).depth chain = a.depth chain := by
  induction a generalizing chain with
  | empty => rfl
  | flags switches => rfl
  | primitive p => rfl
  | set item => rfl
  | repetition count reluctant body ih => simp only [shift, depth, ih]
  | group kind body ih => simp only [shift, depth, ih]
  | concat first rest ihf ihr => simp only [shift, depth, ihf, ihr]
  | alternate first rest ihf ihr => simp only [shift, depth, ihf, ihr]

/-- Whether a pattern is a letter or a class, which reads one character. -/
def isLetter : Ast → Bool
  | primitive (.assertion _) => false
  | primitive _ => true
  | set _ => true
  | _ => false

theorem shift_of_isLetter {a : Ast} (h : a.isLetter = true) (n : Nat) : a.shift n = a := by
  cases a with
  | primitive p => rfl
  | set item => rfl
  | _ => cases h

theorem regex_of_isLetter {a : Ast} (h : a.isLetter = true) {flags flags' : Flags} {r : Regex}
    (hr : a.regex flags = .ok (r, flags')) : flags' = flags ∧ ∃ set, r = .letter set := by
  cases a with
  | primitive p =>
    obtain ⟨r', hr', heq⟩ := map_eq_ok.mp hr
    cases heq
    refine ⟨rfl, ?_⟩
    cases p with
    | assertion l => cases h
    | _ =>
      obtain ⟨set, -, rfl⟩ := map_eq_ok.mp hr'
      exact ⟨set, rfl⟩
  | set item =>
    obtain ⟨set, -, heq⟩ := map_eq_ok.mp hr
    cases heq
    exact ⟨rfl, set, rfl⟩
  | _ => cases h

end Ast

/-! ## A pattern in its place -/

theorem inComment_of_not_mem_hash {b : List Char} (h : '#' ∉ b) : inComment false b = false := by
  induction b with
  | nil => rfl
  | cons c b ih =>
    have hc : c ≠ '#' := fun hc => h (by simp [hc])
    rw [inComment, if_neg hc]
    exact ih fun hb => h (List.mem_cons_of_mem c hb)

/-- Blanks without a comment do not hide what comes after them. -/
theorem skipBlanks_append_of_blank {v : Bool} {b : List Char} (hb : skipBlanks v b = [])
    (hhash : '#' ∉ b) (t : List Char) : skipBlanks v (b ++ t) = skipBlanks v t := by
  cases v with
  | false => rw [show b = [] from hb, List.nil_append]
  | true =>
    rw [skipBlanks, if_pos rfl, dropBlanks_append hb, inComment_of_not_mem_hash hhash]
    rfl

theorem skipBlanks_parenthesis (v : Bool) (t : List Char) :
    skipBlanks v (')' :: t) = ')' :: t := by
  cases v
  · rfl
  · have hspace : isSpace ')' = false := by decide
    simp [skipBlanks, dropBlanks, hspace]

theorem ends_parenthesis (v : Bool) (t : List Char) : Ends v (')' :: t) where
  here := nofun
  later h := by
    rw [skipBlanks_parenthesis] at h
    cases h
  names := nofun

theorem Ends.head?_ne {v : Bool} {t : List Char} (h : Ends v t) :
    (skipBlanks v t).head? ≠ some '?' :=
  fun ht => absurd (h.later ht) (by cases v <;> nofun)

/-- **A pattern without comments is read in its place** up to what stands behind it. -/
theorem readAll_part {d : Draft} {s : List Char} (h : readAll .start s = .ok d) (hhash : '#' ∉ s)
    {around : Surroundings} (hfit : d.Fits around) {t : List Char} (ht : Ends d.verbose t) :
    readAll (Draft.start.inside around) (s ++ t) = readAll (d.inside around) t := by
  obtain ⟨w, b, rfl, hb, -, -, hrun⟩ := readAll_inside h
  have hskip : skipBlanks d.verbose (b ++ t) = skipBlanks d.verbose t :=
    skipBlanks_append_of_blank hb (fun hmem => hhash (List.mem_append_right w hmem)) _
  have hends : Ends d.verbose (b ++ t) := ends_append hb ht (by rw [hskip]; exact ht.head?_ne)
  rw [List.append_assoc, hrun around _ hfit hends]
  exact readAll_congr hskip

end Verbal.Regular
