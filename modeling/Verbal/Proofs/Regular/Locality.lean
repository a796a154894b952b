import Mathlib.Data.List.TakeWhile
import Verbal.Proofs.Outcomes
import Verbal.Regular.Reader

/-!
# What a reader takes of a text

Readers look at most a little beyond what they take. `Exact` readers do not look beyond it at all,
`UpTo` readers look at the next character, and what a reader that `Takes` looks at is told by a
relation. Each notion is about a reader at one text, so that recursive readers can be treated by
induction on the text, and passes from the parts of a reader to the whole.

* **`Exact.bind`**, `UpTo.bind` and `Takes.bind`: one reader after another.
* `Exact.afterBlanks` and its companions: blanks and comments in front change nothing.
-/

namespace Verbal

/-- What was read and what was left over, without the bound on the length. -/
def Reading.text {ε α : Type} {s : List Char} (x : Reading ε α s) : Except ε (α × List Char) :=
  x.map fun (a, r) => (a, r.1)

namespace Reading

variable {ε α β : Type} {s : List Char}

@[simp]
theorem text_ok (a : α) (r : Rest s) : text (.ok (a, r) : Reading ε α s) = .ok (a, r.1) := rfl

@[simp]
theorem text_error (e : ε) : text (.error e : Reading ε α s) = .error e := rfl

@[simp]
theorem text_within {t : List Char} (h : t.length ≤ s.length) (x : Reading ε α t) :
    (x.within h).text = x.text := by
  cases x <;> rfl

theorem text_bind (x : Reading ε α s) {f : α × Rest s → Reading ε β s}
    {g : α → List Char → Except ε (β × List Char)} (h : ∀ a r, (f (a, r)).text = g a r.1) :
    text (Except.bind x f) = x.text.bind fun y => g y.1 y.2 := by
  cases x with
  | error e => rfl
  | ok x => exact h x.1 x.2

theorem length_le_of_text {x : Reading ε α s} {a : α} {r : List Char} (h : x.text = .ok (a, r)) :
    r.length ≤ s.length := by
  cases x with
  | error e => cases h
  | ok x =>
    cases h
    exact x.2.2

theorem eq_ok_of_text {x : Reading ε α s} {a : α} {r : List Char} (h : x.text = .ok (a, r)) :
    x = .ok (a, ⟨r, length_le_of_text h⟩) := by
  cases x with
  | error e => cases h
  | ok x =>
    cases h
    rfl

theorem text_map_value (x : Except ε α) (r : Rest s) :
    text (x.map fun a => (a, r)) = x.map fun a => (a, r.1) := by
  cases x <;> rfl

end Reading

namespace Regular

open Verbal.Unicode

/-! ## Blanks -/

theorem dropBlanks_eq_cons {k : Bool} {s r : List Char} {c : Char}
    (h : dropBlanks k s = c :: r) :
    ∃ a, s = a ++ c :: r ∧ ∀ t, dropBlanks k (a ++ c :: t) = c :: t := by
  fun_induction dropBlanks k s with
  | case1 => simp at h
  | case2 s ih =>
    obtain ⟨a, rfl, ha⟩ := ih h
    exact ⟨'\n' :: a, rfl, fun t => by simpa [dropBlanks] using ha t⟩
  | case3 d s hd ih =>
    obtain ⟨a, rfl, ha⟩ := ih h
    exact ⟨d :: a, rfl, fun t => by simpa [dropBlanks, hd] using ha t⟩
  | case4 d s hd ih =>
    obtain ⟨a, rfl, ha⟩ := ih h
    exact ⟨d :: a, rfl, fun t => by simpa [dropBlanks, hd] using ha t⟩
  | case5 s hd ih =>
    obtain ⟨a, rfl, ha⟩ := ih h
    exact ⟨'#' :: a, rfl, fun t => by simpa [dropBlanks, hd] using ha t⟩
  | case6 d s hspace hd =>
    obtain ⟨rfl, rfl⟩ := List.cons.inj h
    exact ⟨[], rfl, fun t => by simp [dropBlanks, hspace, hd]⟩

/-- Where blanks end does not depend on what follows. -/
theorem skipBlanks_eq_cons {v : Bool} {s r : List Char} {c : Char}
    (h : skipBlanks v s = c :: r) :
    ∃ a, s = a ++ c :: r ∧ ∀ t, skipBlanks v (a ++ c :: t) = c :: t := by
  cases v
  · exact ⟨[], h, fun t => rfl⟩
  · exact dropBlanks_eq_cons h

theorem dropBlanks_dropBlanks (k : Bool) (s : List Char) :
    dropBlanks false (dropBlanks k s) = dropBlanks k s := by
  fun_induction dropBlanks k s <;> simp_all [dropBlanks]

/-- Blanks that were skipped are skipped once and for all. -/
theorem skipBlanks_skipBlanks {k v : Bool} (h : k = true → v = true) (s : List Char) :
    skipBlanks v (skipBlanks k s) = skipBlanks v s := by
  cases k
  · rfl
  · rw [h rfl]
    exact dropBlanks_dropBlanks false s

/-- Where blanks end does not depend on what follows later on, either. -/
theorem skipBlanks_eq_append {v : Bool} {s p r : List Char} {c : Char}
    (h : skipBlanks v s = p ++ c :: r) :
    ∃ b, s = b ++ (p ++ c :: r) ∧ ∀ t, skipBlanks v (b ++ (p ++ c :: t)) = p ++ c :: t := by
  cases p with
  | nil => exact skipBlanks_eq_cons h
  | cons d p =>
    obtain ⟨b, rfl, hb⟩ := skipBlanks_eq_cons h
    exact ⟨b, rfl, fun t => hb _⟩

/-- Nothing is left to skip for a reader that skips less. -/
theorem skipBlanks_of_skipBlanks {k v : Bool} (h : k = true → v = true) (s : List Char) :
    skipBlanks k (skipBlanks v s) = skipBlanks v s := by
  cases k
  · rfl
  · rw [h rfl]
    exact dropBlanks_dropBlanks false s

theorem skipBlanks_self (v : Bool) (s : List Char) :
    skipBlanks v (skipBlanks v s) = skipBlanks v s :=
  skipBlanks_skipBlanks id s

/-- In front of a character that was not skipped there is nothing to skip. -/
theorem skipBlanks_cons_of_eq_cons {v : Bool} {s r : List Char} {c : Char}
    (h : skipBlanks v s = c :: r) (t : List Char) : skipBlanks v (c :: t) = c :: t := by
  obtain ⟨a, rfl, ha⟩ := skipBlanks_eq_cons h
  have hself := skipBlanks_self v (a ++ c :: t)
  rwa [ha] at hself

/-- A reader that skips blanks before it looks at the first character. -/
def afterBlanks {α : Type} (v : Bool) (e : Fault)
    (f : Char → List Char → Except Fault (α × List Char)) (s : List Char) :
    Except Fault (α × List Char) :=
  match skipBlanks v s with
  | [] => .error e
  | c :: r => f c r

/-! ## Readers that take the same whatever follows -/

variable {α β : Type} {v : Bool} {s : List Char} {f g : List Char → Except Fault (α × List Char)}

/-- What a reader takes there does not depend on what follows. -/
def Exact (f : List Char → Except Fault (α × List Char)) (s : List Char) : Prop :=
  ∀ a r, f s = .ok (a, r) → ∃ p, s = p ++ r ∧ ∀ t, f (p ++ t) = .ok (a, t)

theorem Exact.congr (h : Exact f s) (hfg : ∀ s, g s = f s) : Exact g s := by
  rwa [show g = f from funext hfg]

theorem exact_error (e : Fault) : Exact (fun _ => (.error e : Except Fault (α × List Char))) s :=
  nofun

theorem exact_ok (a : α) : Exact (fun s => .ok (a, s)) s := by
  rintro b r ⟨⟩
  exact ⟨[], rfl, fun t => rfl⟩

theorem exact_value (x : Except Fault α) : Exact (fun s => x.map fun a => (a, s)) s := by
  cases x with
  | error e => exact exact_error e
  | ok a => exact exact_ok a

theorem Exact.cons {c : Char} (h : Exact (fun s => f (c :: s)) s) : Exact f (c :: s) := by
  intro a r hf
  obtain ⟨p, rfl, hp⟩ := h a r hf
  exact ⟨c :: p, rfl, hp⟩

theorem Exact.ite {P : Prop} [Decidable P] (hf : P → Exact f s) (hg : ¬P → Exact g s) :
    Exact (fun s => if P then f s else g s) s := by
  by_cases h : P
  · simpa only [if_pos h] using hf h
  · simpa only [if_neg h] using hg h

theorem Exact.afterBlanks {e : Fault} {f : Char → List Char → Except Fault (α × List Char)}
    (h : ∀ c r, skipBlanks v s = c :: r → Exact (f c) r) : Exact (afterBlanks v e f) s := by
  intro a r hf
  unfold Regular.afterBlanks at hf
  split at hf
  · cases hf
  · rename_i c r' hs
    obtain ⟨p, rfl, hp⟩ := h c r' hs a r hf
    obtain ⟨b, rfl, hb⟩ := skipBlanks_eq_cons hs
    exact ⟨b ++ c :: p, by simp, fun t => by simp [Regular.afterBlanks, hb, hp]⟩

theorem Exact.bind {g : α → List Char → Except Fault (β × List Char)} (hf : Exact f s)
    (hg : ∀ a r, f s = .ok (a, r) → Exact (g a) r) :
    Exact (fun s => (f s).bind fun x => g x.1 x.2) s := by
  intro b r h
  obtain ⟨⟨a, r'⟩, ha, hb⟩ := bind_eq_ok.mp h
  obtain ⟨p, rfl, hp⟩ := hf a r' ha
  obtain ⟨q, rfl, hq⟩ := hg a r' ha b r hb
  exact ⟨p ++ q, by simp, fun t => by simp [hp, hq, Except.bind]⟩

/-! ## Readers that look at the next character -/

/-- What a reader takes there depends on the next character only. -/
def UpTo (f : List Char → Except Fault (α × List Char)) (s : List Char) : Prop :=
  ∀ a c r, f s = .ok (a, c :: r) → ∃ p, s = p ++ c :: r ∧ ∀ t, f (p ++ c :: t) = .ok (a, c :: t)

theorem Exact.upTo (h : Exact f s) : UpTo f s := by
  intro a c r hf
  obtain ⟨p, hs, hp⟩ := h a _ hf
  exact ⟨p, hs, fun t => hp _⟩

theorem UpTo.congr (h : UpTo f s) (hfg : ∀ s, g s = f s) : UpTo g s := by
  rwa [show g = f from funext hfg]

theorem UpTo.cons {c : Char} (h : UpTo (fun s => f (c :: s)) s) : UpTo f (c :: s) := by
  intro a d r hf
  obtain ⟨p, rfl, hp⟩ := h a d r hf
  exact ⟨c :: p, rfl, hp⟩

/-- Only texts that begin in the same way matter. -/
theorem UpTo.congr_cons {c : Char} (h : UpTo f (c :: s)) (hfg : ∀ s, g (c :: s) = f (c :: s)) :
    UpTo g (c :: s) := by
  intro a d r hg
  rw [hfg] at hg
  obtain ⟨p, hs, hp⟩ := h a d r hg
  refine ⟨p, hs, fun t => ?_⟩
  cases p with
  | nil =>
    obtain ⟨rfl, -⟩ := List.cons.inj hs
    exact (hfg t).trans (hp t)
  | cons e p =>
    obtain ⟨rfl, -⟩ := List.cons.inj hs
    exact (hfg _).trans (hp t)

/-- A reader that takes nothing there. -/
theorem upTo_of_stays {c : Char} {a : α} (h : ∀ t, f (c :: t) = .ok (a, c :: t)) :
    UpTo f (c :: s) := by
  intro b d r hf
  rw [h] at hf
  cases hf
  exact ⟨[], rfl, h⟩

theorem UpTo.skip (h : UpTo f (skipBlanks v s)) : UpTo (fun s => f (skipBlanks v s)) s := by
  intro a c r hf
  obtain ⟨p, hs, hp⟩ := h a c r hf
  obtain ⟨b, rfl, hb⟩ := skipBlanks_eq_append hs
  exact ⟨b ++ p, by simp, fun t => by simp [hb, hp]⟩

/-- The same for readers that drop other characters than blanks. -/
theorem UpTo.dropWhile {p : Char → Bool} (h : UpTo f (s.dropWhile p)) :
    UpTo (fun s => f (s.dropWhile p)) s := by
  intro a c r hf
  obtain ⟨q, hs, hq⟩ := h a c r hf
  have hsplit := List.takeWhile_append_dropWhile (p := p) (l := s)
  rw [hs] at hsplit
  refine ⟨s.takeWhile p ++ q, by rw [List.append_assoc, hsplit], fun t => ?_⟩
  have hdrop : (s.takeWhile p ++ (q ++ c :: t)).dropWhile p = q ++ c :: t := by
    rw [List.dropWhile_append_of_pos fun d hd => List.mem_takeWhile_imp hd]
    have hhead : ∀ d l, s.dropWhile p = d :: l → ¬p d = true := fun d l hdl => by
      have := List.head?_dropWhile_not p s
      rw [hdl] at this
      simpa using this
    cases q with
    | nil => rw [List.nil_append, List.dropWhile_cons_of_neg (hhead c r hs)]
    | cons d q => rw [List.cons_append, List.dropWhile_cons_of_neg (hhead d _ hs)]
  simp only [List.append_assoc, hdrop]
  exact hq t

theorem UpTo.bind {g : α → List Char → Except Fault (β × List Char)} (hf : UpTo f s)
    (hg : ∀ a r, f s = .ok (a, r) → UpTo (g a) r) :
    UpTo (fun s => (f s).bind fun x => g x.1 x.2) s := by
  intro b c r h
  obtain ⟨⟨a, r'⟩, ha, hb⟩ := bind_eq_ok.mp h
  obtain ⟨q, hq, hgq⟩ := hg a r' ha b c r hb
  -- what is left for the second reader is not empty, so the first one has a next character
  cases q with
  | nil =>
    simp only [List.nil_append] at hq hgq
    subst hq
    obtain ⟨p, rfl, hp⟩ := hf a c r ha
    exact ⟨p, rfl, fun t => by simp [hp, hgq, Except.bind]⟩
  | cons d q =>
    simp only [List.cons_append] at hq hgq
    subst hq
    obtain ⟨p, rfl, hp⟩ := hf a d _ ha
    exact ⟨p ++ d :: q, by simp, fun t => by simp [hp, hgq, Except.bind]⟩

/-! ## Readers that look further -/

/-- What a reader takes there, up to blanks behind it, is the same for all that may follow if that
looks alike. -/
def Takes (v : Bool) (look : List Char → List Char → Prop)
    (f : List Char → Except Fault (α × List Char)) (s : List Char) : Prop :=
  ∀ a r, f s = .ok (a, r) → ∃ p u k, s = p ++ u ∧ (k = true → v = true) ∧ r = skipBlanks k u ∧
    ∀ t, look u t → f (p ++ t) = .ok (a, skipBlanks k t)

/-- Texts look alike to whom does not look. -/
def Anything (_ _ : List Char) : Prop := True

variable {look : List Char → List Char → Prop}

theorem Exact.takes (h : Exact f s) : Takes v look f s := by
  intro a r hf
  obtain ⟨p, hs, hp⟩ := h a r hf
  exact ⟨p, r, false, hs, nofun, rfl, fun t _ => hp t⟩

theorem Takes.mono {look' : List Char → List Char → Prop} (h : Takes v look f s)
    (hlook : ∀ u t, look' u t → look u t) : Takes v look' f s := by
  intro a r hf
  obtain ⟨p, u, k, hs, hk, hr, hp⟩ := h a r hf
  exact ⟨p, u, k, hs, hk, hr, fun t ht => hp t (hlook u t ht)⟩

theorem Takes.congr (h : Takes v look f s) (hfg : ∀ s, g s = f s) : Takes v look g s := by
  rwa [show g = f from funext hfg]

theorem Takes.cons {c : Char} (h : Takes v look (fun s => f (c :: s)) s) :
    Takes v look f (c :: s) := by
  intro a r hf
  obtain ⟨p, u, k, rfl, hk, hr, hp⟩ := h a r hf
  exact ⟨c :: p, u, k, rfl, hk, hr, hp⟩

theorem takes_skipBlanks (a : α) : Takes v look (fun s => .ok (a, skipBlanks v s)) s := by
  rintro b r ⟨⟩
  exact ⟨[], s, v, rfl, id, rfl, fun t _ => rfl⟩

theorem Takes.afterBlanks {e : Fault} {f : Char → List Char → Except Fault (α × List Char)}
    (h : ∀ c r, skipBlanks v s = c :: r → Takes v look (f c) r) :
    Takes v look (afterBlanks v e f) s := by
  intro a r hf
  unfold Regular.afterBlanks at hf
  split at hf
  · cases hf
  · rename_i c r' hs
    obtain ⟨p, u, k, rfl, hk, hr, hp⟩ := h c r' hs a r hf
    obtain ⟨b, rfl, hb⟩ := skipBlanks_eq_cons hs
    exact ⟨b ++ c :: p, u, k, by simp, hk, hr, fun t ht => by
      simp [Regular.afterBlanks, hb, hp t ht]⟩

theorem Takes.skip (h : Takes v Anything f (skipBlanks v s)) :
    Takes v look (fun s => f (skipBlanks v s)) s := by
  intro a r hf
  obtain ⟨p, u, k, hs, hk, rfl, hp⟩ := h a r hf
  cases p with
  | nil =>
    rw [List.nil_append] at hs
    refine ⟨[], s, v, rfl, id, ?_, fun t _ => ?_⟩
    · rw [← hs, skipBlanks_of_skipBlanks hk]
    · simpa [skipBlanks_of_skipBlanks hk] using hp (skipBlanks v t) trivial
  | cons c p =>
    obtain ⟨b, rfl, hb⟩ := skipBlanks_eq_cons hs
    exact ⟨b ++ c :: p, u, k, by simp, hk, rfl, fun t _ => by simp [hb, ← hp t trivial]⟩

/-- A reader that takes something takes the first character. -/
theorem Takes.of_cons {c : Char} (h : Takes v look f (c :: s)) (hlook : ∀ u, look u [])
    (hnil : ∀ x, f [] ≠ .ok x) : Takes v look (fun s => f (c :: s)) s := by
  intro a r hf
  obtain ⟨p, u, k, hs, hk, hr, hp⟩ := h a r hf
  cases p with
  | nil => exact absurd (hp [] (hlook u)) (hnil _)
  | cons d p =>
    obtain ⟨rfl, rfl⟩ := List.cons.inj hs
    exact ⟨p, u, k, rfl, hk, hr, hp⟩

theorem Takes.map_value (h : Takes v look f s) (g : α → Except Fault β) :
    Takes v look (fun s => (f s).bind fun x => (g x.1).map fun b => (b, x.2)) s := by
  intro b r hf
  obtain ⟨⟨a, r⟩, ha, hb⟩ := bind_eq_ok.mp hf
  obtain ⟨b, hg, ⟨⟩⟩ := map_eq_ok.mp hb
  obtain ⟨p, u, k, hs, hk, hr, hp⟩ := h a r ha
  exact ⟨p, u, k, hs, hk, hr, fun t ht => by simp [hp t ht, hg, Except.bind, Except.map]⟩

/-- The second reader begins with the character that the first one looked at. -/
theorem UpTo.bind_takes {g : α → List Char → Except Fault (β × List Char)} (hf : UpTo f s)
    (hnil : ∀ a b, g a [] ≠ .ok b)
    (hg : ∀ a c r, f s = .ok (a, c :: r) → Takes v look (fun s => g a (c :: s)) r) :
    Takes v look (fun s => (f s).bind fun x => g x.1 x.2) s := by
  intro b r h
  obtain ⟨⟨a, r'⟩, ha, hb⟩ := bind_eq_ok.mp h
  cases r' with
  | nil => exact absurd hb (hnil a _)
  | cons c r' =>
    obtain ⟨p, rfl, hp⟩ := hf a c r' ha
    obtain ⟨q, u, k, rfl, hk, hr, hq⟩ := hg a c r' ha b r hb
    exact ⟨p ++ c :: q, u, k, by simp, hk, hr, fun t ht => by simp [hp, hq t ht, Except.bind]⟩

/-- The second reader skips the blanks that the first one may have left. -/
theorem Takes.bind {g : α → List Char → Except Fault (β × List Char)}
    (hf : Takes v Anything f s) (hblank : ∀ a s, g a (skipBlanks v s) = g a s)
    (hg : ∀ a u, Takes v look (g a) u) :
    Takes v look (fun s => (f s).bind fun x => g x.1 x.2) s := by
  intro b r h
  obtain ⟨⟨a, r'⟩, ha, hb⟩ := bind_eq_ok.mp h
  obtain ⟨p, u, k, rfl, hk, rfl, hp⟩ := hf a r' ha
  have hskip : ∀ s, g a (skipBlanks k s) = g a s := fun s => by
    rw [← hblank a s, ← hblank a (skipBlanks k s), skipBlanks_skipBlanks hk]
  simp only [hskip] at hb
  obtain ⟨q, u', k', rfl, hk', hr, hq⟩ := hg a u b r hb
  exact ⟨p ++ q, u', k', by simp, hk', hr, fun t ht => by
    simp [hp _ trivial, hskip, hq t ht, Except.bind]⟩

end Regular
end Verbal
