import Mathlib.Data.List.Chain
import Verbal.Unicode.CharSet

/-!
# Characters that are the same but for case

The runs of the case folding lie one behind the other, and none of them moves what anything is moved
to. So folding twice is folding once, and the variants of a character are just the characters that
fold like it.

* **`mem_caseVariants_iff`** and **`caseVariants_congr`**: characters are the same but for case iff
  each is a variant of the other, and then they have the same variants.
* `eq_of_sameFold`: a character in front of the letters is the same as nothing but itself.
* `RangeTree.IsFolded`: whether a table keeps variants together. Those of the word characters, the
  digits and the blanks do.
-/

namespace Verbal.Unicode

/-! ## Runs -/

/-- Whether all numbers between two are code points of characters. -/
def AreChars (lo hi : Nat) : Prop := hi < 0xD800 ∨ 0xDFFF < lo ∧ hi < 0x110000

instance (lo hi : Nat) : Decidable (AreChars lo hi) := inferInstanceAs (Decidable (_ ∨ _))

theorem toNat_ofNat_of_areChars {lo hi c : Nat} (h : AreChars lo hi) (hlo : lo ≤ c) (hhi : c ≤ hi) :
    (Char.ofNat c).toNat = c := by
  have hvalid : c.isValidChar := by
    unfold AreChars at h
    unfold Nat.isValidChar
    omega
  rw [Char.ofNat, dif_pos hvalid]
  rfl

namespace FoldRun

/-- Where a run moves a code point. -/
def target (r : FoldRun) (c : Nat) : Nat := (c + r.shift).toNat

/-- The code points that a run moves. -/
def sources (r : FoldRun) : List Nat :=
  (List.range ((r.last - r.first) / r.step + 1)).map (r.first + r.step * ·)

/-- Whether a run moves characters to characters, none of them in front of the letters. -/
def IsSound (r : FoldRun) : Prop :=
  'A'.toNat ≤ r.first ∧ 'A'.toNat ≤ r.target r.first ∧ AreChars r.first r.last ∧
    AreChars (r.target r.first) (r.target r.last)

instance (r : FoldRun) : Decidable r.IsSound := inferInstanceAs (Decidable (_ ∧ _))

variable {r : FoldRun} {c d : Nat}

theorem covers_iff : r.covers c = true ↔
    r.first ≤ c ∧ c ≤ r.last ∧ (c - r.first) % r.step = 0 := by
  simp [covers, and_assoc]

theorem mem_sources (h : r.covers c = true) : c ∈ r.sources := by
  obtain ⟨hfirst, hlast, hmod⟩ := covers_iff.mp h
  have hdiv := Nat.div_add_mod (c - r.first) r.step
  have hle : (c - r.first) / r.step ≤ (r.last - r.first) / r.step :=
    Nat.div_le_div_right (Nat.sub_le_sub_right hlast _)
  refine List.mem_map.mpr ⟨(c - r.first) / r.step, List.mem_range.mpr (Nat.lt_succ_of_le hle), ?_⟩
  omega

theorem target_bounds (h : r.covers c = true) :
    r.target r.first ≤ r.target c ∧ r.target c ≤ r.target r.last := by
  obtain ⟨hfirst, hlast, -⟩ := covers_iff.mp h
  unfold target
  omega

/-- What a run moves to a code point is found there. -/
theorem source?_eq_some (hr : r.IsSound) : r.source? d = some c ↔
    r.covers c = true ∧ r.target c = d := by
  obtain ⟨hfirst, htarget, -⟩ := hr
  have hpos : 0 < 'A'.toNat := by decide
  unfold source?
  dsimp only
  constructor
  · intro h
    split at h
    · rename_i hcovers
      cases h
      refine ⟨hcovers, ?_⟩
      have hle := (covers_iff.mp hcovers).1
      unfold target
      omega
    · cases h
  · rintro ⟨hcovers, rfl⟩
    have hle := (target_bounds hcovers).1
    have hsource : ((r.target c : Int) - r.shift).toNat = c := by
      unfold target at hle htarget ⊢
      omega
    rw [hsource, if_pos hcovers]

end FoldRun

/-- Whether a run ends in front of another one. -/
def FoldRun.Before (r r' : FoldRun) : Prop := r.first ≤ r.last ∧ r.last < r'.first

instance (r r' : FoldRun) : Decidable (r.Before r') := inferInstanceAs (Decidable (_ ∧ _))

instance : Trans FoldRun.Before FoldRun.Before FoldRun.Before where
  trans h h' := ⟨h.1, Nat.lt_trans h.2 (Nat.lt_of_le_of_lt h'.1 h'.2)⟩

theorem isSound_of_mem : ∀ r ∈ foldRuns, r.IsSound := by decide +kernel

/-- The runs lie one behind the other. -/
theorem foldRuns_pairwise : foldRuns.Pairwise FoldRun.Before :=
  List.isChain_iff_pairwise.mp (by decide +kernel)

/-! ## Folding -/

section Folding

variable {r : FoldRun} {n : Nat}

theorem foldNat_of_covers (hr : r ∈ foldRuns) (h : r.covers n = true) :
    foldNat n = r.target n := by
  obtain ⟨before, behind, hruns⟩ := List.append_of_mem hr
  have hfind : foldRuns.find? (·.covers n) = some r := by
    refine List.find?_eq_some_iff_append.mpr ⟨h, before, behind, hruns, fun r' hr' => ?_⟩
    have hpairwise := hruns ▸ foldRuns_pairwise
    have hbefore := (List.pairwise_append.mp hpairwise).2.2 r' hr' r (List.mem_cons_self ..)
    have hfirst := (FoldRun.covers_iff.mp h).1
    rw [Bool.not_eq_true', Bool.eq_false_iff]
    intro hcovers
    have hlast := (FoldRun.covers_iff.mp hcovers).2.1
    exact absurd hbefore.2 (by omega)
  rw [foldNat, hfind]
  rfl

/-- A code point is moved by a run, or folds to itself. -/
theorem foldNat_cases (n : Nat) :
    (∃ r ∈ foldRuns, r.covers n = true ∧ foldNat n = r.target n) ∨ foldNat n = n := by
  cases hfind : foldRuns.find? (·.covers n) with
  | some r =>
    have hr := List.mem_of_find?_eq_some hfind
    have hcovers : r.covers n = true := List.find?_some (p := (FoldRun.covers · n)) hfind
    exact Or.inl ⟨r, hr, hcovers, foldNat_of_covers hr hcovers⟩
  | none => exact Or.inr (by rw [foldNat, hfind])

/-- What is moved, and where to. -/
def moved : List (Nat × Nat) := foldRuns.flatMap fun r => r.sources.map fun n => (n, r.target n)

theorem mem_moved_or (n : Nat) : (n, foldNat n) ∈ moved ∨ foldNat n = n := by
  refine (foldNat_cases n).imp_left fun ⟨r, hr, hcovers, htarget⟩ => ?_
  exact List.mem_flatMap.mpr
    ⟨r, hr, List.mem_map.mpr ⟨n, FoldRun.mem_sources hcovers, by rw [htarget]⟩⟩

/-! ### What is moved stays -/

/-- The number whose bits tell which numbers are listed. -/
def bits (ns : List Nat) : Nat := ns.foldr (fun n b => b ||| 1 <<< n) 0

theorem testBit_bits {ns : List Nat} (h : n ∈ ns) : (bits ns).testBit n = true := by
  induction ns with
  | nil => cases h
  | cons m ns ih =>
    rw [bits, List.foldr_cons, ← bits, Nat.testBit_or]
    rcases List.mem_cons.mp h with rfl | h
    · simp
    · simp [ih h]

/-- **Folding twice is folding once.** -/
theorem foldNat_foldNat (n : Nat) : foldNat (foldNat n) = foldNat n := by
  have hstays : ∀ x ∈ moved, (bits (moved.map Prod.fst)).testBit x.2 = false := by decide +kernel
  rcases mem_moved_or n with h | h
  · rcases mem_moved_or (foldNat n) with h' | h'
    · have hbit := testBit_bits (List.mem_map_of_mem (f := Prod.fst) h')
      rw [hstays _ h] at hbit
      cases hbit
    · exact h'
  · rw [h, h]

theorem toNat_foldNat (c : Char) : (Char.ofNat (foldNat c.toNat)).toNat = foldNat c.toNat := by
  rcases foldNat_cases c.toNat with ⟨r, hr, hcovers, htarget⟩ | h
  · obtain ⟨-, -, -, hchars⟩ := isSound_of_mem r hr
    obtain ⟨hlo, hhi⟩ := FoldRun.target_bounds hcovers
    rw [htarget]
    exact toNat_ofNat_of_areChars hchars hlo hhi
  · rw [h, Char.ofNat_toNat]

end Folding

/-! ## Variants -/

section Variants

variable {c d : Char}

theorem sameFold_iff : sameFold c d = true ↔ foldNat c.toNat = foldNat d.toNat := by
  rw [sameFold, beq_iff_eq, simpleFold, simpleFold]
  refine ⟨fun h => ?_, congrArg Char.ofNat⟩
  rw [← toNat_foldNat, h, toNat_foldNat]

theorem sameFold_symm (h : sameFold c d = true) : sameFold d c = true :=
  sameFold_iff.mpr (sameFold_iff.mp h).symm

/-- Characters that fold alike have the same variants. -/
theorem caseVariants_congr (h : sameFold c d = true) : caseVariants c = caseVariants d := by
  unfold caseVariants
  rw [sameFold_iff.mp h]

/-- **The variants of a character are the characters that fold like it.** -/
theorem mem_caseVariants_iff : d ∈ caseVariants c ↔ sameFold c d = true := by
  rw [sameFold_iff, caseVariants, List.mem_cons, List.mem_map]
  constructor
  · rintro (rfl | ⟨n, hn, rfl⟩)
    · rw [toNat_foldNat, foldNat_foldNat]
    · obtain ⟨r, hr, hsource⟩ := List.mem_filterMap.mp hn
      obtain ⟨hcovers, htarget⟩ := (FoldRun.source?_eq_some (isSound_of_mem r hr)).mp hsource
      obtain ⟨hlo, hhi, -⟩ := FoldRun.covers_iff.mp hcovers
      obtain ⟨-, -, hchars, -⟩ := isSound_of_mem r hr
      rw [toNat_ofNat_of_areChars hchars hlo hhi, foldNat_of_covers hr hcovers, htarget]
  · intro h
    rcases foldNat_cases d.toNat with ⟨r, hr, hcovers, htarget⟩ | hd
    · refine Or.inr ⟨d.toNat, List.mem_filterMap.mpr ⟨r, hr, ?_⟩, Char.ofNat_toNat d⟩
      exact (FoldRun.source?_eq_some (isSound_of_mem r hr)).mpr ⟨hcovers, htarget.symm.trans h.symm⟩
    · exact Or.inl (by rw [h, hd, Char.ofNat_toNat])

/-- A character in front of the letters is the same as nothing but itself. -/
theorem eq_of_sameFold (hd : d.toNat < 'A'.toNat) (h : sameFold c d = true) : c = d := by
  -- whatever is moved comes from the letters or what is behind them, and goes there
  have hstays (n : Nat) (hn : foldNat n < 'A'.toNat ∨ n < 'A'.toNat) : foldNat n = n := by
    rcases foldNat_cases n with ⟨r, hr, hcovers, htarget⟩ | h
    · obtain ⟨hfirst, hlowest, -⟩ := isSound_of_mem r hr
      have hle := (FoldRun.covers_iff.mp hcovers).1
      have hle' := (FoldRun.target_bounds hcovers).1
      omega
    · exact h
  have heq := sameFold_iff.mp h
  rw [hstays d.toNat (Or.inr hd)] at heq
  rw [hstays c.toNat (Or.inl (by omega))] at heq
  exact Char.toNat_inj.mp heq

theorem eq_iff_of_sameFold {e : Char} (he : e.toNat < 'A'.toNat) (h : sameFold c d = true) :
    c = e ↔ d = e := by
  constructor
  · rintro rfl
    exact eq_of_sameFold he (sameFold_symm h)
  · rintro rfl
    exact eq_of_sameFold he h

end Variants

/-! ## Tables -/

namespace RangeTree

variable {t : RangeTree} {n : Nat} {c d : Char}

/-- Whether a table has a code point iff it has the one that this folds to. -/
def IsFolded (t : RangeTree) : Prop := ∀ n, t.contains (foldNat n) = t.contains n

theorem IsFolded.contains_eq (h : t.IsFolded) (hcd : sameFold c d = true) :
    t.contains c.toNat = t.contains d.toNat := by
  rw [← h c.toNat, sameFold_iff.mp hcd, h d.toNat]

/-- What a table tells of all code points between two, if it tells the same of them. -/
def all? (lo hi : Nat) : RangeTree → Option Bool
  | empty => some false
  | node left first last right =>
    if hi < first then left.all? lo hi
    else if first ≤ lo ∧ last < lo then right.all? lo hi
    else if first ≤ lo ∧ hi ≤ last then some true
    else none

theorem contains_of_all? {lo hi : Nat} {b : Bool} (h : t.all? lo hi = some b) (hlo : lo ≤ n)
    (hhi : n ≤ hi) : t.contains n = b := by
  induction t with
  | empty => exact Option.some.inj h
  | node left first last right ihl ihr =>
    unfold all? at h
    unfold contains
    split at h
    · rw [if_pos (by omega)]
      exact ihl h
    · split at h
      · rw [if_neg (by omega), if_pos (by omega)]
        exact ihr h
      · split at h
        · rw [if_neg (by omega), if_neg (by omega)]
          exact Option.some.inj h
        · cases h

/-- A table that tells the same of all that a run covers and of all that lies where it leads, or of
each code point and where that is moved. -/
theorem isFolded_of_runs
    (h : ∀ r ∈ foldRuns, (t.all? r.first r.last).isSome = true ∧
      t.all? (r.target r.first) (r.target r.last) = t.all? r.first r.last ∨
        ∀ n ∈ r.sources, t.contains (r.target n) = t.contains n) : t.IsFolded := by
  intro n
  rcases foldNat_cases n with ⟨r, hr, hcovers, htarget⟩ | hn
  · rw [htarget]
    rcases h r hr with ⟨hsome, heq⟩ | hsources
    · obtain ⟨b, hb⟩ := Option.isSome_iff_exists.mp hsome
      obtain ⟨hfirst, hlast, -⟩ := FoldRun.covers_iff.mp hcovers
      obtain ⟨hlo, hhi⟩ := FoldRun.target_bounds hcovers
      rw [contains_of_all? hb hfirst hlast, contains_of_all? (heq.trans hb) hlo hhi]
    · exact hsources n (FoldRun.mem_sources hcovers)
  · rw [hn]

end RangeTree

theorem isFolded_wordTree : wordTree.IsFolded := RangeTree.isFolded_of_runs (by decide +kernel)

theorem isFolded_decimalTree : decimalTree.IsFolded :=
  RangeTree.isFolded_of_runs (by decide +kernel)

theorem isFolded_spaceTree : spaceTree.IsFolded := RangeTree.isFolded_of_runs (by decide +kernel)

end Verbal.Unicode
