import Verbal.Proofs.Extended.Passages
import Verbal.Proofs.Listings

/-!
# Listing occurrences

What a plan finds may depend on what follows it, but if every passage of it has the same length, its
matches can be told by a scan that knows nothing of plans: it goes through the text from left to
right and, behind each occurrence, goes on where that one ends.

* `occurrences`, `replaceOccurrences`: the scan, and what it makes of the text.
* `splice_occurrences`: splicing at the occurrences is the second one.
* **`Extended.Plan.Reads.listMatches_occurrences`**: so is listing the matches of a plan that leaves
  no marks the first one.
-/

namespace Verbal

/-! ## Occurrences -/

/-- The places of the occurrences in a text that begins at a place, from left to right and apart:
there is one where `stands` holds of the rest, and it takes `size` characters. The first `skipped`
characters belong to one already. -/
def occurrences (stands : List Char → Bool) (size place skipped : Nat) : List Char → List Nat
  | [] => []
  | c :: text =>
    if skipped ≠ 0 then occurrences stands size (place + 1) (skipped - 1) text
    else if stands (c :: text) then place :: occurrences stands size (place + 1) (size - 1) text
    else occurrences stands size (place + 1) 0 text

/-- The text with something else in the place of each of these occurrences. -/
def replaceOccurrences (stands : List Char → Bool) (size : Nat) (replacement : List Char)
    (skipped : Nat) : List Char → List Char
  | [] => []
  | c :: text =>
    if skipped ≠ 0 then replaceOccurrences stands size replacement (skipped - 1) text
    else if stands (c :: text) then
      replacement ++ replaceOccurrences stands size replacement (size - 1) text
    else c :: replaceOccurrences stands size replacement 0 text

/-- The match of an occurrence, in which there are no groups. -/
def matchAt (size place : Nat) : Match := ⟨place, place + size, []⟩

/-- Whether an occurrence takes some characters, and there is none where there are too few. -/
structure Fits (stands : List Char → Bool) (size : Nat) : Prop where
  pos : 0 < size
  le : ∀ text, stands text = true → size ≤ text.length

section Occurrences

variable {stands : List Char → Bool} {size place start p : Nat} {replacement text : List Char}

theorem occurrences_skipped (n : Nat) (text : List Char) :
    occurrences stands size place n text = occurrences stands size (place + n) 0 (text.drop n) := by
  induction text generalizing place n with
  | nil => simp [occurrences]
  | cons c text ih =>
    cases n with
    | zero => rfl
    | succ n =>
      rw [occurrences, if_pos (Nat.succ_ne_zero n), Nat.add_sub_cancel, List.drop_succ_cons, ih,
        Nat.add_assoc, Nat.add_comm 1 n]

theorem replaceOccurrences_skipped (n : Nat) (text : List Char) :
    replaceOccurrences stands size replacement n text =
      replaceOccurrences stands size replacement 0 (text.drop n) := by
  induction text generalizing n with
  | nil => simp [replaceOccurrences]
  | cons c text ih =>
    cases n with
    | zero => rfl
    | succ n =>
      rw [replaceOccurrences, if_pos (Nat.succ_ne_zero n), List.drop_succ_cons, ← ih]
      rfl

theorem Fits.ne_nil (h : Fits stands size) (htext : stands text = true) : text ≠ [] := by
  rintro rfl
  exact absurd (h.le [] htext) (Nat.not_le.mpr h.pos)

/-- At an occurrence, the scan goes on behind it. -/
theorem occurrences_of_stands (h : Fits stands size) (htext : stands (text.drop p) = true) :
    occurrences stands size p 0 (text.drop p) =
      p :: occurrences stands size (p + size) 0 (text.drop (p + size)) := by
  have hpos := h.pos
  have hlt : p < text.length := List.drop_eq_nil_iff.not.mp (h.ne_nil htext) |> Nat.lt_of_not_le
  rw [List.drop_eq_getElem_cons hlt] at htext ⊢
  rw [occurrences, if_neg (not_not_intro rfl), if_pos htext, occurrences_skipped, List.drop_drop,
    show p + 1 + (size - 1) = p + size by omega]

/-- Where there is none, it goes on with the next character. -/
theorem occurrences_succ (hp : p < text.length) (hnone : stands (text.drop p) = false) :
    occurrences stands size p 0 (text.drop p) =
      occurrences stands size (p + 1) 0 (text.drop (p + 1)) := by
  rw [List.drop_eq_getElem_cons hp] at hnone ⊢
  rw [occurrences, if_neg (not_not_intro rfl), hnone, if_neg Bool.false_ne_true]

/-- Up to the next occurrence, nothing is listed. -/
theorem occurrences_walk (hle : place ≤ p) (hp : p ≤ text.length)
    (hnone : ∀ q, place ≤ q → q < p → stands (text.drop q) = false) :
    occurrences stands size place 0 (text.drop place) =
      occurrences stands size p 0 (text.drop p) := by
  induction p, hle using Nat.le_induction with
  | base => rfl
  | succ p hle ih =>
    rw [ih (Nat.le_of_succ_le hp) fun q hq hqp => hnone q hq (Nat.lt_succ_of_lt hqp)]
    exact occurrences_succ hp (hnone p hle (Nat.lt_succ_self p))

theorem occurrences_eq_nil
    (hnone : ∀ q, place ≤ q → q ≤ text.length → stands (text.drop q) = false) :
    occurrences stands size place 0 (text.drop place) = [] := by
  rcases Nat.le_total place text.length with hle | hge
  · rw [occurrences_walk hle (Nat.le_refl _) fun q hq hlt => hnone q hq (Nat.le_of_lt hlt),
      List.drop_length]
    rfl
  · rw [List.drop_of_length_le hge]
    rfl

/-- **Splicing at the occurrences** is the scan that replaces them. What was copied up to `start` is
behind; from there on, the text is copied up to the place that the scan has come to. -/
theorem splice_occurrences (h : Fits stands size) (replacement : List Char) (hstart : start ≤ place)
    (hplace : place ≤ text.length) :
    splice text (fun _ => replacement) start
        ((occurrences stands size place 0 (text.drop place)).map (matchAt size)) =
      slice text start place ++ replaceOccurrences stands size replacement 0 (text.drop place) := by
  -- by what is left of the text; behind an occurrence, nothing has been copied yet
  induction hleft : text.length - place using Nat.strong_induction_on generalizing place start with
  | _ left ih =>
    rcases Nat.eq_or_lt_of_le hplace with rfl | hlt
    · rw [List.drop_length, slice_beyond (Nat.le_refl _)]
      simp [occurrences, replaceOccurrences, splice]
    · have hdrop := List.drop_eq_getElem_cons hlt
      cases hstands : stands (text.drop place) with
      | true =>
        have hpos := h.pos
        have hfit := h.le _ hstands
        rw [List.length_drop] at hfit
        have hrest := ih (text.length - (place + size)) (by omega) (Nat.le_refl (place + size))
          (by omega) rfl
        rw [slice_self, List.nil_append] at hrest
        have hsize : place + 1 + (size - 1) = place + size := by omega
        have hreplace : replaceOccurrences stands size replacement 0 (text.drop place) =
            replacement ++
              replaceOccurrences stands size replacement 0 (text.drop (place + size)) := by
          rw [hdrop] at hstands ⊢
          rw [replaceOccurrences, if_neg (not_not_intro rfl), if_pos hstands,
            replaceOccurrences_skipped, List.drop_drop, hsize]
        rw [occurrences_of_stands h hstands, List.map_cons, splice, matchAt, hrest, hreplace,
          List.append_assoc]
      | false =>
        have hrest := ih (text.length - (place + 1)) (by omega) (Nat.le_succ_of_le hstart) hlt rfl
        have hreplace : replaceOccurrences stands size replacement 0 (text.drop place) =
            text[place] ::
              replaceOccurrences stands size replacement 0 (text.drop (place + 1)) := by
          rw [hdrop] at hstands ⊢
          rw [replaceOccurrences, if_neg (not_not_intro rfl), hstands, if_neg Bool.false_ne_true]
        rw [occurrences_succ hlt hstands, hrest, hreplace, slice_succ hstart hlt,
          List.append_assoc, List.singleton_append]

end Occurrences

/-! ## Listing -/

/-- The passages of that size in front of which the scan finds an occurrence. -/
def Passages.standing (stands : List Char → Bool) (size : Nat) : Passages := fun w v =>
  w.length = size ∧ stands (w ++ v) = true

namespace Extended.Plan

variable {stands : List Char → Bool} {size : Nat} {plan : Plan Part} {text : List Char}
  {names : List (List Char × Nat)}

/-- From a place there is one way at most, and it leads over an occurrence. -/
theorem Reads.way_iff (h : plan.Reads (.standing stands size)) (hfits : Fits stands size)
    {subject : Subject} {p : Nat} (hp : p ≤ subject.text.size) (q : Nat) :
    (∃ x ∈ plan.waysOn subject ⟨p, []⟩, x.place = q) ↔
      stands (subject.text.toList.drop p) = true ∧ q = p + size := by
  have hlength : (subject.text.toList.take p).length = p := by simpa using hp
  have hways := h subject ⟨p, []⟩ (subject.text.toList.take p) (subject.text.toList.drop p)
    (List.take_append_drop p _).symm hlength.symm q
  rw [hways, hlength]
  constructor
  · rintro ⟨w, y, hdrop, rfl, hw, hstands⟩
    exact ⟨hdrop ▸ hstands, by rw [hw]⟩
  · rintro ⟨hstands, rfl⟩
    have htake := List.length_take_of_le (hfits.le _ hstands)
    exact ⟨_, _, (List.take_append_drop size _).symm, by rw [htake], htake,
      by rwa [List.take_append_drop]⟩

theorem Reads.not_stands (h : plan.Reads (.standing stands size)) (hfits : Fits stands size)
    (subject : Subject) {p : Nat} (hp : p ≤ subject.text.size)
    (hnil : plan.waysOn subject ⟨p, []⟩ = []) :
    stands (subject.text.toList.drop p) = false := by
  refine Bool.eq_false_iff.mpr fun hstands => ?_
  obtain ⟨x, hx, -⟩ := (h.way_iff hfits hp _).mpr ⟨hstands, rfl⟩
  exact List.ne_nil_of_mem hx hnil

variable {origin : Nat} {contiguous : Bool}

/-- A search finds the first occurrence from where it begins. -/
theorem Reads.first_occurrence (h : plan.Reads (.standing stands size))
    (hmarks : ∀ subject, Leads State.SameMarks (plan.waysOn subject)) (hfits : Fits stands size)
    {m : Match}
    (hfound : (Program.tabulated plan text).search ⟨text.toArray, origin, contiguous⟩ = .found m) :
    ∃ p, m = matchAt size p ∧ origin ≤ p ∧ p ≤ text.length ∧ stands (text.drop p) = true ∧
      ∀ q, origin ≤ q → q < p → stands (text.drop q) = false := by
  obtain ⟨p, hle, hp, hbefore, st, hst, rfl⟩ := first_of_search hfound
  have hmem := List.mem_of_mem_head? (Option.mem_def.mpr hst)
  obtain ⟨hstands, hplace⟩ := (h.way_iff hfits hp st.place).mp ⟨st, hmem, rfl⟩
  obtain ⟨place, marks⟩ := st
  obtain rfl : marks = [] := hmarks _ _ _ hmem
  obtain rfl : place = p + size := hplace
  exact ⟨p, rfl, hle, by simpa using hp, hstands,
    fun q hq hqp => h.not_stands hfits _ (Nat.le_trans (Nat.le_of_lt hqp) hp) (hbefore q hq hqp)⟩

/-- It finds nothing only if there is none. -/
theorem Reads.no_occurrence (h : plan.Reads (.standing stands size)) (hfits : Fits stands size)
    (habsent : (Program.tabulated plan text).search ⟨text.toArray, origin, contiguous⟩ = .absent) :
    ∀ q, origin ≤ q → q ≤ text.length → stands (text.drop q) = false := fun q hq hle =>
  h.not_stands hfits ⟨text.toArray, origin, contiguous⟩ hle
    (ways_of_search_absent habsent q hq hle)

/-- **What is listed are the occurrences**: each search begins where the occurrence before it
ends, whatever was looked at behind that. -/
theorem Reads.listMatches_occurrences (h : plan.Reads (.standing stands size))
    (hmarks : ∀ subject, Leads State.SameMarks (plan.waysOn subject)) (hfits : Fits stands size)
    {strict : Bool} {fuel resume : Nat} {last : Option Nat} {ms : List Match}
    (hfuel : text.length < fuel + resume) (hresume : resume ≤ text.length)
    (hlist : (Program.tabulated plan text).listMatches text.toArray strict fuel resume last =
      some ms) :
    ms = (occurrences stands size resume 0 (text.drop resume)).map (matchAt size) := by
  induction fuel generalizing resume last ms with
  | zero => exact absurd hfuel (by omega)
  | succ fuel ih =>
    unfold Plan.listMatches at hlist
    rw [if_neg (Nat.not_lt.mpr (by simpa using hresume))] at hlist
    split at hlist
    · cases hlist
    · rename_i habsent
      cases hlist
      rw [occurrences_eq_nil (h.no_occurrence hfits habsent)]
      rfl
    · rename_i m hfound
      obtain ⟨p, rfl, hle, hp, hstands, hbefore⟩ := h.first_occurrence hmarks hfits hfound
      have hpos := hfits.pos
      have hfit := hfits.le _ hstands
      rw [List.length_drop] at hfit
      have hne : ¬(matchAt size p).start = (matchAt size p).stop :=
        Nat.ne_of_lt (Nat.lt_add_of_pos_right hpos)
      rw [if_neg hne] at hlist
      obtain ⟨ms', hms', rfl⟩ := Option.map_eq_some_iff.mp hlist
      have hrest : ms' = (occurrences stands size (p + size) 0 (text.drop (p + size))).map
          (matchAt size) := ih (by omega) (by omega) hms'
      rw [occurrences_walk hle hp hbefore, occurrences_of_stands hfits hstands, List.map_cons,
        hrest]

/-- A program lists the occurrences in a text, unless a search gives up. -/
theorem Reads.findAll_occurrences (h : plan.Reads (.standing stands size))
    (hmarks : ∀ subject, Leads State.SameMarks (plan.waysOn subject)) (hfits : Fits stands size)
    {strict : Bool} {ms : List Match}
    (hlist : (Program.mk (.hard plan) names).findAll strict text = some ms) :
    ms = (occurrences stands size 0 0 text).map (matchAt size) :=
  h.listMatches_occurrences hmarks hfits (by omega) (Nat.zero_le _) hlist

end Extended.Plan

end Verbal
