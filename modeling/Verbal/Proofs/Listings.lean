import Verbal.Backend
import Verbal.Proofs.Regular.Covering
import Verbal.Proofs.Regular.Trails

/-!
# Lists of matches

Matches that are listed follow one another: each lies behind the one before it, and where they touch
the later one reads something. What is told of such a list here does not depend on how it came
about.

* `Follow`: matches that follow one another.
* **`Follow.pairwise_span`**, `Follow.span_bounds`: their spans lie inside the text, between
  characters, in order and apart.
* **`substituted_splice`**: splicing copies what is between the matches and puts something else in
  the place of each.
* **`Regular.follow_listMatches`**: the matches of a regular pattern follow one another.
-/

namespace Verbal

/-! ## Offsets -/

section Offsets

variable {text : List Char} {i j : Nat}

theorem byteOffset_mono (h : i ≤ j) : byteOffset text i ≤ byteOffset text j := by
  unfold byteOffset
  rw [← List.take_append_drop i (text.take j), List.take_take, Nat.min_eq_left h, byteLength_append]
  exact Nat.le_add_right _ _

/-- Every character takes room. -/
theorem byteOffset_lt (h : i < j) (hj : j ≤ text.length) : byteOffset text i < byteOffset text j := by
  have hi : i < text.length := Nat.lt_of_lt_of_le h hj
  have hnext : byteOffset text (i + 1) = byteOffset text i + text[i].utf8Size := by
    unfold byteOffset
    rw [List.take_succ_eq_append_getElem hi, byteLength_append]
    rfl
  have hsize := text[i].utf8Size_pos
  have hle : byteOffset text (i + 1) ≤ byteOffset text j := byteOffset_mono h
  omega

end Offsets

/-! ## Matches that follow one another -/

/-- Whether matches follow one another in a text of that size. The first may begin at `resume`, but
if it is empty not where the match before it ends, which is told by `last`. Behind an empty match,
the next one begins a character later at least. -/
inductive Follow (size : Nat) : Nat → Option Nat → List Match → Prop
  | nil {resume : Nat} {last : Option Nat} : Follow size resume last []
  | cons {resume : Nat} {last : Option Nat} {m : Match} {ms : List Match} : resume ≤ m.start →
    m.start ≤ m.stop → m.stop ≤ size → (m.start = m.stop → last ≠ some m.stop) →
    Follow size (if m.start = m.stop then m.stop + 1 else m.stop) (some m.stop) ms →
    Follow size resume last (m :: ms)

namespace Follow

variable {size resume resume' : Nat} {last : Option Nat} {ms : List Match}

theorem mono (h : Follow size resume last ms) (hle : resume' ≤ resume) :
    Follow size resume' last ms := by
  cases h with
  | nil => exact .nil
  | cons hstart hle' hstop hlast hms => exact .cons (Nat.le_trans hle hstart) hle' hstop hlast hms

/-- Matches that follow begin at the place where they may, and lie inside the text. -/
theorem bounds (h : Follow size resume last ms) :
    ∀ m ∈ ms, resume ≤ m.start ∧ m.start ≤ m.stop ∧ m.stop ≤ size := by
  induction h with
  | nil => nofun
  | @cons resume last m ms hstart hle hstop hlast _ ih =>
    refine List.forall_mem_cons.mpr ⟨⟨hstart, hle, hstop⟩, fun n hn => ?_⟩
    obtain ⟨hbegin, hrest⟩ := ih n hn
    refine ⟨?_, hrest⟩
    split at hbegin <;> omega

/-- An empty match does not stand where the match before it ends. -/
theorem lt_of_empty {stop : Nat} (h : Follow size resume (some stop) ms) (hle : stop ≤ resume) :
    ∀ m ∈ ms, m.start = m.stop → stop < m.start := by
  cases h with
  | nil => nofun
  | @cons _ _ m ms hstart hle' hstop hlast hms =>
    refine List.forall_mem_cons.mpr ⟨fun hempty => ?_, fun n hn _ => ?_⟩
    · have hne : stop ≠ m.stop := fun heq => hlast hempty (congrArg some heq)
      omega
    · have hbegin := (hms.bounds n hn).1
      split at hbegin <;> omega

/-- Matches that follow one another are in order and apart. -/
theorem pairwise (h : Follow size resume last ms) :
    ms.Pairwise fun m n =>
      m.stop ≤ n.start ∧ m.start < n.start ∧ (n.start = n.stop → m.stop < n.start) := by
  induction h with
  | nil => exact .nil
  | @cons resume last m ms hstart hle hstop hlast hms ih =>
    refine List.pairwise_cons.mpr ⟨fun n hn => ?_, ih⟩
    have hbegin := (hms.bounds n hn).1
    have hempty := hms.lt_of_empty (by split <;> omega) n hn
    split at hbegin <;> exact ⟨by omega, by omega, hempty⟩

variable {text : List Char}

/-- **The spans of matches that follow one another** are in order and apart, and none of them is
empty where the one before it ends. -/
theorem pairwise_span (h : Follow text.length resume last ms) :
    (ms.map (·.span text)).Pairwise fun s t =>
      s.2 ≤ t.1 ∧ s.1 < t.1 ∧ (t.1 = t.2 → s.2 < t.1) := by
  rw [List.pairwise_map]
  refine h.pairwise.imp_of_mem fun {m n} hm hn hmn => ?_
  obtain ⟨hle, hlt, hempty⟩ := hmn
  obtain ⟨-, hn', hstop⟩ := h.bounds n hn
  have hstart : n.start ≤ text.length := Nat.le_trans hn' hstop
  refine ⟨byteOffset_mono hle, byteOffset_lt hlt hstart, fun heq => byteOffset_lt (hempty ?_) hstart⟩
  rcases Nat.lt_or_eq_of_le hn' with hlt | heq
  · exact absurd heq (Nat.ne_of_lt (byteOffset_lt hlt hstop))
  · exact heq

/-- They lie between characters of the text. -/
theorem span_bounds (h : Follow text.length resume last ms) :
    ∀ s ∈ ms.map (·.span text), ∃ i j, i ≤ j ∧ j ≤ text.length ∧
      s = (byteOffset text i, byteOffset text j) := by
  refine List.forall_mem_map.mpr fun m hm => ?_
  obtain ⟨-, hle, hstop⟩ := h.bounds m hm
  exact ⟨m.start, m.stop, hle, hstop, rfl⟩

end Follow

/-! ## Splicing -/

/-- Whether a text is another one from a place on, with something else in the place of each match:
what stands between the matches is copied, and so is what follows the last one. -/
inductive Substituted (expand : Match → List Char) :
    Nat → List Char → List Match → List Char → Prop
  | rest {place : Nat} (text : List Char) : Substituted expand place text [] text
  | cons {place : Nat} {between matched rest result : List Char} {m : Match} {ms : List Match} :
    m.start = place + between.length → m.stop = m.start + matched.length →
    Substituted expand m.stop rest ms result →
    Substituted expand place (between ++ matched ++ rest) (m :: ms) (between ++ expand m ++ result)

section Splice

variable {text : List Char} {expand : Match → List Char} {place resume : Nat} {last : Option Nat}
  {ms : List Match}

theorem slice_append_drop {i j : Nat} (h : i ≤ j) : slice text i j ++ text.drop j = text.drop i := by
  have happend := List.take_append_drop (j - i) (text.drop i)
  rwa [List.drop_drop, Nat.add_sub_cancel' h] at happend

theorem length_slice {i j : Nat} (h : j ≤ text.length) : (slice text i j).length = j - i := by
  simp only [slice, List.length_take, List.length_drop]
  omega

theorem slice_self (text : List Char) (i : Nat) : slice text i i = [] := by
  simp [slice]

/-- What is copied up to a place goes on with the character there. -/
theorem slice_succ {i j : Nat} (h : i ≤ j) (hj : j < text.length) :
    slice text i (j + 1) = slice text i j ++ [text[j]] := by
  have hget : (text.drop i)[j - i]? = some text[j] := by
    rw [List.getElem?_drop, Nat.add_sub_cancel' h, List.getElem?_eq_getElem hj]
  rw [slice, slice, Nat.sub_add_comm h, List.take_add_one, hget]
  rfl

theorem slice_beyond {i j : Nat} (h : text.length ≤ j) : slice text i j = text.drop i := by
  rw [slice, List.take_of_length_le]
  rw [List.length_drop]
  omega

/-- **Splicing** puts what `expand` makes of a match in its place, and copies all else. -/
theorem substituted_splice (h : Follow text.length resume last ms) (hle : place ≤ resume) :
    Substituted expand place (text.drop place) ms (splice text expand place ms) := by
  induction h generalizing place with
  | nil => exact .rest _
  | @cons resume last m ms hstart hle' hstop _ _ ih =>
    have hplace : place ≤ m.start := Nat.le_trans hle hstart
    have hrest : Substituted expand m.stop (text.drop m.stop) ms (splice text expand m.stop ms) :=
      ih (by split <;> omega)
    rw [← slice_append_drop hplace, ← slice_append_drop hle', ← List.append_assoc]
    refine .cons ?_ ?_ hrest
    · rw [length_slice (Nat.le_trans hle' hstop)]
      omega
    · rw [length_slice hstop]
      omega

/-- What is put in the place of each match may be the match itself. -/
theorem splice_self (h : Follow text.length resume last ms)
    (hexpand : ∀ m ∈ ms, expand m = slice text m.start m.stop) (hle : place ≤ resume) :
    splice text expand place ms = text.drop place := by
  induction h generalizing place with
  | nil => rfl
  | @cons resume last m ms hstart hle' _ _ _ ih =>
    obtain ⟨hm, hms⟩ := List.forall_mem_cons.mp hexpand
    have hrest : splice text expand m.stop ms = text.drop m.stop := ih hms (by split <;> omega)
    rw [splice, hm, hrest, List.append_assoc, slice_append_drop hle',
      slice_append_drop (Nat.le_trans hle hstart)]

end Splice

/-! ## Regular patterns -/

namespace Regular

variable {size resume place : Nat} {last : Option Nat} {found : List (Option Trail)}

/-- Whether ways that are found at the places from one on go forward and end inside the text. -/
def Onward (size place : Nat) (found : List (Option Trail)) : Prop :=
  ∀ k trail, found[k]?.join = some trail → place + k ≤ trail.stop ∧ trail.stop ≤ size

theorem Onward.tail {t : Option Trail} (h : Onward size place (t :: found)) :
    Onward size (place + 1) found := by
  intro k trail hk
  rw [Nat.add_assoc, Nat.add_comm 1 k]
  exact h (k + 1) trail hk

/-- The ways that are found for an expression do so. -/
theorem onward_found (r : Regex) (text : List Char) :
    Onward text.length 0 ((r.unroll none).found text) := by
  intro k trail h
  have hfound := (found_isSome_iff r text k).mp (by rw [h]; rfl)
  have hspans := spans_of_found h
  rw [Nat.zero_add]
  exact ⟨hspans.le, hspans.le_length hfound.1⟩

/-- **The matches of a regular pattern follow one another.** -/
theorem follow_listMatches (h : Onward size place found) :
    Follow size (max resume place) last (Program.listMatches resume last place found) := by
  induction found generalizing resume place last with
  | nil => exact .nil
  | cons t found ih =>
    have hskip : Follow size (max resume place) last
        (Program.listMatches resume last (place + 1) found) :=
      (ih h.tail).mono (by omega)
    unfold Program.listMatches
    split
    · exact hskip
    · rename_i trail htrail
      split at htrail
      · cases htrail
      · rename_i hresume
        obtain ⟨hle, hstop⟩ := h 0 trail (congrArg Option.join (congrArg some htrail))
        rw [Nat.add_zero] at hle
        split
        · rename_i hempty
          split
          · exact hskip
          · rename_i hlast
            refine .cons (by simp; omega) hle hstop (fun _ => hempty ▸ hlast) ?_
            rw [if_pos hempty.symm, hempty]
            exact (ih h.tail).mono (Nat.le_max_right _ _)
        · rename_i hne
          refine .cons (by simp; omega) hle hstop (fun heq => absurd heq.symm hne) ?_
          rw [if_neg (Ne.symm hne)]
          exact (ih h.tail).mono (Nat.le_max_left _ _)

/-- Nothing is listed iff nothing is found, as long as the first match may be anywhere. -/
theorem listMatches_isEmpty (h : resume ≤ place) :
    (Program.listMatches resume none place found).isEmpty = !found.any Option.isSome := by
  induction found generalizing place with
  | nil => rfl
  | cons t found ih =>
    unfold Program.listMatches
    rw [if_neg (Nat.not_lt.mpr h)]
    cases t with
    | none => exact (ih (by omega)).trans (by simp)
    | some trail =>
      dsimp only
      split <;> simp

end Regular

end Verbal
