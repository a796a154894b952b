import Mathlib.Data.List.Induction
import Verbal.Modifier

/-!
# A set of modifiers is what was last said of each

A set of modifiers is made of a list and changed any number of times. What it holds in the end is up
to the last word on each modifier alone. The same history can be carried out on a byte in which
every modifier has a bit; the byte then has the bits of the modifiers in the set and no others.

* `History`: what a set was made of and how it was changed; `last?` is its last word on a modifier.
* `bits_insert`, `bits_erase`: to set or clear a modifier is to set or clear its bit.
* **`result_history`**: what a history leaves behind, in the set, in the byte, and in what is shown.
-/

namespace Verbal

namespace Modifier

/-- The bit of a modifier. -/
def bit : Modifier → UInt8
  | global => 1
  | multiline => 2
  | anyCase => 4

/-- The byte in which the bits of the modifiers listed are set. -/
def bitsOf (ms : List Modifier) : UInt8 := ms.foldl (fun bits m => bits ||| m.bit) 0

end Modifier

namespace Modifiers

/-! ## Sets -/

section Sets

variable {s t : Modifiers}

/-- A set is no more than the modifiers that it contains. -/
theorem eq_iff_contains : s = t ↔ ∀ m, s.contains m = t.contains m := by
  refine ⟨fun h m => h ▸ rfl, fun h => ?_⟩
  obtain ⟨g, m, i⟩ := s
  obtain ⟨g', m', i'⟩ := t
  exact Modifiers.mk.injEq .. ▸ ⟨h .global, h .multiline, h .anyCase⟩

theorem mem_toList {m : Modifier} : m ∈ s.toList ↔ s.contains m = true := by
  have hall : m ∈ Modifier.all := by cases m <;> decide
  rw [toList, List.mem_filter, and_iff_right hall]

theorem nodup_toList : s.toList.Nodup :=
  List.Pairwise.filter _ (by decide : Modifier.all.Nodup)

theorem count_toList (m : Modifier) : s.toList.count m = if s.contains m then 1 else 0 := by
  rw [nodup_toList.count]
  simp only [mem_toList]

theorem ofList_toList (s : Modifiers) : ofList s.toList = s := by
  obtain ⟨g, m, i⟩ := s
  cases g <;> cases m <;> cases i <;> rfl

/-- The letters by which a set is shown name the modifiers in it. -/
theorem ofLetters_display (s : Modifiers) : ofLetters s.display.toList = s := by
  have hletters : (s.toList.map Modifier.toChar).filterMap Modifier.ofChar? = s.toList := by
    rw [List.filterMap_map, show Modifier.ofChar? ∘ Modifier.toChar = some from
      funext Modifier.ofChar?_toChar, List.filterMap_some]
  rw [ofLetters, display, String.toList_ofList, hletters, ofList_toList]

theorem eq_iff_display : s = t ↔ s.display = t.display :=
  ⟨fun h => h ▸ rfl, fun h => by rw [← ofLetters_display s, h, ofLetters_display]⟩

theorem isEmpty_iff : s.isEmpty = true ↔ s.toList = [] := by
  obtain ⟨g, m, i⟩ := s
  cases g <;> cases m <;> cases i <;> decide

end Sets

/-! ## Bits -/

/-- The byte of a set. -/
def bits (s : Modifiers) : UInt8 := Modifier.bitsOf s.toList

section Bits

variable (s : Modifiers) (m : Modifier)

theorem bits_insert : (s.insert m).bits = s.bits ||| m.bit := by
  obtain ⟨g, l, i⟩ := s
  cases g <;> cases l <;> cases i <;> cases m <;> decide

theorem bits_erase : (s.erase m).bits = s.bits &&& ~~~m.bit := by
  obtain ⟨g, l, i⟩ := s
  cases g <;> cases l <;> cases i <;> cases m <;> decide

theorem contains_eq_bits : s.contains m = (s.bits &&& m.bit != 0) := by
  obtain ⟨g, l, i⟩ := s
  cases g <;> cases l <;> cases i <;> cases m <;> decide

/-- No bit is set but those of modifiers. -/
theorem bits_spare : s.bits &&& ~~~Modifier.bitsOf Modifier.all = 0 := by
  obtain ⟨g, l, i⟩ := s
  cases g <;> cases l <;> cases i <;> decide

theorem isEmpty_eq_bits : s.isEmpty = (s.bits == 0) := by
  obtain ⟨g, l, i⟩ := s
  cases g <;> cases l <;> cases i <;> decide

end Bits

theorem bits_ofList (ms : List Modifier) : (ofList ms).bits = Modifier.bitsOf ms :=
  (List.foldl_hom bits fun s m => (bits_insert s m).symm).symm

theorem eq_iff_bits {s t : Modifiers} : s = t ↔ s.bits = t.bits := by
  refine ⟨fun h => h ▸ rfl, fun h => eq_iff_contains.mpr fun m => ?_⟩
  rw [contains_eq_bits, contains_eq_bits, h]

/-! ## Histories -/

/-- A change of a set. -/
inductive Change where
  | insert (m : Modifier)
  | erase (m : Modifier)
  | set (m : Modifier) (enable : Bool)
  deriving Repr, DecidableEq

namespace Change

/-- The set after a change. -/
def apply (s : Modifiers) : Change → Modifiers
  | insert m => s.insert m
  | erase m => s.erase m
  | set m enable => s.set m enable

/-- The byte after a change. -/
def applyBits (bits : UInt8) : Change → UInt8
  | insert m => bits ||| m.bit
  | erase m => bits &&& ~~~m.bit
  | set m enable => if enable then bits ||| m.bit else bits &&& ~~~m.bit

/-- The modifier that a change is about, and whether it enables it. -/
def setting : Change → Modifier × Bool
  | insert m => (m, true)
  | erase m => (m, false)
  | set m enable => (m, enable)

theorem apply_eq_set (s : Modifiers) (c : Change) : c.apply s = s.set c.setting.1 c.setting.2 := by
  cases c <;> rfl

theorem bits_apply (s : Modifiers) (c : Change) : (c.apply s).bits = c.applyBits s.bits := by
  cases c with
  | insert m => exact bits_insert s m
  | erase m => exact bits_erase s m
  | set m enable =>
    cases enable with
    | true => exact bits_insert s m
    | false => exact bits_erase s m

end Change

/-- How a set came about: the modifiers that it was made of, and its changes since. -/
structure History where
  listed : List Modifier
  changes : List Change
  deriving Repr, DecidableEq

namespace History

/-- The set that a history leaves behind. -/
def result (h : History) : Modifiers := h.changes.foldl Change.apply (ofList h.listed)

/-- The byte that a history leaves behind if it is carried out bit by bit. -/
def packed (h : History) : UInt8 := h.changes.foldl Change.applyBits (Modifier.bitsOf h.listed)

/-- What a history says of modifiers, in its order. -/
def settings (h : History) : List (Modifier × Bool) :=
  h.listed.map (·, true) ++ h.changes.map Change.setting

/-- Whether the last list entry or change about a modifier enabled it, if there is one. -/
def last? (h : History) (m : Modifier) : Option Bool :=
  (h.settings.filter (·.1 = m)).getLast?.map Prod.snd

/-- A history as far as it is about a modifier. -/
def about (h : History) (m : Modifier) : History :=
  ⟨h.listed.filter (· = m), h.changes.filter (·.setting.1 = m)⟩

section Histories

variable (h : History) (m : Modifier)

/-- A history sets and clears one modifier after the other, whatever each step is called. -/
theorem result_eq : h.result = h.settings.foldl (fun s p => s.set p.1 p.2) empty := by
  rw [settings, List.foldl_append, List.foldl_map, List.foldl_map]
  simp only [← Change.apply_eq_set]
  rfl

/-- **The last word on a modifier decides whether it is set.** -/
theorem contains_result : h.result.contains m = true ↔ h.last? m = some true := by
  rw [result_eq, last?]
  induction h.settings using List.reverseRecOn with
  | nil => cases m <;> decide
  | append_singleton settings p ih =>
    rw [List.foldl_append, List.foldl_cons, List.foldl_nil, contains_set, List.filter_append]
    by_cases hp : p.1 = m
    · simp [hp]
    · simpa [hp] using ih

/-- **The byte is that of the set**, since every change of the set is one of its byte. -/
theorem bits_result : h.result.bits = h.packed := by
  rw [result, packed, ← bits_ofList]
  exact (List.foldl_hom bits fun s c => (c.bits_apply s).symm).symm

theorem last?_about : (h.about m).last? m = h.last? m := by
  simp [last?, about, settings, List.filter_map, List.filter_filter, Function.comp_def]

end Histories

end History

/-- **A set of modifiers is a set, whatever its history.** A modifier is in it iff the last list
entry or change about it enabled it, and what is about other modifiers may be left out. Carried out
on a byte, the history leaves the bits of the set and no others, off which it is read what the set
contains and whether it is empty. Two histories leave the same byte iff they leave the same set, iff
it contains the same modifiers, iff it is shown in the same way. A set is empty iff it lists
nothing; it lists every modifier that it contains once, in the order in which they are shown; and
the letters by which it is shown name the set. -/
theorem result_history (h : History) :
    (∀ m, h.result.contains m = true ↔ h.last? m = some true) ∧
    (∀ m, (h.about m).result.contains m = h.result.contains m) ∧
    (h.result.bits = h.packed ∧ h.packed &&& ~~~Modifier.bitsOf Modifier.all = 0 ∧
      (∀ m, h.result.contains m = (h.packed &&& m.bit != 0)) ∧
      h.result.isEmpty = (h.packed == 0)) ∧
    (∀ h' : History,
      (h.packed = h'.packed ↔ ∀ m, h.result.contains m = h'.result.contains m) ∧
      (h.result = h'.result ↔ ∀ m, h.result.contains m = h'.result.contains m) ∧
      (h.result = h'.result ↔ h.result.display = h'.result.display)) ∧
    (h.result.isEmpty = true ↔ h.result.toList = []) ∧
    (h.result.toList.Sublist [.global, .multiline, .anyCase] ∧
      ∀ m, h.result.toList.count m = if h.result.contains m then 1 else 0) ∧
    ofLetters h.result.display.toList = h.result := by
  refine ⟨h.contains_result, fun m => ?_, ?_, fun h' => ⟨?_, eq_iff_contains, eq_iff_display⟩,
    isEmpty_iff, ⟨List.filter_sublist, count_toList⟩, ofLetters_display _⟩
  · rw [Bool.eq_iff_iff, History.contains_result, History.contains_result, h.last?_about]
  · rw [← h.bits_result]
    exact ⟨rfl, bits_spare _, contains_eq_bits _, isEmpty_eq_bits _⟩
  · rw [← h.bits_result, ← h'.bits_result, ← eq_iff_bits, eq_iff_contains]

/-- To clear what is not set leaves it cleared. -/
example :
    (History.mk [.multiline, .multiline] [.erase .multiline, .erase .multiline]).packed = 0 := by
  decide

end Modifiers

end Verbal
