import Verbal.CommandLine.Run

/-!
# Texts in a style

A text in a style is the text with fixed sequences put in: one that begins the style in front, one
that ends it behind, and one that begins it again after every end of styles that the text itself
holds. Each of these sequences begins with the escape character and holds no other, so that none
reaches from a text into what is put around it.

* `Adorned` tells that a text differs from another by sequences that were put in.
* `Style.bare` takes all sequences out of a text, and **`Style.bare_apply_append`** says that what
  is left of a text in a style does not show the style.
* `Recolored` is both: what colors make of a text.
-/

namespace Verbal.CommandLine

namespace Style

/-! ## Sequences -/

/-- The character that begins a sequence, and stands nowhere else in one. -/
def escape : Char := '\x1b'

/-- The sequences that a command writes: those that begin a style and the one that ends all. -/
def sequences : List (List Char) :=
  reset :: [bold, dimmed, green, red, yellow, cyan, boldRed].map start

theorem start_mem_sequences (style : Style) : style.start ∈ sequences := by
  cases style <;> decide

theorem reset_mem_sequences : reset ∈ sequences := List.mem_cons_self

theorem exists_of_mem_sequences {s : List Char} (h : s ∈ sequences) :
    ∃ p, s = escape :: p ∧ escape ∉ p := by
  have hall : ∀ s ∈ sequences, s = escape :: s.tail ∧ escape ∉ s.tail := by decide
  exact ⟨s.tail, hall s h⟩

/-- The sequence that a text begins with. -/
def sequence? (text : List Char) : Option (List Char) := sequences.find? (·.isPrefixOf text)

theorem mem_of_sequence? {s text : List Char} (h : sequence? text = some s) :
    s ∈ sequences ∧ s <+: text := by
  have hprefix := List.find?_some h
  exact ⟨List.mem_of_find?_eq_some h, List.isPrefixOf_iff_prefix.mp hprefix⟩

theorem sequence?_eq_none {text : List Char} :
    sequence? text = none ↔ ∀ s ∈ sequences, ¬ s <+: text := by
  simp only [sequence?, List.find?_eq_none, List.isPrefixOf_iff_prefix]

/-- No sequence begins another, so a text begins with one at most. -/
theorem sequence?_append {s : List Char} (h : s ∈ sequences) (text : List Char) :
    sequence? (s ++ text) = some s := by
  have hunique : ∀ s ∈ sequences, ∀ s' ∈ sequences, s <+: s' ∨ s' <+: s → s' = s := by decide
  cases hfind : sequence? (s ++ text) with
  | none => exact absurd (List.prefix_append s text) (sequence?_eq_none.mp hfind s h)
  | some s' =>
    obtain ⟨hs', hprefix⟩ := mem_of_sequence? hfind
    exact congrArg some (hunique s h s' hs'
      (List.prefix_or_prefix_of_prefix (List.prefix_append s text) hprefix))

/-- Every text is made of sequences and of characters at which none begins. -/
theorem text_induction {motive : List Char → Prop} (nil : motive [])
    (sequence : ∀ s ∈ sequences, ∀ text, motive text → motive (s ++ text))
    (char : ∀ c text, sequence? (c :: text) = none → motive text → motive (c :: text))
    (text : List Char) : motive text := by
  induction h : text.length using Nat.strongRecOn generalizing text with
  | ind n ih =>
    cases text with
    | nil => exact nil
    | cons c text =>
      cases hfind : sequence? (c :: text) with
      | none => exact char c text hfind (ih _ (h ▸ Nat.lt_succ_self _) text rfl)
      | some s =>
        obtain ⟨hs, rest, hrest⟩ := mem_of_sequence? hfind
        obtain ⟨p, rfl, -⟩ := exists_of_mem_sequences hs
        have hlt : rest.length < n := by
          rw [← h, ← hrest]
          simp only [List.length_append, List.length_cons]
          omega
        exact hrest ▸ sequence _ hs rest (ih _ hlt rest rfl)

/-! ## Taking sequences out -/

/-- A text without the sequences in it; `skipped` counts the characters that are left out already.
-/
def bare (skipped : Nat) : List Char → List Char
  | [] => []
  | c :: text =>
    if skipped ≠ 0 then bare (skipped - 1) text
    else
      match sequence? (c :: text) with
      | some s => bare (s.length - 1) text
      | none => c :: bare 0 text

theorem bare_skip (n : Nat) (text : List Char) : bare n text = bare 0 (text.drop n) := by
  induction text generalizing n with
  | nil => simp [bare]
  | cons c text ih =>
    cases n with
    | zero => rfl
    | succ n => simpa [bare] using ih n

theorem bare_sequence {s : List Char} (h : s ∈ sequences) (text : List Char) :
    bare 0 (s ++ text) = bare 0 text := by
  have hfind := sequence?_append h text
  obtain ⟨p, rfl, -⟩ := exists_of_mem_sequences h
  rw [List.cons_append] at hfind ⊢
  simp only [bare, hfind]
  simp [bare_skip p.length]

theorem bare_char {c : Char} {text : List Char} (h : sequence? (c :: text) = none) :
    bare 0 (c :: text) = c :: bare 0 text := by
  simp [bare, h]

theorem bare_plain {p : List Char} (h : escape ∉ p) (text : List Char) :
    bare 0 (p ++ text) = p ++ bare 0 text := by
  induction p with
  | nil => rfl
  | cons c p ih =>
    rw [List.mem_cons, not_or] at h
    have hnone : sequence? (c :: (p ++ text)) = none := by
      refine sequence?_eq_none.mpr fun s hs hprefix => ?_
      obtain ⟨q, rfl, -⟩ := exists_of_mem_sequences hs
      exact h.1 (List.cons_prefix_cons.mp hprefix).1
    rw [List.cons_append, bare_char hnone, ih h.2, List.cons_append]

/-- Whether no sequence that begins before a text can reach into it. -/
def Firm (tail : List Char) : Prop :=
  ∀ s ∈ sequences, ∀ c ∈ tail.head?, c ∉ s.tail

theorem firm_newline (tail : List Char) : Firm ('\n' :: tail) := by
  intro s hs c hc
  have hall : ∀ s ∈ sequences, '\n' ∉ s.tail := by decide
  cases hc
  exact hall s hs

theorem firm_space (tail : List Char) : Firm (' ' :: tail) := by
  intro s hs c hc
  have hall : ∀ s ∈ sequences, ' ' ∉ s.tail := by decide
  cases hc
  exact hall s hs

theorem firm_sequence {s : List Char} (h : s ∈ sequences) (tail : List Char) :
    Firm (s ++ tail) := by
  obtain ⟨p, rfl, -⟩ := exists_of_mem_sequences h
  intro s' hs' c hc
  obtain ⟨p', rfl, hp'⟩ := exists_of_mem_sequences hs'
  cases hc
  exact hp'

/-- What stands in front of a firm text is told apart from it. -/
theorem bare_append {tail : List Char} (hfirm : Firm tail) (text : List Char) :
    bare 0 (text ++ tail) = bare 0 text ++ bare 0 tail := by
  induction text using text_induction with
  | nil => rfl
  | sequence s hs text ih => rw [List.append_assoc, bare_sequence hs, bare_sequence hs, ih]
  | char c text hnone ih =>
    have hnone' : sequence? (c :: (text ++ tail)) = none := by
      refine sequence?_eq_none.mpr fun s hs hprefix => ?_
      rcases List.prefix_or_prefix_of_prefix hprefix (List.prefix_append (c :: text) tail) with
        hshort | ⟨rest, rfl⟩
      · exact sequence?_eq_none.mp hnone s hs hshort
      · cases rest with
        | nil => exact sequence?_eq_none.mp hnone _ hs (by simp)
        | cons d rest =>
          obtain ⟨rest', htail⟩ := (List.prefix_append_right_inj (c :: text)).mp hprefix
          exact hfirm _ hs d (by simp [← htail]) (by simp)
    rw [List.cons_append, bare_char hnone', bare_char hnone, ih, List.cons_append]

/-! ## Texts that are resumed -/

section Resume

variable (style : Style)

theorem resume_skip (n : Nat) (text : List Char) :
    style.resume n text = style.resume 0 (text.drop n) := by
  induction text generalizing n with
  | nil => simp [resume]
  | cons c text ih =>
    cases n with
    | zero => rfl
    | succ n => simpa [resume] using ih n

theorem resume_reset (text : List Char) :
    style.resume 0 (reset ++ text) = reset ++ (style.start ++ style.resume 0 text) := by
  have hprefix : reset.isPrefixOf (reset ++ text) = true :=
    List.isPrefixOf_iff_prefix.mpr (List.prefix_append reset text)
  obtain ⟨p, hp, -⟩ := exists_of_mem_sequences reset_mem_sequences
  rw [hp] at hprefix ⊢
  rw [List.cons_append] at hprefix ⊢
  simp only [resume, hp, hprefix]
  simp [resume_skip style p.length]

theorem resume_char {c : Char} {text : List Char} (h : ¬ reset <+: c :: text) :
    style.resume 0 (c :: text) = c :: style.resume 0 text := by
  simp [resume, mt List.isPrefixOf_iff_prefix.mp h]

theorem resume_plain {p : List Char} (h : escape ∉ p) (text : List Char) :
    style.resume 0 (p ++ text) = p ++ style.resume 0 text := by
  induction p with
  | nil => rfl
  | cons c p ih =>
    rw [List.mem_cons, not_or] at h
    have hreset : ¬ reset <+: c :: (p ++ text) := fun hprefix =>
      h.1 (List.cons_prefix_cons.mp hprefix).1
    rw [List.cons_append, resume_char style hreset, ih h.2, List.cons_append]

/-- Other sequences are copied. -/
theorem resume_sequence {s : List Char} (h : s ∈ sequences) (hreset : s ≠ reset)
    (text : List Char) : style.resume 0 (s ++ text) = s ++ style.resume 0 text := by
  have hne : ¬ reset <+: s ++ text := fun hprefix => by
    obtain ⟨rest, hrest⟩ := hprefix
    have hfind := sequence?_append h text
    rw [← hrest, sequence?_append reset_mem_sequences] at hfind
    exact hreset (Option.some.inj hfind).symm
  obtain ⟨p, rfl, hp⟩ := exists_of_mem_sequences h
  rw [List.cons_append] at hne ⊢
  rw [resume_char style hne, resume_plain style hp, List.cons_append]

/-- Nothing is put into a resumed text before its first escape character. -/
theorem prefix_of_prefix_resume {p text : List Char} (hp : escape ∉ p)
    (h : p <+: style.resume 0 text) : p <+: text := by
  induction p generalizing text with
  | nil => exact List.nil_prefix
  | cons c p ih =>
    rw [List.mem_cons, not_or] at hp
    cases text with
    | nil => exact h
    | cons d text =>
      by_cases hreset : reset <+: d :: text
      · obtain ⟨rest, hrest⟩ := hreset
        rw [← hrest, resume_reset] at h
        exact absurd (List.cons_prefix_cons.mp h).1.symm hp.1
      · rw [resume_char style hreset] at h
        obtain ⟨rfl, hrest⟩ := List.cons_prefix_cons.mp h
        exact List.cons_prefix_cons.mpr ⟨rfl, ih hp.2 hrest⟩

theorem bare_resume (text : List Char) : bare 0 (style.resume 0 text) = bare 0 text := by
  induction text using text_induction with
  | nil => rfl
  | sequence s hs text ih =>
    by_cases hreset : s = reset
    · subst hreset
      rw [resume_reset, bare_sequence hs, bare_sequence (start_mem_sequences style), ih,
        bare_sequence hs]
    · rw [resume_sequence style hs hreset, bare_sequence hs, ih, bare_sequence hs]
  | char c text hnone ih =>
    have hnone' : sequence? (c :: style.resume 0 text) = none := by
      refine sequence?_eq_none.mpr fun s hs hprefix => ?_
      obtain ⟨p, rfl, hp⟩ := exists_of_mem_sequences hs
      obtain ⟨rfl, hrest⟩ := List.cons_prefix_cons.mp hprefix
      exact sequence?_eq_none.mp hnone _ hs
        (List.cons_prefix_cons.mpr ⟨rfl, prefix_of_prefix_resume style hp hrest⟩)
    rw [resume_char style (sequence?_eq_none.mp hnone _ reset_mem_sequences), bare_char hnone',
      bare_char hnone, ih]

end Resume

/-- **A style leaves no trace.** What is left of a text in a style, and of what stands behind it, is
the same with colors and without them. -/
theorem bare_apply_append {tail : List Char} (hfirm : Firm tail) (style : Style) (color : Bool)
    (text : String) :
    bare 0 ((style.apply color text).toList ++ tail) = bare 0 text.toList ++ bare 0 tail := by
  cases color with
  | false => exact bare_append hfirm text.toList
  | true =>
    have htoList : (style.apply true text).toList ++ tail =
        style.start ++ (style.resume 0 text.toList ++ (reset ++ tail)) := by
      simp [apply, List.append_assoc]
    rw [htoList, bare_sequence (start_mem_sequences style),
      bare_append (firm_sequence reset_mem_sequences tail), bare_resume,
      bare_sequence reset_mem_sequences]

end Style

/-! ## Adorned texts -/

/-- Whether the second text is the first with sequences put in. -/
inductive Adorned : List Char → List Char → Prop
  | nil : Adorned [] []
  | copied (c : Char) {text adorned : List Char} :
    Adorned text adorned → Adorned (c :: text) (c :: adorned)
  | added {s text adorned : List Char} :
    s ∈ Style.sequences → Adorned text adorned → Adorned text (s ++ adorned)

namespace Adorned

variable {text text' adorned adorned' : List Char}

theorem refl (text : List Char) : Adorned text text := by
  induction text with
  | nil => exact .nil
  | cons c text ih => exact .copied c ih

theorem append (h : Adorned text adorned) (h' : Adorned text' adorned') :
    Adorned (text ++ text') (adorned ++ adorned') := by
  induction h with
  | nil => exact h'
  | copied c _ ih => exact .copied c ih
  | added hs _ ih =>
    rw [List.append_assoc]
    exact .added hs ih

theorem resume (style : Style) (text : List Char) : Adorned text (style.resume 0 text) := by
  induction text using Style.text_induction with
  | nil => exact .nil
  | sequence s hs text ih =>
    by_cases hreset : s = Style.reset
    · subst hreset
      rw [Style.resume_reset]
      exact (refl _).append (.added style.start_mem_sequences ih)
    · rw [Style.resume_sequence style hs hreset]
      exact (refl s).append ih
  | char c text hnone ih =>
    rw [Style.resume_char style (Style.sequence?_eq_none.mp hnone _ Style.reset_mem_sequences)]
    exact .copied c ih

theorem apply (style : Style) (text : String) :
    Adorned (style.apply false text).toList (style.apply true text).toList := by
  have htoList : (style.apply true text).toList =
      style.start ++ (style.resume 0 text.toList ++ Style.reset) := by
    simp [Style.apply]
  have hreset : Adorned [] (Style.reset ++ []) := .added Style.reset_mem_sequences .nil
  have hresumed := (resume style text.toList).append hreset
  rw [List.append_nil, List.append_nil] at hresumed
  rw [htoList]
  exact .added style.start_mem_sequences hresumed

end Adorned

/-- Whether a text is another in colors: sequences were put in, and without sequences, the user's
own included, both read the same. -/
structure Recolored (plain colored : String) : Prop where
  adorned : Adorned plain.toList colored.toList
  bare : Style.bare 0 colored.toList = Style.bare 0 plain.toList

theorem Recolored.refl (text : String) : Recolored text text := ⟨.refl _, rfl⟩

/-- A text in a style, with a firm one behind it. -/
theorem recolored_apply (style : Style) (text : String) {tail : String}
    (hfirm : Style.Firm tail.toList) :
    Recolored (style.apply false text ++ tail) (style.apply true text ++ tail) where
  adorned := by
    rw [String.toList_append, String.toList_append]
    exact (Adorned.apply style text).append (.refl _)
  bare := by
    rw [String.toList_append, String.toList_append, Style.bare_apply_append hfirm,
      Style.bare_apply_append hfirm]

end Verbal.CommandLine
