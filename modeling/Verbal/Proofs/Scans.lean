import Verbal.Proofs.Groups

/-!
# Replacing words is a scan

What is put in the place of the words of an alternation is what a scan puts there that knows nothing
of patterns: it goes through the source from left to right, and wherever the rest begins with one of
the words, it takes the first of them that does.

* `scan`: the scan.
* `splice_listMatches`: if what is found everywhere is the first word there, listing and splicing
  is the scan.
* **`Expression.replace_eq_scan`**: replacing the words by a text with its dollar signs doubled.
-/

namespace Verbal

open Verbal.Regular (Regex Trail)

/-! ## Scans -/

/-- The first of the words that a text begins with. -/
def leading? (words : List (List Char)) (text : List Char) : Option (List Char) :=
  words.find? (·.isPrefixOf text)

/-- Goes through a text from left to right. Where it begins with a word, `replacement` comes in the
place of the first such word; any other character is copied. The first `skipped` characters belong
to a word already. -/
def scan (words : List (List Char)) (replacement : List Char) (skipped : Nat) :
    List Char → List Char
  | [] => []
  | c :: text =>
    if skipped ≠ 0 then scan words replacement (skipped - 1) text
    else
      match leading? words (c :: text) with
      | some word => replacement ++ scan words replacement (word.length - 1) text
      | none => c :: scan words replacement 0 text

section Scan

variable {words : List (List Char)} {replacement : List Char}

theorem scan_skipped (n : Nat) (text : List Char) :
    scan words replacement n text = scan words replacement 0 (text.drop n) := by
  induction text generalizing n with
  | nil => simp [scan]
  | cons c text ih =>
    cases n with
    | zero => rfl
    | succ n => rw [scan, if_pos (Nat.succ_ne_zero n), List.drop_succ_cons, ← ih]; rfl

theorem scan_of_leading {text word : List Char} (h : leading? words text = some word)
    (hword : word ≠ []) :
    scan words replacement 0 text =
      replacement ++ scan words replacement 0 (text.drop word.length) := by
  cases text with
  | nil =>
    have hstarts := List.find?_some h
    exact absurd (List.prefix_nil.mp (List.isPrefixOf_iff_prefix.mp hstarts)) hword
  | cons c text =>
    obtain ⟨d, word, rfl⟩ := List.exists_cons_of_ne_nil hword
    rw [scan, if_neg (not_not_intro rfl), h]
    dsimp only
    rw [scan_skipped, List.length_cons, Nat.add_sub_cancel, List.drop_succ_cons]

theorem scan_of_not_leading {c : Char} {text : List Char} (h : leading? words (c :: text) = none) :
    scan words replacement 0 (c :: text) = c :: scan words replacement 0 text := by
  rw [scan, if_neg (not_not_intro rfl), h]

end Scan

/-! ## Listing and splicing -/

section Splice

variable {words : List (List Char)} {replacement text : List Char}

/-- Whether what is found at the places from one on is the first word that the text goes on with
there, and whether there is nothing else to be found. -/
def FindsWords (words : List (List Char)) (text : List Char) (place : Nat)
    (found : List (Option Trail)) : Prop :=
  place + found.length = text.length + 1 ∧ ∀ k, place + k ≤ text.length →
    found[k]?.join.map Trail.stop =
      (leading? words (text.drop (place + k))).map (place + k + ·.length)

theorem FindsWords.tail {place : Nat} {t : Option Trail} {found : List (Option Trail)}
    (h : FindsWords words text place (t :: found)) : FindsWords words text (place + 1) found := by
  refine ⟨by have := h.1; simp only [List.length_cons] at this; omega, fun k hk => ?_⟩
  have hfound := h.2 (k + 1) (by omega)
  rw [show place + (k + 1) = place + 1 + k by omega] at hfound
  simpa using hfound

/-- **Where the first word is found everywhere, listing and splicing is the scan.** What was copied
up to `start` is behind; from there on, the text is copied up to the place that the scan has come
to. -/
theorem splice_listMatches (hwords : ∀ word ∈ words, word ≠ []) {found : List (Option Trail)}
    {resume place start : Nat} {last : Option Nat} (h : FindsWords words text place found)
    (hstart : start ≤ max place resume) (hresume : resume ≤ text.length) :
    splice text (fun _ => replacement) start
        (Regular.Program.listMatches resume last place found) =
      slice text start (max place resume) ++
        scan words replacement 0 (text.drop (max place resume)) := by
  induction found generalizing resume place start last with
  | nil =>
    have hplace : place = text.length + 1 := h.1
    have hmax : max place resume = text.length + 1 := by omega
    rw [hmax, List.drop_of_length_le (Nat.le_succ _), scan, List.append_nil,
      slice_beyond (Nat.le_succ _)]
    rfl
  | cons t found ih =>
    have hcount := h.1
    rw [List.length_cons] at hcount
    by_cases hskip : place < resume
    · -- inside of the word that was replaced last
      rw [Regular.Program.listMatches, if_pos hskip]
      have hmax : max place resume = max (place + 1) resume := by omega
      rw [hmax] at hstart ⊢
      exact ih h.tail hstart hresume
    · have hmax : max place resume = place := by omega
      have hnext : max (place + 1) resume = place + 1 := by omega
      rw [hmax] at hstart ⊢
      have hhere : t.map Trail.stop =
          (leading? words (text.drop place)).map (place + ·.length) := h.2 0 (by omega)
      rw [Regular.Program.listMatches, if_neg hskip]
      cases hword : leading? words (text.drop place) with
      | none =>
        obtain rfl : t = none := by simpa [hword] using hhere
        refine (ih h.tail (Nat.le_trans hstart (by omega)) hresume).trans ?_
        rw [hnext]
        rcases Nat.lt_or_ge place text.length with hlt | hge
        · have hdrop := List.drop_eq_getElem_cons hlt
          rw [hdrop] at hword ⊢
          rw [scan_of_not_leading hword, slice_succ hstart hlt, List.append_assoc,
            List.singleton_append]
        · rw [List.drop_of_length_le hge, List.drop_of_length_le (by omega),
            slice_beyond (by omega), slice_beyond hge]
      | some word =>
        rw [hword, Option.map_some] at hhere
        obtain ⟨trail, rfl, hstop⟩ := Option.map_eq_some_iff.mp hhere
        have hne : word ≠ [] := hwords word (List.mem_of_find?_eq_some hword)
        have hpos := List.length_pos_iff.mpr hne
        have hstarts : word <+: text.drop place :=
          List.isPrefixOf_iff_prefix.mp (List.find?_eq_some_iff_append.mp hword).1
        have hfit := hstarts.length_le
        rw [List.length_drop] at hfit
        have hbehind : max (place + 1) trail.stop = trail.stop := by omega
        have hrest : splice text (fun _ => replacement) trail.stop
            (Regular.Program.listMatches trail.stop (some trail.stop) (place + 1) found) =
              scan words replacement 0 (text.drop trail.stop) := by
          refine (ih h.tail (Nat.le_max_right _ _) (by omega)).trans ?_
          rw [hbehind, slice_self, List.nil_append]
        dsimp only
        rw [if_neg (by omega), splice, hrest, scan_of_leading hword hne, List.drop_drop, ← hstop,
          List.append_assoc]

end Splice

/-! ## Words -/

section Words

variable {text : List Char} {i j : Nat}

/-- A word matches where the text goes on with it. -/
theorem spans_ofText (word : List Char) (hi : i ≤ text.length) :
    (Regex.ofText false word).Spans text i j ↔
      word <+: text.drop i ∧ j = i + word.length := by
  rw [(Regex.reads_ofText false word).spans_iff hi]
  constructor
  · rintro ⟨w, rest, hdrop, rfl, hw⟩
    obtain rfl := Regex.mem_spelled.mp hw
    exact ⟨⟨rest, hdrop.symm⟩, rfl⟩
  · rintro ⟨⟨rest, hdrop⟩, rfl⟩
    exact ⟨word, rest, hdrop.symm, rfl, Regex.mem_spelled.mpr rfl⟩

variable {word : String} {words : List String}

/-- The chain of words that are looked for as alternatives. -/
def wordVerbs (word : String) (words : List String) : List Verb :=
  .andThen word :: words.map .alt

theorem segments_wordVerbs (word : String) (words : List String) :
    segments (wordVerbs word words) = (word :: words).map fun w => [.andThen w] := by
  have halts (words : List String) :
      segments (words.map .alt) = [] :: words.map fun w => [.andThen w] := by
    induction words with
    | nil => rfl
    | cons w words ih => rw [List.map_cons, segments, ih]; rfl
  rw [wordVerbs, segments_cons rfl, halts]
  rfl

theorem isPlain_wordVerbs (h : ∀ w ∈ word :: words, IsPlainText w) :
    ∀ v ∈ wordVerbs word words, v.IsPlain := by
  obtain ⟨hword, hwords⟩ := List.forall_mem_cons.mp h
  exact List.forall_mem_cons.mpr ⟨hword, List.forall_mem_map.mpr hwords⟩

/-- No word is told of anything but itself. -/
theorem lastWord_wordVerbs {α : Type} {tells : Verb → Option α}
    (hthen : tells (.andThen word) = none) (halt : ∀ w, tells (.alt w) = none) :
    lastWord tells (wordVerbs word words) = none := by
  have hnone : (wordVerbs word words).filterMap tells = [] :=
    List.filterMap_eq_nil_iff.mpr (List.forall_mem_cons.mpr
      ⟨hthen, List.forall_mem_map.mpr fun w _ => halt w⟩)
  rw [lastWord, hnone, List.getLast?_nil]

theorem not_anchored_wordVerbs :
    ¬AnchoredAtStart (wordVerbs word words) ∧ ¬AnchoredAtEnd (wordVerbs word words) := by
  rw [AnchoredAtStart, AnchoredAtEnd, lastWord_wordVerbs rfl fun _ => rfl,
    lastWord_wordVerbs rfl fun _ => rfl]
  exact ⟨nofun, nofun⟩

theorem lastAltAfterAnchors_wordVerbs : LastAltAfterAnchors (wordVerbs word words) := by
  refine AnchorsBeforeAlts.lastAltAfterAnchors (List.pairwise_of_forall_mem_list ?_)
  intro v _ w hw _
  rcases List.mem_cons.mp hw with rfl | hw
  · rfl
  · obtain ⟨w, -, rfl⟩ := List.mem_map.mp hw
    rfl

theorem contains_anyCase_wordVerbs :
    (Expression.ofVerbs (wordVerbs word words)).modifiers.contains .anyCase = false := by
  rw [Expression.contains_ofVerbs, lastWord_wordVerbs rfl fun _ => rfl]
  rfl

/-- By which word a chain of them matches. -/
theorem matchesBy_wordVerbs {k : Nat} (hi : i ≤ text.length) :
    MatchesBy false (wordVerbs word words) text k i j ↔
      ∃ w, (word :: words)[k]? = some w ∧ w.toList <+: text.drop i ∧
        j = i + w.toList.length := by
  obtain ⟨hstart, hstop⟩ := @not_anchored_wordVerbs word words
  constructor
  · rintro ⟨⟨s, hs, hspans⟩, -, -⟩
    rw [segments_wordVerbs, List.getElem?_map] at hs
    obtain ⟨w, hw, rfl⟩ := Option.map_eq_some_iff.mp hs
    exact ⟨w, hw, (spans_ofText w.toList hi).mp hspans⟩
  · rintro ⟨w, hw, hspans⟩
    refine ⟨⟨[.andThen w], ?_, (spans_ofText w.toList hi).mpr hspans⟩,
      fun _ h => absurd h hstart, fun _ h => absurd h hstop⟩
    rw [segments_wordVerbs, List.getElem?_map, hw, Option.map_some]

/-- Something is found at every place, or nothing. -/
theorem length_found (s : Regular.Skeleton (Option Trail)) (text : List Char) :
    (s.found text).length = text.length + 1 := by
  have hfold (cs : List Regular.Cursor) :
      (cs.foldr Regular.Column.back ⟨s, []⟩).found.length = cs.length := by
    induction cs with
    | nil => rfl
    | cons cursor cs ih => exact congrArg (· + 1) ih
  have hcursors (place : Nat) (before : Option Char) :
      (Regular.cursors place before text).length = text.length + 1 := by
    induction text generalizing place before with
    | nil => rfl
    | cons c text ih => exact congrArg (· + 1) (ih _ _)
  rw [Regular.Skeleton.found, hfold, hcursors]

/-- **Of words as alternatives, the first one is found that the text goes on with.** -/
theorem findsWords_chain (word : String) (words : List String) (text : List Char) :
    FindsWords ((word :: words).map String.toList) text 0
      (((chainExpression false (wordVerbs word words)).unroll none).found text) := by
  refine ⟨by rw [length_found, Nat.zero_add], fun i hi => ?_⟩
  rw [Nat.zero_add] at hi ⊢
  cases hfound : (((chainExpression false (wordVerbs word words)).unroll none).found text)[i]?.join
    with
  | none =>
    suffices hnone : leading? ((word :: words).map String.toList) (text.drop i) = none by
      rw [hnone]
      rfl
    refine List.find?_eq_none.mpr fun w hw hstarts => ?_
    obtain ⟨w, hmem, rfl⟩ := List.mem_map.mp hw
    obtain ⟨k, hk⟩ := List.mem_iff_getElem?.mp hmem
    have hmatches := (matchesBy_wordVerbs hi).mpr
      ⟨w, hk, List.isPrefixOf_iff_prefix.mp hstarts, rfl⟩
    have hsome := (Regular.found_isSome_iff _ text i).mpr
      ⟨hi, _, (spans_chainExpression hi).mpr ⟨k, hmatches⟩⟩
    rw [hfound] at hsome
    cases hsome
  | some trail =>
    obtain ⟨k, ⟨hown, hearlier⟩, -⟩ := firstBy_of_found hfound
    obtain ⟨w, hk, hstarts, hstop⟩ := (matchesBy_wordVerbs hi).mp hown
    have hleading : leading? ((word :: words).map String.toList) (text.drop i) = some w.toList := by
      obtain ⟨hlt, hget⟩ := List.getElem?_eq_some_iff.mp hk
      refine List.find?_eq_some_iff_getElem.mpr ⟨List.isPrefixOf_iff_prefix.mpr hstarts, k,
        by rwa [List.length_map], by rw [List.getElem_map, hget], fun k' hk' => ?_⟩
      rw [List.getElem_map, Bool.not_eq_true', Bool.eq_false_iff]
      intro hstarts'
      exact hearlier k' hk' _ ((matchesBy_wordVerbs hi).mpr
        ⟨_, List.getElem?_eq_getElem _, List.isPrefixOf_iff_prefix.mp hstarts', rfl⟩)
    rw [hleading, Option.map_some, Option.map_some, hstop]

end Words

/-! ## Verbatim replacements -/

/-- A replacement that stands for a text: its dollar signs are doubled. -/
def doubled (text : List Char) : List Char := text.flatMap fun c => if c = '$' then ['$', '$'] else [c]

theorem ReferenceRule.pieces_doubled (rule : ReferenceRule) (text : List Char) :
    rule.pieces 0 (doubled text) = text.map .char := by
  induction text with
  | nil => rfl
  | cons c text ih =>
    by_cases hc : c = '$'
    · subst hc
      have hdoubled : doubled ('$' :: text) = '$' :: '$' :: doubled text := rfl
      rw [hdoubled, pieces, if_neg (not_not_intro rfl), if_neg (not_not_intro rfl),
        if_pos List.head?_cons, pieces_skipped, List.drop_one, List.tail_cons, ih, List.map_cons]
    · have hdoubled : doubled (c :: text) = c :: doubled text := by
        simp [doubled, hc]
      rw [hdoubled, pieces, if_neg (not_not_intro rfl), if_pos hc, ih, List.map_cons]

theorem Program.expansion_doubled (program : Program) (source text : List Char) (m : Match) :
    program.expansion source (doubled text) m = text := by
  cases program <;>
    simp only [Program.expansion, ReferenceRule.pieces_doubled, expandPieces_chars]

namespace Expression

variable {word : String} {words : List String}

/-- **Replacing words is a scan.** To replace one of several plain words, given as alternatives, by
a text with its dollar signs doubled is to go through the source from left to right, to put the text
wherever the source goes on with one of the words, the first one in the order of the calls, and to
copy every other character; unless the pattern of the words is too large. -/
theorem replace_eq_scan (hwords : ∀ w ∈ word :: words, IsPlainText w) (backend : Backend)
    (anywhere allLines : Bool) (source replacement : String) :
    ((ofVerbs (wordVerbs word words)).looking anywhere allLines).replace backend source
        (String.ofList (doubled replacement.toList)) =
      if (chainExpression false (wordVerbs word words)).size ≤ Regular.sizeLimit then
        .ok (String.ofList (scan ((word :: words).map String.toList) replacement.toList 0
          source.toList))
      else .error (.invalidPattern (ofVerbs (wordVerbs word words)).pattern backend.tooLarge) := by
  have hcompile := compile_ofVerbs backend (isPlain_wordVerbs hwords)
    lastAltAfterAnchors_wordVerbs contains_anyCase_wordVerbs
  change (ofVerbs (wordVerbs word words)).replace backend source _ = _
  split
  · rename_i hsize
    rw [if_pos hsize] at hcompile
    have hne : ∀ w ∈ (word :: words).map String.toList, w ≠ [] :=
      List.forall_mem_map.mpr fun w hw => by simpa using (hwords w hw).1
    have hvisits := backend.visits_programOf (chainExpression false (wordVerbs word words)) source
    have hexpansion : (backend.programOf (chainExpression false (wordVerbs word words))).expansion
        source.toList (String.ofList (doubled replacement.toList)).toList =
          fun _ => replacement.toList := by
      rw [String.toList_ofList]
      exact funext (Program.expansion_doubled _ _ _)
    rw [replace_eq hcompile, hvisits.replaceAll, hexpansion, matchesOf,
      splice_listMatches hne (findsWords_chain word words source.toList) (Nat.zero_le _)
        (Nat.zero_le _)]
    simp [slice_self]
  · rename_i hsize
    rw [if_neg hsize] at hcompile
    simp only [replace, hcompile, Except.bind]

/-- The first of two words wins although the second one goes further, a match may cross a line end,
and a dollar sign comes out as it is. -/
theorem replace_eq_scan_of_prefix :
    ((ofVerbs [.andThen "a", .alt "ab", .alt "\nb"]).looking false true).replace .extended
      "xab\nb" "$$1" = .ok "x$1b$1" := by
  have h := @replace_eq_scan "a" ["ab", "\nb"] (by decide) .extended false true "xab\nb" "$1"
  rw [if_pos (by decide)] at h
  exact h

/-- A word for which a pattern has no room is not scanned for: it is refused. -/
theorem replace_ne_scan_of_long :
    IsPlainText (String.ofList (List.replicate 500000 'a')) ∧ ∀ backend : Backend,
      ((ofVerbs (wordVerbs (String.ofList (List.replicate 500000 'a')) [])).looking false
        false).replace backend "" (String.ofList (doubled ['b'])) ≠
          .ok (String.ofList (scan [List.replicate 500000 'a'] ['b'] 0 [])) := by
  have hplain := isPlainText_replicate (n := 500000) (by decide)
  refine ⟨hplain, fun backend heq => ?_⟩
  have hrefused := replace_of_long (isPlain_wordVerbs (List.forall_mem_singleton.mpr hplain))
    lastAltAfterAnchors_wordVerbs contains_anyCase_wordVerbs
    (by rw [String.toList_ofList, List.length_replicate]; decide) backend ""
    (String.ofList (doubled ['b']))
  cases hrefused.symm.trans heq

end Expression

end Verbal
