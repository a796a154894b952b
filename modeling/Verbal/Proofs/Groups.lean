import Mathlib.Algebra.Order.Group.Nat
import Mathlib.Algebra.Order.BigOperators.Group.List
import Verbal.Proofs.Anchors
import Verbal.Proofs.Regular.Choices

/-!
# The groups of a chain with alternatives

Each segment of a chain with alternatives is a group, and the verbs make no others. Of several
segments that can match from a place the first one is found, and its group alone takes part: it
covers the match.

* `FirstBy`, **`Expression.firstBy_of_found`**: which segment a match is by, and what it marks.
* **`Expression.alternatives_numbered`**: the groups of a compiled chain, the one that takes part in
  a match, and the replacement that refers to all of them, which changes nothing.
-/

namespace Verbal

open Verbal.Regular (Regex Look Trail)

/-! ## Groups of expressions -/

namespace Regular.Regex

theorem groups_sequence (rs : List Regex) : (sequence rs).groups = rs.flatMap groups := by
  match rs with
  | [] => rfl
  | [r] => simp [sequence]
  | r :: r' :: rs =>
    have hsequence : sequence (r :: r' :: rs) = .concat r (sequence (r' :: rs)) := rfl
    rw [hsequence, groups, groups_sequence (r' :: rs), List.flatMap_cons (x := r)]

theorem groups_choice (rs : List Regex) : (choice rs).groups = rs.flatMap groups := by
  match rs with
  | [] => rfl
  | [r] => simp [choice]
  | r :: r' :: rs =>
    have hchoice : choice (r :: r' :: rs) = .alternate r (choice (r' :: rs)) := rfl
    rw [hchoice, groups, groups_choice (r' :: rs), List.flatMap_cons (x := r)]

theorem groups_ofText (anyCase : Bool) (text : List Char) : (ofText anyCase text).groups = [] := by
  rw [ofText, groups_sequence, List.flatMap_eq_nil_iff]
  refine List.forall_mem_map.mpr fun c _ => rfl

theorem Framed.groups {r : Regex} {index : Nat} (h : r.Framed index) : r.groups = [index] := by
  induction h with
  | group h => rw [Regex.groups, h]
  | after l _ ih => rw [Regex.groups, ih]; rfl
  | before l _ ih => rw [Regex.groups, ih]; rfl

/-- Every character of a text takes some room. -/
theorem length_le_size_ofText (text : List Char) :
    text.length * 32 ≤ (ofText false text).size := by
  refine Nat.le_trans ?_ (sum_size_le_sequence _)
  have hletter : ∀ n ∈ (text.map fun c => letter (.single c)).map size, 32 ≤ n := by
    simp only [List.map_map, List.forall_mem_map]
    intro c _
    have hpos := c.utf8Size_pos
    simp only [Function.comp, size, Unicode.CharSet.single, Regular.setSize, if_true]
    omega
  simpa using List.card_nsmul_le_sum _ 32 hletter

end Regular.Regex

/-- Verbs make no groups. -/
theorem Verb.groups_regex {v : Verb} {anyCase : Bool} {r : Regex}
    (h : v.regex? anyCase = some r) : r.groups = [] := by
  cases v <;> cases h <;> first
    | exact Regex.groups_ofText _ _
    | rfl

theorem length_segments (verbs : List Verb) :
    (segments verbs).length = verbs.countP Verb.isAlt + 1 := by
  induction verbs with
  | nil => rfl
  | cons v verbs ih =>
    rcases v.eq_alt_or_isAlt with ⟨value, rfl⟩ | h
    · rw [segments, List.length_cons, List.length_modifyHead, ih, List.countP_cons_of_pos rfl]
    · rw [segments_cons h, List.length_modifyHead, ih, List.countP_cons_of_neg (by simp [h])]

section Branches

variable {anyCase start stop : Bool}

/-- A branch of several is a group alone. -/
theorem framed_branchRegex {size : Nat} (hsize : 1 < size) (k : Nat) (s : List Verb) :
    (branchRegex anyCase start stop size k s).Framed (1 + k) := by
  have hgroups : (Regex.sequence (s.filterMap (Verb.regex? anyCase))).groups = [] := by
    rw [Regex.groups_sequence, List.flatMap_eq_nil_iff]
    intro r hr
    obtain ⟨v, -, hv⟩ := List.mem_filterMap.mp hr
    exact Verb.groups_regex hv
  unfold branchRegex
  rw [if_neg (Nat.not_le.mpr hsize)]
  split <;> split
  · exact .after _ (.before _ (.group hgroups))
  · exact .after _ (.group hgroups)
  · exact .before _ (.group hgroups)
  · exact .group hgroups

/-- The groups of several branches are numbered in their order. -/
theorem groups_chainRegex {ss : List (List Verb)} (hlength : 1 < ss.length) :
    (chainRegex anyCase start stop [] ss).groups = List.range' 1 ss.length := by
  have hbranch (p : List Verb × Nat) :
      (branchRegex anyCase start stop ss.length p.2 p.1).groups = [1 + p.2] :=
    (framed_branchRegex hlength p.2 p.1).groups
  rw [chainRegex_eq, Regex.groups_choice, List.mapIdx_eq_zipIdx_map, List.flatMap_map]
  have hrange : List.range' 1 ss.length = (List.range' 0 ss.length).map (1 + ·) :=
    (List.map_add_range' 0 ss.length 1).symm
  simp only [hbranch]
  rw [← List.map_eq_flatMap, hrange, ← List.zipIdx_map_snd 0 ss, List.map_map]
  rfl

end Branches

/-! ## Which segment a match is by -/

/-- Whether a chain can match from a place to another by its segment of that number, and by none
before it from there. -/
structure FirstBy (anyCase : Bool) (verbs : List Verb) (text : List Char) (k i j : Nat) :
    Prop where
  own : MatchesBy anyCase verbs text k i j
  earlier : ∀ k' < k, ∀ j', ¬MatchesBy anyCase verbs text k' i j'

section Found

variable {anyCase : Bool} {verbs : List Verb} {text : List Char} {i : Nat}

/-- The branch of a segment. -/
def branchOf (anyCase : Bool) (verbs : List Verb) : Nat → List Verb → Regex :=
  branchRegex anyCase ((lastWord Verb.startAnchor? verbs).getD false)
    ((lastWord Verb.endAnchor? verbs).getD false) (segments verbs).length

theorem spans_branchOf {k j : Nat} {s : List Verb} (hs : (segments verbs)[k]? = some s)
    (hi : i ≤ text.length) :
    (branchOf anyCase verbs k s).Spans text i j ↔ MatchesBy anyCase verbs text k i j := by
  have hgetD (o : Option Bool) : o.getD false = true ↔ o = some true := by
    cases o <;> simp
  rw [branchOf, spans_branchRegex hi, hgetD, hgetD]
  constructor
  · rintro ⟨hspans, hstart, hstop⟩
    exact ⟨⟨s, hs, hspans⟩, hstart, hstop⟩
  · rintro ⟨⟨s', hs', hspans⟩, hstart, hstop⟩
    obtain rfl : s = s' := Option.some.inj (hs.symm.trans hs')
    exact ⟨hspans, hstart, hstop⟩

/-- **What is found of a chain is found by the first segment that can match.** With alternatives,
its group is marked as the whole match and no other one is. -/
theorem firstBy_of_found {trail : Trail}
    (h : (((chainExpression anyCase verbs).unroll none).found text)[i]?.join = some trail) :
    ∃ k, FirstBy anyCase verbs text k i trail.stop ∧ (verbs.any Verb.isAlt = true →
      trail.marks = [⟨2 * (k + 1), i⟩, ⟨2 * (k + 1) + 1, trail.stop⟩]) := by
  have hi := ((Regular.found_isSome_iff _ text i).mp (by rw [h]; rfl)).1
  obtain ⟨s₀, ss, hsegments⟩ := exists_segments verbs
  rw [chainExpression, chainRegex_eq, Regular.found_choice (by simp [hsegments])] at h
  obtain ⟨before, r, after, hbranches, hfound, hbefore⟩ := List.findSome?_eq_some_iff.mp h
  have hget (k : Nat) : (before ++ r :: after)[k]? =
      (segments verbs)[k]?.map (branchOf anyCase verbs k) := by
    rw [← hbranches, List.getElem?_mapIdx]
    rfl
  obtain ⟨s, hs, hr⟩ := Option.map_eq_some_iff.mp
    ((hget before.length).symm.trans (by simp) : _ = some r)
  refine ⟨before.length, ⟨(spans_branchOf hs hi).mp (hr ▸ Regular.spans_of_found hfound), ?_⟩, ?_⟩
  · intro k hk j hmatches
    obtain ⟨s', hs', -⟩ := hmatches.spans
    have hmem : branchOf anyCase verbs k s' ∈ before := by
      have hk' := hget k
      rw [List.getElem?_append_left hk, hs'] at hk'
      exact List.mem_of_getElem? hk'
    have hnone := hbefore _ hmem
    have hsome := (Regular.found_isSome_iff _ text i).mpr
      ⟨hi, j, (spans_branchOf hs' hi).mpr hmatches⟩
    rw [hnone] at hsome
    cases hsome
  · intro halt
    have hframed : (branchOf anyCase verbs before.length s).Framed (1 + before.length) :=
      framed_branchRegex ((one_lt_length_segments verbs).mpr halt) before.length s
    rw [Nat.add_comm before.length 1]
    exact Regular.marks_of_found (hr ▸ hframed) hfound

end Found

/-- A group that alone was marked, and as the whole match, is the only one that takes part. -/
theorem Match.group?_of_marks {m : Match} {index : Nat}
    (h : m.marks = [⟨2 * index, m.start⟩, ⟨2 * index + 1, m.stop⟩]) {other : Nat}
    (hother : other ≠ 0) :
    m.group? other = if other = index then some (m.start, m.stop) else none := by
  have henter : 2 * index = 2 * other ↔ other = index := by omega
  have hleave : 2 * index + 1 = 2 * other + 1 ↔ other = index := by omega
  have hcross : 2 * index + 1 ≠ 2 * other ∧ 2 * index ≠ 2 * other + 1 := by omega
  rw [group?, if_neg hother, h]
  simp only [lastMark?, henter, hleave, hcross, if_false, Option.none_or, Option.or_none]
  by_cases hindex : other = index
  · rw [if_pos hindex, if_pos hindex, if_pos hindex]
  · rw [if_neg hindex, if_neg hindex, if_neg hindex]

/-! ## Replacements that refer to every group -/

/-- The replacement that refers to the groups from 1 to `n`, one after the other. -/
def everyGroup (n : Nat) : String :=
  String.join ((List.range' 1 n).map fun index => "$\x7b" ++ toString index ++ "\x7d")

namespace ReferenceRule

variable (rule : ReferenceRule)

theorem pieces_skipped (n : Nat) (text : List Char) :
    rule.pieces n text = rule.pieces 0 (text.drop n) := by
  induction text generalizing n with
  | nil => simp [pieces]
  | cons c text ih =>
    cases n with
    | zero => rfl
    | succ n => rw [pieces, if_pos (Nat.succ_ne_zero n), List.drop_succ_cons, ← ih]; rfl

/-- A name in braces, if it may stand there, is a reference. -/
theorem pieces_braced {name : List Char} (hname : rule.isBracedName name = true)
    (hbrace : '\x7d' ∉ name) (text : List Char) :
    rule.pieces 0 ('$' :: '\x7b' :: (name ++ '\x7d' :: text)) =
      .reference name :: rule.pieces 0 text := by
  have htake : (name ++ '\x7d' :: text).takeWhile (· != '\x7d') = name := by
    rw [List.takeWhile_append_of_pos fun c hc => by
      simpa using fun heq : c = '\x7d' => hbrace (heq ▸ hc)]
    simp
  have hbraced : rule.braced? ('\x7b' :: (name ++ '\x7d' :: text)) =
      some (name, name.length + 2) := by
    simp [braced?, htake, hname]
  have hhead : ('\x7b' :: (name ++ '\x7d' :: text)).head? ≠ some '$' := by simp
  rw [pieces, if_neg (not_not_intro rfl), if_neg (not_not_intro rfl), if_neg hhead, hbraced,
    Option.some_or]
  dsimp only
  rw [pieces_skipped]
  simp

/-- A rule takes digits in braces for a name. -/
theorem pieces_everyGroup
    (hdigits : ∀ index : Nat, rule.isBracedName (toString index).toList = true) (n : Nat) :
    rule.pieces 0 (everyGroup n).toList =
      (List.range' 1 n).map fun index => .reference (toString index).toList := by
  rw [everyGroup, String.toList_join, List.flatMap_map]
  induction List.range' 1 n with
  | nil => rfl
  | cons index indices ih =>
    have hbrace : '\x7d' ∉ (toString index).toList := fun hmem => by
      have hdigit := Nat.isDigit_of_mem_toDigits (by decide) (Nat.le_refl 10)
        (Nat.toList_repr ▸ hmem : '\x7d' ∈ Nat.toDigits 10 index)
      cases hdigit
    have hpiece := pieces_braced rule (hdigits index) hbrace
      (indices.flatMap fun index => ("$\x7b" ++ toString index ++ "\x7d").toList)
    rw [List.flatMap_cons, List.map_cons, ← ih, ← hpiece]
    simp

end ReferenceRule

theorem isAlphanumeric_of_isDigit {c : Char} (h : c.isDigit = true) :
    Unicode.isAlphanumeric c = true := by
  have hdigits : ∀ n < 10, Unicode.isAlphanumeric (Char.ofNat (48 + n)) = true := by
    decide +kernel
  have hbounds : 48 ≤ c.toNat ∧ c.toNat ≤ 57 := by
    simp only [Char.isDigit, Bool.and_eq_true, decide_eq_true_eq] at h
    exact h
  have hc := hdigits (c.toNat - 48) (by omega)
  rwa [Nat.add_sub_cancel' hbounds.1, Char.ofNat_toNat] at hc

theorem decimal?_toString {index : Nat} (h : index < UInt64.size) :
    decimal? (toString index).toList = some index := by
  have hlist : (toString index).toList = Nat.toDigits 10 index := Nat.toList_repr
  have hall : (Nat.toDigits 10 index).all Char.isDigit = true :=
    List.all_eq_true.mpr fun c hc => Nat.isDigit_of_mem_toDigits (by decide) (Nat.le_refl 10) hc
  have hvalue : (Nat.toDigits 10 index).foldl (fun n d => 10 * n + (d.toNat - 48)) 0 = index :=
    Nat.ofDigitChars_toDigits (by decide) (Nat.le_refl 10)
  rw [decimal?, hlist, hall, hvalue]
  simp [h, Nat.toDigits_ne_nil]

/-! ## Expansions -/

/-- Where all items but one give nothing, a list gives what that one gives. -/
theorem flatMap_eq_of_unique {l : List Nat} {f : Nat → List Char} {index : Nat} (hl : l.Nodup)
    (hindex : index ∈ l) (h : ∀ other ∈ l, other ≠ index → f other = []) :
    l.flatMap f = f index := by
  obtain ⟨before, after, rfl⟩ := List.append_of_mem hindex
  obtain ⟨hbefore, hafter⟩ : (index ∉ before) ∧ index ∉ after := by
    have := List.nodup_middle.mp hl
    simpa [not_or] using (List.nodup_cons.mp this).1
  have hnil {part : List Nat} (hpart : ∀ other ∈ part, other ∈ before ++ index :: after)
      (hnot : index ∉ part) : part.flatMap f = [] :=
    List.flatMap_eq_nil_iff.mpr fun other hother =>
      h other (hpart other hother) fun heq => hnot (heq ▸ hother)
  rw [List.flatMap_append, List.flatMap_cons, hnil (by simp +contextual) hbefore,
    hnil (by simp +contextual) hafter, List.nil_append, List.append_nil]

theorem expandPieces_references (reference : List Char → List Char) (names : List (List Char)) :
    expandPieces reference (names.map .reference) = names.flatMap reference := by
  induction names with
  | nil => rfl
  | cons name names ih => rw [List.map_cons, expandPieces, ih, List.flatMap_cons]

/-- Whether the group of that number takes part in a match, all of which it covers, and no other
group does. -/
def Match.TakenBy (m : Match) (index : Nat) : Prop :=
  ∀ other ≠ 0, m.group? other = if other = index then some (m.start, m.stop) else none

/-- To refer to every group is to refer to the only one that takes part. -/
theorem Backend.expansion_everyGroup (backend : Backend) (r : Regex) {n index : Nat}
    (hn : n < UInt64.size) (text : List Char) {m : Match} (hm : m.TakenBy index)
    (hpos : 0 < index) (hindex : index ≤ n) :
    (backend.programOf r).expansion text (everyGroup n).toList m = slice text m.start m.stop := by
  have hgroups {reference : List Char → List Char} (hreference : ∀ other ≤ n,
      reference (toString other).toList = groupText text m other) :
      expandPieces reference ((List.range' 1 n).map fun other =>
        .reference (toString other).toList) = slice text m.start m.stop := by
    have hmap : (List.range' 1 n).map (fun other => Piece.reference (toString other).toList) =
        ((List.range' 1 n).map fun other => (toString other).toList).map .reference := by
      rw [List.map_map]
      rfl
    have hgroup (other : Nat) (hother : other ∈ List.range' 1 n) :
        reference (toString other).toList =
          if other = index then slice text m.start m.stop else [] := by
      obtain ⟨hone, hle⟩ := List.mem_range'_1.mp hother
      rw [hreference other (by omega), groupText, hm other (by omega)]
      split <;> simp_all
    rw [hmap, expandPieces_references, List.flatMap_map, flatMap_eq_of_unique
      List.nodup_range' (List.mem_range'_1.mpr ⟨hpos, by omega⟩) fun other hother hne => by
        rw [hgroup other hother, if_neg hne]]
    rw [hgroup index (List.mem_range'_1.mpr ⟨hpos, by omega⟩), if_pos rfl]
  have hdigits (other : Nat) : (toString other).toList = Nat.toDigits 10 other := Nat.toList_repr
  have hdecimal (other : Nat) (hother : other ≤ n) :
      decimal? (toString other).toList = some other :=
    decimal?_toString (Nat.lt_of_le_of_lt hother hn)
  cases backend with
  | regular =>
    rw [programOf, Program.expansion, ReferenceRule.pieces_everyGroup _ fun _ => rfl]
    refine hgroups fun other hother => ?_
    have hsigned : signedDecimal? (toString other).toList = some other := by
      unfold signedDecimal?
      split
      · rename_i name hname
        have hplus := Nat.isDigit_of_mem_toDigits (b := 10) (n := other) (c := '+') (by decide)
          (Nat.le_refl 10) (by rw [← hdigits, hname]; exact List.mem_cons_self ..)
        cases hplus
      · exact hdecimal other hother
    rw [regularReference, hsigned, Option.some_or]
  | extended =>
    rw [programOf, Program.expansion, ReferenceRule.pieces_everyGroup]
    · refine hgroups fun other hother => ?_
      rw [extendedReference, hdecimal other hother]
      rfl
    · intro other
      rw [hdigits]
      have hall : (Nat.toDigits 10 other).all Unicode.isAlphanumeric = true :=
        List.all_eq_true.mpr fun c hc => isAlphanumeric_of_isDigit
          (Nat.isDigit_of_mem_toDigits (by decide) (Nat.le_refl 10) hc)
      have hne : (Nat.toDigits 10 other).isEmpty = false := by
        simp [Nat.toDigits_ne_nil]
      simp only [ReferenceRule.extended, hne, Bool.not_false, Bool.true_and, List.all_eq_true,
        Bool.or_eq_true] at hall ⊢
      exact fun c hc => Or.inl (hall c hc)

/-! ## Chains -/

section Size

variable {anyCase : Bool} {verbs : List Verb}

/-- A chain has room for its segments, and for the choices between them. -/
theorem sum_size_le_chainExpression :
    (((segments verbs).mapIdx (branchOf anyCase verbs)).map Regex.size).sum +
      48 * verbs.countP Verb.isAlt ≤ (chainExpression anyCase verbs).size := by
  have hchoice := Regex.sum_size_le_choice ((segments verbs).mapIdx (branchOf anyCase verbs))
  rw [List.length_mapIdx, length_segments] at hchoice
  have hsize : (chainExpression anyCase verbs).size =
      (Regex.choice ((segments verbs).mapIdx (branchOf anyCase verbs))).size :=
    congrArg Regex.size (chainRegex_eq _)
  omega

/-- A chain that begins with a text has room for it. -/
theorem length_le_size_of_andThen (value : String) :
    value.toList.length * 32 ≤ (chainExpression false (.andThen value :: verbs)).size := by
  obtain ⟨s, ss, hs⟩ := exists_segments verbs
  have hsegments : segments (.andThen value :: verbs) = (.andThen value :: s) :: ss := by
    rw [segments_cons rfl, hs, List.modifyHead_cons]
  have hmem : (Regex.ofText false value.toList).size ≤
      (((Verb.andThen value :: s).filterMap (Verb.regex? false)).map Regex.size).sum :=
    List.le_sum_of_mem (List.mem_map_of_mem (List.mem_cons_self ..))
  have hitems (size : Nat) : (Regex.ofText false value.toList).size ≤
      ((if size ≤ 1 then (Verb.andThen value :: s).filterMap (Verb.regex? false)
        else [.group (1 + 0) (.sequence ((Verb.andThen value :: s).filterMap
          (Verb.regex? false)))]).map Regex.size).sum := by
    split
    · exact hmem
    · exact Nat.le_trans (Nat.le_trans hmem (Regex.sum_size_le_sequence _)) (Nat.le_add_right _ _)
  have hbranch : (Regex.ofText false value.toList).size ≤
      (branchOf false (.andThen value :: verbs) 0 (.andThen value :: s)).size := by
    refine Nat.le_trans ?_ (Regex.sum_size_le_sequence _)
    rw [List.map_append, List.map_append, List.sum_append, List.sum_append]
    exact Nat.le_trans (hitems _) (Nat.le_trans (Nat.le_add_right _ _) (Nat.le_add_left _ _))
  have hsum := @sum_size_le_chainExpression false (.andThen value :: verbs)
  rw [hsegments, List.mapIdx_cons, List.map_cons, List.sum_cons] at hsum
  have htext := Regex.length_le_size_ofText value.toList
  omega

end Size

namespace Expression

variable {verbs : List Verb}

/-- **Each alternative is its own numbered group.** A chain of plain verbs with `n` alternatives, of
which no anchor is called for after the last one, compiles to an expression with the groups `1` to
`n + 1`, unless it is too large. Every match is by one of the segments, the first one that can match
from there; the group of its number covers the match, and no other one takes part. To put all groups
in the place of every match therefore changes nothing. -/
theorem alternatives_numbered (hplain : ∀ v ∈ verbs, v.IsPlain)
    (hlast : LastAltAfterAnchors verbs) (halt : verbs.any Verb.isAlt = true) {anyCase : Bool}
    (hcase : (ofVerbs verbs).modifiers.contains .anyCase = anyCase) (backend : Backend) :
    if (chainExpression anyCase verbs).size ≤ Regular.sizeLimit then
      (∃ c, (ofVerbs verbs).compile backend = .ok c ∧
        c.search = backend.programOf (chainExpression anyCase verbs) ∧
        (chainExpression anyCase verbs).groups = List.range' 1 (verbs.countP Verb.isAlt + 1) ∧
        ∀ text : String, ∃ ms, c.search.Visits text ms ∧ ∀ m ∈ ms,
          ∃ k ≤ verbs.countP Verb.isAlt, FirstBy anyCase verbs text.toList k m.start m.stop ∧
            m.TakenBy (k + 1)) ∧
      ∀ source, (ofVerbs verbs).replace backend source
        (everyGroup (verbs.countP Verb.isAlt + 1)) = .ok source
    else ∀ source replacement, (ofVerbs verbs).replace backend source replacement =
      .error (.invalidPattern (ofVerbs verbs).pattern backend.tooLarge) := by
  have hcompile := compile_ofVerbs backend hplain hlast hcase
  have hlength := length_segments verbs
  split
  · rename_i hsize
    rw [if_pos hsize] at hcompile
    have htaken (text : List Char) : ∀ m ∈ matchesOf (chainExpression anyCase verbs) text,
        ∃ k ≤ verbs.countP Verb.isAlt, FirstBy anyCase verbs text k m.start m.stop ∧
          m.TakenBy (k + 1) := by
      intro m hm
      obtain ⟨i, trail, htrail, rfl⟩ := Regular.exists_found_of_mem hm
      obtain ⟨k, hfirst, hmarks⟩ := firstBy_of_found htrail
      obtain ⟨s, hs, -⟩ := hfirst.own.spans
      obtain ⟨hk, -⟩ := List.getElem?_eq_some_iff.mp hs
      rw [Nat.zero_add]
      exact ⟨k, by omega, hfirst, fun other => Match.group?_of_marks (hmarks halt)⟩
    have hvisits := backend.visits_programOf (chainExpression anyCase verbs)
    refine ⟨⟨_, hcompile, rfl, ?_, fun text => ⟨_, hvisits text, htaken text.toList⟩⟩,
      fun source => ?_⟩
    · rw [← hlength]
      exact groups_chainRegex (by rw [one_lt_length_segments, halt])
    · have hfit : verbs.countP Verb.isAlt + 1 < UInt64.size := by
        have := @sum_size_le_chainExpression anyCase verbs
        have hlimit : Regular.sizeLimit = 10485760 := rfl
        have huint : UInt64.size = 18446744073709551616 := rfl
        omega
      rw [replace_eq hcompile, (hvisits source).replaceAll, splice_self (hvisits source).follow
        (fun m hm => ?_) (Nat.le_refl 0), List.drop_zero, String.ofList_toList]
      obtain ⟨k, hk, -, htakenBy⟩ := htaken source.toList m hm
      exact backend.expansion_everyGroup _ hfit _ htakenBy (Nat.succ_pos k) (by omega)
  · rename_i hsize
    rw [if_neg hsize] at hcompile
    intro source replacement
    simp only [replace, hcompile, Except.bind]

/-- At the start the first segment matches, and reads nothing; from the last `b` only the second one
does. -/
theorem alternatives_numbered_of_anchored :
    (∃ c, (ofVerbs [.startOfLine true, .maybe "a", .alt "b"]).compile .extended = .ok c ∧
      ∃ ms, c.search.Visits "bb" ms ∧ ms ≠ [] ∧ ∀ m ∈ ms, ∃ k ≤ 1, m.TakenBy (k + 1)) ∧
    (ofVerbs [.startOfLine true, .maybe "a", .alt "b"]).replace .extended "bb"
      "$\x7b1\x7d$\x7b2\x7d" = .ok "bb" := by
  have hnumbered := @alternatives_numbered [.startOfLine true, .maybe "a", .alt "b"] (by decide)
    (Or.inr ⟨[.startOfLine true, .maybe "a"], "b", [], rfl, by decide⟩) rfl false rfl .extended
  rw [if_pos (by decide)] at hnumbered
  obtain ⟨⟨c, hc, hsearch, -, hms⟩, hreplace⟩ := hnumbered
  obtain ⟨ms, hvisits, htaken⟩ := hms "bb"
  refine ⟨⟨c, hc, ms, hvisits, ?_, fun m hm => ?_⟩, hreplace "bb"⟩
  · rintro rfl
    have hmatch : ((ofVerbs [.startOfLine true, .maybe "a", .alt "b"]).compile .extended).bind
        (·.search.isMatch "bb") = .ok true := by
      decide +kernel
    rw [hc] at hmatch
    cases hmatch.symm.trans hvisits.found
  · obtain ⟨k, hk, -, hm⟩ := htaken m hm
    exact ⟨k, hk, hm⟩

/-- A chain that begins with a text for which a pattern has no room is refused. -/
theorem replace_of_long {value : String} (hplain : ∀ v ∈ Verb.andThen value :: verbs, v.IsPlain)
    (hlast : LastAltAfterAnchors (.andThen value :: verbs))
    (hcase : (ofVerbs (.andThen value :: verbs)).modifiers.contains .anyCase = false)
    (hlong : Regular.sizeLimit < value.toList.length * 32) (backend : Backend)
    (source replacement : String) :
    (ofVerbs (.andThen value :: verbs)).replace backend source replacement =
      .error (.invalidPattern (ofVerbs (.andThen value :: verbs)).pattern backend.tooLarge) := by
  have hsize := @length_le_size_of_andThen verbs value
  have hcompile := compile_ofVerbs backend hplain hlast hcase
  rw [if_neg (by omega)] at hcompile
  simp only [replace, hcompile, Except.bind]

theorem isPlainText_replicate {n : Nat} (hn : n ≠ 0) :
    IsPlainText (String.ofList (List.replicate n 'a')) := by
  refine ⟨fun h => hn ?_, fun c hc => ?_⟩
  · simpa using congrArg (·.toList.length) h
  · rw [String.toList_ofList] at hc
    rw [List.eq_of_mem_replicate hc]
    rfl

/-- An alternative for which a pattern has no room is not replaced by its group: it is refused. -/
theorem replace_everyGroup_of_long :
    (∀ v ∈ [Verb.andThen (String.ofList (List.replicate 500000 'a')), .alt "b"], v.IsPlain) ∧
      ∀ backend : Backend,
        (ofVerbs [.andThen (String.ofList (List.replicate 500000 'a')), .alt "b"]).replace backend
          "" (everyGroup 2) =
            .error (.invalidPattern (ofVerbs [.andThen (String.ofList (List.replicate 500000 'a')),
              .alt "b"]).pattern backend.tooLarge) := by
  have hplain : ∀ v ∈ [Verb.andThen (String.ofList (List.replicate 500000 'a')), .alt "b"],
      v.IsPlain :=
    List.forall_mem_cons.mpr ⟨isPlainText_replicate (by decide),
      List.forall_mem_singleton.mpr (by decide)⟩
  refine ⟨hplain, fun backend => replace_of_long hplain
    (Or.inr ⟨[_], "b", [], rfl, List.forall_mem_nil _⟩) rfl ?_ backend _ _⟩
  rw [String.toList_ofList, List.length_replicate]
  decide

end Expression

end Verbal
