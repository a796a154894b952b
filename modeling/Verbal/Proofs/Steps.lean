import Mathlib.Data.List.TakeWhile
import Verbal.CommandLine.Run
import Verbal.Proofs.Outcomes

/-!
# What written steps say

`readStep` reads a verb off a text. Here the texts of a verb are given by tables of names, and the
reader is shown to accept those texts and no others.

* **`readStep_eq_ok`**: which texts are read as which verb.
* **`readRanges_eq_ok`**: which texts are read as which ranges.
* **`readRanges_eq_error`**: which text is named if a text is not read as ranges.
* **`readRanges_roundTrip`**: reading ranges loses nothing of the text that writes them.
* **`Invocation.expression_of_texts`**: steps build what their verbs build, with the modifiers that
  the switches say; and whatever verbs can build, as many steps can.
-/

namespace Verbal

/-! ## Ranges -/

theorem commaPieces_comma (text : List Char) :
    commaPieces (',' :: text) = [] :: commaPieces text := by
  rw [commaPieces, if_pos rfl]

/-- There is always a piece, and a character other than a comma is put in front of the first. -/
theorem exists_commaPieces_cons {c : Char} (hc : c ≠ ',') (text : List Char) :
    ∃ piece pieces, commaPieces text = piece :: pieces ∧
      commaPieces (c :: text) = (c :: piece) :: pieces := by
  have hne : commaPieces text ≠ [] := by
    unfold commaPieces
    split
    · nofun
    · split
      · nofun
      · split <;> nofun
  obtain ⟨piece, pieces, hpieces⟩ := List.exists_cons_of_ne_nil hne
  refine ⟨piece, pieces, hpieces, ?_⟩
  rw [commaPieces, if_neg hc, hpieces]

theorem commaPieces_eq_splitOn (text : List Char) : commaPieces text = text.splitOn ',' := by
  rw [List.splitOn_eq_splitOnP]
  induction text with
  | nil => rfl
  | cons c text ih =>
    rw [List.splitOnP_cons_eq_if_modifyHead, ← ih]
    by_cases hc : c = ','
    · rw [hc, commaPieces_comma]
      rfl
    · obtain ⟨piece, pieces, hpieces, hcons⟩ := exists_commaPieces_cons hc text
      rw [hcons, hpieces, beq_eq_false_iff_ne.mpr hc]
      rfl

theorem comma_not_mem {text piece : List Char} (h : piece ∈ commaPieces text) : ',' ∉ piece := by
  induction text generalizing piece with
  | nil =>
    cases List.mem_singleton.mp h
    nofun
  | cons c text ih =>
    by_cases hc : c = ','
    · rw [hc, commaPieces_comma] at h
      rcases List.mem_cons.mp h with rfl | h
      · nofun
      · exact ih h
    · obtain ⟨first, pieces, hpieces, hcons⟩ := exists_commaPieces_cons hc text
      rw [hcons] at h
      rcases List.mem_cons.mp h with rfl | h
      · have hfirst : ',' ∉ first := ih (hpieces ▸ List.mem_cons_self)
        exact List.not_mem_cons_of_ne_of_not_mem (Ne.symm hc) hfirst
      · exact ih (hpieces ▸ List.mem_cons_of_mem _ h)

/-- The text that writes ranges. -/
def rangesText (pairs : List (Char × Char)) : List Char := [','].intercalate (pairs.map rangeText)

theorem readRange_eq_ok {piece : List Char} {pair : Char × Char} :
    readRange piece = .ok pair ↔ piece = rangeText pair := by
  unfold readRange rangeText
  split
  · simp [Prod.ext_iff, eq_comm]
  · rename_i hpiece
    refine iff_of_false nofun ?_
    rintro rfl
    exact hpiece _ _ rfl

/-- **Which texts are read as ranges**: those that write them with commas in between, unless a bound
is a comma itself. -/
theorem readRanges_eq_ok {text : List Char} {pairs : List (Char × Char)} :
    readRanges text = .ok pairs ↔
      pairs ≠ [] ∧ (∀ pair ∈ pairs, ',' ∉ rangeText pair) ∧ text = rangesText pairs := by
  have hpieces : readRanges text = .ok pairs ↔ commaPieces text = pairs.map rangeText := by
    unfold readRanges
    rw [mapM_eq_ok]
    simp only [readRange_eq_ok]
    rw [← List.forall₂_map_right_iff, List.forall₂_eq_eq_eq]
  rw [hpieces]
  constructor
  · intro h
    refine ⟨?_, fun pair hpair => comma_not_mem (h ▸ List.mem_map_of_mem hpair), ?_⟩
    · rintro rfl
      rw [commaPieces_eq_splitOn] at h
      exact List.splitOn_ne_nil _ _ h
    · rw [rangesText, ← h, commaPieces_eq_splitOn, List.intercalate_splitOn]
  · rintro ⟨hne, hcommas, rfl⟩
    rw [commaPieces_eq_splitOn, rangesText, List.splitOn_intercalate]
    · intro piece hpiece
      obtain ⟨pair, hpair, rfl⟩ := List.mem_map.mp hpiece
      exact hcommas pair hpair
    · simpa using hne

/-- Whether a piece writes a range: a dash between two bounds, of which neither is a comma. -/
def WritesRange (piece : List Char) : Prop := ∃ lo hi, piece = [lo, '-', hi] ∧ lo ≠ ',' ∧ hi ≠ ','

theorem comma_not_mem_rangeText {pair : Char × Char} :
    ',' ∉ rangeText pair ↔ pair.1 ≠ ',' ∧ pair.2 ≠ ',' := by
  simp [rangeText, eq_comm]

theorem writesRange_iff {piece : List Char} :
    WritesRange piece ↔ ∃ pair, piece = rangeText pair ∧ ',' ∉ rangeText pair := by
  constructor
  · rintro ⟨lo, hi, hpiece, hbounds⟩
    exact ⟨(lo, hi), hpiece, comma_not_mem_rangeText.mpr hbounds⟩
  · rintro ⟨⟨lo, hi⟩, hpiece, hcomma⟩
    exact ⟨lo, hi, hpiece, comma_not_mem_rangeText.mp hcomma⟩

theorem WritesRange.comma_not_mem {piece : List Char} (h : WritesRange piece) : ',' ∉ piece := by
  obtain ⟨pair, rfl, hcomma⟩ := writesRange_iff.mp h
  exact hcomma

theorem readRange_eq_error {piece : List Char} {fault : StepFault} :
    readRange piece = .error fault ↔
      (¬∃ pair, piece = rangeText pair) ∧ fault = .rangeInvalid piece := by
  unfold readRange
  split
  · rename_i lo hi
    exact iff_of_false nofun fun h => h.1 ⟨(lo, hi), rfl⟩
  · rename_i hpiece
    have hnone : ¬∃ pair, piece = rangeText pair := fun ⟨pair, hpair⟩ => hpiece _ _ hpair
    simp [hnone, eq_comm]

/-- **Which text is named if a text is not read as ranges**: of its pieces, the first one from the
left that writes none. -/
theorem readRanges_eq_error {text : List Char} {fault : StepFault} :
    readRanges text = .error fault ↔ ∃ before piece after,
      text.splitOn ',' = before ++ piece :: after ∧ (∀ good ∈ before, WritesRange good) ∧
        ¬WritesRange piece ∧ fault = .rangeInvalid piece := by
  -- no comma is left in a piece, so that its shape alone decides
  have hshape {piece : List Char} (hpiece : piece ∈ text.splitOn ',') :
      (∃ pair, readRange piece = .ok pair) ↔ WritesRange piece := by
    rw [writesRange_iff]
    refine exists_congr fun pair => readRange_eq_ok.trans ?_
    refine ⟨fun h => ⟨h, h ▸ comma_not_mem (commaPieces_eq_splitOn text ▸ hpiece)⟩, And.left⟩
  rw [readRanges, mapM_eq_error, commaPieces_eq_splitOn]
  refine exists_congr fun before => exists_congr fun piece => exists_congr fun after =>
    and_congr_right fun hsplit => ?_
  have hbefore : ∀ good ∈ before, good ∈ text.splitOn ',' := fun good hgood => by
    rw [hsplit]
    exact List.mem_append_left _ hgood
  have hpiece : piece ∈ text.splitOn ',' := by simp [hsplit]
  refine and_congr (forall₂_congr fun good hgood => hshape (hbefore good hgood)) ?_
  rw [readRange_eq_error, ← hshape hpiece]
  simp only [readRange_eq_ok]

/-- **Ranges are read off exactly the texts that write them, and nothing is lost.** A text is read
iff it consists of ranges with commas between them. What is read are then the ranges that its pieces
write, one after the other, so that writing them gives the text again; and ranges without a comma
as a bound are read off what writes them. Where a text is not read, the fault names the first piece
from the left that writes no range. -/
theorem readRanges_roundTrip (text : List Char) :
    ((∃ pairs, readRanges text = .ok pairs) ↔ ∃ pieces, pieces ≠ [] ∧
      (∀ piece ∈ pieces, WritesRange piece) ∧ text = [','].intercalate pieces) ∧
    (∀ pairs, readRanges text = .ok pairs →
      pairs.map rangeText = text.splitOn ',' ∧ rangesText pairs = text) ∧
    (∀ pairs, pairs ≠ [] → (∀ pair ∈ pairs, pair.1 ≠ ',' ∧ pair.2 ≠ ',') →
      readRanges (rangesText pairs) = .ok pairs) ∧
    (∀ fault, readRanges text = .error fault ↔ ∃ before piece after,
      text.splitOn ',' = before ++ piece :: after ∧ (∀ good ∈ before, WritesRange good) ∧
        ¬WritesRange piece ∧ fault = .rangeInvalid piece) ∧
    ∀ piece, (StepFault.rangeInvalid piece).message =
      "invalid range \x60" ++ String.ofList piece ++ "\x60, expected FROM-TO" := by
  refine ⟨⟨?_, ?_⟩, fun pairs h => ?_, fun pairs hne hcommas => ?_, fun fault =>
    readRanges_eq_error, fun piece => ?_⟩
  · rintro ⟨pairs, h⟩
    obtain ⟨hne, hcommas, htext⟩ := readRanges_eq_ok.mp h
    refine ⟨pairs.map rangeText, by simpa using hne, List.forall_mem_map.mpr fun pair hpair => ?_,
      htext⟩
    exact writesRange_iff.mpr ⟨pair, rfl, hcommas pair hpair⟩
  · rintro ⟨pieces, hne, hpieces, rfl⟩
    have hsplit : ([','].intercalate pieces).splitOn ',' = pieces :=
      List.splitOn_intercalate _ (fun piece hpiece => (hpieces piece hpiece).comma_not_mem) hne
    cases h : readRanges ([','].intercalate pieces) with
    | ok pairs => exact ⟨pairs, rfl⟩
    | error fault =>
      obtain ⟨before, piece, after, hfirst, -, hnot, -⟩ := readRanges_eq_error.mp h
      have hpiece : piece ∈ pieces := by
        rw [← hsplit, hfirst]
        exact List.mem_append_right _ (List.mem_cons_self ..)
      exact absurd (hpieces piece hpiece) hnot
  · obtain ⟨hne, hcommas, rfl⟩ := readRanges_eq_ok.mp h
    refine ⟨?_, rfl⟩
    rw [rangesText, List.splitOn_intercalate _ _ (by simpa using hne)]
    exact List.forall_mem_map.mpr hcommas
  · refine readRanges_eq_ok.mpr ⟨hne, fun pair hpair => ?_, rfl⟩
    exact comma_not_mem_rangeText.mpr (hcommas pair hpair)
  · rw [← String.toList_inj]
    simp [StepFault.message, backquoted]

/-- A dash and an equals sign are bounds like any other, and so is what takes more than one byte; an
empty piece is named, and not the one behind it. -/
theorem readRanges_roundTrip_of_dashes :
    readRanges "--=,é--".toList = .ok [('-', '='), ('é', '-')] ∧
      [('-', '='), ('é', '-')].map rangeText = "--=,é--".toList.splitOn ',' ∧
      readRanges "a-z,,bc-d".toList = .error (.rangeInvalid []) := by
  obtain ⟨-, hread, hwritten, -⟩ := readRanges_roundTrip "--=,é--".toList
  have hpairs : readRanges "--=,é--".toList = .ok [('-', '='), ('é', '-')] :=
    hwritten [('-', '='), ('é', '-')] (by decide) (by decide)
  obtain ⟨-, -, -, hfault, -⟩ := readRanges_roundTrip "a-z,,bc-d".toList
  refine ⟨hpairs, (hread _ hpairs).1, (hfault _).mpr
    ⟨["a-z".toList], [], ["bc-d".toList], by decide, ?_, ?_, rfl⟩⟩
  · exact List.forall_mem_singleton.mpr ⟨'a', 'z', by decide, by decide, by decide⟩
  · rintro ⟨lo, hi, hpiece, -⟩
    cases hpiece

/-! ## Names and arguments -/

theorem splitStep_bare {text : List Char} (h : '=' ∉ text) : splitStep text = (text, none) := by
  have hall : ∀ c ∈ text, (c != '=') = true := fun c hc => bne_iff_ne.mpr fun heq => h (heq ▸ hc)
  rw [splitStep, List.takeWhile_eq_self_iff.mpr hall, List.dropWhile_eq_nil_iff.mpr hall]
  rfl

theorem splitStep_equals {name : List Char} (h : '=' ∉ name) (argument : List Char) :
    splitStep (name ++ '=' :: argument) = (name, some argument) := by
  have hall : ∀ c ∈ name, (c != '=') = true := fun c hc => bne_iff_ne.mpr fun heq => h (heq ▸ hc)
  rw [splitStep, List.takeWhile_append_of_pos hall, List.dropWhile_append_of_pos hall]
  simp

/-- What was split is the name with its argument behind an equals sign, if there is one. -/
theorem eq_of_splitStep {text name : List Char} {argument : Option (List Char)}
    (h : splitStep text = (name, argument)) :
    text = name ++ argument.elim [] ('=' :: ·) := by
  obtain ⟨rfl, rfl⟩ := Prod.ext_iff.mp h
  simp only [splitStep]
  conv_lhs => rw [← List.takeWhile_append_dropWhile (p := (· != '=')) (l := text)]
  congr 1
  cases hrest : text.dropWhile (· != '=') with
  | nil => rfl
  | cons c rest =>
    have hc : c = '=' := by
      have := List.head?_dropWhile_not (· != '=') text
      simpa [hrest] using this
    rw [hc]
    rfl

/-- The verbs that a name stands for alone. -/
def bareVerbs : List (String × Verb) :=
  [("start", .startOfLine true), ("end", .endOfLine true), ("anything", .anything),
    ("something", .something), ("linebreak", .linebreak), ("br", .linebreak), ("tab", .tab),
    ("word", .word)]

/-- The verbs that take a text, each by its names. -/
def textVerbs : List (String × (String → Verb)) :=
  [("then", .andThen), ("find", .andThen), ("maybe", .maybe), ("anything-but", .anythingBut),
    ("something-but", .somethingBut), ("any-of", .anyOf), ("any", .anyOf), ("multiple", .multiple),
    ("alt", .alt)]

theorem verbForm?_of_bare {name : String} {verb : Verb} (h : (name, verb) ∈ bareVerbs) :
    verbForm? name.toList = some (.bare verb) := by
  simp only [bareVerbs, List.mem_cons, Prod.mk.injEq, List.not_mem_nil, or_false] at h
  rcases h with ⟨rfl, rfl⟩ | ⟨rfl, rfl⟩ | ⟨rfl, rfl⟩ | ⟨rfl, rfl⟩ | ⟨rfl, rfl⟩ | ⟨rfl, rfl⟩ |
    ⟨rfl, rfl⟩ | ⟨rfl, rfl⟩ <;> rfl

theorem verbForm?_of_text {name : String} {verb : String → Verb} (h : (name, verb) ∈ textVerbs) :
    verbForm? name.toList = some (.withText verb) := by
  simp only [textVerbs, List.mem_cons, Prod.mk.injEq, List.not_mem_nil, or_false] at h
  rcases h with ⟨rfl, rfl⟩ | ⟨rfl, rfl⟩ | ⟨rfl, rfl⟩ | ⟨rfl, rfl⟩ | ⟨rfl, rfl⟩ | ⟨rfl, rfl⟩ |
    ⟨rfl, rfl⟩ | ⟨rfl, rfl⟩ | ⟨rfl, rfl⟩ <;> rfl

/-- The names that the reader knows are those of the tables, and that of the ranges. -/
theorem mem_of_verbForm? {name : List Char} {form : VerbForm} (h : verbForm? name = some form) :
    (∃ verb, form = .bare verb ∧ (String.ofList name, verb) ∈ bareVerbs) ∨
      (∃ verb, form = .withText verb ∧ (String.ofList name, verb) ∈ textVerbs) ∨
      form = .withRanges .range ∧ String.ofList name = "range" := by
  unfold verbForm? at h
  split at h <;> cases h <;> rename_i hname <;> rw [hname] <;> simp [bareVerbs, textVerbs]

/-! ## Steps -/

/-- Whether a text says a verb: a name alone or with whatever behind an equals sign, a name with a
text, or ranges. -/
inductive Says : List Char → Verb → Prop
  | bare {name : String} {verb : Verb} : (name, verb) ∈ bareVerbs → Says name.toList verb
  | disregarding {name : String} {verb : Verb} (ignored : List Char) :
    (name, verb) ∈ bareVerbs → Says (name.toList ++ '=' :: ignored) verb
  | text {name : String} {verb : String → Verb} (value : String) :
    (name, verb) ∈ textVerbs → Says (name.toList ++ '=' :: value.toList) (verb value)
  | ranges {pairs : List (Char × Char)} :
    pairs ≠ [] → (∀ pair ∈ pairs, ',' ∉ rangeText pair) →
      Says ("range".toList ++ '=' :: rangesText pairs) (.range pairs)

theorem bareVerbs_equals : ∀ entry ∈ bareVerbs, '=' ∉ entry.1.toList := by decide

theorem textVerbs_equals : ∀ entry ∈ textVerbs, '=' ∉ entry.1.toList := by decide

/-- **Which texts are read as which verb.** -/
theorem readStep_eq_ok {text : List Char} {verb : Verb} :
    readStep text = .ok verb ↔ Says text verb := by
  constructor
  · intro h
    obtain ⟨⟨name, argument⟩, hsplit⟩ : ∃ x, splitStep text = x := ⟨_, rfl⟩
    have htext : text = (String.ofList name).toList ++ argument.elim [] ('=' :: ·) := by
      rw [String.toList_ofList]
      exact eq_of_splitStep hsplit
    rw [htext]
    cases hform : verbForm? name with
    | none =>
      simp only [readStep, hsplit, hform] at h
      cases h
    | some form =>
      simp only [readStep, hsplit, hform] at h
      rcases mem_of_verbForm? hform with ⟨v, rfl, hv⟩ | ⟨v, rfl, hv⟩ | ⟨rfl, hname⟩
      · cases h
        cases argument with
        | none => simpa using Says.bare hv
        | some ignored => exact Says.disregarding ignored hv
      · cases argument with
        | none => cases h
        | some value =>
          cases h
          simpa using Says.text (String.ofList value) hv
      · cases argument with
        | none => cases h
        | some value =>
          obtain ⟨pairs, hpairs, rfl⟩ := map_eq_ok.mp h
          obtain ⟨hne, hcommas, rfl⟩ := readRanges_eq_ok.mp hpairs
          rw [hname]
          exact Says.ranges hne hcommas
  · intro h
    cases h with
    | bare hv =>
      simp only [readStep, splitStep_bare (bareVerbs_equals _ hv), verbForm?_of_bare hv]
    | disregarding ignored hv =>
      simp only [readStep, splitStep_equals (bareVerbs_equals _ hv), verbForm?_of_bare hv]
    | text value hv =>
      simp only [readStep, splitStep_equals (textVerbs_equals _ hv), verbForm?_of_text hv,
        String.ofList_toList]
    | ranges hne hcommas =>
      simp only [readStep, splitStep_equals (show '=' ∉ "range".toList by decide)]
      have hranges := readRanges_eq_ok.mpr ⟨hne, hcommas, rfl⟩
      exact map_eq_ok.mpr ⟨_, hranges, rfl⟩

/-! ## What steps build -/

/-- The verbs that a step can call for. -/
def Verb.isCall : Verb → Bool
  | .add _ => false
  | .startOfLine enable => enable
  | .endOfLine enable => enable
  | .addModifier _ => false
  | .removeModifier _ => false
  | .anyCase _ => false
  | .searchOneLine _ => false
  | .searchGlobal _ => false
  | _ => true

/-- Whether a text says a verb that does what this one does. -/
def Verb.Sayable (verb : Verb) : Prop :=
  ∃ (text : String) (said : Verb), Says text.toList said ∧
    ∀ e : Expression, e.apply said = e.apply verb

namespace Verb

theorem Sayable.of_name {verb : Verb} (name : String) (h : (name, verb) ∈ bareVerbs) :
    verb.Sayable :=
  ⟨name, verb, Says.bare h, fun _ => rfl⟩

theorem Sayable.of_text {verb : Verb} {f : String → Verb} (name value : String)
    (h : (name, f) ∈ textVerbs) (hf : ∀ e : Expression, e.apply (f value) = e.apply verb) :
    verb.Sayable := by
  refine ⟨String.ofList (name.toList ++ '=' :: value.toList), f value, ?_, hf⟩
  rw [String.toList_ofList]
  exact Says.text value h

/-- What a step can call for, some text says. Ranges are said as the class that they make, since
their own syntax writes neither a comma as a bound nor no ranges at all. -/
theorem sayable_of_isCall {verb : Verb} (h : verb.isCall) : verb.Sayable := by
  cases verb with
  | startOfLine enable =>
    obtain rfl : enable = true := h
    exact .of_name "start" (by simp [bareVerbs])
  | endOfLine enable =>
    obtain rfl : enable = true := h
    exact .of_name "end" (by simp [bareVerbs])
  | andThen value => exact .of_text "then" value (by simp [textVerbs]) fun _ => rfl
  | maybe value => exact .of_text "maybe" value (by simp [textVerbs]) fun _ => rfl
  | anything => exact .of_name "anything" (by simp [bareVerbs])
  | anythingBut value => exact .of_text "anything-but" value (by simp [textVerbs]) fun _ => rfl
  | something => exact .of_name "something" (by simp [bareVerbs])
  | somethingBut value => exact .of_text "something-but" value (by simp [textVerbs]) fun _ => rfl
  | linebreak => exact .of_name "linebreak" (by simp [bareVerbs])
  | tab => exact .of_name "tab" (by simp [bareVerbs])
  | word => exact .of_name "word" (by simp [bareVerbs])
  | anyOf value => exact .of_text "any-of" value (by simp [textVerbs]) fun _ => rfl
  | range pairs =>
    exact .of_text (f := .anyOf) "any-of" (String.ofList (pairs.flatMap rangeText))
      (by simp [textVerbs]) fun _ => rfl
  | multiple value => exact .of_text "multiple" value (by simp [textVerbs]) fun _ => rfl
  | alt value => exact .of_text "alt" value (by simp [textVerbs]) fun _ => rfl
  | add fragment => cases h
  | addModifier letter => cases h
  | removeModifier letter => cases h
  | anyCase enable => cases h
  | searchOneLine enable => cases h
  | searchGlobal enable => cases h

end Verb

/-- Verbs that steps can call for are said by as many texts, one after the other. -/
theorem exists_texts {verbs : List Verb} (h : ∀ verb ∈ verbs, verb.isCall) :
    ∃ (texts : List String) (said : List Verb), texts.length = verbs.length ∧
      List.Forall₂ (fun text verb => Says text.toList verb) texts said ∧
      ∀ e : Expression, e.applyAll said = e.applyAll verbs := by
  induction verbs with
  | nil => exact ⟨[], [], rfl, .nil, fun _ => rfl⟩
  | cons verb verbs ih =>
    obtain ⟨text, said, hsaid, happly⟩ := Verb.sayable_of_isCall (h verb List.mem_cons_self)
    obtain ⟨texts, rest, hlength, hrest, happlyAll⟩ := ih (fun v hv => h v (.tail _ hv))
    refine ⟨text :: texts, said :: rest, congrArg (· + 1) hlength, .cons hsaid hrest, fun e => ?_⟩
    simp only [Expression.applyAll, List.foldl_cons, happly]
    exact happlyAll _

theorem mapM_readStep_eq_ok {texts : List String} {verbs : List Verb} :
    texts.mapM (fun text => readStep text.toList) = .ok verbs ↔
      List.Forall₂ (fun text verb => Says text.toList verb) texts verbs := by
  rw [mapM_eq_ok]
  simp only [readStep_eq_ok]

namespace CommandLine

/-- The modifiers that switches say. -/
def Switches.modifiers (s : Switches) : Modifiers := ⟨s.global, s.multiline, s.anyCase⟩

/-- The switches decide on every modifier, whatever the steps did to them. -/
theorem Invocation.expression_eq (i : Invocation) :
    i.expression = { Expression.ofVerbs i.steps with modifiers := i.switches.modifiers } := by
  simp only [Invocation.expression, Expression.applyAll, List.foldl_cons, List.foldl_nil,
    Expression.apply, Expression.setModifier, Modifiers.set, Bool.not_not]
  rfl

/-- **Steps say what verbs build.** A list of texts is read as steps iff each text says a verb. What
is built of the steps is then what the verbs build, one after the other, with the modifiers that the
switches say. And whatever verbs that steps can call for build, with whatever modifiers, is built of
as many steps. -/
theorem Invocation.expression_of_texts (command : Command) (switches : Switches) :
    (∀ (texts : List String) (verbs : List Verb),
      texts.mapM (fun text => readStep text.toList) = .ok verbs ↔
        List.Forall₂ (fun text verb => Says text.toList verb) texts verbs) ∧
    (∀ verbs : List Verb, Invocation.expression ⟨command, verbs, switches⟩ =
      { Expression.ofVerbs verbs with modifiers := switches.modifiers }) ∧
    ∀ verbs : List Verb, (∀ verb ∈ verbs, verb.isCall) →
      ∃ (texts : List String) (steps : List Verb), texts.length = verbs.length ∧
        texts.mapM (fun text => readStep text.toList) = .ok steps ∧
        Invocation.expression ⟨command, steps, switches⟩ =
          { Expression.ofVerbs verbs with modifiers := switches.modifiers } := by
  refine ⟨fun texts verbs => mapM_readStep_eq_ok, fun verbs => Invocation.expression_eq _,
    fun verbs h => ?_⟩
  obtain ⟨texts, steps, hlength, hsaid, happly⟩ := exists_texts h
  refine ⟨texts, steps, hlength, mapM_readStep_eq_ok.mpr hsaid, ?_⟩
  rw [Invocation.expression_eq]
  simp only [Expression.ofVerbs, happly]

/-- Ranges with a comma as a bound, an argument with an equals sign and no ranges at all can be
said; other names and ignored arguments say the same as the plain ones. -/
theorem Invocation.expression_of_texts_of_comma :
    (∃ (texts : List String) (steps : List Verb), texts.length = 3 ∧
      texts.mapM (fun text => readStep text.toList) = .ok steps ∧
      (Invocation.expression ⟨.display, steps, ⟨true, false, true, false⟩⟩).pattern =
        "[,-z](?:a=b)[]") ∧
    List.Forall₂ (fun text verb => Says text.toList verb) ["find=a=b", "br=x"]
      [.andThen "a=b", .linebreak] := by
  obtain ⟨hread, -, hcall⟩ :=
    Invocation.expression_of_texts .display ⟨true, false, true, false⟩
  refine ⟨?_, (hread _ _).mp (by decide +kernel)⟩
  obtain ⟨texts, steps, hlength, hsteps, hbuilt⟩ :=
    hcall [.range [(',', 'z')], .andThen "a=b", .range []] (by decide)
  refine ⟨texts, steps, hlength, hsteps, ?_⟩
  rw [hbuilt]
  decide +kernel

end CommandLine

end Verbal
