import Verbal.Proofs.Language

/-!
# Words with signs

A sign repeats what stands before it, and signs can be stacked: each one repeats what the signs
before it made of the word. That is what a word with its signs describes.

* `Factor.language`: the texts that a word with its signs describes.
* **`Factor.reads_regex`**: the expression of a word with its signs reads them wherever it stands.
* `Sign.language_plus`: a second sign, a plus, describes nothing else.
* **`flatMap_factors`**: a chain of words and signs that begins with a word consists of its words
  with their signs.
-/

namespace Verbal

open Verbal.Regular Computability

/-! ## Repetitions of what reads a language -/

namespace Regular.Regex

section Repetitions

variable {a : Regex} {l : Language Char} {text : List Char} {i j n : Nat}

theorem spans_replicate :
    (sequence (List.replicate n a)).Spans text i j ↔ Rounds (a.Spans text) n i j := by
  induction n generalizing i with
  | zero => exact Iff.rfl
  | succ n ih =>
    rw [List.replicate_succ, spans_sequence_cons]
    exact exists_congr fun k => and_congr_right fun _ => ih

theorem Reads.replicate (h : a.Reads l) (n : Nat) :
    (sequence (List.replicate n a)).Reads (l ^ n) := by
  induction n with
  | zero => exact reads_empty
  | succ n ih =>
    rw [List.replicate_succ, pow_succ']
    exact reads_sequence_cons h ih

theorem Reads.fromOn (h : a.Reads l) (least : Nat) (greedy : Bool) :
    (repetition ⟨least, none⟩ greedy a).Reads (l ^ least * l∗) := by
  intro u w v
  have hrounds (n : Nat) := spans_replicate.symm.trans (h.replicate n u w v)
  rw [Language.kstar_eq_iSup_pow, Language.mul_iSup, Language.mem_iSup]
  simp only [← pow_add]
  constructor
  · rintro ⟨n, ⟨hn, -⟩, hr⟩
    obtain ⟨m, rfl⟩ := Nat.exists_eq_add_of_le hn
    exact ⟨m, (hrounds _).mp hr⟩
  · rintro ⟨m, hm⟩
    exact ⟨least + m, ⟨Nat.le_add_right least m, nofun⟩, (hrounds _).mpr hm⟩

end Repetitions

end Regular.Regex

/-! ## Passages -/

/-- The passages that may be read in front of a text: what is read, and what is left. -/
abbrev Passages := List Char → List Char → Prop

namespace Passages

/-- The texts of a language, whatever is left. -/
def ofLanguage (l : Language Char) : Passages := fun w _ => w ∈ l

/-- One passage, and another one of what it leaves. -/
def andThen (a b : Passages) : Passages := fun w v => ∃ x y, w = x ++ y ∧ a x (y ++ v) ∧ b y v

theorem andThen_ofLanguage (l m : Language Char) :
    (ofLanguage l).andThen (ofLanguage m) = ofLanguage (l * m) := by
  funext w v
  refine propext ⟨?_, ?_⟩
  · rintro ⟨x, y, rfl, hx, hy⟩
    exact Language.append_mem_mul hx hy
  · rintro ⟨x, hx, y, hy, rfl⟩
    exact ⟨x, y, rfl, hx, hy⟩

theorem andThen_assoc (a b c : Passages) : (a.andThen b).andThen c = a.andThen (b.andThen c) := by
  funext w v
  refine propext ⟨?_, ?_⟩
  · rintro ⟨_, z, rfl, ⟨x, y, rfl, hx, hy⟩, hz⟩
    exact ⟨x, y ++ z, List.append_assoc x y z, by rwa [List.append_assoc], y, z, rfl, hy, hz⟩
  · rintro ⟨x, _, rfl, hx, y, z, rfl, hy, hz⟩
    exact ⟨x ++ y, z, (List.append_assoc x y z).symm, ⟨x, y, rfl, by rwa [← List.append_assoc],
      hy⟩, hz⟩

/-- In front of anything, nothing is read. -/
theorem one_andThen (a : Passages) : (ofLanguage 1).andThen a = a := by
  funext w v
  refine propext ⟨?_, fun h => ⟨[], w, rfl, rfl, h⟩⟩
  rintro ⟨_, y, rfl, rfl, hy⟩
  exact hy

theorem andThen_one (a : Passages) : a.andThen (ofLanguage 1) = a := by
  funext w v
  refine propext ⟨?_, fun h => ⟨w, [], (List.append_nil w).symm, h, rfl⟩⟩
  rintro ⟨x, _, rfl, hx, rfl⟩
  rwa [List.append_nil]

end Passages

/-! ## Signs -/

/-- A sign that repeats what stands before it. -/
inductive Sign where
  | star
  | plus
  deriving Repr, DecidableEq

namespace Sign

/-- How a sign is written. -/
def char : Sign → Char
  | star => '*'
  | plus => '+'

/-- The fewest rounds. -/
def least : Sign → Nat
  | star => 0
  | plus => 1

/-- The texts that a sign makes of those before it. -/
def language (l : Language Char) : Sign → Language Char
  | star => l∗
  | plus => l * l∗

/-- What a sign makes of an expression. -/
def regex (r : Regex) (q : Sign) : Regex := .repetition ⟨q.least, none⟩ true r

/-- The verb that writes a sign. -/
def verb (q : Sign) : Verb := .multiple (String.singleton q.char)

theorem language_eq (q : Sign) (l : Language Char) : q.language l = l ^ q.least * l∗ := by
  cases q with
  | star => exact (one_mul l∗).symm
  | plus => exact congrArg (· * l∗) (pow_one l).symm

theorem reads_regex {r : Regex} {l : Language Char} (q : Sign) (h : r.Reads l) :
    (q.regex r).Reads (q.language l) := by
  rw [q.language_eq]
  exact h.fromOn q.least true

theorem mem_kstar_of_mem (q : Sign) {l : Language Char} {text : List Char}
    (h : text ∈ q.language l) : text ∈ l∗ := by
  cases q with
  | star => exact h
  | plus => exact (mul_kstar_le_kstar : l * l∗ ≤ l∗) h

theorem least_le_one (q : Sign) : q.least ≤ 1 := by cases q <;> decide

/-- Repeating once more what is repeated describes nothing else. -/
theorem language_plus (q : Sign) (l : Language Char) :
    plus.language (q.language l) = q.language l := by
  refine le_antisymm (mul_kstar_le_self ?_) ?_
  · cases q with
    | star => exact (kstar_mul_kstar l).le
    | plus =>
      calc l * l∗ * (l * l∗) = l * (l∗ * l * l∗) := by simp only [mul_assoc]
        _ ≤ l * (l∗ * l∗) := by gcongr; exact kstar_mul_le_kstar
        _ = l * l∗ := by rw [kstar_mul_kstar]
  · calc q.language l = q.language l * 1 := (mul_one _).symm
      _ ≤ q.language l * (q.language l)∗ := by gcongr; exact one_le_kstar

end Sign

/-- Repetitions of a word are as many rounds of it. -/
theorem exists_rounds {word w : List Char} (h : w ∈ (spelled false word)∗) :
    ∃ n, w = (List.replicate n word).flatten := by
  obtain ⟨rounds, rfl, hrounds⟩ := Language.mem_kstar.mp h
  have heq := List.eq_replicate_iff.mpr
    ⟨rfl, fun round hround => Regex.mem_spelled.mp (hrounds round hround)⟩
  exact ⟨rounds.length, congrArg List.flatten heq⟩

/-- There is one way to repeat a word as often as it stands in front of a text. -/
theorem rounds_unique {word w w' v v' : List Char} (hw : w ∈ (spelled false word)∗)
    (hw' : w' ∈ (spelled false word)∗) (htext : w ++ v = w' ++ v') (hv : ¬word <+: v)
    (hv' : ¬word <+: v') : w = w' := by
  obtain ⟨m, rfl⟩ := exists_rounds hw
  obtain ⟨n, rfl⟩ := exists_rounds hw'
  clear hw hw'
  induction m generalizing n with
  | zero =>
    cases n with
    | zero => rfl
    | succ n =>
      rw [List.replicate_succ, List.flatten_cons, List.append_assoc] at htext
      exact absurd ⟨_, htext.symm⟩ hv
  | succ m ih =>
    cases n with
    | zero =>
      rw [List.replicate_succ, List.flatten_cons, List.append_assoc] at htext
      exact absurd ⟨_, htext⟩ hv'
    | succ n =>
      simp only [List.replicate_succ, List.flatten_cons, List.append_assoc,
        List.append_cancel_left_eq] at htext ⊢
      exact ih n htext

/-! ## Words with signs -/

/-- A word, and the signs that follow it. -/
structure Factor where
  word : String
  signs : List Sign
  deriving Repr, DecidableEq

namespace Factor

variable (anyCase : Bool) (f : Factor)

/-- The verbs that write a word with its signs. -/
def verbs : List Verb := .andThen f.word :: f.signs.map Sign.verb

/-- How a word with its signs is written. -/
def text : List Char := "(?:".toList ++ (f.word.toList ++ ')' :: f.signs.map Sign.char)

/-- The texts that a word with its signs describes. -/
def language : Language Char :=
  f.signs.foldl Sign.language (spelled anyCase f.word.toList)

/-- What a word with its signs stands for. -/
def regex : Regex :=
  f.signs.foldl Sign.regex (.ofText anyCase f.word.toList)

/-- **The expression of a word with its signs** reads the texts that the word describes. -/
theorem reads_regex : (f.regex anyCase).Reads (f.language anyCase) := by
  have hsigns (signs : List Sign) (r : Regex) (l : Language Char) (h : r.Reads l) :
      (signs.foldl Sign.regex r).Reads (signs.foldl Sign.language l) := by
    induction signs generalizing r l with
    | nil => exact h
    | cons q signs ih => exact ih _ _ (q.reads_regex h)
  exact hsigns f.signs _ _ (Regex.reads_ofText anyCase f.word.toList)

/-- Words with their signs, one after the other. -/
theorem reads_sequence (fs : List Factor) :
    (Regex.sequence (fs.map (regex anyCase))).Reads (fs.map (language anyCase)).prod := by
  induction fs with
  | nil => exact Regex.reads_empty
  | cons f fs ih =>
    rw [List.map_cons, List.map_cons, List.prod_cons]
    exact Regex.reads_sequence_cons (f.reads_regex anyCase) ih

/-- Whether a plus follows a sign, and nothing follows the plus. The extended dialect takes it to
mean that no round is given back. -/
def Possessive : Prop := f.signs.tail = [.plus]

instance : Decidable f.Possessive := inferInstanceAs (Decidable (f.signs.tail = [.plus]))

/-- Whether the extended dialect has something to repeat for every sign. -/
def Legible : Prop := f.signs.tail = [] ∨ f.Possessive

instance : Decidable f.Legible :=
  inferInstanceAs (Decidable (f.signs.tail = [] ∨ f.signs.tail = [.plus]))

/-- What a word with its signs may read if rounds that are not given back are as many as there
are. -/
def passages : Passages := fun w v =>
  w ∈ f.language anyCase ∧
    (f.Possessive → ∀ round ∈ spelled anyCase f.word.toList, ¬round <+: v)

/-- If all rounds may be given back, a word may read what it describes. -/
theorem passages_eq (h : ¬f.Possessive) :
    f.passages anyCase = .ofLanguage (f.language anyCase) := by
  funext w v
  exact propext ⟨And.left, fun hw => ⟨hw, fun hp => absurd hp h⟩⟩

/-- Whether no letter of the word has another case. -/
def Caseless : Prop := ∀ c ∈ f.word.toList, Unicode.caseVariants c = [c]

instance : Decidable f.Caseless := List.decidableBAll _ _

/-- If no letter has another case, it makes no difference to a word that case is ignored. -/
theorem passages_of_caseless {f : Factor} (h : f.Caseless) :
    f.passages true = f.passages false := by
  unfold passages language
  rw [Regex.spelled_of_caseless h]

end Factor

namespace Passages

variable (anyCase : Bool)

/-- What words with their signs may read, one after the other. -/
def ofFactors (fs : List Factor) : Passages :=
  fs.foldr (fun f => (f.passages anyCase).andThen) (ofLanguage 1)

theorem ofFactors_append (fs gs : List Factor) :
    ofFactors anyCase (fs ++ gs) = (ofFactors anyCase fs).andThen (ofFactors anyCase gs) := by
  induction fs with
  | nil => exact (one_andThen _).symm
  | cons f fs ih =>
    exact (congrArg (f.passages anyCase).andThen ih).trans
      (andThen_assoc (f.passages anyCase) _ _).symm

theorem ofFactors_singleton (f : Factor) : ofFactors anyCase [f] = f.passages anyCase :=
  andThen_one (f.passages anyCase)

/-- If all rounds may be given back, a sequence may read what it describes. -/
theorem ofFactors_eq {fs : List Factor} (h : ∀ f ∈ fs, ¬f.Possessive) :
    ofFactors anyCase fs = ofLanguage (fs.map (Factor.language anyCase)).prod := by
  induction fs with
  | nil => rfl
  | cons f fs ih =>
    obtain ⟨hf, h⟩ := List.forall_mem_cons.mp h
    rw [ofFactors, List.foldr_cons, ← ofFactors, f.passages_eq anyCase hf, ih h,
      andThen_ofLanguage, List.map_cons, List.prod_cons]

/-- If no letter has another case, it makes no difference whether case is ignored. -/
theorem ofFactors_of_caseless {anyCase : Bool} {fs : List Factor}
    (h : anyCase = true → ∀ f ∈ fs, f.Caseless) : ofFactors anyCase fs = ofFactors false fs := by
  cases anyCase with
  | false => rfl
  | true => exact List.foldr_ext _ _ _ fun f hf _ =>
      congrArg (andThen · _) (Factor.passages_of_caseless (h rfl f hf))

end Passages

/-! ## Patterns -/

theorem Sign.toList_fragment (q : Sign) : q.verb.fragment.toList = [q.char] := by
  cases q <;> decide

theorem Factor.toList_fragments (f : Factor) :
    (f.verbs.flatMap fun v => v.fragment.toList) = f.text := by
  have hsigns : ((f.signs.map Sign.verb).flatMap fun v => v.fragment.toList) =
      f.signs.map Sign.char := by
    simp [List.flatMap_map, Sign.toList_fragment, ← List.map_eq_flatMap]
  rw [verbs, List.flatMap_cons, hsigns, text]
  simp [Verb.fragment]

/-- **The pattern of words with signs** is how they are written. -/
theorem Expression.toList_pattern_factors (fs : List Factor) :
    (ofVerbs (fs.flatMap Factor.verbs)).pattern.toList = fs.flatMap Factor.text := by
  refine (toList_pattern_of_append fun v hv e => ?_).trans ?_
  · obtain ⟨f, -, hv⟩ := List.mem_flatMap.mp hv
    rcases List.mem_cons.mp hv with rfl | hv
    · rfl
    · obtain ⟨q, -, rfl⟩ := List.mem_map.mp hv
      rfl
  · rw [List.flatMap_assoc]
    exact List.flatMap_congr fun f _ => f.toList_fragments

/-! ## Chains of words and signs -/

/-- Whether a verb writes a plain word or a sign. -/
def Verb.IsWordOrSign : Verb → Prop
  | andThen value => IsPlainText value
  | multiple sign => sign = "*" ∨ sign = "+"
  | _ => False

instance (v : Verb) : Decidable v.IsWordOrSign :=
  match v with
  | .andThen value => inferInstanceAs (Decidable (IsPlainText value))
  | .multiple sign => inferInstanceAs (Decidable (sign = "*" ∨ sign = "+"))
  | .add _ | .startOfLine _ | .endOfLine _ | .maybe _ | .anything | .anythingBut _ | .something
  | .somethingBut _ | .linebreak | .tab | .word | .anyOf _ | .range _ | .alt _ | .addModifier _
  | .removeModifier _ | .anyCase _ | .searchOneLine _ | .searchGlobal _ =>
    inferInstanceAs (Decidable False)

/-- The signs in front of the first word of a chain, and its words with their signs. -/
def signsAndFactors : List Verb → List Sign × List Factor
  | [] => ([], [])
  | .andThen word :: verbs =>
    let (signs, fs) := signsAndFactors verbs
    ([], ⟨word, signs⟩ :: fs)
  | .multiple sign :: verbs =>
    let (signs, fs) := signsAndFactors verbs
    ((if sign = "*" then .star else .plus) :: signs, fs)
  | _ :: verbs => signsAndFactors verbs

/-- The words of a chain, each with the signs that follow it. -/
def factors (verbs : List Verb) : List Factor := (signsAndFactors verbs).2

section Chains

variable {verbs : List Verb}

theorem signsAndFactors_spec (h : ∀ v ∈ verbs, v.IsWordOrSign) :
    (signsAndFactors verbs).1.map Sign.verb ++ (signsAndFactors verbs).2.flatMap Factor.verbs =
        verbs ∧
      ∀ f ∈ (signsAndFactors verbs).2, IsPlainText f.word := by
  induction verbs with
  | nil => exact ⟨rfl, List.forall_mem_nil _⟩
  | cons v verbs ih =>
    obtain ⟨hv, h⟩ := List.forall_mem_cons.mp h
    obtain ⟨hverbs, hwords⟩ := ih h
    cases v with
    | andThen word =>
      exact ⟨congrArg (Verb.andThen word :: ·) hverbs, List.forall_mem_cons.mpr ⟨hv, hwords⟩⟩
    | multiple sign =>
      rcases hv with rfl | rfl <;> exact ⟨congrArg (_ :: ·) hverbs, hwords⟩
    | _ => exact hv.elim

/-- **A chain of words and signs** that begins with a word consists of its words with their
signs. -/
theorem flatMap_factors (h : ∀ v ∈ verbs, v.IsWordOrSign)
    (hfirst : ∀ v ∈ verbs.head?, ∃ word, v = .andThen word) :
    (factors verbs).flatMap Factor.verbs = verbs ∧
      ∀ f ∈ factors verbs, IsPlainText f.word := by
  obtain ⟨hverbs, hwords⟩ := signsAndFactors_spec h
  refine ⟨?_, hwords⟩
  cases verbs with
  | nil => rfl
  | cons v verbs =>
    obtain ⟨word, rfl⟩ := hfirst v rfl
    exact hverbs

end Chains

end Verbal
