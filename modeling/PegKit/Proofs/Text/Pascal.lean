import Mathlib.Data.List.Basic
import PegKit.Proofs.Text.Letters

/-!
# Names in Pascal case, converted again

A name in Pascal case stays as it is. It is told by a capital at the front, a small letter anywhere
and the lack of separators, which need not hold of a name that was joined from words: single letters
join to a name without a small letter, and the first word may begin with a digit. Converted again,
such a name is taken for one word, and the capitals of its later words are lost. The second
conversion is always the last one that changes anything.
-/

namespace PegKit.Text.Casing

/-! ## Words -/

/-- The words that separators set apart; there is none between adjacent separators. -/
def words (name : List Char) : List (List Char) := (pieces name).filter (!·.isEmpty)

def Lettered (word : List Char) : Prop := ∃ c ∈ word.head?, c.isAlpha = true

/-- A letter stands in the word after its first character. -/
def Lowercased (word : List Char) : Prop := ∃ c ∈ word.tail, c.isAlpha = true

theorem pieces_plain {name : List Char} {word : List Char} (h : word ∈ pieces name) :
    ∀ c ∈ word, isSeparator c = false := by
  induction name generalizing word with
  | nil =>
    rw [List.mem_singleton.mp h]
    exact List.forall_mem_nil _
  | cons c rest ih =>
    rw [pieces] at h
    by_cases hc : isSeparator c = true
    · rw [if_pos hc] at h
      rcases List.mem_cons.mp h with hempty | hrest
      · rw [hempty]
        exact List.forall_mem_nil _
      · exact ih hrest
    · have hplain : isSeparator c = false := Bool.eq_false_of_not_eq_true hc
      rw [if_neg hc] at h
      cases hpieces : pieces rest with
      | nil =>
        rw [hpieces] at h
        rw [List.mem_singleton.mp h]
        exact List.forall_mem_singleton.mpr hplain
      | cons first others =>
        rw [hpieces] at h ih
        rcases List.mem_cons.mp h with hfirst | hothers
        · rw [hfirst]
          exact List.forall_mem_cons.mpr ⟨hplain, ih List.mem_cons_self⟩
        · exact ih (List.mem_cons_of_mem _ hothers)

theorem pieces_of_plain {name : List Char} (h : ∀ c ∈ name, isSeparator c = false) :
    pieces name = [name] := by
  induction name with
  | nil => rfl
  | cons c rest ih =>
    obtain ⟨hc, hrest⟩ := List.forall_mem_cons.mp h
    rw [pieces, hc, if_neg Bool.false_ne_true, ih hrest]

theorem capitalize_plain {word : List Char} (h : ∀ c ∈ word, isSeparator c = false) :
    ∀ c ∈ capitalize word, isSeparator c = false := by
  cases word with
  | nil => exact h
  | cons c rest =>
    obtain ⟨hc, hrest⟩ := List.forall_mem_cons.mp h
    rw [capitalize, List.forall_mem_cons]
    refine ⟨by rw [isSeparator_toUpper, hc], ?_⟩
    intro d hd
    obtain ⟨e, he, rfl⟩ := List.mem_map.mp hd
    rw [isSeparator_toLower, hrest e he]

theorem capitalize_capitalize (word : List Char) : capitalize (capitalize word) = capitalize word := by
  cases word with
  | nil => rfl
  | cons c rest =>
    rw [capitalize, capitalize, Char.toUpper_toUpper_eq_toUpper, List.map_map]
    congr 1
    apply List.map_congr_left
    intro d _
    exact Char.toLower_toLower_eq_toLower d

/-- Capitalizing keeps a text without a small letter at its front and a capital behind it. -/
theorem capitalize_eq_self_iff {word : List Char} :
    capitalize word = word ↔
      (∀ c ∈ word.head?, c.isLower = false) ∧ ∀ c ∈ word.tail, c.isUpper = false := by
  cases word with
  | nil => simp [capitalize]
  | cons c rest =>
    have hsmall : rest.map Char.toLower = rest ↔ ∀ d ∈ rest, d.toLower = d := by
      simpa using @List.map_inj_left _ _ rest Char.toLower id
    rw [capitalize, List.cons.injEq, toUpper_eq_self_iff, hsmall]
    simp [toLower_eq_self_iff]

/-- Only the first letter of a word becomes a capital. -/
theorem exists_upper_capitalize_iff {word : List Char} :
    (∃ c ∈ capitalize word, c.isUpper = true) ↔ Lettered word := by
  cases word with
  | nil => simp [capitalize, Lettered]
  | cons c rest => simp [capitalize, Lettered]

/-- All other letters of a word become small. -/
theorem exists_lower_capitalize_iff {word : List Char} :
    (∃ c ∈ capitalize word, c.isLower = true) ↔ Lowercased word := by
  cases word with
  | nil => simp [capitalize, Lowercased]
  | cons c rest => simp [capitalize, Lowercased]

/-! ## Joining -/

section Joining

variable {listed : List (List Char)}

theorem flatMap_capitalize_filter (listed : List (List Char)) :
    (listed.filter (!·.isEmpty)).flatMap capitalize = listed.flatMap capitalize := by
  induction listed with
  | nil => rfl
  | cons word rest ih =>
    cases word with
    | nil => exact ih
    | cons c cs => rw [List.filter_cons_of_pos rfl, List.flatMap_cons, List.flatMap_cons, ih]

theorem exists_upper_flatMap_iff :
    (∃ c ∈ listed.flatMap capitalize, c.isUpper = true) ↔ ∃ word ∈ listed, Lettered word := by
  simp only [List.mem_flatMap, ← exists_upper_capitalize_iff]
  tauto

theorem exists_lower_flatMap_iff :
    (∃ c ∈ listed.flatMap capitalize, c.isLower = true) ↔ ∃ word ∈ listed, Lowercased word := by
  simp only [List.mem_flatMap, ← exists_lower_capitalize_iff]
  tauto

end Joining

def joined (name : List Char) : List Char := (words name).flatMap capitalize

theorem pascal_eq (name : List Char) :
    pascal name = if isPascal name then name else joined name := by
  rw [pascal, joined, words, flatMap_capitalize_filter]

section Words

variable {name : List Char}

theorem words_plain {word : List Char} (h : word ∈ words name) :
    ∀ c ∈ word, isSeparator c = false :=
  pieces_plain (List.mem_of_mem_filter h)

theorem words_ne_nil {word : List Char} (h : word ∈ words name) : word ≠ [] := by
  rintro rfl
  cases List.of_mem_filter h

theorem joined_plain (name : List Char) : ∀ c ∈ joined name, isSeparator c = false := by
  intro c hc
  obtain ⟨word, hword, hmem⟩ := List.mem_flatMap.mp hc
  exact capitalize_plain (words_plain hword) c hmem

/-- There is no word, or a first one with a first character. -/
theorem words_cases (name : List Char) :
    words name = [] ∨ ∃ c cs rest, words name = (c :: cs) :: rest := by
  cases hwords : words name with
  | nil => exact .inl rfl
  | cons word rest =>
    cases word with
    | nil =>
      have hmem : [] ∈ words name := by
        rw [hwords]
        exact List.mem_cons_self
      exact absurd rfl (words_ne_nil hmem)
    | cons c cs => exact .inr ⟨c, cs, rest, rfl⟩

theorem joined_of_cons {c : Char} {cs : List Char} {rest : List (List Char)}
    (h : words name = (c :: cs) :: rest) :
    joined name = c.toUpper :: (cs.map Char.toLower ++ rest.flatMap capitalize) := by
  rw [joined, h, List.flatMap_cons, capitalize, List.cons_append]

/-- The joined name begins with a capital where the first word begins with a letter. -/
theorem exists_upper_head?_iff :
    (∃ c ∈ (joined name).head?, c.isUpper = true) ↔ ∃ word ∈ (words name).head?, Lettered word := by
  rcases words_cases name with hwords | ⟨c, cs, rest, hwords⟩
  · rw [joined, hwords]
    simp
  · rw [joined_of_cons hwords, hwords]
    simp [Lettered]

theorem head?_joined_not_lower : ∀ c ∈ (joined name).head?, c.isLower = false := by
  rcases words_cases name with hwords | ⟨c, cs, rest, hwords⟩
  · rw [joined, hwords]
    simp
  · rw [joined_of_cons hwords]
    simp

/-- Behind its front, the joined name has the capitals of its later words. -/
theorem exists_upper_tail_iff :
    (∃ c ∈ (joined name).tail, c.isUpper = true) ↔ ∃ word ∈ (words name).tail, Lettered word := by
  rcases words_cases name with hwords | ⟨c, cs, rest, hwords⟩
  · rw [joined, hwords]
    simp
  · rw [joined_of_cons hwords, hwords, List.tail_cons, List.tail_cons, ← exists_upper_flatMap_iff]
    have hsmall : ∀ d ∈ cs.map Char.toLower, d.isUpper = false := by simp
    constructor
    · rintro ⟨d, hd, hupper⟩
      rcases List.mem_append.mp hd with hfirst | hlater
      · rw [hsmall d hfirst] at hupper
        cases hupper
      · exact ⟨d, hlater, hupper⟩
    · rintro ⟨d, hd, hupper⟩
      exact ⟨d, List.mem_append_right _ hd, hupper⟩

theorem isPascal_iff_of_plain (h : ∀ c ∈ name, isSeparator c = false) :
    isPascal name = true ↔
      (∃ c ∈ name.head?, c.isUpper = true) ∧ ∃ c ∈ name, c.isLower = true := by
  have hplain : name.any isSeparator = false := List.any_eq_false.mpr fun c hc ↦ by simp [h c hc]
  rw [isPascal, hplain, Bool.not_false, Bool.and_true, Bool.and_eq_true, List.any_eq_true]
  cases name <;> simp

/-- A joined name is told as one in Pascal case where its first word begins with a letter and some
word has a letter that is not its first character. -/
theorem isPascal_joined_iff : isPascal (joined name) = true ↔
    (∃ word ∈ (words name).head?, Lettered word) ∧ ∃ word ∈ words name, Lowercased word := by
  rw [isPascal_iff_of_plain (joined_plain name), exists_upper_head?_iff]
  exact and_congr_right fun _ ↦ exists_lower_flatMap_iff

/-- Capitalized as one word, a joined name loses the capitals of its later words. -/
theorem capitalize_joined_iff :
    capitalize (joined name) = joined name ↔ ∀ word ∈ (words name).tail, ¬Lettered word := by
  rw [capitalize_eq_self_iff, and_iff_right head?_joined_not_lower]
  have hcapitals := not_congr (@exists_upper_tail_iff name)
  push Not at hcapitals
  simpa using hcapitals

end Words

/-! ## Converting again -/

/-- A name without separators is one word. -/
theorem pascal_of_plain {name : List Char} (h : ∀ c ∈ name, isSeparator c = false) :
    pascal name = if isPascal name then name else capitalize name := by
  rw [pascal, pieces_of_plain h, List.flatMap_singleton]

theorem isPascal_plain {name : List Char} (h : isPascal name = true) :
    ∀ c ∈ name, isSeparator c = false := by
  intro c hc
  rw [isPascal, Bool.and_eq_true, Bool.not_eq_true'] at h
  exact Bool.eq_false_of_not_eq_true (List.any_eq_false.mp h.2 c hc)

theorem pascal_of_isPascal {name : List Char} (h : isPascal name = true) : pascal name = name := by
  rw [pascal, if_pos h]

theorem pascal_of_not_isPascal {name : List Char} (h : isPascal name = false) :
    pascal name = joined name := by
  rw [pascal_eq, h, if_neg Bool.false_ne_true]

theorem pascal_plain (name : List Char) : ∀ c ∈ pascal name, isSeparator c = false := by
  cases h : isPascal name with
  | true =>
    rw [pascal_of_isPascal h]
    exact isPascal_plain h
  | false =>
    rw [pascal_of_not_isPascal h]
    exact joined_plain name

/-- A name of one word changes once at most. -/
theorem pascal_pascal_of_plain {name : List Char} (h : ∀ c ∈ name, isSeparator c = false) :
    pascal (pascal name) = pascal name := by
  cases hpascal : isPascal name with
  | true => rw [pascal_of_isPascal hpascal, pascal_of_isPascal hpascal]
  | false =>
    have hname : pascal name = capitalize name := by
      rw [pascal_of_plain h, hpascal, if_neg Bool.false_ne_true]
    rw [hname, pascal_of_plain (capitalize_plain h), capitalize_capitalize, ite_self]

/-- A name that is joined from words, is not told as one in Pascal case then, and has got a capital
from a later word. -/
structure Untold (name : List Char) : Prop where
  joins : isPascal name = false
  capital : ∃ word ∈ (words name).tail, Lettered word
  untold : (∀ word ∈ (words name).head?, ¬Lettered word) ∨ ∀ word ∈ words name, ¬Lowercased word

theorem untold_iff {name : List Char} : Untold name ↔
    isPascal name = false ∧ capitalize (joined name) ≠ joined name ∧
      isPascal (joined name) = false := by
  rw [Ne, capitalize_joined_iff, ← Bool.not_eq_true (isPascal (joined name)), isPascal_joined_iff]
  push Not
  constructor
  · rintro ⟨hjoins, hcapital, huntold⟩
    refine ⟨hjoins, hcapital, ?_⟩
    rintro ⟨first, hfirst, hlettered⟩
    exact huntold.resolve_left fun hnone ↦ hnone first hfirst hlettered
  · rintro ⟨hjoins, hcapital, huntold⟩
    refine ⟨hjoins, hcapital, ?_⟩
    by_cases hfirst : ∃ word ∈ (words name).head?, Lettered word
    · exact .inr (huntold hfirst)
    · exact .inl fun word hword hlettered ↦ hfirst ⟨word, hword, hlettered⟩

theorem pascal_pascal_iff (name : List Char) :
    pascal (pascal name) = pascal name ↔ ¬Untold name := by
  rw [untold_iff]
  cases hname : isPascal name with
  | true => simp [pascal_of_isPascal hname]
  | false =>
    rw [pascal_of_not_isPascal hname, pascal_of_plain (joined_plain name)]
    cases hjoined : isPascal (joined name) <;> simp

theorem isPascal_pascal_iff (name : List Char) : isPascal (pascal name) = true ↔
    isPascal name = true ∨
      (∃ word ∈ (words name).head?, Lettered word) ∧ ∃ word ∈ words name, Lowercased word := by
  rw [← isPascal_joined_iff]
  cases hname : isPascal name with
  | true => simp [pascal_of_isPascal hname, hname]
  | false => simp [pascal_of_not_isPascal hname]

theorem toList_pascalName (name : String) : (pascalName name).toList = pascal name.toList := by
  rw [pascalName, String.toList_ofList]

/-- Converting a name again changes nothing, unless the name is joined from words, a later word gives
it a capital, and the joined name is not told as one in Pascal case, since its first word does not
begin with a letter or no word has a letter but at its front. A joined name that is told so stays, and
after two conversions every name stays. -/
theorem pascalName_again (name : String) :
    (pascalName (pascalName name) = pascalName name ↔ ¬Untold name.toList) ∧
      (isPascal (pascalName name).toList = true ↔ isPascal name.toList = true ∨
        (∃ word ∈ (words name.toList).head?, Lettered word) ∧
          ∃ word ∈ words name.toList, Lowercased word) ∧
      (isPascal (pascalName name).toList = true → pascalName (pascalName name) = pascalName name) ∧
      pascalName (pascalName (pascalName name)) = pascalName (pascalName name) := by
  simp only [← String.toList_inj, toList_pascalName]
  refine ⟨pascal_pascal_iff _, isPascal_pascal_iff _, pascal_of_isPascal, ?_⟩
  exact pascal_pascal_of_plain (pascal_plain _)

theorem pascalName_joined_letters : pascalName "a_b" = "AB" ∧ pascalName "AB" = "Ab" ∧
    pascalName (pascalName "a_b") ≠ pascalName "a_b" := by
  decide

end PegKit.Text.Casing
