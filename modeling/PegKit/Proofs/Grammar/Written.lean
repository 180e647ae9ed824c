import PegKit.Grammar
import PegKit.Proofs.Expr.Written

/-!
# Written grammars

A grammar as a text, its rule bodies in grammar form, and the tokens that the text is made of.
-/

namespace PegKit

open Token (Spelled IsName firstKind isIdentifierPart isIdentifierStart)
open PegKit.Expr (Apart Legible)

def Rule.text (rule : Rule) : String :=
  "rule " ++ rule.name ++ " " ++ rule.body.display ++ " end"

/-- The tokens of a rule with its body in the tokens that `spell` says. -/
def Rule.wordsAs (spell : Expr → List (Kind × String)) (rule : Rule) : List (Kind × String) :=
  (.keywordRule, "rule") :: (.identifier, rule.name) :: (spell rule.body ++ [(.keywordEnd, "end")])

/-- The tokens of a rule with its body in grammar form. -/
abbrev Rule.words : Rule → List (Kind × String) := Rule.wordsAs Expr.words

namespace Grammar

/-- A text that declares the rules of the grammar. -/
def text (grammar : Grammar) : String :=
  "grammar " ++ grammar.name ++ String.join (grammar.rules.map fun rule ↦ " " ++ rule.text) ++ " end"

/-- A further segment of a name. -/
def segmentWords (segment : String) : List (Kind × String) :=
  [(.doubleColon, "::"), (.identifier, segment)]

/-- The tokens of a grammar whose name has the segments `first :: others`. -/
def wordsAs (spell : Expr → List (Kind × String)) (first : String) (others : List String)
    (rules : List Rule) : List (Kind × String) :=
  (.keywordGrammar, "grammar") :: (.identifier, first) ::
    (others.flatMap segmentWords ++
      (rules.flatMap (Rule.wordsAs spell) ++ [(.keywordEnd, "end")]))

abbrev words : String → List String → List Rule → List (Kind × String) := wordsAs Expr.words

/-- A rule or the end comes after a name. -/
theorem firstKind_rules (spell : Expr → List (Kind × String)) (rules : List Rule) :
    firstKind (rules.flatMap (Rule.wordsAs spell) ++ [(.keywordEnd, "end")]) = .keywordRule ∨
      firstKind (rules.flatMap (Rule.wordsAs spell) ++ [(.keywordEnd, "end")]) = .keywordEnd := by
  cases rules with
  | nil => exact .inr rfl
  | cons => exact .inl rfl

/-- No body is deeper than the grammar has tokens. -/
theorem depth_le_length {names : List String} {first : String} {others : List String}
    {rules : List Rule} {rule : Rule} (hrule : rule ∈ rules)
    (hbody : rule.body.Everywhere (Legible names)) :
    rule.body.depth ≤ (words first others rules).length := by
  have hdepth := Expr.depth_le_words rule.body hbody
  obtain ⟨before, after, rfl⟩ := List.append_of_mem hrule
  simp only [wordsAs, Rule.wordsAs, List.flatMap_append, List.flatMap_cons, List.length_append,
    List.length_cons]
  omega

end Grammar

/-! ## Characters -/

variable {cs : List Char} {words : List (Kind × String)}

/-- The closing keyword after a blank. -/
theorem end_spelled (h : Spelled cs words) (hstop : ∀ c ∈ cs.head?, isIdentifierPart c = false) :
    Spelled (" end".toList ++ cs) ((.keywordEnd, "end") :: words) := by
  have hend : Spelled ('e' :: ['n', 'd'] ++ cs)
      ((.keywordEnd, String.ofList ('e' :: ['n', 'd'])) :: words) :=
    h.keyword (by decide) (List.all_eq_true.mp (by decide)) (by decide) hstop
  exact hend.blank (by rintro _ ⟨⟩; decide)

/-- A name between two blanks. -/
theorem name_spelled {name : String} (h : Spelled cs words) (hname : IsName name.toList)
    (hblank : ∀ c ∈ cs.head?, c ≠ ' ' ∧ c ≠ '\t') (hother : firstKind words ≠ .colon) :
    Spelled (' ' :: (name.toList ++ ' ' :: cs)) ((.identifier, name) :: words) := by
  have hnamed := (h.blank hblank).name hname (by rintro _ ⟨⟩; rfl)
    fun hcolon ↦ absurd hcolon hother
  rw [String.ofList_toList] at hnamed
  apply hnamed.blank
  intro c hc
  exact ((Expr.IsName.leads hname name).append _ []).not_blank c hc

/-- A blank, the keyword and the name of a rule in front of its body. -/
theorem ruleHead_spelled {name : String} (h : Spelled cs words) (hname : IsName name.toList)
    (hblank : ∀ c ∈ cs.head?, c ≠ ' ' ∧ c ≠ '\t') (hother : firstKind words ≠ .colon) :
    Spelled (' ' :: ('r' :: ['u', 'l', 'e'] ++ (' ' :: (name.toList ++ ' ' :: cs))))
      ((.keywordRule, "rule") :: (.identifier, name) :: words) := by
  have hrule : Spelled ('r' :: ['u', 'l', 'e'] ++ _) ((.keywordRule, "rule") :: _) :=
    (name_spelled h hname hblank hother).keyword (by decide) (List.all_eq_true.mp (by decide))
      (by decide) (by rintro _ ⟨⟩; rfl)
  exact hrule.blank (by rintro _ ⟨⟩; decide)

/-- The keyword and the first segment of its name in front of the rest of a grammar. -/
theorem grammarHead_spelled {first : String} (h : Spelled cs words) (hname : IsName first.toList)
    (hstop : ∀ c ∈ cs.head?, isIdentifierPart c = false) (hother : firstKind words ≠ .colon) :
    Spelled ('g' :: ['r', 'a', 'm', 'm', 'a', 'r'] ++ (' ' :: (first.toList ++ cs)))
      ((.keywordGrammar, "grammar") :: (.identifier, first) :: words) := by
  have hnamed := h.name hname hstop fun hcolon ↦ absurd hcolon hother
  rw [String.ofList_toList] at hnamed
  have hleads := (Expr.IsName.leads hname first).append cs []
  exact (hnamed.blank hleads.not_blank).keyword (by decide) (List.all_eq_true.mp (by decide))
    (by decide) (by rintro _ ⟨⟩; rfl)

theorem Rule.text_toList (rule : Rule) : (" " ++ rule.text).toList =
    ' ' :: ('r' :: ['u', 'l', 'e'] ++ (' ' :: (rule.name.toList ++ ' ' ::
      (rule.body.displayChars ++ " end".toList)))) := by
  simp [Rule.text, Expr.display]

theorem rule_spelled {names : List String} {rule : Rule} (h : Spelled cs words)
    (hstop : ∀ c ∈ cs.head?, isIdentifierPart c = false) (hname : IsName rule.name.toList)
    (hbody : rule.body.Everywhere (Legible names)) :
    Spelled ((" " ++ rule.text).toList ++ cs) (rule.words ++ words) := by
  have hleads := (Expr.display_leads rule.body hbody).append (" end".toList ++ cs)
    ((.keywordEnd, "end") :: words)
  have hended : Spelled _ (rule.body.words ++ (.keywordEnd, "end") :: words) :=
    (Expr.display_spells rule.body hbody).inFront (end_spelled h hstop)
      (Expr.apart_cons rfl (by rintro ⟨⟩))
  have hrule := ruleHead_spelled hended hname hleads.not_blank (hleads.firstKind_ne rfl)
  rw [Rule.text_toList, Rule.words, Rule.wordsAs]
  simpa using hrule

theorem rules_stop (rules : List Rule) (hstop : ∀ c ∈ cs.head?, isIdentifierPart c = false) :
    ∀ c ∈ ((rules.map fun rule ↦ " " ++ rule.text).flatMap String.toList ++ cs).head?,
      isIdentifierPart c = false := by
  cases rules with
  | nil => exact hstop
  | cons rule rest =>
    rw [List.map_cons, List.flatMap_cons, Rule.text_toList]
    rintro _ ⟨⟩
    rfl

/-- The declarations of rules, a blank before each. -/
theorem rules_spelled {names : List String} {rules : List Rule} (h : Spelled cs words)
    (hstop : ∀ c ∈ cs.head?, isIdentifierPart c = false)
    (hnames : ∀ rule ∈ rules, IsName rule.name.toList)
    (hbodies : ∀ rule ∈ rules, rule.body.Everywhere (Legible names)) :
    Spelled ((rules.map fun rule ↦ " " ++ rule.text).flatMap String.toList ++ cs)
      (rules.flatMap Rule.words ++ words) := by
  induction rules with
  | nil => exact h
  | cons rule rest ih =>
    obtain ⟨hname, hnames⟩ := List.forall_mem_cons.mp hnames
    obtain ⟨hbody, hbodies⟩ := List.forall_mem_cons.mp hbodies
    rw [List.map_cons, List.flatMap_cons, List.flatMap_cons, List.append_assoc, List.append_assoc]
    exact rule_spelled (ih hnames hbodies) (rules_stop rest hstop) hname hbody

theorem segments_stop (others : List String)
    (hstop : ∀ c ∈ cs.head?, isIdentifierPart c = false) :
    ∀ c ∈ (others.flatMap (fun segment ↦ ':' :: ':' :: segment.toList) ++ cs).head?,
      isIdentifierPart c = false := by
  cases others with
  | nil => exact hstop
  | cons =>
    rintro _ ⟨⟩
    rfl

/-- The further segments of a name, a double colon before each. -/
theorem segments_spelled {others : List String} (h : Spelled cs words)
    (hstop : ∀ c ∈ cs.head?, isIdentifierPart c = false) (hother : firstKind words ≠ .colon)
    (hnames : ∀ segment ∈ others, IsName segment.toList) :
    Spelled (others.flatMap (fun segment ↦ ':' :: ':' :: segment.toList) ++ cs)
      (others.flatMap Grammar.segmentWords ++ words) ∧
      firstKind (others.flatMap Grammar.segmentWords ++ words) ≠ .colon := by
  induction others with
  | nil => exact ⟨h, hother⟩
  | cons segment rest ih =>
    obtain ⟨hname, hnames⟩ := List.forall_mem_cons.mp hnames
    obtain ⟨hrest, hnext⟩ := ih hnames
    have hsegment := hrest.name hname (segments_stop rest hstop)
      fun hcolon ↦ absurd hcolon hnext
    rw [String.ofList_toList] at hsegment
    refine ⟨?_, by rintro ⟨⟩⟩
    simpa [Grammar.segmentWords] using hsegment.doubleColon

theorem name_toList (first : String) (others : List String) :
    ("::".intercalate (first :: others)).toList =
      first.toList ++ others.flatMap fun segment ↦ ':' :: ':' :: segment.toList := by
  induction others generalizing first with
  | nil => simp
  | cons segment rest ih =>
    rw [String.intercalate_cons_cons, String.toList_append, ih, List.flatMap_cons]
    simp

namespace Grammar

theorem text_toList (grammar : Grammar) : grammar.text.toList =
    'g' :: ['r', 'a', 'm', 'm', 'a', 'r'] ++ (' ' :: (grammar.name.toList ++
      ((grammar.rules.map fun rule ↦ " " ++ rule.text).flatMap String.toList ++
        " end".toList))) := by
  simp [text]

/-- The text of a grammar is made of its words. -/
theorem text_spelled {grammar : Grammar} {first : String} {others : List String}
    {names : List String} (hname : grammar.name = "::".intercalate (first :: others))
    (hsegments : ∀ segment ∈ first :: others, IsName segment.toList)
    (hnames : ∀ rule ∈ grammar.rules, IsName rule.name.toList)
    (hbodies : ∀ rule ∈ grammar.rules, rule.body.Everywhere (Legible names)) :
    Spelled grammar.text.toList (Grammar.words first others grammar.rules) := by
  obtain ⟨hfirst, hothers⟩ := List.forall_mem_cons.mp hsegments
  have hend : Spelled (" end".toList ++ []) [(.keywordEnd, "end")] :=
    end_spelled .nil (by rintro _ ⟨⟩)
  rw [List.append_nil] at hend
  have hstop := rules_stop grammar.rules (by rintro _ ⟨⟩; rfl : ∀ c ∈ " end".toList.head?, _)
  have hcolon :
      firstKind (grammar.rules.flatMap Rule.words ++ [(.keywordEnd, "end")]) ≠ .colon := by
    rcases firstKind_rules Expr.words grammar.rules with hkind | hkind <;> rw [hkind] <;> decide
  obtain ⟨hmore, hnext⟩ := segments_spelled
    (rules_spelled hend (by rintro _ ⟨⟩; rfl) hnames hbodies) hstop hcolon hothers
  rw [text_toList, hname, name_toList, List.append_assoc]
  exact grammarHead_spelled hmore hfirst (segments_stop others hstop) hnext

end Grammar

end PegKit
