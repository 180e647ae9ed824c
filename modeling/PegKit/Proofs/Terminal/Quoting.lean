import PegKit.Proofs.Compilation.Display

/-!
# Quoted terminals in a grammar

The text of a terminal, wherever it is shown, is a string of the grammar language: its last quote
and no other closes it, its value stands for the terminal, and a rule can have it for a body.
-/

namespace PegKit.Terminal

open Text (byteLength)
open Token (lex lexFrom quotedTokens)

/-! ## Tokens -/

/-- Quoted text is one string, whatever comes after it. -/
theorem lexFrom_quote (text : String) (start : Nat) (rest : List Char) :
    lexFrom start ((quote text).toList ++ rest) =
      quotedTokens start (text.toList.flatMap quoteChar) ++
        lexFrom (start + byteLength (quote text).toList) rest := by
  have hread := Token.lexFrom_quoted (quoteChars_closes text.toList) start rest
  rw [quote, String.toList_ofList]
  simpa [quoteChars] using hread

theorem lex_quote (text : String) :
    lex (quote text).toList = quotedTokens 0 (text.toList.flatMap quoteChar) := by
  have hread := lexFrom_quote text 0 []
  rwa [List.append_nil, Token.lexFrom_nil, List.append_nil] at hread

theorem quoteChar_ne_nil (c : Char) : quoteChar c ≠ [] := by
  fun_cases quoteChar <;> exact List.cons_ne_nil _ _

/-- Only the empty text is quoted as nothing. -/
theorem flatMap_quoteChar_eq_nil_iff (cs : List Char) : cs.flatMap quoteChar = [] ↔ cs = [] := by
  cases cs with
  | nil => exact Iff.rfl
  | cons c cs => simp [quoteChar_ne_nil c]

/-! ## A grammar around a terminal -/

/-- The grammar whose only rule is a terminal. -/
def alone (text : String) : Grammar := ⟨"g", [⟨"r", .terminal text⟩], []⟩

theorem alone_text (text : String) :
    (alone text).text = "grammar g rule r " ++ quote text ++ " end end" := by
  rw [← String.toList_inj]
  simp [alone, Grammar.text, Rule.text, Expr.display, Expr.displayChars, quote]

theorem isName_singleton {c : Char} (hstart : Token.isIdentifierStart c = true)
    (hfree : Token.keyword? [c] = none) : Token.IsName [c] :=
  .intro hstart (by rintro _ ⟨⟩) hfree

theorem alone_segments : ∀ segment ∈ ["g"], Token.IsName segment.toList := by
  intro segment hsegment
  rw [List.mem_singleton.mp hsegment]
  exact isName_singleton rfl rfl

theorem alone_writable (text : String) : (alone text).Writable where
  segments := ⟨"g", [], rfl, alone_segments⟩
  distinct := List.nodup_singleton _
  names := by
    intro rule hrule
    rw [List.mem_singleton.mp hrule]
    have hname : Token.IsName "r".toList := isName_singleton rfl rfl
    exact hname
  bodies := by
    intro rule hrule
    rw [List.mem_singleton.mp hrule]
    exact Meaning.everywhere_intro trivial (by rintro _ ⟨⟩)

theorem quotedWords_length_le (body : List Char) : (Token.quotedWords body).length ≤ 3 := by
  cases body with
  | nil => exact Nat.le_succ 2
  | cons => exact Nat.le_refl 3

theorem alone_fits (text : String) : (alone text).Fits {} where
  tokens := by
    rintro _ ⟨⟩
    have hspelled : Token.Spelled (alone text).text.toList
        (Grammar.words "g" [] (alone text).rules) :=
      Grammar.text_spelled rfl alone_segments (alone_writable text).names
        (alone_writable text).bodies
    have hwords := congrArg List.length (hspelled.words 0)
    have hquoted := quotedWords_length_le (text.toList.flatMap quoteChar)
    rw [List.length_map] at hwords
    calc (Token.significant (lex (alone text).text.toList)).length
      _ = (Token.quotedWords (text.toList.flatMap quoteChar)).length + 6 := by
        refine hwords.trans ?_
        simp [Grammar.wordsAs, Rule.wordsAs, alone, Expr.words]
      _ ≤ 1000000 := by omega
  levels := by
    rintro _ ⟨⟩ rule hrule
    rw [List.mem_singleton.mp hrule]
    exact Nat.one_le_iff_ne_zero.mpr (by decide)

/-- A rule can have quoted text for its body. -/
theorem compile_alone (text : String) : ∃ grammar,
    Compilation.compile ("grammar g rule r " ++ quote text ++ " end end") = .ok grammar ∧
      grammar.rules = [⟨"r", .terminal text⟩] := by
  have hrestorable : ∀ rule ∈ (alone text).rules, rule.body.Everywhere Expr.Restorable := by
    intro rule hrule
    rw [List.mem_singleton.mp hrule]
    exact Meaning.everywhere_intro trivial (by rintro _ ⟨⟩)
  obtain ⟨again, hagain, _, hrules⟩ :=
    Compilation.compileWithin_text (alone_writable text) hrestorable (alone_fits text)
  rw [alone_text] at hagain
  exact ⟨again, hagain, hrules⟩

/-- Quoted text is an opening quote, a value unless the text is empty, and a closing quote, and the
value stands for the text. It is read so in front of anything, and a rule can have it for a body;
it is what an expression is displayed as and what a failed operation is reported by. -/
theorem quoted_text_read_back (text : String) : ∃ body : String,
    quote text = "'" ++ body ++ "'" ∧ (body = "" ↔ text = "") ∧ unescape body = .ok text ∧
    lex (quote text).toList = quotedTokens 0 body.toList ∧
    (∀ start rest, lexFrom start ((quote text).toList ++ rest) =
      quotedTokens start body.toList ++ lexFrom (start + byteLength (quote text).toList) rest) ∧
    (Expr.terminal text).display = quote text ∧
    (Op.terminal text).describe? = some (quote text) ∧
    ∃ grammar, Compilation.compile ("grammar g rule r " ++ quote text ++ " end end") =
      .ok grammar ∧ grammar.rules = [⟨"r", .terminal text⟩] := by
  refine ⟨String.ofList (text.toList.flatMap quoteChar), ?_, ?_, ?_, ?_, ?_, rfl, rfl,
    compile_alone text⟩
  · rw [← String.toList_inj]
    simp [quote, quoteChars]
  · rw [← String.toList_inj, String.toList_ofList, ← String.toList_inj]
    exact flatMap_quoteChar_eq_nil_iff text.toList
  · rw [unescape, String.toList_ofList, unescapeFrom_quoteChars]
    exact congrArg Except.ok String.ofList_toList
  · rw [String.toList_ofList]
    exact lex_quote text
  · rw [String.toList_ofList]
    exact lexFrom_quote text

end PegKit.Terminal
