import PegKit.Proofs.Cst.Preservation
import PegKit.Proofs.Cst.Totality
import PegKit.Proofs.Token.Tiling

/-!
# Where the tokens of a tree come from

Reading moves each token from those ahead to those held back and on to the open node, and never past
another one. At the end only the tree holds any: its tokens are those of the text, in order, and its
text is the text that was read.
-/

namespace PegKit.Cst

namespace Parse

variable {trees trees' : List Cst}

theorem tokensOfList_append :
    tokensOfList (trees ++ trees') = tokensOfList trees ++ tokensOfList trees' := by
  rw [tokensOfList_eq_flatMap, tokensOfList_eq_flatMap, tokensOfList_eq_flatMap,
    List.flatMap_append]

theorem tokensOfList_leaves (tokens : List Token) :
    tokensOfList (tokens.map Cst.leaf) = tokens := by
  induction tokens with
  | nil => rfl
  | cons token rest ih => rw [List.map_cons, tokensOfList, ih, tokens, List.singleton_append]

theorem tokensOfList_singleton (tree : Cst) : tokensOfList [tree] = tree.tokens := by
  rw [tokensOfList, tokensOfList, List.append_nil]

theorem tokensOfList_push (built : Array Cst) (tree : Cst) :
    tokensOfList (built.push tree).toList = tokensOfList built.toList ++ tree.tokens := by
  rw [Array.toList_push, tokensOfList_append, tokensOfList_singleton]

theorem tokens_leaf (token : Token) : (Cst.leaf token).tokens = [token] := rfl

theorem tokens_node (kind : Kind) (children : List Cst) :
    (Cst.node kind children).tokens = tokensOfList children := rfl

/-- The tokens in the open node, those held back and those ahead. -/
def lineUp (s : State) : List Token :=
  tokensOfList s.built.toList ++ (s.pending ++ s.remaining)

/-- No action drops, repeats or moves a token. -/
theorem lineUp_respected : Respected fun s s' ↦ lineUp s' = lineUp s where
  refl _ := rfl
  trans h h' := h'.trans h
  looked _ _ := rfl
  passed s := by
    unfold lineUp
    rw [List.append_assoc, List.takeWhile_append_dropWhile]
  flushed s := by
    unfold lineUp
    rw [Array.toList_append, tokensOfList_append, tokensOfList_leaves, List.nil_append,
      List.append_assoc]
  nested {s s'} kind hinner := by
    have hinside : tokensOfList s'.built.toList ++ (s'.pending ++ s'.remaining) =
        s.pending ++ s.remaining := hinner
    unfold lineUp
    rw [tokensOfList_push, tokens_node, List.append_assoc, hinside]
  wrapped s start kind := by
    have hsplit : (s.built.take start).toList ++ s.built.toList.drop start = s.built.toList := by
      simp
    unfold lineUp
    rw [tokensOfList_push, tokens_node, ← tokensOfList_append, hsplit]
  taken s token rest hremaining hpending := by
    unfold lineUp
    rw [tokensOfList_push, tokens_leaf, hpending, hremaining, List.nil_append, List.nil_append,
      List.append_assoc, List.singleton_append]
  placed _ _ := rfl
  reported _ _ := rfl

end Parse

/-- The tokens of a tree are those of the text. -/
theorem parse_tokens {source : String} {limits : Limits} {parsed : Parsed}
    (hparse : Cst.parse source limits = .ok parsed) :
    parsed.root.tokens = Token.lex source.toList := by
  obtain ⟨s, hrun, ⟨hremaining, hpending, hbuilt⟩, _⟩ := parse_run hparse
  have hend : Parse.lineUp s = Parse.lineUp
      (Parse.start (Token.lex source.toList) source.utf8ByteSize limits.execFuel) :=
    (Parse.root_preserves Parse.lineUp_respected _).holds hrun
  calc
    parsed.root.tokens = Parse.lineUp s := by
      rw [Parse.lineUp, hbuilt, hremaining, hpending, Parse.tokensOfList_singleton,
        List.append_nil, List.append_nil]
    _ = Token.lex source.toList := hend

theorem text_of_tokens (tokens : List Token) :
    (String.join (tokens.map (·.text))).toList = Token.characters tokens := by
  induction tokens with
  | nil => rfl
  | cons token rest ih =>
    rw [List.map_cons, String.join_cons, String.toList_append, ih]
    rfl

/-- A tree is lossless: whatever stands in the text, with errors or without, the tokens of its tree
are its tokens in order, trivia among them, and the text of the tree is the text itself. -/
theorem parse_lossless {source : String} {limits : Limits} {parsed : Parsed}
    (hparse : Cst.parse source limits = .ok parsed) :
    parsed.root.tokens = Token.lex source.toList ∧ parsed.root.text = source := by
  have htokens := parse_tokens hparse
  refine ⟨htokens, ?_⟩
  apply String.toList_inj.mp
  calc
    parsed.root.text.toList = Token.characters parsed.root.tokens := text_of_tokens _
    _ = Token.characters (Token.lex source.toList) := by rw [htokens]
    _ = source.toList := Token.lex_characters _

theorem parse_lossless_unclosed : ∃ parsed,
    Cst.parse "grammar G rule a 'x' ) ( # c\n end $ end" ⟨some 100, some 3⟩ = .ok parsed ∧
      parsed.diagnostics.hasErrors = true ∧
      parsed.root.tokens = Token.lex "grammar G rule a 'x' ) ( # c\n end $ end".toList ∧
      parsed.root.text = "grammar G rule a 'x' ) ( # c\n end $ end" := by
  have herrors : (Cst.parse "grammar G rule a 'x' ) ( # c\n end $ end"
      ⟨some 100, some 3⟩).toOption.map (·.diagnostics.hasErrors) = some true := by decide +kernel
  cases hparse : Cst.parse "grammar G rule a 'x' ) ( # c\n end $ end" ⟨some 100, some 3⟩ with
  | error fault =>
    rw [hparse] at herrors
    cases herrors
  | ok parsed =>
    rw [hparse] at herrors
    exact ⟨parsed, rfl, Option.some.inj herrors, parse_lossless hparse⟩

end PegKit.Cst
