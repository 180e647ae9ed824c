import Mathlib.Data.List.TakeWhile
import PegKit.Cst.View
import PegKit.Proofs.Token.Spacing

/-!
# Writing tokens

What tokens of the kinds with a text of their own look like, and texts put together from tokens.
What is written in front of a text reads as one more token in front of its tokens, as long as the
text does not go on where the token should end.
-/

namespace PegKit.Token

open Text (byteLength)

/-! ## Literals and names -/

/-- What follows the opening character of a literal, up to the one that closes it. -/
inductive Closes (close : Char) : List Char → Prop
  | done : Closes close [close]
  | escaped {c : Char} {cs : List Char} (escape : '\\' ≠ close) (line : c ≠ '\n')
      (others : Closes close cs) : Closes close ('\\' :: c :: cs)
  | plain {c : Char} {cs : List Char} (goesOn : c ≠ close) (line : c ≠ '\n') (escape : c ≠ '\\')
      (others : Closes close cs) : Closes close (c :: cs)

theorem Closes.reach {close : Char} {inside : List Char} (h : Closes close inside)
    (rest : List Char) : literalReach close (inside ++ rest) = (inside.length, true) := by
  induction h with
  | done =>
    rw [List.singleton_append, literalReach.eq_def]
    simp
  | escaped escape line _ ih =>
    rw [List.cons_append, List.cons_append, literalReach.eq_def]
    simp only [if_neg escape, if_neg line, ih]
    rfl
  | plain goesOn line escape _ ih =>
    rw [List.cons_append, literalReach.eq_def]
    simp only [if_neg goesOn, if_neg line, if_neg escape, ih]
    rfl

/-- How far a closed literal goes. -/
theorem closes_take {close : Char} {cs : List Char} {count : Nat}
    (h : literalReach close cs = (count, true)) : Closes close (cs.take count) := by
  fun_induction literalReach close cs generalizing count with
  | case1 => cases h
  | case2 cs =>
    cases h
    exact .done
  | case3 => cases h
  | case4 => cases h
  | case5 => cases h
  | case6 d ds hline found closed hreach hclose _ ih =>
    cases h
    rw [List.take_succ_cons, List.take_succ_cons]
    exact .escaped hclose hline (ih hreach)
  | case7 c cs hclose hline hescape found closed hreach ih =>
    cases h
    rw [List.take_succ_cons]
    exact .plain hclose hline hescape (ih hreach)

/-- A name that is no keyword. -/
inductive IsName : List Char → Prop
  | intro {c : Char} {cs : List Char} (starts : isIdentifierStart c = true)
      (goesOn : ∀ d ∈ cs, isIdentifierPart d = true) (free : keyword? (c :: cs) = none) :
      IsName (c :: cs)

/-- A class between its brackets. -/
inductive IsClass : List Char → Prop
  | intro {inside : List Char} (closes : Closes ']' inside) : IsClass ('[' :: inside)

/-- A text between braces that opens as many as it closes. -/
inductive IsBlock : List Char → Prop
  | intro {inner : List Char} (balanced : depthAfter? 0 inner = some 0) :
      IsBlock ('{' :: inner ++ ['}'])

/-- What a token of the kind looks like, for the kinds of names, classes and blocks. No token is of
the kind of an expression. -/
def Formed (piece : Kind × List Char) : Prop :=
  match piece.1 with
  | .identifier => IsName piece.2
  | .charClass => IsClass piece.2
  | .block => IsBlock piece.2
  | kind => kind.isExpression = false

theorem Formed.not_isExpression {piece : Kind × List Char} (h : Formed piece) :
    piece.1.isExpression = false := by
  unfold Formed at h
  split at h
  · next hkind => rw [hkind]; rfl
  · next hkind => rw [hkind]; rfl
  · next hkind => rw [hkind]; rfl
  · exact h

/-- What is read as a token looks like one. -/
def Lexeme.Forms (lexeme : Lexeme) (c : Char) (cs : List Char) : Prop :=
  ∀ kind, lexeme.kind = some kind → Formed (kind, c :: cs.take lexeme.following)

theorem keyword_formed (name : List Char)
    (hname : keyword? name = none → IsName name) :
    Formed ((keyword? name).getD .identifier, name) := by
  cases hkeyword : keyword? name with
  | none => exact hname hkeyword
  | some kind =>
    unfold keyword? at hkeyword
    split at hkeyword
    · cases hkeyword
      rfl
    split at hkeyword
    · cases hkeyword
      rfl
    split at hkeyword
    · cases hkeyword
      rfl
    split at hkeyword
    · cases hkeyword
      rfl
    · cases hkeyword

theorem literal_forms {kind : Kind} {close c : Char} {cs : List Char}
    (h : ∀ inside, Closes close inside → Formed (kind, c :: inside)) :
    (literal kind close cs).Forms c cs := by
  intro found hfound
  unfold literal at hfound ⊢
  cases hreach : literalReach close cs with
  | mk count closed =>
    rw [hreach] at hfound
    cases closed with
    | false => cases hfound
    | true =>
      cases hfound
      exact h _ (closes_take hreach)

theorem scan_formed {c : Char} {cs : List Char} {kind : Kind} (h : (scan c cs).kind = some kind) :
    Formed (kind, c :: cs.take (scan c cs).following) := by
  have hite {p : Prop} [Decidable p] {first second : Lexeme}
      (hfirst : p → first.Forms c cs) (hsecond : second.Forms c cs) :
      (if p then first else second).Forms c cs := by
    split
    · exact hfirst ‹p›
    · exact hsecond
  have hsome {kind : Kind} {following : Nat} (h : ∀ text, Formed (kind, text)) :
      Lexeme.Forms ⟨some kind, following⟩ c cs := by
    rintro _ ⟨⟩
    exact h _
  have hnone {following : Nat} : Lexeme.Forms ⟨none, following⟩ c cs := by rintro _ ⟨⟩
  suffices (scan c cs).Forms c cs from this kind h
  unfold scan
  repeat' refine hite (fun _ ↦ ?_) ?_
  all_goals first
    | exact hnone
    | exact hsome fun _ ↦ rfl
    | exact literal_forms fun _ _ ↦ rfl
    | skip
  case refine_1 hbrace =>
    split
    · next count hreach =>
      obtain ⟨inner, hinner, hbalanced⟩ := depthAfter?_of_blockReach hreach
      rintro _ ⟨⟩
      rw [hinner, hbrace]
      exact .intro hbalanced
    · exact hnone
  case refine_1 hbracket =>
    rw [hbracket]
    exact literal_forms fun _ hcloses ↦ .intro hcloses
  case refine_1 hstart =>
    rintro _ ⟨⟩
    rw [← List.prefix_iff_eq_take.mp (List.takeWhile_prefix _)]
    exact keyword_formed _ fun hfree ↦ .intro hstart (fun _ hmem ↦ List.mem_takeWhile_imp hmem) hfree

/-- Every token of a text looks like one of its kind. -/
theorem lex_formed (source : List Char) :
    ∀ token ∈ lex source, Formed (token.kind, token.text.toList) := by
  have hpieces := pieces_forall scan_formed (fun _ ↦ rfl) source
  have hquote (mark : Char) :
      Formed (if mark = '"' then Kind.doubleQuote else .singleQuote, [mark]) := by
    by_cases hmark : mark = '"'
    · rw [if_pos hmark]
      rfl
    · rw [if_neg hmark]
      rfl
  have hparts : ∀ part ∈ (gather [] (cut source)).flatMap splitLiteral, Formed part := by
    intro part hpart
    obtain ⟨piece, hpiece, hpart⟩ := List.mem_flatMap.mp hpart
    unfold splitLiteral at hpart
    split at hpart
    · simp only [List.mem_append, List.mem_cons, List.not_mem_nil, or_false] at hpart
      rcases hpart with (rfl | hpart) | rfl
      · exact hquote _
      · split at hpart
        · cases hpart
        · rw [List.mem_singleton.mp hpart]
          rfl
      · exact hquote _
    · rw [List.mem_singleton.mp hpart]
      exact hpieces piece hpiece
  unfold lex
  generalize (gather [] (cut source)).flatMap splitLiteral = parts at hparts
  suffices ∀ start, ∀ token ∈ place start parts, Formed (token.kind, token.text.toList) from
    this 0
  induction parts with
  | nil =>
    intro start token htoken
    cases htoken
  | cons part rest ih =>
    obtain ⟨hpart, hrest⟩ := List.forall_mem_cons.mp hparts
    intro start token htoken
    rcases List.mem_cons.mp htoken with rfl | htoken
    · rw [String.toList_ofList]
      exact hpart
    · exact ih hrest _ token htoken

/-! ## Texts put together -/

/-- The tokens of a text that begins at byte `start`. -/
def lexFrom (start : Nat) (source : List Char) : List Token :=
  place start ((gather [] (cut source)).flatMap splitLiteral)

theorem lexFrom_nil (start : Nat) : lexFrom start [] = [] := by
  unfold lexFrom
  rw [cut]
  rfl

theorem place_append (start : Nat) (pieces pieces' : List (Kind × List Char)) :
    place start (pieces ++ pieces') = place start pieces ++
      place (start + Text.byteLength (pieces.flatMap (·.2))) pieces' := by
  induction pieces generalizing start with
  | nil => rfl
  | cons piece rest ih =>
    rw [List.cons_append, place, ih, List.flatMap_cons, Text.byteLength_append, Nat.add_assoc]
    rfl

section Lexemes

variable {c : Char} {inside cs : List Char} {kind : Kind}

/-- A text that begins with a whole token. -/
theorem pieces_lexeme (hscan : scan c (inside ++ cs) = ⟨some kind, inside.length⟩) :
    gather [] (cut (c :: inside ++ cs)) = (kind, c :: inside) :: gather [] (cut cs) := by
  rw [List.cons_append, cut, hscan]
  simp [gather, garbagePiece]

theorem lexFrom_lexeme (hscan : scan c (inside ++ cs) = ⟨some kind, inside.length⟩)
    (hkind : kind ≠ .stringLiteral) (start : Nat) :
    lexFrom start (c :: inside ++ cs) = ⟨kind, start, String.ofList (c :: inside)⟩ ::
      lexFrom (start + Text.byteLength (c :: inside)) cs := by
  have hsplit : splitLiteral (kind, c :: inside) = [(kind, c :: inside)] := by
    unfold splitLiteral
    split
    · next heq =>
      cases heq
      exact absurd rfl hkind
    · rfl
  unfold lexFrom
  rw [pieces_lexeme hscan, List.flatMap_cons, hsplit]
  rfl

end Lexemes

/-- The tokens of a string of single quotes at byte `start`. An empty value is no token. -/
def quotedTokens (start : Nat) (body : List Char) : List Token :=
  ⟨.singleQuote, start, "'"⟩ ::
    (if body.isEmpty then [] else [⟨.stringValue, start + 1, String.ofList body⟩]) ++
    [⟨.singleQuote, start + 1 + byteLength body, "'"⟩]

/-- A string that its last quote closes, in front of any text. -/
theorem lexFrom_quoted {body : List Char} (hcloses : Closes '\'' (body ++ ['\'']))
    (start : Nat) (cs : List Char) :
    lexFrom start ('\'' :: body ++ '\'' :: cs) =
      quotedTokens start body ++ lexFrom (start + byteLength ('\'' :: body ++ ['\''])) cs := by
  have hscan : scan '\'' ((body ++ ['\'']) ++ cs) =
      ⟨some .stringLiteral, (body ++ ['\'']).length⟩ := by
    change literal .stringLiteral '\'' _ = _
    rw [literal, hcloses.reach]
    rfl
  have hsplit : splitLiteral (.stringLiteral, '\'' :: (body ++ ['\''])) =
      (Kind.singleQuote, ['\'']) :: (if body.isEmpty then [] else [(Kind.stringValue, body)]) ++
        [(Kind.singleQuote, ['\''])] := by
    simp [splitLiteral]
  have hpieces := pieces_lexeme hscan
  rw [List.cons_append, List.append_assoc, List.singleton_append] at hpieces
  have htext : ((Kind.singleQuote, ['\'']) ::
      (if body.isEmpty then [] else [(Kind.stringValue, body)]) ++
        [(Kind.singleQuote, ['\''])]).flatMap (·.2) = '\'' :: body ++ ['\''] := by
    cases body <;> simp
  unfold lexFrom
  rw [List.cons_append, hpieces, List.flatMap_cons, hsplit, place_append, htext]
  congr 1
  cases body <;> rfl

/-- The kind of the first word; an error when there is none. -/
def firstKind (words : List (Kind × String)) : Kind := (words.head?.map Prod.fst).getD .error

/-- What a string of single quotes says. -/
def quotedWords (body : List Char) : List (Kind × String) :=
  (.singleQuote, "'") :: (if body.isEmpty then [] else [(.stringValue, String.ofList body)]) ++
    [(.singleQuote, "'")]

/-- The significant tokens of a text say `words`, and trivia parts none of them that are consumed
together. -/
structure Spelled (cs : List Char) (words : List (Kind × String)) : Prop where
  words : ∀ start, (significant (lexFrom start cs)).map word = words
  joined : ∀ start, true ∉ parted (lexFrom start cs)

/-- No trivia begins the text. -/
def Opens (cs : List Char) : Prop := ∀ start, (lexFrom start cs).head?.any isTrivia = false

namespace Spelled

variable {c : Char} {inside cs : List Char} {kind : Kind} {words : List (Kind × String)}

theorem nextKind (h : Spelled cs words) (start : Nat) :
    nextKind (lexFrom start cs) = firstKind words := by
  rw [← h.words start, firstKind, List.head?_map, Option.map_map]
  rfl

theorem nil : Spelled [] [] :=
  ⟨fun start ↦ by rw [lexFrom_nil]; rfl, fun start ↦ by rw [lexFrom_nil]; rintro ⟨⟩⟩

/-- One more token in front. -/
theorem lexeme (h : Spelled cs words)
    (hscan : scan c (inside ++ cs) = ⟨some kind, inside.length⟩) (hkind : kind ≠ .stringLiteral)
    (htrivia : kind.isTrivia = false)
    (hjoins : kind.joins (firstKind words) = true → Opens cs) :
    Spelled (c :: inside ++ cs) ((kind, String.ofList (c :: inside)) :: words) := by
  refine ⟨fun start ↦ ?_, fun start ↦ ?_⟩
  · have hfirst : isTrivia ⟨kind, start, String.ofList (c :: inside)⟩ = false := htrivia
    rw [lexFrom_lexeme hscan hkind, significant_of_not_trivia hfirst, List.map_cons, h.words]
    rfl
  · rw [lexFrom_lexeme hscan hkind, parted, h.nextKind]
    dsimp only
    split
    · next hjoined =>
      rw [hjoins hjoined]
      simpa using h.joined _
    · exact h.joined _

theorem lexeme_opens (hscan : scan c (inside ++ cs) = ⟨some kind, inside.length⟩)
    (hkind : kind ≠ .stringLiteral) (htrivia : kind.isTrivia = false) :
    Opens (c :: inside ++ cs) := by
  intro start
  rw [lexFrom_lexeme hscan hkind]
  exact htrivia

/-- A blank in front. -/
theorem blank (h : Spelled cs words) (hother : ∀ d ∈ cs.head?, d ≠ ' ' ∧ d ≠ '\t') :
    Spelled (' ' :: cs) words := by
  have hnone : cs.takeWhile (fun d ↦ d == ' ' || d == '\t') = [] := by
    cases cs with
    | nil => rfl
    | cons d ds =>
      obtain ⟨hblank, htab⟩ := hother d rfl
      simp [hblank, htab]
  have hscan : scan ' ' ([] ++ cs) = ⟨some .whitespace, ([] : List Char).length⟩ := by
    change Lexeme.mk (some .whitespace) (List.takeWhile _ cs).length = _
    rw [hnone]
  have hlex (start : Nat) := lexFrom_lexeme hscan (by decide) start
  simp only [List.cons_append, List.nil_append] at hlex
  refine ⟨fun start ↦ ?_, fun start ↦ ?_⟩
  · rw [hlex, significant_of_trivia rfl, h.words]
  · rw [hlex, parted_of_trivia rfl]
    exact h.joined _

/-- A token of one character in front. -/
theorem single (h : Spelled cs words) (hscan : scan c cs = ⟨some kind, 0⟩)
    (hkind : kind ≠ .stringLiteral) (htrivia : kind.isTrivia = false)
    (hjoins : kind.joins (firstKind words) = true → Opens cs) :
    Spelled (c :: cs) ((kind, String.ofList [c]) :: words) :=
  @lexeme c [] cs kind words h hscan hkind htrivia hjoins

/-- Characters that are tokens by themselves, whatever follows. -/
inductive IsMark : Char → Kind → Prop
  | parenOpen : IsMark '(' .parenOpen
  | parenClose : IsMark ')' .parenClose
  | star : IsMark '*' .star
  | plus : IsMark '+' .plus
  | question : IsMark '?' .question
  | amp : IsMark '&' .amp
  | bang : IsMark '!' .bang
  | dot : IsMark '.' .dot

theorem mark (h : Spelled cs words) (hmark : IsMark c kind)
    (hjoins : kind.joins (firstKind words) = true → Opens cs) :
    Spelled (c :: cs) ((kind, String.ofList [c]) :: words) := by
  cases hmark <;> exact h.single rfl (by decide) rfl hjoins

theorem colon (h : Spelled cs words) (hother : cs.head? ≠ some ':') :
    Spelled (':' :: cs) ((.colon, ":") :: words) ∧ Opens (':' :: cs) := by
  have hscan : scan ':' cs = ⟨some .colon, 0⟩ := if_neg hother
  exact ⟨h.single hscan (by decide) rfl (by rintro ⟨⟩),
    @lexeme_opens ':' [] cs .colon hscan (by decide) rfl⟩

theorem doubleColon (h : Spelled cs words) :
    Spelled (':' :: ':' :: cs) ((.doubleColon, "::") :: words) :=
  @lexeme ':' [':'] cs .doubleColon words h rfl (by decide) rfl (by rintro ⟨⟩)

theorem slash (h : Spelled cs words) (hother : cs.head? ≠ some '/') :
    Spelled ('/' :: cs) ((.slash, "/") :: words) :=
  h.single (if_neg hother) (by decide) rfl (by rintro ⟨⟩)

/-! ### Names and keywords -/

theorem scan_word (hstart : isIdentifierStart c = true)
    (hinside : ∀ d ∈ inside, isIdentifierPart d = true)
    (hstop : ∀ d ∈ cs.head?, isIdentifierPart d = false) :
    scan c (inside ++ cs) =
      ⟨some ((keyword? (c :: inside)).getD .identifier), inside.length⟩ := by
  have hother {d : Char} (hd : isIdentifierStart d = false) : c ≠ d := by
    rintro rfl
    rw [hd] at hstart
    cases hstart
  have hrest : cs.takeWhile isIdentifierPart = [] := by
    cases cs with
    | nil => rfl
    | cons d ds => rw [List.takeWhile_cons, hstop d rfl, if_neg Bool.false_ne_true]
  have hword : (inside ++ cs).takeWhile isIdentifierPart = inside := by
    rw [List.takeWhile_append_of_pos hinside, hrest, List.append_nil]
  unfold scan
  iterate 14 rw [if_neg (hother rfl)]
  rw [if_pos hstart, hword]

theorem name {name : List Char} (h : Spelled cs words) (hname : IsName name)
    (hstop : ∀ d ∈ cs.head?, isIdentifierPart d = false)
    (hjoins : firstKind words = .colon → Opens cs) :
    Spelled (name ++ cs) ((.identifier, String.ofList name) :: words) := by
  obtain ⟨hstart, hinside, hfree⟩ := hname
  have hscan := scan_word hstart hinside hstop
  rw [hfree] at hscan
  exact h.lexeme hscan (by decide) rfl fun hjoined ↦ hjoins (by simpa [Kind.joins] using hjoined)

/-- A keyword stands by itself. -/
theorem keyword_alone {name : List Char} (h : keyword? name = some kind) :
    kind ≠ .stringLiteral ∧ kind.isTrivia = false ∧ ∀ next, kind.joins next = false := by
  unfold keyword? at h
  repeat' split at h
  all_goals cases h
  all_goals exact ⟨by decide, rfl, fun _ ↦ rfl⟩

theorem keyword (h : Spelled cs words) (hstart : isIdentifierStart c = true)
    (hinside : ∀ d ∈ inside, isIdentifierPart d = true)
    (hkeyword : keyword? (c :: inside) = some kind)
    (hstop : ∀ d ∈ cs.head?, isIdentifierPart d = false) :
    Spelled (c :: inside ++ cs) ((kind, String.ofList (c :: inside)) :: words) := by
  have hscan := scan_word hstart hinside hstop
  rw [hkeyword] at hscan
  obtain ⟨hkind, htrivia, hjoins⟩ := keyword_alone hkeyword
  exact h.lexeme hscan hkind htrivia fun hjoined ↦ absurd hjoined (by simp [hjoins])

/-! ### Classes, blocks and strings -/

theorem charClass {text : List Char} (h : Spelled cs words) (hclass : IsClass text) :
    Spelled (text ++ cs) ((.charClass, String.ofList text) :: words) := by
  obtain ⟨hcloses⟩ := hclass
  apply h.lexeme _ (by decide) rfl (by rintro ⟨⟩)
  change literal .charClass ']' (_ ++ cs) = _
  rw [literal, hcloses.reach]
  rfl

theorem block {text : List Char} (h : Spelled cs words) (hblock : IsBlock text) :
    Spelled (text ++ cs) ((.block, String.ofList text) :: words) ∧ Opens (text ++ cs) := by
  obtain ⟨hbalanced⟩ := hblock
  rename_i inner
  have hscan : scan '{' ((inner ++ ['}']) ++ cs) =
      ⟨some .block, (inner ++ ['}']).length⟩ := by
    rw [scan_brace, List.append_assoc, List.singleton_append, blockReach?_append hbalanced,
      List.length_append]
    rfl
  exact ⟨h.lexeme hscan (by decide) rfl (by rintro ⟨⟩), lexeme_opens hscan (by decide) rfl⟩

theorem quoted {body : List Char} (h : Spelled cs words)
    (hcloses : Closes '\'' (body ++ ['\''])) :
    Spelled ('\'' :: body ++ '\'' :: cs) (quotedWords body ++ words) := by
  constructor
  · intro start
    rw [lexFrom_quoted hcloses, significant, List.filter_append, List.map_append, ← significant,
      ← significant, h.words]
    unfold quotedTokens quotedWords
    cases body <;> rfl
  · intro start
    rw [lexFrom_quoted hcloses]
    have hrest := h.joined (start + byteLength ('\'' :: body ++ ['\'']))
    unfold quotedTokens
    cases body <;> exact hrest

end Spelled

end PegKit.Token
