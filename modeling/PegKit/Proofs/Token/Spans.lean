import Mathlib.Data.List.Chain
import PegKit.Proofs.Token.Writing

/-!
# Spans of tokens

Where the tokens of a text stand in it, and which of them may stand beside each other: garbage never
stands beside garbage, a block goes just as far as its braces match, and quotes come in pairs.
-/

namespace PegKit.Token

open Text (byteLength dropBytes?)

/-! ## Places in the text -/

theorem characters_cons (token : Token) (rest : List Token) :
    characters (token :: rest) = token.text.toList ++ characters rest := rfl

theorem stop_eq (token : Token) : token.stop = token.start + byteLength token.text.toList := by
  rw [stop, Text.byteLength_toList]

/-- The last token ends where the characters do. -/
theorem Tiles.stop_last {start : Nat} {tokens : List Token} (h : Tiles start tokens) :
    (tokens.getLast?.map stop).getD start = start + byteLength (characters tokens) := by
  induction h with
  | nil => rfl
  | @cons start token rest begins _ _ ih =>
    have hlast : ((token :: rest).getLast?.map stop).getD start =
        (rest.getLast?.map stop).getD token.stop := by
      rw [List.getLast?_cons]
      cases rest.getLast? <;> rfl
    calc
      ((token :: rest).getLast?.map stop).getD start
        = token.stop + byteLength (characters rest) := hlast.trans ih
      _ = start + byteLength (characters (token :: rest)) := by
        rw [stop_eq, begins, characters_cons, Text.byteLength_append, Nat.add_assoc]

/-- From its start on the text goes on with the token, and from its stop on with what follows. -/
structure Stands (source : List Char) (token : Token) (rest : List Char) : Prop where
  start : dropBytes? source token.start = some (token.text.toList ++ rest)
  stop : dropBytes? source token.stop = some rest

theorem Tiles.stands {before : List Char} {tokens : List Token}
    (h : Tiles (byteLength before) tokens) :
    ∀ token ∈ tokens, ∃ rest, Stands (before ++ characters tokens) token rest := by
  induction tokens generalizing before with
  | nil =>
    intro token htoken
    cases htoken
  | cons first others ih =>
    obtain ⟨begins, _, hothers⟩ : first.start = byteLength before ∧ byteLength before < first.stop ∧
        Tiles first.stop others := by
      cases h with
      | cons begins full hothers => exact ⟨begins, full, hothers⟩
    have hlength : first.stop = byteLength (before ++ first.text.toList) := by
      rw [stop_eq, begins, Text.byteLength_append]
    intro token htoken
    rw [characters_cons]
    rcases List.mem_cons.mp htoken with rfl | htoken
    · refine ⟨characters others, ?_, ?_⟩
      · rw [begins]
        exact Text.dropBytes?_append _ _
      · rw [hlength, ← List.append_assoc]
        exact Text.dropBytes?_append _ _
    · rw [hlength] at hothers
      rw [← List.append_assoc]
      exact ih hothers token htoken

theorem lex_stands (source : List Char) :
    ∀ token ∈ lex source, ∃ rest, Stands source token rest := by
  have hstands := @Tiles.stands [] (lex source) (lex_tiles source)
  rwa [lex_characters] at hstands

/-! ## Kinds -/

/-- A lexeme that is garbage only as something that is no token. -/
def Lexeme.Proper (lexeme : Lexeme) : Prop :=
  ∀ kind, lexeme.kind = some kind → kind ≠ .garbage ∧ kind ≠ .error

theorem scan_proper (c : Char) (cs : List Char) : (scan c cs).Proper := by
  have hsome {kind : Kind} {following : Nat} (h : kind ≠ .garbage ∧ kind ≠ .error) :
      Lexeme.Proper ⟨some kind, following⟩ := by
    rintro _ ⟨⟩
    exact h
  have hnone {following : Nat} : Lexeme.Proper ⟨none, following⟩ := by rintro _ ⟨⟩
  have hword {name : List Char} : (keyword? name).getD .identifier ≠ .garbage ∧
      (keyword? name).getD .identifier ≠ .error := by
    unfold keyword?
    repeat' split
    all_goals decide
  have hliteral {kind : Kind} {close : Char} (h : kind ≠ .garbage ∧ kind ≠ .error) :
      (literal kind close cs).Proper := by
    unfold literal
    split
    split
    · exact hsome h
    · exact hnone
  have hite {p : Prop} [Decidable p] {first second : Lexeme} (h : first.Proper)
      (h' : second.Proper) : (if p then first else second).Proper := by
    split
    · exact h
    · exact h'
  unfold scan
  repeat' refine hite ?_ ?_
  all_goals first
    | exact hnone
    | exact hsome (by decide)
    | exact hsome hword
    | exact hliteral (by decide)
    | skip
  split
  · exact hsome (by decide)
  · exact hnone

/-- A string is cut into parts of literals, and any other piece is left as it is. -/
theorem splitLiteral_cases {piece : Kind × List Char} (h : Solid piece) :
    splitLiteral piece = [piece] ∧ piece.1 ≠ .stringLiteral ∨
      ∀ part ∈ splitLiteral piece, part.1.isLiteralPart = true := by
  have hquote (mark : Char) :
      (if mark = '"' then Kind.doubleQuote else .singleQuote).isLiteralPart = true := by
    split <;> rfl
  unfold splitLiteral
  split
  · right
    intro part hpart
    simp only [List.mem_append, List.mem_cons, List.not_mem_nil, or_false] at hpart
    rcases hpart with (rfl | hpart) | rfl
    · exact hquote _
    · split at hpart
      · cases hpart
      · rw [List.mem_singleton.mp hpart]
        rfl
    · exact hquote _
  · next hother =>
    refine .inl ⟨rfl, fun hkind ↦ ?_⟩
    obtain ⟨mark, inner, htext⟩ := h.quoted hkind
    exact hother mark (inner ++ [mark]) (Prod.ext hkind htext)

theorem ne_of_isLiteralPart {kind other : Kind} (h : kind.isLiteralPart = true)
    (hother : other.isLiteralPart = false) : kind ≠ other := by
  rintro rfl
  rw [h] at hother
  cases hother

/-- No token is a whole string or an error. -/
theorem lex_kinds (source : List Char) :
    ∀ token ∈ lex source, token.kind ≠ .stringLiteral ∧ token.kind ≠ .error := by
  intro token htoken
  obtain ⟨part, hpart, hkind, _⟩ := mem_place htoken
  obtain ⟨piece, hpiece, hpart⟩ := List.mem_flatMap.mp hpart
  have hproper : piece.1 ≠ .error :=
    pieces_forall (P := fun piece ↦ piece.1 ≠ .error) (fun h ↦ (scan_proper _ _ _ h).2)
      (fun _ ↦ by rintro ⟨⟩) source piece hpiece
  rw [hkind]
  rcases splitLiteral_cases (pieces_solid source piece hpiece) with ⟨hsame, hother⟩ | hparts
  · rw [hsame, List.mem_singleton] at hpart
    exact hpart ▸ ⟨hother, hproper⟩
  · have hliteral := hparts part hpart
    exact ⟨ne_of_isLiteralPart hliteral rfl, ne_of_isLiteralPart hliteral rfl⟩

/-! ## Garbage -/

/-- Not both are garbage. -/
def Separate (piece next : Kind × List Char) : Prop := piece.1 = .garbage → next.1 ≠ .garbage

/-- Garbage is gathered until something else comes. -/
theorem gather_separate {pieces : List (Option Kind × List Char)}
    (h : ∀ piece ∈ pieces, ∀ kind, piece.1 = some kind → kind ≠ .garbage) (garbage : List Char) :
    (gather garbage pieces).IsChain Separate := by
  have hbefore (garbage : List Char) : (garbagePiece garbage).IsChain Separate := by
    unfold garbagePiece
    split
    · exact .nil
    · exact .singleton _
  induction pieces generalizing garbage with
  | nil => exact hbefore garbage
  | cons piece rest ih =>
    obtain ⟨hpiece, hrest⟩ := List.forall_mem_cons.mp h
    obtain ⟨kind, text⟩ := piece
    cases kind with
    | none => exact ih hrest (garbage ++ text)
    | some kind =>
      have hkind : kind ≠ .garbage := hpiece kind rfl
      have hothers : ((kind, text) :: gather [] rest).IsChain Separate :=
        (ih hrest []).cons fun _ _ hgarbage ↦ absurd hgarbage hkind
      refine (hbefore garbage).append hothers ?_
      rintro _ _ _ ⟨⟩ _
      exact hkind

theorem splitLiteral_ne_nil (piece : Kind × List Char) : splitLiteral piece ≠ [] := by
  unfold splitLiteral
  split
  · simp
  · exact List.cons_ne_nil _ _

theorem splitLiteral_garbage {piece part : Kind × List Char} (h : Solid piece)
    (hpart : part ∈ splitLiteral piece) (hgarbage : part.1 = .garbage) :
    piece.1 = .garbage ∧ splitLiteral piece = [piece] := by
  rcases splitLiteral_cases h with ⟨hsame, _⟩ | hparts
  · rw [hsame, List.mem_singleton] at hpart
    exact ⟨hpart ▸ hgarbage, hsame⟩
  · exact absurd hgarbage (ne_of_isLiteralPart (hparts part hpart) rfl)

/-- Strings are no garbage, so what is cut into parts stays separate. -/
theorem splitLiteral_separate {pieces : List (Kind × List Char)} (h : pieces.IsChain Separate)
    (hsolid : ∀ piece ∈ pieces, Solid piece) :
    (pieces.flatMap splitLiteral).IsChain Separate := by
  induction pieces with
  | nil => exact .nil
  | cons piece rest ih =>
    obtain ⟨hnext, hchain⟩ := List.isChain_cons.mp h
    obtain ⟨hpiece, hrest⟩ := List.forall_mem_cons.mp hsolid
    rw [List.flatMap_cons]
    refine List.IsChain.append ?_ (ih hchain hrest) ?_
    · rcases splitLiteral_cases hpiece with ⟨hsame, _⟩ | hparts
      · rw [hsame]
        exact .singleton piece
      · refine (List.pairwise_of_forall_mem_list fun part hpart _ _ hgarbage ↦ ?_).isChain
        exact absurd hgarbage (ne_of_isLiteralPart (hparts part hpart) rfl)
    · intro part hpart next hfirst hgarbage hgarbage'
      cases rest with
      | nil => cases hfirst
      | cons other others =>
        obtain ⟨hlast, _⟩ := splitLiteral_garbage hpiece (List.mem_of_getLast? hpart) hgarbage
        rw [List.flatMap_cons, List.head?_append_of_ne_nil _ (splitLiteral_ne_nil other)] at hfirst
        obtain ⟨hfollowing, _⟩ := splitLiteral_garbage (hrest other List.mem_cons_self)
          (List.mem_of_mem_head? hfirst) hgarbage'
        exact hnext other rfl hlast hfollowing

theorem place_kinds (start : Nat) (pieces : List (Kind × List Char)) :
    (place start pieces).map kind = pieces.map Prod.fst := by
  induction pieces generalizing start with
  | nil => rfl
  | cons piece rest ih => rw [place, List.map_cons, List.map_cons, ih]

/-- No garbage stands right after garbage. -/
theorem lex_separate (source : List Char) :
    (lex source).IsChain fun token next ↦ token.kind = .garbage → next.kind ≠ .garbage := by
  have hcut : ∀ piece ∈ cut source, ∀ kind, piece.1 = some kind → kind ≠ .garbage :=
    cut_forall (P := fun piece ↦ piece.1 ≠ .garbage) (fun h ↦ (scan_proper _ _ _ h).1) source
  have hpieces := splitLiteral_separate (gather_separate hcut []) (pieces_solid source)
  have hkinds : ((lex source).map kind).IsChain
      fun kind next ↦ kind = .garbage → next ≠ .garbage := by
    rw [lex, place_kinds]
    exact (List.isChain_map Prod.fst).mpr hpieces
  exact (List.isChain_map kind).mp hkinds

/-! ## Blocks -/

/-- The shortest part at the front of a text, from an opening brace on, with as many closing braces
as opening ones. -/
structure ShortestBlock (block text : List Char) : Prop where
  opened : block.head? = some '{'
  front : block <+: text
  even : block.count '{' = block.count '}'
  shortest : ∀ other, other ≠ [] → other <+: text → other.count '{' = other.count '}' →
    block.length ≤ other.length

theorem depthAfter?_count {depth after : Nat} {cs : List Char}
    (h : depthAfter? depth cs = some after) :
    depth + cs.count '{' = after + cs.count '}' := by
  induction cs generalizing depth with
  | nil =>
    cases h
    rfl
  | cons c cs ih =>
    rw [depthAfter?] at h
    split at h
    · next hopen =>
      have hrest := ih h
      simp [hopen]
      omega
    split at h
    · next hclose =>
      split at h
      · cases h
      · have hrest := ih h
        simp [hclose]
        omega
    · next hopen hclose =>
      have hrest := ih h
      simpa [hopen, hclose] using hrest

/-- Within the braces of a block one more is open than closed. -/
theorem IsBlock.shortest {block : List Char} (h : IsBlock block) (rest : List Char) :
    ShortestBlock block (block ++ rest) := by
  obtain ⟨hbalanced⟩ := h
  rename_i inner
  have hcount := depthAfter?_count hbalanced
  refine ⟨rfl, List.prefix_append _ _, ?_, ?_⟩
  · simp
    omega
  · intro other hfull hfront heven
    by_contra hshorter
    obtain ⟨c, front, rfl⟩ := List.exists_cons_of_ne_nil hfull
    rw [List.cons_append, List.cons_append, List.cons_prefix_cons, List.append_assoc] at hfront
    obtain ⟨rfl, hfront⟩ := hfront
    simp only [List.length_cons, List.length_append, List.length_nil] at hshorter
    obtain ⟨more, rfl⟩ : front <+: inner :=
      List.prefix_of_prefix_length_le hfront (List.prefix_append _ _) (by omega)
    rw [depthAfter?_append] at hbalanced
    obtain ⟨after, hfront, _⟩ := Option.bind_eq_some_iff.mp hbalanced
    have hopen := depthAfter?_count hfront
    simp at heven
    omega

/-! ## Texts -/

/-- The tokens of a text tile it from its first byte to its last, on boundaries of characters; none
is a whole string or an error, no two that are garbage stand side by side, blocks go as far as their
braces match, and strings are whole. -/
structure Spans (source : String) (tokens : List Token) : Prop where
  tiles : Tiles 0 tokens
  ends : (tokens.getLast?.map stop).getD 0 = source.utf8ByteSize
  stands : ∀ token ∈ tokens, ∃ rest, Stands source.toList token rest
  kinds : ∀ token ∈ tokens, token.kind ≠ .stringLiteral ∧ token.kind ≠ .error
  separate : tokens.IsChain fun token next ↦ token.kind = .garbage → next.kind ≠ .garbage
  blocks : ∀ token ∈ tokens, token.kind = .block → ∃ text,
    dropBytes? source.toList token.start = some text ∧ ShortestBlock token.text.toList text
  whole : Whole tokens

theorem lex_spans (source : String) : Spans source (lex source.toList) where
  tiles := lex_tiles source.toList
  ends := by
    rw [(lex_tiles source.toList).stop_last, lex_characters, Text.byteLength_toList, Nat.zero_add]
  stands := lex_stands source.toList
  kinds := lex_kinds source.toList
  separate := lex_separate source.toList
  blocks := by
    intro token htoken hblock
    obtain ⟨rest, hstart, _⟩ := lex_stands source.toList token htoken
    have hformed := lex_formed source.toList token htoken
    rw [Formed, hblock] at hformed
    exact ⟨_, hstart, IsBlock.shortest hformed rest⟩
  whole := lex_whole source.toList

end PegKit.Token
