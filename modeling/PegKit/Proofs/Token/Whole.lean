import PegKit.Token.Lexer

/-!
# Whole literals

A string literal becomes two or three tokens, but they always come together: a quote, perhaps a
value, and the same quote. A predicate's token keeps its braces. Productions that read a text rely
on both. A line comment goes up to the end of its line and no further.
-/

namespace PegKit

/-- The kinds of the parts of a string literal. -/
def Kind.isLiteralPart (kind : Kind) : Bool :=
  kind == .doubleQuote || kind == .singleQuote || kind == .stringValue

theorem Kind.isTrivia_of_isLiteralPart {kind : Kind} (h : kind.isLiteralPart = true) :
    kind.isTrivia = false := by
  cases kind <;> first | rfl | cases h

namespace Token

theorem kind_ne_of_isTrivia {token : Token} (h : token.isTrivia = true) {kind : Kind}
    (hkind : kind.isTrivia = false) : token.kind ≠ kind := by
  rintro rfl
  rw [isTrivia, hkind] at h
  cases h

/-- The tokens that mean something. -/
def significant (tokens : List Token) : List Token := tokens.filter (!·.isTrivia)

@[simp]
theorem significant_nil : significant [] = [] := rfl

theorem significant_cons (token : Token) (rest : List Token) :
    significant (token :: rest) =
      if token.isTrivia then significant rest else token :: significant rest := by
  rw [significant, List.filter_cons]
  cases token.isTrivia <;> rfl

/-- A text between braces. -/
def Braced (cs : List Char) : Prop := ∃ inner, cs = '{' :: inner ++ ['}']

/-- Tokens in which string literals are whole and predicates have their braces. -/
inductive Whole : List Token → Prop
  | nil : Whole []
  | plain {token : Token} {rest : List Token} (part : token.kind.isLiteralPart = false)
      (braces : token.kind = .block → Braced token.text.toList) (others : Whole rest) :
      Whole (token :: rest)
  | empty {opening closing : Token} {rest : List Token}
      (quote : opening.kind = .doubleQuote ∨ opening.kind = .singleQuote)
      (same : closing.kind = opening.kind) (others : Whole rest) :
      Whole (opening :: closing :: rest)
  | literal {opening value closing : Token} {rest : List Token}
      (quote : opening.kind = .doubleQuote ∨ opening.kind = .singleQuote)
      (inner : value.kind = .stringValue) (same : closing.kind = opening.kind)
      (others : Whole rest) : Whole (opening :: value :: closing :: rest)

namespace Whole

theorem tail {token : Token} {rest : List Token} (h : Whole (token :: rest))
    (hpart : token.kind.isLiteralPart = false) : Whole rest := by
  have hno (hquote : token.kind = .doubleQuote ∨ token.kind = .singleQuote) : False := by
    rcases hquote with hquote | hquote <;> rw [hquote] at hpart <;> cases hpart
  cases h with
  | plain _ _ others => exact others
  | empty quote _ _ => exact (hno quote).elim
  | literal quote _ _ _ => exact (hno quote).elim

theorem braced {token : Token} {rest : List Token} (h : Whole (token :: rest))
    (hblock : token.kind = .block) : Braced token.text.toList := by
  cases h with
  | plain _ braces _ => exact braces hblock
  | empty quote _ _ =>
    rw [hblock] at quote
    rcases quote with quote | quote <;> cases quote
  | literal quote _ _ _ =>
    rw [hblock] at quote
    rcases quote with quote | quote <;> cases quote

/-- Trivia is never part of a literal. -/
theorem significant {tokens : List Token} (h : Whole tokens) :
    Whole (significant tokens) := by
  have hkept {token : Token} (h : token.kind.isLiteralPart = true) : ¬token.isTrivia = true := by
    rw [isTrivia, Kind.isTrivia_of_isLiteralPart h]
    exact Bool.false_ne_true
  have hquote {token : Token} (h : token.kind = .doubleQuote ∨ token.kind = .singleQuote) :
      ¬token.isTrivia = true := by
    refine hkept ?_
    rcases h with h | h <;> rw [h] <;> rfl
  induction h with
  | nil => exact .nil
  | @plain token rest part braces _ ih =>
    rw [significant_cons]
    split
    · exact ih
    · exact .plain part braces ih
  | @empty opening closing rest quote same _ ih =>
    have hclosing := hquote (same ▸ quote : closing.kind = _ ∨ closing.kind = _)
    rw [significant_cons, if_neg (hquote quote), significant_cons, if_neg hclosing]
    exact .empty quote same ih
  | @literal opening value closing rest quote inner same _ ih =>
    have hclosing := hquote (same ▸ quote : closing.kind = _ ∨ closing.kind = _)
    have hvalue : ¬value.isTrivia = true := hkept (by rw [inner]; rfl)
    rw [significant_cons, if_neg (hquote quote), significant_cons, if_neg hvalue,
      significant_cons, if_neg hclosing]
    exact .literal quote inner same ih

end Whole

/-! ## Open braces -/

/-- How many braces are open after a text, when none is closed that was not opened in it or among
the first `depth`. -/
def depthAfter? : Nat → List Char → Option Nat
  | depth, [] => some depth
  | depth, c :: cs =>
    if c = '{' then depthAfter? (depth + 1) cs
    else if c = '}' then
      if depth = 0 then none else depthAfter? (depth - 1) cs
    else depthAfter? depth cs

theorem depthAfter?_append (depth : Nat) (cs ds : List Char) :
    depthAfter? depth (cs ++ ds) = (depthAfter? depth cs).bind (depthAfter? · ds) := by
  induction cs generalizing depth with
  | nil => rfl
  | cons c cs ih =>
    rw [List.cons_append, depthAfter?, depthAfter?]
    split
    · exact ih _
    split
    · split
      · rfl
      · exact ih _
    · exact ih _

theorem depthAfter?_of_no_brace {cs : List Char} (h : ∀ c ∈ cs, c ≠ '{' ∧ c ≠ '}')
    (depth : Nat) : depthAfter? depth cs = some depth := by
  induction cs with
  | nil => rfl
  | cons c cs ih =>
    obtain ⟨⟨hopen, hclose⟩, hrest⟩ := List.forall_mem_cons.mp h
    rw [depthAfter?, if_neg hopen, if_neg hclose, ih hrest]

theorem blockReach?_append {depth : Nat} {inner : List Char}
    (h : depthAfter? depth inner = some 0) (rest : List Char) :
    blockReach? depth (inner ++ '}' :: rest) = some (inner.length + 1) := by
  induction inner generalizing depth with
  | nil =>
    cases h
    rfl
  | cons c cs ih =>
    have hstep {depth : Nat} (h : depthAfter? depth cs = some 0) :
        (blockReach? depth (cs ++ '}' :: rest)).map (· + 1) = some (cs.length + 1 + 1) := by
      rw [ih h]
      rfl
    rw [List.cons_append, List.length_cons, blockReach?.eq_def]
    rw [depthAfter?] at h
    simp only
    split at h
    · next hopen =>
      rw [if_pos hopen]
      exact hstep h
    next hopen =>
    rw [if_neg hopen]
    split at h
    · next hclose =>
      rw [if_pos hclose]
      cases depth with
      | zero => cases h
      | succ depth => exact hstep h
    · next hclose =>
      rw [if_neg hclose]
      exact hstep h

/-- How far a block goes. -/
theorem depthAfter?_of_blockReach {depth count : Nat} {cs : List Char}
    (h : blockReach? depth cs = some count) :
    ∃ inner, cs.take count = inner ++ ['}'] ∧ depthAfter? depth inner = some 0 := by
  induction cs generalizing depth count with
  | nil => cases h
  | cons c cs ih =>
    have hstep {depth depth' : Nat} (h : (blockReach? depth' cs).map (· + 1) = some count)
        (hdepth : ∀ inner, depthAfter? depth (c :: inner) = depthAfter? depth' inner) :
        ∃ inner, (c :: cs).take count = inner ++ ['}'] ∧ depthAfter? depth inner = some 0 := by
      obtain ⟨count, hcount, rfl⟩ := Option.map_eq_some_iff.mp h
      obtain ⟨inner, hinner, hclosed⟩ := ih hcount
      exact ⟨c :: inner, by rw [List.take_succ_cons, hinner, List.cons_append],
        (hdepth inner).trans hclosed⟩
    unfold blockReach? at h
    split at h
    · next hopen => exact hstep h fun inner ↦ by rw [depthAfter?, if_pos hopen]
    split at h
    · next hopen hclose =>
      cases depth with
      | zero =>
        cases h
        exact ⟨[], by rw [hclose]; rfl, rfl⟩
      | succ depth =>
        refine hstep h fun inner ↦ ?_
        rw [depthAfter?, if_neg hopen, if_pos hclose]
        rfl
    · next hopen hclose => exact hstep h fun inner ↦ by rw [depthAfter?, if_neg hopen, if_neg hclose]

/-! ## Pieces -/

/-- A piece that no literal is made of and whose braces are there. -/
def Sound (piece : Kind × List Char) : Prop :=
  piece.1.isLiteralPart = false ∧ (piece.1 = .block → Braced piece.2)

theorem keyword_sound {name : List Char} :
    ((keyword? name).getD .identifier).isLiteralPart = false ∧
      (keyword? name).getD .identifier ≠ .block := by
  unfold keyword?
  repeat' split
  all_goals exact ⟨rfl, by decide⟩

/-- A lexeme that is read as no part of a literal and no block. -/
def Lexeme.Plain (lexeme : Lexeme) : Prop :=
  ∀ kind, lexeme.kind = some kind → kind.isLiteralPart = false ∧ kind ≠ .block

namespace Lexeme.Plain

theorem some {kind : Kind} {following : Nat} (hpart : kind.isLiteralPart = false)
    (hblock : kind ≠ .block) : Plain ⟨some kind, following⟩ := by
  rintro _ ⟨⟩
  exact ⟨hpart, hblock⟩

theorem none {following : Nat} : Plain ⟨none, following⟩ := by rintro _ ⟨⟩

theorem ite {p : Prop} [Decidable p] {first second : Lexeme} (h : p → first.Plain)
    (h' : second.Plain) : (if p then first else second).Plain := by
  split
  · exact h ‹p›
  · exact h'

theorem literal {kind : Kind} {close : Char} {cs : List Char} (hpart : kind.isLiteralPart = false)
    (hblock : kind ≠ .block) : (Token.literal kind close cs).Plain := by
  rw [Token.literal]
  split
  split
  · exact .some hpart hblock
  · exact .none

end Lexeme.Plain

theorem scan_brace (cs : List Char) :
    scan '{' cs =
      (blockReach? 0 cs).elim ⟨none, 0⟩ fun count ↦ ⟨some .block, count⟩ := by
  unfold scan
  cases blockReach? 0 cs <;> rfl

theorem scan_sound {c : Char} {cs : List Char} {kind : Kind} (h : (scan c cs).kind = some kind) :
    Sound (kind, c :: cs.take (scan c cs).following) := by
  by_cases hbrace : c = '{'
  · subst hbrace
    rw [scan_brace] at h ⊢
    cases hreach : blockReach? 0 cs with
    | none =>
      rw [hreach] at h
      cases h
    | some count =>
      rw [hreach] at h
      rw [Option.elim_some] at h ⊢
      cases h
      obtain ⟨inner, hinner, -⟩ := depthAfter?_of_blockReach hreach
      exact ⟨rfl, fun _ ↦ ⟨inner, by rw [List.cons_append, ← hinner]⟩⟩
  · have hplain : (scan c cs).Plain := by
      unfold scan
      repeat' refine Lexeme.Plain.ite (fun _ ↦ ?_) ?_
      all_goals first
        | exact absurd ‹c = '{'› hbrace
        | exact .some rfl (by decide)
        | exact .literal rfl (by decide)
        | exact .some keyword_sound.1 keyword_sound.2
        | exact .none
    exact ⟨(hplain kind h).1, fun hblock ↦ absurd hblock (hplain kind h).2⟩

theorem cut_forall {P : Kind × List Char → Prop}
    (hscan : ∀ {c cs kind}, (scan c cs).kind = some kind →
      P (kind, c :: cs.take (scan c cs).following)) (cs : List Char) :
    ∀ piece ∈ cut cs, ∀ kind, piece.1 = some kind → P (kind, piece.2) := by
  induction cs using cut.induct with
  | case1 =>
    intro piece hpiece
    rw [cut] at hpiece
    cases hpiece
  | case2 c cs lexeme ih =>
    intro piece hpiece kind hkind
    rw [cut] at hpiece
    rcases List.mem_cons.mp hpiece with rfl | hpiece
    · exact hscan hkind
    · exact ih piece hpiece kind hkind

theorem gather_forall {P : Kind × List Char → Prop}
    (hgarbage : ∀ {text}, text ≠ [] → P (.garbage, text))
    {pieces : List (Option Kind × List Char)}
    (h : ∀ piece ∈ pieces, ∀ kind, piece.1 = some kind → P (kind, piece.2))
    (garbage : List Char) : ∀ piece ∈ gather garbage pieces, P piece := by
  have hbefore (garbage : List Char) : ∀ piece ∈ garbagePiece garbage, P piece := by
    intro piece hpiece
    rw [garbagePiece] at hpiece
    split at hpiece
    · cases hpiece
    · next hfull =>
      rw [List.mem_singleton.mp hpiece]
      exact hgarbage fun hempty ↦ hfull (List.isEmpty_iff.mpr hempty)
  induction pieces generalizing garbage with
  | nil => exact hbefore garbage
  | cons piece rest ih =>
    have hrest := ih fun piece hpiece ↦ h piece (List.mem_cons_of_mem _ hpiece)
    obtain ⟨kind, text⟩ := piece
    cases kind with
    | none => exact hrest (garbage ++ text)
    | some kind =>
      intro piece hpiece
      rw [gather, List.mem_append, List.mem_cons] at hpiece
      rcases hpiece with hpiece | rfl | hpiece
      · exact hbefore garbage piece hpiece
      · exact h (some kind, text) List.mem_cons_self kind rfl
      · exact hrest [] piece hpiece

/-- What holds of every lexeme and of garbage holds of every piece of a text. -/
theorem pieces_forall {P : Kind × List Char → Prop}
    (hscan : ∀ {c cs kind}, (scan c cs).kind = some kind →
      P (kind, c :: cs.take (scan c cs).following))
    (hgarbage : ∀ {text}, text ≠ [] → P (.garbage, text)) (source : List Char) :
    ∀ piece ∈ gather [] (cut source), P piece :=
  gather_forall hgarbage (cut_forall hscan source) []

/-- The tokens of one piece. -/
theorem place_sound {piece : Kind × List Char} (h : Sound piece) (start : Nat)
    {rest : List (Kind × List Char)} (hrest : ∀ start, Whole (place start rest)) :
    Whole (place start (splitLiteral piece ++ rest)) := by
  unfold splitLiteral
  split
  · next mark value =>
    have hquote : (if mark = '"' then Kind.doubleQuote else .singleQuote) = .doubleQuote ∨
        (if mark = '"' then Kind.doubleQuote else .singleQuote) = .singleQuote := by
      by_cases hmark : mark = '"'
      · exact .inl (if_pos hmark)
      · exact .inr (if_neg hmark)
    generalize (if mark = '"' then Kind.doubleQuote else .singleQuote) = quote at hquote ⊢
    simp only
    split
    · exact .empty hquote rfl (hrest _)
    · exact .literal hquote rfl rfl (hrest _)
  · refine .plain h.1 (fun hblock ↦ ?_) (hrest _)
    rw [String.toList_ofList]
    exact h.2 hblock

/-- Whatever the text, its tokens have whole literals. -/
theorem lex_whole (source : List Char) : Whole (lex source) := by
  have hsound := pieces_forall scan_sound (fun _ ↦ ⟨rfl, by rintro ⟨⟩⟩) source
  rw [lex]
  generalize gather [] (cut source) = pieces at hsound
  suffices ∀ start, Whole (place start (pieces.flatMap splitLiteral)) from this 0
  induction pieces with
  | nil => exact fun start ↦ .nil
  | cons piece rest ih =>
    intro start
    rw [List.flatMap_cons]
    exact place_sound (hsound piece List.mem_cons_self) start
      (ih fun piece hpiece ↦ hsound piece (List.mem_cons_of_mem _ hpiece))

/-! ## Comments -/

/-- A lexeme before `cs` that is a comment only if it takes the rest of the line. -/
def Lexeme.Lined (cs : List Char) (lexeme : Lexeme) : Prop :=
  lexeme.kind = some .lineComment → lexeme.following = lineReach cs

theorem scan_lined (c : Char) (cs : List Char) : (scan c cs).Lined cs := by
  have hother {kind : Option Kind} {following : Nat} (h : kind ≠ some .lineComment) :
      Lexeme.Lined cs ⟨kind, following⟩ := fun hkind ↦ absurd hkind h
  have hcomment : Lexeme.Lined cs ⟨some .lineComment, lineReach cs⟩ := fun _ ↦ rfl
  have hword {name : List Char} : some ((keyword? name).getD .identifier) ≠ some .lineComment := by
    unfold keyword?
    repeat' split
    all_goals decide
  have hliteral {kind : Kind} {close : Char} (h : kind ≠ .lineComment) :
      (literal kind close cs).Lined cs := by
    unfold literal
    split
    split
    · exact hother fun hkind ↦ h (Option.some.inj hkind)
    · exact hother (by rintro ⟨⟩)
  have hite {p : Prop} [Decidable p] {first second : Lexeme} (h : first.Lined cs)
      (h' : second.Lined cs) : (if p then first else second).Lined cs := by
    split
    · exact h
    · exact h'
  unfold scan
  repeat' refine hite ?_ ?_
  all_goals first
    | exact hcomment
    | exact hother (by decide)
    | exact hliteral (by decide)
    | exact hother hword
    | skip
  split <;> exact hother (by decide)

theorem scan_oneLine {c : Char} {cs : List Char} {kind : Kind}
    (h : (scan c cs).kind = some kind) (hcomment : kind = .lineComment) :
    '\n' ∉ c :: cs.take (scan c cs).following := by
  subst hcomment
  rw [List.mem_cons, not_or]
  constructor
  · rintro rfl
    have hnewline : (scan '\n' cs).kind = some .newline := rfl
    rw [hnewline] at h
    cases h
  · rw [scan_lined c cs h, lineReach]
    have hline : cs.take (cs.takeWhile (· != '\n')).length = cs.takeWhile (· != '\n') := by
      exact (List.prefix_iff_eq_take.mp (List.takeWhile_prefix _)).symm
    rw [hline]
    intro hmem
    have hother := List.all_eq_true.mp List.all_takeWhile '\n' hmem
    exact absurd hother (by decide)

theorem splitLiteral_comment {piece part : Kind × List Char} (h : part ∈ splitLiteral piece)
    (hcomment : part.1 = .lineComment) : part = piece := by
  unfold splitLiteral at h
  split at h
  · next mark rest =>
    have hquote : (if mark = '"' then Kind.doubleQuote else .singleQuote) ≠ .lineComment := by
      split <;> decide
    generalize (if mark = '"' then Kind.doubleQuote else .singleQuote) = quote at h hquote
    have hvalue : Kind.stringValue ≠ .lineComment := by decide
    have hkind : part.1 = quote ∨ part.1 = .stringValue := by
      by_cases hempty : rest.dropLast.isEmpty
      · simp only [hempty, if_true, List.mem_append, List.mem_singleton] at h
        rcases h with rfl | rfl <;> exact .inl rfl
      · simp only [hempty, Bool.false_eq_true, if_false, List.mem_append, List.mem_cons,
          List.not_mem_nil, or_false] at h
        rcases h with (rfl | rfl) | rfl
        · exact .inl rfl
        · exact .inr rfl
        · exact .inl rfl
    rw [hcomment] at hkind
    exact absurd (hkind.imp Eq.symm Eq.symm) (not_or.mpr ⟨hquote, hvalue⟩)
  · exact List.mem_singleton.mp h

theorem mem_place {pieces : List (Kind × List Char)} {start : Nat} {token : Token}
    (h : token ∈ place start pieces) :
    ∃ piece ∈ pieces, token.kind = piece.1 ∧ token.text = String.ofList piece.2 := by
  induction pieces generalizing start with
  | nil => cases h
  | cons piece rest ih =>
    rcases List.mem_cons.mp h with rfl | h
    · exact ⟨piece, List.mem_cons_self, rfl, rfl⟩
    · obtain ⟨other, hother, hsame⟩ := ih h
      exact ⟨other, List.mem_cons_of_mem _ hother, hsame⟩

/-- A line comment stays on its line. -/
theorem lex_comment {source : List Char} {token : Token} (h : token ∈ lex source)
    (hcomment : token.kind = .lineComment) : '\n' ∉ token.text.toList := by
  have hline := pieces_forall (P := fun piece ↦ piece.1 = .lineComment → '\n' ∉ piece.2)
    scan_oneLine (fun _ ↦ by rintro ⟨⟩) source
  obtain ⟨part, hpart, hkind, htext⟩ := mem_place h
  obtain ⟨piece, hpiece, hpart⟩ := List.mem_flatMap.mp hpart
  rw [hkind] at hcomment
  obtain rfl := splitLiteral_comment hpart hcomment
  rw [htext, String.toList_ofList]
  exact hline part hpiece hcomment

end Token

end PegKit
