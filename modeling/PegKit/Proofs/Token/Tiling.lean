import PegKit.Proofs.Token.Whole

/-!
# Tokens tile the text

The tokens of a text stand one after the other, none of them is empty, and their texts in order are
the text. So no two begin at one place, and none begins where the text ends.
-/

namespace PegKit

theorem Text.utf8ByteSize_ofList (cs : List Char) :
    (String.ofList cs).utf8ByteSize = byteLength cs := by
  induction cs with
  | nil => rfl
  | cons c cs ih =>
    rw [String.ofList_cons, String.utf8ByteSize_append, String.utf8ByteSize_singleton, ih,
      byteLength_cons]

theorem Text.byteLength_toList (text : String) : byteLength text.toList = text.utf8ByteSize := by
  rw [← utf8ByteSize_ofList, String.ofList_toList]

namespace Token

/-- Tokens from byte `start` on, none of them empty, each beginning where the one before it
ends. -/
inductive Tiles : Nat → List Token → Prop
  | nil {start : Nat} : Tiles start []
  | cons {start : Nat} {token : Token} {rest : List Token} (begins : token.start = start)
      (full : start < token.stop) (others : Tiles token.stop rest) : Tiles start (token :: rest)

def characters (tokens : List Token) : List Char := tokens.flatMap (·.text.toList)

namespace Tiles

variable {start : Nat} {tokens : List Token}

/-- Tokens begin where the first one does or later, and before the last one ends. -/
theorem bounds (h : Tiles start tokens) : ∀ token ∈ tokens,
    start ≤ token.start ∧ token.start < start + Text.byteLength (characters tokens) := by
  induction h with
  | nil =>
    intro token htoken
    cases htoken
  | @cons start first rest begins full _ ih =>
    intro token htoken
    have hall : Text.byteLength (characters (first :: rest)) =
        first.text.utf8ByteSize + Text.byteLength (characters rest) := by
      rw [characters, List.flatMap_cons, Text.byteLength_append, Text.byteLength_toList]
      rfl
    have hstop : first.stop = first.start + first.text.utf8ByteSize := rfl
    rcases List.mem_cons.mp htoken with rfl | htoken
    · omega
    · have hlater := ih token htoken
      omega

theorem increasing (h : Tiles start tokens) : tokens.Pairwise (·.start < ·.start) := by
  induction h with
  | nil => exact .nil
  | @cons start first rest begins full others ih =>
    apply List.Pairwise.cons _ ih
    intro token htoken
    calc
      first.start = start := begins
      _ < first.stop := full
      _ ≤ token.start := (others.bounds token htoken).1

end Tiles

/-! ## Pieces -/

theorem take_literalReach {close : Char} {cs : List Char} {count : Nat}
    (h : literalReach close cs = (count, true)) : ∃ inner, cs.take count = inner ++ [close] := by
  fun_induction literalReach close cs generalizing count with
  | case1 => cases h
  | case2 cs =>
    cases h
    exact ⟨[], rfl⟩
  | case3 => cases h
  | case4 => cases h
  | case5 => cases h
  | case6 d ds _ found closed hreach _ _ ih =>
    cases h
    obtain ⟨inner, hinner⟩ := ih hreach
    exact ⟨'\\' :: d :: inner, by rw [List.take_succ_cons, List.take_succ_cons, hinner]; rfl⟩
  | case7 c cs _ _ _ found closed hreach ih =>
    cases h
    obtain ⟨inner, hinner⟩ := ih hreach
    exact ⟨c :: inner, by rw [List.take_succ_cons, hinner]; rfl⟩

/-- A piece with characters in it; when it is a string, the quotes around it are alike. -/
structure Solid (piece : Kind × List Char) : Prop where
  full : piece.2 ≠ []
  quoted : piece.1 = .stringLiteral → ∃ mark inner, piece.2 = mark :: (inner ++ [mark])

theorem literal_solid {mark : Char} {cs : List Char} {kind : Kind}
    (h : (literal .stringLiteral mark cs).kind = some kind) :
    Solid (kind, mark :: cs.take (literal .stringLiteral mark cs).following) := by
  refine ⟨List.cons_ne_nil _ _, fun _ ↦ ?_⟩
  unfold literal at h ⊢
  cases hreach : literalReach mark cs with
  | mk count closed =>
    rw [hreach] at h
    cases closed with
    | false => cases h
    | true =>
      obtain ⟨inner, hinner⟩ := take_literalReach hreach
      exact ⟨mark, inner, by rw [← hinner]⟩

/-- A lexeme that is read as no string. -/
def Lexeme.Bare (lexeme : Lexeme) : Prop := lexeme.kind ≠ some .stringLiteral

theorem scan_bare {c : Char} {cs : List Char} (hdouble : c ≠ '"') (hsingle : c ≠ '\'') :
    (scan c cs).Bare := by
  have hsome {kind : Kind} {following : Nat} (h : kind ≠ .stringLiteral) :
      Lexeme.Bare ⟨some kind, following⟩ := fun hkind ↦ h (Option.some.inj hkind)
  have hnone {following : Nat} : Lexeme.Bare ⟨none, following⟩ := by rintro ⟨⟩
  have hword {name : List Char} : (keyword? name).getD .identifier ≠ .stringLiteral := by
    unfold keyword?
    repeat' split
    all_goals decide
  have hclass : (literal .charClass ']' cs).Bare := by
    unfold literal
    split
    split
    · exact hsome (by decide)
    · exact hnone
  have hite {p : Prop} [Decidable p] {first second : Lexeme} (h : p → first.Bare)
      (h' : second.Bare) : (if p then first else second).Bare := by
    split
    · exact h ‹p›
    · exact h'
  unfold scan
  repeat' refine hite (fun _ ↦ ?_) ?_
  all_goals first
    | contradiction
    | exact hclass
    | exact hsome (by decide)
    | exact hsome hword
    | exact hnone
    | skip
  split
  · exact hsome (by decide)
  · exact hnone

theorem scan_solid {c : Char} {cs : List Char} {kind : Kind} (h : (scan c cs).kind = some kind) :
    Solid (kind, c :: cs.take (scan c cs).following) := by
  by_cases hdouble : c = '"'
  · subst hdouble
    exact literal_solid h
  by_cases hsingle : c = '\''
  · subst hsingle
    exact literal_solid h
  refine ⟨List.cons_ne_nil _ _, fun hkind ↦ ?_⟩
  have hbare := @scan_bare c cs hdouble hsingle
  rw [Lexeme.Bare, h] at hbare
  exact absurd (congrArg some hkind) hbare

theorem cut_characters (cs : List Char) : (cut cs).flatMap (·.2) = cs := by
  induction cs using cut.induct with
  | case1 =>
    rw [cut]
    rfl
  | case2 c cs lexeme ih =>
    rw [cut, List.flatMap_cons, ih, List.cons_append, List.take_append_drop]

theorem garbagePiece_characters (garbage : List Char) :
    (garbagePiece garbage).flatMap (·.2) = garbage := by
  cases garbage <;> simp [garbagePiece]

theorem gather_characters (pieces : List (Option Kind × List Char)) (garbage : List Char) :
    (gather garbage pieces).flatMap (·.2) = garbage ++ pieces.flatMap (·.2) := by
  induction pieces generalizing garbage with
  | nil => rw [gather, garbagePiece_characters, List.flatMap_nil, List.append_nil]
  | cons piece rest ih =>
    obtain ⟨kind, text⟩ := piece
    cases kind with
    | none => rw [gather, ih, List.flatMap_cons, List.append_assoc]
    | some kind =>
      rw [gather, List.flatMap_append, garbagePiece_characters, List.flatMap_cons, ih,
        List.flatMap_cons, List.nil_append]

/-- A string is cut into parts that make it up. -/
theorem splitLiteral_characters {piece : Kind × List Char} (h : Solid piece) :
    (splitLiteral piece).flatMap (·.2) = piece.2 := by
  unfold splitLiteral
  split
  · next mark rest =>
    obtain ⟨first, inner, hsplit⟩ := h.quoted rfl
    obtain ⟨rfl, rfl⟩ := List.cons.inj hsplit
    rw [List.dropLast_concat]
    cases inner <;> simp
  · rw [List.flatMap_singleton]

theorem splitLiteral_full {piece : Kind × List Char} (h : piece.2 ≠ []) :
    ∀ part ∈ splitLiteral piece, part.2 ≠ [] := by
  intro part hpart
  unfold splitLiteral at hpart
  split at hpart
  · next mark rest =>
    simp only [List.mem_append, List.mem_cons, List.not_mem_nil, or_false] at hpart
    rcases hpart with (rfl | hpart) | rfl
    · exact List.cons_ne_nil _ _
    · split at hpart
      · cases hpart
      · next hfull =>
        rw [List.mem_singleton.mp hpart]
        exact fun hempty ↦ hfull (List.isEmpty_iff.mpr hempty)
    · exact List.cons_ne_nil _ _
  · rw [List.mem_singleton.mp hpart]
    exact h

theorem place_characters (start : Nat) (pieces : List (Kind × List Char)) :
    characters (place start pieces) = pieces.flatMap (·.2) := by
  induction pieces generalizing start with
  | nil => rfl
  | cons piece rest ih =>
    rw [place, characters, List.flatMap_cons, String.toList_ofList, List.flatMap_cons, ← ih]
    rfl

theorem place_tiles {pieces : List (Kind × List Char)} (h : ∀ piece ∈ pieces, piece.2 ≠ [])
    (start : Nat) : Tiles start (place start pieces) := by
  induction pieces generalizing start with
  | nil => exact .nil
  | cons piece rest ih =>
    obtain ⟨kind, text⟩ := piece
    have hstop : Token.stop ⟨kind, start, String.ofList text⟩ = start + Text.byteLength text :=
      congrArg (start + ·) (Text.utf8ByteSize_ofList text)
    have hfull : 0 < Text.byteLength text :=
      Nat.pos_of_ne_zero fun hempty ↦
        h _ List.mem_cons_self (Text.byteLength_eq_zero_iff.mp hempty)
    rw [place]
    refine .cons rfl ?_ ?_
    · rw [hstop]
      exact Nat.lt_add_of_pos_right hfull
    · rw [hstop]
      exact ih (fun piece hpiece ↦ h piece (List.mem_cons_of_mem _ hpiece)) _

/-! ## Texts -/

theorem pieces_solid (source : List Char) : ∀ piece ∈ gather [] (cut source), Solid piece :=
  pieces_forall scan_solid (fun hfull ↦ ⟨hfull, by rintro ⟨⟩⟩) source

theorem lex_tiles (source : List Char) : Tiles 0 (lex source) := by
  apply place_tiles
  intro part hpart
  obtain ⟨piece, hpiece, hpart⟩ := List.mem_flatMap.mp hpart
  exact splitLiteral_full (pieces_solid source piece hpiece).full part hpart

/-- The tokens of a text make it up. -/
theorem lex_characters (source : List Char) : characters (lex source) = source := by
  have hsplit {pieces : List (Kind × List Char)} (h : ∀ piece ∈ pieces, Solid piece) :
      (pieces.flatMap splitLiteral).flatMap (·.2) = pieces.flatMap (·.2) := by
    induction pieces with
    | nil => rfl
    | cons piece rest ih =>
      rw [List.flatMap_cons, List.flatMap_append, List.flatMap_cons,
        splitLiteral_characters (h piece List.mem_cons_self),
        ih fun piece hpiece ↦ h piece (List.mem_cons_of_mem _ hpiece)]
  calc
    characters (lex source) = ((gather [] (cut source)).flatMap splitLiteral).flatMap (·.2) :=
      place_characters 0 _
    _ = (gather [] (cut source)).flatMap (·.2) := hsplit (pieces_solid source)
    _ = source := by rw [gather_characters, cut_characters, List.nil_append]

end Token

end PegKit
