import Mathlib.Data.List.Forall2
import Mathlib.Data.List.Nodup
import PegKit.Proofs.Token.Tiling

/-!
# Trivia between tokens

Two texts may say the same and differ in trivia. Some tokens are consumed two at a time, a label's
name with its colon and a predicate's mark with its block, and trivia between them is met in place
of the second. So besides what the tokens say it counts which of these pairs trivia parts.
-/

namespace PegKit

/-- Whether a token of `kind` is consumed together with one of `next` after it. -/
def Kind.joins (kind next : Kind) : Bool :=
  kind == .identifier && next == .colon || (kind == .amp || kind == .bang) && next == .block

theorem Kind.not_joins_of_isTrivia {kind next : Kind} (h : kind.isTrivia = true) :
    kind.joins next = false := by
  cases kind <;> first | rfl | cases h

namespace Token

/-- What a token says, apart from where it stands. -/
def word (token : Token) : Kind × String := (token.kind, token.text)

/-- The kind of the first significant token; an error when there is none. -/
def nextKind (tokens : List Token) : Kind := ((significant tokens).head?.map kind).getD .error

/-- For each two tokens that are consumed together, in order, whether trivia parts them. -/
def parted : List Token → List Bool
  | [] => []
  | token :: rest =>
    if token.kind.joins (nextKind rest) then rest.head?.any isTrivia :: parted rest
    else parted rest

theorem significant_of_trivia {token : Token} (h : token.isTrivia = true) (rest : List Token) :
    significant (token :: rest) = significant rest := by
  rw [significant_cons, if_pos h]

theorem significant_of_not_trivia {token : Token} (h : token.isTrivia = false)
    (rest : List Token) : significant (token :: rest) = token :: significant rest := by
  rw [significant_cons, if_neg (Bool.eq_false_iff.mp h)]

theorem parted_of_trivia {token : Token} (h : token.isTrivia = true) (rest : List Token) :
    parted (token :: rest) = parted rest := by
  rw [parted, Kind.not_joins_of_isTrivia h, if_neg Bool.false_ne_true]

/-- Passing trivia changes nothing that counts. -/
theorem dropWhile_trivia (tokens : List Token) :
    significant (tokens.dropWhile isTrivia) = significant tokens ∧
      parted (tokens.dropWhile isTrivia) = parted tokens := by
  induction tokens with
  | nil => exact ⟨rfl, rfl⟩
  | cons token rest ih =>
    rw [List.dropWhile_cons]
    split
    · next htoken => rwa [significant_of_trivia htoken, parted_of_trivia htoken]
    · exact ⟨rfl, rfl⟩

/-! ## Tokens that say the same -/

/-- Tokens that say the same at related places. -/
structure Same (place : Nat → Nat → Prop) (token token' : Token) : Prop where
  word : token.word = token'.word
  placed : place token.start token'.start

/-- Tokens that say the same, trivia apart, and of which trivia parts the same pairs. -/
structure Alike (place : Nat → Nat → Prop) (tokens tokens' : List Token) : Prop where
  words : List.Forall₂ (Same place) (significant tokens) (significant tokens')
  parted : parted tokens = parted tokens'

/-- No trivia stands before the first token. -/
def Passed (tokens : List Token) : Prop := ∀ token ∈ tokens.head?, token.isTrivia = false

/-- Alike, with no trivia before the first tokens. -/
structure Poised (place : Nat → Nat → Prop) (tokens tokens' : List Token) : Prop where
  alike : Alike place tokens tokens'
  passed : Passed tokens
  passed' : Passed tokens'

/-- Alike, with trivia before both first tokens or before none. -/
structure Abreast (place : Nat → Nat → Prop) (tokens tokens' : List Token) : Prop where
  alike : Alike place tokens tokens'
  level : tokens.head?.any isTrivia = tokens'.head?.any isTrivia

/-- Poised at tokens of `kind`. -/
structure Facing (place : Nat → Nat → Prop) (kind : Kind) (tokens tokens' : List Token) :
    Prop where
  poised : Poised place tokens tokens'
  current : nextKind tokens = kind

/-- Poised at tokens of `kind` with tokens of `next` after them. -/
structure Paired (place : Nat → Nat → Prop) (kind next : Kind) (tokens tokens' : List Token) :
    Prop where
  facing : Facing place kind tokens tokens'
  following : nextKind tokens.tail = next

variable {place : Nat → Nat → Prop} {tokens tokens' rest rest' : List Token}

theorem head_eq (h : List.Forall₂ (Same place) (significant tokens) (significant tokens')) :
    (significant tokens).head?.map kind = (significant tokens').head?.map kind := by
  generalize significant tokens = ahead at h
  generalize significant tokens' = ahead' at h
  cases h with
  | nil => rfl
  | cons hsame _ => exact congrArg (fun word ↦ some word.1) hsame.word

theorem nextKind_eq (h : List.Forall₂ (Same place) (significant tokens) (significant tokens')) :
    nextKind tokens = nextKind tokens' :=
  congrArg (·.getD .error) (head_eq h)

theorem Alike.nextKind (h : Alike place tokens tokens') :
    nextKind tokens = Token.nextKind tokens' :=
  nextKind_eq h.words

theorem Alike.sameWords (h : Alike place tokens tokens') :
    (significant tokens).map word = (significant tokens').map word := by
  rw [← List.forall₂_eq_eq_eq, List.forall₂_map_left_iff, List.forall₂_map_right_iff]
  exact h.words.imp fun _ _ hsame ↦ hsame.word

theorem Alike.passTrivia (h : Alike place tokens tokens') :
    Poised place (tokens.dropWhile isTrivia) (tokens'.dropWhile isTrivia) := by
  have hpassed (tokens : List Token) : Passed (tokens.dropWhile isTrivia) := by
    intro token htoken
    have hhead := List.head?_dropWhile_not isTrivia tokens
    rw [Option.mem_def.mp htoken] at hhead
    exact Bool.eq_false_iff.mpr (by simpa using hhead)
  refine ⟨⟨?_, ?_⟩, hpassed tokens, hpassed tokens'⟩
  · rw [(dropWhile_trivia tokens).1, (dropWhile_trivia tokens').1]
    exact h.words
  · rw [(dropWhile_trivia tokens).2, (dropWhile_trivia tokens').2]
    exact h.parted

namespace Poised

/-- Poised at the end, or at tokens that say the same. -/
theorem cases (h : Poised place tokens tokens') : tokens = [] ∧ tokens' = [] ∨
    ∃ token rest token' rest', tokens = token :: rest ∧ tokens' = token' :: rest' ∧
      token.isTrivia = false ∧ token'.isTrivia = false ∧ Same place token token' ∧
      List.Forall₂ (Same place) (significant rest) (significant rest') := by
  obtain ⟨⟨hwords, _⟩, hpassed, hpassed'⟩ := h
  cases tokens with
  | nil =>
    cases tokens' with
    | nil => exact .inl ⟨rfl, rfl⟩
    | cons token' rest' =>
      rw [significant_of_not_trivia (hpassed' token' rfl)] at hwords
      cases hwords
  | cons token rest =>
    have htoken := hpassed token rfl
    rw [significant_of_not_trivia htoken] at hwords
    cases tokens' with
    | nil => cases hwords
    | cons token' rest' =>
      have htoken' := hpassed' token' rfl
      rw [significant_of_not_trivia htoken'] at hwords
      cases hwords with
      | cons hsame hrest =>
        exact .inr ⟨token, rest, token', rest', rfl, rfl, htoken, htoken', hsame, hrest⟩

theorem isEmpty (h : Poised place tokens tokens') : tokens.isEmpty = tokens'.isEmpty := by
  rcases h.cases with ⟨rfl, rfl⟩ | ⟨_, _, _, _, rfl, rfl, _⟩ <;> rfl

/-- The first tokens say the same, and so does what follows them. Trivia comes right after both or
after none when they are consumed together with what follows. -/
theorem uncons {token token' : Token} (h : Poised place (token :: rest) (token' :: rest')) :
    Same place token token' ∧ Alike place rest rest' ∧
      (token.kind.joins (nextKind rest) = true →
        rest.head?.any isTrivia = rest'.head?.any isTrivia) := by
  have hcases := h.cases
  simp only [List.cons_ne_nil, false_and, false_or, List.cons.injEq] at hcases
  obtain ⟨_, _, _, _, ⟨rfl, rfl⟩, ⟨rfl, rfl⟩, _, _, hsame, hrest⟩ := hcases
  have hnext := nextKind_eq hrest
  have hkind : token.kind = token'.kind := congrArg Prod.fst hsame.word
  have hparted := h.alike.parted
  unfold parted at hparted
  rw [← hkind, ← hnext] at hparted
  split at hparted
  · obtain ⟨hfront, hparted⟩ := List.cons.inj hparted
    exact ⟨hsame, ⟨hrest, hparted⟩, fun _ ↦ hfront⟩
  · next hjoins => exact ⟨hsame, ⟨hrest, hparted⟩, fun h ↦ absurd h hjoins⟩

end Poised

theorem Paired.abreast {kind next : Kind} {token token' : Token} (hjoins : kind.joins next = true)
    (h : Paired place kind next (token :: rest) (token' :: rest')) :
    Abreast place rest rest' := by
  obtain ⟨⟨hpoised, hcurrent⟩, hnext⟩ := h
  obtain ⟨_, hrest, hlevel⟩ := hpoised.uncons
  refine ⟨hrest, hlevel ?_⟩
  have hkind : token.kind = kind := by
    rw [← hcurrent, nextKind, significant_of_not_trivia (hpoised.passed token rfl)]
    rfl
  rw [List.tail_cons] at hnext
  rwa [hkind, hnext]

/-- The first of tokens that are abreast: trivia on both sides, or tokens that say the same. -/
theorem Abreast.uncons {token token' : Token}
    (h : Abreast place (token :: rest) (token' :: rest')) :
    Alike place rest rest' ∧
      (significant [token]).map word = (significant [token']).map word := by
  obtain ⟨halike, hlevel⟩ := h
  have hlevel : token.isTrivia = token'.isTrivia := hlevel
  cases htoken : token.isTrivia with
  | true =>
    rw [htoken] at hlevel
    obtain ⟨hwords, hparted⟩ := halike
    rw [significant_of_trivia htoken, significant_of_trivia hlevel.symm] at hwords
    rw [parted_of_trivia htoken, parted_of_trivia hlevel.symm] at hparted
    exact ⟨⟨hwords, hparted⟩,
      by rw [significant_of_trivia htoken, significant_of_trivia hlevel.symm]⟩
  | false =>
    rw [htoken] at hlevel
    have hpassed {token : Token} {rest : List Token} (h : token.isTrivia = false) :
        Passed (token :: rest) := by
      rintro _ ⟨⟩
      exact h
    obtain ⟨hsame, hrest, _⟩ :=
      Poised.uncons ⟨halike, hpassed htoken, hpassed hlevel.symm⟩
    rw [significant_of_not_trivia htoken, significant_of_not_trivia hlevel.symm]
    exact ⟨hrest, congrArg (fun word ↦ [word]) hsame.word⟩

theorem Poised.abreast (h : Poised place tokens tokens') : Abreast place tokens tokens' := by
  refine ⟨h.alike, ?_⟩
  rcases h.cases with ⟨rfl, rfl⟩ | ⟨_, _, _, _, rfl, rfl, htoken, htoken', _⟩
  · rfl
  · rw [List.head?_cons, List.head?_cons, Option.any_some, Option.any_some, htoken, htoken']

/-! ## Places -/

/-- Where the significant tokens of a text begin, and where it ends. -/
def places (source : String) : List Nat :=
  (significant (lex source.toList)).map start ++ [source.utf8ByteSize]

theorem places_increasing (source : String) : (places source).Pairwise (· < ·) := by
  have htiles := lex_tiles source.toList
  unfold places
  rw [List.pairwise_append]
  refine ⟨?_, List.pairwise_singleton _ _, fun place hplace length hlength ↦ ?_⟩
  · rw [List.pairwise_map]
    exact htiles.increasing.filter _
  · obtain ⟨token, htoken, rfl⟩ := List.mem_map.mp hplace
    obtain rfl := List.mem_singleton.mp hlength
    have hbounds := (htiles.bounds token (List.mem_of_mem_filter htoken)).2
    rwa [lex_characters, Text.byteLength_toList, Nat.zero_add] at hbounds

/-- The places of two texts that correspond to each other, counted from the start. -/
def Corresponding (source source' : String) (place place' : Nat) : Prop :=
  (place, place') ∈ (places source).zip (places source')

theorem Corresponding.eq_iff {source source' : String} {p p' q q' : Nat}
    (h : Corresponding source source' p p') (h' : Corresponding source source' q q') :
    p = q ↔ p' = q' := by
  obtain ⟨i, hi, hp⟩ := List.mem_iff_getElem.mp h
  obtain ⟨j, hj, hq⟩ := List.mem_iff_getElem.mp h'
  rw [List.getElem_zip, Prod.mk.injEq] at hp hq
  have hnodup {source : String} : (places source).Nodup :=
    (places_increasing source).imp Nat.ne_of_lt
  rw [← hp.1, ← hp.2, ← hq.1, ← hq.2, List.Nodup.getElem_inj_iff hnodup,
    List.Nodup.getElem_inj_iff hnodup]

/-- Texts that say the same have alike tokens at corresponding places, and correspond where they
end. -/
theorem lex_alike {source source' : String}
    (hwords : (significant (lex source.toList)).map word =
      (significant (lex source'.toList)).map word)
    (hparted : parted (lex source.toList) = parted (lex source'.toList)) :
    Alike (Corresponding source source') (lex source.toList) (lex source'.toList) ∧
      Corresponding source source' source.utf8ByteSize source'.utf8ByteSize := by
  have hlength := congrArg List.length hwords
  rw [List.length_map, List.length_map] at hlength
  have hzip : (places source).zip (places source') =
      ((significant (lex source.toList)).zip (significant (lex source'.toList))).map
        (Prod.map start start) ++ [(source.utf8ByteSize, source'.utf8ByteSize)] := by
    unfold places
    rw [List.zip_append (by rw [List.length_map, List.length_map, hlength]), List.zip_map]
    rfl
  refine ⟨⟨?_, hparted⟩, ?_⟩
  · have hsame : List.Forall₂ (fun token token' ↦ word token = word token')
        (significant (lex source.toList)) (significant (lex source'.toList)) := by
      rwa [← List.forall₂_eq_eq_eq, List.forall₂_map_left_iff, List.forall₂_map_right_iff]
        at hwords
    rw [List.forall₂_iff_zip] at hsame ⊢
    refine ⟨hlength, fun {token token'} htokens ↦ ⟨hsame.2 htokens, ?_⟩⟩
    unfold Corresponding
    rw [hzip]
    exact List.mem_append_left _ (List.mem_map_of_mem htokens)
  · unfold Corresponding
    rw [hzip]
    exact List.mem_append_right _ (List.mem_singleton_self _)

end Token

end PegKit
