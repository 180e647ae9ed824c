import PegKit.Proofs.Terminal.CodePoint
import PegKit.Proofs.Terminal.Escapes

/-!
# The escape syntax

A text is well formed when it consists of characters that stand for themselves and of escapes, and
it stands for what these stand for. Unescaping reads exactly such texts, and of any other it reports
where the first backslash stands that begins no escape. It takes a plus sign before the number of a
code point for part of the number; this is the one place where it leaves the syntax, and it does so
exactly when a text has such a number before anything else is wrong with it.
-/

namespace PegKit.Terminal

open Text (IsBoundary Span byteLength slice)

/-! ## Texts and what they stand for -/

section

/- How the number of a code point is written between braces. -/
variable {numeral : List Char → Char → Prop}

/-- What stands for one character: the character itself, if it is no backslash, or an escape. -/
inductive Piece (numeral : List Char → Char → Prop) : List Char → Char → Prop
  | bare {c : Char} (plain : c ≠ '\\') : Piece numeral [c] c
  | newline : Piece numeral ['\\', 'n'] '\n'
  | tab : Piece numeral ['\\', 't'] '\t'
  | carriageReturn : Piece numeral ['\\', 'r'] '\r'
  | null : Piece numeral ['\\', '0'] '\x00'
  | backslash : Piece numeral ['\\', '\\'] '\\'
  | singleQuote : Piece numeral ['\\', '\''] '\''
  | doubleQuote : Piece numeral ['\\', '"'] '"'
  | codePoint {body : List Char} {c : Char} (value : numeral body c) :
      Piece numeral ('\\' :: 'u' :: '{' :: (body ++ ['}'])) c

/-- The text consists of pieces that stand for the characters of the other, one after the other. -/
inductive Consists (numeral : List Char → Char → Prop) : List Char → List Char → Prop
  | nil : Consists numeral [] []
  | cons {written cs text : List Char} {c : Char} (first : Piece numeral written c)
      (rest : Consists numeral cs text) : Consists numeral (written ++ cs) (c :: text)

theorem Piece.mono {numeral' : List Char → Char → Prop}
    (hmono : ∀ body c, numeral body c → numeral' body c) {written : List Char} {c : Char}
    (h : Piece numeral written c) : Piece numeral' written c := by
  cases h with
  | codePoint value => exact .codePoint (hmono _ _ value)
  | _ => constructor <;> assumption

theorem Escape.piece {written : List Char} {c : Char} (h : Escape written c) :
    Piece IsSigned written c := by
  cases h with
  | letter known value =>
    revert value
    fun_cases escapedChar? with
    | case1 h =>
      rintro ⟨⟩
      exact h ▸ .newline
    | case2 _ h =>
      rintro ⟨⟩
      exact h ▸ .tab
    | case3 _ _ h =>
      rintro ⟨⟩
      exact h ▸ .carriageReturn
    | case4 _ _ _ h =>
      rintro ⟨⟩
      exact h ▸ .null
    | case5 _ _ _ _ h =>
      rintro ⟨⟩
      simp only [Bool.or_eq_true, decide_eq_true_eq] at h
      rcases h with (rfl | rfl) | rfl
      · exact .backslash
      · exact .singleQuote
      · exact .doubleQuote
    | case6 => rintro ⟨⟩
  | codePoint inside value => exact .codePoint (codePoint?_eq_some_iff.mp value)

theorem Piece.escape {written : List Char} {c : Char} (h : Piece IsSigned written c)
    (hbackslash : written.head? = some '\\') : Escape written c := by
  cases h with
  | bare plain => exact absurd (Option.some.inj hbackslash) plain
  | codePoint value => exact .codePoint value.brace_not_mem (codePoint?_eq_some_iff.mpr value)
  | _ => exact .letter (by decide) rfl

theorem Piece.ne_nil {written : List Char} {c : Char} (h : Piece numeral written c) :
    written ≠ [] := by
  cases h <;> rintro ⟨⟩

theorem WellEscaped.consists {cs text : List Char} (h : WellEscaped cs text) :
    Consists IsSigned cs text := by
  induction h with
  | nil => exact .nil
  | plain bare _ ih => exact .cons (.bare bare) ih
  | escape first _ ih => exact .cons first.piece ih

theorem Piece.plain_or_head? {written : List Char} {c : Char} (h : Piece numeral written c) :
    (written = [c] ∧ c ≠ '\\') ∨ written.head? = some '\\' := by
  cases h with
  | bare plain => exact .inl ⟨rfl, plain⟩
  | _ => exact .inr rfl

theorem Consists.wellEscaped {cs text : List Char} (h : Consists IsSigned cs text) :
    WellEscaped cs text := by
  induction h with
  | nil => exact .nil
  | cons first _ ih =>
    rcases first.plain_or_head? with ⟨rfl, hplain⟩ | hhead
    · exact .plain hplain ih
    · exact .escape (first.escape hhead) ih

theorem Consists.mono {numeral' : List Char → Char → Prop}
    (hmono : ∀ body c, numeral body c → numeral' body c) {cs text : List Char}
    (h : Consists numeral cs text) : Consists numeral' cs text := by
  induction h with
  | nil => exact .nil
  | cons first _ ih => exact .cons (first.mono hmono) ih

theorem Consists.append {cs ds text more : List Char} (h : Consists numeral cs text)
    (h' : Consists numeral ds more) : Consists numeral (cs ++ ds) (text ++ more) := by
  induction h with
  | nil => exact h'
  | cons first _ ih =>
    rw [List.append_assoc]
    exact .cons first ih

theorem isSigned_of_isCodePoint (body : List Char) (c : Char) (h : IsCodePoint body c) :
    IsSigned body c :=
  ⟨body, .inl rfl, h⟩

/-- What is reported begins no escape: reading it as one would report a later place. -/
theorem Offends.not_piece {bad rest written : List Char} {c : Char} (h : Offends bad rest)
    (hpiece : Piece IsSigned written c) : ¬ written <+: bad ++ rest := by
  rintro ⟨more, hmore⟩
  rcases hpiece.plain_or_head? with ⟨rfl, hplain⟩ | hhead
  · have hfirst := congrArg List.head? hmore
    rw [List.head?_append, List.head?_append, h.head?] at hfirst
    exact hplain (Option.some.inj hfirst)
  · have hescape := hpiece.escape hhead
    have hread := unescapeFrom_escape hescape 0 more
    rw [hmore, unescapeFrom_offends h] at hread
    cases hlater : unescapeFrom (0 + byteLength written) more with
    | ok text =>
      rw [hlater] at hread
      cases hread
    | error span =>
      rw [hlater] at hread
      have hspan := Except.error.inj hread
      have hstart := le_start_of_unescapeFrom hlater
      have hpos := mt Text.byteLength_eq_zero_iff.mp hescape.ne_nil
      rw [← hspan] at hstart
      dsimp only at hstart
      omega

/-- No text is cut into pieces in two ways. -/
theorem Piece.eq_of_append {written written' cs cs' : List Char} {c c' : Char}
    (h : Piece IsSigned written c) (h' : Piece IsSigned written' c')
    (heq : written ++ cs = written' ++ cs') : written = written' := by
  have hhead := congrArg List.head? heq
  rw [List.head?_append, List.head?_append] at hhead
  rcases h.plain_or_head? with ⟨rfl, hplain⟩ | hescape <;>
    rcases h'.plain_or_head? with ⟨rfl, hplain'⟩ | hescape'
  · exact congrArg (fun c ↦ [c]) (Option.some.inj hhead)
  · rw [hescape'] at hhead
    exact absurd (Option.some.inj hhead) hplain
  · rw [hescape] at hhead
    exact absurd (Option.some.inj hhead).symm hplain'
  · exact (h.escape hescape).eq_of_append (h'.escape hescape') heq

/-! ## What unescaping reports -/

/-- At `span` stands the first backslash of `raw` that begins no escape: all before it stands for
some text, nothing that stands for a character begins there, and the span can be cut out. -/
structure FirstFault (numeral : List Char → Char → Prop) (raw : String) (span : Span) : Prop where
  nonempty : span.start < span.stop
  within : span.stop ≤ byteLength raw.toList
  start_boundary : IsBoundary raw.toList span.start
  stop_boundary : IsBoundary raw.toList span.stop
  before : ∃ value, unescape (String.ofList (slice raw.toList 0 span.start)) = .ok value ∧
    Consists numeral (slice raw.toList 0 span.start) value.toList
  backslash : (slice raw.toList span.start span.stop).head? = some '\\'
  no_escape : ∀ written c, Piece numeral written c →
    ¬ written <+: slice raw.toList span.start (byteLength raw.toList)

/-- Unescaping reads exactly the texts that consist of pieces, to what these stand for, and of any
other it reports the first fault. -/
structure Unescapes (numeral : List Char → Char → Prop) (raw : String) : Prop where
  accepts : ∀ value, unescape raw = .ok value ↔ Consists numeral raw.toList value.toList
  reports : (¬ ∃ text, Consists numeral raw.toList text) →
    ∃ span, unescape raw = .error span ∧ FirstFault numeral raw span

theorem unescape_of_consists {cs text : List Char} (h : Consists IsSigned cs text) :
    unescape (String.ofList cs) = .ok (String.ofList text) := by
  rw [unescape, String.toList_ofList, unescapeFrom_wellEscaped h.wellEscaped]
  rfl

theorem FirstFault.of_split {raw : String} {good text bad rest : List Char}
    (hraw : raw.toList = good ++ (bad ++ rest))
    (hnumeral : ∀ body c, numeral body c → IsSigned body c)
    (hgood : Consists numeral good text) (hbad : Offends bad rest) :
    FirstFault numeral raw ⟨byteLength good, byteLength good + byteLength bad⟩ where
  nonempty := by
    have hne : bad ≠ [] := by
      rintro rfl
      cases hbad.head?
    have hpos := mt Text.byteLength_eq_zero_iff.mp hne
    dsimp only
    omega
  within := by
    rw [hraw, Text.byteLength_append, Text.byteLength_append, ← Nat.add_assoc]
    exact Nat.le_add_right ..
  start_boundary := by
    rw [IsBoundary, hraw, Text.dropBytes?_append]
    rfl
  stop_boundary := by
    rw [IsBoundary, hraw, ← List.append_assoc, ← Text.byteLength_append, Text.dropBytes?_append]
    rfl
  before := by
    rw [hraw, Text.slice_take]
    refine ⟨String.ofList text, unescape_of_consists (hgood.mono hnumeral), ?_⟩
    rwa [String.toList_ofList]
  backslash := by
    rw [hraw, Text.slice_middle]
    exact hbad.head?
  no_escape := by
    intro written c hpiece
    have hslice := Text.slice_middle good (bad ++ rest) []
    rw [List.append_nil, ← Text.byteLength_append, ← hraw] at hslice
    rw [hslice]
    exact hbad.not_piece (hpiece.mono hnumeral)

theorem unescape_cases (raw : String) :
    (∃ text, Consists IsSigned raw.toList text ∧ unescape raw = .ok (String.ofList text)) ∨
      ∃ good text bad rest, raw.toList = good ++ (bad ++ rest) ∧ Consists IsSigned good text ∧
        Offends bad rest ∧ unescape raw =
          .error ⟨byteLength good, byteLength good + byteLength bad⟩ := by
  rcases unescapeFrom_cases 0 raw.toList with
    ⟨text, htext, hread⟩ | ⟨good, text, bad, rest, hraw, hgood, hbad, hread⟩
  · refine .inl ⟨text, htext.consists, ?_⟩
    rw [unescape, hread]
    rfl
  · refine .inr ⟨good, text, bad, rest, hraw, hgood.consists, hbad, ?_⟩
    rw [unescape, hread, Nat.zero_add]
    rfl

/-- A fault stands after all that is well formed. -/
theorem Consists.le_start {raw : String} {good text rest : List Char} {span : Span}
    (h : Consists IsSigned good text) (hraw : raw.toList = good ++ rest)
    (hread : unescape raw = .error span) : byteLength good ≤ span.start := by
  rw [unescape, hraw, unescapeFrom_append h.wellEscaped, Nat.zero_add] at hread
  cases hrest : unescapeFrom (byteLength good) rest with
  | ok more =>
    rw [hrest] at hread
    cases hread
  | error span' =>
    rw [hrest] at hread
    cases hread
    exact le_start_of_unescapeFrom hrest

/-- Reading is exact for every way of writing numbers that agrees with what it takes for one, as far
as the text is well formed. -/
theorem Unescapes.of_agree {raw : String} (hnumeral : ∀ body c, numeral body c → IsSigned body c)
    (hagree : ∀ cs text, cs <+: raw.toList → Consists IsSigned cs text →
      Consists numeral cs text) : Unescapes numeral raw where
  accepts := by
    intro value
    constructor
    · intro h
      rcases unescape_cases raw with ⟨text, htext, hread⟩ | ⟨_, _, _, _, _, _, _, hread⟩
      · rw [hread] at h
        cases h
        rw [String.toList_ofList]
        exact hagree _ _ (List.prefix_refl _) htext
      · rw [hread] at h
        cases h
    · intro h
      have hread := unescape_of_consists (h.mono hnumeral)
      rwa [String.ofList_toList, String.ofList_toList] at hread
  reports := by
    intro hnot
    rcases unescape_cases raw with
      ⟨text, htext, _⟩ | ⟨good, text, bad, rest, hraw, hgood, hbad, hread⟩
    · exact absurd ⟨text, hagree _ _ (List.prefix_refl _) htext⟩ hnot
    · have hfront : good <+: raw.toList := by
        rw [hraw]
        exact List.prefix_append ..
      exact ⟨_, hread, .of_split hraw hnumeral (hagree _ _ hfront hgood) hbad⟩

/-! ## Code points after a plus sign -/

/-- The code point that `digits` write, after a plus sign. -/
def plusEscape (digits : List Char) : List Char :=
  '\\' :: 'u' :: '{' :: ('+' :: digits ++ ['}'])

/-- Before anything else is wrong, the number of a code point follows a plus sign. -/
def Overread (cs : List Char) : Prop :=
  ∃ good text digits c, Consists IsCodePoint good text ∧ IsCodePoint digits c ∧
    good ++ plusEscape digits <+: cs

theorem Overread.of_prefix {cs ds : List Char} (h : Overread cs) (hfront : cs <+: ds) :
    Overread ds := by
  obtain ⟨good, text, digits, c, hgood, hdigits, hfirst⟩ := h
  exact ⟨good, text, digits, c, hgood, hdigits, hfirst.trans hfront⟩

theorem Piece.signed_or {written : List Char} {c : Char} (h : Piece IsSigned written c) :
    Piece IsCodePoint written c ∨ ∃ digits, IsCodePoint digits c ∧ written = plusEscape digits := by
  cases h with
  | bare plain => exact .inl (.bare plain)
  | codePoint value =>
    obtain ⟨digits, rfl | rfl, hdigits⟩ := value
    · exact .inl (.codePoint hdigits)
    · exact .inr ⟨digits, hdigits, rfl⟩
  | _ => exact .inl (by constructor)

theorem Consists.overread_or {cs text : List Char} (h : Consists IsSigned cs text) :
    Consists IsCodePoint cs text ∨ Overread cs := by
  induction h with
  | nil => exact .inl .nil
  | @cons written cs text c first _ ih =>
    rcases first.signed_or with hfirst | ⟨digits, hdigits, rfl⟩
    · rcases ih with htext | ⟨good, goodText, digits, d, hgood, hdigits, hfront⟩
      · exact .inl (.cons hfirst htext)
      · refine .inr ⟨written ++ good, c :: goodText, digits, d, .cons hfirst hgood, hdigits, ?_⟩
        rw [List.append_assoc]
        exact (List.prefix_append_right_inj written).mpr hfront
    · exact .inr ⟨[], [], digits, c, .nil, hdigits, List.prefix_append ..⟩

theorem Piece.ne_plusEscape {written : List Char} {c : Char} (h : Piece IsCodePoint written c)
    (digits : List Char) : written ≠ plusEscape digits := by
  intro hwritten
  cases h with
  | @codePoint body _ value =>
    simp only [plusEscape, List.cons.injEq, true_and] at hwritten
    rw [List.append_cancel_right hwritten] at value
    exact value.not_mem (by decide) List.mem_cons_self
  | _ => cases hwritten

theorem Overread.not_consists {cs text : List Char} (h : Overread cs) :
    ¬ Consists IsCodePoint cs text := by
  obtain ⟨good, goodText, digits, d, hgood, hdigits, more, hmore⟩ := h
  intro htext
  have hplus : Piece IsSigned (plusEscape digits) d :=
    .codePoint ⟨digits, .inr rfl, hdigits⟩
  induction hgood generalizing cs text with
  | nil =>
    cases htext with
    | nil => cases hmore
    | cons first _ =>
      have hwritten := hplus.eq_of_append (first.mono isSigned_of_isCodePoint) hmore
      exact first.ne_plusEscape digits hwritten.symm
  | @cons written good goodText c hfirst _ ih =>
    rw [List.append_assoc, List.append_assoc] at hmore
    cases htext with
    | nil => exact hfirst.ne_nil (List.append_eq_nil_iff.mp hmore).1
    | cons first rest =>
      have hwritten := (hfirst.mono isSigned_of_isCodePoint).eq_of_append
        (first.mono isSigned_of_isCodePoint) hmore
      rw [← hwritten] at hmore
      refine ih ?_ rest
      rw [List.append_assoc]
      exact List.append_cancel_left hmore

/-- What follows the overread number is reported, if anything is, so the text up to there is not one
that the syntax allows. -/
theorem not_unescapes_codePoint {raw : String} (h : Overread raw.toList) :
    ¬ Unescapes IsCodePoint raw := by
  intro hunescapes
  obtain ⟨span, hread, hfault⟩ := hunescapes.reports fun ⟨text, htext⟩ ↦ h.not_consists htext
  obtain ⟨value, _, hbefore⟩ := hfault.before
  obtain ⟨good, text, digits, c, hgood, hdigits, rest, hrest⟩ := h
  have hplus : Consists IsSigned (plusEscape digits ++ []) [c] :=
    .cons (.codePoint ⟨digits, .inr rfl, hdigits⟩) .nil
  have hsigned := (hgood.mono isSigned_of_isCodePoint).append hplus
  rw [List.append_nil] at hsigned
  have hstart := hsigned.le_start hrest.symm hread
  have hover : Overread (slice raw.toList 0 span.start) := by
    refine ⟨good, text, digits, c, hgood, hdigits, ?_⟩
    rw [← hrest]
    exact Text.prefix_slice rest hstart
  exact hover.not_consists hbefore

/-- Unescaping is exact for numbers that a plus sign may precede, and for the numbers of the syntax
unless a text has one after a plus sign before anything else is wrong with it. -/
theorem unescape_exact (raw : String) :
    Unescapes IsSigned raw ∧ (Unescapes IsCodePoint raw ↔ ¬ Overread raw.toList) := by
  refine ⟨.of_agree (fun _ _ hvalue ↦ hvalue) fun _ _ _ htext ↦ htext, ?_, ?_⟩
  · intro h hover
    exact not_unescapes_codePoint hover h
  · intro h
    apply Unescapes.of_agree isSigned_of_isCodePoint
    intro cs text hfront htext
    apply htext.overread_or.resolve_right
    intro hover
    exact h (hover.of_prefix hfront)

/-- `A` is read from its code point after a plus sign. -/
theorem unescape_reads_plus : ¬ ∀ raw, Unescapes IsCodePoint raw := by
  intro h
  have hpoint : IsCodePoint ['4', '1'] 'A' :=
    .more (.one (n := 4) (.inl rfl)) (k := 1) (.inl rfl)
  have hover : Overread r"\u{+41}".toList :=
    ⟨[], [], ['4', '1'], 'A', .nil, hpoint, by decide⟩
  exact not_unescapes_codePoint hover (h _)

end

end PegKit.Terminal
