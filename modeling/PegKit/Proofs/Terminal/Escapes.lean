import PegKit.Terminal

/-!
# Malformed escapes

A text whose escapes are all well formed is read to its end. Any other text is well formed up to
some backslash, and what starts there is no escape: that is the place that is reported, from the
backslash to the end of what was looked at.
-/

namespace PegKit.Terminal

open Text (Span byteLength byteLength_append byteLength_cons byteLength_nil)

/-- An escape, and the character that it stands for. -/
inductive Escape : List Char → Char → Prop
  | letter {e c : Char} (known : e ≠ 'u') (value : escapedChar? e = some c) : Escape ['\\', e] c
  | codePoint {digits : List Char} {c : Char} (inside : '}' ∉ digits)
      (value : codePoint? digits = some c) :
      Escape ('\\' :: 'u' :: '{' :: (digits ++ ['}'])) c

/-- A text in which every backslash begins an escape, and what it stands for. -/
inductive WellEscaped : List Char → List Char → Prop
  | nil : WellEscaped [] []
  | plain {c : Char} {cs text : List Char} (bare : c ≠ '\\') (rest : WellEscaped cs text) :
      WellEscaped (c :: cs) (c :: text)
  | escape {written cs text : List Char} {c : Char} (first : Escape written c)
      (rest : WellEscaped cs text) : WellEscaped (written ++ cs) (c :: text)

/-- What is reported of a backslash that begins no escape, before `rest`. -/
inductive Offends : List Char → List Char → Prop
  | alone : Offends ['\\'] []
  | unknown {e : Char} {rest : List Char} (other : e ≠ 'u') (none : escapedChar? e = none) :
      Offends ['\\', e] rest
  | unopened {rest : List Char} (brace : rest.head? ≠ some '{') : Offends ['\\', 'u'] rest
  | unclosed {body : List Char} (inside : '}' ∉ body) :
      Offends ('\\' :: 'u' :: '{' :: body) []
  | noCharacter {digits rest : List Char} (inside : '}' ∉ digits)
      (none : codePoint? digits = none) :
      Offends ('\\' :: 'u' :: '{' :: (digits ++ ['}'])) rest

/-- A backslash begins an escape, or what is reported of it. -/
theorem escape_or_offends (cs : List Char) :
    (∃ written c rest, '\\' :: cs = written ++ rest ∧ Escape written c) ∨
      ∃ bad rest, '\\' :: cs = bad ++ rest ∧ Offends bad rest := by
  cases cs with
  | nil => exact .inr ⟨['\\'], [], rfl, .alone⟩
  | cons e rest =>
    by_cases hletter : e = 'u'
    · subst hletter
      by_cases hopened : rest.head? = some '{'
      · obtain ⟨body, rfl⟩ : ∃ body, rest = '{' :: body := by
          cases rest with
          | nil => cases hopened
          | cons brace body =>
            cases hopened
            exact ⟨body, rfl⟩
        by_cases hclosed : '}' ∈ body
        · obtain ⟨digits, after, rfl, hinside⟩ := List.eq_append_cons_of_mem hclosed
          cases hvalue : codePoint? digits with
          | some c => exact .inl ⟨_, c, after, by simp, .codePoint hinside hvalue⟩
          | none => exact .inr ⟨_, after, by simp, .noCharacter hinside hvalue⟩
        · exact .inr ⟨_, [], (List.append_nil _).symm, .unclosed hclosed⟩
      · exact .inr ⟨['\\', 'u'], rest, rfl, .unopened hopened⟩
    · cases hvalue : escapedChar? e with
      | some c => exact .inl ⟨['\\', e], c, rest, rfl, .letter hletter hvalue⟩
      | none => exact .inr ⟨['\\', e], rest, rfl, .unknown hletter hvalue⟩

theorem Escape.ne_nil {written : List Char} {c : Char} (h : Escape written c) : written ≠ [] := by
  cases h <;> rintro ⟨⟩

theorem Offends.head? {bad rest : List Char} (h : Offends bad rest) : bad.head? = some '\\' := by
  cases h <;> rfl

/-- A text is well formed to its end, or up to what is reported. -/
theorem wellEscaped_or_offends (cs : List Char) : (∃ text, WellEscaped cs text) ∨
    ∃ good text bad rest, cs = good ++ (bad ++ rest) ∧ WellEscaped good text ∧
      Offends bad rest := by
  induction cs using (measure List.length).wf.induction with
  | _ cs ih =>
  cases cs with
  | nil => exact .inl ⟨[], .nil⟩
  | cons c cs =>
    by_cases hbackslash : c = '\\'
    · subst hbackslash
      rcases escape_or_offends cs with
        ⟨written, c, rest, hsplit, hescape⟩ | ⟨bad, rest, hsplit, hbad⟩
      · have hshorter : rest.length < ('\\' :: cs).length := by
          rw [hsplit, List.length_append]
          exact Nat.lt_add_of_pos_left (List.length_pos_iff.mpr hescape.ne_nil)
        rw [hsplit]
        rcases ih rest hshorter with ⟨text, htext⟩ | ⟨good, text, bad, rest, rfl, htext, hbad⟩
        · exact .inl ⟨c :: text, .escape hescape htext⟩
        · exact .inr ⟨written ++ good, c :: text, bad, rest, by simp, .escape hescape htext, hbad⟩
      · exact .inr ⟨[], [], bad, rest, hsplit, .nil, hbad⟩
    · rcases ih cs (Nat.lt_succ_self _) with
        ⟨text, htext⟩ | ⟨good, text, bad, rest, rfl, htext, hbad⟩
      · exact .inl ⟨c :: text, .plain hbackslash htext⟩
      · exact .inr ⟨c :: good, c :: text, bad, rest, rfl, .plain hbackslash htext, hbad⟩

/-! ## Reading a text -/

theorem unescapeFrom_plain {c : Char} (h : c ≠ '\\') (offset : Nat) (cs : List Char) :
    unescapeFrom offset (c :: cs) = (c :: ·) <$> unescapeFrom (offset + c.utf8Size) cs := by
  rw [unescapeFrom.eq_def]
  simp only [if_pos h]
  cases unescapeFrom (offset + c.utf8Size) cs <;> rfl

theorem bne_brace {digits : List Char} (h : '}' ∉ digits) :
    ∀ d ∈ digits, (d != '}') = true := by
  intro d hd
  rw [bne_iff_ne]
  rintro rfl
  exact h hd

/-- What stands in braces ends at the first closing brace. -/
theorem split_at_brace {digits : List Char} (h : '}' ∉ digits) (rest : List Char) :
    (digits ++ '}' :: rest).takeWhile (· != '}') = digits ∧
      (digits ++ '}' :: rest).dropWhile (· != '}') = '}' :: rest := by
  rw [List.takeWhile_append_of_pos (bne_brace h), List.dropWhile_append_of_pos (bne_brace h)]
  simp

/-- No text begins with two escapes. -/
theorem Escape.eq_of_append {written written' cs cs' : List Char} {c c' : Char}
    (h : Escape written c) (h' : Escape written' c') (heq : written ++ cs = written' ++ cs') :
    written = written' := by
  cases h with
  | letter known _ =>
    cases h' with
    | letter _ _ =>
      simp only [List.cons_append, List.cons.injEq] at heq
      rw [heq.2.1]
    | codePoint _ _ =>
      simp only [List.cons_append, List.cons.injEq] at heq
      exact absurd heq.2.1 known
  | @codePoint digits _ inside _ =>
    cases h' with
    | letter known _ =>
      simp only [List.cons_append, List.cons.injEq] at heq
      exact absurd heq.2.1.symm known
    | @codePoint digits' _ inside' _ =>
      simp only [List.cons_append, List.append_assoc, List.nil_append, List.cons.injEq,
        true_and] at heq
      rw [← (split_at_brace inside cs).1, heq, (split_at_brace inside' cs').1]

theorem byteLength_braces (digits : List Char) :
    byteLength ('\\' :: 'u' :: '{' :: (digits ++ ['}'])) = 4 + byteLength digits := by
  have hbackslash : '\\'.utf8Size = 1 := rfl
  have hletter : 'u'.utf8Size = 1 := rfl
  have hopen : '{'.utf8Size = 1 := rfl
  have hclose : '}'.utf8Size = 1 := rfl
  simp [hbackslash, hletter, hopen, hclose]
  omega

theorem unescapeFrom_braces {digits : List Char} (h : '}' ∉ digits) (offset : Nat)
    (cs : List Char) :
    unescapeFrom offset (('\\' :: 'u' :: '{' :: (digits ++ ['}'])) ++ cs) =
      match codePoint? digits with
      | none => .error ⟨offset, offset + (4 + byteLength digits)⟩
      | some c => (c :: ·) <$> unescapeFrom (offset + (4 + byteLength digits)) cs := by
  obtain ⟨hdigits, hafter⟩ := split_at_brace h cs
  have hsplit : ('\\' :: 'u' :: '{' :: (digits ++ ['}'])) ++ cs =
      '\\' :: 'u' :: '{' :: (digits ++ '}' :: cs) := by simp
  rw [hsplit, unescapeFrom.eq_def]
  simp only [ne_eq, not_true_eq_false, if_false, if_true]
  split
  · next hnone =>
    rw [hafter] at hnone
    cases hnone
  · next hsome =>
    rw [hafter] at hsome
    cases hsome
    rw [hdigits]
    have hstop : offset + 1 + 'u'.utf8Size + 1 + byteLength digits + 1 =
        offset + (4 + byteLength digits) := by
      have hone : 'u'.utf8Size = 1 := rfl
      omega
    rw [hstop]
    cases codePoint? digits with
    | none => rfl
    | some c => cases unescapeFrom (offset + (4 + byteLength digits)) cs <;> rfl

theorem unescapeFrom_escape {written : List Char} {c : Char} (h : Escape written c) (offset : Nat)
    (cs : List Char) : unescapeFrom offset (written ++ cs) =
      (c :: ·) <$> unescapeFrom (offset + byteLength written) cs := by
  cases h with
  | @letter e _ hknown hvalue =>
    have hlength : offset + byteLength ['\\', e] = offset + 1 + e.utf8Size := by
      simp [Nat.add_assoc]
      rfl
    rw [hlength, List.cons_append, List.singleton_append, unescapeFrom.eq_def]
    simp only [ne_eq, not_true_eq_false, if_false, if_neg hknown, hvalue]
    cases unescapeFrom (offset + 1 + e.utf8Size) cs <;> rfl
  | @codePoint digits _ hinside hvalue =>
    have hread := unescapeFrom_braces hinside offset cs
    rw [hvalue] at hread
    rw [byteLength_braces]
    exact hread

/-- Well-formed text is read. -/
theorem unescapeFrom_append {good text : List Char} (h : WellEscaped good text) (offset : Nat)
    (cs : List Char) : unescapeFrom offset (good ++ cs) =
      (text ++ ·) <$> unescapeFrom (offset + byteLength good) cs := by
  induction h generalizing offset with
  | nil =>
    change _ = id <$> _
    rw [id_map]
    rfl
  | @plain c good text hbare _ ih =>
    rw [List.cons_append, unescapeFrom_plain hbare, ih, byteLength_cons, Nat.add_assoc]
    simp
  | @escape written good text c hfirst _ ih =>
    rw [List.append_assoc, unescapeFrom_escape hfirst, ih, byteLength_append, Nat.add_assoc]
    simp

/-- Text that is well formed to its end is read to its end. -/
theorem unescapeFrom_wellEscaped {cs text : List Char} (h : WellEscaped cs text) (offset : Nat) :
    unescapeFrom offset cs = .ok text := by
  have hend (offset : Nat) : unescapeFrom offset [] = .ok [] := by rw [unescapeFrom.eq_def]
  have hread := unescapeFrom_append h offset []
  rw [List.append_nil, hend] at hread
  rw [hread]
  exact congrArg Except.ok (List.append_nil text)

/-- What offends is reported. -/
theorem unescapeFrom_offends {bad rest : List Char} (h : Offends bad rest) (offset : Nat) :
    unescapeFrom offset (bad ++ rest) = .error ⟨offset, offset + byteLength bad⟩ := by
  have hbackslash : '\\'.utf8Size = 1 := rfl
  have hletter : 'u'.utf8Size = 1 := rfl
  have hbrace : '{'.utf8Size = 1 := rfl
  cases h with
  | alone =>
    rw [List.append_nil, unescapeFrom.eq_def]
    simp [hbackslash]
  | unknown hother hnone =>
    rw [List.cons_append, List.singleton_append, unescapeFrom.eq_def]
    simp [hother, hnone, hbackslash, Nat.add_assoc]
  | unopened hbraces =>
    rw [List.cons_append, List.singleton_append, unescapeFrom.eq_def]
    cases rest with
    | nil => simp [hbackslash, hletter]
    | cons brace body =>
      have hother : brace ≠ '{' := by
        rintro rfl
        exact hbraces rfl
      simp [hother, hbackslash, hletter, Nat.add_assoc]
  | @unclosed body hinside =>
    have hopen : body.dropWhile (· != '}') = [] := by
      simpa using @List.dropWhile_append_of_pos _ _ body [] (bne_brace hinside)
    rw [List.append_nil, unescapeFrom.eq_def]
    simp only [ne_eq, not_true_eq_false, if_false, if_true]
    split
    · simp only [byteLength_cons, hbackslash, hletter, hbrace]
      congr 2
      omega
    · next hsome =>
      rw [hopen] at hsome
      cases hsome
  | @noCharacter digits _ hinside hnone =>
    have hread := unescapeFrom_braces hinside offset rest
    rw [hnone] at hread
    rw [byteLength_braces]
    exact hread

/-- Reading ends at the end of the text, or at the first backslash that begins no escape. -/
theorem unescapeFrom_cases (offset : Nat) (cs : List Char) :
    (∃ text, WellEscaped cs text ∧ unescapeFrom offset cs = .ok text) ∨
      ∃ good text bad rest, cs = good ++ (bad ++ rest) ∧ WellEscaped good text ∧
        Offends bad rest ∧ unescapeFrom offset cs =
          .error ⟨offset + byteLength good, offset + byteLength good + byteLength bad⟩ := by
  rcases wellEscaped_or_offends cs with ⟨text, htext⟩ | ⟨good, text, bad, rest, rfl, hgood, hbad⟩
  · exact .inl ⟨text, htext, unescapeFrom_wellEscaped htext offset⟩
  · refine .inr ⟨good, text, bad, rest, rfl, hgood, hbad, ?_⟩
    rw [unescapeFrom_append hgood, unescapeFrom_offends hbad]
    rfl

theorem le_start_of_unescapeFrom {offset : Nat} {cs : List Char} {span : Span}
    (h : unescapeFrom offset cs = .error span) : offset ≤ span.start := by
  rcases unescapeFrom_cases offset cs with ⟨_, _, hread⟩ | ⟨_, _, _, _, _, _, _, hread⟩
  · rw [hread] at h
    cases h
  · rw [hread] at h
    cases h
    exact Nat.le_add_right ..

/-- A text is refused exactly when a backslash after well-formed text begins no escape, and the span
is that of what is reported there. -/
theorem unescape_eq_error_iff {raw : String} {span : Span} :
    unescape raw = .error span ↔ ∃ good text bad rest, raw.toList = good ++ (bad ++ rest) ∧
      WellEscaped good text ∧ Offends bad rest ∧
      span = ⟨byteLength good, byteLength good + byteLength bad⟩ := by
  constructor
  · intro h
    rcases unescapeFrom_cases 0 raw.toList with
      ⟨text, _, hread⟩ | ⟨good, text, bad, rest, hraw, hgood, hbad, hread⟩
    · rw [unescape, hread] at h
      cases h
    · rw [unescape, hread, Nat.zero_add] at h
      exact ⟨good, text, bad, rest, hraw, hgood, hbad, (Except.error.inj h).symm⟩
  · rintro ⟨good, text, bad, rest, hraw, hgood, hbad, rfl⟩
    rw [unescape, hraw, unescapeFrom_append hgood, unescapeFrom_offends hbad, Nat.zero_add]
    rfl

end PegKit.Terminal
