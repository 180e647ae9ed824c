import PegKit.Emission.Statement
import PegKit.Proofs.Emission.Reading

/-!
# Printed tokens are read back

Quoting and reading are inverse: a text or a character between quotes is read as itself, whatever is
in it, and a name is read as one word that lasts until something else follows.
-/

namespace PegKit.Emission.Reading

open Text.Quoted (encode escape hexDigits)

/-- From `mode`, the text `s` is read as `tokens` with `mode'` left in progress. -/
def Scans (mode : Mode) (s : String) (tokens : List Token) (mode' : Mode) : Prop :=
  scan mode s.toList = some (tokens, mode')

theorem scan_append (mode : Mode) (cs ds : List Char) :
    scan mode (cs ++ ds) =
      (scan mode cs).bind fun first ↦
        (scan first.2 ds).map fun rest ↦ (first.1 ++ rest.1, rest.2) := by
  induction cs generalizing mode with
  | nil => simp [scan]
  | cons c cs ih =>
    rw [List.cons_append, scan, scan]
    cases step mode c with
    | none => rfl
    | some first =>
      simp only [Option.bind_some, ih]
      cases scan first.2 cs with
      | none => rfl
      | some rest => simp [Function.comp_def]

theorem Scans.append {mode mode' mode'' : Mode} {s s' : String} {tokens tokens' : List Token}
    (h : Scans mode s tokens mode') (h' : Scans mode' s' tokens' mode'') :
    Scans mode (s ++ s') (tokens ++ tokens') mode'' := by
  rw [Scans] at h h' ⊢
  rw [String.toList_append, scan_append, h, Option.bind_some, h', Option.map_some]

/-! ## Numbers in hexadecimal -/

theorem hexDigit?_digitChar {k : Nat} (h : k < 16) :
    Terminal.hexDigit? (Nat.digitChar k) = some k := by
  have hall : ∀ k < 16, Terminal.hexDigit? (Nat.digitChar k) = some k := by decide
  exact hall k h

theorem digitChar_ne_brace (k : Nat) (h : k < 16) : Nat.digitChar k ≠ '}' := by
  have hall : ∀ k < 16, Nat.digitChar k ≠ '}' := by decide
  exact hall k h

theorem hexNumber?_append (value : Nat) (digits more : List Char) :
    Terminal.hexNumber? value (digits ++ more) =
      (Terminal.hexNumber? value digits).bind fun n ↦ Terminal.hexNumber? n more := by
  induction digits generalizing value with
  | nil => rfl
  | cons d ds ih =>
    rw [List.cons_append, Terminal.hexNumber?, Terminal.hexNumber?]
    cases Terminal.hexDigit? d with
    | none => rfl
    | some digit => exact ih _

theorem hexNumber?_hexDigits (n : Nat) : Terminal.hexNumber? 0 (hexDigits n) = some n := by
  unfold hexDigits
  induction n using Nat.base_induction 16 (by decide) with
  | single m hm =>
    rw [Nat.toDigits_of_lt_base hm]
    simp [Terminal.hexNumber?, hexDigit?_digitChar hm]
  | digit m k hk hm ih =>
    rw [← Nat.toDigits_append_toDigits (by decide) hm hk, Nat.toDigits_of_lt_base hk,
      hexNumber?_append, ih]
    simp [Terminal.hexNumber?, hexDigit?_digitChar hk]

theorem ne_brace_of_mem_hexDigits {n : Nat} {d : Char} (h : d ∈ hexDigits n) : d ≠ '}' := by
  unfold hexDigits at h
  induction n using Nat.base_induction 16 (by decide) with
  | single m hm =>
    rw [Nat.toDigits_of_lt_base hm, List.mem_singleton] at h
    exact h ▸ digitChar_ne_brace m hm
  | digit m k hk hm ih =>
    rw [← Nat.toDigits_append_toDigits (by decide) hm hk, Nat.toDigits_of_lt_base hk,
      List.mem_append, List.mem_singleton] at h
    rcases h with h | h
    · exact ih h
    · exact h ▸ digitChar_ne_brace k hk

/-- The code of a character is read back as the character. -/
theorem scalar?_hexDigits (c : Char) : scalar? 6 (hexDigits c.toNat) = some c := by
  have hvalid : c.toNat.isValidChar := c.valid
  have hlength : (hexDigits c.toNat).length ≤ 6 := by
    refine (Nat.length_toDigits_le_iff (by decide) (by decide)).mpr ?_
    have hbound : c.toNat < 1114112 := by
      rcases hvalid with h | h <;> omega
    omega
  have hsome : (hexDigits c.toNat).isEmpty = false := by
    simp [hexDigits, List.isEmpty_eq_false_iff]
  rw [scalar?, hexNumber?_hexDigits, hsome]
  simp [hvalid, Nat.not_lt.mpr hlength]

/-! ## Literals -/

/-- What quotes a literal. -/
def IsQuote (quote : Char) : Prop := quote = '"' ∨ quote = '\''

theorem scan_digits {quote : Char} {read before digits : List Char}
    (h : ∀ d ∈ digits, d ≠ '}') :
    scan (.code quote read before) digits = some ([], .code quote read (before ++ digits)) := by
  induction digits generalizing before with
  | nil => simp [scan]
  | cons d ds ih =>
    rw [scan, step, if_neg (h d List.mem_cons_self), Option.bind_some,
      ih fun d hd ↦ h d (List.mem_cons_of_mem _ hd)]
    simp

/-- A backslash and a character that stands for another one. -/
theorem scan_backslash {quote : Char} (hquote : IsQuote quote) (read : List Char) {e value : Char}
    (hvalue : Terminal.escapedChar? e = some value) (hx : e ≠ 'x') (hu : e ≠ 'u') :
    scan (.literal quote read) ['\\', e] = some ([], .literal quote (read ++ [value])) := by
  have hback : quote ≠ '\\' := by
    rcases hquote with rfl | rfl <;> decide
  simp [scan, step, hback.symm, hx, hu, hvalue]

/-- An escaped character is read as the character. -/
theorem scan_escape {quote : Char} (hquote : IsQuote quote) (read : List Char) (c : Char) :
    scan (.literal quote read) (escape quote c) = some ([], .literal quote (read ++ [c])) := by
  have hback : quote ≠ '\\' := by
    rcases hquote with rfl | rfl <;> decide
  unfold escape
  split
  · subst c
    exact scan_backslash hquote read rfl (by decide) (by decide)
  split
  · subst c
    exact scan_backslash hquote read rfl (by decide) (by decide)
  split
  · subst c
    exact scan_backslash hquote read rfl (by decide) (by decide)
  split
  · subst c
    exact scan_backslash hquote read rfl (by decide) (by decide)
  split
  · subst c
    exact scan_backslash hquote read rfl (by decide) (by decide)
  split
  · subst c
    rcases hquote with rfl | rfl
    · exact scan_backslash (.inl rfl) read rfl (by decide) (by decide)
    · exact scan_backslash (.inr rfl) read rfl (by decide) (by decide)
  split
  · rename_i hslash hmark _
    simp [scan, step, hmark, hslash]
  · have hopened : scan (.literal quote read) ['\\', 'u', '{'] =
        some ([], .code quote read []) := by
      simp [scan, step, hback.symm]
    rw [scan_append, scan_append, hopened]
    simp only [Option.bind_some, scan_digits fun d hd ↦ ne_brace_of_mem_hexDigits hd,
      Option.map_some, List.nil_append]
    simp [scan, step, scalar?_hexDigits]

theorem scan_escapes {quote : Char} (hquote : IsQuote quote) (read cs : List Char) :
    scan (.literal quote read) (cs.flatMap (escape quote)) =
      some ([], .literal quote (read ++ cs)) := by
  induction cs generalizing read with
  | nil => simp [scan]
  | cons c cs ih =>
    rw [List.flatMap_cons, scan_append, scan_escape hquote, Option.bind_some, ih]
    simp

/-- A literal is read as the characters between its quotes. -/
theorem scan_encode {quote : Char} (hquote : IsQuote quote) (cs : List Char) :
    scan .between (encode quote cs) =
      (literal? quote cs).map fun token ↦ ([token], .between) := by
  have hbegin : begin quote = ([], .literal quote []) := by
    rcases hquote with rfl | rfl <;> rfl
  unfold encode
  rw [List.cons_append, scan, step, hbegin, Option.bind_some, scan_append, scan_escapes hquote]
  simp only [Option.bind_some, List.nil_append, scan, step, if_true]
  cases literal? quote cs <;> rfl

theorem scans_quote (s : String) : Scans .between (Text.Quoted.quote s) [.text s] .between := by
  rw [Scans, Text.Quoted.quote, String.toList_ofList, scan_encode (.inl rfl)]
  simp [literal?]

theorem scans_quoteChar (c : Char) :
    Scans .between (Text.Quoted.quoteChar c) [.character c] .between := by
  rw [Scans, Text.Quoted.quoteChar, String.toList_ofList, scan_encode (.inr rfl)]
  rfl

/-! ## Words -/

/-- Whether a text is read as one word. -/
def IsWord (s : String) : Prop := s ≠ "" ∧ ∀ c ∈ s.toList, isPathChar c = true

-- By the characters of the text, and not by all characters there are.
instance (s : String) : Decidable (IsWord s) :=
  decidable_of_iff (s ≠ "" ∧ s.toList.all isPathChar = true) (by rw [IsWord, List.all_eq_true])

theorem IsWord.append {s s' : String} (h : IsWord s) (h' : s'.toList.all isPathChar = true) :
    IsWord (s ++ s') := by
  refine ⟨by simp [h.1], fun c hc ↦ ?_⟩
  rw [String.toList_append, List.mem_append] at hc
  exact hc.elim (h.2 c) (List.all_eq_true.mp h' c)

theorem begin_pathChar {c : Char} (h : isPathChar c = true) : begin c = ([], .word [c]) := by
  have hother (d : Char) (hd : isPathChar d = false) : c ≠ d := by
    rintro rfl
    rw [h] at hd
    cases hd
  simp [begin, h, hother ' ' rfl, hother '\n' rfl, hother '"' rfl, hother '\'' rfl]

theorem scan_pathChars {read cs : List Char} (h : ∀ c ∈ cs, isPathChar c = true) :
    scan (.word read) cs = some ([], .word (read ++ cs)) := by
  induction cs generalizing read with
  | nil => simp [scan]
  | cons c cs ih =>
    rw [scan, step, if_pos (h c List.mem_cons_self), Option.bind_some,
      ih fun d hd ↦ h d (List.mem_cons_of_mem _ hd)]
    simp

theorem scans_word {s : String} (h : IsWord s) : Scans .between s [] (.word s.toList) := by
  unfold Scans
  cases hs : s.toList with
  | nil => exact absurd (String.toList_eq_nil_iff.mp hs) h.1
  | cons c cs =>
    have hall := h.2
    rw [hs] at hall
    rw [scan, step, begin_pathChar (hall c List.mem_cons_self), Option.bind_some,
      scan_pathChars fun d hd ↦ hall d (List.mem_cons_of_mem _ hd)]
    rfl

/-- A word ends where something else begins. -/
theorem Scans.end_word {s : String} {c : Char} {cs : List Char} {tokens : List Token}
    {mode' : Mode} (hc : isPathChar c = false) (read : List Char) (hs : s.toList = c :: cs)
    (h : Scans .between s tokens mode') :
    Scans (.word read) s (.word (String.ofList read) :: tokens) mode' := by
  rw [Scans, hs, scan] at h ⊢
  rw [step, Option.bind_some, Option.map_eq_some_iff] at h
  obtain ⟨rest, hrest, hsame⟩ := h
  rw [step, hc, if_neg (by decide), Option.bind_some, hrest]
  cases hsame
  rfl

end PegKit.Emission.Reading
