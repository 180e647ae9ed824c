import Mathlib.Data.List.TakeWhile
import PegKit.Text.Position

/-!
# Texts as bytes

The UTF-8 form of a text, and how many characters a sequence of bytes shows when it is read without
refusing anything: a part that is no character counts as one, as far as it goes on like a character
would. Cutting a text inside a character leaves one such part, the last, so the beginning of a text
shows as many characters as begin in it.
-/

namespace PegKit.Text

/-- The UTF-8 form of `cs`. -/
def utf8 (cs : List Char) : List UInt8 := cs.flatMap String.utf8EncodeChar

@[simp]
theorem utf8_nil : utf8 [] = [] := rfl

@[simp]
theorem utf8_cons (c : Char) (cs : List Char) :
    utf8 (c :: cs) = String.utf8EncodeChar c ++ utf8 cs := rfl

@[simp]
theorem length_utf8 (cs : List Char) : (utf8 cs).length = byteLength cs := by
  induction cs with
  | nil => rfl
  | cons c cs ih =>
    rw [utf8_cons, List.length_append, String.length_utf8EncodeChar, ih, byteLength_cons]

namespace Utf8

/-- What follows the first byte of a character of more than one byte. -/
structure Follow where
  /-- The least second byte. -/
  least : Nat
  /-- The greatest second byte. -/
  greatest : Nat
  /-- The number of bytes after the second. -/
  more : Nat

/-- What follows `first`, if it begins a character of more than one byte. Second bytes that would
give a number that takes fewer bytes, a surrogate or a number beyond the last character are left
out. -/
def follow? (first : UInt8) : Option Follow :=
  if first.toNat < 0xC2 then none
  else if first.toNat < 0xE0 then some ⟨0x80, 0xBF, 0⟩
  else if first.toNat = 0xE0 then some ⟨0xA0, 0xBF, 1⟩
  else if first.toNat = 0xED then some ⟨0x80, 0x9F, 1⟩
  else if first.toNat < 0xF0 then some ⟨0x80, 0xBF, 1⟩
  else if first.toNat = 0xF0 then some ⟨0x90, 0xBF, 2⟩
  else if first.toNat < 0xF4 then some ⟨0x80, 0xBF, 2⟩
  else if first.toNat = 0xF4 then some ⟨0x80, 0x8F, 2⟩
  else none

/-- Whether `byte` may stand in third or fourth place. -/
def isContinuation (byte : UInt8) : Bool := 0x80 ≤ byte.toNat && byte.toNat ≤ 0xBF

/-- How many bytes go on with a character that `follow` allows. -/
def Follow.tailLength (follow : Follow) : List UInt8 → Nat
  | [] => 0
  | second :: others =>
    if follow.least ≤ second.toNat ∧ second.toNat ≤ follow.greatest then
      ((others.take follow.more).takeWhile isContinuation).length + 1
    else 0

/-- How many bytes of `rest` go on with the character that `first` begins. -/
def tailLength (first : UInt8) (rest : List UInt8) : Nat :=
  (follow? first).elim 0 (·.tailLength rest)

/-- How many characters `bytes` show when each part that is no character is read as one. -/
def lossyLength : List UInt8 → Nat
  | [] => 0
  | first :: rest => 1 + lossyLength (rest.drop (tailLength first rest))
termination_by bytes => bytes.length
decreasing_by
  rw [List.length_drop, List.length_cons]
  omega

@[simp]
theorem lossyLength_nil : lossyLength [] = 0 := by rw [lossyLength]

theorem lossyLength_cons (first : UInt8) (rest : List UInt8) :
    lossyLength (first :: rest) = 1 + lossyLength (rest.drop (tailLength first rest)) := by
  rw [lossyLength]

/-! ## The bytes of one character -/

/-- The bytes `first`, `second` and `others` are a character of more than one byte. -/
structure LongForm (first second : UInt8) (others : List UInt8) (follow : Follow) : Prop where
  begins : follow? first = some follow
  allowed : follow.least ≤ second.toNat ∧ second.toNat ≤ follow.greatest
  continues : ∀ byte ∈ others, isContinuation byte = true
  complete : others.length = follow.more

theorem toNat_ofNat {n : Nat} (h : n < 256) : (UInt8.ofNat n).toNat = n := by
  rw [UInt8.toNat_ofNat']
  exact Nat.mod_eq_of_lt h

theorem isContinuation_six (n : Nat) : isContinuation (UInt8.ofNat (n % 64 + 128)) = true := by
  have hvalue := toNat_ofNat (n := n % 64 + 128) (by omega)
  rw [isContinuation, hvalue, Bool.and_eq_true, decide_eq_true_eq, decide_eq_true_eq]
  omega

theorem longForm_two {v : Nat} (hleast : 127 < v) (hgreatest : v ≤ 2047) :
    ∃ follow, LongForm (.ofNat (v / 64 % 32 + 192)) (.ofNat (v % 64 + 128)) [] follow := by
  have hfirst := toNat_ofNat (n := v / 64 % 32 + 192) (by omega)
  have hsecond := toNat_ofNat (n := v % 64 + 128) (by omega)
  refine ⟨⟨0x80, 0xBF, 0⟩, ?_, ?_, by simp, rfl⟩
  · rw [follow?, hfirst, if_neg (by omega), if_pos (by omega)]
  · rw [hsecond]
    dsimp only
    omega

/-- Three bytes: the first of the first bytes leaves out what two bytes spell, and one leaves out
the surrogates. -/
theorem longForm_three {v : Nat} (hleast : 2047 < v) (hgreatest : v ≤ 65535)
    (hvalid : v < 0xD800 ∨ 0xDFFF < v) :
    ∃ follow, LongForm (.ofNat (v / 4096 % 16 + 224)) (.ofNat (v / 64 % 64 + 128))
      [.ofNat (v % 64 + 128)] follow := by
  have hfirst := toNat_ofNat (n := v / 4096 % 16 + 224) (by omega)
  have hsecond := toNat_ofNat (n := v / 64 % 64 + 128) (by omega)
  have hthird : ∀ byte ∈ [UInt8.ofNat (v % 64 + 128)], isContinuation byte = true := by
    exact List.forall_mem_singleton.mpr (isContinuation_six v)
  rcases Nat.eq_or_lt_of_le (Nat.zero_le (v / 4096)) with hzero | hpos
  · refine ⟨⟨0xA0, 0xBF, 1⟩, ?_, ?_, hthird, rfl⟩
    · rw [follow?, hfirst, if_neg (by omega), if_neg (by omega), if_pos (by omega)]
    · rw [hsecond]
      dsimp only
      omega
  · by_cases hsurrogate : v / 4096 = 13
    · refine ⟨⟨0x80, 0x9F, 1⟩, ?_, ?_, hthird, rfl⟩
      · rw [follow?, hfirst, if_neg (by omega), if_neg (by omega), if_neg (by omega),
          if_pos (by omega)]
      · rw [hsecond]
        dsimp only
        omega
    · refine ⟨⟨0x80, 0xBF, 1⟩, ?_, ?_, hthird, rfl⟩
      · rw [follow?, hfirst, if_neg (by omega), if_neg (by omega), if_neg (by omega),
          if_neg (by omega), if_pos (by omega)]
      · rw [hsecond]
        dsimp only
        omega

/-- Four bytes: the first of the first bytes leaves out what three bytes spell, and the last what
lies beyond the last character. -/
theorem longForm_four {v : Nat} (hleast : 65535 < v) (hgreatest : v < 0x110000) :
    ∃ follow, LongForm (.ofNat (v / 262144 % 8 + 240)) (.ofNat (v / 4096 % 64 + 128))
      [.ofNat (v / 64 % 64 + 128), .ofNat (v % 64 + 128)] follow := by
  have hfirst := toNat_ofNat (n := v / 262144 % 8 + 240) (by omega)
  have hsecond := toNat_ofNat (n := v / 4096 % 64 + 128) (by omega)
  have hothers : ∀ byte ∈ [UInt8.ofNat (v / 64 % 64 + 128), UInt8.ofNat (v % 64 + 128)],
      isContinuation byte = true :=
    List.forall_mem_cons.mpr
      ⟨isContinuation_six _, List.forall_mem_singleton.mpr (isContinuation_six v)⟩
  have hlong : ¬v / 262144 % 8 + 240 < 0xF0 := by omega
  rcases Nat.eq_or_lt_of_le (Nat.zero_le (v / 262144)) with hzero | hpos
  · refine ⟨⟨0x90, 0xBF, 2⟩, ?_, ?_, hothers, rfl⟩
    · rw [follow?, hfirst, if_neg (by omega), if_neg (by omega), if_neg (by omega),
        if_neg (by omega), if_neg hlong, if_pos (by omega)]
    · rw [hsecond]
      dsimp only
      omega
  · by_cases hlast : v / 262144 = 4
    · refine ⟨⟨0x80, 0x8F, 2⟩, ?_, ?_, hothers, rfl⟩
      · rw [follow?, hfirst, if_neg (by omega), if_neg (by omega), if_neg (by omega),
          if_neg (by omega), if_neg hlong, if_neg (by omega), if_neg (by omega), if_pos (by omega)]
      · rw [hsecond]
        dsimp only
        omega
    · refine ⟨⟨0x80, 0xBF, 2⟩, ?_, ?_, hothers, rfl⟩
      · rw [follow?, hfirst, if_neg (by omega), if_neg (by omega), if_neg (by omega),
          if_neg (by omega), if_neg hlong, if_neg (by omega), if_pos (by omega)]
      · rw [hsecond]
        dsimp only
        omega

/-- A character is one byte below 128, or has the form of a longer character. -/
theorem encode_cases (c : Char) :
    (c.val.toNat ≤ 127 ∧ String.utf8EncodeChar c = [UInt8.ofNat c.val.toNat]) ∨
      (127 < c.val.toNat ∧ ∃ first second others follow,
        String.utf8EncodeChar c = first :: second :: others ∧
          LongForm first second others follow) := by
  have hvalid : c.val.toNat < 0xD800 ∨ (0xDFFF < c.val.toNat ∧ c.val.toNat < 0x110000) := c.valid
  rw [String.utf8EncodeChar]
  generalize c.val.toNat = v at hvalid ⊢
  by_cases hone : v ≤ 127
  · exact .inl ⟨hone, if_pos hone⟩
  · refine .inr ⟨by omega, ?_⟩
    rw [if_neg hone]
    by_cases htwo : v ≤ 2047
    · have hform := longForm_two (Nat.not_le.mp hone) htwo
      rw [if_pos htwo]
      exact ⟨_, _, _, hform.choose, rfl, hform.choose_spec⟩
    · rw [if_neg htwo]
      by_cases hthree : v ≤ 65535
      · have hform := longForm_three (Nat.not_le.mp htwo) hthree (hvalid.imp_right And.left)
        rw [if_pos hthree]
        exact ⟨_, _, _, hform.choose, rfl, hform.choose_spec⟩
      · have hform := longForm_four (Nat.not_le.mp hthree) (by omega)
        rw [if_neg hthree]
        exact ⟨_, _, _, hform.choose, rfl, hform.choose_spec⟩

/-! ## Reading without refusing -/

/-- What goes on with a longer character, be it all of it or what a cut has left. -/
theorem LongForm.tailLength {first second : UInt8} {others part rest : List UInt8} {follow : Follow}
    (h : LongForm first second others follow) (hpart : part <+: others)
    (hrest : part = others ∨ rest = []) :
    tailLength first (second :: (part ++ rest)) = part.length + 1 := by
  have htake : (part ++ rest).take follow.more = part := by
    rcases hrest with hwhole | hcut
    · rw [hwhole, ← h.complete]
      exact List.take_left
    · rw [hcut, List.append_nil, ← h.complete]
      exact List.take_of_length_le hpart.length_le
  have hwhile : part.takeWhile isContinuation = part :=
    List.takeWhile_eq_self_iff.mpr fun byte hbyte ↦ h.continues byte (hpart.subset hbyte)
  rw [Utf8.tailLength, h.begins, Option.elim_some, Follow.tailLength, if_pos h.allowed, htake,
    hwhile]

theorem lossyLength_encode_append (c : Char) (rest : List UInt8) :
    lossyLength (String.utf8EncodeChar c ++ rest) = 1 + lossyLength rest := by
  rcases encode_cases c with ⟨hascii, hencode⟩ | ⟨-, first, second, others, follow, hencode, hform⟩
  · have hfollow : follow? (UInt8.ofNat c.val.toNat) = none := by
      rw [follow?, toNat_ofNat (by omega), if_pos (by omega)]
    rw [hencode, List.singleton_append, lossyLength_cons, tailLength, hfollow,
      Option.elim_none, List.drop_zero]
  · have htail : Utf8.tailLength first (second :: (others ++ rest)) = others.length + 1 :=
      hform.tailLength List.prefix_rfl (.inl rfl)
    rw [hencode, List.cons_append, List.cons_append, lossyLength_cons, htail,
      List.drop_succ_cons, List.drop_left]

/-- What a cut leaves of a character shows as one. -/
theorem lossyLength_take_encode (c : Char) {n : Nat} (h : 0 < n) :
    lossyLength ((String.utf8EncodeChar c).take n) = 1 := by
  by_cases hwhole : c.utf8Size ≤ n
  · have hencode := lossyLength_encode_append c []
    rw [List.append_nil, lossyLength_nil] at hencode
    rw [List.take_of_length_le (by rwa [String.length_utf8EncodeChar])]
    exact hencode
  · rcases encode_cases c with ⟨-, hencode⟩ | ⟨-, first, second, others, follow, hencode, hform⟩
    · have hsize := String.length_utf8EncodeChar c
      rw [hencode, List.length_singleton] at hsize
      omega
    · match n, h with
      | 1, _ =>
        rw [hencode, List.take_succ_cons, List.take_zero, lossyLength_cons, List.drop_nil,
          lossyLength_nil]
      | n + 2, _ =>
        have htail : Utf8.tailLength first (second :: (others.take n ++ [])) =
            (others.take n).length + 1 := hform.tailLength (List.take_prefix n others) (.inr rfl)
        rw [List.append_nil] at htail
        rw [hencode, List.take_succ_cons, List.take_succ_cons, lossyLength_cons, htail,
          List.drop_succ_cons, List.drop_length, lossyLength_nil]

end Utf8

/-! ## The beginning of a text -/

open Utf8

theorem beginningBefore_cons {n : Nat} (c : Char) (cs : List Char) (h : 0 < n) :
    beginningBefore (c :: cs) n = c :: beginningBefore cs (n - c.utf8Size) := by
  rw [beginningBefore, if_neg (Nat.pos_iff_ne_zero.mp h)]

theorem take_utf8_cons (c : Char) (cs : List Char) (n : Nat) :
    (utf8 (c :: cs)).take n =
      (String.utf8EncodeChar c).take n ++ (utf8 cs).take (n - c.utf8Size) := by
  rw [utf8_cons, List.take_append, String.length_utf8EncodeChar]

/-- The first bytes of a text show as many characters as begin in them. -/
theorem lossyLength_take_utf8 (cs : List Char) (n : Nat) :
    lossyLength ((utf8 cs).take n) = (beginningBefore cs n).length := by
  induction cs generalizing n with
  | nil => rw [utf8_nil, List.take_nil, lossyLength_nil, beginningBefore, List.length_nil]
  | cons c cs ih =>
    rcases Nat.eq_zero_or_pos n with hzero | hpos
    · rw [hzero, List.take_zero, lossyLength_nil, beginningBefore_zero, List.length_nil]
    · rw [take_utf8_cons, beginningBefore_cons c cs hpos, List.length_cons]
      by_cases hcut : n ≤ c.utf8Size
      · rw [Nat.sub_eq_zero_of_le hcut, List.take_zero, List.append_nil, beginningBefore_zero,
          lossyLength_take_encode c hpos, List.length_nil]
      · have hwhole : (String.utf8EncodeChar c).take n = String.utf8EncodeChar c := by
          apply List.take_of_length_le
          rw [String.length_utf8EncodeChar]
          omega
        rw [hwhole, lossyLength_encode_append, ih, Nat.add_comm]

/-! ## Newlines -/

/-- The byte of a newline. -/
def newline : UInt8 := 0x0A

theorem least_of_follow? {first : UInt8} {follow : Follow} (h : follow? first = some follow) :
    0x80 ≤ follow.least := by
  unfold follow? at h
  split_ifs at h <;> cases h <;> decide

theorem newline_notMem_longForm {first second : UInt8} {others : List UInt8} {follow : Follow}
    (h : LongForm first second others follow) : newline ∉ first :: second :: others := by
  have hnone : follow? newline = none := by decide
  have hfirst : newline ≠ first := by
    intro heq
    have hbegins := h.begins
    rw [← heq, hnone] at hbegins
    cases hbegins
  have hsecond : newline ≠ second := by
    intro heq
    have hallowed := h.allowed.left
    have hleast := least_of_follow? h.begins
    rw [← heq, show newline.toNat = 10 from rfl] at hallowed
    omega
  have hothers : newline ∉ others := by
    intro hmem
    exact absurd (h.continues newline hmem) (by decide)
  rw [List.mem_cons, List.mem_cons, not_or, not_or]
  exact ⟨hfirst, hsecond, hothers⟩

/-- A newline is one byte, and no part of another character. -/
theorem count_newline_take_encode (c : Char) {n : Nat} (h : 0 < n) :
    ((String.utf8EncodeChar c).take n).count newline = [c].count '\n' := by
  rcases encode_cases c with
    ⟨hascii, hencode⟩ | ⟨hlong, first, second, others, follow, hencode, hform⟩
  · have htake : (String.utf8EncodeChar c).take n = String.utf8EncodeChar c := by
      apply List.take_of_length_le
      rw [hencode]
      exact h
    have hnewline : UInt8.ofNat c.val.toNat = newline ↔ c = '\n' := by
      rw [← UInt8.toNat_inj, toNat_ofNat (by omega), ← Char.val_inj, ← UInt32.toNat_inj]
      rfl
    rw [htake, hencode, List.count_singleton, List.count_singleton]
    simp only [beq_iff_eq, hnewline]
  · have hother : c ≠ '\n' := by
      intro heq
      rw [heq] at hlong
      exact absurd hlong (by decide)
    have hbytes : newline ∉ (String.utf8EncodeChar c).take n := by
      intro hmem
      rw [hencode] at hmem
      exact newline_notMem_longForm hform (List.mem_of_mem_take hmem)
    rw [List.count_eq_zero_of_not_mem hbytes, List.count_singleton]
    exact (if_neg (by simpa using hother)).symm

theorem count_newline_take_utf8 (cs : List Char) (n : Nat) :
    ((utf8 cs).take n).count newline = (beginningBefore cs n).count '\n' := by
  induction cs generalizing n with
  | nil => rw [utf8_nil, List.take_nil, beginningBefore, List.count_nil, List.count_nil]
  | cons c cs ih =>
    rcases Nat.eq_zero_or_pos n with hzero | hpos
    · rw [hzero, List.take_zero, beginningBefore_zero, List.count_nil, List.count_nil]
    · rw [take_utf8_cons, beginningBefore_cons c cs hpos, List.count_append,
        count_newline_take_encode c hpos, ih, ← List.count_append, List.singleton_append]

theorem newline_mem_take_encode (c : Char) {n : Nat} (h : 0 < n) :
    newline ∈ (String.utf8EncodeChar c).take n ↔ '\n' = c := by
  rw [← List.count_pos_iff, count_newline_take_encode c h, List.count_pos_iff, List.mem_singleton]

theorem newline_mem_take_utf8 (cs : List Char) (n : Nat) :
    newline ∈ (utf8 cs).take n ↔ '\n' ∈ beginningBefore cs n := by
  rw [← List.count_pos_iff, count_newline_take_utf8, List.count_pos_iff]

end PegKit.Text
