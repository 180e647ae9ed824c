import Mathlib.Data.List.Induction
import PegKit.Terminal

/-!
# Numbers of code points

The number of a code point is one or more hexadecimal digits of either case. Reading such digits
gives the number that they write, and reading what stands between the braces of an escape gives the
character with that number. A plus sign before the digits is read over.
-/

namespace PegKit.Terminal

/-- The hexadecimal digit `d`, in either case, has the value `n`. -/
def IsDigit (d : Char) (n : Nat) : Prop :=
  "0123456789abcdef".toList[n]? = some d ∨ "0123456789ABCDEF".toList[n]? = some d

instance (d : Char) (n : Nat) : Decidable (IsDigit d n) :=
  inferInstanceAs (Decidable (_ ∨ _))

/-- The digits, one or more, write the number `n`. -/
inductive Hexadecimal : List Char → Nat → Prop
  | one {d : Char} {n : Nat} (digit : IsDigit d n) : Hexadecimal [d] n
  | more {digits : List Char} {d : Char} {n k : Nat} (before : Hexadecimal digits n)
      (digit : IsDigit d k) : Hexadecimal (digits ++ [d]) (16 * n + k)

/-- The code point of `c` in hexadecimal. -/
def IsCodePoint (body : List Char) (c : Char) : Prop :=
  Hexadecimal body c.toNat

/-- The code point of `c` in hexadecimal, perhaps after a plus sign. -/
def IsSigned (body : List Char) (c : Char) : Prop :=
  ∃ digits, (body = digits ∨ body = '+' :: digits) ∧ IsCodePoint digits c

theorem isDigit_of_toNat {low high base : Nat}
    (hdigits : ∀ m < high + 1, low ≤ m → IsDigit (Char.ofNat m) (m - low + base)) {d : Char}
    (hlow : low ≤ d.toNat) (hhigh : d.toNat ≤ high) : IsDigit d (d.toNat - low + base) := by
  have hdigit := hdigits d.toNat (Nat.lt_succ_of_le hhigh) hlow
  rwa [Char.ofNat_toNat] at hdigit

theorem hexDigit?_of_getElem? {digits : List Char}
    (hread : ∀ digit ∈ digits.zipIdx, hexDigit? digit.1 = some digit.2) {d : Char} {n : Nat}
    (h : digits[n]? = some d) : hexDigit? d = some n :=
  hread (d, n) (List.mem_zipIdx_iff_getElem?.mpr h)

theorem hexDigit?_eq_some_iff {d : Char} {n : Nat} : hexDigit? d = some n ↔ IsDigit d n := by
  constructor
  · intro h
    unfold hexDigit? at h
    split at h
    · next hdigit =>
      obtain ⟨hlow, hhigh⟩ := Char.isDigit_iff_toNat.mp hdigit
      cases h
      exact @isDigit_of_toNat 48 57 0 (by decide) d hlow hhigh
    · split at h
      · next hlower =>
        simp only [Bool.and_eq_true, decide_eq_true_eq] at hlower
        cases h
        exact isDigit_of_toNat (by decide) hlower.1 hlower.2
      · split at h
        · next hupper =>
          simp only [Bool.and_eq_true, decide_eq_true_eq] at hupper
          cases h
          exact isDigit_of_toNat (by decide) hupper.1 hupper.2
        · cases h
  · rintro (hlower | hupper)
    · exact hexDigit?_of_getElem? (by decide) hlower
    · exact hexDigit?_of_getElem? (by decide) hupper

theorem hexNumber?_append (ds es : List Char) (n : Nat) :
    hexNumber? n (ds ++ es) = (hexNumber? n ds).bind (hexNumber? · es) := by
  induction ds generalizing n with
  | nil => rfl
  | cons d ds ih => simp [hexNumber?, ih, Option.bind_assoc]

theorem hexNumber?_concat (ds : List Char) (d : Char) :
    hexNumber? 0 (ds ++ [d]) =
      (hexNumber? 0 ds).bind fun n ↦ (hexDigit? d).map (16 * n + ·) := by
  rw [hexNumber?_append]
  congr 1
  funext n
  cases hdigit : hexDigit? d <;> simp [hexNumber?, hdigit]

theorem Hexadecimal.ne_nil {ds : List Char} {n : Nat} (h : Hexadecimal ds n) : ds ≠ [] := by
  cases h <;> simp

/-- The digits of a number are read to their value. -/
theorem hexNumber?_eq_some_iff {ds : List Char} {n : Nat} :
    ds ≠ [] ∧ hexNumber? 0 ds = some n ↔ Hexadecimal ds n := by
  constructor
  · rintro ⟨hne, hread⟩
    induction ds using List.reverseRecOn generalizing n with
    | nil => exact absurd rfl hne
    | append_singleton ds d ih =>
      rw [hexNumber?_concat, Option.bind_eq_some_iff] at hread
      obtain ⟨k, hbefore, hlast⟩ := hread
      obtain ⟨digit, hdigit, rfl⟩ := Option.map_eq_some_iff.mp hlast
      rw [hexDigit?_eq_some_iff] at hdigit
      by_cases hnil : ds = []
      · subst hnil
        cases hbefore
        rw [Nat.mul_zero, Nat.zero_add]
        exact .one hdigit
      · exact .more (ih hnil hbefore) hdigit
  · intro h
    refine ⟨h.ne_nil, ?_⟩
    induction h with
    | one digit =>
      rw [← List.nil_append [_], hexNumber?_concat, hexDigit?_eq_some_iff.mpr digit]
      simp [hexNumber?]
    | more _ digit ih =>
      rw [hexNumber?_concat, ih, hexDigit?_eq_some_iff.mpr digit]
      rfl

theorem Hexadecimal.isDigit_of_mem {ds : List Char} {n : Nat} (h : Hexadecimal ds n) :
    ∀ d ∈ ds, ∃ k, IsDigit d k := by
  induction h with
  | one digit => simpa using ⟨_, digit⟩
  | more _ digit ih =>
    intro d hd
    rcases List.mem_append.mp hd with hbefore | hlast
    · exact ih d hbefore
    · exact ⟨_, List.mem_singleton.mp hlast ▸ digit⟩

theorem Hexadecimal.not_mem {ds : List Char} {n : Nat} (h : Hexadecimal ds n) {d : Char}
    (hd : hexDigit? d = none) : d ∉ ds := by
  intro hmem
  obtain ⟨k, hdigit⟩ := h.isDigit_of_mem d hmem
  rw [hexDigit?_eq_some_iff.mpr hdigit] at hd
  cases hd

theorem charOfNat_eq_iff {n : Nat} {c : Char} :
    n.isValidChar ∧ Char.ofNat n = c ↔ n = c.toNat := by
  constructor
  · rintro ⟨hvalid, rfl⟩
    rw [Char.ofNat, dif_pos hvalid]
    rfl
  · rintro rfl
    exact ⟨c.valid, Char.ofNat_toNat c⟩

theorem isSigned_iff {body : List Char} {c : Char} :
    IsSigned body c ↔ IsCodePoint (if body.head? = some '+' then body.tail else body) c := by
  constructor
  · rintro ⟨digits, rfl | rfl, hdigits⟩
    · have hplus : body.head? ≠ some '+' := by
        intro hhead
        exact hdigits.not_mem (by decide) (List.mem_of_mem_head? hhead)
      rwa [if_neg hplus]
    · simpa using hdigits
  · intro h
    split at h
    · next hhead =>
      obtain ⟨digits, rfl⟩ := List.head?_eq_some_iff.mp hhead
      exact ⟨digits, .inr rfl, h⟩
    · exact ⟨body, .inl rfl, h⟩

theorem IsSigned.brace_not_mem {body : List Char} {c : Char} (h : IsSigned body c) :
    '}' ∉ body := by
  obtain ⟨digits, rfl | rfl, hdigits⟩ := h
  · exact hdigits.not_mem (by decide)
  · exact List.not_mem_cons_of_ne_of_not_mem (by decide) (hdigits.not_mem (by decide))

theorem codePoint?_eq_some_iff {body : List Char} {c : Char} :
    codePoint? body = some c ↔ IsSigned body c := by
  rw [isSigned_iff, IsCodePoint, ← hexNumber?_eq_some_iff, codePoint?]
  simp only [List.isEmpty_iff]
  generalize (if body.head? = some '+' then body.tail else body) = digits
  by_cases hnil : digits = []
  · simp [hnil]
  · simp [hnil, Option.bind_eq_some_iff, charOfNat_eq_iff]

end PegKit.Terminal
