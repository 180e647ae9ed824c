/-!
# Byte offsets

Texts are sequences of characters, while every offset that leaves the program counts bytes of their
UTF-8 form. The functions here relate the two: the length of a text in bytes, the part from a byte
offset on, and the part between two offsets. An offset that would split a character is no boundary
and has no part.
-/

namespace PegKit.Text

/-- The bytes that `cs` takes in UTF-8. -/
def byteLength : List Char → Nat
  | [] => 0
  | c :: cs => c.utf8Size + byteLength cs

@[simp]
theorem byteLength_nil : byteLength [] = 0 := rfl

@[simp]
theorem byteLength_cons (c : Char) (cs : List Char) :
    byteLength (c :: cs) = c.utf8Size + byteLength cs := rfl

@[simp]
theorem byteLength_append (cs ds : List Char) :
    byteLength (cs ++ ds) = byteLength cs + byteLength ds := by
  induction cs with
  | nil => simp
  | cons c cs ih => simp [ih, Nat.add_assoc]

/-- The characters from byte `n` on, or `none` when `n` splits a character or passes the end. -/
def dropBytes? : List Char → Nat → Option (List Char)
  | cs, 0 => some cs
  | [], _ + 1 => none
  | c :: cs, n + 1 => if c.utf8Size ≤ n + 1 then dropBytes? cs (n + 1 - c.utf8Size) else none

theorem byteLength_eq_zero_iff {cs : List Char} : byteLength cs = 0 ↔ cs = [] := by
  cases cs with
  | nil => simp
  | cons c cs =>
    have hpos := c.utf8Size_pos
    simp
    omega

/-- A part that begins at byte `n` is preceded by `n` bytes. -/
theorem add_byteLength_of_dropBytes? {cs rest : List Char} {n : Nat}
    (h : dropBytes? cs n = some rest) : n + byteLength rest = byteLength cs := by
  fun_induction dropBytes? cs n with
  | case1 cs =>
    cases h
    exact Nat.zero_add _
  | case2 => cases h
  | case3 c cs n hfits ih =>
    have hrest := ih h
    rw [byteLength_cons]
    omega
  | case4 => cases h

theorem dropBytes?_zero (cs : List Char) : dropBytes? cs 0 = some cs := by
  cases cs <;> rfl

theorem dropBytes?_cons_add (c : Char) (cs : List Char) (n : Nat) :
    dropBytes? (c :: cs) (c.utf8Size + n) = dropBytes? cs n := by
  obtain ⟨size, hsize⟩ : ∃ size, c.utf8Size = size + 1 :=
    ⟨c.utf8Size - 1, by have := c.utf8Size_pos; omega⟩
  rw [hsize, Nat.add_right_comm, dropBytes?, if_pos (by omega)]
  congr 1
  omega

/-- Dropping in two steps. -/
theorem dropBytes?_add {cs rest : List Char} {n : Nat} (h : dropBytes? cs n = some rest) (m : Nat) :
    dropBytes? cs (n + m) = dropBytes? rest m := by
  fun_induction dropBytes? cs n with
  | case1 cs =>
    cases h
    rw [Nat.zero_add]
  | case2 => cases h
  | case3 c cs n hfits ih =>
    have hlength : n + 1 + m = c.utf8Size + (n + 1 - c.utf8Size + m) := by omega
    rw [hlength, dropBytes?_cons_add, ih h]
  | case4 => cases h

theorem dropBytes?_append (cs rest : List Char) :
    dropBytes? (cs ++ rest) (byteLength cs) = some rest := by
  induction cs with
  | nil => exact dropBytes?_zero rest
  | cons c cs ih => rw [List.cons_append, byteLength_cons, dropBytes?_cons_add, ih]

/-- The characters before byte `n`, or `none` when `n` splits a character or passes the end. -/
def takeBytes? : List Char → Nat → Option (List Char)
  | _, 0 => some []
  | [], _ + 1 => none
  | c :: cs, n + 1 =>
    if c.utf8Size ≤ n + 1 then (takeBytes? cs (n + 1 - c.utf8Size)).map (c :: ·) else none

/-- Whether byte `n` of `cs` is the start of a character or the end of the text. -/
def IsBoundary (cs : List Char) (n : Nat) : Prop :=
  (dropBytes? cs n).isSome

instance (cs : List Char) (n : Nat) : Decidable (IsBoundary cs n) :=
  inferInstanceAs (Decidable ((dropBytes? cs n).isSome = true))

/-- The characters that start at or after byte `start` and before byte `stop`. -/
def slice (cs : List Char) (start stop : Nat) : List Char :=
  match cs with
  | [] => []
  | c :: cs =>
    if stop = 0 then []
    else if start = 0 then c :: slice cs 0 (stop - c.utf8Size)
    else slice cs (start - c.utf8Size) (stop - c.utf8Size)

/-- Nothing stands between an offset and itself. -/
theorem slice_self (cs : List Char) (n : Nat) : slice cs n n = [] := by
  induction cs generalizing n with
  | nil => rfl
  | cons c cs ih =>
    by_cases hzero : n = 0
    · simp [slice, hzero]
    · simp [slice, hzero, ih]

/-- Parts that follow each other. -/
theorem slice_append (cs : List Char) {start between stop : Nat} (hstart : start ≤ between)
    (hstop : between ≤ stop) :
    slice cs start between ++ slice cs between stop = slice cs start stop := by
  induction cs generalizing start between stop with
  | nil => rfl
  | cons c cs ih =>
    have hrest := @ih (start - c.utf8Size) (between - c.utf8Size) (stop - c.utf8Size)
      (by omega) (by omega)
    by_cases hbetween : between = 0
    · obtain rfl : start = 0 := by omega
      simp [slice, hbetween]
    · have hlast : stop ≠ 0 := by omega
      by_cases hfirst : start = 0
      · simp only [slice, hbetween, hlast, hfirst, if_false, if_true, List.cons_append,
          List.cons.injEq, true_and]
        simpa [hfirst] using hrest
      · simpa only [slice, hbetween, hlast, hfirst, if_false] using hrest

theorem slice_skip (cs rest : List Char) (start stop : Nat) :
    slice (cs ++ rest) (byteLength cs + start) (byteLength cs + stop) = slice rest start stop := by
  induction cs with
  | nil => simp
  | cons c cs ih =>
    have hpos := c.utf8Size_pos
    have hstart : byteLength (c :: cs) + start ≠ 0 := by
      rw [byteLength_cons]
      omega
    have hstop : byteLength (c :: cs) + stop ≠ 0 := by
      rw [byteLength_cons]
      omega
    have hless (n : Nat) : byteLength (c :: cs) + n - c.utf8Size = byteLength cs + n := by
      rw [byteLength_cons]
      omega
    rw [List.cons_append, slice, if_neg hstop, if_neg hstart, hless, hless, ih]

theorem slice_take (cs rest : List Char) : slice (cs ++ rest) 0 (byteLength cs) = cs := by
  induction cs with
  | nil => exact slice_self rest 0
  | cons c cs ih =>
    have hpos := c.utf8Size_pos
    have hstop : byteLength (c :: cs) ≠ 0 := by
      rw [byteLength_cons]
      omega
    have hless : byteLength (c :: cs) - c.utf8Size = byteLength cs := by
      rw [byteLength_cons]
      omega
    rw [List.cons_append, slice, if_neg hstop, if_pos rfl, hless, ih]

theorem prefix_slice {cs : List Char} (rest : List Char) {n : Nat} (h : byteLength cs ≤ n) :
    cs <+: slice (cs ++ rest) 0 n := by
  refine ⟨slice (cs ++ rest) (byteLength cs) n, ?_⟩
  rw [← slice_append _ (Nat.zero_le _) h, slice_take]

/-- The part of a text that stands after `cs`. -/
theorem slice_middle (cs ds rest : List Char) :
    slice (cs ++ (ds ++ rest)) (byteLength cs) (byteLength cs + byteLength ds) = ds := by
  have hskip := slice_skip cs (ds ++ rest) 0 (byteLength ds)
  rw [Nat.add_zero] at hskip
  rw [hskip, slice_take]

/-- What follows `lead` when `cs` begins with it. -/
def stripLead? : List Char → List Char → Option (List Char)
  | [], cs => some cs
  | _ :: _, [] => none
  | l :: ls, c :: cs => if l = c then stripLead? ls cs else none

theorem stripLead?_eq_some_iff {lead cs rest : List Char} :
    stripLead? lead cs = some rest ↔ cs = lead ++ rest := by
  induction lead generalizing cs with
  | nil => simp [stripLead?]
  | cons l ls ih =>
    cases cs with
    | nil => simp [stripLead?]
    | cons c cs =>
      by_cases h : l = c
      · simp [stripLead?, h, ih]
      · simp [stripLead?, h, Ne.symm h]

end PegKit.Text
