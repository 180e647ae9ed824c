import Mathlib.Data.List.DropRight
import Mathlib.Data.Prod.Lex
import Mathlib.Order.Monotone.Basic
import PegKit.Proofs.Text.Utf8

/-!
# Lines and columns in a text

The position of an offset, read off the bytes before it and read off the places of the characters.
Both readings give what `positionOf` gives, for an offset inside a character as well, and offsets
between characters are in the order of their positions.
-/

namespace PegKit.Text

open Utf8

/-! ## What follows the last newline -/

/-- What follows the last `mark` of `xs`, all of it when there is none. -/
def afterLast {α : Type} [DecidableEq α] (mark : α) (xs : List α) : List α :=
  xs.rtakeWhile (· ≠ mark)

section AfterLast

variable {α : Type} [DecidableEq α] {mark : α} {xs ys : List α}

@[simp]
theorem afterLast_nil : afterLast mark [] = [] := List.rtakeWhile_nil _

theorem afterLast_concat (x : α) :
    afterLast mark (xs ++ [x]) = if x = mark then [] else afterLast mark xs ++ [x] := by
  rw [afterLast, List.rtakeWhile_concat]
  by_cases h : x = mark <;> simp [h, afterLast]

theorem afterLast_singleton_self : afterLast mark [mark] = [] := by
  rw [← List.nil_append [mark], afterLast_concat, if_pos rfl]

theorem notMem_afterLast : mark ∉ afterLast mark xs := by
  intro hmem
  simpa using List.mem_rtakeWhile_imp hmem

theorem afterLast_append_of_notMem (h : mark ∉ ys) :
    afterLast mark (xs ++ ys) = afterLast mark xs ++ ys := by
  induction ys using List.reverseRecOn with
  | nil => rw [List.append_nil, List.append_nil]
  | append_singleton ys y ih =>
    rw [List.mem_append, not_or, List.mem_singleton] at h
    rw [← List.append_assoc, afterLast_concat, if_neg (Ne.symm h.right), ih h.left,
      List.append_assoc]

theorem afterLast_of_notMem (h : mark ∉ xs) : afterLast mark xs = xs := by
  have happend : afterLast mark ([] ++ xs) = afterLast mark [] ++ xs :=
    afterLast_append_of_notMem h
  rwa [afterLast_nil, List.nil_append] at happend

theorem afterLast_append_of_mem (h : mark ∈ ys) :
    afterLast mark (xs ++ ys) = afterLast mark ys := by
  induction ys using List.reverseRecOn with
  | nil => cases h
  | append_singleton ys y ih =>
    rw [← List.append_assoc, afterLast_concat, afterLast_concat]
    by_cases hlast : y = mark
    · rw [if_pos hlast, if_pos hlast]
    · have hearlier : mark ∈ ys := by
        rcases List.mem_append.mp h with hys | hy
        · exact hys
        · exact absurd (List.mem_singleton.mp hy).symm hlast
      rw [if_neg hlast, if_neg hlast, ih hearlier]

/-- What stands before it is nothing, or ends with `mark`. -/
theorem exists_append_afterLast (mark : α) (xs : List α) :
    ∃ earlier, earlier ++ afterLast mark xs = xs ∧
      (earlier = [] ∨ ∃ before, earlier = before ++ [mark]) := by
  induction xs using List.reverseRecOn with
  | nil => exact ⟨[], rfl, .inl rfl⟩
  | append_singleton xs x ih =>
    rw [afterLast_concat]
    by_cases hlast : x = mark
    · rw [if_pos hlast, hlast]
      exact ⟨xs ++ [mark], List.append_nil _, .inr ⟨xs, rfl⟩⟩
    · obtain ⟨earlier, happend, hend⟩ := ih
      rw [if_neg hlast]
      exact ⟨earlier, by rw [← List.append_assoc, happend], hend⟩

end AfterLast

theorem foldl_advance (cs : List Char) :
    cs.foldl Position.advance ⟨1, 1⟩ = ⟨cs.count '\n' + 1, (afterLast '\n' cs).length + 1⟩ := by
  induction cs using List.reverseRecOn with
  | nil => rfl
  | append_singleton cs c ih =>
    rw [List.foldl_append, ih, List.foldl_cons, List.foldl_nil, Position.advance,
      afterLast_concat, List.count_append, List.count_singleton]
    by_cases h : c = '\n' <;> simp [h]

/-- An offset between two characters parts the characters that begin before a later one. -/
theorem beginningBefore_add {cs rest : List Char} {n : Nat} (h : dropBytes? cs n = some rest)
    (m : Nat) : beginningBefore cs (n + m) = beginningBefore cs n ++ beginningBefore rest m := by
  fun_induction dropBytes? cs n with
  | case1 cs =>
    cases h
    rw [Nat.zero_add, beginningBefore_zero, List.nil_append]
  | case2 => cases h
  | case3 c cs n hfits ih =>
    have hless : n + 1 + m - c.utf8Size = n + 1 - c.utf8Size + m := by omega
    rw [beginningBefore_cons c cs (Nat.succ_pos n), beginningBefore_cons c cs (by omega), hless,
      ih h, List.cons_append]
  | case4 => cases h

/-- No character begins past the end. -/
theorem beginningBefore_min (cs : List Char) (n : Nat) :
    beginningBefore cs (min n (byteLength cs)) = beginningBefore cs n := by
  induction cs generalizing n with
  | nil => rfl
  | cons c cs ih =>
    have hsize := c.utf8Size_pos
    rcases Nat.eq_zero_or_pos n with hzero | hpos
    · rw [hzero, Nat.zero_min]
    · have hless : min n (byteLength (c :: cs)) - c.utf8Size =
          min (n - c.utf8Size) (byteLength cs) := by
        rw [byteLength_cons]
        omega
      have hmin : 0 < min n (byteLength (c :: cs)) := by
        rw [byteLength_cons]
        omega
      rw [beginningBefore_cons c cs hmin, beginningBefore_cons c cs hpos, hless, ih]

/-! ## The reading of bytes -/

/-- The position of byte `index` of `input` by the bytes before it: its line by their newlines, its
column by what those after the last newline show. -/
def bytePosition (input : List Char) (index : Nat) : Position :=
  let before := (utf8 input).take index
  ⟨before.count newline + 1, lossyLength (afterLast newline before) + 1⟩

theorem lossyLength_afterLast (cs : List Char) (n : Nat) :
    lossyLength (afterLast newline ((utf8 cs).take n)) =
      (afterLast '\n' (beginningBefore cs n)).length := by
  induction cs generalizing n with
  | nil => rw [utf8_nil, List.take_nil, beginningBefore, afterLast_nil, afterLast_nil,
      lossyLength_nil, List.length_nil]
  | cons c cs ih =>
    have htext := lossyLength_take_utf8 (c :: cs) n
    have hlater := newline_mem_take_utf8 cs (n - c.utf8Size)
    rcases Nat.eq_zero_or_pos n with hzero | hpos
    · rw [hzero, List.take_zero, beginningBefore_zero, afterLast_nil, afterLast_nil,
        lossyLength_nil, List.length_nil]
    · have hfirst := newline_mem_take_encode c hpos
      rw [take_utf8_cons, beginningBefore_cons c cs hpos, ← List.singleton_append] at htext ⊢
      by_cases hmem : '\n' ∈ beginningBefore cs (n - c.utf8Size)
      · rw [afterLast_append_of_mem (hlater.mpr hmem), afterLast_append_of_mem hmem, ih]
      · rw [afterLast_append_of_notMem (hlater.not.mpr hmem), afterLast_append_of_notMem hmem]
        by_cases hnewline : '\n' = c
        · have hwhole : (String.utf8EncodeChar '\n').take n = [newline] :=
            List.take_of_length_le hpos
          rw [← hnewline, hwhole, afterLast_singleton_self, afterLast_singleton_self,
            List.nil_append, List.nil_append, lossyLength_take_utf8]
        · rw [afterLast_of_notMem (hfirst.not.mpr hnewline),
            afterLast_of_notMem (by rwa [List.mem_singleton]), htext]

theorem bytePosition_eq (input : List Char) (index : Nat) :
    bytePosition input index = positionOf input index := by
  rw [bytePosition, positionOf, foldl_advance, count_newline_take_utf8, lossyLength_afterLast]

/-! ## The reading of places -/

/-- The characters of `cs`, each with the byte where it begins, when `cs` begins at `offset`. -/
def placedFrom (offset : Nat) : List Char → List (Nat × Char)
  | [] => []
  | c :: cs => (offset, c) :: placedFrom (offset + c.utf8Size) cs

/-- A newline begins at `place`. -/
def NewlineAt (input : List Char) (place : Nat) : Prop := (place, '\n') ∈ placedFrom 0 input

/-- The line that `index` is on begins at `start`. -/
structure LineStart (input : List Char) (index start : Nat) : Prop where
  begins : start = 0 ∨ ∃ place < index, NewlineAt input place ∧ start = place + 1
  unbroken : ∀ place, start ≤ place → place < index → ¬NewlineAt input place

/-- The line and column say where `index` is. -/
structure Position.Locates (position : Position) (input : List Char) (index : Nat) : Prop where
  line : position.line =
    1 + (placedFrom 0 input).countP fun placed ↦ placed.2 = '\n' ∧ placed.1 < index
  column : ∃ start, LineStart input index start ∧ position.column =
    1 + (placedFrom 0 input).countP fun placed ↦ start ≤ placed.1 ∧ placed.1 < index

theorem LineStart.le {input : List Char} {index start other : Nat}
    (h : LineStart input index start) (hother : LineStart input index other) : other ≤ start := by
  rcases hother.begins with hzero | ⟨place, hbefore, hnewline, hother⟩
  · omega
  · apply Nat.le_of_not_lt
    intro hlt
    exact h.unbroken place (by omega) hbefore hnewline

/-- A line has one beginning. -/
theorem LineStart.unique {input : List Char} {index start other : Nat}
    (h : LineStart input index start) (hother : LineStart input index other) : start = other :=
  Nat.le_antisymm (hother.le h) (h.le hother)

theorem placedFrom_append (offset : Nat) (cs ds : List Char) :
    placedFrom offset (cs ++ ds) =
      placedFrom offset cs ++ placedFrom (offset + byteLength cs) ds := by
  induction cs generalizing offset with
  | nil => rfl
  | cons c cs ih =>
    rw [List.cons_append, placedFrom, ih, placedFrom, byteLength_cons, List.cons_append,
      Nat.add_assoc]

theorem map_snd_placedFrom (offset : Nat) (cs : List Char) :
    (placedFrom offset cs).map Prod.snd = cs := by
  induction cs generalizing offset with
  | nil => rfl
  | cons c cs ih => rw [placedFrom, List.map_cons, ih]

theorem bounds_of_mem_placedFrom {offset place : Nat} {c : Char} {cs : List Char}
    (h : (place, c) ∈ placedFrom offset cs) :
    offset ≤ place ∧ place + c.utf8Size ≤ offset + byteLength cs := by
  induction cs generalizing offset with
  | nil => cases h
  | cons d cs ih =>
    rw [placedFrom, List.mem_cons] at h
    rw [byteLength_cons]
    rcases h with hfirst | hlater
    · cases hfirst
      omega
    · have hbounds := ih hlater
      omega

theorem filter_placedFrom_of_le {offset n : Nat} (cs : List Char) (h : n ≤ offset) :
    (placedFrom offset cs).filter (·.1 < n) = [] := by
  apply List.filter_eq_nil_iff.mpr
  intro placed hmem
  have hbounds := (bounds_of_mem_placedFrom hmem).left
  simp only [decide_eq_true_eq]
  omega

/-- The characters placed before an offset are those that begin before it. -/
theorem filter_placedFrom (offset n : Nat) (cs : List Char) :
    (placedFrom offset cs).filter (·.1 < offset + n) =
      placedFrom offset (beginningBefore cs n) := by
  induction cs generalizing offset n with
  | nil => rfl
  | cons c cs ih =>
    rcases Nat.eq_zero_or_pos n with hzero | hpos
    · rw [hzero, beginningBefore_zero, placedFrom]
      exact filter_placedFrom_of_le _ (Nat.le_refl _)
    · rw [beginningBefore_cons c cs hpos, placedFrom, placedFrom,
        List.filter_cons_of_pos (by simpa using hpos)]
      congr 1
      by_cases hcut : n ≤ c.utf8Size
      · rw [Nat.sub_eq_zero_of_le hcut, beginningBefore_zero, placedFrom]
        exact filter_placedFrom_of_le cs (by omega)
      · rw [← ih]
        have hindex : offset + n = offset + c.utf8Size + (n - c.utf8Size) := by omega
        rw [hindex]

theorem mem_placedFrom_beginningBefore {input : List Char} {index : Nat} {placed : Nat × Char} :
    placed ∈ placedFrom 0 (beginningBefore input index) ↔
      placed ∈ placedFrom 0 input ∧ placed.1 < index := by
  rw [← filter_placedFrom, List.mem_filter, decide_eq_true_eq, Nat.zero_add]

/-- The condition `holds` on characters before an offset, counted where they begin before it. -/
theorem countP_placedFrom (input : List Char) (index : Nat) (holds : Nat × Char → Prop)
    [DecidablePred holds] :
    ((placedFrom 0 input).countP fun placed ↦ holds placed ∧ placed.1 < index) =
      (placedFrom 0 (beginningBefore input index)).countP fun placed ↦ holds placed := by
  rw [← filter_placedFrom, List.countP_filter]
  apply List.countP_congr
  intro placed _
  rw [Nat.zero_add, Bool.and_eq_true, decide_eq_true_eq, decide_eq_true_eq, decide_eq_true_eq]

theorem countP_placedFrom_append (earlier line : List Char) :
    ((placedFrom 0 (earlier ++ line)).countP fun placed ↦ byteLength earlier ≤ placed.1) =
      line.length := by
  have hearlier :
      ((placedFrom 0 earlier).countP fun placed ↦ byteLength earlier ≤ placed.1) = 0 := by
    apply List.countP_eq_zero.mpr
    intro placed hmem
    have hbounds := (bounds_of_mem_placedFrom hmem).right
    have hpos := placed.2.utf8Size_pos
    simp only [decide_eq_true_eq]
    omega
  have hline : ((placedFrom (0 + byteLength earlier) line).countP
      fun placed ↦ byteLength earlier ≤ placed.1) = line.length := by
    calc
      _ = (placedFrom (0 + byteLength earlier) line).length := by
        apply List.countP_eq_length.mpr
        intro placed hmem
        have hbounds := (bounds_of_mem_placedFrom hmem).left
        simp only [decide_eq_true_eq]
        omega
      _ = line.length := by
        rw [← List.length_map Prod.snd, map_snd_placedFrom]
  rw [placedFrom_append, List.countP_append, hearlier, hline, Nat.zero_add]

theorem count_newline_eq (cs : List Char) :
    cs.count '\n' = (placedFrom 0 cs).countP fun placed ↦ placed.2 = '\n' := by
  conv_lhs => rw [← map_snd_placedFrom 0 cs]
  rw [List.count, List.countP_map]
  rfl

/-- The last newline before an offset ends the line before. -/
theorem lineStart_of_append {input earlier line : List Char} {index : Nat}
    (happend : earlier ++ line = beginningBefore input index)
    (hend : earlier = [] ∨ ∃ before, earlier = before ++ ['\n']) (hline : '\n' ∉ line) :
    LineStart input index (byteLength earlier) := by
  constructor
  · rcases hend with hnil | ⟨before, hbefore⟩
    · left
      rw [hnil, byteLength_nil]
    · right
      have hplaced : (byteLength before, '\n') ∈ placedFrom 0 (beginningBefore input index) := by
        rw [← happend, hbefore, List.append_assoc, placedFrom_append, Nat.zero_add]
        apply List.mem_append_right
        exact List.mem_cons_self
      have hmem := mem_placedFrom_beginningBefore.mp hplaced
      refine ⟨byteLength before, hmem.right, hmem.left, ?_⟩
      rw [hbefore, byteLength_append]
      rfl
  · intro place hstart hindex hnewline
    have hplaced := mem_placedFrom_beginningBefore.mpr ⟨hnewline, hindex⟩
    rw [← happend, placedFrom_append, List.mem_append] at hplaced
    rcases hplaced with hearlier | hthis
    · have hbounds := (bounds_of_mem_placedFrom hearlier).right
      have hpos := Char.utf8Size_pos '\n'
      omega
    · apply hline
      rw [← map_snd_placedFrom (0 + byteLength earlier) line]
      exact List.mem_map_of_mem hthis

theorem positionOf_locates (input : List Char) (index : Nat) :
    (positionOf input index).Locates input index := by
  have hposition := foldl_advance (beginningBefore input index)
  obtain ⟨earlier, happend, hend⟩ :=
    exists_append_afterLast '\n' (beginningBefore input index)
  rw [positionOf, hposition]
  constructor
  · rw [countP_placedFrom input index fun placed ↦ placed.2 = '\n', Nat.add_comm, count_newline_eq]
  · refine ⟨byteLength earlier, lineStart_of_append happend hend notMem_afterLast, ?_⟩
    rw [countP_placedFrom input index fun placed ↦ byteLength earlier ≤ placed.1, ← happend,
      countP_placedFrom_append, happend]
    exact Nat.add_comm _ 1

/-! ## The order of positions -/

/-- Positions by their lines, on one line by their columns. -/
def Position.order (position : Position) : Nat ×ₗ Nat := toLex (position.line, position.column)

theorem Position.order_lt_advance (position : Position) (c : Char) :
    position.order < (position.advance c).order := by
  rw [Position.order, Position.order, Position.advance, Prod.Lex.toLex_lt_toLex]
  by_cases h : c = '\n' <;> simp [h]

theorem Position.order_lt_foldl (position : Position) {cs : List Char} (h : cs ≠ []) :
    position.order < (cs.foldl Position.advance position).order := by
  induction cs generalizing position with
  | nil => exact absurd rfl h
  | cons c cs ih =>
    have hfirst := position.order_lt_advance c
    rw [List.foldl_cons]
    by_cases hlast : cs = []
    · rw [hlast, List.foldl_nil]
      exact hfirst
    · exact hfirst.trans (ih _ hlast)

/-- From an offset between characters on, every later offset has a later position. -/
theorem order_positionOf_lt {input : List Char} {index later : Nat}
    (hboundary : IsBoundary input index) (hinside : index < byteLength input)
    (hlater : index < later) :
    (positionOf input index).order < (positionOf input later).order := by
  obtain ⟨rest, hrest⟩ := Option.isSome_iff_exists.mp hboundary
  have hlength := add_byteLength_of_dropBytes? hrest
  have hadd := beginningBefore_add hrest (later - index)
  rw [Nat.add_sub_of_le (Nat.le_of_lt hlater)] at hadd
  rw [positionOf, positionOf, hadd, List.foldl_append]
  apply Position.order_lt_foldl
  cases rest with
  | nil =>
    rw [byteLength_nil] at hlength
    omega
  | cons c rest =>
    rw [beginningBefore_cons c rest (Nat.sub_pos_of_lt hlater)]
    exact List.cons_ne_nil _ _

/-- The position of an offset is read off the bytes before it, also where they end inside a
character; its line is one more than the newlines before the offset, its column one more than the
characters of that line that begin before it, and an offset past the end has the position of the
end. Offsets between characters are in the order of their positions, so that a position belongs to
no more than one of them. -/
theorem positionOf_exact (input : List Char) :
    (∀ index, positionOf input index = positionOf input (min index (byteLength input)) ∧
      bytePosition input index = positionOf input index ∧
      (positionOf input index).Locates input (min index (byteLength input))) ∧
    StrictMonoOn (fun index ↦ (positionOf input index).order) {index | IsBoundary input index} ∧
    Set.InjOn (positionOf input) {index | IsBoundary input index} := by
  have hmono : StrictMonoOn (fun index ↦ (positionOf input index).order)
      {index | IsBoundary input index} := by
    intro index hindex later hboundary hlater
    obtain ⟨rest, hrest⟩ := Option.isSome_iff_exists.mp hboundary
    have hlength := add_byteLength_of_dropBytes? hrest
    exact order_positionOf_lt hindex (by omega) hlater
  refine ⟨?_, hmono, ?_⟩
  · intro index
    have hclamped : positionOf input index = positionOf input (min index (byteLength input)) := by
      rw [positionOf, positionOf, beginningBefore_min]
    refine ⟨hclamped, bytePosition_eq input index, ?_⟩
    rw [hclamped]
    exact positionOf_locates input _
  · intro index hindex other hother heq
    exact hmono.injOn hindex hother (congrArg Position.order heq)

/-- The second byte of `é`: the character counts as passed. -/
example : positionOf "aéx".toList 2 = ⟨1, 3⟩ := by decide

end PegKit.Text
