import Mathlib.Data.List.Induction
import Mathlib.Logic.Relation
import PegKit.Proofs.Text.Letters

/-!
# Names that only differ in their capitals

Writing a name in snake case forgets how its words were set apart. What it forgets is told by single
letters: a capital at the front of a word is as good as the small letter, and elsewhere as good as
an underscore and the small letter. Names that this leads from one to the other are written alike,
and no others are.
-/

namespace PegKit.Text.Casing

/-- A word may begin after the text as it is. -/
def Ready (before : List Char) : Prop := before = [] ∨ before.getLast? = some '_'

instance (before : List Char) : Decidable (Ready before) :=
  inferInstanceAs (Decidable (_ ∨ _))

/-- The small letter for the capital `c`, set apart from the text before it. -/
def lowered (before : List Char) (c : Char) : List Char :=
  if Ready before then [c.toLower] else ['_', c.toLower]

/-- One capital is made small. -/
inductive Lowers : List Char → List Char → Prop
  | capital {c : Char} (hcapital : c.isUpper = true) (before rest : List Char) :
      Lowers (before ++ c :: rest) (before ++ lowered before c ++ rest)

/-! ## Writing on -/

theorem snake_append (name rest : List Char) :
    snake (name ++ rest) = (rest.foldl snakeStep (snake name).reverse).reverse := by
  rw [snake, snake, List.foldl_append, List.reverse_reverse]

/-- What is written next only depends on what was written. -/
theorem snake_append_congr {name other : List Char} (h : snake name = snake other)
    (rest : List Char) : snake (name ++ rest) = snake (other ++ rest) := by
  rw [snake_append, snake_append, h]

theorem snake_concat (name : List Char) (c : Char) :
    snake (name ++ [c]) = snake name ++ if c.isUpper then lowered (snake name) c else [c] := by
  have hready : ((snake name).reverse.isEmpty || (snake name).reverse.head? == some '_') = true ↔
      Ready (snake name) := by
    simp [Ready]
  rw [snake_append, List.foldl_cons, List.foldl_nil, snakeStep, lowered]
  by_cases hupper : c.isUpper = true
  · rw [if_pos hupper, if_pos hupper]
    by_cases hfront : Ready (snake name)
    · rw [if_pos (hready.mpr hfront), if_pos hfront]
      simp
    · rw [if_neg (mt hready.mp hfront), if_neg hfront]
      simp
  · rw [if_neg hupper, if_neg hupper]
    simp

theorem snake_append_of_small {rest : List Char} (h : ∀ c ∈ rest, c.isUpper = false)
    (name : List Char) : snake (name ++ rest) = snake name ++ rest := by
  induction rest using List.reverseRecOn with
  | nil => simp
  | append_singleton rest c ih =>
    have hc : c.isUpper = false := h c (by simp)
    rw [← List.append_assoc, snake_concat, ih fun d hd ↦ h d (by simp [hd]), hc]
    simp

theorem lowered_small (before : List Char) (c : Char) :
    ∀ d ∈ lowered before c, d.isUpper = false := by
  have hmark : Char.isUpper '_' = false := rfl
  unfold lowered
  split <;> simp [hmark]

/-- A name and what is written for it are ready for a word at once. -/
theorem ready_snake (name : List Char) : Ready (snake name) ↔ Ready name := by
  cases name using List.reverseRecOn with
  | nil => rfl
  | append_singleton name c =>
    rw [snake_concat]
    by_cases hupper : c.isUpper = true
    · have hsmall : c.toLower ≠ '_' := by
        intro hmark
        have hlower := isLower_toLower hupper
        rw [hmark] at hlower
        cases hlower
      have hcapital : c ≠ '_' := by
        rintro rfl
        cases hupper
      rw [if_pos hupper, lowered]
      split <;> simp [Ready, hsmall, hcapital]
    · simp [hupper, Ready]

theorem lowered_snake (name : List Char) (c : Char) : lowered (snake name) c = lowered name c := by
  unfold lowered
  simp only [ready_snake]

/-- A name in snake case has no characters but those of the name, capitals small, and underscores. -/
theorem mem_snake {name : List Char} {c : Char} (h : c ∈ snake name) :
    c = '_' ∨ c ∈ name ∨ ∃ d ∈ name, d.isUpper = true ∧ c = d.toLower := by
  induction name using List.reverseRecOn with
  | nil => cases h
  | append_singleton name d ih =>
    rw [snake_concat, List.mem_append] at h
    rcases h with hbefore | hlast
    · rcases ih hbefore with hmark | hold | ⟨e, he, hletter⟩
      · exact .inl hmark
      · exact .inr (.inl (List.mem_append_left _ hold))
      · exact .inr (.inr ⟨e, List.mem_append_left _ he, hletter⟩)
    · by_cases hupper : d.isUpper = true
      · rw [if_pos hupper, lowered] at hlast
        split at hlast
        · exact .inr (.inr ⟨d, by simp, hupper, List.mem_singleton.mp hlast⟩)
        · rcases List.mem_cons.mp hlast with hmark | hletter
          · exact .inl hmark
          · exact .inr (.inr ⟨d, by simp, hupper, List.mem_singleton.mp hletter⟩)
      · rw [if_neg hupper, List.mem_singleton] at hlast
        exact .inr (.inl (by simp [hlast]))

/-! ## Names written alike -/

theorem Lowers.snake_eq {name other : List Char} (h : Lowers name other) :
    snake name = snake other := by
  obtain @⟨c, hcapital, before, rest⟩ := h
  have hletter : snake (before ++ [c]) = snake (before ++ lowered before c) := by
    rw [snake_concat, if_pos hcapital, lowered_snake,
      snake_append_of_small (lowered_small before c)]
  have hwhole := snake_append_congr hletter rest
  rwa [List.append_assoc, List.singleton_append] at hwhole

theorem Lowers.append {name other : List Char} (h : Lowers name other) (more : List Char) :
    Lowers (name ++ more) (other ++ more) := by
  obtain @⟨c, hcapital, before, rest⟩ := h
  have hstep := Lowers.capital hcapital before (rest ++ more)
  rwa [← List.cons_append, ← List.append_assoc, ← List.append_assoc] at hstep

/-- Making one capital small after the other ends with the name in snake case. -/
theorem lowers_snake (name : List Char) : Relation.ReflTransGen Lowers name (snake name) := by
  induction name using List.reverseRecOn with
  | nil => exact .refl
  | append_singleton name c ih =>
    have hfront : Relation.ReflTransGen Lowers (name ++ [c]) (snake name ++ [c]) :=
      ih.lift (· ++ [c]) fun _ _ hstep ↦ hstep.append [c]
    rw [snake_concat]
    split
    · have hlast := Lowers.capital ‹_› (snake name) []
      rw [List.append_nil] at hlast
      exact hfront.tail hlast
    · exact hfront

/-- Two names are written alike exactly when capitals of the one and of the other can be made small,
one by one, until they are the same. -/
theorem snake_eq_iff {name other : List Char} :
    snake name = snake other ↔ Relation.EqvGen Lowers name other := by
  constructor
  · intro h
    have hname := Relation.EqvGen.reflTransGen_le_eqvGen Lowers _ _ (lowers_snake name)
    have hother := Relation.EqvGen.reflTransGen_le_eqvGen Lowers _ _ (lowers_snake other)
    rw [← h] at hother
    exact hname.trans _ _ _ (hother.symm _ _)
  · intro h
    induction h with
    | rel name other hstep => exact hstep.snake_eq
    | refl name => rfl
    | symm name other _ ih => exact ih.symm
    | trans name between other _ _ ih ih' => exact ih.trans ih'

end PegKit.Text.Casing
