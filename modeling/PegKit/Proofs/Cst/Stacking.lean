import PegKit.Proofs.Cst.Levels
import PegKit.Proofs.Cst.Restating

/-!
# Stacked repetition marks

Each repetition mark after an operand makes a node around what stands before it and takes no level
of reading. With a single level, a dot followed by stars is read as an expression of as many
repetitions as there are stars: the levels alone do not bound the nesting.
-/

namespace PegKit.Cst

open Token (Spelled)
open Parse (Recovers Operand Rewritable marked)

/-- A star as a token. -/
def star : Kind × String := (.star, "*")

/-- A dot and its stars. -/
def starredWords (count : Nat) : List (Kind × String) :=
  [(.dot, ".")] ++ List.replicate count star

/-- What a dot and its stars stand for. -/
def starred (count : Nat) : Expr :=
  marked .anyChar (List.replicate count star)

/-- A text with a rule that is a dot and its stars. -/
def starredText (count : Nat) : String :=
  String.ofList ("grammar g rule r .".toList ++ List.replicate count '*' ++ " end end".toList)

/-! ## Nesting -/

theorem marked_height (expr : Expr) (marks : List (Kind × String)) :
    (marked expr marks).height = expr.height + marks.length := by
  induction marks generalizing expr with
  | nil => rfl
  | cons mark rest ih =>
    calc
      (marked expr (mark :: rest)).height =
          (Meaning.quantify (some mark.1) expr).height + rest.length := ih _
      _ = expr.height + 1 + rest.length := by rw [Meaning.quantify_height]
      _ = expr.height + (mark :: rest).length := by
        rw [List.length_cons]
        omega

theorem lt_starred_height (count : Nat) : count < (starred count).height := by
  rw [starred, marked_height, List.length_replicate]
  exact Nat.lt_add_of_pos_left (Expr.height_pos _)

/-! ## Reading -/

theorem starred_operand (count : Nat) : Operand (starredWords count) := by
  refine .intro rfl (by decide) (by decide) fun word hword ↦ ?_
  obtain ⟨_, rfl⟩ := List.mem_replicate.mp (List.mem_of_mem_head? hword)
  decide

/-- One level is enough for any number of stars. -/
theorem starred_recovers (names : List String) (count : Nat) :
    Recovers names 0 (Parse.choice (Parse.prefixed 1)) (starredWords count) (starred count) := by
  have hmarks : ∀ mark ∈ List.replicate count star,
      KindSet.quantifiers.contains mark.1 = true := by
    intro mark hmark
    obtain ⟨_, rfl⟩ := List.mem_replicate.mp hmark
    rfl
  have hrepeated : Recovers names 3 (Parse.reader 0 3) (starredWords count) (starred count) :=
    Parse.repeated_recovers hmarks Parse.dot_recovers
  have hoperand := starred_operand count
  have hchoice : Recovers names 0 (Parse.reader 0 0) (starredWords count) (starred count) :=
    Parse.weakest_recovers (Nat.zero_le 3) (by decide) hoperand.begins (fun _ ↦ hoperand) hrepeated
  exact hchoice

theorem stars_spelled {cs : List Char} {words : List (Kind × String)} (h : Spelled cs words)
    (count : Nat) :
    Spelled (List.replicate count '*' ++ cs) (List.replicate count star ++ words) := by
  induction count with
  | zero => exact h
  | succ count ih => exact ih.mark .star (by rintro ⟨⟩)

/-- The text is a grammar of one rule. -/
theorem starredText_spelled (count : Nat) :
    Spelled (starredText count).toList
      (Grammar.wordsAs (fun _ ↦ starredWords count) "g" [] [⟨"r", starred count⟩]) := by
  have hended : Spelled (" end".toList ++ (" end".toList ++ []))
      [(.keywordEnd, "end"), (.keywordEnd, "end")] :=
    end_spelled (end_spelled .nil (by rintro _ ⟨⟩)) (by rintro _ ⟨⟩; rfl)
  have hbody := (stars_spelled hended count).mark .dot (by cases count <;> rintro ⟨⟩)
  have hrule := @ruleHead_spelled _ _ "r" hbody (.intro rfl (by rintro _ ⟨⟩) rfl)
    (by rintro _ ⟨⟩; decide) (by rintro ⟨⟩)
  have hgrammar := @grammarHead_spelled _ _ "g" hrule (.intro rfl (by rintro _ ⟨⟩) rfl)
    (by rintro _ ⟨⟩; rfl) (by rintro ⟨⟩)
  have htext : (starredText count).toList =
      "grammar g rule r .".toList ++ List.replicate count '*' ++ " end end".toList :=
    String.toList_ofList
  rw [htext]
  simpa [starredWords, Grammar.wordsAs, Rule.wordsAs] using hgrammar

/-- With one level the text is read, as a rule deeper than the number of the stars. -/
theorem starredText_read (count : Nat) : ∃ parsed,
    parse (starredText count) ⟨none, some 1⟩ = .ok parsed ∧
      count < (Analysis.ofRoot parsed.root).grammar.tallest := by
  have hrules : Rewritable (fun _ ↦ starredWords count) ["r"] 1 [⟨"r", starred count⟩] :=
    ⟨List.forall_mem_singleton.mpr (starred_recovers _ count),
      List.forall_mem_singleton.mpr (starred_operand count).begins⟩
  obtain ⟨parsed, tree, children, hparse, _, hroot, hchildren, htree⟩ :=
    @parse_restores _ _ _ ⟨none, some 1⟩ _ _ _ (starredText_spelled count) (by rintro _ ⟨⟩) hrules
  have hvalue : (Analysis.ofRoot parsed.root).grammar.rules = [⟨"r", starred count⟩] := by
    rw [hroot]
    exact (analysis_of_gives htree.gives hchildren).2.1
  have hmem : ⟨"r", starred count⟩ ∈ (Analysis.ofRoot parsed.root).grammar.rules :=
    hvalue ▸ List.mem_singleton_self _
  exact ⟨parsed, hparse, (lt_starred_height count).trans_le (Grammar.height_le_tallest hmem)⟩

/-- No function of the levels alone bounds the nesting of trees, and none that of the rules that the
trees stand for. -/
theorem nesting_unbounded_by_levels_alone :
    (¬ ∃ bound : Nat → Nat, ∀ source execFuel levels parsed,
      parse source ⟨execFuel, some levels⟩ = .ok parsed → parsed.root.nesting ≤ bound levels) ∧
    ¬ ∃ bound : Nat → Nat, ∀ source execFuel levels parsed,
      parse source ⟨execFuel, some levels⟩ = .ok parsed →
        (Analysis.ofRoot parsed.root).grammar.tallest ≤ bound levels := by
  constructor
  · rintro ⟨bound, hbound⟩
    obtain ⟨parsed, hparse, hdeep⟩ := starredText_read (bound 1 + 1)
    have hnesting : bound 1 + 1 < parsed.root.nesting + 1 :=
      hdeep.trans_le (Analysis.tallest_le parsed.root)
    exact absurd (hbound _ _ _ parsed hparse) (Nat.not_le_of_lt (Nat.lt_of_succ_lt_succ hnesting))
  · rintro ⟨bound, hbound⟩
    obtain ⟨parsed, hparse, hdeep⟩ := starredText_read (bound 1)
    exact absurd (hbound _ _ _ parsed hparse) (Nat.not_le_of_lt hdeep)

end PegKit.Cst
