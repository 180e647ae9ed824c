import PegKit.Proofs.Program.Building

/-!
# Well-formed programs

What the tables of a program that a builder finished with have in common: every number in them leads
to an entry, parts stand before the whole, and names and symbols are given out once.
-/

namespace PegKit

/-- Every number in the tables of the program leads somewhere. -/
structure Program.WellFormed (program : Program) : Prop where
  /-- Operations refer to earlier ones. -/
  children : ∀ {i : Nat} {op : Op}, program.ops[i]? = some op → ∀ child ∈ op.children,
    child.index < i
  calls : ∀ op ∈ program.ops, ∀ rule ∈ op.rule?, rule.index < program.rules.size
  bodies : ∀ entry ∈ program.rules, entry.body.index < program.ops.size
  names : (program.rules.toList.map (·.name)).Nodup
  ruleNamed : ∀ (name : String) (rule : RuleId), program.ruleNamed? name = some rule ↔
    ∃ entry, program.rules[rule.index]? = some entry ∧ entry.name = name
  symbols : ∀ op ∈ program.ops, ∀ symbol ∈ op.symbol?, symbol.index < program.symbols.size
  texts : program.symbols.texts.toList.Nodup
  /-- Symbols are numbered in the order of their first uses. -/
  uses : Builder.firstUses program.symbols program.ops.toList = program.symbols

namespace Program

theorem rule_of_ruleNamed? {program : Program} {name : String} {rule : RuleId}
    (h : program.ruleNamed? name = some rule) :
    ∃ entry, program.rules[rule.index]? = some entry ∧ entry.name = name := by
  obtain ⟨place, hplace, rfl⟩ := Option.map_eq_some_iff.mp h
  obtain ⟨hlt, hname, _⟩ := Array.findIdx?_eq_some_iff_getElem.mp hplace
  exact ⟨_, Array.getElem?_eq_getElem hlt, beq_iff_eq.mp hname⟩

/-- Where names are different, each leads to its only rule. -/
theorem ruleNamed?_eq_some_iff {program : Program}
    (hdistinct : (Builder.ofProgram program).Distinct) (name : String) (rule : RuleId) :
    program.ruleNamed? name = some rule ↔
      ∃ entry, program.rules[rule.index]? = some entry ∧ entry.name = name := by
  constructor
  · exact rule_of_ruleNamed?
  · rintro ⟨entry, hentry, rfl⟩
    obtain ⟨found, hfound, _⟩ := ruleNamed?_isSome hentry
    obtain ⟨other, hother, hname⟩ := rule_of_ruleNamed? hfound
    have hplace : found.index = rule.index := hdistinct.eq_of_name hother hentry hname
    have hsame : found = rule := congrArg RuleId.mk hplace
    rw [hfound, hsame]

theorem IsBuilt.wellFormed {program : Program} (h : program.IsBuilt) : program.WellFormed := by
  obtain ⟨⟨hdistinct, hchildren, hcalls, hbodies⟩, hknown, htexts, huses⟩ := h.sound
  refine ⟨hchildren, ?_, ?_, ?_, ruleNamed?_eq_some_iff hdistinct, ?_, htexts, huses⟩
  · intro op hop rule hrule
    obtain ⟨i, hi⟩ := Array.mem_iff_getElem?.mp hop
    have hlt := hcalls hi rule hrule
    simpa [Builder.ofProgram] using hlt
  · intro entry hentry
    obtain ⟨i, hi⟩ := Array.mem_iff_getElem?.mp hentry
    exact hbodies (Builder.rules_ofProgram.mpr hi)
  · simpa [Builder.Distinct, Builder.ofProgram, Function.comp_def] using hdistinct
  · intro op hop
    exact hknown op (Array.mem_toList_iff.mpr hop)

end Program

end PegKit
