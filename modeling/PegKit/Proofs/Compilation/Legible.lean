import PegKit.Proofs.Compilation.Accepted
import PegKit.Proofs.Cst.Origin
import PegKit.Proofs.Expr.Written
import PegKit.Proofs.Unicode.Trimming

/-!
# Bodies of accepted rules

What an accepted text says can be written again: its names are names, its classes are classes in
brackets, its hooks have balanced braces, and nothing in it is left open.
-/

namespace PegKit

open Token (Formed IsName IsClass IsBlock depthAfter?)

namespace CharClass

theorem bracketBody?_eq_some {cs inner : List Char} (h : bracketBody? cs = some inner) :
    cs = '[' :: inner ++ [']'] := by
  unfold bracketBody? at h
  split at h
  · next rest =>
    split at h
    · next hlast =>
      cases h
      rw [List.cons_append, List.dropLast_append_getLast?]
      exact hlast
    · cases h
  · cases h

/-- A class is written as it was read. -/
theorem ofBrackets_describe {text : String} {cls : CharClass} (h : ofBrackets text = .ok cls) :
    cls.describe = text := by
  unfold ofBrackets at h
  cases hbody : bracketBody? text.toList with
  | none =>
    rw [hbody] at h
    cases h
  | some inner =>
    rw [hbody] at h
    dsimp only at h
    generalize hinside : (if (inner.head? == some '^') = true then inner.tail else inner) = body at h
    split at h
    · cases h
    generalize hranges : bodyRanges _ = ranges at h
    cases ranges with
    | error => cases h
    | ok ranges =>
      cases h
      rw [← String.toList_inj, bracketBody?_eq_some hbody, ← hinside]
      cases inner with
      | nil => simp [describe, ofRangesAs]
      | cons c cs =>
        by_cases hcaret : c = '^' <;> simp [describe, ofRangesAs, hcaret]

end CharClass

/-! ## Hooks -/

theorem depthAfter?_trimBlanks {hook : List Char} (h : depthAfter? 0 hook = some 0) :
    depthAfter? 0 (Unicode.trimBlanks hook) = some 0 := by
  obtain ⟨before, after, hsplit, hbefore, hafter⟩ := Unicode.trimBlanks_split hook
  have hbraces {cs : List Char} (hblank : ∀ c ∈ cs, Unicode.isBlank c = true) (depth : Nat) :
      depthAfter? depth cs = some depth := by
    apply Token.depthAfter?_of_no_brace
    intro c hc
    have hc := hblank c hc
    constructor <;> (rintro rfl; revert hc; decide)
  rw [hsplit, Token.depthAfter?_append, Token.depthAfter?_append, hbraces hbefore,
    Option.bind_some, Option.bind_eq_some_iff] at h
  obtain ⟨depth, hdepth, hend⟩ := h
  rw [hbraces hafter] at hend
  rw [hdepth, hend]

namespace Cst

theorem tokens_subset {tree child : Cst} (h : child ∈ tree.children) :
    child.tokens ⊆ tree.tokens := by
  cases tree with
  | leaf => cases h
  | node kind children =>
    intro token htoken
    rw [tokens, tokensOfList_eq_flatMap]
    exact List.mem_flatMap.mpr ⟨child, h, htoken⟩

/-- A token that was found among the children. -/
theorem childToken?_eq_some {tree : Cst} {kind : Kind} {token : Token}
    (h : tree.childToken? kind = some token) : token.kind = kind ∧ token ∈ tree.tokens := by
  obtain ⟨child, hchild, hfound⟩ := List.exists_of_findSome?_eq_some h
  cases child with
  | node => cases hfound
  | leaf other =>
    obtain ⟨hkind, hsame⟩ := Option.ite_none_right_eq_some.mp hfound
    cases hsame
    exact ⟨hkind, tokens_subset hchild (List.mem_singleton_self _)⟩

/-- A complete tree of well-formed tokens in which references name declared rules. -/
structure Sound (names : List String) (tree : Cst) : Prop where
  entire : tree.Entire
  formed : ∀ token ∈ tree.tokens, Formed (token.kind, token.text.toList)
  declared : ∀ name, RefersTo tree.nodes name → name ∈ names

namespace Sound

variable {names : List String} {tree : Cst} {token : Token}

theorem child {inner : Cst} (h : tree.Sound names) (hchild : inner ∈ tree.children) :
    inner.Sound names :=
  ⟨h.entire.child hchild, fun token htoken ↦ h.formed token (tokens_subset hchild htoken),
    fun name hname ↦ h.declared name (hname.mono (nodes_subset_of_mem_children hchild))⟩

theorem name (h : tree.Sound names) (hname : tree.name? = some token) :
    IsName token.text.toList := by
  obtain ⟨hkind, htoken⟩ := childToken?_eq_some hname
  have hformed := h.formed token htoken
  rwa [hkind] at hformed

theorem isClass (h : tree.Sound names) (hclass : tree.classToken? = some token) :
    IsClass token.text.toList := by
  obtain ⟨hkind, htoken⟩ := childToken?_eq_some hclass
  have hformed := h.formed token htoken
  rwa [hkind] at hformed

theorem hook {hook : String} (h : tree.Sound names) (hhook : tree.hook? = some hook) :
    depthAfter? 0 hook.toList = some 0 ∧ Unicode.trimBlanks hook.toList = hook.toList := by
  obtain ⟨block, hblock, hread⟩ := Option.bind_eq_some_iff.mp hhook
  obtain ⟨hkind, htoken⟩ := childToken?_eq_some hblock
  have hformed := h.formed block htoken
  rw [hkind] at hformed
  obtain ⟨inside, hinside, rfl⟩ := Option.map_eq_some_iff.mp hread
  have hbraces : IsBlock block.text.toList := hformed
  clear hread
  generalize block.text.toList = cs at hinside hbraces
  obtain @⟨inner, hbalanced⟩ := hbraces
  have htrim : hookChars? ('{' :: inner ++ ['}']) = some (Unicode.trimBlanks inner) := by
    simp [hookChars?]
  obtain rfl : Unicode.trimBlanks inner = inside := Option.some.inj (htrim.symm.trans hinside)
  rw [String.toList_ofList]
  exact ⟨depthAfter?_trimBlanks hbalanced, Unicode.trimBlanks_idempotent inner⟩

end Sound

end Cst

namespace Meaning

variable {α β : Type} {P P' : α → Prop} {Q : β → Prop}

/-- Reports are only added, and where none of those added is an error the meaning is as told. -/
structure Vouches (m : Reported α) (P : α → Prop) : Prop where
  holds : ∀ reports, ∃ added, (m.run reports).2 = reports ++ added ∧
    (Diagnostics.hasErrors added = false → P (m.run reports).1)

namespace Vouches

theorem pure {a : α} (h : P a) : Vouches (Pure.pure a) P where
  holds reports := ⟨[], (List.append_nil reports).symm, fun _ ↦ h⟩

theorem bind {m : Reported α} {f : α → Reported β} (h : Vouches m P)
    (h' : ∀ a, Vouches (f a) fun b ↦ P a → Q b) : Vouches (m >>= f) Q where
  holds reports := by
    obtain ⟨added, hadded, hclean⟩ := h.holds reports
    obtain ⟨more, hmore, hclean'⟩ := (h' (m.run reports).1).holds (m.run reports).2
    refine ⟨added ++ more, ?_, fun hall ↦ ?_⟩
    · rw [← List.append_assoc, ← hadded]
      exact hmore
    · obtain ⟨hfirst, hsecond⟩ := Diagnostics.hasErrors_append.mp hall
      exact hclean' hsecond (hclean hfirst)

/-- A meaning that is made of another. -/
theorem map {m : Reported α} {f : α → β} (h : Vouches m P) (h' : ∀ {a}, P a → Q (f a)) :
    Vouches (m >>= fun a ↦ Pure.pure (f a)) Q :=
  h.bind fun _ ↦ .pure h'

/-- Nothing is to be said of what comes with an error. -/
theorem report {diagnostic : Diagnostic} (herror : diagnostic.isError = true) {a : α} :
    Vouches (Meaning.report diagnostic >>= fun _ ↦ Pure.pure a) P where
  holds reports := by
    refine ⟨[diagnostic], rfl, fun hclean ↦ ?_⟩
    rw [Diagnostics.hasErrors, List.any_cons, herror] at hclean
    cases hclean

end Vouches

open PegKit.Expr (Legible Everywhere)

/-- An expression is everywhere as its outermost operator and its operands are. -/
theorem everywhere_intro {P : Expr → Prop} {expr : Expr} (hself : P expr)
    (hchildren : ∀ child ∈ expr.children, child.Everywhere P) : expr.Everywhere P := by
  intro part hpart
  rw [Expr.parts_eq] at hpart
  rcases List.mem_cons.mp hpart with rfl | hpart
  · exact hself
  · obtain ⟨child, hchild, hpart⟩ := List.mem_flatMap.mp hpart
    exact hchildren child hchild part hpart

theorem quantify_legible {names : List String} {inner : Expr} (mark : Option Kind)
    (h : inner.Everywhere (Legible names)) : (quantify mark inner).Everywhere (Legible names) := by
  unfold quantify
  split
  · exact everywhere_intro (Nat.le_refl 1) (List.forall_mem_singleton.mpr h)
  · exact everywhere_intro trivial (List.forall_mem_singleton.mpr h)
  · exact everywhere_intro (Nat.zero_le 1) (List.forall_mem_singleton.mpr h)

theorem string_vouches (tree : Cst) : Vouches (string tree) fun _ ↦ True := by
  unfold string
  split
  · exact .pure trivial
  · exact .report rfl

theorem charClass_legible {names : List String} {tree : Cst} (hsound : tree.Sound names)
    (hsome : tree.classToken?.isSome = true) :
    Vouches (charClass tree) (Everywhere (Legible names)) := by
  obtain ⟨token, htoken⟩ := Option.isSome_iff_exists.mp hsome
  unfold charClass
  rw [htoken]
  dsimp only
  split
  · next cls hclass =>
    have htext := CharClass.ofBrackets_describe hclass
    have hself : Legible names (.charClass cls) := by
      change IsClass cls.describe.toList ∧ CharClass.ofBrackets cls.describe = .ok cls
      rw [htext]
      exact ⟨hsound.isClass htoken, hclass⟩
    exact .pure (everywhere_intro hself (by rintro _ ⟨⟩))
  · exact .report rfl

mutual

/-- What a tree stands for can be written again, where nothing was reported on it. -/
theorem expr_legible {names : List String} : (tree : Cst) → tree.Sound names →
    tree.isExpression = true → Vouches (expr tree) (Everywhere (Legible names))
  | .leaf token, hsound, hexpression => by
    have hother := (hsound.formed token (List.mem_singleton_self _)).not_isExpression
    exact absurd (hexpression.symm.trans hother) (by decide)
  | .node kind children, hsound, hexpression => by
    have hself := hsound.entire _ List.mem_cons_self
    have hchildren : ∀ child ∈ children, child.Sound names := fun _ hchild ↦ hsound.child hchild
    cases kind <;> rw [expr]
    case choiceNode =>
      apply (exprs_legible children hchildren).map
      rintro alternatives ⟨hlegible, hlength⟩
      exact everywhere_intro (Nat.le_trans hself (Nat.le_of_eq hlength)) hlegible
    case seqNode =>
      apply (exprs_legible children hchildren).map
      rintro items ⟨hlegible, hlength⟩
      exact everywhere_intro (Nat.le_trans hself (Nat.le_of_eq hlength)) hlegible
    case quantifierNode =>
      exact (operand_legible children hchildren hself.2).map (quantify_legible _)
    case lookaheadNode =>
      apply (operand_legible children hchildren hself).map
      intro inner hinner
      split <;> exact everywhere_intro trivial (List.forall_mem_singleton.mpr hinner)
    case predicateNode =>
      obtain ⟨hook, hhook⟩ := Option.isSome_iff_exists.mp hself
      rw [hhook]
      exact .pure (everywhere_intro (hsound.hook hhook) (by rintro _ ⟨⟩))
    case labelNode =>
      obtain ⟨token, htoken⟩ := Option.isSome_iff_exists.mp hself.1
      apply (operand_legible children hchildren hself.2).map
      intro inner hinner
      rw [nameText, htoken]
      exact everywhere_intro (hsound.name htoken) (List.forall_mem_singleton.mpr hinner)
    case refNode =>
      obtain ⟨token, htoken⟩ := Option.isSome_iff_exists.mp hself
      have hdeclared : token.text ∈ names :=
        hsound.declared _ ⟨_, List.mem_cons_self, rfl, token, htoken, rfl⟩
      rw [nameText, htoken]
      exact .pure (everywhere_intro ⟨hsound.name htoken, hdeclared⟩ (by rintro _ ⟨⟩))
    case strNode =>
      exact (string_vouches _).map fun _ ↦ everywhere_intro trivial (by rintro _ ⟨⟩)
    case charClassNode => exact charClass_legible hsound hself
    case anyNode => exact .pure (everywhere_intro trivial (by rintro _ ⟨⟩))
    case groupNode => exact operand_legible children hchildren hself
    all_goals cases hexpression

theorem exprs_legible {names : List String} : (trees : List Cst) →
    (∀ tree ∈ trees, tree.Sound names) → Vouches (exprs trees) fun items ↦
      (∀ item ∈ items, item.Everywhere (Legible names)) ∧
        (trees.filter Cst.isExpression).length = items.length
  | [], _ => .pure ⟨by rintro _ ⟨⟩, rfl⟩
  | tree :: rest, hsound => by
    obtain ⟨hfirst, hrest⟩ := List.forall_mem_cons.mp hsound
    rw [exprs]
    split
    · next hexpression =>
      apply (expr_legible tree hfirst hexpression).bind
      intro first
      apply (exprs_legible rest hrest).map
      rintro items ⟨hlegible, hlength⟩ hitem
      rw [List.filter_cons_of_pos hexpression, List.length_cons, hlength]
      exact ⟨List.forall_mem_cons.mpr ⟨hitem, hlegible⟩, rfl⟩
    · next hother =>
      rw [List.filter_cons_of_neg hother]
      exact exprs_legible rest hrest

theorem operand_legible {names : List String} : (trees : List Cst) →
    (∀ tree ∈ trees, tree.Sound names) → (trees.find? Cst.isExpression).isSome = true →
    Vouches (operand trees) (Everywhere (Legible names))
  | [], _, hsome => by cases hsome
  | tree :: rest, hsound, hsome => by
    obtain ⟨hfirst, hrest⟩ := List.forall_mem_cons.mp hsound
    rw [operand]
    split
    · next hexpression => exact expr_legible tree hfirst hexpression
    · next hother =>
      rw [List.find?_cons_of_neg hother] at hsome
      exact operand_legible rest hrest hsome

end

theorem rules_legible {names : List String} {table : RuleTable}
    (h : ∀ entry ∈ table, entry.2.Sound names ∧ entry.2.expression?.isSome = true) :
    Vouches (rules table) fun found ↦ ∀ rule ∈ found, rule.body.Everywhere (Legible names) := by
  induction table with
  | nil => exact .pure (by rintro _ ⟨⟩)
  | cons entry rest ih =>
    obtain ⟨⟨hsound, hsome⟩, hrest⟩ := List.forall_mem_cons.mp h
    apply (operand_legible entry.2.children (fun _ hchild ↦ hsound.child hchild) hsome).bind
    intro body
    apply (ih hrest).map
    intro found hfound hbody
    exact List.forall_mem_cons.mpr ⟨hbody, hfound⟩

end Meaning

namespace Grammar

open PegKit.Expr (Legible Everywhere)

/-- A grammar that can be written as a text. -/
structure Writable (grammar : Grammar) : Prop where
  segments : ∃ first others, grammar.name = "::".intercalate (first :: others) ∧
    ∀ segment ∈ first :: others, IsName segment.toList
  distinct : grammar.ruleNames.Nodup
  names : ∀ rule ∈ grammar.rules, IsName rule.name.toList
  bodies : ∀ rule ∈ grammar.rules, rule.body.Everywhere (Legible grammar.ruleNames)

end Grammar

namespace Cst

/-- The rules in a sound tree have names and bodies. -/
theorem Sound.rule {names : List String} {grammar rule : Cst} (h : grammar.Sound names)
    (hrule : rule ∈ grammar.rules) :
    rule.Sound names ∧ rule.name?.isSome = true ∧ rule.expression?.isSome = true := by
  obtain ⟨hmem, hkind⟩ := List.mem_filter.mp hrule
  have hsound := h.child hmem
  cases rule with
  | leaf => cases hkind
  | node kind children =>
    have hself := hsound.entire _ List.mem_cons_self
    rw [Complete, show (node kind children).kind = .ruleNode from beq_iff_eq.mp hkind] at hself
    exact ⟨hsound, hself⟩

theorem Sound.ruleName {names : List String} {entry : String × Cst} {rule : Rule}
    (h : entry.2.Sound names) (hentered : Entered entry rule) : IsName rule.name.toList := by
  obtain ⟨token, htoken, htext⟩ := hentered.declares.name
  rw [← htext]
  exact h.name htoken

theorem Sound.segments {names : List String} {name : Cst} (h : name.Sound names) :
    ∀ segment ∈ name.nameSegments, IsName segment.toList := by
  intro segment hsegment
  obtain ⟨token, htoken, rfl⟩ := List.mem_map.mp hsegment
  obtain ⟨child, hchild, hfound⟩ := List.mem_filterMap.mp htoken
  cases child with
  | node => cases hfound
  | leaf other =>
    obtain ⟨hkind, hsame⟩ := Option.ite_none_right_eq_some.mp hfound
    cases hsame
    have hformed := h.formed token (tokens_subset hchild (List.mem_singleton_self _))
    rwa [hkind] at hformed

theorem Sound.segments_ne_nil {names : List String} {grammar name : Cst} (h : grammar.Sound names)
    (hname : grammar.grammarName? = some name) : name.nameSegments ≠ [] := by
  have hkind := List.find?_some hname
  have hsound := h.child (List.mem_of_find?_eq_some hname)
  cases name with
  | leaf => cases hkind
  | node kind children =>
    have hself := hsound.entire _ List.mem_cons_self
    rwa [Complete, show (node kind children).kind = .grammarNameNode from beq_iff_eq.mp hkind]
      at hself

end Cst

namespace Compilation

/-- The tree of an accepted text is sound for the names of the rules. -/
theorem root_sound {limits : Cst.Limits} {source : String} {parsed : Cst.Parsed} {tree : Cst}
    (hparse : Cst.parse source limits = .ok parsed) (hclean : parsed.diagnostics.hasErrors = false)
    (hanalysis : (Analysis.ofRoot parsed.root).diagnostics.hasErrors = false)
    (hgrammar : parsed.root.grammar? = some tree) :
    parsed.root.Sound (Analysis.ofRoot parsed.root).grammar.ruleNames where
  entire := Cst.parse_entire hparse hclean
  formed token htoken := Token.lex_formed _ token (Cst.parse_tokens hparse ▸ htoken)
  declared name hname := by
    have hlisted := (Meaning.rules_of_table (RuleTable.ofRoot parsed.root).1 []).1
    change (Analysis.ofRoot parsed.root).grammar.ruleNames = _ at hlisted
    rw [hlisted]
    exact RuleTable.declares_of_refersTo hgrammar (Analysis.ofRoot_clean hanalysis).1 hname

/-- Accepted grammars can be written again. -/
theorem compileWithin_writable {limits : Cst.Limits} {source : String} {grammar : Grammar}
    (h : compileWithin limits source = .ok grammar) : grammar.Writable := by
  obtain ⟨parsed, hparse, hclean, hanalysis, rfl⟩ := compileWithin_eq_ok h
  obtain ⟨contents, tree, children, hgives, hchildren, hroot, hgrammar⟩ :=
    Cst.parse_grammar hparse hclean
  have hsound := root_sound hparse hclean hanalysis hgrammar
  have htree := hsound.child (List.mem_of_find?_eq_some hgrammar)
  have htable := RuleTable.ofRoot_of hgrammar
  obtain ⟨hname, hrules, _⟩ := Cst.analysis_of_gives hgives hchildren
  have hentered := Cst.ofRoot_entered hgives hchildren
  rw [← hrules] at hentered
  rw [← hroot] at hname hentered
  constructor
  · obtain ⟨name, hfound, hsegments⟩ := hgives.name
    have hall := (htree.child (List.mem_of_find?_eq_some hfound)).segments
    have hsome := htree.segments_ne_nil hfound
    rw [hsegments] at hall hsome
    obtain ⟨first, others, hcontents⟩ := List.exists_cons_of_ne_nil hsome
    rw [hcontents] at hname hall
    exact ⟨first, others, hname, hall⟩
  · exact (Analysis.distinctGrammar parsed.root).distinct
  · have hrules := fun entry hentry ↦ htree.rule (htable.trees entry hentry)
    have hnamed := ((List.forall₂_and_left _ _).mpr ⟨hrules, hentered⟩).imp fun entry rule h ↦
      (⟨h.1.1.ruleName h.2, h.2⟩ : IsName rule.name.toList ∧ flip Cst.Entered rule entry)
    exact ((List.forall₂_and_left _ _).mp hnamed.flip).1
  · have hbodies := Meaning.rules_legible fun entry hentry ↦
      (htree.rule (htable.trees entry hentry)).imp_right And.right
    obtain ⟨added, hadded, hlegible⟩ := hbodies.holds []
    apply hlegible
    rw [List.nil_append] at hadded
    rw [← hadded]
    exact (Analysis.ofRoot_clean hanalysis).2.2

end Compilation

end PegKit
