import Mathlib.Data.List.Induction
import Mathlib.Data.List.Nodup
import PegKit.Analysis

/-!
# Repeated names

Rules and labels are checked for repetition in one way: names are kept with the places of their
first uses, and a name that was kept before is reported. So there is one report on each name that was
used before, it points at the first use, and there is none exactly when no name is used twice.
-/

namespace PegKit

/-- What `select` gives for each item together with the items before it. -/
def eachAfter {α β : Type} (select : List α → α → Option β) (items : List α) : List β :=
  items.zipIdx.filterMap fun (item, i) ↦ select (items.take i) item

theorem eachAfter_concat {α β : Type} (select : List α → α → Option β) (items : List α)
    (item : α) :
    eachAfter select (items ++ [item]) = eachAfter select items ++ (select items item).toList := by
  have hbefore : ∀ entry ∈ items.zipIdx,
      select ((items ++ [item]).take entry.2) entry.1 = select (items.take entry.2) entry.1 := by
    intro entry hentry
    have hlt := (List.mem_zipIdx' hentry).1
    rw [List.take_append_of_le_length (Nat.le_of_lt hlt)]
  calc
    eachAfter select (items ++ [item])
    _ = items.zipIdx.filterMap (fun entry ↦ select ((items ++ [item]).take entry.2) entry.1) ++
        [(item, items.length)].filterMap
          (fun entry ↦ select ((items ++ [item]).take entry.2) entry.1) := by
      rw [eachAfter, List.zipIdx_append, List.filterMap_append]
      simp
    _ = eachAfter select items ++ (select items item).toList := by
      rw [List.filterMap_congr hbefore, eachAfter]
      cases hselect : select items item <;> simp [hselect]

namespace Analysis

/-- The report on a name that was first used in another place. -/
def repeatedName (kind : DiagnosticKind) (note : String) (name first : Token) : Diagnostic :=
  (Diagnostic.detailed kind name.span name.text).relatedTo note first.span

/-- One report on each name that stands among the names before it. -/
def repeated (kind : DiagnosticKind) (note : String) : List Token → Diagnostics :=
  eachAfter fun before name ↦
    (before.find? (·.text == name.text)).map (repeatedName kind note name)

variable {kind : DiagnosticKind} {note : String} {names : List Token} {name : Token}

theorem repeated_concat : repeated kind note (names ++ [name]) = repeated kind note names ++
    ((names.find? (·.text == name.text)).map (repeatedName kind note name)).toList :=
  eachAfter_concat _ names name

theorem find?_concat (text : String) : (names ++ [name]).find? (·.text == text) =
    (names.find? (·.text == text)).or (if name.text = text then some name else none) := by
  rw [List.find?_append]
  by_cases hsame : name.text = text <;> simp [hsame]

/-- A name that is used again changes no first use. -/
theorem find?_concat_of_some {first : Token}
    (h : names.find? (·.text == name.text) = some first) (text : String) :
    (names ++ [name]).find? (·.text == text) = names.find? (·.text == text) := by
  rw [find?_concat]
  split
  · next hsame =>
    rw [← hsame, h]
    rfl
  · exact Option.or_none

theorem kind_of_mem_repeated {report : Diagnostic} (h : report ∈ repeated kind note names) :
    report.kind = kind := by
  obtain ⟨entry, _, hentry⟩ := List.mem_filterMap.mp h
  obtain ⟨first, _, rfl⟩ := Option.map_eq_some_iff.mp hentry
  rfl

/-- Nothing is reported exactly when no name is used twice. -/
theorem repeated_eq_nil_iff : repeated kind note names = [] ↔ (names.map (·.text)).Nodup := by
  induction names using List.reverseRecOn with
  | nil => simp [repeated, eachAfter]
  | append_singleton names name ih =>
    have hnew : names.find? (·.text == name.text) = none ↔ name.text ∉ names.map (·.text) := by
      simp
    rw [repeated_concat, List.append_eq_nil_iff, ih, List.map_append, List.map_singleton,
      List.nodup_append_comm, List.singleton_append, List.nodup_cons, ← hnew, and_comm]
    cases names.find? (·.text == name.text) <;> simp

end Analysis

namespace Cst

def labelName? (item : Cst) : Option Token :=
  if item.kind = .labelNode then item.name? else none

/-- The labels of the items of a sequence that are written without parentheses. -/
def labelNames (sequence : Cst) : List Token := sequence.expressions.filterMap labelName?

def isNamed (text : String) (tree : Cst) : Bool := tree.name?.any (·.text == text)

/-- The rules whose names no rule before them has. -/
def firstDefinitions : List Cst → List Cst :=
  eachAfter fun before rule ↦
    rule.name?.bind fun name ↦ if before.any (isNamed name.text) then none else some rule

theorem find?_isNamed (trees : List Cst) (text : String) :
    (trees.filterMap name?).find? (·.text == text) =
      (trees.find? (isNamed text)).bind name? := by
  induction trees with
  | nil => rfl
  | cons tree rest ih =>
    cases hname : tree.name? with
    | none => simp [isNamed, hname, ih]
    | some name =>
      by_cases hsame : name.text = text <;> simp [isNamed, hname, hsame, ih]

end Cst

open Analysis (repeated repeatedName repeated_concat find?_concat find?_concat_of_some)

/-! ## Labels -/

namespace Labels

open Cst (labelName? labelNames)

/-- What is kept of some labels: where each was used first, and the reports. -/
structure Enters (found : List (String × Text.Span) × Diagnostics) (names : List Token) : Prop where
  kept : ∀ text, found.1.lookup text = (names.find? (·.text == text)).map Token.span
  reports : found.2 = repeated .duplicateLabel "first used here" names

theorem Enters.enter {found : List (String × Text.Span) × Diagnostics} {names : List Token}
    (h : Enters found names) (item : Cst) :
    Enters (Labels.enter found item) (names ++ item.labelName?.toList) := by
  obtain ⟨kept, reports⟩ := found
  obtain ⟨hkept, rfl⟩ := h
  unfold Labels.enter labelName?
  split
  · rw [Option.toList_none, List.append_nil]
    exact ⟨hkept, rfl⟩
  next hlabel =>
  rw [if_pos (not_not.mp hlabel)]
  cases item.name? with
  | none =>
    rw [Option.toList_none, List.append_nil]
    exact ⟨hkept, rfl⟩
  | some name =>
    rw [Option.toList_some]
    have hlookup := hkept name.text
    cases hfirst : names.find? (·.text == name.text) with
    | some first =>
      rw [hfirst] at hlookup
      simp only [hlookup, Option.map_some]
      refine ⟨fun text ↦ ?_, ?_⟩
      · rw [find?_concat_of_some hfirst]
        exact hkept text
      · rw [repeated_concat, hfirst]
        rfl
    | none =>
      rw [hfirst] at hlookup
      simp only [hlookup, Option.map_none]
      refine ⟨fun text ↦ ?_, ?_⟩
      · rw [List.lookup_append, hkept text, find?_concat]
        by_cases hsame : name.text = text
        · cases names.find? (·.text == text) <;> simp [hsame]
        · have hother : (text == name.text) = false := beq_false_of_ne (Ne.symm hsame)
          cases names.find? (·.text == text) <;> simp [hsame, hother, List.lookup_cons]
      · rw [repeated_concat, hfirst]
        exact (List.append_nil _).symm

theorem foldl_enter (items : List Cst) :
    Enters (items.foldl Labels.enter ([], [])) (items.filterMap labelName?) := by
  induction items using List.reverseRecOn with
  | nil => exact ⟨fun _ ↦ rfl, rfl⟩
  | append_singleton items item ih =>
    have hnames : (items ++ [item]).filterMap labelName? =
        items.filterMap labelName? ++ item.labelName?.toList := by
      rw [List.filterMap_append]
      cases hlabel : item.labelName? <;> simp [hlabel]
    rw [List.foldl_append, hnames]
    exact ih.enter item

/-- One report on each label that an item before it has. -/
theorem checkSequence_eq (sequence : Cst) :
    checkSequence sequence = repeated .duplicateLabel "first used here" sequence.labelNames :=
  (foldl_enter sequence.expressions).reports

end Labels

/-! ## Rules -/

namespace RuleTable

open Cst (isNamed firstDefinitions find?_isNamed)

/-- What is kept of some rules: of each name the first rule, and the reports. -/
structure Enters (found : RuleTable × Diagnostics) (rules : List Cst) : Prop where
  kept : ∀ text, found.1.lookup text = rules.find? (isNamed text)
  listed : found.1.map Prod.snd = firstDefinitions rules
  reports : found.2 = repeated .duplicateRule "first defined here" (rules.filterMap Cst.name?)

theorem nameSpan_eq {rule : Cst} {name : Token} (h : rule.name? = some name) :
    nameSpan rule = name.span := by
  rw [nameSpan, h]
  rfl

theorem isNamed_eq {rule : Cst} {name : Token} (h : rule.name? = some name) (text : String) :
    rule.isNamed text = decide (name.text = text) := by
  rw [isNamed, h, Option.any_some]
  rfl

section Declaring

variable {found : RuleTable × Diagnostics} {rules : List Cst} {rule : Cst} {name : Token}

theorem Enters.unnamed (h : Enters found rules) (hname : rule.name? = none) :
    Enters found (rules ++ [rule]) where
  kept := by
    intro text
    rw [List.find?_append, h.kept text]
    simp [isNamed, hname]
  listed := by
    rw [firstDefinitions, eachAfter_concat, hname, ← firstDefinitions, ← h.listed]
    exact (List.append_nil _).symm
  reports := by
    rw [h.reports]
    simp [hname]

theorem filterMap_name?_concat (hname : rule.name? = some name) :
    (rules ++ [rule]).filterMap Cst.name? = rules.filterMap Cst.name? ++ [name] := by
  simp [hname]

/-- A rule whose name a rule before it has. -/
theorem Enters.again (h : Enters found rules) (hname : rule.name? = some name) {first : Cst}
    (hfirst : found.1.lookup name.text = some first) :
    Enters (found.1, found.2 ++ [(Diagnostic.detailed .duplicateRule name.span name.text).relatedTo
      "first defined here" (nameSpan first)]) (rules ++ [rule]) := by
  rw [h.kept] at hfirst
  have hnamed := List.find?_some hfirst
  have htaken : rules.any (isNamed name.text) = true :=
    List.any_eq_true.mpr ⟨first, List.mem_of_find?_eq_some hfirst, hnamed⟩
  obtain ⟨token, htoken⟩ : ∃ token, first.name? = some token := by
    cases htoken : first.name? with
    | none => simp [isNamed, htoken] at hnamed
    | some token => exact ⟨token, rfl⟩
  have hfound := find?_isNamed rules name.text
  rw [hfirst, Option.bind_some, htoken] at hfound
  constructor
  · intro text
    rw [List.find?_append, h.kept text]
    by_cases hsame : name.text = text
    · rw [← hsame, hfirst]
      rfl
    · simp [isNamed_eq hname, hsame]
  · rw [firstDefinitions, eachAfter_concat, hname, ← firstDefinitions, ← h.listed,
      Option.bind_some, if_pos htaken]
    exact (List.append_nil _).symm
  · rw [filterMap_name?_concat hname, repeated_concat, hfound, nameSpan_eq htoken, h.reports]
    rfl

/-- A rule with a new name. -/
theorem Enters.fresh (h : Enters found rules) (hname : rule.name? = some name)
    (hfirst : found.1.lookup name.text = none) :
    Enters (found.1 ++ [(name.text, rule)], found.2) (rules ++ [rule]) := by
  rw [h.kept] at hfirst
  have hnew : rules.any (isNamed name.text) = false := by
    rw [List.any_eq_false]
    exact List.find?_eq_none.mp hfirst
  have hfound := find?_isNamed rules name.text
  rw [hfirst, Option.bind_none] at hfound
  constructor
  · intro text
    rw [List.lookup_append, h.kept text, List.find?_append]
    by_cases hsame : name.text = text
    · simp [isNamed_eq hname, hsame]
    · have hother : (text == name.text) = false := beq_false_of_ne (Ne.symm hsame)
      simp [isNamed_eq hname, hsame, hother, List.lookup_cons]
  · rw [firstDefinitions, eachAfter_concat, hname, ← firstDefinitions, List.map_append, h.listed,
      Option.bind_some, hnew]
    rfl
  · rw [filterMap_name?_concat hname, repeated_concat, hfound, h.reports]
    exact (List.append_nil _).symm

theorem Enters.declare (h : Enters found rules) (rule : Cst) :
    Enters (RuleTable.declare found rule) (rules ++ [rule]) := by
  unfold RuleTable.declare
  cases hname : rule.name? with
  | none => exact h.unnamed hname
  | some name =>
    dsimp only
    cases hfirst : found.1.lookup name.text with
    | some first => exact h.again hname hfirst
    | none => exact h.fresh hname hfirst

end Declaring

/-- The table of the rules of a grammar, with one report on each rule whose name a rule before it
has. -/
theorem foldl_declare (rules : List Cst) :
    Enters (rules.foldl RuleTable.declare ([], [])) rules := by
  induction rules using List.reverseRecOn with
  | nil => exact ⟨fun _ ↦ rfl, rfl, rfl⟩
  | append_singleton rules rule ih =>
    rw [List.foldl_append]
    exact ih.declare rule

end RuleTable

end PegKit
