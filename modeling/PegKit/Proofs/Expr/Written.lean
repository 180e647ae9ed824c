import PegKit.CharClass.Bracket
import PegKit.Expr.Display
import PegKit.Proofs.Token.Writing
import PegKit.Unicode.Blank

/-!
# Written expressions

The tokens that an expression in grammar form is made of, and that its characters read as just
these: text in quotes, classes, hooks and names end where they should, and what is written together
stays together.
-/

namespace PegKit

open Token (Spelled Opens IsName IsClass IsBlock Closes depthAfter? firstKind quotedWords
  isIdentifierPart)

namespace Terminal

/-- Quoted text is closed by its last quote only. -/
theorem quoteChars_closes (text : List Char) :
    Closes '\'' (text.flatMap quoteChar ++ ['\'']) := by
  induction text with
  | nil => exact .done
  | cons c cs ih =>
    rw [List.flatMap_cons, List.append_assoc]
    unfold quoteChar
    split
    · next hescape =>
      apply Closes.escaped (by decide) _ ih
      rintro rfl
      simp at hescape
    next hescape =>
    simp only [Bool.or_eq_true, decide_eq_true_eq, not_or] at hescape
    split
    · exact .escaped (by decide) (by decide) ih
    next hline =>
    split
    · exact .escaped (by decide) (by decide) ih
    split
    · exact .escaped (by decide) (by decide) ih
    split
    · exact .escaped (by decide) (by decide) ih
    · exact .plain hescape.1 hline hescape.2 ih

/-- Quoted text stands for the text. -/
theorem unescapeFrom_quoteChars (offset : Nat) (cs : List Char) :
    unescapeFrom offset (cs.flatMap quoteChar) = .ok cs := by
  induction cs generalizing offset with
  | nil =>
    rw [List.flatMap_nil, unescapeFrom]
  | cons c cs ih =>
    have hescape {e value : Char} (hu : e ≠ 'u') (he : escapedChar? e = some value) :
        unescapeFrom offset ('\\' :: e :: cs.flatMap quoteChar) = .ok (value :: cs) := by
      rw [unescapeFrom, if_neg (by simp)]
      simp only [if_neg hu, he, ih]
      rfl
    rw [List.flatMap_cons]
    generalize cs.flatMap quoteChar = tail at ih hescape ⊢
    unfold quoteChar
    split
    · next hself =>
      apply hescape
      · rintro rfl
        simp at hself
      · simp only [Bool.or_eq_true, decide_eq_true_eq] at hself
        rcases hself with rfl | rfl <;> rfl
    next hself =>
    simp only [Bool.or_eq_true, decide_eq_true_eq, not_or] at hself
    split
    · next hline =>
      rw [hline]
      exact hescape (by decide) rfl
    split
    · next htab =>
      rw [htab]
      exact hescape (by decide) rfl
    split
    · next hreturn =>
      rw [hreturn]
      exact hescape (by decide) rfl
    split
    · next hnull =>
      rw [hnull]
      exact hescape (by decide) rfl
    · rw [List.singleton_append, unescapeFrom.eq_def]
      simp only [if_pos (show c ≠ '\\' from hself.2), ih]
      rfl
end Terminal

namespace Expr

/-! ## Parts -/

mutual

def parts : Expr → List Expr
  | .sequence items => .sequence items :: partsOfList items
  | .choice alternatives => .choice alternatives :: partsOfList alternatives
  | .repetition inner least => .repetition inner least :: inner.parts
  | .optional inner => .optional inner :: inner.parts
  | .lookahead inner => .lookahead inner :: inner.parts
  | .negativeLookahead inner => .negativeLookahead inner :: inner.parts
  | .label name inner => .label name inner :: inner.parts
  | .terminal text => [.terminal text]
  | .charClass cls => [.charClass cls]
  | .anyChar => [.anyChar]
  | .predicate hook negated => [.predicate hook negated]
  | .ruleRef name => [.ruleRef name]

def partsOfList : List Expr → List Expr
  | [] => []
  | expr :: rest => expr.parts ++ partsOfList rest

end

/-- The property holds of the expression and of all expressions inside it. -/
def Everywhere (P : Expr → Prop) (expr : Expr) : Prop := ∀ part ∈ expr.parts, P part

/-- The expressions that an operator applies to. -/
def children : Expr → List Expr
  | .sequence items => items
  | .choice alternatives => alternatives
  | .repetition inner _ => [inner]
  | .optional inner => [inner]
  | .lookahead inner => [inner]
  | .negativeLookahead inner => [inner]
  | .label _ inner => [inner]
  | _ => []

theorem partsOfList_eq_flatMap (exprs : List Expr) : partsOfList exprs = exprs.flatMap parts := by
  induction exprs with
  | nil => rfl
  | cons expr rest ih => rw [partsOfList, ih, List.flatMap_cons]

theorem parts_eq (expr : Expr) : expr.parts = expr :: expr.children.flatMap parts := by
  cases expr <;> simp [parts, children, partsOfList_eq_flatMap]

section Everywhere

variable {P : Expr → Prop} {expr inner : Expr}

theorem Everywhere.self (h : expr.Everywhere P) : P expr :=
  h expr (parts_eq expr ▸ List.mem_cons_self)

theorem Everywhere.child (h : expr.Everywhere P) (hinner : inner ∈ expr.children) :
    inner.Everywhere P := by
  intro part hpart
  apply h
  rw [parts_eq]
  exact List.mem_cons_of_mem _ (List.mem_flatMap.mpr ⟨inner, hinner, hpart⟩)

end Everywhere

/-- The name of a label, and nothing of any other expression. -/
def label? : Expr → Option String
  | .label name _ => some name
  | _ => none

/-- What an expression that was read is like at its outermost operator, where `names` are those of
the declared rules: what it is written with can be written again. -/
def Legible (names : List String) : Expr → Prop
  | .charClass cls => IsClass cls.describe.toList ∧ CharClass.ofBrackets cls.describe = .ok cls
  | .sequence items => 2 ≤ items.length
  | .choice alternatives => 2 ≤ alternatives.length
  | .repetition _ least => least ≤ 1
  | .predicate hook _ =>
    depthAfter? 0 hook.toList = some 0 ∧ Unicode.trimBlanks hook.toList = hook.toList
  | .label name _ => IsName name.toList
  | .ruleRef name => IsName name.toList ∧ name ∈ names
  | _ => True

/-- At its outermost operator the expression is read as it is written: no mark stands right after a
predicate, and no label stands twice in a sequence. -/
def Restorable : Expr → Prop
  | .repetition inner _ => ∀ hook negated, inner ≠ .predicate hook negated
  | .optional inner => ∀ hook negated, inner ≠ .predicate hook negated
  | .sequence items => (items.filterMap label?).Nodup
  | _ => True

/-! ## Strengths -/

/-- The strength at which an expression is read. A predicate is written as an operand, but read as a
lookahead is. -/
def readStrength : Expr → Nat
  | .predicate _ _ => 2
  | expr => expr.strength

theorem readStrength_eq {expr : Expr} (h : ∀ hook negated, expr ≠ .predicate hook negated) :
    expr.readStrength = expr.strength := by
  cases expr <;> first | rfl | exact absurd rfl (h _ _)

/-- An expression is no predicate if and only if it is read as strong as it is written. -/
theorem readStrength_eq_iff (expr : Expr) :
    expr.readStrength = expr.strength ↔ ∀ hook negated, expr ≠ .predicate hook negated := by
  refine ⟨?_, readStrength_eq⟩
  rintro h _ _ rfl
  cases h

instance : DecidablePred Restorable
  | .repetition inner _ => decidable_of_iff _ inner.readStrength_eq_iff
  | .optional inner => decidable_of_iff _ inner.readStrength_eq_iff
  | .sequence items => inferInstanceAs (Decidable (items.filterMap label?).Nodup)
  | .choice _ => .isTrue trivial
  | .lookahead _ => .isTrue trivial
  | .negativeLookahead _ => .isTrue trivial
  | .label _ _ => .isTrue trivial
  | .terminal _ => .isTrue trivial
  | .charClass _ => .isTrue trivial
  | .anyChar => .isTrue trivial
  | .predicate _ _ => .isTrue trivial
  | .ruleRef _ => .isTrue trivial

instance {P : Expr → Prop} [DecidablePred P] (expr : Expr) : Decidable (expr.Everywhere P) :=
  inferInstanceAs (Decidable (∀ part ∈ expr.parts, P part))

theorem le_readStrength {needed : Nat} (hneeded : needed ≤ 2) {expr : Expr}
    (h : needed ≤ expr.strength) : needed ≤ expr.readStrength := by
  cases expr <;> first | exact h | exact hneeded

theorem strengthOfList_eq {several : Nat} {exprs : List Expr} (h : 2 ≤ exprs.length) :
    strengthOfList several exprs = several := by
  match exprs with
  | _ :: _ :: _ => rw [strengthOfList]

theorem readStrength_sequence {items : List Expr} (h : 2 ≤ items.length) :
    (sequence items).readStrength = 1 := by
  rw [readStrength, strength, strengthOfList_eq h]
  rintro _ _ ⟨⟩

theorem readStrength_choice {alternatives : List Expr} (h : 2 ≤ alternatives.length) :
    (choice alternatives).readStrength = 0 := by
  rw [readStrength, strength, strengthOfList_eq h]
  rintro _ _ ⟨⟩

theorem readStrength_le_four {names : List String} {expr : Expr} (h : expr.Legible names) :
    expr.readStrength ≤ 4 := by
  cases expr with
  | sequence items =>
    rw [readStrength_sequence h]
    decide
  | choice alternatives =>
    rw [readStrength_choice h]
    decide
  | _ => simp [readStrength, strength]

theorem ne_nil_of_two_le {items : List Expr} (h : 2 ≤ items.length) : items ≠ [] := by
  rintro rfl
  cases h

theorem not_isEmpty_of_two_le {items : List Expr} (h : 2 ≤ items.length) :
    ¬items.isEmpty = true :=
  fun hempty ↦ ne_nil_of_two_le h (List.isEmpty_iff.mp hempty)

/-! ## Words -/

/-- `words` in parentheses when `strength` is less than `needed`. -/
def encloseWords (needed strength : Nat) (words : List (Kind × String)) : List (Kind × String) :=
  if strength < needed then (.parenOpen, "(") :: words ++ [(.parenClose, ")")] else words

mutual

/-- The tokens of an expression in grammar form. -/
def words : Expr → List (Kind × String)
  | .terminal text => quotedWords (text.toList.flatMap Terminal.quoteChar)
  | .charClass cls => [(.charClass, cls.describe)]
  | .anyChar => [(.dot, ".")]
  | .sequence items => wordsJoined [] 2 items
  | .choice alternatives => wordsJoined [(.slash, "/")] 1 alternatives
  | .repetition inner least =>
    encloseWords 4 inner.strength inner.words ++
      [if least = 0 then (.star, "*") else (.plus, "+")]
  | .optional inner => encloseWords 4 inner.strength inner.words ++ [(.question, "?")]
  | .lookahead inner => (.amp, "&") :: encloseWords 2 inner.strength inner.words
  | .negativeLookahead inner => (.bang, "!") :: encloseWords 2 inner.strength inner.words
  | .predicate hook negated =>
    [if negated then (.bang, "!") else (.amp, "&"),
      (.block, String.ofList ('{' :: ' ' :: hook.toList ++ [' ', '}']))]
  | .label name inner =>
    (.identifier, name) :: (.colon, ":") :: encloseWords 2 inner.strength inner.words
  | .ruleRef name => [(.identifier, name)]

/-- Members of strength `needed` at least, with `separator` between them. -/
def wordsJoined (separator : List (Kind × String)) (needed : Nat) :
    List Expr → List (Kind × String)
  | [] => []
  | [only] => encloseWords needed only.strength only.words
  | expr :: next :: rest =>
    encloseWords needed expr.strength expr.words ++ separator ++
      wordsJoined separator needed (next :: rest)

end

/-- One level more in parentheses, which stand where `strength` is less than `needed`. -/
def encloseDepth (needed strength depth : Nat) : Nat :=
  if strength < needed then depth + 1 else depth

mutual

/-- How deep expressions in parentheses and after prefixes stand in each other when an expression is
in grammar form. -/
def depth : Expr → Nat
  | .sequence items => depthJoined 2 items
  | .choice alternatives => depthJoined 1 alternatives
  | .repetition inner _ => encloseDepth 4 inner.strength inner.depth
  | .optional inner => encloseDepth 4 inner.strength inner.depth
  | .lookahead inner => encloseDepth 2 inner.strength inner.depth + 1
  | .negativeLookahead inner => encloseDepth 2 inner.strength inner.depth + 1
  | .label _ inner => encloseDepth 2 inner.strength inner.depth + 1
  | _ => 1

/-- The deepest of the members, each of strength `needed` at least. -/
def depthJoined (needed : Nat) : List Expr → Nat
  | [] => 1
  | expr :: rest => max (encloseDepth needed expr.strength expr.depth) (depthJoined needed rest)

end

theorem le_encloseDepth (needed strength depth : Nat) :
    depth ≤ encloseDepth needed strength depth := by
  unfold encloseDepth
  split
  · exact Nat.le_succ depth
  · exact Nat.le_refl depth

theorem depthJoined_pos (needed : Nat) (exprs : List Expr) : 0 < depthJoined needed exprs := by
  induction exprs with
  | nil => exact Nat.one_pos
  | cons expr rest ih => exact ih.trans_le (Nat.le_max_right _ _)

theorem depth_pos : (expr : Expr) → 0 < expr.depth
  | .sequence items => depthJoined_pos 2 items
  | .choice alternatives => depthJoined_pos 1 alternatives
  | .repetition inner _ => (depth_pos inner).trans_le (le_encloseDepth _ _ _)
  | .optional inner => (depth_pos inner).trans_le (le_encloseDepth _ _ _)
  | .lookahead _ => Nat.succ_pos _
  | .negativeLookahead _ => Nat.succ_pos _
  | .label _ _ => Nat.succ_pos _
  | .terminal _ => Nat.one_pos
  | .charClass _ => Nat.one_pos
  | .anyChar => Nat.one_pos
  | .predicate _ _ => Nat.one_pos
  | .ruleRef _ => Nat.one_pos

theorem encloseDepth_le {words : List (Kind × String)} {depth : Nat} (h : depth ≤ words.length)
    (needed strength : Nat) :
    encloseDepth needed strength depth ≤ (encloseWords needed strength words).length := by
  unfold encloseDepth encloseWords
  split
  · simp only [List.length_append, List.length_cons, List.length_nil]
    omega
  · exact h

mutual

/-- No expression in grammar form is deeper than it has tokens. -/
theorem depth_le_words {names : List String} : (expr : Expr) → expr.Everywhere (Legible names) →
    expr.depth ≤ expr.words.length
  | .sequence items, h => by
    rw [depth, words]
    exact depthJoined_le _ _ items (ne_nil_of_two_le h.self) fun item hitem ↦ h.child hitem
  | .choice alternatives, h => by
    rw [depth, words]
    exact depthJoined_le _ _ alternatives (ne_nil_of_two_le h.self) fun item hitem ↦ h.child hitem
  | .repetition inner _, h => by
    have hinner := depth_le_words inner (h.child (List.mem_singleton_self _))
    rw [depth, words, List.length_append]
    exact (encloseDepth_le hinner _ _).trans (Nat.le_add_right _ _)
  | .optional inner, h => by
    have hinner := depth_le_words inner (h.child (List.mem_singleton_self _))
    rw [depth, words, List.length_append]
    exact (encloseDepth_le hinner _ _).trans (Nat.le_add_right _ _)
  | .lookahead inner, h => by
    have hinner := depth_le_words inner (h.child (List.mem_singleton_self _))
    exact Nat.succ_le_succ (encloseDepth_le hinner _ _)
  | .negativeLookahead inner, h => by
    have hinner := depth_le_words inner (h.child (List.mem_singleton_self _))
    exact Nat.succ_le_succ (encloseDepth_le hinner _ _)
  | .label _ inner, h => by
    have hinner := depth_le_words inner (h.child (List.mem_singleton_self _))
    exact (Nat.succ_le_succ (encloseDepth_le hinner _ _)).trans (Nat.le_succ _)
  | .terminal _, _ => Nat.succ_pos _
  | .charClass _, _ => Nat.le_refl 1
  | .anyChar, _ => Nat.le_refl 1
  | .predicate _ _, _ => Nat.le_succ 1
  | .ruleRef _, _ => Nat.le_refl 1

theorem depthJoined_le {names : List String} (separator : List (Kind × String)) (needed : Nat) :
    (exprs : List Expr) → exprs ≠ [] → (∀ expr ∈ exprs, expr.Everywhere (Legible names)) →
    depthJoined needed exprs ≤ (wordsJoined separator needed exprs).length
  | [only], _, h => by
    have honly := depth_le_words only (h only List.mem_cons_self)
    have hpos := (depth_pos only).trans_le (le_encloseDepth needed only.strength _)
    rw [depthJoined, wordsJoined, depthJoined]
    exact (Nat.max_le.mpr ⟨Nat.le_refl _, hpos⟩).trans (encloseDepth_le honly _ _)
  | expr :: next :: rest, _, h => by
    have hexpr := depth_le_words expr (h expr List.mem_cons_self)
    have hnext := depthJoined_le separator needed (next :: rest) (List.cons_ne_nil _ _)
      fun expr hexpr ↦ h expr (List.mem_cons_of_mem _ hexpr)
    rw [depthJoined, wordsJoined, List.length_append, List.length_append]
    have hfirst := encloseDepth_le hexpr needed expr.strength
    apply Nat.max_le.mpr
    constructor <;> omega

end

/-- A text and its words begin as an expression does, and without a blank. -/
inductive Leads : List Char → List (Kind × String) → Prop
  | intro {c : Char} {cs : List Char} {kind : Kind} {text : String} {words : List (Kind × String)}
      (colon : c ≠ ':') (blank : c ≠ ' ') (tab : c ≠ '\t')
      (first : KindSet.expressionFirst.contains kind = true) :
      Leads (c :: cs) ((kind, text) :: words)

namespace Leads

variable {cs : List Char} {words : List (Kind × String)}

theorem append (h : Leads cs words) (cs' : List Char) (words' : List (Kind × String)) :
    Leads (cs ++ cs') (words ++ words') := by
  obtain ⟨colon, blank, tab, first⟩ := h
  exact ⟨colon, blank, tab, first⟩

theorem enclose (h : Leads cs words) (needed strength : Nat) :
    Leads (Expr.enclose needed strength cs) (encloseWords needed strength words) := by
  unfold Expr.enclose encloseWords
  split
  · exact ⟨by decide, by decide, by decide, rfl⟩
  · exact h

theorem firstKind_ne (h : Leads cs words) {kind : Kind}
    (hkind : KindSet.expressionFirst.contains kind = false) : firstKind words ≠ kind := by
  obtain ⟨_, _, _, first⟩ := h
  rintro rfl
  exact absurd (first.symm.trans hkind) (by decide)

/-- It is not consumed together with what stands before it. -/
theorem not_joins (h : Leads cs words) (kind : Kind) : kind.joins (firstKind words) = false := by
  have hcolon : firstKind words ≠ .colon := h.firstKind_ne rfl
  have hblock : firstKind words ≠ .block := h.firstKind_ne rfl
  simp [Kind.joins, hcolon, hblock]

end Leads

theorem IsName.leads {name : List Char} (h : IsName name) (text : String) :
    Leads name [(.identifier, text)] := by
  obtain ⟨hstart, _, _⟩ := h
  refine ⟨?_, ?_, ?_, rfl⟩ <;> (rintro rfl; cases hstart)

theorem IsClass.leads {text : List Char} (h : IsClass text) (word : String) :
    Leads text [(.charClass, word)] := by
  obtain ⟨_⟩ := h
  exact ⟨by decide, by decide, by decide, rfl⟩

mutual

theorem display_leads {names : List String} : (expr : Expr) → expr.Everywhere (Legible names) →
    Leads expr.displayChars expr.words
  | .terminal text, _ => ⟨by decide, by decide, by decide, rfl⟩
  | .charClass cls, h => IsClass.leads h.self.1 cls.describe
  | .anyChar, _ => ⟨by decide, by decide, by decide, rfl⟩
  | .sequence items, h => by
    rw [displayChars, words, if_neg (not_isEmpty_of_two_le h.self)]
    exact joined_leads _ _ _ items (ne_nil_of_two_le h.self) fun item hitem ↦ h.child hitem
  | .choice alternatives, h => by
    rw [displayChars, words, if_neg (not_isEmpty_of_two_le h.self)]
    exact joined_leads _ _ _ alternatives (ne_nil_of_two_le h.self) fun item hitem ↦ h.child hitem
  | .repetition inner least, h => by
    rw [displayChars, words]
    exact ((display_leads inner (h.child (List.mem_singleton_self _))).enclose 4 _).append _ _
  | .optional inner, h => by
    rw [displayChars, words]
    exact ((display_leads inner (h.child (List.mem_singleton_self _))).enclose 4 _).append _ _
  | .lookahead inner, _ => ⟨by decide, by decide, by decide, rfl⟩
  | .negativeLookahead inner, _ => ⟨by decide, by decide, by decide, rfl⟩
  | .predicate hook negated, _ => by
    cases negated <;> exact ⟨by decide, by decide, by decide, rfl⟩
  | .label name inner, h => ((IsName.leads h.self name).append _ _)
  | .ruleRef name, h => IsName.leads h.self.1 name

theorem joined_leads {names : List String} (separator : List Char)
    (separator' : List (Kind × String)) (needed : Nat) : (exprs : List Expr) → exprs ≠ [] →
    (∀ expr ∈ exprs, expr.Everywhere (Legible names)) →
    Leads (displayJoined separator needed exprs) (wordsJoined separator' needed exprs)
  | [only], _, h => by
    rw [displayJoined, wordsJoined]
    exact (display_leads only (h only List.mem_cons_self)).enclose needed _
  | expr :: next :: rest, _, h => by
    rw [displayJoined, wordsJoined, List.append_assoc, List.append_assoc]
    exact ((display_leads expr (h expr List.mem_cons_self)).enclose needed _).append _ _

end

/-! ## Characters -/

/-- A text does not go on with what stands before it. -/
structure Apart (cs : List Char) (words : List (Kind × String)) : Prop where
  stop : ∀ c ∈ cs.head?, isIdentifierPart c = false
  other : firstKind words ≠ .colon

/-- In front of a text that does not go on with it, `text` reads as `words`. -/
structure Spells (text : List Char) (words : List (Kind × String)) : Prop where
  inFront : ∀ {cs : List Char} {words' : List (Kind × String)}, Spelled cs words' →
    Apart cs words' → Spelled (text ++ cs) (words ++ words')

theorem apart_cons {c : Char} {cs : List Char} {words : List (Kind × String)}
    (hstop : isIdentifierPart c = false) (hother : firstKind words ≠ .colon) :
    Apart (c :: cs) words :=
  ⟨by rintro _ ⟨⟩; exact hstop, hother⟩

theorem Spells.enclose {text : List Char} {words : List (Kind × String)} (h : Spells text words)
    (needed strength : Nat) :
    Spells (Expr.enclose needed strength text) (encloseWords needed strength words) := by
  unfold Expr.enclose encloseWords
  split
  · constructor
    intro cs words' hrest _
    have hclosed := hrest.mark .parenClose (by rintro ⟨⟩)
    have hinside := h.inFront hclosed (apart_cons rfl (by rintro ⟨⟩))
    have hopened := hinside.mark .parenOpen (by rintro ⟨⟩)
    simpa using hopened
  · exact h

theorem hook_block {hook : List Char} (h : depthAfter? 0 hook = some 0) :
    IsBlock ('{' :: ' ' :: hook ++ [' ', '}']) := by
  have hbalanced : depthAfter? 0 (' ' :: hook ++ [' ']) = some 0 := by
    rw [Token.depthAfter?_append, Token.depthAfter?, if_neg (by decide), if_neg (by decide), h]
    rfl
  have hblock := IsBlock.intro hbalanced
  simpa using hblock

/-- What stands between two members of a sequence or choice. -/
structure Separates (separator : List Char) (words : List (Kind × String)) : Prop where
  spelled : ∀ {cs : List Char} {words' : List (Kind × String)}, Spelled cs words' →
    Leads cs words' → Spelled (separator ++ cs) (words ++ words')
  apart : ∀ {cs : List Char} {words' : List (Kind × String)}, Leads cs words' →
    Apart (separator ++ cs) (words ++ words')

theorem Leads.not_blank {cs : List Char} {words : List (Kind × String)} (h : Leads cs words) :
    ∀ c ∈ cs.head?, c ≠ ' ' ∧ c ≠ '\t' := by
  obtain ⟨_, hblank, htab, _⟩ := h
  rintro _ ⟨⟩
  exact ⟨hblank, htab⟩

theorem blank_separates : Separates [' '] [] where
  spelled h hleads := h.blank hleads.not_blank
  apart hleads := apart_cons rfl (hleads.firstKind_ne rfl)

theorem slash_separates : Separates [' ', '/', ' '] [(.slash, "/")] where
  spelled h hleads := ((h.blank hleads.not_blank).slash (by simp)).blank (by simp)
  apart _ := apart_cons rfl (by rintro ⟨⟩)

theorem guard_spells {c : Char} {kind : Kind} {text : List Char} {words : List (Kind × String)}
    (hmark : Spelled.IsMark c kind) (h : Spells text words) (hleads : Leads text words) :
    Spells (c :: text) ((kind, String.ofList [c]) :: words) := by
  constructor
  intro cs words' hrest hapart
  apply (h.inFront hrest hapart).mark hmark
  rw [(hleads.append cs words').not_joins]
  rintro ⟨⟩

/-- A mark after an operand. -/
theorem repeated_spells {c : Char} {kind : Kind} {text : List Char} {words : List (Kind × String)}
    (hmark : Spelled.IsMark c kind) (hkind : KindSet.quantifiers.contains kind = true)
    (h : Spells text words) : Spells (text ++ [c]) (words ++ [(kind, String.ofList [c])]) := by
  constructor
  intro cs words' hrest _
  have hmarked : Spelled (c :: cs) ((kind, String.ofList [c]) :: words') := by
    apply hrest.mark hmark
    intro hjoins
    cases hmark <;> first | cases hjoins | cases hkind
  have hapart : Apart (c :: cs) ((kind, String.ofList [c]) :: words') := by
    cases hmark <;> exact apart_cons rfl (by rintro ⟨⟩)
  have hall := h.inFront hmarked hapart
  simpa using hall

theorem label_spells {name : String} {text : List Char} {words : List (Kind × String)}
    (hname : IsName name.toList) (h : Spells text words) (hleads : Leads text words) :
    Spells (name.toList ++ ':' :: text) ((.identifier, name) :: (.colon, ":") :: words) := by
  constructor
  intro cs words' hrest hapart
  have hother : (text ++ cs).head? ≠ some ':' := by
    obtain ⟨hcolon, _⟩ := hleads
    simpa using hcolon
  obtain ⟨hcolon, hopens⟩ := (h.inFront hrest hapart).colon hother
  have hnamed := hcolon.name hname (by rintro _ ⟨⟩; rfl) fun _ ↦ hopens
  rw [String.ofList_toList] at hnamed
  simpa using hnamed

theorem predicate_spells {c : Char} {kind : Kind} {hook : List Char}
    (hmark : Spelled.IsMark c kind) (hhook : depthAfter? 0 hook = some 0) :
    Spells (c :: '{' :: ' ' :: hook ++ [' ', '}']) [(kind, String.ofList [c]),
      (.block, String.ofList ('{' :: ' ' :: hook ++ [' ', '}']))] := by
  constructor
  intro cs words' hrest _
  obtain ⟨hblock, hopens⟩ := hrest.block (hook_block hhook)
  exact hblock.mark hmark fun _ ↦ hopens

mutual

/-- An expression in grammar form reads as its words. -/
theorem display_spells {names : List String} : (expr : Expr) → expr.Everywhere (Legible names) →
    Spells expr.displayChars expr.words
  | .terminal text, _ => by
    constructor
    intro cs words' hrest _
    have hquoted := hrest.quoted (Terminal.quoteChars_closes text.toList)
    simpa [displayChars, words, Terminal.quoteChars] using hquoted
  | .charClass cls, h => by
    constructor
    intro cs words' hrest _
    have hclass := hrest.charClass h.self.1
    rw [String.ofList_toList] at hclass
    exact hclass
  | .anyChar, _ => ⟨fun hrest _ ↦ hrest.mark .dot (by rintro ⟨⟩)⟩
  | .sequence items, h => by
    rw [displayChars, words, if_neg (not_isEmpty_of_two_le h.self)]
    exact joined_spells blank_separates 2 items fun item hitem ↦ h.child hitem
  | .choice alternatives, h => by
    rw [displayChars, words, if_neg (not_isEmpty_of_two_le h.self)]
    exact joined_spells slash_separates 1 alternatives fun item hitem ↦ h.child hitem
  | .repetition inner least, h => by
    have hinner := (display_spells inner (h.child (List.mem_singleton_self _))).enclose 4
      inner.strength
    rcases Nat.le_one_iff_eq_zero_or_eq_one.mp h.self with rfl | rfl
    · exact repeated_spells .star rfl hinner
    · exact repeated_spells .plus rfl hinner
  | .optional inner, h =>
    repeated_spells .question rfl
      ((display_spells inner (h.child (List.mem_singleton_self _))).enclose 4 inner.strength)
  | .lookahead inner, h => by
    have hmem := h.child (List.mem_singleton_self _)
    exact guard_spells .amp ((display_spells inner hmem).enclose 2 _)
      ((display_leads inner hmem).enclose 2 _)
  | .negativeLookahead inner, h => by
    have hmem := h.child (List.mem_singleton_self _)
    exact guard_spells .bang ((display_spells inner hmem).enclose 2 _)
      ((display_leads inner hmem).enclose 2 _)
  | .predicate hook negated, h => by
    cases negated with
    | false => exact predicate_spells .amp h.self.1
    | true => exact predicate_spells .bang h.self.1
  | .label name inner, h => by
    have hmem := h.child (List.mem_singleton_self _)
    exact label_spells h.self ((display_spells inner hmem).enclose 2 _)
      ((display_leads inner hmem).enclose 2 _)
  | .ruleRef name, h => by
    constructor
    intro cs words' hrest hapart
    have hnamed := hrest.name h.self.1 hapart.stop fun hcolon ↦ absurd hcolon hapart.other
    rw [String.ofList_toList] at hnamed
    exact hnamed

theorem joined_spells {names : List String} {separator : List Char}
    {words : List (Kind × String)} (hseparator : Separates separator words) (needed : Nat) :
    (exprs : List Expr) → (∀ expr ∈ exprs, expr.Everywhere (Legible names)) →
    Spells (displayJoined separator needed exprs) (wordsJoined words needed exprs)
  | [], _ => ⟨fun hrest _ ↦ hrest⟩
  | [only], h => by
    rw [displayJoined, wordsJoined]
    exact (display_spells only (h only List.mem_cons_self)).enclose needed _
  | expr :: next :: rest, h => by
    constructor
    intro cs words' hrest hapart
    have htail := fun expr hexpr ↦ h expr (List.mem_cons_of_mem _ hexpr)
    have hnext := (joined_spells hseparator needed (next :: rest) htail).inFront hrest hapart
    have hleads := (joined_leads separator words needed (next :: rest) (List.cons_ne_nil _ _)
      htail).append cs words'
    have hfirst := (display_spells expr (h expr List.mem_cons_self)).enclose needed expr.strength
    have hall := hfirst.inFront (hseparator.spelled hnext hleads) (hseparator.apart hleads)
    simpa [displayJoined, wordsJoined] using hall

end

end Expr

end PegKit
