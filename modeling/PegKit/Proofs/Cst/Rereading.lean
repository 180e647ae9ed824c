import PegKit.Proofs.Cst.Expressions
import PegKit.Proofs.Cst.Recovery
import PegKit.Proofs.Unicode.Trimming

/-!
# Reading written sequences and choices

The members of a sequence or choice are read one after the other, and an expression in grammar form
is read as itself: each operator asks of its operands the strength at which they are read.
-/

namespace PegKit.Cst.Parse

open PegKit.Expr (encloseWords wordsJoined)
open Token (firstKind word)

variable {names : List String} {item : Parse Unit} {rest : List (Kind × String)}
  {exprs ahead : List Expr} {expr : Expr} {outer trees : List Cst}
  {spell : Expr → List (Kind × String)}

/-! ## Sequences -/

/-- Expressions that are each read at a strength, written as `spell` says. -/
structure Recoverable (names : List String) (strength : Nat) (m : Parse Unit)
    (spell : Expr → List (Kind × String)) (exprs : List Expr) : Prop where
  recovers : ∀ expr ∈ exprs, Recovers names strength m (spell expr) expr
  begins : ∀ expr ∈ exprs, Begins (spell expr)

theorem Begins.first {words : List (Kind × String)} (h : Begins words)
    (rest : List (Kind × String)) :
    KindSet.expressionFirst.contains (firstKind (words ++ rest)) = true := by
  obtain ⟨hfirst⟩ := h
  exact hfirst

theorem Begins.ne_nil {words : List (Kind × String)} (h : Begins words) : words ≠ [] := by
  obtain ⟨_⟩ := h
  exact List.cons_ne_nil _ _

theorem Begins.isEmpty_append {words : List (Kind × String)} (h : Begins words)
    (rest : List (Kind × String)) : (words ++ rest).isEmpty = false := by
  obtain ⟨_⟩ := h
  rfl

theorem follows_of_expressionFirst {kind : Kind}
    (h : KindSet.expressionFirst.contains kind = true) : follows 2 kind = true := by
  cases kind <;> first | rfl | cases h

theorem follows_item {kind : Kind} (h : follows 1 kind = true) : follows 2 kind = true := by
  cases kind <;> first | rfl | cases h

theorem sequenceEnd_of_follows {kind : Kind} (h : follows 1 kind = true) :
    KindSet.sequenceEnd.contains kind = true := by
  cases kind <;> first | rfl | cases h

theorem follows_ahead (hbegins : ∀ expr ∈ ahead, Begins (spell expr))
    (hrest : follows 1 (firstKind rest) = true) :
    follows 2 (firstKind (ahead.flatMap spell ++ rest)) = true := by
  cases ahead with
  | nil => exact follows_item hrest
  | cons next ahead =>
    rw [List.flatMap_cons, List.append_assoc]
    exact follows_of_expressionFirst ((hbegins next List.mem_cons_self).first _)

/-- A sequence of which `count` items have been read. -/
def Sequencing (names : List String) (outer : List Cst) (spell : Expr → List (Kind × String))
    (rest : List (Kind × String)) (exprs ahead : List Expr) (count : Nat) (s : State) : Prop :=
  count + ahead.length = exprs.length ∧
    Midway (List.Forall₂ (Conveys names)) spell 8 outer rest exprs ahead s

theorem nextItem_goes (hitems : Recoverable names 2 item spell exprs)
    (hrest : follows 1 (firstKind rest) = true) (count : Nat) :
    Settles never (Sequencing names outer spell rest exprs (expr :: ahead) count)
      (nextItem item count) fun result s ↦ ∃ next, result = some next ∧
        Sequencing names outer spell rest exprs ahead next s := by
  apply Settles.assume
  intro hcount
  apply Midway.step
  intro read trees hwhole hconveys
  have hmem : expr ∈ exprs := by
    rw [← hwhole]
    simp
  have hahead : ∀ next ∈ ahead, Begins (spell next) := by
    intro next hnext
    apply hitems.begins
    rw [← hwhole]
    simp [hnext]
  have hbegins := hitems.begins expr hmem
  have hfirst := hbegins.first (ahead.flatMap spell ++ rest)
  apply atEnd_goes.knowing
  rw [if_neg (by rw [hbegins.isEmpty_append]; exact Bool.false_ne_true)]
  apply ((currentIsIn_goes (by decide) .sequenceEnd).weaken Facing.toStanding).knowing
  rw [if_neg (by rw [not_sequenceEnd_of_expressionFirst hfirst]; exact Bool.false_ne_true)]
  apply ((currentIsIn_goes (by decide) .expressionFirst).weaken Facing.toStanding).knowing
  rw [if_pos hfirst]
  apply (((hitems.recovers expr hmem).goes (follows_ahead hahead hrest)).weaken
    fun hs ↦ hs.toStanding.mono (by decide)).adding
  intro _ tree htree
  apply Settles.pure
  intro s hs
  rw [List.append_cons] at hwhole
  refine ⟨count + 1, rfl, ?_, hwhole, List.rel_append hconveys (.cons htree .nil),
    hs.mono (by decide)⟩
  rw [← hcount, List.length_cons, Nat.add_right_comm, Nat.add_assoc]

theorem nextItem_ends (hrest : follows 1 (firstKind rest) = true) (count : Nat) :
    Settles never (Sequencing names outer spell rest exprs [] count) (nextItem item count)
      fun result s ↦ result = none ∧ count = exprs.length ∧ ∃ trees,
        List.Forall₂ (Conveys names) trees exprs ∧ Standing 16 outer trees rest s := by
  apply Settles.assume
  intro hcount
  apply Midway.done
  intro trees hconveys
  have hdone {s : State} {looks : Nat} (hfew : looks ≤ 16) (hs : Facing looks outer trees rest s) :
      none = (none : Option Nat) ∧ count = exprs.length ∧ ∃ trees,
        List.Forall₂ (Conveys names) trees exprs ∧ Standing 16 outer trees rest s :=
    ⟨rfl, hcount, trees, hconveys, hs.toStanding.mono hfew⟩
  apply atEnd_goes.knowing
  apply Settles.ite
  · exact fun _ ↦ .pure (hdone (by decide))
  intro _
  apply ((currentIsIn_goes (by decide) .sequenceEnd).weaken Facing.toStanding).knowing
  rw [if_pos (sequenceEnd_of_follows hrest)]
  exact .pure (hdone (by decide))

theorem sequence_recovers (hitems : Recoverable names 2 item spell exprs) (hsome : exprs ≠ [])
    (hlabels : (exprs.filterMap Expr.label?).Nodup) :
    Recovers names 1 (sequence item) (exprs.flatMap spell) (Syntax.oneOrMany .sequence exprs) where
  goes := by
    intro outer trees rest hrest
    apply marked_goes
    intro outer
    have hbound {ahead : List Expr} {count : Nat} {s : State}
        (h : Sequencing names outer spell rest exprs ahead count s) :
        ahead.length ≤ s.remaining.length :=
      h.2.length_le fun expr hexpr ↦ (hitems.begins expr hexpr).ne_nil
    have hloop : Settles never (Sequencing names outer spell rest exprs exprs 0)
        (sequenceItems item) fun count s ↦ count = exprs.length ∧ ∃ trees,
          List.Forall₂ (Conveys names) trees exprs ∧ Standing 16 outer trees rest s :=
      untilDone_goes (fun _ _ count ↦ nextItem_goes hitems hrest count)
        (fun count ↦ nextItem_ends hrest count) hbound exprs 0
    apply (hloop.weaken fun hs ↦ ⟨Nat.zero_add _, rfl, .nil, hs⟩).knowing
    apply Settles.choose
    intro trees
    apply Settles.assume
    intro hconveys
    have hmeans : List.Forall₂ Means trees exprs := hconveys.imp fun _ _ h ↦ h.means
    apply Settles.ite
    · intro hmany
      apply wrapFrom_goes
      intro children hchildren
      rw [Syntax.oneOrMany_of_one_lt hmany]
      exact ⟨means_sequence hchildren (.ofMeans hmeans) hmany,
        sequence_faultless hchildren hmeans hlabels (conveys_faultless hconveys)⟩
    · intro hfew
      have hone : exprs.length = 1 := by
        have hpos := List.length_pos_iff.mpr hsome
        omega
      obtain ⟨expr, rfl⟩ := List.length_eq_one_iff.mp hone
      obtain ⟨_, _⟩ | ⟨htree, ⟨⟩⟩ := hconveys
      exact .pure fun hs ↦ ⟨_, htree, hs⟩

/-! ## Choices -/

/-- The trees are those of the alternatives, with slashes between them. -/
structure Alternatives (names : List String) (trees : List Cst) (exprs : List Expr) : Prop where
  members : Members trees exprs
  faultless : ∀ tree ∈ trees, tree.Faultless names

/-- An alternative with a slash before it. -/
def slashed (spell : Expr → List (Kind × String)) (expr : Expr) : List (Kind × String) :=
  (.slash, "/") :: spell expr

theorem follows_alternative (hrest : follows 0 (firstKind rest) = true) :
    follows 1 (firstKind (ahead.flatMap (slashed spell) ++ rest)) = true := by
  cases ahead with
  | nil =>
    change follows 1 (firstKind rest) = true
    generalize firstKind rest = kind at hrest
    cases kind <;> first | rfl | cases hrest
  | cons => rfl

theorem ne_slash_of_follows {kind : Kind} (h : follows 0 kind = true) : kind ≠ .slash := by
  rintro rfl
  cases h

theorem nextAlternative_goes (halternatives : Recoverable names 1 (sequence item) spell exprs)
    (hrest : follows 0 (firstKind rest) = true) (u : Unit) :
    Settles never (Midway (Alternatives names) (slashed spell) 17 outer rest exprs (expr :: ahead))
      (nextAlternative item u) fun result s ↦ ∃ next, result = some next ∧
        Midway (Alternatives names) (slashed spell) 17 outer rest exprs ahead s := by
  apply Midway.step
  intro read trees hwhole hread
  have hmem : expr ∈ exprs := by
    rw [← hwhole]
    simp
  rw [slashed, List.cons_append]
  apply (currentIs_goes (by decide) .slash).knowing
  rw [if_neg (by simp [firstKind])]
  apply bump_goes.adding
  intro _ slash hslash
  have hkind : slash.kind.isExpression = false := by
    rw [show slash.kind = .slash from congrArg Prod.fst hslash]
    rfl
  apply ((currentIsIn_goes (by decide) .expressionFirst).weaken And.left).knowing
  rw [if_pos ((halternatives.begins expr hmem).first _)]
  apply (((halternatives.recovers expr hmem).goes (follows_alternative hrest)).weaken
    fun hs ↦ hs.toStanding.mono (by decide)).adding
  intro _ tree htree
  apply Settles.pure
  intro s hs
  have hmembers := hread.members.append (.leaf hkind (.tree htree.means .nil))
  have hfaultless : ∀ part ∈ trees ++ [Cst.leaf slash] ++ [tree], part.Faultless names := by
    simpa [or_imp, forall_and, leaf_faultless, htree.faultless] using hread.faultless
  rw [List.append_cons] at hwhole hmembers
  exact ⟨(), rfl, hwhole, ⟨hmembers, hfaultless⟩, hs.mono (by decide)⟩

theorem nextAlternative_ends (hrest : follows 0 (firstKind rest) = true) (u : Unit) :
    Settles never (Midway (Alternatives names) (slashed spell) 17 outer rest exprs [])
      (nextAlternative item u) fun result s ↦ result = none ∧ ∃ trees,
        Alternatives names trees exprs ∧ Standing 32 outer trees rest s := by
  apply Midway.done
  intro trees hread
  apply (currentIs_goes (by decide) .slash).knowing
  rw [if_pos (by simpa using ne_slash_of_follows hrest)]
  exact .pure fun hs ↦ ⟨rfl, trees, hread, hs.toStanding.mono (by decide)⟩

theorem choice_recovers {first : Expr} {others : List Expr}
    (halternatives : Recoverable names 1 (sequence item) spell (first :: others)) :
    Recovers names 0 (choice item) (spell first ++ others.flatMap (slashed spell))
      (Syntax.oneOrMany .choice (first :: others)) where
  goes := by
    intro outer trees rest hrest
    apply marked_goes
    intro outer
    rw [List.append_assoc]
    apply ((halternatives.recovers first List.mem_cons_self).goes
      (follows_alternative hrest)).adding
    intro _ tree htree
    apply (currentIs_goes (by decide) .slash).knowing
    cases others with
    | nil =>
      rw [if_neg (by simpa using ne_slash_of_follows hrest)]
      exact .pure fun hs ↦ ⟨tree, htree, hs.toStanding.mono (by decide)⟩
    | cons second others =>
      rw [if_pos (by rfl)]
      have hloop : Settles never (Midway (Alternatives names) (slashed spell) 17 outer rest
          (first :: second :: others) (second :: others)) (untilDone (nextAlternative item) ())
          fun _ s ↦ ∃ trees, Alternatives names trees (first :: second :: others) ∧
            Standing 32 outer trees rest s :=
        untilDone_goes (fun _ _ u ↦ nextAlternative_goes halternatives hrest u)
          (fun u ↦ nextAlternative_ends hrest u)
          (Midway.length_le (by simp [slashed])) (second :: others) ()
      have hfirst : Alternatives names [tree] [first] :=
        ⟨.tree htree.means .nil, by simpa using htree.faultless⟩
      apply (hloop.weaken fun hs ↦ ⟨rfl, hfirst, hs.toStanding.mono (by decide)⟩).adding
      intro _ trees hread
      apply wrapFrom_goes
      intro children hchildren
      exact ⟨means_choice hchildren hread.members (Nat.le_add_left _ _),
        operator_faultless hchildren (by decide) hread.faultless⟩

/-! ## Strengths -/

/-- The production for expressions of a strength that have `levels` levels below them. -/
def reader (levels : Nat) : Nat → Parse Unit
  | 0 => choice (prefixed (levels + 1))
  | 1 => sequence (prefixed (levels + 1))
  | 2 => prefixed (levels + 1)
  | 3 => repeated (prefixed levels)
  | _ => primary (prefixed levels)

variable {words : List (Kind × String)} {levels strength needed : Nat}

/-- An expression is also read where one of less strength may stand. -/
theorem weaker_recovers (hlt : strength < 4) (hbegins : Begins words)
    (hoperand : 2 ≤ strength → Operand words)
    (h : Recovers names (strength + 1) (reader levels (strength + 1)) words expr) :
    Recovers names strength (reader levels strength) words expr := by
  have hone (strength : Nat) (m : Parse Unit) (hread : Recovers names strength m words expr) :
      Recoverable names strength m (fun _ ↦ words) [expr] := by
    constructor
    · intro expr' hexpr
      rwa [List.mem_singleton.mp hexpr]
    · exact fun _ _ ↦ hbegins
  match strength with
  | 0 =>
    have hchoice := choice_recovers (hone 1 _ h)
    rwa [List.flatMap_nil, List.append_nil] at hchoice
  | 1 =>
    have hlabels : ([expr].filterMap Expr.label?).Nodup := by
      rw [List.filterMap_cons]
      split <;> simp
    have hsequence := sequence_recovers (hone 2 _ h) (List.cons_ne_nil _ _) hlabels
    rwa [List.flatMap_singleton] at hsequence
  | 2 => exact repeated_prefixed h (hoperand (Nat.le_refl 2))
  | 3 =>
    have hrepeated := @repeated_recovers _ _ _ _ [] (by simp) h
    rwa [List.append_nil] at hrepeated

theorem weakest_recovers (hle : needed ≤ strength) (hlt : strength ≤ 4) (hbegins : Begins words)
    (hoperand : 3 ≤ strength → Operand words)
    (h : Recovers names strength (reader levels strength) words expr) :
    Recovers names needed (reader levels needed) words expr := by
  induction hle with
  | refl => exact h
  | step hle ih =>
    apply ih (Nat.le_of_succ_le hlt) (fun hmany ↦ hoperand (Nat.le_succ_of_le hmany))
    exact weaker_recovers hlt hbegins (fun hmany ↦ hoperand (Nat.succ_le_succ hmany)) h

/-! ## Operands -/

theorem Operand.append (h : Operand words) (hother : ∀ word ∈ rest.head?, word.1 ≠ .colon) :
    Operand (words ++ rest) := by
  obtain @⟨_, _, tail, hfirst, hpositive, hnegative, hsecond⟩ := h
  refine .intro hfirst hpositive hnegative ?_
  cases tail with
  | nil => exact hother
  | cons => exact hsecond

theorem group_operand (h : Begins words) :
    Operand ((.parenOpen, "(") :: words ++ [(.parenClose, ")")]) := by
  obtain @⟨_, _, _, hfirst⟩ := h
  refine .intro rfl (by decide) (by decide) ?_
  rintro _ ⟨⟩
  rintro rfl
  cases hfirst

theorem enclosed_operand {expr : Expr} (hbegins : Begins expr.words)
    (h : needed ≤ expr.strength → Operand expr.words) :
    Operand (encloseWords needed expr.strength expr.words) := by
  unfold Expr.encloseWords
  split
  · exact group_operand hbegins
  · next hstrong => exact h (Nat.le_of_not_lt hstrong)

theorem leads_begins {cs : List Char} (h : Expr.Leads cs words) : Begins words := by
  obtain ⟨_, _, _, hfirst⟩ := h
  exact .intro hfirst

theorem display_begins (h : expr.Everywhere (Expr.Legible names)) : Begins expr.words :=
  leads_begins (Expr.display_leads expr h)

theorem enclosed_begins (needed : Nat) (h : expr.Everywhere (Expr.Legible names)) :
    Begins (encloseWords needed expr.strength expr.words) :=
  leads_begins ((Expr.display_leads expr h).enclose needed _)

theorem mark_operand {mark : Kind × String} (h : Operand words)
    (hmark : KindSet.quantifiers.contains mark.1 = true) : Operand (words ++ [mark]) := by
  apply h.append
  rintro _ ⟨⟩ hcolon
  rw [hcolon] at hmark
  cases hmark

/-- The mark after a repeated operand. -/
theorem repetition_mark (least : Nat) : KindSet.quantifiers.contains
    (if least = 0 then (Kind.star, "*") else (Kind.plus, "+")).1 = true := by
  split <;> rfl

theorem display_operand : (expr : Expr) → expr.Everywhere (Expr.Legible names) →
    expr.Everywhere Expr.Restorable → 3 ≤ expr.readStrength → Operand expr.words
  | .terminal text, _, _, _ => by
    rw [Expr.words, Token.quotedWords]
    refine .intro rfl (by decide) (by decide) ?_
    split <;> (rintro _ ⟨⟩; rintro ⟨⟩)
  | .charClass cls, _, _, _ => .intro rfl (by decide) (by decide) (by rintro _ ⟨⟩)
  | .anyChar, _, _, _ => .intro rfl (by decide) (by decide) (by rintro _ ⟨⟩)
  | .ruleRef name, _, _, _ => .intro rfl (by decide) (by decide) (by rintro _ ⟨⟩)
  | .repetition inner least, hlegible, hrestorable, _ => by
    have hmem : inner ∈ (Expr.repetition inner least).children := List.mem_singleton_self _
    rw [Expr.words]
    apply mark_operand (enclosed_operand (display_begins (hlegible.child hmem)) _)
      (repetition_mark least)
    intro hstrong
    rw [← Expr.readStrength_eq hrestorable.self] at hstrong
    exact display_operand inner (hlegible.child hmem) (hrestorable.child hmem)
      (Nat.le_of_succ_le hstrong)
  | .optional inner, hlegible, hrestorable, _ => by
    have hmem : inner ∈ (Expr.optional inner).children := List.mem_singleton_self _
    rw [Expr.words]
    apply mark_operand (enclosed_operand (display_begins (hlegible.child hmem)) _) rfl
    intro hstrong
    rw [← Expr.readStrength_eq hrestorable.self] at hstrong
    exact display_operand inner (hlegible.child hmem) (hrestorable.child hmem)
      (Nat.le_of_succ_le hstrong)
  | .sequence items, hlegible, _, hstrong => by
    rw [Expr.readStrength_sequence hlegible.self] at hstrong
    cases hstrong
    contradiction
  | .choice alternatives, hlegible, _, hstrong => by
    rw [Expr.readStrength_choice hlegible.self] at hstrong
    cases hstrong
  | .lookahead inner, _, _, hstrong => by simp [Expr.readStrength, Expr.strength] at hstrong
  | .negativeLookahead inner, _, _, hstrong => by simp [Expr.readStrength, Expr.strength] at hstrong
  | .label name inner, _, _, hstrong => by simp [Expr.readStrength, Expr.strength] at hstrong
  | .predicate hook negated, _, _, hstrong => by simp [Expr.readStrength] at hstrong

/-! ## Expressions -/

theorem enclosed_recovers (hneeded : needed ≤ 4) (hlegible : expr.Everywhere (Expr.Legible names))
    (hrestorable : expr.Everywhere Expr.Restorable)
    (hplace : needed ≤ expr.strength → needed ≤ expr.readStrength)
    (hdepth : Expr.encloseDepth needed expr.strength expr.depth ≤ levels + 1)
    (h : ∀ {levels}, expr.depth ≤ levels + 1 → Recovers names expr.readStrength
      (reader levels expr.readStrength) expr.words expr) :
    Recovers names needed (reader levels needed) (encloseWords needed expr.strength expr.words)
      expr := by
  have hbegins := display_begins hlegible
  have hoperand := display_operand expr hlegible hrestorable
  have hfour := Expr.readStrength_le_four hlegible.self
  unfold Expr.encloseDepth at hdepth
  unfold Expr.encloseWords
  split
  · next hweak =>
    rw [if_pos hweak] at hdepth
    have hpos := Expr.depth_pos expr
    obtain ⟨levels, rfl⟩ := Nat.exists_eq_succ_of_ne_zero (show levels ≠ 0 by omega)
    have hinner := weakest_recovers (Nat.zero_le _) hfour hbegins hoperand
      (h (Nat.le_of_succ_le_succ hdepth))
    have hgroup := group_operand hbegins
    exact weakest_recovers hneeded (Nat.le_refl 4) hgroup.begins (fun _ ↦ hgroup)
      (group_recovers hinner hbegins)
  · next hstrong =>
    rw [if_neg hstrong] at hdepth
    exact weakest_recovers (hplace (Nat.le_of_not_lt hstrong)) hfour hbegins
      hoperand (h hdepth)

/-- The operand of a lookahead or label. -/
theorem operand_recovers (hlegible : expr.Everywhere (Expr.Legible names))
    (hrestorable : expr.Everywhere Expr.Restorable)
    (hdepth : Expr.encloseDepth 2 expr.strength expr.depth + 1 ≤ levels + 1)
    (h : ∀ {levels}, expr.depth ≤ levels + 1 → Recovers names expr.readStrength
      (reader levels expr.readStrength) expr.words expr) :
    Recovers names 2 (prefixed levels) (encloseWords 2 expr.strength expr.words) expr := by
  have hpos := (Expr.depth_pos expr).trans_le (Expr.le_encloseDepth 2 expr.strength _)
  obtain ⟨levels, rfl⟩ := Nat.exists_eq_succ_of_ne_zero (show levels ≠ 0 by omega)
  exact enclosed_recovers (by decide) hlegible hrestorable (Expr.le_readStrength (Nat.le_refl 2))
    (Nat.le_of_succ_le_succ hdepth) h

theorem hook_recovers {hook : String} (negated : Bool)
    (hhook : Unicode.trimBlanks hook.toList = hook.toList) :
    Recovers names 2 (prefixed (levels + 1)) (Expr.predicate hook negated).words
      (.predicate hook negated) := by
  have htrim : String.ofList (Unicode.trimBlanks (' ' :: hook.toList ++ [' '])) = hook := by
    rw [Unicode.trimBlanks_padded (by decide) (by decide), hhook, String.ofList_toList]
  cases negated with
  | false =>
    have hread := @predicate_recovers names .amp levels "&"
      (String.ofList ('{' :: ' ' :: hook.toList ++ [' ', '}'])) (' ' :: hook.toList ++ [' '])
      (.inl rfl) (by simp)
    rwa [htrim] at hread
  | true =>
    have hread := @predicate_recovers names .bang levels "!"
      (String.ofList ('{' :: ' ' :: hook.toList ++ [' ', '}'])) (' ' :: hook.toList ++ [' '])
      (.inr rfl) (by simp)
    rwa [htrim] at hread

theorem wordsJoined_cons (separator : List (Kind × String)) (needed : Nat) (first : Expr)
    (others : List Expr) :
    wordsJoined separator needed (first :: others) =
      encloseWords needed first.strength first.words ++ others.flatMap fun expr ↦
        separator ++ encloseWords needed expr.strength expr.words := by
  induction others generalizing first with
  | nil => rw [Expr.wordsJoined, List.flatMap_nil, List.append_nil]
  | cons second others ih =>
    rw [Expr.wordsJoined, ih, List.flatMap_cons, List.append_assoc, List.append_assoc]

theorem wordsJoined_eq (needed : Nat) (exprs : List Expr) :
    wordsJoined [] needed exprs =
      exprs.flatMap fun expr ↦ encloseWords needed expr.strength expr.words := by
  cases exprs with
  | nil => rw [Expr.wordsJoined, List.flatMap_nil]
  | cons first others => exact wordsJoined_cons [] needed first others

theorem marked_repetition {least : Nat} (h : least ≤ 1) (expr : Expr) :
    marked expr [if least = 0 then (Kind.star, "*") else (Kind.plus, "+")] =
      .repetition expr least := by
  rcases Nat.le_one_iff_eq_zero_or_eq_one.mp h with rfl | rfl <;> rfl

theorem Recoverable.cons {m : Parse Unit}
    (hfirst : Recovers names strength m (spell expr) expr) (hbegins : Begins (spell expr))
    (h : Recoverable names strength m spell exprs) :
    Recoverable names strength m spell (expr :: exprs) :=
  ⟨List.forall_mem_cons.mpr ⟨hfirst, h.recovers⟩, List.forall_mem_cons.mpr ⟨hbegins, h.begins⟩⟩

mutual

/-- An expression in grammar form is read as itself. -/
theorem display_recovers : (expr : Expr) → expr.Everywhere (Expr.Legible names) →
    expr.Everywhere Expr.Restorable → ∀ {levels}, expr.depth ≤ levels + 1 →
    Recovers names expr.readStrength (reader levels expr.readStrength) expr.words expr
  | .terminal text, _, _, _, _ => string_recovers text
  | .charClass cls, hlegible, _, _, _ => charClass_recovers hlegible.self.2
  | .anyChar, _, _, _, _ => dot_recovers
  | .ruleRef name, hlegible, _, _, _ => reference_recovers hlegible.self.2
  | .predicate hook negated, hlegible, _, _, _ => hook_recovers negated hlegible.self.2
  | .sequence items, hlegible, hrestorable, levels, hdepth => by
    have hitems := items_recover 2 (Nat.le_refl 2) items (fun _ hitem ↦ hlegible.child hitem)
      (fun _ hitem ↦ hrestorable.child hitem) hdepth
    have hread := sequence_recovers hitems (Expr.ne_nil_of_two_le hlegible.self) hrestorable.self
    rw [Syntax.oneOrMany_of_one_lt hlegible.self] at hread
    rw [Expr.readStrength_sequence hlegible.self, Expr.words, wordsJoined_eq]
    exact hread
  | .choice alternatives, hlegible, hrestorable, levels, hdepth => by
    have halternatives := items_recover 1 (by decide) alternatives
      (fun _ hitem ↦ hlegible.child hitem) (fun _ hitem ↦ hrestorable.child hitem) hdepth
    rw [Expr.readStrength_choice hlegible.self, Expr.words]
    cases alternatives with
    | nil => exact absurd rfl (Expr.ne_nil_of_two_le hlegible.self)
    | cons first others =>
      have hread := choice_recovers halternatives
      rw [Syntax.oneOrMany_of_one_lt hlegible.self] at hread
      rw [wordsJoined_cons]
      exact hread
  | .repetition inner least, hlegible, hrestorable, levels, hdepth => by
    have hmem : inner ∈ (Expr.repetition inner least).children := List.mem_singleton_self _
    have hoperand := enclosed_recovers (Nat.le_refl 4) (hlegible.child hmem)
      (hrestorable.child hmem) (Expr.readStrength_eq hrestorable.self ▸ id) hdepth
      (display_recovers inner (hlegible.child hmem) (hrestorable.child hmem))
    have hread := @repeated_recovers _ _ _ _
      [if least = 0 then (Kind.star, "*") else (Kind.plus, "+")]
      (List.forall_mem_singleton.mpr (repetition_mark least)) hoperand
    rw [marked_repetition hlegible.self] at hread
    exact hread
  | .optional inner, hlegible, hrestorable, levels, hdepth => by
    have hmem : inner ∈ (Expr.optional inner).children := List.mem_singleton_self _
    have hoperand := enclosed_recovers (Nat.le_refl 4) (hlegible.child hmem)
      (hrestorable.child hmem) (Expr.readStrength_eq hrestorable.self ▸ id) hdepth
      (display_recovers inner (hlegible.child hmem) (hrestorable.child hmem))
    exact @repeated_recovers _ _ _ _ [(Kind.question, "?")] (by simp; rfl) hoperand
  | .lookahead inner, hlegible, hrestorable, levels, hdepth => by
    have hmem : inner ∈ (Expr.lookahead inner).children := List.mem_singleton_self _
    have hoperand := operand_recovers (hlegible.child hmem) (hrestorable.child hmem) hdepth
      (display_recovers inner (hlegible.child hmem) (hrestorable.child hmem))
    exact lookahead_recovers hoperand (enclosed_begins 2 (hlegible.child hmem)) (.inl rfl)
  | .negativeLookahead inner, hlegible, hrestorable, levels, hdepth => by
    have hmem : inner ∈ (Expr.negativeLookahead inner).children := List.mem_singleton_self _
    have hoperand := operand_recovers (hlegible.child hmem) (hrestorable.child hmem) hdepth
      (display_recovers inner (hlegible.child hmem) (hrestorable.child hmem))
    exact lookahead_recovers hoperand (enclosed_begins 2 (hlegible.child hmem)) (.inr rfl)
  | .label name inner, hlegible, hrestorable, levels, hdepth => by
    have hmem : inner ∈ (Expr.label name inner).children := List.mem_singleton_self _
    have hoperand := operand_recovers (hlegible.child hmem) (hrestorable.child hmem) hdepth
      (display_recovers inner (hlegible.child hmem) (hrestorable.child hmem))
    exact label_recovers hoperand (enclosed_begins 2 (hlegible.child hmem))

theorem items_recover (needed : Nat) (hneeded : needed ≤ 2) : (exprs : List Expr) →
    (∀ expr ∈ exprs, expr.Everywhere (Expr.Legible names)) →
    (∀ expr ∈ exprs, expr.Everywhere Expr.Restorable) →
    ∀ {levels}, Expr.depthJoined needed exprs ≤ levels + 1 → Recoverable names needed
      (reader levels needed) (fun expr ↦ encloseWords needed expr.strength expr.words) exprs
  | [], _, _, _, _ => ⟨by rintro _ ⟨⟩, by rintro _ ⟨⟩⟩
  | expr :: rest, hlegible, hrestorable, levels, hdepth => by
    obtain ⟨hlegible', hlegible⟩ := List.forall_mem_cons.mp hlegible
    obtain ⟨hrestorable', hrestorable⟩ := List.forall_mem_cons.mp hrestorable
    obtain ⟨hfirst, hrest⟩ := Nat.max_le.mp hdepth
    apply Recoverable.cons
    · exact enclosed_recovers (hneeded.trans (by decide)) hlegible' hrestorable'
        (Expr.le_readStrength hneeded) hfirst (display_recovers expr hlegible' hrestorable')
    · exact enclosed_begins needed hlegible'
    · exact items_recover needed hneeded rest hlegible hrestorable hrest

end

/-- The body of a rule, within the levels that it needs. -/
theorem body_recovers (hlegible : expr.Everywhere (Expr.Legible names))
    (hrestorable : expr.Everywhere Expr.Restorable) (hdepth : expr.depth ≤ levels) :
    Recovers names 0 (choice (prefixed levels)) expr.words expr := by
  obtain ⟨levels, rfl⟩ := Nat.exists_eq_succ_of_ne_zero
    (Nat.ne_of_gt ((Expr.depth_pos expr).trans_le hdepth))
  exact weakest_recovers (Nat.zero_le _) (Expr.readStrength_le_four hlegible.self)
    (display_begins hlegible) (display_operand expr hlegible hrestorable)
    (display_recovers expr hlegible hrestorable hdepth)

end PegKit.Cst.Parse
