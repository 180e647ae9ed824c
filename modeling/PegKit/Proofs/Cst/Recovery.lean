import PegKit.Proofs.Cst.Following

/-!
# Reading written expressions

In front of the words of an expression, the production for expressions of its strength adds one
tree that stands for the expression, without a report. What may come after the words is told by the
strength: a repetition mark would still belong to an operand, and a colon to a name.
-/

namespace PegKit.Cst.Parse

open PegKit.Expr (encloseWords wordsJoined)
open Token (firstKind word quotedWords)

/-- What may come after an expression that was read at a strength. -/
def follows : Nat → Kind → Bool
  | 0, kind => kind == .parenClose || kind == .keywordEnd
  | 1, kind => kind == .slash || kind == .parenClose || kind == .keywordEnd
  | 2, kind => !KindSet.quantifiers.contains kind && kind != .colon
  | 3, kind => !KindSet.quantifiers.contains kind
  | _, _ => true

/-- The looks taken at most before an expression that is read at a strength. -/
def taken : Nat → Nat
  | 0 => 8
  | 1 => 8
  | _ => 16

/-- The looks taken at most after an expression that was read at a strength. -/
def spent : Nat → Nat
  | 0 => 32
  | 1 => 16
  | 3 => 16
  | _ => 0

/-- In front of the words and what may follow, the part adds one tree for the expression. -/
structure Recovers (names : List String) (strength : Nat) (m : Parse Unit)
    (words : List (Kind × String)) (expr : Expr) : Prop where
  goes : ∀ {outer trees : List Cst} {rest : List (Kind × String)},
    follows strength (firstKind rest) = true →
    Settles never (Standing (taken strength) outer trees (words ++ rest)) m fun _ s ↦
      ∃ tree, tree.Conveys names expr ∧ Standing (spent strength) outer (trees ++ [tree]) rest s

variable {names : List String} {item : Parse Unit} {words rest : List (Kind × String)}
  {expr : Expr} {looks : Nat} {outer trees : List Cst} {kind : Kind} {text : String}

/-! ## Operands -/

theorem single_goes {P : Cst → Prop} {outerKind : Kind}
    (h : ∀ token children, token.word = (kind, text) → significant children = [.leaf token] →
      P (.node outerKind children)) :
    Settles never (Facing looks outer trees ((kind, text) :: rest)) (single outerKind) fun _ s ↦
      ∃ tree, P tree ∧ Standing 0 outer (trees ++ [tree]) rest s :=
  node_goes (bump_goes.imp id fun ⟨token, hword, hs, _⟩ ↦
    ⟨_, fun children ↦ h token children hword, hs⟩)

theorem reference_recovers {name : String} (hdeclared : name ∈ names) :
    Recovers names 4 (primary item) [(.identifier, name)] (.ruleRef name) where
  goes := by
    intro outer trees rest _
    apply (current_goes (by decide)).knowing
    apply single_goes
    intro token children hword hchildren
    obtain ⟨hkind, rfl⟩ := Prod.mk.inj hword
    exact ⟨means_reference hchildren hkind, reference_faultless hchildren hkind hdeclared⟩

theorem dot_recovers : Recovers names 4 (primary item) [(.dot, ".")] .anyChar where
  goes := by
    intro outer trees rest _
    apply (current_goes (by decide)).knowing
    apply single_goes
    intro token children _ hchildren
    refine ⟨means_dot hchildren, operator_faultless hchildren (by decide) ?_⟩
    simpa using leaf_faultless token

theorem charClass_recovers {cls : CharClass} (hclass : CharClass.ofBrackets text = .ok cls) :
    Recovers names 4 (primary item) [(.charClass, text)] (.charClass cls) where
  goes := by
    intro outer trees rest _
    apply (current_goes (by decide)).knowing
    apply single_goes
    intro token children hword hchildren
    obtain ⟨hkind, rfl⟩ := Prod.mk.inj hword
    have hmeans := means_charClass hchildren hkind
    rw [Syntax.classExpr, hclass] at hmeans
    exact ⟨hmeans, charClass_faultless hchildren hkind hclass⟩

/-- The trees of a string of single quotes around `body`. -/
inductive Quotes (body : List Char) : List Cst → Prop
  | empty {opening closing : Token} (quote : opening.kind = .singleQuote)
      (same : closing.kind = .singleQuote) (none : body = []) :
      Quotes body [.leaf opening, .leaf closing]
  | full {opening value closing : Token} (quote : opening.kind = .singleQuote)
      (inner : value.word = (.stringValue, String.ofList body))
      (same : closing.kind = .singleQuote) :
      Quotes body [.leaf opening, .leaf value, .leaf closing]

theorem string_goes {P : Cst → Prop} {body : List Char}
    (h : ∀ children, Quotes body (significant children) → P (.node .strNode children)) :
    Settles never (Facing 17 outer trees (quotedWords body ++ rest)) string fun _ s ↦
      ∃ tree, P tree ∧ Standing 0 outer (trees ++ [tree]) rest s := by
  apply node_goes
  apply ((current_goes (by decide)).weaken Facing.toStanding).knowing
  apply bump_goes.adding
  intro _ opening hopening
  have hquote : opening.kind = .singleQuote := congrArg Prod.fst hopening
  cases body with
  | nil =>
    apply ((eat_passes (by decide) (by rintro ⟨⟩)).weaken And.left).knowing
    apply ((eat_goes (by decide)).weaken Facing.toStanding).knowing
    exact .pure fun ⟨closing, hclosing, hs⟩ ↦ ⟨_, fun children hchildren ↦
      h children (hchildren ▸ .empty hquote (congrArg Prod.fst hclosing) rfl), hs⟩
  | cons c cs =>
    apply ((eat_goes (by decide)).weaken And.left).knowing
    apply Settles.choose
    intro value
    apply Settles.assume
    intro hvalue
    apply (eat_goes (by decide)).knowing
    exact .pure fun ⟨closing, hclosing, hs⟩ ↦ ⟨_, fun children hchildren ↦
      h children (hchildren ▸ .full hquote hvalue (congrArg Prod.fst hclosing)), hs⟩

theorem quotes_convey {body : List Char} {children : List Cst} {text : String}
    (hbody : Terminal.unescape (String.ofList body) = .ok text)
    (h : Quotes body (significant children)) :
    (Cst.node .strNode children).Conveys names (.terminal text) := by
  generalize htrees : significant children = trees at h
  cases h with
  | @empty opening closing quote same none =>
    subst none
    have hopening : opening.kind ≠ .stringValue := by
      rw [quote]
      decide
    have hclosing : closing.kind ≠ .stringValue := by
      rw [same]
      decide
    have hraw : (Cst.node .strNode [.leaf opening, .leaf closing]).rawValue = String.ofList [] := by
      rw [rawValue, childToken?_skip hopening, childToken?_skip hclosing]
      rfl
    have htext : text = "" := by
      rw [Terminal.unescape, String.toList_ofList, Terminal.unescapeFrom] at hbody
      cases hbody
      rfl
    rw [← hraw] at hbody
    refine ⟨?_, string_faultless htrees (by simp) hbody⟩
    rw [htext]
    exact means_emptyString htrees (.inr quote) (same.trans quote.symm)
  | @full opening value closing quote inner same =>
    obtain ⟨hvalue, htext⟩ := Prod.mk.inj inner
    have hopening : opening.kind ≠ .stringValue := by
      rw [quote]
      decide
    have hraw : (Cst.node .strNode [.leaf opening, .leaf value, .leaf closing]).rawValue =
        String.ofList body := by
      rw [rawValue, childToken?_skip hopening, childToken?_leaf hvalue, ← htext]
      rfl
    have hmeans := means_string htrees (.inr quote) hvalue
    rw [htext, Syntax.literalText, hbody] at hmeans
    rw [← hraw] at hbody
    exact ⟨hmeans, string_faultless htrees (by simp) hbody⟩

theorem string_recovers (text : String) : Recovers names 4 (primary item)
    (quotedWords (text.toList.flatMap Terminal.quoteChar)) (.terminal text) where
  goes := by
    intro outer trees rest _
    apply (current_goes (by decide)).knowing
    have hbody : Terminal.unescape (String.ofList (text.toList.flatMap Terminal.quoteChar)) =
        .ok text := by
      rw [Terminal.unescape, String.toList_ofList, Terminal.unescapeFrom_quoteChars]
      exact congrArg Except.ok String.ofList_toList
    exact string_goes fun _ ↦ quotes_convey hbody

/-- Words that begin as an expression does. -/
inductive Begins : List (Kind × String) → Prop
  | intro {kind : Kind} {text : String} {words : List (Kind × String)}
      (first : KindSet.expressionFirst.contains kind = true) : Begins ((kind, text) :: words)

/-- A choice in parentheses. -/
theorem group_recovers (h : Recovers names 0 (choice item) words expr) (hbegins : Begins words) :
    Recovers names 4 (primary item) ((.parenOpen, "(") :: words ++ [(.parenClose, ")")]) expr where
  goes := by
    intro outer trees rest _
    apply (current_goes (by decide)).knowing
    apply ((expect_goes (by decide) rfl).weaken Facing.toStanding).bind
    intro _
    apply node_goes
    apply (currentSpan_goes.weaken Facing.toStanding).bind
    intro start
    apply bump_goes.adding
    intro _ opening hopening
    obtain ⟨hfirst⟩ := hbegins
    rename_i first text words
    apply ((currentIs_goes (by decide) .parenClose).weaken And.left).knowing
    apply Settles.ite
    · intro hclosed
      exact absurd hfirst (by rw [show first = .parenClose from beq_iff_eq.mp hclosed]; decide)
    intro _
    apply ((currentIsIn_goes (by decide) .expressionFirst).weaken Facing.toStanding).knowing
    apply Settles.ite
    · intro _
      have hread := @h.goes [] [.leaf opening] ((.parenClose, ")") :: rest) rfl
      rw [List.append_cons] at hread
      apply (hread.weaken fun hs ↦ hs.toStanding.mono (by decide)).adding
      intro _ tree hconveys
      apply (eat_goes (by decide)).knowing
      apply Settles.ite
      · exact fun hopen ↦ absurd hopen (by decide)
      intro _
      apply Settles.pure
      rintro s ⟨closing, _, hs⟩
      refine ⟨_, fun children hchildren ↦ ?_, hs⟩
      have hparts : ∀ part ∈ [.leaf opening, tree, .leaf closing], part.Faultless names := by
        simp [leaf_faultless, hconveys.faultless]
      exact ⟨means_group hconveys.means hchildren (congrArg Prod.fst hopening),
        operator_faultless hchildren (by decide) hparts⟩
    · exact fun hother ↦ absurd hfirst hother

/-! ## Repetition marks -/

theorem quantified_conveys {tree : Cst} {mark : Token} {children : List Cst}
    (h : tree.Conveys names expr) (hchildren : significant children = [tree, .leaf mark])
    (hmark : KindSet.quantifiers.contains mark.kind = true) :
    (Cst.node .quantifierNode children).Conveys names
      (Meaning.quantify (some mark.kind) expr) := by
  have hparts : ∀ part ∈ [tree, .leaf mark], part.Faultless names := by
    simp [leaf_faultless, h.faultless]
  exact ⟨means_quantified h.means hchildren hmark,
    operator_faultless hchildren (by decide) hparts⟩

/-- What marks make of an operand, the first of them innermost. -/
def marked (expr : Expr) (marks : List (Kind × String)) : Expr :=
  marks.foldl (fun inner mark ↦ Meaning.quantify (some mark.1) inner) expr

/-- An operand has been read that the marks ahead turn into `expr`. -/
inductive Marking (names : List String) (outer : List Cst) (rest : List (Kind × String))
    (expr : Expr) (marks : List (Kind × String)) (s : State) : Prop
  | intro {inner : Expr} {tree : Cst} (whole : marked inner marks = expr)
      (quantifiers : ∀ mark ∈ marks, KindSet.quantifiers.contains mark.1 = true)
      (conveys : tree.Conveys names inner) (ahead : Standing 8 outer [tree] (marks ++ rest) s)

theorem Marking.length_le {marks : List (Kind × String)} {s : State}
    (h : Marking names outer rest expr marks s) : marks.length ≤ s.remaining.length := by
  obtain ⟨_, _, _, hs⟩ := h
  have hlength := hs.length_le
  rw [List.length_append] at hlength
  exact Nat.le_of_add_right_le hlength

/-- A mark makes one tree of the operand and itself. -/
theorem nextQuantifier_wraps {tree : Cst} {inner : Expr} {words : List (Kind × String)}
    (hconveys : tree.Conveys names inner) (hmark : KindSet.quantifiers.contains kind = true)
    (u : Unit) :
    Settles never (Standing 8 outer [tree] ((kind, text) :: words))
      (nextQuantifier outer.length u) fun result s ↦ result = some () ∧ ∃ next,
        next.Conveys names (Meaning.quantify (some kind) inner) ∧
          Standing 0 outer [next] words s := by
  apply (currentIsIn_goes (by decide) .quantifiers).knowing
  rw [if_neg (by simpa [firstKind] using hmark)]
  apply bump_goes.adding
  intro _ token htoken
  obtain rfl : token.kind = kind := congrArg Prod.fst htoken
  apply ((wrapFrom_goes (P := (·.Conveys names (Meaning.quantify (some token.kind) inner)))
    fun children hchildren ↦ quantified_conveys hconveys hchildren hmark).weaken And.left).bind
  intro _
  exact .pure fun hs ↦ ⟨rfl, hs⟩

theorem nextQuantifier_goes {mark : Kind × String} {marks : List (Kind × String)} (u : Unit) :
    Settles never (Marking names outer rest expr (mark :: marks)) (nextQuantifier outer.length u)
      fun result s ↦ ∃ next, result = some next ∧ Marking names outer rest expr marks s := by
  constructor
  rintro s ⟨hwhole, hmarks, hconveys, hs⟩
  obtain ⟨hmark, hothers⟩ := List.forall_mem_cons.mp hmarks
  apply ((nextQuantifier_wraps hconveys hmark u).imp id _).holds hs
  rintro _ s ⟨hsome, next, hnext, hs⟩
  exact ⟨(), hsome, hwhole, hothers, hnext, hs.mono (by decide)⟩

theorem nextQuantifier_ends (u : Unit)
    (hfollows : KindSet.quantifiers.contains (firstKind rest) = false) :
    Settles never (Marking names outer rest expr []) (nextQuantifier outer.length u)
      fun result s ↦ result = none ∧ ∃ tree, tree.Conveys names expr ∧
        Standing 16 outer [tree] rest s := by
  have hstop (tree : Cst) : Settles never (Standing 8 outer [tree] rest)
      (nextQuantifier outer.length u) fun result s ↦
        result = none ∧ Standing 16 outer [tree] rest s := by
    apply (currentIsIn_goes (by decide) .quantifiers).knowing
    rw [if_pos (by simpa using hfollows)]
    exact .pure fun hs ↦ ⟨rfl, hs.toStanding.mono (by decide)⟩
  constructor
  rintro s ⟨hwhole, _, hconveys, hs⟩
  apply ((hstop _).imp id _).holds hs
  rintro _ s ⟨hnone, hs⟩
  exact ⟨hnone, _, hwhole ▸ hconveys, hs⟩

/-- Marks after an operand. -/
theorem repeated_recovers {marks : List (Kind × String)}
    (hmarks : ∀ mark ∈ marks, KindSet.quantifiers.contains mark.1 = true)
    (h : Recovers names 4 (primary item) words expr) :
    Recovers names 3 (repeated item) (words ++ marks) (marked expr marks) where
  goes := by
    intro outer trees rest hfollows
    have hend : KindSet.quantifiers.contains (firstKind rest) = false := by
      simpa [follows] using hfollows
    apply marked_goes
    intro outer
    rw [List.append_assoc]
    apply (h.goes rfl).bind
    intro _
    have hloop : Settles never (Marking names outer rest (marked expr marks) marks)
        (untilDone (nextQuantifier outer.length) ()) fun _ s ↦ ∃ tree,
          tree.Conveys names (marked expr marks) ∧ Standing 16 outer [tree] rest s :=
      untilDone_goes (fun _ _ u ↦ nextQuantifier_goes u) (fun u ↦ nextQuantifier_ends u hend)
        Marking.length_le marks ()
    apply hloop.weaken
    rintro s ⟨tree, hconveys, hs⟩
    exact ⟨rfl, hmarks, hconveys, hs.mono (by decide)⟩

/-! ## Prefixes -/

/-- Words of an operand, marks included: they begin with no prefix. -/
inductive Operand : List (Kind × String) → Prop
  | intro {kind : Kind} {text : String} {words : List (Kind × String)}
      (first : KindSet.expressionFirst.contains kind = true) (positive : kind ≠ .amp)
      (negative : kind ≠ .bang) (second : ∀ word ∈ words.head?, word.1 ≠ .colon) :
      Operand ((kind, text) :: words)

theorem Operand.begins (h : Operand words) : Begins words := by
  obtain ⟨hfirst, _, _, _⟩ := h
  exact .intro hfirst

theorem Operand.first_ne (h : Operand words) (rest : List (Kind × String)) :
    firstKind (words ++ rest) ≠ .amp ∧ firstKind (words ++ rest) ≠ .bang := by
  obtain ⟨_, hpositive, hnegative, _⟩ := h
  exact ⟨hpositive, hnegative⟩

/-- After an operand no colon follows its first word. -/
theorem Operand.second_ne_colon (h : Operand words) (hfollows : follows 2 (firstKind rest) = true) :
    (words ++ rest).tail.head?.any (·.1 == .colon) = false := by
  obtain @⟨_, _, tail, _, _, _, hsecond⟩ := h
  have hother : firstKind rest ≠ .colon := by
    intro hcolon
    rw [hcolon] at hfollows
    cases hfollows
  rcases tail with _ | ⟨word, tail⟩
  · rcases rest with _ | ⟨word, rest⟩
    · rfl
    · simpa [firstKind] using hother
  · simpa using hsecond word rfl

/-- Looks are not counted on from one prefixed expression to the next. -/
theorem prefixed_recovers {levels : Nat}
    (h : ∀ {outer trees rest}, follows 2 (firstKind rest) = true →
      Settles never (Standing 0 outer trees (words ++ rest)) (prefixedBody (prefixed levels))
        fun _ s ↦ ∃ tree, tree.Conveys names expr ∧ Standing 16 outer (trees ++ [tree]) rest s) :
    Recovers names 2 (prefixed (levels + 1)) words expr where
  goes := by
    intro outer trees rest hfollows
    apply restoreLookaheads_goes.bind
    intro _
    apply (h hfollows).adding
    intro _ tree hconveys
    exact restoreLookaheads_goes.imp id fun hs ↦ ⟨tree, hconveys, hs⟩

theorem follows_repeated {kind : Kind} (h : follows 2 kind = true) : follows 3 kind = true := by
  rw [follows, Bool.and_eq_true] at h
  exact h.1

theorem repeated_prefixed {levels : Nat}
    (h : Recovers names 3 (repeated (prefixed levels)) words expr) (hoperand : Operand words) :
    Recovers names 2 (prefixed (levels + 1)) words expr := by
  apply prefixed_recovers
  intro outer trees rest hfollows
  obtain ⟨hpositive, hnegative⟩ := hoperand.first_ne rest
  have hsecond := hoperand.second_ne_colon hfollows
  have hread {looks : Nat} (hfew : looks ≤ 16) :=
    (@h.goes outer trees rest (follows_repeated hfollows)).weaken
      fun hs : Facing looks outer trees (words ++ rest) _ ↦ hs.toStanding.mono hfew
  apply (current_goes (by decide)).knowing
  split
  · next hkind => exact absurd hkind hpositive
  · next hkind => exact absurd hkind hnegative
  · apply ((nextIs_goes (by decide) .colon).weaken Facing.toStanding).knowing
    rw [hsecond]
    exact hread (by decide)
  · exact hread (by decide)

theorem operand_goes (h : Recovers names 2 item words expr) (hbegins : Begins words)
    (hfollows : follows 2 (firstKind rest) = true) (what : String) :
    Settles never (Standing 0 outer trees (words ++ rest)) (operand item what) fun _ s ↦
      ∃ tree, tree.Conveys names expr ∧ Standing 0 outer (trees ++ [tree]) rest s := by
  have hfirst : KindSet.expressionFirst.contains (firstKind (words ++ rest)) = true := by
    obtain ⟨hfirst⟩ := hbegins
    exact hfirst
  apply (currentIsIn_goes (by decide) .expressionFirst).knowing
  rw [hfirst]
  exact (h.goes hfollows).weaken fun hs ↦ hs.toStanding.mono (by decide)

theorem lookahead_recovers {levels : Nat} {mark : String}
    (h : Recovers names 2 (prefixed levels) words expr) (hbegins : Begins words)
    (hmark : kind = .amp ∨ kind = .bang) :
    Recovers names 2 (prefixed (levels + 1)) ((kind, mark) :: words)
      (if kind = .bang then .negativeLookahead expr else .lookahead expr) := by
  apply prefixed_recovers
  intro outer trees rest hfollows
  have hblock : (words ++ rest).head?.any (·.1 == .block) = false := by
    obtain @⟨_, _, _, hfirst⟩ := hbegins
    rw [List.cons_append, List.head?_cons, Option.any_some, beq_eq_false_iff_ne]
    rintro rfl
    cases hfirst
  have hguarded : Settles never (Facing 1 outer trees ((kind, mark) :: (words ++ rest)))
      (guarded (prefixed levels)) fun _ s ↦ ∃ tree, tree.Conveys names
        (if kind = .bang then .negativeLookahead expr else .lookahead expr) ∧
          Standing 16 outer (trees ++ [tree]) rest s := by
    apply ((nextIs_goes (by decide) .block).weaken Facing.toStanding).knowing
    rw [List.tail_cons, hblock]
    apply node_goes
    apply bump_goes.adding
    intro _ token htoken
    obtain rfl : token.kind = kind := congrArg Prod.fst htoken
    apply (operand_goes h hbegins hfollows "lookahead").imp And.left
    rintro _ s ⟨tree, hconveys, hs⟩
    refine ⟨_, fun children hchildren ↦ ?_, hs.mono (by decide)⟩
    have hparts : ∀ part ∈ [.leaf token, tree], part.Faultless names := by
      simp [leaf_faultless, hconveys.faultless]
    exact ⟨means_lookahead hconveys.means hchildren hmark,
      operator_faultless hchildren (by decide) hparts⟩
  apply (current_goes (by decide)).knowing
  rcases hmark with rfl | rfl <;> exact hguarded

theorem predicate_recovers {levels : Nat} {mark text : String} {inner : List Char}
    (hmark : kind = .amp ∨ kind = .bang) (hbraces : text.toList = '{' :: inner ++ ['}']) :
    Recovers names 2 (prefixed (levels + 1)) [(kind, mark), (.block, text)]
      (.predicate (String.ofList (Unicode.trimBlanks inner)) (kind == .bang)) := by
  apply prefixed_recovers
  intro outer trees rest hfollows
  have hjoins : kind.joins .block = true := by
    rcases hmark with rfl | rfl <;> rfl
  have hguarded : Settles never (Facing 1 outer trees ((kind, mark) :: (.block, text) :: rest))
      (guarded (prefixed levels)) fun _ s ↦ ∃ tree, tree.Conveys names
        (.predicate (String.ofList (Unicode.trimBlanks inner)) (kind == .bang)) ∧
          Standing 16 outer (trees ++ [tree]) rest s := by
    apply ((nextIs_goes (by decide) .block).weaken Facing.toStanding).knowing
    apply node_goes
    apply bump_goes.adding
    intro _ token htoken
    obtain rfl : token.kind = kind := congrArg Prod.fst htoken
    apply (bump_goes.weaken fun ⟨hs, hpassed⟩ ↦ ⟨hs, hpassed hjoins⟩).imp id
    rintro _ s ⟨block, hblock, hs, _⟩
    refine ⟨_, fun children hchildren ↦ ?_, hs.mono (by decide)⟩
    obtain ⟨hkind, rfl⟩ := Prod.mk.inj hblock
    have hparts : ∀ part ∈ [leaf token, .leaf block], part.Faultless names := by
      simp [leaf_faultless]
    exact ⟨means_predicate hchildren hmark hkind hbraces,
      operator_faultless hchildren (by decide) hparts⟩
  apply (current_goes (by decide)).knowing
  rcases hmark with rfl | rfl <;> exact hguarded

theorem label_recovers {levels : Nat} {name colon : String}
    (h : Recovers names 2 (prefixed levels) words expr) (hbegins : Begins words) :
    Recovers names 2 (prefixed (levels + 1)) ((.identifier, name) :: (.colon, colon) :: words)
      (.label name expr) := by
  apply prefixed_recovers
  intro outer trees rest hfollows
  apply (current_goes (by decide)).knowing
  apply ((nextIs_goes (by decide) .colon).weaken Facing.toStanding).knowing
  apply node_goes
  apply bump_goes.adding
  intro _ token htoken
  obtain ⟨hname, rfl⟩ := Prod.mk.inj htoken
  apply (bump_goes.weaken fun ⟨hs, hpassed⟩ ↦ ⟨hs, hpassed rfl⟩).adding
  intro _ mark hmark
  apply (operand_goes h hbegins hfollows "label").imp And.left
  rintro _ s ⟨tree, hconveys, hs⟩
  refine ⟨_, fun children hchildren ↦ ?_, hs.mono (by decide)⟩
  have hparts : ∀ part ∈ [.leaf token, .leaf mark, tree], part.Faultless names := by
    simp [leaf_faultless, hconveys.faultless]
  exact ⟨means_label hconveys.means hchildren hname (congrArg Prod.fst hmark),
    operator_faultless hchildren (by decide) hparts⟩

end PegKit.Cst.Parse
