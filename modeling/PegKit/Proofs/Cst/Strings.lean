import PegKit.Proofs.Cst.Following
import PegKit.Proofs.Cst.Totality
import PegKit.Proofs.Token.Spans

/-!
# String nodes

Reading tears a string apart only between rules, where a quote is no token to expect and is put into
an error node by itself. Where an expression is read, the strings ahead are whole. So what a string
begins with is an opening quote, and the quote that closes it is found.
-/

namespace PegKit.Cst

open Token (Whole)

/-! ## Closed strings -/

/-- A quote, perhaps a value, and the same quote. -/
inductive ClosedString : List Cst → Prop
  | empty {opening closing : Token}
      (quote : opening.kind = .doubleQuote ∨ opening.kind = .singleQuote)
      (same : closing.kind = opening.kind) : ClosedString [.leaf opening, .leaf closing]
  | valued {opening value closing : Token}
      (quote : opening.kind = .doubleQuote ∨ opening.kind = .singleQuote)
      (inner : value.kind = .stringValue) (same : closing.kind = opening.kind) :
      ClosedString [.leaf opening, .leaf value, .leaf closing]

/-- The string nodes in the tree are closed strings. -/
def StringsClosed (tree : Cst) : Prop :=
  ∀ found ∈ tree.nodes, found.kind = .strNode → ClosedString found.children

theorem leaf_stringsClosed (token : Token) : (Cst.leaf token).StringsClosed := by
  intro found hfound
  cases hfound

theorem node_stringsClosed {kind : Kind} {children : List Cst}
    (hself : kind = .strNode → ClosedString children)
    (hchildren : ∀ child ∈ children, child.StringsClosed) :
    (Cst.node kind children).StringsClosed := by
  intro found hfound
  rw [nodes, nodesOfList_eq_flatMap] at hfound
  rcases List.mem_cons.mp hfound with rfl | hfound
  · exact hself
  · obtain ⟨child, hchild, hfound⟩ := List.mem_flatMap.mp hfound
    exact hchildren child hchild found hfound

theorem ClosedString.leaves {children : List Cst} (h : ClosedString children) :
    ∀ child ∈ children, child.StringsClosed := by
  cases h <;> simp [leaf_stringsClosed]

namespace Parse

/-! ## Tokens ahead -/

/-- What is left of tokens with whole strings, perhaps from the middle of one on. -/
def Remnant (tokens : List Token) : Prop := ∃ before, Whole (before ++ tokens)

/-- The first token is of `kind`, and no trivia. -/
structure Headed (ahead : List Token → Prop) (kind : Kind) (tokens : List Token) : Prop where
  ahead : ahead tokens
  head : first tokens = kind
  passed : ∀ token ∈ tokens.head?, token.isTrivia = false

/-- It stays true when trivia is passed. -/
def Skippable (ahead : List Token → Prop) : Prop :=
  ∀ {token rest}, token.isTrivia = true → ahead (token :: rest) → ahead rest

variable {ahead ahead' : List Token → Prop} {tokens rest : List Token} {token : Token} {kind : Kind}

theorem isLiteralPart_of_isTrivia (h : token.isTrivia = true) :
    token.kind.isLiteralPart = false := by
  rw [← Bool.not_eq_true]
  intro hpart
  rw [Token.isTrivia, Kind.isTrivia_of_isLiteralPart hpart] at h
  cases h

theorem whole_skippable : Skippable Whole :=
  fun htrivia hwhole ↦ hwhole.tail (isLiteralPart_of_isTrivia htrivia)

theorem Remnant.tail (h : Remnant (token :: rest)) : Remnant rest := by
  obtain ⟨before, hwhole⟩ := h
  exact ⟨before ++ [token], by rwa [List.append_assoc, List.singleton_append]⟩

theorem remnant_skippable : Skippable Remnant := fun _ h ↦ h.tail

theorem headed_skippable : Skippable (Headed ahead kind) := by
  intro token rest htrivia h
  rw [h.passed token rfl] at htrivia
  cases htrivia

theorem Skippable.dropWhile (h : Skippable ahead) (htokens : ahead tokens) :
    ahead (tokens.dropWhile Token.isTrivia) := by
  induction tokens with
  | nil => exact htokens
  | cons token rest ih =>
    rw [List.dropWhile_cons]
    split
    · next htrivia => exact ih (h htrivia htokens)
    · exact htokens

theorem Headed.of_dropWhile (h : ahead (tokens.dropWhile Token.isTrivia)) :
    Headed ahead (first (tokens.dropWhile Token.isTrivia)) (tokens.dropWhile Token.isTrivia) := by
  refine ⟨h, rfl, fun token htoken ↦ ?_⟩
  have hhead := List.head?_dropWhile_not Token.isTrivia tokens
  rw [Option.mem_def.mp htoken] at hhead
  simpa using hhead

/-- A quote in front of whole strings is an opening one; after any other token they are whole. -/
theorem Headed.whole_tail (h : Headed Whole kind (token :: rest))
    (hkind : kind ≠ .doubleQuote ∧ kind ≠ .singleQuote) : Whole rest := by
  obtain ⟨hwhole, hhead, _⟩ := h
  obtain rfl : token.kind = kind := hhead
  cases hwhole with
  | plain _ _ others => exact others
  | empty quote _ _ => exact absurd quote (not_or.mpr hkind)
  | literal quote _ _ _ => exact absurd quote (not_or.mpr hkind)

theorem isLiteralPart_of_quote (h : token.kind = .doubleQuote ∨ token.kind = .singleQuote) :
    token.kind.isLiteralPart = true := by
  rcases h with h | h <;> rw [h] <;> rfl

/-- A token that is no part of a string stands outside of strings. -/
theorem whole_of_append {before : List Token} (h : Whole (before ++ token :: rest))
    (hpart : token.kind.isLiteralPart = false) : Whole (token :: rest) := by
  have hother {part : Token} (hliteral : part.kind.isLiteralPart = true) : part ≠ token := by
    rintro rfl
    rw [hpart] at hliteral
    cases hliteral
  generalize hall : before ++ token :: rest = all at h
  induction h generalizing before with
  | nil => exact absurd hall (by simp)
  | plain part braces others ih =>
    rcases List.append_eq_cons_iff.mp hall with ⟨_, hrest⟩ | ⟨_, _, hrest⟩
    · rw [hrest]
      exact .plain part braces others
    · exact ih hrest.symm
  | @empty opening closing _ quote same _ ih =>
    have hopening := isLiteralPart_of_quote quote
    match before with
    | [] => exact absurd (List.cons.inj hall).1.symm (hother hopening)
    | [_] =>
      have hclosing := (List.cons.inj (List.cons.inj hall).2).1
      exact absurd hclosing.symm (hother (by rwa [same]))
    | _ :: _ :: _ => exact ih (List.cons.inj (List.cons.inj hall).2).2
  | @literal opening value closing _ quote inner same _ ih =>
    have hopening := isLiteralPart_of_quote quote
    match before with
    | [] => exact absurd (List.cons.inj hall).1.symm (hother hopening)
    | [_] =>
      have hvalue := (List.cons.inj (List.cons.inj hall).2).1
      exact absurd hvalue.symm (hother (by rw [inner]; rfl))
    | [_, _] =>
      have hclosing := (List.cons.inj (List.cons.inj (List.cons.inj hall).2).2).1
      exact absurd hclosing.symm (hother (by rwa [same]))
    | _ :: _ :: _ :: _ => exact ih (List.cons.inj (List.cons.inj (List.cons.inj hall).2).2).2

theorem Remnant.whole (h : Remnant (token :: rest)) (hpart : token.kind.isLiteralPart = false) :
    Whole (token :: rest) := by
  obtain ⟨before, hwhole⟩ := h
  exact whole_of_append hwhole hpart

/-! ## Looking -/

def whatever : Fault → Prop := fun _ ↦ True

/-- The tokens ahead are as told, and what the open node holds has closed strings. -/
structure Intact (ahead : List Token → Prop) (s : State) : Prop where
  ahead : ahead s.remaining
  closed : ∀ tree ∈ s.built.toList, tree.StringsClosed

theorem Intact.imp {s : State} (h : Intact ahead s)
    (himp : ahead s.remaining → ahead' s.remaining) : Intact ahead' s :=
  ⟨himp h.ahead, h.closed⟩

theorem Intact.unheaded {s : State} (h : Intact (Headed ahead kind) s) : Intact ahead s :=
  h.imp Headed.ahead

variable {α β : Type}

/-- What is known of the tokens ahead stays known. -/
abbrev Keeps (ahead : List Token → Prop) (m : Parse α) : Prop :=
  Settles whatever (Intact ahead) m fun _ ↦ Intact ahead

namespace Settles

variable {before : State → Prop} {after : α → State → Prop}

/-- What holds after every run that ends well. -/
theorem of_run {m : Parse α} (h : ∀ {s a s'}, before s → m.run s = .ok (a, s') → after a s') :
    Settles whatever before m after where
  holds {s} hs := by
    cases hrun : m.run s with
    | ok found => exact .inl ⟨found.1, found.2, rfl, h hs hrun⟩
    | error fault => exact .inr ⟨fault, rfl, trivial⟩

theorem run {m : Parse α} {s s' : State} {a : α} (h : Settles whatever before m after)
    (hs : before s) (hrun : m.run s = .ok (a, s')) : after a s' := by
  rcases h.holds hs with ⟨b, s₁, hsame, hafter⟩ | ⟨fault, hfault, _⟩
  · rw [hrun] at hsame
    cases hsame
    exact hafter
  · rw [hrun] at hfault
    cases hfault

theorem throw (fault : Fault) : Settles whatever before (throw fault : Parse α) after where
  holds _ := .inr ⟨fault, rfl, trivial⟩

/-- What every step keeps, a loop keeps. -/
theorem untilDone {step : α → Parse (Option α)}
    (h : ∀ a, Settles whatever before (step a) fun _ ↦ before) (a : α) :
    Settles whatever before (Parse.untilDone step a) fun _ ↦ before := by
  have hiterate (bound : Nat) (a : α) :
      Settles whatever before (iterate step bound a) fun _ ↦ before := by
    induction bound generalizing a with
    | zero => exact throw _
    | succ bound ih =>
      apply (h a).bind
      intro result
      cases result with
      | none => exact .pure id
      | some next => exact ih next
  exact .get_bind fun s ↦ (hiterate _ a).weaken And.right

end Settles

theorem passTrivia_intact (h : Skippable ahead) : Settles whatever (Intact ahead) passTrivia
    fun _ s ↦ ∃ kind, Intact (Headed ahead kind) s :=
  .modify fun hs ↦ ⟨_, .of_dropWhile (h.dropWhile hs.ahead), hs.closed⟩

theorem passTrivia_keeps (h : Skippable ahead) : Keeps ahead passTrivia :=
  (passTrivia_intact h).imp id fun ⟨_, hs⟩ ↦ hs.unheaded

theorem countLookahead_keeps : Keeps ahead countLookahead := by
  apply Settles.of_run
  intro s _ s' hs hrun
  obtain ⟨lookaheads, rfl⟩ := countLookahead_reads hrun
  exact ⟨hs.ahead, hs.closed⟩

theorem restoreLookaheads_keeps : Keeps ahead restoreLookaheads :=
  .modify fun hs ↦ ⟨hs.ahead, hs.closed⟩

theorem current_intact (h : Skippable ahead) : Settles whatever (Intact ahead) current
    fun kind ↦ Intact (Headed ahead kind) :=
  (passTrivia_intact h).bind fun _ ↦ .choose fun _ ↦ countLookahead_keeps.bind fun _ ↦
    .gets fun hs ↦ ⟨⟨hs.ahead.ahead, rfl, hs.ahead.passed⟩, hs.closed⟩

theorem currentSpan_keeps (h : Skippable ahead) : Keeps ahead currentSpan :=
  (passTrivia_keeps h).bind fun _ ↦ .gets id

theorem atEnd_keeps (h : Skippable ahead) : Keeps ahead atEnd :=
  (passTrivia_keeps h).bind fun _ ↦ .gets id

/-- What depends on a test of the current token's kind. -/
theorem tested_then (h : Skippable ahead) {test : Kind → Bool} {next : Bool → Parse α}
    {after : α → State → Prop} (hnext : ∀ kind,
      Settles whatever (Intact (Headed ahead kind)) (next (test kind)) after) :
    Settles whatever (Intact ahead) ((return test (← current)) >>= next) after := by
  have htest : Settles whatever (Intact ahead) (return test (← current) : Parse Bool) fun found s ↦
      ∃ kind, found = test kind ∧ Intact (Headed ahead kind) s :=
    (current_intact h).bind fun kind ↦ .pure fun hs ↦ ⟨kind, rfl, hs⟩
  exact htest.bind fun _ ↦ .choose fun kind ↦ .assume fun hfound ↦ hfound ▸ hnext kind

theorem currentIs_then (h : Skippable ahead) {expected : Kind} {next : Bool → Parse α}
    {after : α → State → Prop} (hnext : ∀ kind,
      Settles whatever (Intact (Headed ahead kind)) (next (kind == expected)) after) :
    Settles whatever (Intact ahead) (currentIs expected >>= next) after := tested_then h hnext

theorem currentIsIn_then (h : Skippable ahead) {set : KindSet} {next : Bool → Parse α}
    {after : α → State → Prop} (hnext : ∀ kind,
      Settles whatever (Intact (Headed ahead kind)) (next (set.contains kind)) after) :
    Settles whatever (Intact ahead) (currentIsIn set >>= next) after := tested_then h hnext

theorem expect_intact (h : Skippable ahead) (kind : Kind) :
    Settles whatever (Intact ahead) (expect kind) fun _ ↦ Intact (Headed ahead kind) :=
  (current_intact h).bind fun _ ↦ .ite (fun _ ↦ .throw _) fun hsame ↦
    .pure fun hs ↦ not_not.mp hsame ▸ hs

/-! ## Building and reporting -/

theorem leaves_stringsClosed (tokens : List Token) :
    ∀ tree ∈ tokens.map Cst.leaf, tree.StringsClosed := by
  intro tree htree
  obtain ⟨token, _, rfl⟩ := List.mem_map.mp htree
  exact leaf_stringsClosed token

theorem addTrivia_keeps : Keeps ahead addTrivia := by
  apply Settles.modify
  intro s hs
  refine ⟨hs.ahead, ?_⟩
  rw [Array.toList_append, List.forall_mem_append]
  exact ⟨hs.closed, leaves_stringsClosed s.pending⟩

theorem mark_keeps : Keeps ahead mark := addTrivia_keeps.bind fun _ ↦ .gets id

/-- What is put after the trivia held back. -/
theorem closed_push {s : State} {tree : Cst} (hs : ∀ tree ∈ s.built.toList, tree.StringsClosed)
    (htree : tree.StringsClosed) :
    ∀ found ∈ ((s.built ++ (s.pending.map Cst.leaf).toArray).push tree).toList,
      found.StringsClosed := by
  rw [Array.toList_push, Array.toList_append, List.forall_mem_append, List.forall_mem_append,
    List.forall_mem_singleton]
  exact ⟨⟨hs, leaves_stringsClosed s.pending⟩, htree⟩

theorem bump_intact (h : ∀ {token rest}, ahead (token :: rest) → ahead' rest) :
    Settles whatever (Intact ahead) bump fun _ ↦ Intact ahead' := by
  apply Settles.of_run
  intro s _ s' hs hrun
  obtain ⟨token, rest, hremaining, rfl⟩ := run_bump hrun
  exact ⟨h (hremaining ▸ hs.ahead), closed_push hs.closed (leaf_stringsClosed token)⟩

theorem node_intact {kind : Kind} (hkind : kind ≠ .strNode) {body : Parse Unit}
    (h : Settles whatever (Intact ahead) body fun _ ↦ Intact ahead') :
    Settles whatever (Intact ahead) (node kind body) fun _ ↦ Intact ahead' := by
  apply Settles.of_run
  intro s _ s' hs hrun
  obtain ⟨s₁, hbody, rfl⟩ := run_node hrun
  have hopened : Intact ahead { s with pending := [], built := #[] } :=
    ⟨hs.ahead, by rintro _ ⟨⟩⟩
  have hinner := h.run hopened hbody
  exact ⟨hinner.ahead, closed_push hs.closed
    (node_stringsClosed (fun hsame ↦ absurd hsame hkind) hinner.closed)⟩

theorem wrapFrom_keeps {kind : Kind} (hkind : kind ≠ .strNode) (start : Nat) :
    Keeps ahead (wrapFrom start kind) := by
  apply Settles.modify
  intro s hs
  have htake : (s.built.take start).toList = s.built.toList.take start := by simp
  refine ⟨hs.ahead, ?_⟩
  rw [Array.toList_push, htake, List.forall_mem_append, List.forall_mem_singleton]
  refine ⟨fun tree htree ↦ hs.closed tree (List.mem_of_mem_take htree), ?_⟩
  exact node_stringsClosed (fun hsame ↦ absurd hsame hkind)
    fun child hchild ↦ hs.closed child (List.mem_of_mem_drop hchild)

theorem freshPlace_keeps (offset : Nat) : Keeps ahead (freshPlace offset) := by
  apply Settles.of_run
  intro s _ s' hs hrun
  cases run_get_bind hrun
  exact ⟨hs.ahead, hs.closed⟩

theorem report_keeps (diagnostic : Diagnostic) : Keeps ahead (report diagnostic) :=
  .modify fun hs ↦ ⟨hs.ahead, hs.closed⟩

theorem reportHere_keeps (h : Skippable ahead) (wording : Text.Span → Diagnostic) :
    Keeps ahead (reportHere wording) :=
  (currentSpan_keeps h).bind fun _ ↦ (freshPlace_keeps _).bind fun _ ↦
    .ite (fun _ ↦ report_keeps _) fun _ ↦ .pure id

theorem errorUnclosed_keeps (h : Skippable ahead) (kind : DiagnosticKind) (note : String)
    (opening : Text.Span) : Keeps ahead (errorUnclosed kind note opening) := reportHere_keeps h _

/-- The current token in an error node. -/
theorem errorAndBump_intact (h : Skippable ahead)
    (hbump : ∀ {token rest}, ahead (token :: rest) → ahead' rest) (hend : ahead [] → ahead' [])
    (kind : DiagnosticKind) (detail : String) :
    Settles whatever (Intact ahead) (errorAndBump kind detail) fun _ ↦ Intact ahead' := by
  refine (reportHere_keeps h _).bind fun _ ↦ .get_bind fun s ↦ .ite (fun _ ↦ ?_) fun hnone ↦ ?_
  · exact (node_intact (by decide) (bump_intact hbump)).weaken And.right
  · apply Settles.pure
    rintro s' ⟨rfl, hs⟩
    have hempty : s'.remaining = [] := by simpa using hnone
    refine hs.imp fun hahead ↦ ?_
    rw [hempty] at hahead ⊢
    exact hend hahead

/-! ## Strings -/

/-- The tokens ahead and the trees in the open node, no trivia held back. -/
structure Exactly (tokens : List Token) (trees : List Cst) (s : State) : Prop where
  remaining : s.remaining = tokens
  pending : s.pending = []
  built : s.built.toList = trees

variable {trees : List Cst}

theorem current_exactly (h : token.isTrivia = false) :
    Settles whatever (Exactly (token :: rest) trees) current
      fun kind s ↦ kind = token.kind ∧ Exactly (token :: rest) trees s := by
  have hpass : Settles whatever (Exactly (token :: rest) trees) passTrivia
      fun _ ↦ Exactly (token :: rest) trees := by
    apply Settles.modify
    rintro s ⟨hremaining, hpending, hbuilt⟩
    have hnone : ¬token.isTrivia = true := by simp [h]
    exact ⟨by simp [hremaining, hnone],
      by simp [hremaining, hpending, hnone], hbuilt⟩
  have hcount : Settles whatever (Exactly (token :: rest) trees) countLookahead
      fun _ ↦ Exactly (token :: rest) trees := by
    apply Settles.of_run
    intro s _ s' hs hrun
    obtain ⟨lookaheads, rfl⟩ := countLookahead_reads hrun
    exact ⟨hs.remaining, hs.pending, hs.built⟩
  refine hpass.bind fun _ ↦ hcount.bind fun _ ↦ .gets fun hs ↦ ⟨?_, hs⟩
  rw [hs.remaining]
  rfl

theorem bump_exactly : Settles whatever (Exactly (token :: rest) trees) bump
    fun _ ↦ Exactly rest (trees ++ [.leaf token]) := by
  apply Settles.of_run
  rintro s _ s' ⟨hremaining, hpending, hbuilt⟩ hrun
  obtain ⟨_, _, hfront, rfl⟩ := run_bump hrun
  obtain ⟨rfl, rfl⟩ := List.cons.inj (hremaining.symm.trans hfront)
  exact ⟨rfl, rfl, by simp [hpending, hbuilt]⟩

theorem currentIs_exactly (h : token.isTrivia = false) (kind : Kind) :
    Settles whatever (Exactly (token :: rest) trees) (currentIs kind)
      fun found s ↦ found = (token.kind == kind) ∧ Exactly (token :: rest) trees s :=
  (current_exactly h).bind fun _ ↦ .pure fun hs ↦ ⟨by rw [hs.1], hs.2⟩

theorem eat_exactly (h : token.isTrivia = false) (hkind : token.kind = kind) :
    Settles whatever (Exactly (token :: rest) trees) (eat kind)
      fun _ ↦ Exactly rest (trees ++ [.leaf token]) :=
  (currentIs_exactly h kind).bind fun _ ↦ .assume fun hfound ↦ .ite
    (fun _ ↦ bump_exactly.bind fun _ ↦ .pure id)
    fun hother ↦ absurd (hfound.trans (beq_iff_eq.mpr hkind)) hother

theorem eat_other (h : token.isTrivia = false) (hkind : token.kind ≠ kind) :
    Settles whatever (Exactly (token :: rest) trees) (eat kind)
      fun _ ↦ Exactly (token :: rest) trees :=
  (currentIs_exactly h kind).bind fun _ ↦ .assume fun hfound ↦ .ite
    (fun hsame ↦ absurd (beq_iff_eq.mp (hfound.symm.trans hsame)) hkind) fun _ ↦ .pure id

theorem not_isTrivia_of_quote (h : token.kind = .doubleQuote ∨ token.kind = .singleQuote) :
    token.isTrivia = false :=
  Kind.isTrivia_of_isLiteralPart (isLiteralPart_of_quote h)

/-- What a string node holds: the string at the front as a whole. -/
theorem stringBody_closed {opening : Token}
    (hquote : opening.kind = .doubleQuote ∨ opening.kind = .singleQuote)
    (h : Whole (opening :: rest)) :
    Settles whatever (Exactly (opening :: rest) []) (do
      let quote ← current
      bump
      let _ ← eat .stringValue
      let _ ← eat quote) fun _ s ↦ Whole s.remaining ∧ ClosedString s.built.toList := by
  refine (current_exactly (not_isTrivia_of_quote hquote)).bind fun quote ↦ .assume ?_
  rintro rfl
  refine bump_exactly.bind fun _ ↦ ?_
  cases h with
  | plain part _ _ =>
    rw [isLiteralPart_of_quote hquote] at part
    cases part
  | @empty _ closing others _ same hothers =>
    have hclosing := not_isTrivia_of_quote (same ▸ hquote : closing.kind = _ ∨ closing.kind = _)
    have hvalue : closing.kind ≠ .stringValue := by
      rw [same]
      rcases hquote with hquote | hquote <;> rw [hquote] <;> decide
    refine (eat_other hclosing hvalue).bind fun _ ↦ (eat_exactly hclosing same).bind fun _ ↦
      .pure fun hs ↦ ?_
    rw [hs.remaining, hs.built]
    exact ⟨hothers, .empty hquote same⟩
  | @literal _ value closing others _ inner same hothers =>
    have hclosing := not_isTrivia_of_quote (same ▸ hquote : closing.kind = _ ∨ closing.kind = _)
    have hvalue : value.isTrivia = false := by
      rw [Token.isTrivia, inner]
      rfl
    refine (eat_exactly hvalue inner).bind fun _ ↦ (eat_exactly hclosing same).bind fun _ ↦
      .pure fun hs ↦ ?_
    rw [hs.remaining, hs.built]
    exact ⟨hothers, .valued hquote inner same⟩

/-- A string is read as a whole, with the quote that closes it. -/
theorem string_intact (hquote : kind = .doubleQuote ∨ kind = .singleQuote) :
    Settles whatever (Intact (Headed Whole kind)) string fun _ ↦ Intact Whole := by
  apply Settles.of_run
  intro s _ s' hs hrun
  obtain ⟨s₁, hbody, rfl⟩ := run_node hrun
  obtain ⟨hwhole, hkind, _⟩ := hs.ahead
  cases hremaining : s.remaining with
  | nil =>
    rw [hremaining] at hkind
    rw [← hkind] at hquote
    rcases hquote with hquote | hquote <;> cases hquote
  | cons opening rest =>
    rw [hremaining] at hwhole hkind
    have hopening : opening.kind = kind := hkind
    rw [← hopening] at hquote
    have hopened : Exactly (opening :: rest) [] { s with pending := [], built := #[] } :=
      ⟨hremaining, rfl, rfl⟩
    obtain ⟨hothers, hclosed⟩ := (stringBody_closed hquote hwhole).run hopened hbody
    exact ⟨hothers, closed_push hs.closed
      (node_stringsClosed (fun _ ↦ hclosed) hclosed.leaves)⟩

/-! ## Expressions -/

/-- Consuming a token that is no quote leaves strings whole. -/
theorem bump_keeps (h : kind ≠ .doubleQuote ∧ kind ≠ .singleQuote) :
    Settles whatever (Intact (Headed Whole kind)) bump fun _ ↦ Intact Whole :=
  bump_intact fun hheaded ↦ hheaded.whole_tail h

theorem eat_intact (h : Skippable ahead) {expected : Kind}
    (hbump : Settles whatever (Intact (Headed ahead expected)) bump fun _ ↦ Intact ahead) :
    Keeps ahead (eat expected) := by
  refine currentIs_then h fun kind ↦ .ite (fun hsame ↦ ?_) fun _ ↦ .pure Intact.unheaded
  rw [beq_iff_eq.mp hsame]
  exact hbump.bind fun _ ↦ .pure id

theorem eat_keeps {expected : Kind} (h : expected ≠ .doubleQuote ∧ expected ≠ .singleQuote) :
    Keeps Whole (eat expected) :=
  eat_intact whole_skippable (bump_keeps h)

theorem single_intact {other : Kind} (h : kind ≠ .doubleQuote ∧ kind ≠ .singleQuote)
    (hother : other ≠ .strNode) :
    Settles whatever (Intact (Headed Whole kind)) (single other) fun _ ↦ Intact Whole :=
  node_intact hother (bump_keeps h)

theorem errorAndBump_keeps (h : kind ≠ .doubleQuote ∧ kind ≠ .singleQuote)
    (report : DiagnosticKind) (detail : String) :
    Settles whatever (Intact (Headed Whole kind)) (errorAndBump report detail)
      fun _ ↦ Intact Whole :=
  errorAndBump_intact headed_skippable (fun hheaded ↦ hheaded.whole_tail h) Headed.ahead _ _

theorem not_quote_of_not_contains {set : KindSet} (h : ¬set.contains kind = true)
    (hdouble : set.contains .doubleQuote = true) (hsingle : set.contains .singleQuote = true) :
    kind ≠ .doubleQuote ∧ kind ≠ .singleQuote :=
  ⟨by rintro rfl; exact h hdouble, by rintro rfl; exact h hsingle⟩

theorem nextQuantifier_whole (start : Nat) (u : Unit) : Keeps Whole (nextQuantifier start u) := by
  refine currentIsIn_then whole_skippable fun kind ↦ .ite (fun _ ↦ .pure Intact.unheaded)
    fun hmark ↦ ?_
  have hkind : kind ≠ .doubleQuote ∧ kind ≠ .singleQuote := by
    constructor <;> rintro rfl <;> exact hmark rfl
  exact (bump_keeps hkind).bind fun _ ↦ (wrapFrom_keeps (by decide) start).bind fun _ ↦ .pure id

/-- Trivia or a token of `next` comes first. -/
def Led (next : Kind) (tokens : List Token) : Prop :=
  ∀ token ∈ tokens.head?, token.isTrivia = true ∨ token.kind = next

theorem led_of_find? {next : Kind}
    (h : (tokens.find? fun token ↦ !token.isTrivia).any (·.kind == next) = true) :
    Led next tokens := by
  intro token htoken
  cases tokens with
  | nil => cases htoken
  | cons first others =>
    obtain rfl : first = token := Option.some.inj htoken
    cases htrivia : first.isTrivia with
    | true => exact .inl rfl
    | false =>
      rw [List.find?_cons, htrivia] at h
      exact .inr (beq_iff_eq.mp h)

theorem nextIs_intact (next : Kind) : Settles whatever (Intact (Headed Whole kind)) (nextIs next)
    fun found ↦ Intact fun tokens ↦
      Headed Whole kind tokens ∧ (found = true → Led next tokens.tail) := by
  refine (passTrivia_keeps headed_skippable).bind fun _ ↦ countLookahead_keeps.bind fun _ ↦
    .get_bind fun s ↦ ?_
  split
  · apply Settles.pure
    rintro s' ⟨_, hs⟩
    exact hs.imp fun hheaded ↦ ⟨hheaded, by rintro ⟨⟩⟩
  · next hremaining =>
    apply Settles.pure
    rintro s' ⟨rfl, hs⟩
    refine hs.imp fun hheaded ↦ ⟨hheaded, fun hfound ↦ ?_⟩
    rw [show s'.remaining = _ from hremaining]
    exact led_of_find? hfound

/-- The first of two tokens that are consumed together. -/
theorem bump_led {next : Kind} (h : kind ≠ .doubleQuote ∧ kind ≠ .singleQuote) :
    Settles whatever (Intact fun tokens ↦ Headed Whole kind tokens ∧ Led next tokens.tail) bump
      fun _ ↦ Intact fun tokens ↦ Whole tokens ∧ Led next tokens :=
  bump_intact fun ⟨hheaded, hled⟩ ↦ ⟨hheaded.whole_tail h, hled⟩

/-- What stands right after it, trivia or the second of them. -/
theorem bump_second {next : Kind} (hnext : next.isLiteralPart = false) :
    Settles whatever (Intact fun tokens ↦ Whole tokens ∧ Led next tokens) bump
      fun _ ↦ Intact Whole := by
  apply bump_intact
  rintro token rest ⟨hwhole, hled⟩
  apply hwhole.tail
  rcases hled token rfl with htrivia | hkind
  · exact isLiteralPart_of_isTrivia htrivia
  · rw [hkind]
    exact hnext

section Items

variable {item : Parse Unit} (hitem : Keeps Whole item)

include hitem

theorem nextItem_keeps (count : Nat) : Keeps Whole (nextItem item count) := by
  refine (atEnd_keeps whole_skippable).bind fun _ ↦ .ite (fun _ ↦ .pure id) fun _ ↦ ?_
  refine currentIsIn_then whole_skippable fun _ ↦ .ite (fun _ ↦ .pure Intact.unheaded) fun _ ↦ ?_
  refine (currentIsIn_then whole_skippable fun kind ↦ .ite (fun _ ↦ ?_) fun hother ↦ ?_).weaken
    Intact.unheaded
  · exact (hitem.weaken Intact.unheaded).bind fun _ ↦ .pure id
  · exact (errorAndBump_keeps (not_quote_of_not_contains hother rfl rfl) _ _).bind fun _ ↦ .pure id

theorem sequence_keeps : Keeps Whole (sequence item) :=
  mark_keeps.bind fun _ ↦ (Settles.untilDone (nextItem_keeps hitem) 0).bind fun _ ↦
    .ite (fun _ ↦ wrapFrom_keeps (by decide) _) fun _ ↦ .pure id

theorem nextAlternative_keeps (u : Unit) : Keeps Whole (nextAlternative item u) := by
  refine currentIs_then whole_skippable fun kind ↦ .ite (fun _ ↦ .pure Intact.unheaded)
    fun hslash ↦ ?_
  have hkind : kind ≠ .doubleQuote ∧ kind ≠ .singleQuote := by
    constructor <;> rintro rfl <;> exact hslash rfl
  refine (bump_keeps hkind).bind fun _ ↦ currentIsIn_then whole_skippable fun _ ↦ .ite
    (fun _ ↦ ?_) fun _ ↦ ?_
  · exact ((sequence_keeps hitem).weaken Intact.unheaded).bind fun _ ↦ .pure id
  · exact ((reportHere_keeps whole_skippable _).weaken Intact.unheaded).bind fun _ ↦ .pure id

theorem choice_keeps : Keeps Whole (choice item) := by
  refine mark_keeps.bind fun _ ↦ (sequence_keeps hitem).bind fun _ ↦
    currentIs_then whole_skippable fun _ ↦ .ite (fun _ ↦ ?_) fun _ ↦ .pure Intact.unheaded
  exact ((Settles.untilDone (nextAlternative_keeps hitem) ()).weaken Intact.unheaded).bind fun _ ↦
    wrapFrom_keeps (by decide) _

theorem group_keeps : Keeps Whole (group item) := by
  have hparen : Kind.parenOpen ≠ .doubleQuote ∧ Kind.parenOpen ≠ .singleQuote := by decide
  have hclose (opening : Text.Span) : Keeps Whole (do
      if !(← eat .parenClose) then
        errorUnclosed .unclosedGroup "group starts here" opening) :=
    (eat_keeps (by decide)).bind fun _ ↦
      .ite (fun _ ↦ errorUnclosed_keeps whole_skippable _ _ _) fun _ ↦ .pure id
  refine (expect_intact whole_skippable _).bind fun _ ↦ node_intact (by decide) ?_
  refine (currentSpan_keeps headed_skippable).bind fun opening ↦ (bump_keeps hparen).bind fun _ ↦
    currentIs_then whole_skippable fun kind ↦ .ite (fun hsame ↦ ?_) fun _ ↦ ?_
  · obtain rfl := beq_iff_eq.mp hsame
    exact (reportHere_keeps headed_skippable _).bind fun _ ↦ bump_keeps (by decide)
  · refine Settles.weaken ?_ Intact.unheaded
    refine currentIsIn_then whole_skippable fun _ ↦ .ite (fun _ ↦ ?_) fun _ ↦ ?_
    · exact ((choice_keeps hitem).weaken Intact.unheaded).bind fun _ ↦ hclose opening
    · exact (hclose opening).weaken Intact.unheaded

theorem primary_keeps : Keeps Whole (primary item) := by
  refine (current_intact whole_skippable).bind fun kind ↦ ?_
  split
  · exact single_intact (by decide) (by decide)
  · exact single_intact (by decide) (by decide)
  · exact single_intact (by decide) (by decide)
  · exact string_intact (.inl rfl)
  · exact string_intact (.inr rfl)
  · exact (group_keeps hitem).weaken Intact.unheaded
  · exact errorAndBump_keeps ⟨‹_›, ‹_›⟩ _ _

theorem repeated_keeps : Keeps Whole (repeated item) :=
  mark_keeps.bind fun start ↦ (primary_keeps hitem).bind fun _ ↦
    .untilDone (nextQuantifier_whole start) ()

theorem operand_keeps (what : String) : Keeps Whole (operand item what) :=
  currentIsIn_then whole_skippable fun _ ↦ .ite (fun _ ↦ hitem.weaken Intact.unheaded)
    fun _ ↦ (reportHere_keeps whole_skippable _).weaken Intact.unheaded

theorem guarded_intact (h : kind ≠ .doubleQuote ∧ kind ≠ .singleQuote) :
    Settles whatever (Intact (Headed Whole kind)) (guarded item) fun _ ↦ Intact Whole := by
  refine (nextIs_intact .block).bind fun _ ↦ .ite (fun hfound ↦ ?_) fun _ ↦ ?_
  · have hboth := (bump_led h).bind fun _ ↦ @bump_second .block rfl
    exact (node_intact (by decide) hboth).weaken fun hs ↦ hs.imp fun ⟨hheaded, hled⟩ ↦
      ⟨hheaded, hled hfound⟩
  · have hoperand := (bump_keeps h).bind fun _ ↦ operand_keeps hitem "lookahead"
    exact (node_intact (by decide) hoperand).weaken fun hs ↦ hs.imp And.left

theorem labelled_intact (h : kind ≠ .doubleQuote ∧ kind ≠ .singleQuote) :
    Settles whatever (Intact (Headed Whole kind)) (labelled item) fun _ ↦ Intact Whole := by
  refine (nextIs_intact .colon).bind fun _ ↦ .ite (fun hfound ↦ ?_) fun _ ↦ ?_
  · have hall := (bump_led h).bind fun _ ↦ (@bump_second .colon rfl).bind fun _ ↦
      operand_keeps hitem "label"
    exact (node_intact (by decide) hall).weaken fun hs ↦ hs.imp fun ⟨hheaded, hled⟩ ↦
      ⟨hheaded, hled hfound⟩
  · exact (repeated_keeps hitem).weaken fun hs ↦ (hs.imp And.left).unheaded

theorem prefixedBody_keeps : Keeps Whole (prefixedBody item) := by
  refine (current_intact whole_skippable).bind fun kind ↦ ?_
  split
  · exact guarded_intact hitem (by decide)
  · exact guarded_intact hitem (by decide)
  · exact labelled_intact hitem (by decide)
  · exact (repeated_keeps hitem).weaken Intact.unheaded

end Items

theorem prefixed_keeps (levels : Nat) : Keeps Whole (prefixed levels) := by
  induction levels with
  | zero => exact .throw _
  | succ levels ih =>
    exact restoreLookaheads_keeps.bind fun _ ↦ (prefixedBody_keeps ih).bind fun _ ↦
      restoreLookaheads_keeps

/-! ## Rules and grammars -/

theorem Intact.remnant {s : State} (h : Intact Whole s) : Intact Remnant s :=
  h.imp fun hwhole ↦ ⟨[], hwhole⟩

theorem bump_remnant : Keeps Remnant bump := bump_intact Remnant.tail

theorem stopsAt_keeps (recovery : KindSet) : Keeps Remnant (stopsAt recovery) :=
  currentIsIn_then remnant_skippable fun _ ↦ .ite (fun _ ↦ .pure Intact.unheaded)
    fun _ ↦ (atEnd_keeps remnant_skippable).weaken Intact.unheaded

theorem skipToken_keeps (recovery : KindSet) (u : Unit) : Keeps Remnant (skipToken recovery u) :=
  (stopsAt_keeps recovery).bind fun _ ↦ .ite (fun _ ↦ .pure id) fun _ ↦
    bump_remnant.bind fun _ ↦ .pure id

theorem errorAndRecover_keeps (kind : DiagnosticKind) (detail : String) (recovery : KindSet) :
    Keeps Remnant (errorAndRecover kind detail recovery) := by
  have hreport := reportHere_keeps remnant_skippable fun span ↦ .detailed kind span detail
  refine (stopsAt_keeps recovery).bind fun _ ↦ .ite (fun _ ↦ hreport) fun _ ↦ ?_
  exact node_intact (by decide) (hreport.bind fun _ ↦ .untilDone (skipToken_keeps recovery) ())

theorem endRule_keeps (opening : Text.Span) (u : Unit) : Keeps Remnant (endRule opening u) := by
  have hunclosed := errorUnclosed_keeps remnant_skippable .unclosedRule "rule starts here" opening
  refine (atEnd_keeps remnant_skippable).bind fun _ ↦ .ite
    (fun _ ↦ hunclosed.bind fun _ ↦ .pure id) fun _ ↦
      (current_intact remnant_skippable).bind fun kind ↦ ?_
  refine Settles.weaken ?_ Intact.unheaded
  split
  · exact bump_remnant.bind fun _ ↦ .pure id
  · exact hunclosed.bind fun _ ↦ .pure id
  · exact (errorAndRecover_keeps _ _ _).bind fun _ ↦ .pure id

/-- The body of a rule is read from whole strings on; what comes after it may be torn apart. -/
theorem ruleBody_intact (levels : Nat) (opening : Text.Span) :
    Settles whatever (Intact Whole) (ruleBody levels opening) fun _ ↦ Intact Remnant := by
  have hend := (Settles.untilDone (endRule_keeps opening) ()).weaken Intact.remnant
  refine (eat_keeps (by decide)).bind fun _ ↦ currentIsIn_then whole_skippable fun _ ↦
    .ite (fun _ ↦ ?_) fun _ ↦ ?_
  · exact ((choice_keeps (prefixed_keeps levels)).weaken Intact.unheaded).bind fun _ ↦ hend
  · exact ((reportHere_keeps whole_skippable _).weaken Intact.unheaded).bind fun _ ↦ hend

/-- A rule begins outside of strings. -/
theorem rule_keeps (levels : Nat) : Keeps Remnant (rule levels) := by
  have hbump : Settles whatever (Intact (Headed Remnant .keywordRule)) bump
      fun _ ↦ Intact Whole := by
    apply bump_intact
    rintro token rest ⟨hremnant, hkind, _⟩
    have hpart : token.kind.isLiteralPart = false := by
      rw [show token.kind = _ from hkind]
      rfl
    exact (hremnant.whole hpart).tail hpart
  refine (expect_intact remnant_skippable _).bind fun _ ↦ node_intact (by decide) ?_
  refine (currentSpan_keeps headed_skippable).bind fun opening ↦ hbump.bind fun _ ↦
    (eat_keeps (by decide)).bind fun _ ↦ .ite (fun _ ↦ ?_) fun _ ↦ ruleBody_intact levels opening
  exact (reportHere_keeps whole_skippable _).bind fun _ ↦ ruleBody_intact levels opening

theorem eat_remnant (kind : Kind) : Keeps Remnant (eat kind) :=
  eat_intact remnant_skippable (bump_remnant.weaken Intact.unheaded)

theorem nextSegment_keeps (u : Unit) : Keeps Remnant (nextSegment u) := by
  refine currentIs_then remnant_skippable fun _ ↦ Settles.weaken ?_ Intact.unheaded
  refine .ite (fun _ ↦ .pure id) fun _ ↦ bump_remnant.bind fun _ ↦ (eat_remnant _).bind fun _ ↦
    .ite (fun _ ↦ .pure id) fun _ ↦ ?_
  exact (reportHere_keeps remnant_skippable _).bind fun _ ↦ .pure id

theorem grammarName_keeps : Keeps Remnant grammarName := by
  refine currentIs_then remnant_skippable fun _ ↦ Settles.weaken ?_ Intact.unheaded
  refine .ite (fun _ ↦ node_intact (by decide) ?_) fun _ ↦ reportHere_keeps remnant_skippable _
  exact bump_remnant.bind fun _ ↦ .untilDone nextSegment_keeps ()

theorem nextRule_keeps (levels : Nat) (opening : Text.Span) (u : Unit) :
    Keeps Remnant (nextRule levels opening u) := by
  refine (atEnd_keeps remnant_skippable).bind fun _ ↦ .ite (fun _ ↦ ?_) fun _ ↦
    (current_intact remnant_skippable).bind fun kind ↦ Settles.weaken ?_ Intact.unheaded
  · exact (errorUnclosed_keeps remnant_skippable _ _ _).bind fun _ ↦ .pure id
  · split
    · exact (rule_keeps levels).bind fun _ ↦ .pure id
    · exact bump_remnant.bind fun _ ↦ .pure id
    · exact (errorAndBump_intact remnant_skippable Remnant.tail id _ _).bind fun _ ↦ .pure id

theorem grammar_keeps (levels : Nat) : Keeps Remnant (grammar levels) := by
  refine (expect_intact remnant_skippable _).bind fun _ ↦ node_intact (by decide) ?_
  refine Settles.weaken ?_ Intact.unheaded
  exact (currentSpan_keeps remnant_skippable).bind fun opening ↦ bump_remnant.bind fun _ ↦
    grammarName_keeps.bind fun _ ↦ (eat_remnant _).bind fun _ ↦
      .untilDone (nextRule_keeps levels opening) ()

theorem takeToken_keeps (u : Unit) : Keeps Remnant (takeToken u) :=
  Settles.bind (.gets id) fun _ ↦ .ite (fun _ ↦ .pure id) fun _ ↦
    bump_remnant.bind fun _ ↦ .pure id

theorem endOfText_keeps : Keeps Remnant endOfText := by
  refine (atEnd_keeps remnant_skippable).bind fun _ ↦ .ite (fun _ ↦ ?_) fun _ ↦ addTrivia_keeps
  exact (reportHere_keeps remnant_skippable _).bind fun _ ↦
    (node_intact (by decide) (.untilDone takeToken_keeps ())).bind fun _ ↦ addTrivia_keeps

theorem root_keeps (levels : Nat) : Keeps Remnant (root levels) := by
  refine node_intact (by decide) (currentIs_then remnant_skippable fun _ ↦
    Settles.weaken ?_ Intact.unheaded)
  refine .ite (fun _ ↦ ?_) fun _ ↦ ?_
  · exact (grammar_keeps levels).bind fun _ ↦ endOfText_keeps
  · exact (reportHere_keeps remnant_skippable _).bind fun _ ↦ endOfText_keeps

end Parse

/-- Every string in a tree has the quote that closes it. -/
theorem parse_stringsClosed {source : String} {limits : Limits} {parsed : Parsed}
    (h : parse source limits = .ok parsed) : parsed.root.StringsClosed := by
  obtain ⟨s, hrun, ⟨_, _, hbuilt⟩, _⟩ := parse_run h
  have hstart : Parse.Intact Parse.Remnant
      (Parse.start (Token.lex source.toList) source.utf8ByteSize limits.execFuel) :=
    ⟨⟨[], Token.lex_whole source.toList⟩, by rintro _ ⟨⟩⟩
  have hend := (Parse.root_keeps _).run hstart hrun
  exact hend.closed parsed.root (by rw [hbuilt]; exact List.mem_singleton_self _)

/-- The tokens of a text tile it. However it is read as a grammar, with errors or without, each
string node holds an opening quote, at most one value and the quote that closes it. -/
theorem tokens_tile_source (source : String) : Token.Spans source (Token.lex source.toList) ∧
    ∀ limits parsed, parse source limits = .ok parsed →
      ∀ found ∈ parsed.root.nodes, found.kind = .strNode → ClosedString found.children :=
  ⟨Token.lex_spans source, fun _ _ h ↦ parse_stringsClosed h⟩

/-- A grammar that goes on with what cannot stand there. -/
def tornSource : String := r#"grammar G rule r 'a' end "b" {}} $ end"#

theorem tokens_tile_source_torn : ∃ parsed found,
    Token.Spans tornSource (Token.lex tornSource.toList) ∧ parse tornSource {} = .ok parsed ∧
      found ∈ parsed.root.nodes ∧ found.kind = .strNode ∧ ClosedString found.children := by
  have hstrings : (parse tornSource {}).toOption.any
      (fun parsed ↦ parsed.root.nodes.any (·.kind == .strNode)) = true := by decide +kernel
  obtain ⟨htokens, hclosed⟩ := tokens_tile_source tornSource
  cases hparse : parse tornSource {} with
  | error fault =>
    rw [hparse] at hstrings
    cases hstrings
  | ok parsed =>
    rw [hparse] at hstrings
    obtain ⟨found, hfound, hkind⟩ := List.any_eq_true.mp hstrings
    have hstr : found.kind = .strNode := beq_iff_eq.mp hkind
    exact ⟨parsed, found, htokens, rfl, hfound, hstr, hclosed {} parsed hparse found hfound hstr⟩

end PegKit.Cst
