import Mathlib.Data.List.TakeWhile
import PegKit.Proofs.Cst.Means
import PegKit.Proofs.Cst.Preservation
import PegKit.Proofs.Token.Whole

/-!
# Reading without errors

Before the first report, the state of reading is told by the significant tokens ahead and the
significant trees that the open node holds. Each step on tokens says what it does to these; a step
that reports says so, and a report is never taken back.
-/

namespace PegKit.Cst.Parse

open Token (Whole)

/-! ## Reports -/

/-- An error has been reported. -/
def Reported (s : State) : Prop := s.diagnostics.hasErrors = true

def Stays (s s' : State) : Prop := Reported s → Reported s'

theorem stays_respected : Respected Stays where
  refl _ := id
  trans h h' hreported := h' (h hreported)
  looked _ _ := id
  passed _ := id
  flushed _ := id
  nested _ h := h
  wrapped _ _ _ := id
  taken _ _ _ _ _ := id
  placed _ _ := id
  reported s diagnostic h := by
    rw [Reported, Diagnostics.hasErrors, List.any_append]
    exact Bool.or_eq_true_iff.mpr (.inl h)

/-! ## States before the first report -/

/-- The open node holds `outer` and then trees of which `trees` are significant; the significant
tokens ahead are `tokens`. -/
structure At (outer trees : List Cst) (tokens : List Token) (s : State) : Prop where
  unreported : s.lastErrorAt = none
  pending : ∀ token ∈ s.pending, token.isTrivia = true
  ahead : Token.significant s.remaining = tokens
  built : ∃ added, s.built.toList = outer ++ added ∧ significant added = trees

/-- No trivia stands at the current place. -/
def Passed (s : State) : Prop := ∀ token ∈ s.remaining.head?, token.isTrivia = false

def first (tokens : List Token) : Kind := (tokens.head?.map Token.kind).getD .error

variable {outer trees : List Cst} {tokens : List Token} {s s' : State}

/-- The token at the front, when no trivia stands before it. -/
theorem At.remaining (h : At outer trees tokens s) (hpassed : Passed s) :
    s.remaining.head? = tokens.head? := by
  rw [← h.ahead]
  cases hremaining : s.remaining with
  | nil => rfl
  | cons token rest =>
    have htoken : token.isTrivia = false := hpassed token (by rw [hremaining]; rfl)
    rw [Token.significant_cons, htoken]
    rfl

theorem significant_dropWhile (tokens : List Token) :
    Token.significant (tokens.dropWhile Token.isTrivia) = Token.significant tokens := by
  induction tokens with
  | nil => rfl
  | cons token rest ih =>
    rw [List.dropWhile_cons, Token.significant_cons]
    split
    · exact ih
    · next htoken => rw [Token.significant_cons, if_neg htoken]

theorem significant_length_le (s : State) :
    (Token.significant s.remaining).length ≤ s.remaining.length :=
  List.length_filter_le _ _

theorem At.looked (h : At outer trees tokens s) (lookaheads : Nat) :
    At outer trees tokens { s with lookaheads } :=
  ⟨h.unreported, h.pending, h.ahead, h.built⟩

theorem passTrivia_reads (h : At outer trees tokens s) {u : Unit}
    (hrun : passTrivia.run s = .ok (u, s')) : At outer trees tokens s' ∧ Passed s' := by
  rw [run_modify hrun]
  refine ⟨⟨h.unreported, fun token htoken ↦ ?_, ?_, h.built⟩, fun token htoken ↦ ?_⟩
  · rcases List.mem_append.mp htoken with htoken | htoken
    · exact h.pending token htoken
    · exact List.mem_takeWhile_imp htoken
  · rw [significant_dropWhile]
    exact h.ahead
  · have hhead := List.head?_dropWhile_not Token.isTrivia s.remaining
    rw [Option.mem_def.mp htoken] at hhead
    simpa using hhead

theorem countLookahead_reads {u : Unit} (hrun : countLookahead.run s = .ok (u, s')) :
    ∃ lookaheads, s' = { s with lookaheads } := by
  have hcount := run_get_bind hrun
  split at hcount
  · cases hcount
  · cases hcount
    exact ⟨_, rfl⟩

theorem current_reads (h : At outer trees tokens s) {kind : Kind}
    (hrun : current.run s = .ok (kind, s')) :
    At outer trees tokens s' ∧ Passed s' ∧ kind = first tokens := by
  obtain ⟨_, s₁, hpass, hrest⟩ := run_bind hrun
  obtain ⟨hat, hpassed⟩ := passTrivia_reads h hpass
  obtain ⟨_, s₂, hcount, hlook⟩ := run_bind hrest
  obtain ⟨lookaheads, rfl⟩ := countLookahead_reads hcount
  obtain ⟨rfl, rfl⟩ := run_gets hlook
  have hlooked := hat.looked lookaheads
  exact ⟨hlooked, hpassed, by rw [hlooked.remaining hpassed]; rfl⟩

/-- A test of the current token's kind. -/
theorem tested_reads (h : At outer trees tokens s) {test : Kind → Bool} {b : Bool}
    (hrun : (return test (← current) : Parse Bool).run s = .ok (b, s')) :
    At outer trees tokens s' ∧ Passed s' ∧ b = test (first tokens) := by
  obtain ⟨found, s₁, hcurrent, hrest⟩ := run_bind hrun
  obtain ⟨hat, hpassed, rfl⟩ := current_reads h hcurrent
  obtain ⟨rfl, rfl⟩ := run_pure hrest
  exact ⟨hat, hpassed, rfl⟩

theorem currentIs_reads (h : At outer trees tokens s) {kind : Kind} {b : Bool}
    (hrun : (currentIs kind).run s = .ok (b, s')) :
    At outer trees tokens s' ∧ Passed s' ∧ b = (first tokens == kind) := tested_reads h hrun

theorem currentIsIn_reads (h : At outer trees tokens s) {set : KindSet} {b : Bool}
    (hrun : (currentIsIn set).run s = .ok (b, s')) :
    At outer trees tokens s' ∧ Passed s' ∧ b = set.contains (first tokens) := tested_reads h hrun

theorem currentSpan_reads (h : At outer trees tokens s) {span : Text.Span}
    (hrun : currentSpan.run s = .ok (span, s')) : At outer trees tokens s' ∧ Passed s' := by
  obtain ⟨_, s₁, hpass, hrest⟩ := run_bind hrun
  obtain ⟨_, rfl⟩ := run_gets hrest
  exact passTrivia_reads h hpass

theorem atEnd_reads (h : At outer trees tokens s) {b : Bool} (hrun : atEnd.run s = .ok (b, s')) :
    At outer trees tokens s' ∧ Passed s' ∧ b = tokens.isEmpty := by
  obtain ⟨_, s₁, hpass, hrest⟩ := run_bind hrun
  obtain ⟨hat, hpassed⟩ := passTrivia_reads h hpass
  obtain ⟨rfl, rfl⟩ := run_gets hrest
  have hhead := hat.remaining hpassed
  refine ⟨hat, hpassed, ?_⟩
  change s₁.remaining.isEmpty = _
  cases hremaining : s₁.remaining <;> rw [hremaining] at hhead <;> cases tokens <;>
    first | rfl | cases hhead

/-- The token after the first one. -/
theorem nextIs_reads (h : At outer trees tokens s) {kind : Kind} {b : Bool}
    (hrun : (nextIs kind).run s = .ok (b, s')) :
    At outer trees tokens s' ∧ Passed s' ∧ b = tokens.tail.head?.any (·.kind == kind) := by
  obtain ⟨_, s₁, hpass, hrest⟩ := run_bind hrun
  obtain ⟨hat, hpassed⟩ := passTrivia_reads h hpass
  obtain ⟨_, s₂, hcount, hlook⟩ := run_bind hrest
  obtain ⟨lookaheads, rfl⟩ := countLookahead_reads hcount
  have hfound := run_get_bind hlook
  have hahead := hat.ahead
  obtain ⟨hb, rfl⟩ : b = (s₁.remaining.tail.find? fun token ↦ !token.isTrivia).any
      (·.kind == kind) ∧ { s₁ with lookaheads } = s' := by
    split at hfound
    · next hremaining =>
      obtain ⟨rfl, rfl⟩ := run_pure hfound
      exact ⟨by rw [show s₁.remaining = [] from hremaining]; rfl, rfl⟩
    · next token rest hremaining =>
      obtain ⟨rfl, rfl⟩ := run_pure hfound
      exact ⟨by rw [show s₁.remaining = token :: rest from hremaining]; rfl, rfl⟩
  refine ⟨hat.looked lookaheads, hpassed, ?_⟩
  rw [hb, ← List.head?_filter, ← hahead]
  congr 2
  cases hremaining : s₁.remaining with
  | nil => rfl
  | cons token rest =>
    have htoken : token.isTrivia = false := hpassed token (by rw [hremaining]; rfl)
    rw [Token.significant_cons, htoken]
    rfl

theorem exists_next {kind : Kind} (h : tokens.tail.head?.any (·.kind == kind) = true) :
    ∃ token next rest, tokens = token :: next :: rest ∧ next.kind = kind := by
  rcases tokens with _ | ⟨token, _ | ⟨next, rest⟩⟩
  · cases h
  · cases h
  · exact ⟨token, next, rest, rfl, beq_iff_eq.mp h⟩

theorem expect_reads (h : At outer trees tokens s) {kind : Kind} {u : Unit}
    (hrun : (expect kind).run s = .ok (u, s')) :
    At outer trees tokens s' ∧ Passed s' ∧ first tokens = kind := by
  obtain ⟨found, s₁, hcurrent, hrest⟩ := run_bind hrun
  obtain ⟨hat, hpassed, rfl⟩ := current_reads h hcurrent
  split at hrest
  · cases hrest
  · next hsame =>
    obtain ⟨_, rfl⟩ := run_pure hrest
    exact ⟨hat, hpassed, not_not.mp hsame⟩

/-! ## Building -/

theorem addTrivia_reads (h : At outer trees tokens s) {u : Unit}
    (hrun : addTrivia.run s = .ok (u, s')) :
    At outer trees tokens s' ∧ s'.pending = [] ∧ s'.remaining = s.remaining := by
  obtain ⟨added, hadded, hsignificant⟩ := h.built
  rw [run_modify hrun]
  refine ⟨⟨h.unreported, by rintro _ ⟨⟩, h.ahead, added ++ s.pending.map Cst.leaf, ?_, ?_⟩,
    rfl, rfl⟩
  · rw [Array.toList_append, hadded, List.append_assoc]
  · rw [significant_append, hsignificant, significant_trivia h.pending, List.append_nil]

theorem bump_takes (h : At outer trees tokens s) {u : Unit} (hrun : bump.run s = .ok (u, s')) :
    ∃ token rest, s.remaining = token :: rest ∧
      At outer (trees ++ significant [.leaf token]) (Token.significant rest) s' := by
  obtain ⟨token, rest, hremaining, rfl⟩ := run_bump hrun
  obtain ⟨added, hadded, hsignificant⟩ := h.built
  refine ⟨token, rest, hremaining, h.unreported, by rintro _ ⟨⟩, rfl,
    added ++ s.pending.map Cst.leaf ++ [Cst.leaf token], by simp [hadded], ?_⟩
  rw [significant_append, significant_append, hsignificant, significant_trivia h.pending,
    List.append_nil]

/-- The first token, when no trivia stands before it. -/
theorem bump_reads (h : At outer trees tokens s) (hpassed : Passed s) {u : Unit}
    (hrun : bump.run s = .ok (u, s')) :
    ∃ token rest, tokens = token :: rest ∧ At outer (trees ++ [Cst.leaf token]) rest s' := by
  obtain ⟨token, rest, hremaining, hat⟩ := bump_takes h hrun
  have htoken : token.isTrivia = false := hpassed token (by rw [hremaining]; rfl)
  have hahead := h.ahead
  rw [hremaining, Token.significant_cons, htoken] at hahead
  rw [significant_leaf htoken] at hat
  exact ⟨token, _, hahead.symm, hat⟩

/-- The first token, or trivia before it. -/
theorem bump_reads_front (h : At outer trees tokens s) {u : Unit}
    (hrun : bump.run s = .ok (u, s')) :
    At outer trees tokens s' ∨
      ∃ token rest, tokens = token :: rest ∧ At outer (trees ++ [Cst.leaf token]) rest s' := by
  obtain ⟨token, rest, hremaining, hat⟩ := bump_takes h hrun
  have hahead := h.ahead
  rw [hremaining, Token.significant_cons] at hahead
  cases htoken : token.isTrivia with
  | true =>
    have hleaf : significant [.leaf token] = [] :=
      List.filter_cons_of_neg (by simp [isSignificant, htoken])
    rw [htoken, if_pos rfl] at hahead
    rw [hleaf, List.append_nil, hahead] at hat
    exact .inl hat
  | false =>
    rw [htoken, if_neg Bool.false_ne_true] at hahead
    rw [significant_leaf htoken] at hat
    exact .inr ⟨token, _, hahead.symm, hat⟩

theorem eat_reads (h : At outer trees tokens s) {kind : Kind} {b : Bool}
    (hrun : (eat kind).run s = .ok (b, s')) :
    (b = true ∧ ∃ token rest, tokens = token :: rest ∧ token.kind = kind ∧
      At outer (trees ++ [Cst.leaf token]) rest s') ∨
    (b = false ∧ first tokens ≠ kind ∧ At outer trees tokens s') := by
  obtain ⟨found, s₁, hcurrent, hrest⟩ := run_bind hrun
  obtain ⟨hat, hpassed, rfl⟩ := currentIs_reads h hcurrent
  split at hrest
  · next hkind =>
    obtain ⟨_, s₂, hbump, hdone⟩ := run_bind hrest
    obtain ⟨rfl, rfl⟩ := run_pure hdone
    obtain ⟨token, rest, rfl, hnext⟩ := bump_reads hat hpassed hbump
    exact .inl ⟨rfl, token, rest, rfl, beq_iff_eq.mp hkind, hnext⟩
  · next hkind =>
    obtain ⟨rfl, rfl⟩ := run_pure hrest
    exact .inr ⟨rfl, fun hsame ↦ hkind (beq_iff_eq.mpr hsame), hat⟩

/-- What comes after the mark can be told apart from what is before it. -/
theorem mark_reads (h : At outer trees tokens s) {start : Nat}
    (hrun : mark.run s = .ok (start, s')) :
    ∃ added, significant added = trees ∧ start = (outer ++ added).length ∧
      At (outer ++ added) [] tokens s' := by
  obtain ⟨_, s₁, htrivia, hrest⟩ := run_bind hrun
  obtain ⟨hat, _, _⟩ := addTrivia_reads h htrivia
  obtain ⟨rfl, rfl⟩ := run_gets hrest
  obtain ⟨added, hadded, hsignificant⟩ := hat.built
  refine ⟨added, hsignificant, ?_, hat.unreported, hat.pending, hat.ahead, [], ?_, rfl⟩
  · rw [← hadded, Array.length_toList]
  · rw [hadded, List.append_nil]

theorem At.join {added : List Cst} (h : At (outer ++ added) trees tokens s) :
    At outer (significant added ++ trees) tokens s := by
  obtain ⟨more, hmore, hsignificant⟩ := h.built
  refine ⟨h.unreported, h.pending, h.ahead, added ++ more, ?_, ?_⟩
  · rw [hmore, List.append_assoc]
  · rw [significant_append, hsignificant]

theorem wrapFrom_reads (h : At outer trees tokens s) {kind : Kind} {u : Unit}
    (hrun : (wrapFrom outer.length kind).run s = .ok (u, s')) :
    ∃ children, significant children = trees ∧ At outer [.node kind children] tokens s' := by
  obtain ⟨added, hadded, hsignificant⟩ := h.built
  rw [run_modify hrun]
  refine ⟨added, hsignificant, h.unreported, h.pending, h.ahead, [.node kind added], ?_, rfl⟩
  simp [hadded]

/-- A node begins without children. -/
theorem At.opened (h : At outer trees tokens s) :
    At [] [] tokens { s with pending := [], built := #[] } :=
  ⟨h.unreported, by rintro _ ⟨⟩, h.ahead, [], rfl, rfl⟩

/-- A node, from what its body does to a node without children. -/
theorem node_reads (h : At outer trees tokens s) {kind : Kind} {body : Parse Unit} {u : Unit}
    (hrun : (node kind body).run s = .ok (u, s')) :
    ∃ s₁ s₂, At [] [] tokens s₁ ∧ (Passed s → Passed s₁) ∧ body.run s₁ = .ok ((), s₂) ∧
      (Reported s₂ → Reported s') ∧
      ∀ inner rest, At [] inner rest s₂ → ∃ children, significant children = inner ∧
        At outer (trees ++ [Cst.node kind children]) rest s' := by
  obtain ⟨s₂, hbody, rfl⟩ := run_node hrun
  refine ⟨_, s₂, h.opened, id, hbody, id, fun inner rest hinner ↦ ?_⟩
  obtain ⟨added, hadded, hsignificant⟩ := h.built
  obtain ⟨children, hchildren, rfl⟩ := hinner.built
  rw [List.nil_append] at hchildren
  refine ⟨children, rfl, hinner.unreported, hinner.pending, hinner.ahead,
    added ++ s.pending.map Cst.leaf ++ [Cst.node kind children], ?_, ?_⟩
  · simp [hadded, hchildren]
  · rw [significant_append, significant_append, hsignificant, significant_trivia h.pending,
      List.append_nil, significant_node]

/-! ## Reporting -/

theorem freshPlace_reads (h : At outer trees tokens s) {offset : Nat} {fresh : Bool}
    (hrun : (freshPlace offset).run s = .ok (fresh, s')) : fresh = true := by
  have hfresh : decide (s.lastErrorAt ≠ some offset) = fresh := by
    cases hrun
    rfl
  rw [← hfresh, h.unreported]
  rfl

theorem report_reads {diagnostic : Diagnostic} (herror : diagnostic.isError = true) {u : Unit}
    (hrun : (report diagnostic).run s = .ok (u, s')) : Reported s' := by
  rw [run_modify hrun, Reported, Diagnostics.hasErrors, List.any_append]
  simp [herror]

theorem reportHere_reads (h : At outer trees tokens s) {wording : Text.Span → Diagnostic}
    (herror : ∀ span, (wording span).isError = true) {u : Unit}
    (hrun : (reportHere wording).run s = .ok (u, s')) : Reported s' := by
  obtain ⟨span, s₁, hspan, hrest⟩ := run_bind hrun
  obtain ⟨hat, _⟩ := currentSpan_reads h hspan
  obtain ⟨fresh, s₂, hfresh, hreport⟩ := run_bind hrest
  rw [freshPlace_reads hat hfresh, if_pos rfl] at hreport
  exact report_reads (herror span) hreport

theorem error_reads (h : At outer trees tokens s) {kind : DiagnosticKind}
    (hkind : kind.severity = .error) {u : Unit} (hrun : (error kind).run s = .ok (u, s')) :
    Reported s' := by
  refine reportHere_reads h (fun span ↦ ?_) hrun
  rw [Diagnostic.isError, Diagnostic.severity, Diagnostic.plain, hkind]
  rfl

theorem errorDetailed_reads (h : At outer trees tokens s) {kind : DiagnosticKind}
    (hkind : kind.severity = .error) {detail : String} {u : Unit}
    (hrun : (errorDetailed kind detail).run s = .ok (u, s')) : Reported s' := by
  refine reportHere_reads h (fun span ↦ ?_) hrun
  rw [Diagnostic.isError, Diagnostic.severity, Diagnostic.detailed, hkind]
  rfl

theorem errorAndBump_reads (h : At outer trees tokens s) {kind : DiagnosticKind}
    (hkind : kind.severity = .error) {detail : String} {u : Unit}
    (hrun : (errorAndBump kind detail).run s = .ok (u, s')) : Reported s' := by
  obtain ⟨_, s₁, herror, hrest⟩ := run_bind hrun
  have hstays : Preserves Stays (if !s₁.remaining.isEmpty then node .error bump else pure ()) :=
    .ite (node_preserves stays_respected _ (bump_preserves stays_respected))
      (.pure stays_respected ())
  exact hstays.holds (run_get_bind hrest) (errorDetailed_reads h hkind herror)

theorem errorUnclosed_reads (h : At outer trees tokens s) {kind : DiagnosticKind}
    (hkind : kind.severity = .error) {note : String} {opening : Text.Span} {u : Unit}
    (hrun : (errorUnclosed kind note opening).run s = .ok (u, s')) : Reported s' := by
  refine reportHere_reads h (fun here ↦ ?_) hrun
  rw [Diagnostic.isError, Diagnostic.severity, Diagnostic.relatedTo, Diagnostic.plain, hkind]
  rfl

theorem errorAndRecover_reads (h : At outer trees tokens s) {kind : DiagnosticKind}
    (hkind : kind.severity = .error) {detail : String} {recovery : KindSet} {u : Unit}
    (hrun : (errorAndRecover kind detail recovery).run s = .ok (u, s')) : Reported s' := by
  obtain ⟨stop, s₁, hstop, hrest⟩ := run_bind hrun
  have hat : At outer trees tokens s₁ := by
    obtain ⟨found, s₂, hin, hlook⟩ := run_bind hstop
    obtain ⟨hat, _, _⟩ := currentIsIn_reads h hin
    split at hlook
    · obtain ⟨_, rfl⟩ := run_pure hlook
      exact hat
    · exact (atEnd_reads hat hlook).1
  split at hrest
  · exact errorDetailed_reads hat hkind hrest
  · obtain ⟨s₂, s₃, hinner, _, hbody, hout, _⟩ := node_reads hat hrest
    obtain ⟨_, s₄, herror, hskip⟩ := run_bind hbody
    have hstays := stays_respected
    have hloop := Preserves.untilDone hstays.toFollowed (skipToken_preserves hstays recovery) ()
    exact hout (hloop.holds hskip (errorDetailed_reads hinner hkind herror))

/-! ## Loops -/

/-- What holds after a step on `a`, by whether there is another one. -/
def Onward {α : Type} (Before After : α → State → Prop) (a : α) : Option α → State → Prop
  | none => After a
  | some next => Before next

/-- What every step keeps until it is done holds when a loop ends. -/
theorem untilDone_reads {α : Type} {Before After : α → State → Prop}
    {step : α → Parse (Option α)} (hstays : ∀ a, Preserves Stays (step a))
    (hstep : ∀ {a s result s'}, Before a s → (step a).run s = .ok (result, s') →
      Reported s' ∨ Onward Before After a result s')
    {a b : α} (h : Before a s) (hrun : (untilDone step a).run s = .ok (b, s')) :
    Reported s' ∨ After b s' := by
  have hiterate (bound : Nat) : ∀ {a s}, Before a s → (iterate step bound a).run s = .ok (b, s') →
      Reported s' ∨ After b s' := by
    induction bound with
    | zero =>
      intro a s _ hrun
      cases hrun
    | succ bound ih =>
      intro a s hbefore hrun
      obtain ⟨result, s₁, hfirst, hrest⟩ := run_bind hrun
      rcases hstep hbefore hfirst with hreported | hnext
      · left
        cases result with
        | none => exact (run_pure hrest).2 ▸ hreported
        | some next =>
          exact (Preserves.iterate stays_respected.toFollowed hstays bound next).holds hrest hreported
      · cases result with
        | none =>
          obtain ⟨rfl, rfl⟩ := run_pure hrest
          exact .inr hnext
        | some next => exact ih hnext hrest
  exact hiterate _ h (run_get_bind hrun)

end PegKit.Cst.Parse
