import Mathlib.Data.List.Forall2
import PegKit.Proofs.Cst.Reading

/-!
# Reading expressions

A production for expressions, begun at a token that can begin one, either finds an expression of the
language and adds one tree that means it, or an error is reported. The only other way out is a block
that a predicate's mark stands before, with trivia between them: nothing reads it, and the sequence
around it reports it.
-/

namespace PegKit.Cst.Parse

open Token (Whole)

section Ends

variable {α : Type} (Derives : List Token → α → Prop) (Stands : Cst → α → Prop)

/-- The first tokens are something that one more tree stands for. -/
inductive Found (outer trees : List Cst) (tokens : List Token) (s : State) : Prop
  | intro {read rest : List Token} {value : α} {tree : Cst} (split : tokens = read ++ rest)
      (derived : Derives read value) (stands : Stands tree value) (whole : Whole rest)
      (ahead : At outer (trees ++ [tree]) rest s)

/-- The first tokens are something that a node of `kind` around what they added stands for. -/
inductive Filled (kind : Kind) (outer : List Cst) (tokens : List Token) (s : State) : Prop
  | intro {read rest : List Token} {value : α} {inner : List Cst} (split : tokens = read ++ rest)
      (derived : Derives read value)
      (stands : ∀ children, significant children = inner → Stands (.node kind children) value)
      (whole : Whole rest) (ahead : At outer inner rest s)

end Ends

/-- A block is next. -/
inductive Stops (outer : List Cst) (s : State) : Prop
  | intro {trees : List Cst} {block : Token} {rest : List Token} (isBlock : block.kind = .block)
      (ahead : At outer trees (block :: rest) s)

variable {outer trees : List Cst} {tokens : List Token} {s s' : State}

section Ends

variable {α : Type} {Derives Derives' : List Token → α → Prop} {Stands : Cst → α → Prop}

theorem Found.imp (h : Found Derives Stands outer trees tokens s)
    (himp : ∀ {read value}, Derives read value → Derives' read value) :
    Found Derives' Stands outer trees tokens s := by
  obtain ⟨hsplit, hderived, hstands, hwhole, hat⟩ := h
  exact ⟨hsplit, himp hderived, hstands, hwhole, hat⟩

/-- What was found after a mark stands after what was there before. -/
theorem Found.join {added : List Cst} (h : Found Derives Stands (outer ++ added) [] tokens s) :
    Found Derives Stands outer (significant added) tokens s := by
  obtain ⟨hsplit, hderived, hstands, hwhole, hat⟩ := h
  exact ⟨hsplit, hderived, hstands, hwhole, hat.join⟩

theorem Found.looked (h : Found Derives Stands outer trees tokens s) (lookaheads : Nat) :
    Found Derives Stands outer trees tokens { s with lookaheads } := by
  obtain ⟨hsplit, hderived, hstands, hwhole, hat⟩ := h
  exact ⟨hsplit, hderived, hstands, hwhole, hat.looked lookaheads⟩

variable (Derives Stands) in
/-- A node, from how its body ends. -/
theorem node_ends (h : At outer trees tokens s) {kind : Kind} {body : Parse Unit} {u : Unit}
    (hrun : (node kind body).run s = .ok (u, s')) :
    ∃ s₁ s₂, At [] [] tokens s₁ ∧ (Passed s → Passed s₁) ∧ body.run s₁ = .ok ((), s₂) ∧
      (Reported s₂ → Reported s') ∧
      (Filled Derives Stands kind [] tokens s₂ → Found Derives Stands outer trees tokens s') ∧
      (Stops [] s₂ → Stops outer s') := by
  obtain ⟨s₁, s₂, hat, hpassed, hbody, hreported, hclose⟩ := node_reads h hrun
  refine ⟨s₁, s₂, hat, hpassed, hbody, hreported, ?_, ?_⟩
  · rintro ⟨hsplit, hderived, hstands, hwhole, hinner⟩
    obtain ⟨children, hchildren, hafter⟩ := hclose _ _ hinner
    exact ⟨hsplit, hderived, hstands children hchildren, hwhole, hafter⟩
  · rintro ⟨hblock, hinner⟩
    obtain ⟨children, _, hafter⟩ := hclose _ _ hinner
    exact ⟨hblock, hafter⟩

theorem wrapFrom_ends {kind : Kind} (h : Filled Derives Stands kind outer tokens s) {u : Unit}
    (hrun : (wrapFrom outer.length kind).run s = .ok (u, s')) :
    Found Derives Stands outer [] tokens s' := by
  obtain ⟨hsplit, hderived, hstands, hwhole, hat⟩ := h
  obtain ⟨children, hchildren, hafter⟩ := wrapFrom_reads hat hrun
  exact ⟨hsplit, hderived, hstands children hchildren, hwhole, hafter⟩

end Ends

/-! ## Tokens -/

theorem first_cons (token : Token) (rest : List Token) : first (token :: rest) = token.kind := rfl

/-- The only token of a node. -/
theorem single_reads (h : At outer trees tokens s) (hpassed : Passed s) (hwhole : Whole tokens)
    (hpart : (first tokens).isLiteralPart = false) {kind : Kind}
    {Derives : List Token → Expr → Prop}
    (hmeans : ∀ {token rest}, tokens = token :: rest → ∃ expr, Derives [token] expr ∧
      ∀ children, significant children = [.leaf token] → (Cst.node kind children).Means expr)
    {u : Unit} (hrun : (single kind).run s = .ok (u, s')) :
    Found Derives Means outer trees tokens s' := by
  obtain ⟨s₁, s₂, hat, hkept, hbump, _, hfilled, _⟩ := node_ends Derives Means h hrun
  obtain ⟨token, rest, rfl, hafter⟩ := bump_reads hat (hkept hpassed) hbump
  obtain ⟨expr, hderived, hnode⟩ := hmeans rfl
  exact hfilled ⟨rfl, hderived, hnode, hwhole.tail hpart, hafter⟩

theorem eat_takes {token : Token} {rest : List Token} (h : At outer trees (token :: rest) s)
    {b : Bool} (hrun : (eat token.kind).run s = .ok (b, s')) :
    At outer (trees ++ [Cst.leaf token]) rest s' := by
  rcases eat_reads h hrun with ⟨_, _, _, htokens, _, hat⟩ | ⟨_, hother, _⟩
  · cases htokens
    exact hat
  · exact absurd rfl hother

theorem eat_leaves {kind : Kind} (h : At outer trees tokens s) (hother : first tokens ≠ kind)
    {b : Bool} (hrun : (eat kind).run s = .ok (b, s')) : At outer trees tokens s' := by
  rcases eat_reads h hrun with ⟨_, token, rest, rfl, hkind, _⟩ | ⟨_, _, hat⟩
  · exact absurd hkind hother
  · exact hat

/-- A literal is whole, so nothing is ever missing from it. -/
theorem string_reads (h : At outer trees tokens s) (hwhole : Whole tokens)
    (hquote : first tokens = .doubleQuote ∨ first tokens = .singleQuote) {u : Unit}
    (hrun : string.run s = .ok (u, s')) :
    Found Syntax.Primary Means outer trees tokens s' := by
  obtain ⟨s₁, s₂, hat, _, hbody, _, hfilled, _⟩ := node_ends Syntax.Primary Means h hrun
  obtain ⟨quote, s₃, hcurrent, hrest⟩ := run_bind hbody
  obtain ⟨hlooked, hpassed, rfl⟩ := current_reads hat hcurrent
  obtain ⟨_, s₄, hbump, hinner⟩ := run_bind hrest
  obtain ⟨opening, rest, rfl, hopened⟩ := bump_reads hlooked hpassed hbump
  rw [first_cons] at hquote
  obtain ⟨_, s₅, hvalue, hend⟩ := run_bind hinner
  obtain ⟨_, s₆, hclose, hdone⟩ := run_bind hend
  obtain ⟨_, rfl⟩ := run_pure hdone
  rw [first_cons] at hclose
  refine hfilled ?_
  cases hwhole with
  | plain hpart _ _ =>
    rcases hquote with hquote | hquote <;> rw [hquote] at hpart <;> cases hpart
  | @empty _ closing rest _ hsame hothers =>
    have hother : first (closing :: rest) ≠ .stringValue := by
      rw [first_cons, hsame]
      exact IsQuote.ne hquote
    have hkept := eat_leaves hopened hother hvalue
    rw [← hsame] at hclose
    exact ⟨rfl, .emptyString hquote hsame,
      fun _ hchildren ↦ means_emptyString hchildren hquote hsame, hothers, eat_takes hkept hclose⟩
  | @literal _ value closing rest _ hinside hsame hothers =>
    rw [← hinside] at hvalue
    rw [← hsame] at hclose
    exact ⟨rfl, .string hquote hinside hsame,
      fun _ hchildren ↦ means_string hchildren hquote hinside, hothers,
      eat_takes (eat_takes hopened hvalue) hclose⟩

/-! ## Sequences -/

/-- An item begun at a token that can begin an expression is found, or ends another way. -/
structure Reads (item : Parse Unit) : Prop where
  stays : Preserves Stays item
  reads : ∀ {outer trees tokens s s' u}, At outer trees tokens s → Whole tokens →
    KindSet.expressionFirst.contains (first tokens) = true → item.run s = .ok (u, s') →
    Reported s' ∨ Found Syntax.Prefixed Means outer trees tokens s' ∨ Stops outer s'

/-- How far a sequence has come: the items counted, the trees for them, and what is left. -/
inductive Gathered (tokens : List Token) : Nat → List Cst → List Token → Prop
  | start (whole : Whole tokens) : Gathered tokens 0 [] tokens
  | items {read rest : List Token} {exprs : List Expr} {trees : List Cst}
      (split : tokens = read ++ rest) (derived : Syntax.Items read exprs)
      (means : List.Forall₂ Means trees exprs) (whole : Whole rest) :
      Gathered tokens exprs.length trees rest
  | stopped {count : Nat} {trees : List Cst} {block : Token} {rest : List Token}
      (isBlock : block.kind = .block) : Gathered tokens count trees (block :: rest)

namespace Gathered

variable {count : Nat} {rest : List Token}

/-- One more item. -/
theorem next (h : Gathered tokens count trees rest)
    (hfirst : KindSet.expressionFirst.contains (first rest) = true)
    (hfound : Found Syntax.Prefixed Means outer trees rest s) :
    ∃ trees' rest', At outer trees' rest' s ∧ Gathered tokens (count + 1) trees' rest' := by
  obtain ⟨hsplit, hitem, hmeans, hwhole, hat⟩ := hfound
  refine ⟨_, _, hat, ?_⟩
  cases h with
  | start => exact .items hsplit (.one hitem) (.cons hmeans .nil) hwhole
  | @items read _ exprs _ hsplit' hitems hall =>
    rw [hsplit, ← List.append_assoc] at hsplit'
    have hmore := Gathered.items hsplit' (hitems.more hitem)
      (List.rel_append hall (.cons hmeans .nil)) hwhole
    rwa [List.length_append] at hmore
  | stopped hblock =>
    rw [first_cons, hblock] at hfirst
    cases hfirst

theorem whole (h : Gathered tokens count trees rest)
    (hfirst : KindSet.expressionFirst.contains (first rest) = true) : Whole rest := by
  cases h with
  | start hwhole => exact hwhole
  | items _ _ _ hwhole => exact hwhole
  | stopped hblock =>
    rw [first_cons, hblock] at hfirst
    cases hfirst

end Gathered

/-- A sequence of which `count` items have been read, or that a block stops. -/
def Underway (outer : List Cst) (tokens : List Token) (count : Nat) (s : State) : Prop :=
  ∃ trees rest, At outer trees rest s ∧ Gathered tokens count trees rest

/-- A sequence whose items have all been read, one tree for each. -/
inductive Sequenced (outer : List Cst) (tokens : List Token) : Nat → State → Prop
  | intro {read rest : List Token} {exprs : List Expr} {trees : List Cst} {s : State}
      (split : tokens = read ++ rest) (derived : Syntax.Items read exprs)
      (means : List.Forall₂ Means trees exprs) (whole : Whole rest)
      (ahead : At outer trees rest s) : Sequenced outer tokens exprs.length s

theorem not_sequenceEnd_of_expressionFirst {kind : Kind}
    (h : KindSet.expressionFirst.contains kind = true) :
    KindSet.sequenceEnd.contains kind = false := by
  cases kind <;> first | rfl | cases h

/-- A sequence ends where a sequence may end, so not at its start and not at a block. -/
theorem Gathered.sequenced {count : Nat} {rest : List Token} (h : Gathered tokens count trees rest)
    (hat : At outer trees rest s)
    (hfirst : KindSet.expressionFirst.contains (first tokens) = true)
    (hend : rest.isEmpty = true ∨ KindSet.sequenceEnd.contains (first rest) = true) :
    Sequenced outer tokens count s := by
  cases h with
  | items hsplit hitems hall hwhole => exact ⟨hsplit, hitems, hall, hwhole, hat⟩
  | start =>
    rcases hend with hend | hend
    · rw [List.isEmpty_iff.mp hend] at hfirst
      cases hfirst
    · rw [not_sequenceEnd_of_expressionFirst hfirst] at hend
      cases hend
  | stopped hblock =>
    rcases hend with hend | hend
    · cases hend
    · rw [first_cons, hblock] at hend
      cases hend

section Items

variable {item : Parse Unit} (hitem : Reads item)

include hitem

theorem nextItem_reads (hfirst : KindSet.expressionFirst.contains (first tokens) = true)
    {count : Nat} {result : Option Nat} (h : Underway outer tokens count s)
    (hrun : (nextItem item count).run s = .ok (result, s')) :
    Reported s' ∨ Onward (Underway outer tokens) (Sequenced outer tokens) count result s' := by
  obtain ⟨trees, rest, hat, hgathered⟩ := h
  obtain ⟨_, s₁, hempty, hrest⟩ := run_bind hrun
  obtain ⟨hat, _, rfl⟩ := atEnd_reads hat hempty
  split at hrest
  · next hempty =>
    obtain ⟨rfl, rfl⟩ := run_pure hrest
    exact .inr (hgathered.sequenced hat hfirst (.inl hempty))
  obtain ⟨_, s₂, hend, hrest⟩ := run_bind hrest
  obtain ⟨hat, _, rfl⟩ := currentIsIn_reads hat hend
  split at hrest
  · next hend =>
    obtain ⟨rfl, rfl⟩ := run_pure hrest
    exact .inr (hgathered.sequenced hat hfirst (.inr hend))
  obtain ⟨_, s₃, hbegin, hrest⟩ := run_bind hrest
  obtain ⟨hat, _, rfl⟩ := currentIsIn_reads hat hbegin
  split at hrest
  · next hbegins =>
    obtain ⟨_, s₄, hread, hdone⟩ := run_bind hrest
    obtain ⟨rfl, rfl⟩ := run_pure hdone
    rcases hitem.reads hat (hgathered.whole hbegins) hbegins hread with
      hreported | hfound | ⟨hblock, hafter⟩
    · exact .inl hreported
    · exact .inr (hgathered.next hbegins hfound)
    · exact .inr ⟨_, _, hafter, .stopped hblock⟩
  · obtain ⟨_, s₄, herror, hdone⟩ := run_bind hrest
    obtain ⟨rfl, rfl⟩ := run_pure hdone
    exact .inl (errorAndBump_reads hat rfl herror)

theorem sequenceItems_reads (h : At outer [] tokens s) (hwhole : Whole tokens)
    (hfirst : KindSet.expressionFirst.contains (first tokens) = true) {count : Nat}
    (hrun : (sequenceItems item).run s = .ok (count, s')) :
    Reported s' ∨ Sequenced outer tokens count s' :=
  untilDone_reads (nextItem_preserves stays_respected hitem.stays) (nextItem_reads hitem hfirst)
    ⟨[], tokens, h, .start hwhole⟩ hrun

/-- A sequence of one is its only item; one of more is around them all. -/
theorem sequence_reads (h : At outer trees tokens s) (hwhole : Whole tokens)
    (hfirst : KindSet.expressionFirst.contains (first tokens) = true) {u : Unit}
    (hrun : (sequence item).run s = .ok (u, s')) :
    Reported s' ∨ Found Syntax.Sequence Means outer trees tokens s' := by
  obtain ⟨start, s₁, hmark, hrest⟩ := run_bind hrun
  obtain ⟨added, rfl, rfl, hat⟩ := mark_reads h hmark
  obtain ⟨count, s₂, hitems, hwrap⟩ := run_bind hrest
  rcases sequenceItems_reads hitem hat hwhole hfirst hitems with hreported | hsequenced
  · have hstays := stays_respected
    have hlast : Preserves Stays (if 1 < count then wrapFrom (outer ++ added).length .seqNode
        else pure ()) := .ite (wrapFrom_preserves hstays _ _) (.pure hstays ())
    exact .inl (hlast.holds hwrap hreported)
  obtain ⟨hsplit, hderived, hmeans, hwhole, hafter⟩ := hsequenced
  refine .inr (Found.join ?_)
  split at hwrap
  · next hmany =>
    refine wrapFrom_ends ⟨hsplit, .ofItems hderived, fun children hchildren ↦ ?_, hwhole, hafter⟩
      hwrap
    rw [Syntax.oneOrMany_of_one_lt hmany]
    exact means_sequence hchildren (.ofMeans hmeans) hmany
  · next hfew =>
    obtain ⟨_, rfl⟩ := run_pure hwrap
    cases hmeans with
    | nil => exact absurd rfl hderived.ne_nil
    | cons hfirst hothers =>
      cases hothers with
      | nil => exact ⟨hsplit, .ofItems hderived, hfirst, hwhole, hafter⟩
      | cons => exact absurd (Nat.succ_lt_succ (Nat.succ_pos _)) hfew

/-! ## Choices -/

/-- Sequences have been read, and more than one or else a slash is next. -/
inductive Alternating (outer : List Cst) (tokens : List Token) : Unit → State → Prop
  | intro {read rest : List Token} {exprs : List Expr} {trees : List Cst} {s : State}
      (split : tokens = read ++ rest) (derived : Syntax.Alternatives read exprs)
      (members : Members trees exprs) (many : first rest = .slash ∨ 1 < exprs.length)
      (whole : Whole rest) (ahead : At outer trees rest s) : Alternating outer tokens () s

theorem nextAlternative_reads {u : Unit} {result : Option Unit} (h : Alternating outer tokens u s)
    (hrun : (nextAlternative item u).run s = .ok (result, s')) :
    Reported s' ∨ Onward (Alternating outer tokens)
      (fun _ ↦ Filled Syntax.Choice Means .choiceNode outer tokens) u result s' := by
  obtain ⟨hsplit, hderived, hmembers, hmany, hwhole, hat⟩ := h
  obtain ⟨_, s₁, hslash, hrest⟩ := run_bind hrun
  obtain ⟨hat, hpassed, rfl⟩ := currentIs_reads hat hslash
  split at hrest
  · next hother =>
    obtain ⟨rfl, rfl⟩ := run_pure hrest
    have hmany := hmany.resolve_left (by simpa using hother)
    refine .inr ⟨hsplit, .ofAlternatives hderived, fun children hchildren ↦ ?_, hwhole, hat⟩
    rw [Syntax.oneOrMany_of_one_lt hmany]
    exact means_choice hchildren hmembers hmany
  next hslash =>
  obtain ⟨_, s₂, hbump, hrest⟩ := run_bind hrest
  obtain ⟨slash, left, rfl, hbumped⟩ := bump_reads hat hpassed hbump
  have hkind : slash.kind = .slash := by simpa [first_cons] using hslash
  obtain ⟨_, s₃, hbegin, hrest⟩ := run_bind hrest
  obtain ⟨hbumped, _, rfl⟩ := currentIsIn_reads hbumped hbegin
  split at hrest
  · next hbegins =>
    obtain ⟨_, s₄, hread, hdone⟩ := run_bind hrest
    obtain ⟨rfl, rfl⟩ := run_pure hdone
    have hleft := hwhole.tail (by rw [hkind]; rfl)
    rcases sequence_reads hitem hbumped hleft hbegins hread with hreported | hfound
    · exact .inl hreported
    obtain ⟨hsplit', hnext, hmeans, hwhole', hafter⟩ := hfound
    rw [hsplit', ← List.cons_append, ← List.append_assoc] at hsplit
    rw [List.append_assoc] at hafter
    refine .inr ⟨hsplit, hderived.more hkind hnext, hmembers.append (.leaf ?_ (.tree hmeans .nil)),
      .inr (hderived.one_lt _), hwhole', hafter⟩
    rw [hkind]
    rfl
  · obtain ⟨_, s₄, herror, hdone⟩ := run_bind hrest
    obtain ⟨rfl, rfl⟩ := run_pure hdone
    exact .inl (errorDetailed_reads hbumped rfl herror)

theorem choice_reads (h : At outer trees tokens s) (hwhole : Whole tokens)
    (hfirst : KindSet.expressionFirst.contains (first tokens) = true) {u : Unit}
    (hrun : (choice item).run s = .ok (u, s')) :
    Reported s' ∨ Found Syntax.Choice Means outer trees tokens s' := by
  have hstays := stays_respected
  obtain ⟨start, s₁, hmark, hrest⟩ := run_bind hrun
  obtain ⟨added, rfl, rfl, hat⟩ := mark_reads h hmark
  obtain ⟨_, s₂, hread, hrest⟩ := run_bind hrest
  have hloop := Preserves.untilDone hstays (nextAlternative_preserves hstays hitem.stays) ()
  have hwrap := wrapFrom_preserves hstays (outer ++ added).length .choiceNode
  rcases sequence_reads hitem hat hwhole hfirst hread with hreported | hfound
  · refine .inl ((Preserves.bind hstays.toFollowed
      (currentIs_preserves hstays.toTracked .slash) fun _ ↦ ?_).holds hrest hreported)
    exact .ite (.bind hstays hloop fun _ ↦ hwrap) (.pure hstays ())
  obtain ⟨hsplit, hderived, hmeans, hwhole, hafter⟩ := hfound
  obtain ⟨_, s₃, hslash, hrest⟩ := run_bind hrest
  obtain ⟨hat, _, rfl⟩ := currentIs_reads hafter hslash
  split at hrest
  · next hslash =>
    obtain ⟨_, s₄, hrepeat, hclose⟩ := run_bind hrest
    rcases untilDone_reads (nextAlternative_preserves hstays hitem.stays)
      (nextAlternative_reads hitem) ⟨hsplit, .one hderived, .tree hmeans .nil,
        .inl (beq_iff_eq.mp hslash), hwhole, hat⟩ hrepeat with hreported | hfilled
    · exact .inl (hwrap.holds hclose hreported)
    · exact .inr (wrapFrom_ends hfilled hclose).join
  · obtain ⟨_, rfl⟩ := run_pure hrest
    exact .inr (Found.join ⟨hsplit, .ofAlternatives (.one hderived), hmeans, hwhole, hat⟩)

/-! ## Operands -/

theorem group_reads (h : At outer trees tokens s) (hwhole : Whole tokens) {u : Unit}
    (hrun : (group item).run s = .ok (u, s')) :
    Reported s' ∨ Found Syntax.Primary Means outer trees tokens s' := by
  have hstays := stays_respected
  obtain ⟨_, s₁, hexpect, hnode⟩ := run_bind hrun
  obtain ⟨hat, _, hkind⟩ := expect_reads h hexpect
  obtain ⟨s₂, s₃, hinner, _, hbody, hreported, hfilled, _⟩ := node_ends Syntax.Primary Means hat hnode
  suffices Reported s₃ ∨ Filled Syntax.Primary Means .groupNode [] tokens s₃ from
    this.imp hreported hfilled
  obtain ⟨span, s₄, hspan, hrest⟩ := run_bind hbody
  obtain ⟨hinner, hpassed⟩ := currentSpan_reads hinner hspan
  obtain ⟨_, s₅, hbump, hrest⟩ := run_bind hrest
  obtain ⟨opening, left, rfl, hopened⟩ := bump_reads hinner hpassed hbump
  rw [first_cons] at hkind
  obtain ⟨_, s₆, hempty, hrest⟩ := run_bind hrest
  obtain ⟨hopened, _, rfl⟩ := currentIs_reads hopened hempty
  split at hrest
  · obtain ⟨_, s₇, herror, hbump⟩ := run_bind hrest
    exact .inl ((bump_preserves hstays.toTracked).holds hbump (error_reads hopened rfl herror))
  next hother =>
  obtain ⟨_, s₇, hbegin, hrest⟩ := run_bind hrest
  obtain ⟨hopened, _, rfl⟩ := currentIsIn_reads hopened hbegin
  split at hrest
  · next hbegins =>
    obtain ⟨_, s₈, hread, hrest⟩ := run_bind hrest
    rcases choice_reads hitem hopened (hwhole.tail (by rw [hkind]; rfl)) hbegins hread with
      hreported | hfound
    · refine .inl ((Preserves.bind hstays.toFollowed
        (eat_preserves hstays.toTracked .parenClose) fun _ ↦ ?_).holds hrest hreported)
      exact .ite (errorUnclosed_preserves hstays _ _ _) (.pure hstays ())
    obtain ⟨hsplit, hderived, hmeans, hwhole, hafter⟩ := hfound
    obtain ⟨_, s₉, hclose, hrest⟩ := run_bind hrest
    rcases eat_reads hafter hclose with ⟨rfl, closing, last, rfl, hclosing, hclosed⟩ | ⟨rfl, _, hat⟩
    · obtain ⟨_, rfl⟩ := run_pure hrest
      refine .inr ⟨?_, .group hkind hderived hclosing, fun _ hchildren ↦
        means_group hmeans hchildren hkind, hwhole.tail (by rw [hclosing]; rfl), hclosed⟩
      rw [hsplit]
      simp
    · exact .inl (errorUnclosed_reads hat rfl hrest)
  · obtain ⟨_, s₈, hclose, hrest⟩ := run_bind hrest
    rcases eat_reads hopened hclose with ⟨rfl, closing, last, rfl, hclosing, _⟩ | ⟨rfl, _, hat⟩
    · exact absurd (beq_iff_eq.mpr hclosing) hother
    · exact .inl (errorUnclosed_reads hat rfl hrest)

theorem primary_reads (h : At outer trees tokens s) (hwhole : Whole tokens) {u : Unit}
    (hrun : (primary item).run s = .ok (u, s')) :
    Reported s' ∨ Found Syntax.Primary Means outer trees tokens s' := by
  obtain ⟨kind, s₁, hcurrent, hrest⟩ := run_bind hrun
  obtain ⟨hat, hpassed, rfl⟩ := current_reads h hcurrent
  split at hrest
  · next hkind =>
    refine .inr (single_reads hat hpassed hwhole (by rw [hkind]; rfl) ?_ hrest)
    rintro token rest rfl
    exact ⟨_, .reference hkind, fun _ hchildren ↦ means_reference hchildren hkind⟩
  · next hkind =>
    refine .inr (single_reads hat hpassed hwhole (by rw [hkind]; rfl) ?_ hrest)
    rintro token rest rfl
    exact ⟨_, .charClass hkind, fun _ hchildren ↦ means_charClass hchildren hkind⟩
  · next hkind =>
    refine .inr (single_reads hat hpassed hwhole (by rw [hkind]; rfl) ?_ hrest)
    rintro token rest rfl
    exact ⟨_, .dot hkind, fun _ hchildren ↦ means_dot hchildren⟩
  · next hkind => exact .inr (string_reads hat hwhole (.inl hkind) hrest)
  · next hkind => exact .inr (string_reads hat hwhole (.inr hkind) hrest)
  · exact group_reads hitem hat hwhole hrest
  · exact .inl (errorAndBump_reads hat rfl hrest)

omit hitem in
theorem quantifier_derived {mark : Token} {tokens : List Token} {expr : Expr}
    (h : Syntax.Repeated tokens expr) (hmark : KindSet.quantifiers.contains mark.kind = true) :
    Syntax.Repeated (tokens ++ [mark]) (Meaning.quantify (some mark.kind) expr) := by
  cases hkind : mark.kind <;> rw [hkind] at hmark
  case star => exact .star h hkind
  case plus => exact .plus h hkind
  case question => exact .question h hkind
  all_goals cases hmark

omit hitem in
/-- A mark applies to all that was read before it. -/
theorem nextQuantifier_reads {u : Unit} {result : Option Unit}
    (h : Found Syntax.Repeated Means outer [] tokens s)
    (hrun : (nextQuantifier outer.length u).run s = .ok (result, s')) :
    Onward (fun _ ↦ Found Syntax.Repeated Means outer [] tokens)
      (fun _ ↦ Found Syntax.Repeated Means outer [] tokens) u result s' := by
  obtain ⟨hsplit, hderived, hmeans, hwhole, hat⟩ := h
  obtain ⟨_, s₁, hmark, hrest⟩ := run_bind hrun
  obtain ⟨hat, hpassed, rfl⟩ := currentIsIn_reads hat hmark
  split at hrest
  · obtain ⟨rfl, rfl⟩ := run_pure hrest
    exact ⟨hsplit, hderived, hmeans, hwhole, hat⟩
  next hmark =>
  obtain ⟨_, s₂, hbump, hrest⟩ := run_bind hrest
  obtain ⟨mark, left, rfl, hbumped⟩ := bump_reads hat hpassed hbump
  have hkind : KindSet.quantifiers.contains mark.kind = true := by simpa [first_cons] using hmark
  have hpart : mark.kind.isLiteralPart = false := by
    cases hmark : mark.kind <;> rw [hmark] at hkind <;> first | rfl | cases hkind
  obtain ⟨_, s₃, hwrap, hdone⟩ := run_bind hrest
  obtain ⟨rfl, rfl⟩ := run_pure hdone
  rw [← List.singleton_append, ← List.append_assoc] at hsplit
  exact wrapFrom_ends ⟨hsplit, quantifier_derived hderived hkind,
    fun _ hchildren ↦ means_quantified hmeans hchildren hkind, hwhole.tail hpart, hbumped⟩ hwrap

theorem repeated_reads (h : At outer trees tokens s) (hwhole : Whole tokens) {u : Unit}
    (hrun : (repeated item).run s = .ok (u, s')) :
    Reported s' ∨ Found Syntax.Repeated Means outer trees tokens s' := by
  have hstays := stays_respected
  obtain ⟨start, s₁, hmark, hrest⟩ := run_bind hrun
  obtain ⟨added, rfl, rfl, hat⟩ := mark_reads h hmark
  obtain ⟨_, s₂, hread, hrest⟩ := run_bind hrest
  have hloop := nextQuantifier_preserves hstays (outer ++ added).length
  rcases primary_reads hitem hat hwhole hread with hreported | hfound
  · exact .inl ((Preserves.untilDone hstays hloop ()).holds hrest hreported)
  · have hstart := hfound.imp Syntax.Repeated.primary
    have hend := untilDone_reads hloop (fun h hrun ↦ .inr (nextQuantifier_reads h hrun)) hstart
      hrest
    exact hend.imp_right Found.join

/-! ## Prefixes -/

theorem operand_reads {what : String} (h : At outer trees tokens s) (hwhole : Whole tokens)
    {u : Unit} (hrun : (operand item what).run s = .ok (u, s')) :
    Reported s' ∨ Found Syntax.Prefixed Means outer trees tokens s' ∨ Stops outer s' := by
  obtain ⟨_, s₁, hbegin, hrest⟩ := run_bind hrun
  obtain ⟨hat, _, rfl⟩ := currentIsIn_reads h hbegin
  split at hrest
  · next hbegins => exact hitem.reads hat hwhole hbegins hrest
  · exact .inl (errorDetailed_reads hat rfl hrest)

omit hitem in
theorem lookahead_derived {mark : Token} {tokens : List Token} {expr : Expr}
    (hmark : mark.kind = .amp ∨ mark.kind = .bang) (h : Syntax.Prefixed tokens expr) :
    Syntax.Prefixed (mark :: tokens)
      (if mark.kind = .bang then .negativeLookahead expr else .lookahead expr) := by
  split
  · next hbang => exact .negativeLookahead hbang h
  · next hother => exact .lookahead (hmark.resolve_right hother) h

/-- Trivia between a mark and a block leaves the block unread. -/
theorem guarded_reads (h : At outer trees tokens s) (hwhole : Whole tokens)
    (hmark : first tokens = .amp ∨ first tokens = .bang) {u : Unit}
    (hrun : (guarded item).run s = .ok (u, s')) :
    Reported s' ∨ Found Syntax.Prefixed Means outer trees tokens s' ∨ Stops outer s' := by
  obtain ⟨_, s₁, hnext, hrest⟩ := run_bind hrun
  obtain ⟨hat, hpassed, rfl⟩ := nextIs_reads h hnext
  have hpart : (first tokens).isLiteralPart = false := by
    rcases hmark with hmark | hmark <;> rw [hmark] <;> rfl
  split at hrest
  · next hblock =>
    obtain ⟨s₂, s₃, hinner, hkept, hbody, _, hfilled, hstops⟩ :=
      node_ends Syntax.Prefixed Means hat hrest
    obtain ⟨_, s₄, hbump, hbump'⟩ := run_bind hbody
    obtain ⟨mark, block, rest, rfl, hkind⟩ := exists_next hblock
    obtain ⟨_, _, htokens, hbumped⟩ := bump_reads hinner (hkept hpassed) hbump
    cases htokens
    rcases bump_reads_front hbumped hbump' with hunread | ⟨_, _, htokens, hread⟩
    · exact .inr (.inr (hstops ⟨hkind, hunread⟩))
    · cases htokens
      have hleft := hwhole.tail hpart
      obtain ⟨inside, hbraces⟩ := hleft.braced hkind
      exact .inr (.inl (hfilled ⟨rfl, .predicate hmark hkind hbraces,
        fun _ hchildren ↦ means_predicate hchildren hmark hkind hbraces,
        hleft.tail (by rw [hkind]; rfl), hread⟩))
  · obtain ⟨s₂, s₃, hinner, hkept, hbody, hreported, hfilled, hstops⟩ :=
      node_ends Syntax.Prefixed Means hat hrest
    obtain ⟨_, s₄, hbump, hrest⟩ := run_bind hbody
    obtain ⟨mark, left, rfl, hbumped⟩ := bump_reads hinner (hkept hpassed) hbump
    refine (operand_reads hitem hbumped (hwhole.tail hpart) hrest).imp hreported
      (Or.imp (fun hfound ↦ hfilled ?_) hstops)
    obtain ⟨hsplit, hderived, hmeans, hwhole, hafter⟩ := hfound
    exact ⟨congrArg (mark :: ·) hsplit, lookahead_derived hmark hderived,
      fun _ hchildren ↦ means_lookahead hmeans hchildren hmark, hwhole, hafter⟩

/-- After trivia between a name and its colon the operand is not where it is looked for. -/
theorem labelled_reads (h : At outer trees tokens s) (hwhole : Whole tokens)
    (hname : first tokens = .identifier) {u : Unit}
    (hrun : (labelled item).run s = .ok (u, s')) :
    Reported s' ∨ Found Syntax.Prefixed Means outer trees tokens s' ∨ Stops outer s' := by
  obtain ⟨_, s₁, hnext, hrest⟩ := run_bind hrun
  obtain ⟨hat, hpassed, rfl⟩ := nextIs_reads h hnext
  split at hrest
  · next hcolon =>
    obtain ⟨s₂, s₃, hinner, hkept, hbody, hreported, hfilled, hstops⟩ :=
      node_ends Syntax.Prefixed Means hat hrest
    obtain ⟨_, s₄, hbump, hrest⟩ := run_bind hbody
    obtain ⟨name, colon, rest, rfl, hkind⟩ := exists_next hcolon
    obtain ⟨_, _, htokens, hbumped⟩ := bump_reads hinner (hkept hpassed) hbump
    cases htokens
    rw [first_cons] at hname
    obtain ⟨_, s₅, hbump', hrest⟩ := run_bind hrest
    have hleft := hwhole.tail (by rw [hname]; rfl)
    rcases bump_reads_front hbumped hbump' with hunread | ⟨_, _, htokens, hread⟩
    · obtain ⟨_, s₆, hbegin, herror⟩ := run_bind hrest
      obtain ⟨hunread, _, rfl⟩ := currentIsIn_reads hunread hbegin
      rw [first_cons, hkind] at herror
      exact .inl (hreported (errorDetailed_reads hunread rfl herror))
    · cases htokens
      refine (operand_reads hitem hread (hleft.tail (by rw [hkind]; rfl)) hrest).imp hreported
        (Or.imp (fun hfound ↦ hfilled ?_) hstops)
      obtain ⟨hsplit, hderived, hmeans, hwhole, hafter⟩ := hfound
      exact ⟨congrArg (name :: colon :: ·) hsplit, .label hname hkind hderived,
        fun _ hchildren ↦ means_label hmeans hchildren hname hkind, hwhole, hafter⟩
  · exact (repeated_reads hitem hat hwhole hrest).imp_right fun hfound ↦
      .inl (hfound.imp Syntax.Prefixed.repeated)

theorem prefixedBody_reads (h : At outer trees tokens s) (hwhole : Whole tokens) {u : Unit}
    (hrun : (prefixedBody item).run s = .ok (u, s')) :
    Reported s' ∨ Found Syntax.Prefixed Means outer trees tokens s' ∨ Stops outer s' := by
  obtain ⟨kind, s₁, hcurrent, hrest⟩ := run_bind hrun
  obtain ⟨hat, _, rfl⟩ := current_reads h hcurrent
  split at hrest
  · next hkind => exact guarded_reads hitem hat hwhole (.inl hkind) hrest
  · next hkind => exact guarded_reads hitem hat hwhole (.inr hkind) hrest
  · next hkind => exact labelled_reads hitem hat hwhole hkind hrest
  · exact (repeated_reads hitem hat hwhole hrest).imp_right fun hfound ↦
      .inl (hfound.imp Syntax.Prefixed.repeated)

end Items

/-- By induction on how deep expressions may nest. -/
theorem prefixed_reads (levels : Nat) : Reads (prefixed levels) := by
  induction levels with
  | zero => exact ⟨.throw _, fun _ _ _ hrun ↦ by cases hrun⟩
  | succ levels ih =>
    refine ⟨prefixed_preserves stays_respected _, fun h hwhole _ hrun ↦ ?_⟩
    obtain ⟨_, s₁, hbody, hdone⟩ := run_bind (run_modify_bind hrun)
    rw [run_modify hdone]
    rcases prefixedBody_reads ih (h.looked lookaheadBudget) hwhole hbody with
      hreported | hfound | ⟨hblock, hafter⟩
    · exact .inl hreported
    · exact .inr (.inl (hfound.looked lookaheadBudget))
    · exact .inr (.inr ⟨hblock, hafter.looked lookaheadBudget⟩)

end PegKit.Cst.Parse
