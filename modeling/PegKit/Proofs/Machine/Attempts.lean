import PegKit.Proofs.Program.Matching

/-!
# Failed attempts to read text

A big-step account of runs that tells which attempts to read text fail on the way, in the order of
evaluation. Those made inside a negative lookahead do not count. It mentions neither stacks nor
limits, and no failure is ever dropped or merged with another.

Conditions may look at all nodes there are, so the nodes are part of what a task sees, and what it
yields and misses is determined.
-/

namespace PegKit.Machine

open ParseTree (rootPlaces)
open Program (Passes Yield emptyYield emptyYield_passes repetitionYield repetitionYield_passes)

variable {τ : Type}

/-- Something that was expected at a place and is not there. -/
structure Miss where
  offset : Nat
  expected : Expected
  deriving DecidableEq, Repr

/-- What can be seen where a task is evaluated. -/
structure Scene where
  nodes : Arena
  /-- Where the elements of the innermost sequence of the rule begin among the nodes. -/
  base : Nat
  /-- These elements. -/
  siblings : List ParseTree

namespace Scene

def visible (scene : Scene) : List NodeId := rootPlaces scene.base scene.siblings

/-- At the beginning of a run. -/
def start : Scene := ⟨#[], 0, []⟩

/-- At the beginning of a sequence, or of a rule. -/
def opened (scene : Scene) : Scene := ⟨scene.nodes, scene.nodes.size, []⟩

/-- After `tree`, which is no element of the innermost sequence. -/
def grown (scene : Scene) (tree : ParseTree) : Scene :=
  { scene with nodes := scene.nodes.write [tree] }

/-- After `tree`, the next element of the innermost sequence. -/
def joined (scene : Scene) (tree : ParseTree) : Scene :=
  ⟨scene.nodes.write [tree], scene.base, scene.siblings ++ [tree]⟩

end Scene

/-- What the condition bound to `hook` says; nothing when there is none or when it fails. -/
def Setting.answer? (setting : Setting τ) (hook : Symbol) (scene : Scene) (cursor : Cursor) :
    Option Bool := do
  let binding ← setting.predicates[hook.index]?.join
  (binding.condition ⟨setting.program, setting.input, scene.nodes, scene.visible, cursor.offset,
    cursor.rest⟩).toOption

/-- What is evaluated at a place. -/
inductive Trial
  /-- The operation at `id`. -/
  | eval (id : OpId)
  /-- `op`, which stands at `id`. -/
  | op (id : OpId) (op : Op)
  | rule (rule : RuleId)
  /-- The items of a sequence from `start` on that are left. -/
  | items (ids : List OpId) (start : Cursor)
  /-- The alternatives of a choice that are left. -/
  | alternatives (ids : List OpId)
  /-- A repetition from `start` on after the matches `found`. -/
  | iterations (inner : OpId) (least : Nat) (start : Cursor) (found : List ParseTree)

/-- What a trial yields, and the attempts to read text that fail on the way. -/
inductive Tries (setting : Setting τ) :
    Trial → Scene → Cursor → Yield → List Miss → Prop
  | eval {id : OpId} {op : Op} {scene : Scene} {cursor : Cursor} {yield : Yield}
      {misses : List Miss} (found : setting.program.ops[id.index]? = some op)
      (acts : Tries setting (.op id op) scene cursor yield misses) :
      Tries setting (.eval id) scene cursor yield misses
  | terminalHit {id : OpId} {text : String} {scene : Scene} {cursor : Cursor} {rest : List Char}
      (lead : cursor.rest = text.toList ++ rest) :
      Tries setting (.op id (.terminal text)) scene cursor
        (some (.spanning .terminal cursor (cursor.after text.toList rest) [],
          cursor.after text.toList rest)) []
  | terminalMiss {id : OpId} {text : String} {scene : Scene} {cursor : Cursor}
      (lead : ∀ rest, cursor.rest ≠ text.toList ++ rest) :
      Tries setting (.op id (.terminal text)) scene cursor none [⟨cursor.offset, .op id⟩]
  | classHit {id : OpId} {cls : CharClass} {scene : Scene} {cursor : Cursor} {c : Char}
      {rest : List Char} (lead : cursor.rest = c :: rest) (accepted : cls.contains c = true) :
      Tries setting (.op id (.charClass cls)) scene cursor
        (some (.spanning .terminal cursor (cursor.after [c] rest) [], cursor.after [c] rest)) []
  | classMiss {id : OpId} {cls : CharClass} {scene : Scene} {cursor : Cursor}
      (lead : ∀ c rest, cursor.rest = c :: rest → cls.contains c = false) :
      Tries setting (.op id (.charClass cls)) scene cursor none [⟨cursor.offset, .op id⟩]
  | anyHit {id : OpId} {scene : Scene} {cursor : Cursor} {c : Char} {rest : List Char}
      (lead : cursor.rest = c :: rest) :
      Tries setting (.op id .anyChar) scene cursor
        (some (.spanning .terminal cursor (cursor.after [c] rest) [], cursor.after [c] rest)) []
  | anyMiss {id : OpId} {scene : Scene} {cursor : Cursor} (lead : cursor.rest = []) :
      Tries setting (.op id .anyChar) scene cursor none [⟨cursor.offset, .op id⟩]
  | sequence {id : OpId} {ids : List OpId} {scene : Scene} {cursor : Cursor} {yield : Yield}
      {misses : List Miss}
      (parts : Tries setting (.items ids cursor) scene.opened cursor yield misses) :
      Tries setting (.op id (.sequence ids)) scene cursor yield misses
  | itemsDone {start : Cursor} {scene : Scene} {cursor : Cursor} :
      Tries setting (.items [] start) scene cursor
        (some (.spanning .sequence start cursor scene.siblings, cursor)) []
  | itemsFail {item : OpId} {rest : List OpId} {start : Cursor} {scene : Scene} {cursor : Cursor}
      {misses : List Miss} (first : Tries setting (.eval item) scene cursor none misses) :
      Tries setting (.items (item :: rest) start) scene cursor none misses
  | itemsNext {item : OpId} {rest : List OpId} {start : Cursor} {scene : Scene}
      {cursor next : Cursor} {tree : ParseTree} {yield : Yield} {misses more : List Miss}
      (first : Tries setting (.eval item) scene cursor (some (tree, next)) misses)
      (others : Tries setting (.items rest start) (scene.joined tree) next yield more) :
      Tries setting (.items (item :: rest) start) scene cursor yield (misses ++ more)
  | choice {id : OpId} {ids : List OpId} {scene : Scene} {cursor : Cursor} {yield : Yield}
      {misses : List Miss}
      (parts : Tries setting (.alternatives ids) scene cursor yield misses) :
      Tries setting (.op id (.choice ids)) scene cursor yield misses
  | alternativesNone {scene : Scene} {cursor : Cursor} :
      Tries setting (.alternatives []) scene cursor none []
  | alternativesHit {alternative : OpId} {rest : List OpId} {scene : Scene} {cursor next : Cursor}
      {tree : ParseTree} {misses : List Miss}
      (first : Tries setting (.eval alternative) scene cursor (some (tree, next)) misses) :
      Tries setting (.alternatives (alternative :: rest)) scene cursor (some (tree, next)) misses
  | alternativesNext {alternative : OpId} {rest : List OpId} {scene : Scene} {cursor : Cursor}
      {yield : Yield} {misses more : List Miss}
      (first : Tries setting (.eval alternative) scene cursor none misses)
      (others : Tries setting (.alternatives rest) scene cursor yield more) :
      Tries setting (.alternatives (alternative :: rest)) scene cursor yield (misses ++ more)
  | repetition {id inner : OpId} {least : Nat} {scene : Scene} {cursor : Cursor} {yield : Yield}
      {misses : List Miss}
      (parts : Tries setting (.iterations inner least cursor []) scene cursor yield misses) :
      Tries setting (.op id (.repetition inner least)) scene cursor yield misses
  | iterationsStop {inner : OpId} {least : Nat} {start : Cursor} {found : List ParseTree}
      {scene : Scene} {cursor : Cursor} {misses : List Miss}
      (last : Tries setting (.eval inner) scene cursor none misses) :
      Tries setting (.iterations inner least start found) scene cursor
        (repetitionYield least start found cursor) misses
  | iterationsStay {inner : OpId} {least : Nat} {start : Cursor} {found : List ParseTree}
      {scene : Scene} {cursor next : Cursor} {tree : ParseTree} {misses : List Miss}
      (last : Tries setting (.eval inner) scene cursor (some (tree, next)) misses)
      (stays : ¬ cursor.offset < next.offset) :
      Tries setting (.iterations inner least start found) scene cursor
        (repetitionYield least start (found ++ [tree]) next) misses
  | iterationsNext {inner : OpId} {least : Nat} {start : Cursor} {found : List ParseTree}
      {scene : Scene} {cursor next : Cursor} {tree : ParseTree} {yield : Yield}
      {misses more : List Miss}
      (first : Tries setting (.eval inner) scene cursor (some (tree, next)) misses)
      (moves : cursor.offset < next.offset)
      (others : Tries setting (.iterations inner least start (found ++ [tree])) (scene.grown tree)
        next yield more) :
      Tries setting (.iterations inner least start found) scene cursor yield (misses ++ more)
  | optionalHit {id inner : OpId} {scene : Scene} {cursor next : Cursor} {tree : ParseTree}
      {misses : List Miss}
      (part : Tries setting (.eval inner) scene cursor (some (tree, next)) misses) :
      Tries setting (.op id (.optional inner)) scene cursor (some (tree, next)) misses
  | optionalMiss {id inner : OpId} {scene : Scene} {cursor : Cursor} {misses : List Miss}
      (part : Tries setting (.eval inner) scene cursor none misses) :
      Tries setting (.op id (.optional inner)) scene cursor (emptyYield cursor) misses
  | lookaheadHit {id inner : OpId} {scene : Scene} {cursor next : Cursor} {tree : ParseTree}
      {misses : List Miss}
      (part : Tries setting (.eval inner) scene cursor (some (tree, next)) misses) :
      Tries setting (.op id (.lookahead inner)) scene cursor (emptyYield cursor) misses
  | lookaheadMiss {id inner : OpId} {scene : Scene} {cursor : Cursor} {misses : List Miss}
      (part : Tries setting (.eval inner) scene cursor none misses) :
      Tries setting (.op id (.lookahead inner)) scene cursor none misses
  /-- What fails inside a negative lookahead does not count. -/
  | negativeLookaheadHit {id inner : OpId} {scene : Scene} {cursor next : Cursor}
      {tree : ParseTree} {misses : List Miss}
      (part : Tries setting (.eval inner) scene cursor (some (tree, next)) misses) :
      Tries setting (.op id (.negativeLookahead inner)) scene cursor none []
  | negativeLookaheadMiss {id inner : OpId} {scene : Scene} {cursor : Cursor}
      {misses : List Miss} (part : Tries setting (.eval inner) scene cursor none misses) :
      Tries setting (.op id (.negativeLookahead inner)) scene cursor (emptyYield cursor) []
  | predicate {id : OpId} {hook : Symbol} {negated holds : Bool} {scene : Scene} {cursor : Cursor}
      (answer : setting.answer? hook scene cursor = some holds) :
      Tries setting (.op id (.predicate hook negated)) scene cursor
        (if holds != negated then emptyYield cursor else none) []
  | label {id inner : OpId} {name : Symbol} {scene : Scene} {cursor : Cursor} {yield : Yield}
      {misses : List Miss} (part : Tries setting (.eval inner) scene cursor yield misses) :
      Tries setting (.op id (.label name inner)) scene cursor
        (yield.map fun found ↦ (found.1.withLabel name, found.2)) misses
  | call {id : OpId} {rule : RuleId} {scene : Scene} {cursor : Cursor} {yield : Yield}
      {misses : List Miss} (callee : Tries setting (.rule rule) scene cursor yield misses) :
      Tries setting (.op id (.call rule)) scene cursor yield misses
  /-- The body of a rule sees no elements of its caller. -/
  | rule {rule : RuleId} {entry : RuleEntry} {scene : Scene} {cursor : Cursor} {yield : Yield}
      {misses : List Miss} (found : setting.program.rules[rule.index]? = some entry)
      (body : Tries setting (.eval entry.body) scene.opened cursor yield misses) :
      Tries setting (.rule rule) scene cursor
        (yield.map fun found ↦ (found.1.withRule rule, found.2)) misses

/-- A trial has one outcome at most. -/
theorem Tries.unique {setting : Setting τ} {trial : Trial} {scene : Scene} {cursor : Cursor}
    {yield yield' : Yield} {misses misses' : List Miss}
    (h : Tries setting trial scene cursor yield misses)
    (h' : Tries setting trial scene cursor yield' misses') : yield = yield' ∧ misses = misses' := by
  -- By induction on one derivation: which rule derives an outcome is decided by what the parts
  -- come to, so the other derivation ends with the same rule.
  induction h generalizing yield' misses' with
  | eval found acts ih =>
    cases h' with
    | eval found' acts' =>
      rw [found, Option.some.injEq] at found'
      subst found'
      exact ih acts'
  | terminalHit lead =>
    cases h' with
    | terminalHit lead' =>
      rw [lead, List.append_cancel_left_eq] at lead'
      rw [lead']
      exact ⟨rfl, rfl⟩
    | terminalMiss lead' => exact absurd lead (lead' _)
  | terminalMiss lead =>
    cases h' with
    | terminalHit lead' => exact absurd lead' (lead _)
    | terminalMiss => exact ⟨rfl, rfl⟩
  | classHit lead accepted =>
    cases h' with
    | classHit lead' =>
      rw [lead, List.cons.injEq] at lead'
      rw [lead'.1, lead'.2]
      exact ⟨rfl, rfl⟩
    | classMiss lead' =>
      rw [lead' _ _ lead] at accepted
      cases accepted
  | classMiss lead =>
    cases h' with
    | classHit lead' accepted =>
      rw [lead _ _ lead'] at accepted
      cases accepted
    | classMiss => exact ⟨rfl, rfl⟩
  | anyHit lead =>
    cases h' with
    | anyHit lead' =>
      rw [lead, List.cons.injEq] at lead'
      rw [lead'.1, lead'.2]
      exact ⟨rfl, rfl⟩
    | anyMiss lead' =>
      rw [lead] at lead'
      cases lead'
  | anyMiss lead =>
    cases h' with
    | anyHit lead' =>
      rw [lead] at lead'
      cases lead'
    | anyMiss => exact ⟨rfl, rfl⟩
  | sequence parts ih =>
    cases h' with
    | sequence parts' => exact ih parts'
  | itemsDone =>
    cases h' with
    | itemsDone => exact ⟨rfl, rfl⟩
  | itemsFail first ih =>
    cases h' with
    | itemsFail first' => exact ih first'
    | itemsNext first' => cases (ih first').1
  | itemsNext first others ihfirst ihothers =>
    cases h' with
    | itemsFail first' => cases (ihfirst first').1
    | itemsNext first' others' =>
      obtain ⟨⟨⟩, rfl⟩ := ihfirst first'
      obtain ⟨rfl, rfl⟩ := ihothers others'
      exact ⟨rfl, rfl⟩
  | choice parts ih =>
    cases h' with
    | choice parts' => exact ih parts'
  | alternativesNone =>
    cases h' with
    | alternativesNone => exact ⟨rfl, rfl⟩
  | alternativesHit first ih =>
    cases h' with
    | alternativesHit first' => exact ih first'
    | alternativesNext first' => cases (ih first').1
  | alternativesNext first others ihfirst ihothers =>
    cases h' with
    | alternativesHit first' => cases (ihfirst first').1
    | alternativesNext first' others' =>
      obtain ⟨_, rfl⟩ := ihfirst first'
      obtain ⟨rfl, rfl⟩ := ihothers others'
      exact ⟨rfl, rfl⟩
  | repetition parts ih =>
    cases h' with
    | repetition parts' => exact ih parts'
  | iterationsStop last ih =>
    cases h' with
    | iterationsStop last' => exact ⟨rfl, (ih last').2⟩
    | iterationsStay last' => cases (ih last').1
    | iterationsNext first' => cases (ih first').1
  | iterationsStay last stays ih =>
    cases h' with
    | iterationsStop last' => cases (ih last').1
    | iterationsStay last' =>
      obtain ⟨⟨⟩, rfl⟩ := ih last'
      exact ⟨rfl, rfl⟩
    | iterationsNext first' moves' =>
      obtain ⟨⟨⟩, _⟩ := ih first'
      exact absurd moves' stays
  | iterationsNext first moves others ihfirst ihothers =>
    cases h' with
    | iterationsStop last' => cases (ihfirst last').1
    | iterationsStay last' stays' =>
      obtain ⟨⟨⟩, _⟩ := ihfirst last'
      exact absurd moves stays'
    | iterationsNext first' _ others' =>
      obtain ⟨⟨⟩, rfl⟩ := ihfirst first'
      obtain ⟨rfl, rfl⟩ := ihothers others'
      exact ⟨rfl, rfl⟩
  | optionalHit part ih =>
    cases h' with
    | optionalHit part' => exact ih part'
    | optionalMiss part' => cases (ih part').1
  | optionalMiss part ih =>
    cases h' with
    | optionalHit part' => cases (ih part').1
    | optionalMiss part' => exact ⟨rfl, (ih part').2⟩
  | lookaheadHit part ih =>
    cases h' with
    | lookaheadHit part' => exact ⟨rfl, (ih part').2⟩
    | lookaheadMiss part' => cases (ih part').1
  | lookaheadMiss part ih =>
    cases h' with
    | lookaheadHit part' => cases (ih part').1
    | lookaheadMiss part' => exact ⟨rfl, (ih part').2⟩
  | negativeLookaheadHit part ih =>
    cases h' with
    | negativeLookaheadHit => exact ⟨rfl, rfl⟩
    | negativeLookaheadMiss part' => cases (ih part').1
  | negativeLookaheadMiss part ih =>
    cases h' with
    | negativeLookaheadHit part' => cases (ih part').1
    | negativeLookaheadMiss => exact ⟨rfl, rfl⟩
  | predicate answer =>
    cases h' with
    | predicate answer' =>
      rw [answer, Option.some.injEq] at answer'
      rw [answer']
      exact ⟨rfl, rfl⟩
  | label part ih =>
    cases h' with
    | label part' =>
      obtain ⟨rfl, rfl⟩ := ih part'
      exact ⟨rfl, rfl⟩
  | call callee ih =>
    cases h' with
    | call callee' => exact ih callee'
  | rule found body ih =>
    cases h' with
    | rule found' body' =>
      rw [found, Option.some.injEq] at found'
      subst found'
      obtain ⟨rfl, rfl⟩ := ih body'
      exact ⟨rfl, rfl⟩

/-- How a run ends: the place after its match, if there is one, and all attempts that failed. A
match that leaves input to be consumed fails for want of the end of input. -/
inductive Ends (setting : Setting τ) (rule : RuleId) (consumeAll : Bool) (cursor : Cursor) :
    Option Cursor → List Miss → Prop
  | miss {misses : List Miss} (root : Tries setting (.rule rule) .start cursor none misses) :
      Ends setting rule consumeAll cursor none misses
  | hit {tree : ParseTree} {stop : Cursor} {misses : List Miss}
      (root : Tries setting (.rule rule) .start cursor (some (tree, stop)) misses)
      (consumed : consumeAll = true → stop.rest = []) :
      Ends setting rule consumeAll cursor (some stop) misses
  | short {tree : ParseTree} {stop : Cursor} {misses : List Miss}
      (root : Tries setting (.rule rule) .start cursor (some (tree, stop)) misses)
      (all : consumeAll = true) (left : stop.rest ≠ []) :
      Ends setting rule consumeAll cursor none (misses ++ [⟨stop.offset, .endOfInput⟩])

theorem Ends.unique {setting : Setting τ} {rule : RuleId} {consumeAll : Bool} {cursor : Cursor}
    {found found' : Option Cursor} {misses misses' : List Miss}
    (h : Ends setting rule consumeAll cursor found misses)
    (h' : Ends setting rule consumeAll cursor found' misses') :
    found = found' ∧ misses = misses' := by
  cases h with
  | miss root =>
    cases h' with
    | miss root' => exact ⟨rfl, (root.unique root').2⟩
    | hit root' => cases (root.unique root').1
    | short root' => cases (root.unique root').1
  | hit root consumed =>
    cases h' with
    | miss root' => cases (root.unique root').1
    | hit root' =>
      obtain ⟨⟨⟩, rfl⟩ := root.unique root'
      exact ⟨rfl, rfl⟩
    | short root' all left =>
      obtain ⟨⟨⟩, _⟩ := root.unique root'
      exact absurd (consumed all) left
  | short root all left =>
    cases h' with
    | miss root' => cases (root.unique root').1
    | hit root' consumed =>
      obtain ⟨⟨⟩, _⟩ := root.unique root'
      exact absurd (consumed all) left
    | short root' =>
      obtain ⟨⟨⟩, rfl⟩ := root.unique root'
      exact ⟨rfl, rfl⟩

/-! ## Places -/

/-- A match that began at `cursor` only read forward, and so did the attempts that failed. -/
structure Onward (cursor : Cursor) (yield : Yield) (misses : List Miss) : Prop where
  stops : ∀ {tree : ParseTree} {stop : Cursor}, yield = some (tree, stop) → Passes cursor stop
  fails : ∀ miss ∈ misses, ∃ place, Passes cursor place ∧ place.offset = miss.offset

namespace Onward

variable {cursor : Cursor} {yield yield' : Yield} {misses more : List Miss}

theorem hit {tree : ParseTree} {stop : Cursor} (h : Passes cursor stop) :
    Onward cursor (some (tree, stop)) [] := by
  refine ⟨?_, nofun⟩
  rintro _ _ ⟨⟩
  exact h

theorem miss (cursor : Cursor) (expected : Expected) :
    Onward cursor none [⟨cursor.offset, expected⟩] := by
  refine ⟨nofun, ?_⟩
  intro miss hmiss
  rw [List.mem_singleton.mp hmiss]
  exact ⟨cursor, .refl cursor, rfl⟩

theorem empty (cursor : Cursor) : Onward cursor (emptyYield cursor) [] :=
  ⟨emptyYield_passes, nofun⟩

/-- The same attempts with another outcome. -/
theorem yielding (h : Onward cursor yield misses)
    (hyield : ∀ {tree : ParseTree} {stop : Cursor}, yield' = some (tree, stop) →
      Passes cursor stop) :
    Onward cursor yield' misses := ⟨hyield, h.fails⟩

/-- One evaluation after the other. -/
theorem append {between : Cursor} (h : Onward cursor yield misses) (hpasses : Passes cursor between)
    (hnext : Onward between yield' more) : Onward cursor yield' (misses ++ more) := by
  refine ⟨fun hyield ↦ hpasses.trans (hnext.stops hyield), ?_⟩
  intro miss hmiss
  rcases List.mem_append.mp hmiss with hfirst | hlater
  · exact h.fails miss hfirst
  · obtain ⟨place, hplace, hoffset⟩ := hnext.fails miss hlater
    exact ⟨place, hpasses.trans hplace, hoffset⟩

/-- A change of the tree that was matched. -/
theorem map (h : Onward cursor yield misses) (change : ParseTree → ParseTree) :
    Onward cursor (yield.map fun found ↦ (change found.1, found.2)) misses := by
  refine h.yielding ?_
  intro tree stop hyield
  cases yield with
  | none => cases hyield
  | some found =>
    cases hyield
    exact h.stops rfl

end Onward

theorem Tries.onward {setting : Setting τ} {trial : Trial} {scene : Scene} {cursor : Cursor}
    {yield : Yield} {misses : List Miss} (h : Tries setting trial scene cursor yield misses) :
    Onward cursor yield misses := by
  induction h with
  | eval found acts ih => exact ih
  | terminalHit lead => exact .hit (.after lead)
  | terminalMiss => exact .miss _ _
  | classHit lead accepted => exact .hit (.after lead)
  | classMiss => exact .miss _ _
  | anyHit lead => exact .hit (.after lead)
  | anyMiss => exact .miss _ _
  | sequence parts ih => exact ih
  | itemsDone => exact .hit (.refl _)
  | itemsFail first ih => exact ih
  | itemsNext first others ihfirst ihothers => exact ihfirst.append (ihfirst.stops rfl) ihothers
  | choice parts ih => exact ih
  | alternativesNone => exact ⟨nofun, nofun⟩
  | alternativesHit first ih => exact ih
  | alternativesNext first others ihfirst ihothers => exact ihfirst.append (.refl _) ihothers
  | repetition parts ih => exact ih
  | iterationsStop last ih => exact ih.yielding repetitionYield_passes
  | iterationsStay last stays ih =>
    exact ih.yielding fun hyield ↦ (ih.stops rfl).trans (repetitionYield_passes hyield)
  | iterationsNext first moves others ihfirst ihothers =>
    exact ihfirst.append (ihfirst.stops rfl) ihothers
  | optionalHit part ih => exact ih
  | optionalMiss part ih => exact ih.yielding emptyYield_passes
  | lookaheadHit part ih => exact ih.yielding emptyYield_passes
  | lookaheadMiss part ih => exact ih
  | negativeLookaheadHit => exact ⟨nofun, nofun⟩
  | negativeLookaheadMiss => exact .empty _
  | predicate answer =>
    split
    · exact .empty _
    · exact ⟨nofun, nofun⟩
  | label part ih => exact ih.map _
  | call callee ih => exact ih
  | rule found body ih => exact ih.map _

/-- Failed attempts were made at places of the input, from the start of the run on. -/
theorem Ends.liesIn {setting : Setting τ} {rule : RuleId} {consumeAll : Bool} {cursor : Cursor}
    {found : Option Cursor} {misses : List Miss}
    (h : Ends setting rule consumeAll cursor found misses) {input : List Char}
    (hcursor : cursor.LiesIn input) :
    ∀ miss ∈ misses, ∃ place : Cursor, place.offset = miss.offset ∧ place.LiesIn input ∧
      cursor.offset ≤ place.offset := by
  have hplaced {miss : Miss} (hmiss : ∃ place, Passes cursor place ∧ place.offset = miss.offset) :
      ∃ place : Cursor, place.offset = miss.offset ∧ place.LiesIn input ∧
        cursor.offset ≤ place.offset := by
    obtain ⟨place, hpasses, hoffset⟩ := hmiss
    exact ⟨place, hoffset, hpasses.liesIn hcursor, hpasses.offset_le⟩
  intro miss hmiss
  cases h with
  | miss root => exact hplaced (root.onward.fails miss hmiss)
  | hit root => exact hplaced (root.onward.fails miss hmiss)
  | @short _ stop _ root =>
    rcases List.mem_append.mp hmiss with hbefore | hlast
    · exact hplaced (root.onward.fails miss hbefore)
    · rw [List.mem_singleton.mp hlast]
      exact hplaced ⟨stop, root.onward.stops rfl, rfl⟩

end PegKit.Machine
