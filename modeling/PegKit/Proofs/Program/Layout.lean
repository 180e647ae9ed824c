import Mathlib.Data.List.Nodup
import PegKit.Proofs.Program.Encoding

/-!
# Operations laid out in post-order

Parts are added before the whole, from left to right, so the operations of an expression stand one
after the other and end with the whole. `Laid` says so of a table of operations. It follows that
operations refer to earlier ones, that no operation is a part of two, and that the table can be
read back: `Program.expr?` gives the expression that an operation was made from.
-/

namespace PegKit

/-- `id` is `root` or stands below it. -/
inductive Op.Below (ops : Array Op) (root : OpId) : OpId → Prop
  | root : Below ops root root
  | part {id part : OpId} {op : Op} (above : Below ops root id)
      (found : ops[id.index]? = some op) (member : part ∈ op.children) : Below ops root part

mutual

/-- From `base` up to `id` stand the operations below `id`, and `id` is the last of them. -/
inductive Op.Laid (ops : Array Op) : Nat → OpId → Prop
  | intro {base : Nat} {id : OpId} {op : Op} (found : ops[id.index]? = some op)
      (parts : LaidAll ops base op.children id.index) : Laid ops base id

/-- From `base` up to `stop` stand the operations below each of `ids`, one root after the other. -/
inductive Op.LaidAll (ops : Array Op) : Nat → List OpId → Nat → Prop
  | nil {base : Nat} : LaidAll ops base [] base
  | cons {base stop : Nat} {id : OpId} {ids : List OpId} (first : Laid ops base id)
      (others : LaidAll ops (id.index + 1) ids stop) : LaidAll ops base (id :: ids) stop

end

namespace Op

variable {ops ops' : Array Op}

mutual

theorem Laid.mono (hle : ∀ {i : Nat} {op : Op}, ops[i]? = some op → ops'[i]? = some op)
    {base : Nat} {id : OpId} : Laid ops base id → Laid ops' base id
  | .intro found parts => .intro (hle found) (parts.mono hle)

theorem LaidAll.mono (hle : ∀ {i : Nat} {op : Op}, ops[i]? = some op → ops'[i]? = some op)
    {base stop : Nat} {ids : List OpId} : LaidAll ops base ids stop → LaidAll ops' base ids stop
  | .nil => .nil
  | .cons first others => .cons (first.mono hle) (others.mono hle)

end

theorem LaidAll.append {base between stop : Nat} {ids more : List OpId}
    (h : LaidAll ops base ids between) (h' : LaidAll ops between more stop) :
    LaidAll ops base (ids ++ more) stop := by
  induction ids generalizing base with
  | nil =>
    cases h
    exact h'
  | cons id rest ih =>
    cases h with
    | cons first others => exact .cons first (ih others)

theorem LaidAll.single {base : Nat} {id : OpId} (h : Laid ops base id) :
    LaidAll ops base [id] (id.index + 1) := .cons h .nil

/-! ## Places -/

mutual

theorem Laid.base_le {base : Nat} {id : OpId} : Laid ops base id → base ≤ id.index
  | .intro _ parts => parts.base_le

theorem LaidAll.base_le {base stop : Nat} {ids : List OpId} :
    LaidAll ops base ids stop → base ≤ stop
  | .nil => Nat.le_refl _
  | .cons first others => by
    have hfirst := first.base_le
    have hothers := others.base_le
    omega

end

/-- The roots stand where their operations do. -/
theorem LaidAll.root_bounds {base stop : Nat} {ids : List OpId} (h : LaidAll ops base ids stop)
    {id : OpId} (hid : id ∈ ids) : base ≤ id.index ∧ id.index < stop := by
  induction ids generalizing base with
  | nil => cases hid
  | cons first rest ih =>
    cases h with
    | cons hfirst hothers =>
      have hlow := hfirst.base_le
      have hhigh := hothers.base_le
      rcases List.mem_cons.mp hid with rfl | hrest
      · omega
      · have hbounds := ih hothers hrest
        omega

mutual

/-- Parts come before the whole, and not before the base. -/
theorem Laid.part_bounds {base : Nat} {id : OpId} :
    Laid ops base id → ∀ {i : Nat} {op : Op} {part : OpId}, base ≤ i → i ≤ id.index →
      ops[i]? = some op → part ∈ op.children → base ≤ part.index ∧ part.index < i
  | .intro found parts, i, op, part, hlow, hhigh, hop, hpart => by
    by_cases hroot : i = id.index
    · subst hroot
      rw [found, Option.some.injEq] at hop
      subst hop
      exact parts.root_bounds hpart
    · exact parts.part_bounds hlow (by omega) hop hpart

theorem LaidAll.part_bounds {base stop : Nat} {ids : List OpId} :
    LaidAll ops base ids stop → ∀ {i : Nat} {op : Op} {part : OpId}, base ≤ i → i < stop →
      ops[i]? = some op → part ∈ op.children → base ≤ part.index ∧ part.index < i
  | .nil, i, op, part, hlow, hhigh, hop, hpart => by omega
  | @LaidAll.cons _ _ _ id _ first others, i, op, part, hlow, hhigh, hop, hpart => by
    by_cases hfirst : i ≤ id.index
    · exact first.part_bounds hlow hfirst hop hpart
    · have hbounds := others.part_bounds (by omega) hhigh hop hpart
      have hbase := first.base_le
      omega

end

/-! ## Trees below roots -/

/-- What is below a part is below the whole. -/
theorem Below.of_part {root part id : OpId} {op : Op} (found : ops[root.index]? = some op)
    (member : part ∈ op.children) (h : Below ops part id) : Below ops root id := by
  induction h with
  | root => exact .part .root found member
  | part _ found' member' ih => exact .part ih found' member'

theorem Laid.below_bounds {base : Nat} {root id : OpId} (h : Laid ops base root)
    (hbelow : Below ops root id) : base ≤ id.index ∧ id.index ≤ root.index := by
  induction hbelow with
  | root => exact ⟨h.base_le, Nat.le_refl _⟩
  | part _ found member ih =>
    have hbounds := h.part_bounds ih.1 ih.2 found member
    omega

mutual

/-- Every operation from the base on is below the root. -/
theorem Laid.reaches {base : Nat} {root : OpId} :
    Laid ops base root → ∀ {i : Nat}, base ≤ i → i ≤ root.index → Below ops root ⟨i⟩
  | .intro found parts, i, hlow, hhigh => by
    by_cases hroot : i = root.index
    · subst hroot
      exact .root
    · obtain ⟨part, hpart, hbelow⟩ := parts.reaches hlow (by omega)
      exact hbelow.of_part found hpart

theorem LaidAll.reaches {base stop : Nat} {ids : List OpId} :
    LaidAll ops base ids stop → ∀ {i : Nat}, base ≤ i → i < stop → ∃ root ∈ ids, Below ops root ⟨i⟩
  | .nil, i, hlow, hhigh => by omega
  | @LaidAll.cons _ _ _ id _ first others, i, hlow, hhigh => by
    by_cases hfirst : i ≤ id.index
    · exact ⟨id, List.mem_cons_self, first.reaches hlow hfirst⟩
    · obtain ⟨root, hroot, hbelow⟩ := others.reaches (by omega) hhigh
      exact ⟨root, List.mem_cons_of_mem _ hroot, hbelow⟩

end

theorem LaidAll.below_base {base stop : Nat} {ids : List OpId} (h : LaidAll ops base ids stop)
    {root id : OpId} (hroot : root ∈ ids) (hbelow : Below ops root id) : base ≤ id.index := by
  induction ids generalizing base with
  | nil => cases hroot
  | cons first rest ih =>
    cases h with
    | cons hfirst hothers =>
      rcases List.mem_cons.mp hroot with rfl | hrest
      · exact (hfirst.below_bounds hbelow).1
      · have hnext := ih hothers hrest
        have hbase := hfirst.base_le
        omega

/-- No operation is below two of the roots. -/
theorem LaidAll.root_unique {base stop : Nat} {ids : List OpId} (h : LaidAll ops base ids stop)
    {i j : Nat} {left right id : OpId} (hleft : ids[i]? = some left) (hright : ids[j]? = some right)
    (hbelow : Below ops left id) (hbelow' : Below ops right id) : i = j := by
  induction ids generalizing base i j with
  | nil => cases hleft
  | cons first rest ih =>
    cases h with
    | cons hfirst hothers =>
      have happart {k : Nat} {other : OpId} (hother : rest[k]? = some other)
          (hboth : Below ops first id) : ¬ Below ops other id := by
        intro hbelow
        have hhigh := (hfirst.below_bounds hboth).2
        have hlow := hothers.below_base (List.mem_of_getElem? hother) hbelow
        omega
      cases i with
      | zero =>
        cases hleft
        cases j with
        | zero => rfl
        | succ j => exact absurd hbelow' (happart hright hbelow)
      | succ i =>
        cases j with
        | zero =>
          cases hright
          exact absurd hbelow (happart hleft hbelow')
        | succ j => exact congrArg Nat.succ (ih hothers hleft hright)

/-! ## Parts of operations -/

/-- The parts of the operation at place `i`; none past the end. -/
def partsAt (ops : Array Op) (i : Nat) : List OpId :=
  (ops[i]?.map Op.children).getD []

mutual

/-- Of the operations up to the root, all but the root are a part, and of one operation only. -/
theorem Laid.parts_perm {base : Nat} {id : OpId} :
    Laid ops base id →
      ((List.range' base (id.index + 1 - base)).flatMap (partsAt ops) ++ [id]).Perm
        ((List.range' base (id.index + 1 - base)).map OpId.mk)
  | @Laid.intro _ _ _ op found parts => by
    have hbase := parts.base_le
    have hparts := parts.parts_perm
    have hlength : id.index + 1 - base = id.index - base + 1 := by omega
    have hlast : base + (id.index - base) = id.index := by omega
    have hroot : partsAt ops id.index = op.children := by rw [partsAt, found]; rfl
    rw [hlength, List.range'_1_concat, hlast, List.flatMap_append, List.map_append,
      List.flatMap_singleton, hroot]
    exact hparts.append_right [id]

theorem LaidAll.parts_perm {base stop : Nat} {ids : List OpId} :
    LaidAll ops base ids stop →
      ((List.range' base (stop - base)).flatMap (partsAt ops) ++ ids).Perm
        ((List.range' base (stop - base)).map OpId.mk)
  | .nil => by simp
  | @LaidAll.cons _ _ _ id ids first others => by
    have hbase := first.base_le
    have hstop := others.base_le
    have hfirst := first.parts_perm
    have hothers := others.parts_perm
    have hlength : stop - base = (id.index + 1 - base) + (stop - (id.index + 1)) := by omega
    have hnext : base + (id.index + 1 - base) = id.index + 1 := by omega
    rw [hlength, ← List.range'_append_1, hnext, List.flatMap_append, List.map_append]
    generalize (List.range' base (id.index + 1 - base)).flatMap (partsAt ops) = before at hfirst ⊢
    generalize (List.range' (id.index + 1) (stop - (id.index + 1))).flatMap (partsAt ops) = after
      at hothers ⊢
    calc
      (before ++ after ++ id :: ids).Perm (before ++ (id :: (after ++ ids))) := by
        rw [List.append_assoc]
        exact List.perm_middle.append_left before
      _ = before ++ [id] ++ (after ++ ids) := by simp
      List.Perm _ _ := hfirst.append hothers

end

/-- No operation is a part of two others, or twice a part of one. -/
theorem LaidAll.parts_nodup {stop : Nat} {ids : List OpId} (h : LaidAll ops 0 ids stop) :
    ((List.range stop).flatMap (partsAt ops)).Nodup := by
  have hperm := h.parts_perm
  rw [Nat.sub_zero, ← List.range_eq_range'] at hperm
  have hplaces : ((List.range stop).map OpId.mk).Nodup :=
    List.nodup_range.map fun _ _ hsame ↦ congrArg OpId.index hsame
  exact (hperm.nodup_iff.mpr hplaces).of_append_left

end Op

/-! ## Reading back -/

namespace Program

/-- The expression that `op` stands for when its parts stand for what `part` gives, with the texts
of symbols and the names of rules; `none` where something refers past the end of its table. -/
def exprOf (program : Program) (part : OpId → Option Expr) : Op → Option Expr
  | .terminal text => some (.terminal text)
  | .charClass cls => some (.charClass cls)
  | .anyChar => some .anyChar
  | .sequence items => return .sequence (← items.mapM part)
  | .choice alternatives => return .choice (← alternatives.mapM part)
  | .repetition inner least => return .repetition (← part inner) least
  | .optional inner => return .optional (← part inner)
  | .lookahead inner => return .lookahead (← part inner)
  | .negativeLookahead inner => return .negativeLookahead (← part inner)
  | .predicate hook negated => return .predicate (← program.symbols.resolve? hook) negated
  | .label name inner => return .label (← program.symbols.resolve? name) (← part inner)
  | .call rule => return .ruleRef (← program.rules[rule.index]?).name

/-- The expression that the operation `id` stands for, at most `depth` levels of it. -/
def exprTo (program : Program) : Nat → OpId → Option Expr
  | 0, _ => none
  | depth + 1, id => program.ops[id.index]?.bind (program.exprOf (program.exprTo depth))

/-- The expression that the operation `id` stands for. Parts come before the whole, so no branch is
longer than the place of `id` allows. -/
def expr? (program : Program) (id : OpId) : Option Expr :=
  program.exprTo (id.index + 1) id

/-- Operations refer to earlier ones only. -/
def PartsFirst (program : Program) : Prop :=
  ∀ {i : Nat} {op : Op} {part : OpId}, program.ops[i]? = some op → part ∈ op.children →
    part.index < i

end Program

namespace Tables

variable {program : Program}

mutual

/-- What stands for an expression is read back as that expression. -/
theorem Encodes.exprTo (hparts : program.PartsFirst) {depth : Nat} {id : OpId} {expr : Expr}
    (hdepth : id.index < depth) :
    program.tables.Encodes id expr → program.exprTo depth id = some expr
  | @Encodes.intro _ _ op _ found shape => by
    obtain ⟨left, rfl⟩ : ∃ left, depth = left + 1 := ⟨depth - 1, by omega⟩
    have hfound : program.ops[id.index]? = some op := found
    have hchildren : ∀ part ∈ op.children, part.index < left := by
      intro part hpart
      have hlt := hparts hfound hpart
      omega
    rw [Program.exprTo, hfound]
    exact Shape.exprOf hparts hchildren shape

theorem Shape.exprOf (hparts : program.PartsFirst) {depth : Nat} {op : Op} {expr : Expr}
    (hdepth : ∀ part ∈ op.children, part.index < depth) :
    program.tables.Shape op expr → program.exprOf (program.exprTo depth) op = some expr
  | .terminal => rfl
  | .charClass => rfl
  | .anyChar => rfl
  | @Shape.sequence _ ids _ parts => by
    have hids : ∀ part ∈ ids, part.index < depth := hdepth
    rw [Program.exprOf, parts.mapM_exprTo hparts hids]
    rfl
  | @Shape.choice _ ids _ parts => by
    have hids : ∀ part ∈ ids, part.index < depth := hdepth
    rw [Program.exprOf, parts.mapM_exprTo hparts hids]
    rfl
  | .repetition part => by
    rw [Program.exprOf, part.exprTo hparts (hdepth _ List.mem_cons_self)]
    rfl
  | .optional part => by
    rw [Program.exprOf, part.exprTo hparts (hdepth _ List.mem_cons_self)]
    rfl
  | .lookahead part => by
    rw [Program.exprOf, part.exprTo hparts (hdepth _ List.mem_cons_self)]
    rfl
  | .negativeLookahead part => by
    rw [Program.exprOf, part.exprTo hparts (hdepth _ List.mem_cons_self)]
    rfl
  | @Shape.predicate _ symbol hook _ text => by
    have htext : program.symbols.resolve? symbol = some hook := text
    rw [Program.exprOf, htext]
    rfl
  | @Shape.label _ symbol name _ _ text part => by
    have htext : program.symbols.resolve? symbol = some name := text
    rw [Program.exprOf, htext, part.exprTo hparts (hdepth _ List.mem_cons_self)]
    rfl
  | @Shape.call _ rule _ named => by
    rw [Program.tables_rules, Option.map_eq_some_iff] at named
    obtain ⟨entry, hentry, rfl⟩ := named
    rw [Program.exprOf, hentry]
    rfl

theorem EncodesAll.mapM_exprTo (hparts : program.PartsFirst) {depth : Nat} {ids : List OpId}
    {exprs : List Expr} (hdepth : ∀ id ∈ ids, id.index < depth) :
    program.tables.EncodesAll ids exprs → ids.mapM (program.exprTo depth) = some exprs
  | .nil => rfl
  | .cons first others => by
    rw [List.mapM_cons, first.exprTo hparts (hdepth _ List.mem_cons_self),
      others.mapM_exprTo hparts fun id hid ↦ hdepth id (List.mem_cons_of_mem _ hid)]
    rfl

end

end Tables

end PegKit
