import PegKit.Proofs.Machine.Furthest

/-!
# Rejections are explained

A negative lookahead or a predicate can fail without any attempt to read text, and so can a choice
of nothing and a repetition that wants two matches and gets one. Without these, every failure goes
back to text that was expected and is not there. So an input that does not match leaves a report,
and what it tells lies in the part of the input that was parsed.
-/

namespace PegKit

open Text (IsBoundary byteLength)

/-- An operation that only fails where one of its parts fails, or where it reads text itself. -/
def Op.Plain : Op → Prop
  | .choice alternatives => alternatives ≠ []
  | .repetition _ least => least ≤ 1
  | .negativeLookahead _ => False
  | .predicate _ _ => False
  | .terminal _ => True
  | .charClass _ => True
  | .anyChar => True
  | .sequence _ => True
  | .optional _ => True
  | .lookahead _ => True
  | .label _ _ => True
  | .call _ => True

instance : (op : Op) → Decidable op.Plain
  | .choice alternatives => inferInstanceAs (Decidable (alternatives ≠ []))
  | .repetition _ least => inferInstanceAs (Decidable (least ≤ 1))
  | .negativeLookahead _ => .isFalse not_false
  | .predicate _ _ => .isFalse not_false
  | .terminal _ => .isTrue trivial
  | .charClass _ => .isTrue trivial
  | .anyChar => .isTrue trivial
  | .sequence _ => .isTrue trivial
  | .optional _ => .isTrue trivial
  | .lookahead _ => .isTrue trivial
  | .label _ _ => .isTrue trivial
  | .call _ => .isTrue trivial

/-- No operation of the program fails in silence. -/
def Program.Plain (program : Program) : Prop :=
  ∀ op ∈ program.ops, op.Plain

instance (program : Program) : Decidable program.Plain :=
  inferInstanceAs (Decidable (∀ op ∈ program.ops, op.Plain))

namespace Machine

open Program (emptyYield repetitionYield)

variable {τ : Type} {setting : Setting τ}

/-- What is left of a choice or repetition can fail for the same reasons only. -/
def Trial.Plain : Trial → Prop
  | .op _ acts => acts.Plain
  | .alternatives ids => ids ≠ []
  | .iterations _ least _ _ => least ≤ 1
  | .eval _ => True
  | .rule _ => True
  | .items _ _ => True

theorem Tries.explained (hprogram : setting.program.Plain) {trial : Trial} {scene : Scene}
    {cursor : Cursor} {yield : Program.Yield} {misses : List Miss}
    (h : Tries setting trial scene cursor yield misses) (htrial : trial.Plain)
    (hnone : yield = none) : misses ≠ [] := by
  induction h with
  | eval found acts ih => exact ih (hprogram _ (Array.mem_of_getElem? found)) hnone
  | terminalHit => cases hnone
  | terminalMiss => exact List.cons_ne_nil _ _
  | classHit => cases hnone
  | classMiss => exact List.cons_ne_nil _ _
  | anyHit => cases hnone
  | anyMiss => exact List.cons_ne_nil _ _
  | sequence parts ih => exact ih trivial hnone
  | itemsDone => cases hnone
  | itemsFail first ih => exact ih trivial rfl
  | itemsNext first others _ ihothers =>
    exact List.append_ne_nil_of_right_ne_nil _ (ihothers trivial hnone)
  | choice parts ih => exact ih htrial hnone
  | alternativesNone => exact absurd rfl htrial
  | alternativesHit => cases hnone
  | alternativesNext first others ihfirst _ =>
    exact List.append_ne_nil_of_left_ne_nil (ihfirst trivial rfl) _
  | repetition parts ih => exact ih htrial hnone
  | iterationsStop last ih => exact ih trivial rfl
  | @iterationsStay _ least _ found _ _ _ tree =>
    have henough : ¬ (found ++ [tree]).length < least := by
      have hleast : least ≤ 1 := htrial
      rw [List.length_append, List.length_singleton]
      omega
    rw [repetitionYield, if_neg henough] at hnone
    cases hnone
  | iterationsNext first moves others _ ihothers =>
    exact List.append_ne_nil_of_right_ne_nil _ (ihothers htrial hnone)
  | optionalHit => cases hnone
  | optionalMiss => cases hnone
  | lookaheadHit => cases hnone
  | lookaheadMiss part ih => exact ih trivial rfl
  | negativeLookaheadHit => exact htrial.elim
  | negativeLookaheadMiss => exact htrial.elim
  | predicate => exact htrial.elim
  | label part ih => exact ih trivial (Option.map_eq_none_iff.mp hnone)
  | call callee ih => exact ih trivial hnone
  | rule found body ih => exact ih trivial (Option.map_eq_none_iff.mp hnone)

/-- A run without a match failed to read something. -/
theorem Ends.explained (hprogram : setting.program.Plain) {rule : RuleId} {consumeAll : Bool}
    {cursor : Cursor} {misses : List Miss}
    (h : Ends setting rule consumeAll cursor none misses) : misses ≠ [] := by
  cases h with
  | miss root => exact root.explained hprogram trivial rfl
  | short => exact List.append_ne_nil_of_right_ne_nil _ (List.cons_ne_nil _ _)

end Machine

/-- A report on failed attempts gives a reason. -/
theorem FailureReport.Tells.reason {report : FailureReport} {program : Program}
    {input : List Char} {misses : List Machine.Miss} (h : report.Tells program input misses)
    (hmissed : misses ≠ []) :
    report.isEmpty = false ∧ report.reason?.isSome = true ∧
      ∃ miss ∈ misses, report.index? = some miss.offset := by
  obtain ⟨furthest, hmax⟩ : ∃ furthest, (misses.map (·.offset)).max? = some furthest := by
    rw [← Option.isSome_iff_exists, List.isSome_max?_iff]
    simpa using hmissed
  have hindex := h.index.trans hmax
  have hline := h.line
  rw [hmax, line?, Option.map_some, Option.map_eq_some_iff] at hline
  obtain ⟨position, hposition, _⟩ := hline
  obtain ⟨miss, hmiss, hoffset⟩ := List.mem_map.mp (List.max?_eq_some_iff.mp hmax).1
  refine ⟨?_, ?_, miss, hmiss, hoffset ▸ hindex⟩
  · rw [Bool.eq_false_iff]
    exact mt h.isEmpty_iff.mp hmissed
  · rw [reason?, hindex, hposition]
    rfl

/-- A program that never fails in silence leaves a report whenever the input does not match, and the
report is about a place in the part of the input that was to be parsed. -/
theorem Parser.rejections_explained {τ : Type} (parser : Parser) (hplain : parser.program.Plain)
    (input : String) (options : ParseOptions) (observe : τ → Machine.Event → τ) (trace : τ)
    (h : (parser.parseWith input options observe trace).result = .ok none) :
    let report := (parser.parseWith input options observe trace).parser.report
    report.isEmpty = false ∧ report.reason?.isSome = true ∧
      ∃ index, report.index? = some index ∧ IsBoundary input.toList index ∧
        options.start ≤ index ∧ index ≤ byteLength input.toList := by
  obtain ⟨rule, cursor, outcome, hstart, hrun, hroot, hreport⟩ := parseWith_ok h
  obtain ⟨hoffset, hlies⟩ := startOf_ok hstart
  obtain ⟨misses, hends, hfailures⟩ := Machine.run_ends _ _ _ _ _ _ hrun
  rw [Option.map_eq_none_iff] at hroot
  rw [hroot] at hends
  have htells := FailureReport.ofFailures_tells parser.program input.toList misses
  rw [← hfailures, ← hreport] at htells
  obtain ⟨hsome, hreason, miss, hmiss, hindex⟩ := htells.reason (hends.explained hplain)
  obtain ⟨place, hplace, hinside, hafter⟩ := hends.liesIn hlies miss hmiss
  rw [← hplace] at hindex
  rw [hoffset] at hafter
  exact ⟨hsome, hreason, place.offset, hindex, hinside.boundary, hafter, hinside.offset_le⟩

/-- Letters `a` and `b`, at least one of them, and then a `c`. -/
def pickyParser : Parser :=
  let ops := #[.terminal "a", .terminal "b", .choice [⟨0⟩, ⟨1⟩], .repetition ⟨2⟩ 1, .terminal "c",
    .lookahead ⟨4⟩, .anyChar, .sequence [⟨3⟩, ⟨5⟩, ⟨6⟩]]
  .ofProgram ⟨"picky", [], ops, #[⟨"start", ⟨7⟩⟩], .empty⟩

theorem Parser.rejections_explained_picky : pickyParser.program.Plain ∧
    (pickyParser.parseWith "éad" { start := 2 } (fun _ _ ↦ ()) ()).result = .ok none ∧
      ∃ index, (pickyParser.parseWith "éad" { start := 2 } (fun _ _ ↦ ()) ()).parser.report.index? =
        some index ∧ 2 ≤ index ∧ index ≤ 4 := by
  have hplain : pickyParser.program.Plain := by decide
  have hresult : (pickyParser.parseWith "éad" { start := 2 } (fun _ _ ↦ ()) ()).result =
      .ok none := rfl
  obtain ⟨_, _, index, hindex, _, hstart, hstop⟩ :=
    rejections_explained pickyParser hplain "éad" { start := 2 } _ _ hresult
  exact ⟨hplain, hresult, index, hindex, hstart, hstop⟩

end PegKit
