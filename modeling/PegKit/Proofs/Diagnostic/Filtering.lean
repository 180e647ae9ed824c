import Mathlib.Data.List.Basic
import Mathlib.Logic.Relation
import PegKit.Compilation

/-!
# What filtering keeps

One report beats another by the rule on colliding reports, and along this relation the place where a
report starts, and among reports with one start the standing of its kind, only goes up. So the reports
that beat a dropped one lead back to a report that is kept, and filtering never drops the last error.

Filtering follows the rule as far as reports go that nothing beats: they are kept, and what they beat
is dropped, in whatever order the reports were made. It depends on this order what becomes of a report
that only beaten reports beat, since a report that is dropped early drops no others.
-/

namespace PegKit

/-! ## The rule -/

/-- Which of two kinds of reports that start at one place is kept: a missing piece before a construct
left open, otherwise the one of higher priority. -/
def DiagnosticKind.outranks (kind other : DiagnosticKind) : Bool :=
  if kind.isRootCause && other.isStructural then true
  else if other.isRootCause && kind.isStructural then false
  else kind.suppresses other

/-- The place of a kind in the order that `outranks` is. -/
def DiagnosticKind.standing (kind : DiagnosticKind) : Nat :=
  if kind.isRootCause then kind.rank - 3
  else if kind.isStructural then kind.rank + 4
  else kind.rank

theorem DiagnosticKind.isRootCause_iff {kind : DiagnosticKind} :
    kind.isRootCause = true ↔ 3 ≤ kind.rank ∧ kind.rank ≤ 6 := by
  cases kind <;> decide

theorem DiagnosticKind.isStructural_iff {kind : DiagnosticKind} :
    kind.isStructural = true ↔ kind.rank ≤ 2 := by
  cases kind <;> decide

theorem DiagnosticKind.outranks_iff {kind other : DiagnosticKind} :
    kind.outranks other = true ↔ kind.standing < other.standing := by
  simp only [outranks, standing, suppresses, Bool.and_eq_true, isRootCause_iff, isStructural_iff]
  split_ifs <;> simp <;> omega

namespace Diagnostic

variable {a b : Diagnostic}

/-- Whether `a` drops `b`: it has the higher priority, starts before it and reaches at least as far,
or both start at one place and the kind of `a` outranks that of `b`. -/
def beats (a b : Diagnostic) : Bool :=
  (a.span.start < b.span.start && b.span.stop ≤ a.span.stop && a.kind.suppresses b.kind) ||
    (a.span.start == b.span.start && a.kind.outranks b.kind)

theorem beats_iff : a.beats b = true ↔
    (a.span.start < b.span.start ∧ b.span.stop ≤ a.span.stop ∧
      a.kind.suppresses b.kind = true) ∨
    (a.span.start = b.span.start ∧ a.kind.outranks b.kind = true) := by
  simp [beats, and_assoc]

theorem loser?_eq_second_iff : a.loser? b = some .second ↔ a.beats b = true := by
  rw [beats_iff, loser?, DiagnosticKind.outranks]
  grind

theorem beats_of_loser?_eq_first (h : a.loser? b = some .first) : b.beats a = true := by
  rw [loser?] at h
  rw [beats_iff, DiagnosticKind.outranks]
  grind

theorem loser?_eq_none (h : a.beats b = false) (h' : b.beats a = false) : a.loser? b = none := by
  cases hloser : a.loser? b with
  | none => rfl
  | some loser =>
    cases loser with
    | first => rw [beats_of_loser?_eq_first hloser] at h'; cases h'
    | second => rw [loser?_eq_second_iff.mp hloser] at h; cases h

/-- What goes up along `beats`, the first part before the second. -/
def standing (report : Diagnostic) : Nat × Nat := (report.span.start, report.kind.standing)

theorem standing_lt (h : a.beats b = true) :
    Prod.Lex (· < ·) (· < ·) a.standing b.standing := by
  rcases beats_iff.mp h with ⟨hstart, _⟩ | ⟨hstart, hrank⟩
  · exact .left _ _ hstart
  · rw [standing, standing, hstart]
    exact .right _ (DiagnosticKind.outranks_iff.mp hrank)

theorem beats_wellFounded : WellFounded fun a b : Diagnostic ↦ a.beats b = true :=
  Subrelation.wf standing_lt
    (InvImage.wf standing (Prod.lex Nat.lt_wfRel Nat.lt_wfRel).wf)

theorem not_beats_self (report : Diagnostic) : report.beats report = false := by
  rw [← Bool.not_eq_true, beats_iff, DiagnosticKind.outranks_iff]
  omega

/-- What beats an error is an error. -/
theorem isError_of_beats (h : a.beats b = true) (herror : b.isError = true) :
    a.isError = true := by
  have hrank {report : Diagnostic} : report.isError = true ↔ report.kind.rank < 15 := by
    rw [isError, severity]
    cases report.kind <;> decide
  rw [hrank] at herror ⊢
  rcases beats_iff.mp h with ⟨_, _, hless⟩ | ⟨_, hless⟩
  · rw [DiagnosticKind.suppresses, decide_eq_true_eq] at hless
    omega
  · rw [DiagnosticKind.outranks_iff, DiagnosticKind.standing, DiagnosticKind.standing] at hless
    simp only [DiagnosticKind.isRootCause_iff, DiagnosticKind.isStructural_iff] at hless
    split_ifs at hless <;> omega

end Diagnostic

namespace Diagnostics

variable {diagnostics : Diagnostics} {dropped : List Nat}

/-! ## Comparing all pairs -/

/-- A comparison drops nothing, or one report that another one beats. -/
theorem compareAt_cases (diagnostics : Diagnostics) (dropped : List Nat) (pair : Nat × Nat) :
    compareAt diagnostics dropped pair = dropped ∨
      ∃ place lost, compareAt diagnostics dropped pair = place :: dropped ∧
        diagnostics[place]? = some lost ∧ ∃ other ∈ diagnostics, other.beats lost = true := by
  unfold compareAt
  split
  · exact .inl rfl
  · split
    · next a b ha hb =>
      cases hloser : a.loser? b with
      | none => exact .inl rfl
      | some loser =>
        right
        cases loser with
        | first =>
          exact ⟨_, a, rfl, ha, b, List.mem_of_getElem? hb,
            Diagnostic.beats_of_loser?_eq_first hloser⟩
        | second =>
          exact ⟨_, b, rfl, hb, a, List.mem_of_getElem? ha,
            Diagnostic.loser?_eq_second_iff.mp hloser⟩
    · exact .inl rfl

theorem subset_compareAt (diagnostics : Diagnostics) (dropped : List Nat) (pair : Nat × Nat) :
    dropped ⊆ compareAt diagnostics dropped pair := by
  rcases compareAt_cases diagnostics dropped pair with h | ⟨_, _, h, _⟩
  · rw [h]
    exact List.Subset.refl dropped
  · rw [h]
    exact List.subset_cons_self _ _

/-- Of two reports that were compared, one is dropped unless neither beats the other. -/
theorem compareAt_settles {first second : Nat} {a b : Diagnostic}
    (ha : diagnostics[first]? = some a) (hb : diagnostics[second]? = some b)
    (hbeats : a.beats b = true) :
    first ∈ compareAt diagnostics dropped (first, second) ∨
      second ∈ compareAt diagnostics dropped (first, second) := by
  have hne : first ≠ second := by
    rintro rfl
    obtain rfl : a = b := Option.some.inj (ha.symm.trans hb)
    rw [Diagnostic.not_beats_self] at hbeats
    cases hbeats
  have hloser := Diagnostic.loser?_eq_second_iff.mpr hbeats
  by_cases hfirst : first ∈ dropped
  · exact .inl (subset_compareAt diagnostics dropped _ hfirst)
  · by_cases hsecond : second ∈ dropped
    · exact .inr (subset_compareAt diagnostics dropped _ hsecond)
    · right
      simp [compareAt, hne, hfirst, hsecond, ha, hb, hloser]

theorem subset_foldl (diagnostics : Diagnostics) (pairs : List (Nat × Nat))
    (dropped : List Nat) : dropped ⊆ pairs.foldl (compareAt diagnostics) dropped := by
  induction pairs generalizing dropped with
  | nil => exact List.Subset.refl _
  | cons pair rest ih => exact List.Subset.trans (subset_compareAt diagnostics dropped pair) (ih _)

theorem foldl_settles {first second : Nat} {a b : Diagnostic}
    (ha : diagnostics[first]? = some a) (hb : diagnostics[second]? = some b)
    (hbeats : a.beats b = true) {pairs : List (Nat × Nat)} (hpair : (first, second) ∈ pairs)
    (dropped : List Nat) :
    first ∈ pairs.foldl (compareAt diagnostics) dropped ∨
      second ∈ pairs.foldl (compareAt diagnostics) dropped := by
  induction pairs generalizing dropped with
  | nil => cases hpair
  | cons pair rest ih =>
    rcases List.mem_cons.mp hpair with rfl | hrest
    · exact (compareAt_settles ha hb hbeats).imp (fun h ↦ subset_foldl diagnostics rest _ h)
        fun h ↦ subset_foldl diagnostics rest _ h
    · exact ih hrest _

/-- Every place among `dropped` holds a report that another one beats. -/
def AllBeaten (diagnostics : Diagnostics) (dropped : List Nat) : Prop :=
  ∀ place ∈ dropped, ∃ lost, diagnostics[place]? = some lost ∧
    ∃ other ∈ diagnostics, other.beats lost = true

theorem AllBeaten.compareAt (h : diagnostics.AllBeaten dropped) (pair : Nat × Nat) :
    diagnostics.AllBeaten (compareAt diagnostics dropped pair) := by
  rcases compareAt_cases diagnostics dropped pair with hsame | ⟨place, lost, hmore, hlost⟩
  · rwa [hsame]
  · rw [hmore]
    intro other hother
    rcases List.mem_cons.mp hother with rfl | hbefore
    · exact ⟨lost, hlost⟩
    · exact h other hbefore

theorem droppedPlaces_beaten (diagnostics : Diagnostics) :
    diagnostics.AllBeaten diagnostics.droppedPlaces := by
  have hpairs (pairs : List (Nat × Nat)) {dropped : List Nat} (h : diagnostics.AllBeaten dropped) :
      diagnostics.AllBeaten (pairs.foldl (Diagnostics.compareAt diagnostics) dropped) := by
    induction pairs generalizing dropped with
    | nil => exact h
    | cons pair rest ih => exact ih (h.compareAt pair)
  exact hpairs _ nofun

/-- Of two reports of which one beats the other, one is dropped. -/
theorem droppedPlaces_settles {first second : Nat} {a b : Diagnostic}
    (ha : diagnostics[first]? = some a) (hb : diagnostics[second]? = some b)
    (hbeats : a.beats b = true) :
    first ∈ diagnostics.droppedPlaces ∨ second ∈ diagnostics.droppedPlaces := by
  obtain ⟨hfirst, _⟩ := List.getElem?_eq_some_iff.mp ha
  obtain ⟨hsecond, _⟩ := List.getElem?_eq_some_iff.mp hb
  refine foldl_settles ha hb hbeats ?_ []
  simpa [placePairs] using ⟨hfirst, hsecond⟩

/-! ## The reports that are kept -/

theorem mem_filtered_iff {report : Diagnostic} : report ∈ diagnostics.filtered ↔
    ∃ place, diagnostics[place]? = some report ∧ place ∉ diagnostics.droppedPlaces := by
  simp [filtered, List.mem_zipIdx_iff_getElem?]

theorem filtered_sublist (diagnostics : Diagnostics) :
    diagnostics.filtered.Sublist diagnostics := by
  have hkept := (diagnostics.zipIdx.filter_sublist
    (p := fun entry ↦ !diagnostics.droppedPlaces.contains entry.2)).map Prod.fst
  rwa [List.zipIdx_map_fst] at hkept

/-- Filtering keeps the reports at certain places, and the other places are those to drop. -/
theorem exists_keptPlaces (diagnostics : Diagnostics) : ∃ kept : List Nat,
    kept.Sublist (List.range diagnostics.length) ∧
      diagnostics.filtered = kept.filterMap (diagnostics[·]?) ∧
      ∀ place < diagnostics.length, place ∉ kept ↔ place ∈ diagnostics.droppedPlaces := by
  let entries := diagnostics.zipIdx.filter fun entry ↦
    !diagnostics.droppedPlaces.contains entry.2
  have hentries : entries.Sublist diagnostics.zipIdx := List.filter_sublist
  refine ⟨entries.map Prod.snd, ?_, ?_, ?_⟩
  · have hplaces := hentries.map Prod.snd
    rwa [List.zipIdx_map_snd, ← List.range_eq_range'] at hplaces
  · calc
      diagnostics.filtered = entries.filterMap fun entry ↦ some entry.1 :=
        (congrFun List.filterMap_eq_map entries).symm
      _ = entries.filterMap fun entry ↦ diagnostics[entry.2]? :=
        List.filterMap_congr fun entry hentry ↦
          (List.mem_zipIdx_iff_getElem?.mp (hentries.subset hentry)).symm
      _ = (entries.map Prod.snd).filterMap (diagnostics[·]?) := List.filterMap_map.symm
  · intro place hplace
    constructor
    · intro hlost
      by_contra hkept
      apply hlost
      refine List.mem_map.mpr ⟨(diagnostics[place], place), List.mem_filter.mpr ⟨?_, ?_⟩, rfl⟩
      · exact List.mem_zipIdx_iff_getElem?.mpr (List.getElem?_eq_getElem hplace)
      · simpa using hkept
    · intro hdropped hkept
      obtain ⟨entry, hentry, rfl⟩ := List.mem_map.mp hkept
      have hstays := (List.mem_filter.mp hentry).2
      simp only [Bool.not_eq_true', List.contains_eq_mem, decide_eq_false_iff_not] at hstays
      exact hstays hdropped

/-- What `keep` holds of is kept when nothing of it is dropped. -/
theorem filter_sublist_filtered {keep : Diagnostic → Bool}
    (h : ∀ place report, diagnostics[place]? = some report → keep report = true →
      place ∉ diagnostics.droppedPlaces) :
    (diagnostics.filter keep).Sublist diagnostics.filtered := by
  let kept := diagnostics.zipIdx.filter fun entry ↦ !diagnostics.droppedPlaces.contains entry.2
  have hentries : diagnostics.zipIdx.filter (keep ∘ Prod.fst) = kept.filter (keep ∘ Prod.fst) := by
    rw [List.filter_filter]
    refine List.filter_congr fun entry hentry ↦ ?_
    have hreport := List.mem_zipIdx_iff_getElem?.mp hentry
    by_cases hkeep : keep entry.1 = true
    · simpa [hkeep] using h entry.2 entry.1 hreport hkeep
    · simp [hkeep]
  have hfilter : diagnostics.filter keep = (kept.filter (keep ∘ Prod.fst)).map Prod.fst := by
    calc
      diagnostics.filter keep = (diagnostics.zipIdx.map Prod.fst).filter keep := by
        rw [List.zipIdx_map_fst]
      _ = (diagnostics.zipIdx.filter (keep ∘ Prod.fst)).map Prod.fst := List.filter_map
      _ = (kept.filter (keep ∘ Prod.fst)).map Prod.fst := by rw [hentries]
  rw [hfilter]
  exact List.filter_sublist.map Prod.fst

theorem filtered_sublist_filter {keep : Diagnostic → Bool}
    (h : ∀ report ∈ diagnostics.filtered, keep report = true) :
    diagnostics.filtered.Sublist (diagnostics.filter keep) := by
  rw [← List.filter_eq_self.mpr h]
  exact (filtered_sublist diagnostics).filter keep

/-- Nothing is dropped where no report beats another one. -/
theorem filtered_eq_self (h : ∀ a ∈ diagnostics, ∀ b ∈ diagnostics, a.beats b = false) :
    diagnostics.filtered = diagnostics := by
  have hnone (place : Nat) : place ∉ diagnostics.droppedPlaces := by
    intro hplace
    obtain ⟨lost, hlost, other, hother, hbeats⟩ := droppedPlaces_beaten diagnostics place hplace
    rw [h other hother lost (List.mem_of_getElem? hlost)] at hbeats
    cases hbeats
  refine (filtered_sublist diagnostics).antisymm ?_
  have hall : (diagnostics.filter fun _ ↦ true).Sublist diagnostics.filtered :=
    filter_sublist_filtered fun place _ _ _ ↦ hnone place
  rwa [List.filter_true] at hall

theorem not_beats_of_filtered {a b : Diagnostic} (ha : a ∈ diagnostics.filtered)
    (hb : b ∈ diagnostics.filtered) : a.beats b = false := by
  obtain ⟨first, hfirst, hkept⟩ := mem_filtered_iff.mp ha
  obtain ⟨second, hsecond, hkept'⟩ := mem_filtered_iff.mp hb
  cases hbeats : a.beats b with
  | false => rfl
  | true => exact absurd (droppedPlaces_settles hfirst hsecond hbeats) (by simp [hkept, hkept'])

/-! ## Where dropped reports lead -/

/-- One of two reports drops the other, which of them is asked about first. -/
def Drops (diagnostics : Diagnostics) (a b : Diagnostic) : Prop :=
  a ∈ diagnostics ∧ b ∈ diagnostics ∧
    (a.loser? b = some .second ∨ b.loser? a = some .first)

theorem Drops.of_beats {a b : Diagnostic} (ha : a ∈ diagnostics) (hb : b ∈ diagnostics)
    (h : a.beats b = true) : diagnostics.Drops a b :=
  ⟨ha, hb, .inl (Diagnostic.loser?_eq_second_iff.mpr h)⟩

theorem Drops.beats {a b : Diagnostic} (h : diagnostics.Drops a b) : a.beats b = true := by
  rcases h.2.2 with hsecond | hfirst
  · exact Diagnostic.loser?_eq_second_iff.mp hsecond
  · exact Diagnostic.beats_of_loser?_eq_first hfirst

/-- From every report, those that beat it lead back to one that is kept. -/
theorem exists_survivor {report : Diagnostic} (h : report ∈ diagnostics) :
    ∃ survivor ∈ diagnostics.filtered,
      Relation.ReflTransGen diagnostics.Drops survivor report := by
  induction report using Diagnostic.beats_wellFounded.induction with
  | _ report ih =>
    by_cases hkept : report ∈ diagnostics.filtered
    · exact ⟨report, hkept, .refl⟩
    · obtain ⟨place, hplace⟩ := List.getElem?_of_mem h
      have hdropped : place ∈ diagnostics.droppedPlaces := by
        by_contra hstays
        exact hkept (mem_filtered_iff.mpr ⟨place, hplace, hstays⟩)
      obtain ⟨lost, hlost, other, hother, hbeats⟩ :=
        droppedPlaces_beaten diagnostics place hdropped
      obtain rfl : report = lost := Option.some.inj (hplace.symm.trans hlost)
      obtain ⟨survivor, hsurvivor, hchain⟩ := ih other hbeats hother
      exact ⟨survivor, hsurvivor, hchain.tail (.of_beats hother h hbeats)⟩

/-- A dropped report loses, at the end of a chain of reports, to one that is kept. -/
theorem exists_survivor_of_dropped {place : Nat} (h : place ∈ diagnostics.droppedPlaces) :
    ∃ lost, diagnostics[place]? = some lost ∧ ∃ survivor ∈ diagnostics.filtered,
      Relation.TransGen diagnostics.Drops survivor lost := by
  obtain ⟨lost, hlost, other, hother, hbeats⟩ := droppedPlaces_beaten diagnostics place h
  obtain ⟨survivor, hsurvivor, hchain⟩ := exists_survivor hother
  have hmem := List.mem_of_getElem? hlost
  exact ⟨lost, hlost, survivor, hsurvivor, .tail' hchain (.of_beats hother hmem hbeats)⟩

/-- An error leads back to errors only. -/
theorem isError_of_chain {survivor report : Diagnostic}
    (h : Relation.ReflTransGen diagnostics.Drops survivor report)
    (herror : report.isError = true) : survivor.isError = true := by
  induction h using Relation.ReflTransGen.head_induction_on with
  | refl => exact herror
  | head hfirst _ ih => exact Diagnostic.isError_of_beats hfirst.beats ih

theorem filtered_hasErrors (h : diagnostics.hasErrors = true) :
    diagnostics.filtered.hasErrors = true := by
  rw [hasErrors, List.any_eq_true] at h ⊢
  obtain ⟨report, hreport, herror⟩ := h
  obtain ⟨survivor, hsurvivor, hchain⟩ := exists_survivor hreport
  exact ⟨survivor, hsurvivor, isError_of_chain hchain herror⟩

theorem errorCount_pos (h : diagnostics.hasErrors = true) : 0 < diagnostics.errorCount := by
  rw [hasErrors, List.any_eq_true] at h
  exact List.countP_pos_iff.mpr h

/-! ## Errors that carry reports -/

theorem malformed_of_analyze {parsed : Cst.Parsed} {error : CompileError}
    (h : Compilation.analyze parsed = .error error) :
    ∃ reports, error = .malformed reports ∧ 0 < reports.errorCount := by
  unfold Compilation.analyze at h
  split at h
  · next herrors =>
    cases h
    exact ⟨_, rfl, errorCount_pos (filtered_hasErrors herrors)⟩
  · cases h

theorem meaningless_of_accept {analyzed : Compilation.Analyzed} {error : CompileError}
    (h : analyzed.accept = .error error) :
    ∃ reports, error = .meaningless reports ∧ 0 < reports.errorCount := by
  unfold Compilation.Analyzed.accept Compilation.Analyzed.isValid at h
  split at h
  · cases h
  · next hinvalid =>
    cases h
    have herrors : analyzed.diagnostics.hasErrors = true := by simpa using hinvalid
    exact ⟨_, rfl, errorCount_pos (filtered_hasErrors herrors)⟩

/-- Filtering keeps some of the reports, as they are and in their order, of which none drops another
one, and changes nothing when it is repeated. It keeps those at certain places; the other places are
those to drop, and the report at any of them loses to one that is kept, at the end of a chain of
reports that drop each other. So something is left of any reports, an error of any errors, and an
error of reading or analysis always carries one. -/
theorem filtered_safe (diagnostics : Diagnostics) :
    diagnostics.filtered.Sublist diagnostics ∧
    (∀ a ∈ diagnostics.filtered, ∀ b ∈ diagnostics.filtered, a.loser? b = none) ∧
    diagnostics.filtered.filtered = diagnostics.filtered ∧
    (∃ kept : List Nat, kept.Sublist (List.range diagnostics.length) ∧
      diagnostics.filtered = kept.filterMap (diagnostics[·]?) ∧
      (∀ place < diagnostics.length, place ∉ kept ↔ place ∈ diagnostics.droppedPlaces) ∧
      ∀ place lost, diagnostics[place]? = some lost → place ∉ kept →
        ∃ survivor ∈ diagnostics.filtered, Relation.TransGen diagnostics.Drops survivor lost) ∧
    (diagnostics ≠ [] → diagnostics.filtered ≠ []) ∧
    (diagnostics.hasErrors = true → diagnostics.filtered.hasErrors = true) ∧
    (∀ parsed error, Compilation.analyze parsed = .error error →
      ∃ reports, error = .malformed reports ∧ 0 < reports.errorCount) ∧
    ∀ (analyzed : Compilation.Analyzed) error, analyzed.accept = .error error →
      ∃ reports, error = .meaningless reports ∧ 0 < reports.errorCount := by
  obtain ⟨kept, hplaces, hfiltered, hdropped⟩ := exists_keptPlaces diagnostics
  refine ⟨filtered_sublist diagnostics, ?_, filtered_eq_self ?_,
    ⟨kept, hplaces, hfiltered, hdropped, ?_⟩, ?_, filtered_hasErrors,
    fun parsed error ↦ malformed_of_analyze, fun analyzed error ↦ meaningless_of_accept⟩
  · intro a ha b hb
    exact Diagnostic.loser?_eq_none (not_beats_of_filtered ha hb) (not_beats_of_filtered hb ha)
  · intro a ha b hb
    exact not_beats_of_filtered ha hb
  · intro place lost hlost hgone
    obtain ⟨hbound, _⟩ := List.getElem?_eq_some_iff.mp hlost
    obtain ⟨other, hother, hsurvivor⟩ := exists_survivor_of_dropped
      ((hdropped place hbound).mp hgone)
    obtain rfl : lost = other := Option.some.inj (hlost.symm.trans hother)
    exact hsurvivor
  · intro hsome
    obtain ⟨report, hreport⟩ := List.exists_mem_of_ne_nil _ hsome
    obtain ⟨survivor, hsurvivor, _⟩ := exists_survivor hreport
    exact List.ne_nil_of_mem hsurvivor

/-! ## The order of the reports -/

def beaten (diagnostics : Diagnostics) (report : Diagnostic) : Bool :=
  diagnostics.any (·.beats report)

/-- Whether some report beats `report` that is not beaten itself. -/
def outclassed (diagnostics : Diagnostics) (report : Diagnostic) : Bool :=
  diagnostics.any fun leader ↦ !diagnostics.beaten leader && leader.beats report

/-- What is beaten at all is beaten by a report that is not. -/
def Led (diagnostics : Diagnostics) : Prop :=
  ∀ report ∈ diagnostics, diagnostics.beaten report = true → diagnostics.outclassed report = true

instance (diagnostics : Diagnostics) : Decidable diagnostics.Led :=
  inferInstanceAs (Decidable (∀ report ∈ diagnostics, _ → _))

theorem beaten_of_dropped {diagnostics' : Diagnostics} (h : diagnostics'.Perm diagnostics)
    {place : Nat} {report : Diagnostic} (hreport : diagnostics'[place]? = some report)
    (hplace : place ∈ diagnostics'.droppedPlaces) : diagnostics.beaten report = true := by
  obtain ⟨lost, hlost, other, hother, hbeats⟩ := droppedPlaces_beaten diagnostics' place hplace
  obtain rfl : report = lost := Option.some.inj (hreport.symm.trans hlost)
  exact List.any_eq_true.mpr ⟨other, h.mem_iff.mp hother, hbeats⟩

/-- No report that is kept is beaten by one that nothing beats. -/
theorem not_outclassed_of_filtered {diagnostics' : Diagnostics}
    (h : diagnostics'.Perm diagnostics) {report : Diagnostic}
    (hreport : report ∈ diagnostics'.filtered) : diagnostics.outclassed report = false := by
  rw [← Bool.not_eq_true, outclassed, List.any_eq_true]
  rintro ⟨leader, hleader, hleads⟩
  rw [Bool.and_eq_true, Bool.not_eq_true'] at hleads
  obtain ⟨place, hplace⟩ := List.getElem?_of_mem (h.mem_iff.mpr hleader)
  have hkept : leader ∈ diagnostics'.filtered := by
    refine mem_filtered_iff.mpr ⟨place, hplace, fun hdropped ↦ ?_⟩
    rw [beaten_of_dropped h hplace hdropped] at hleads
    cases hleads.1
  rw [not_beats_of_filtered hkept hreport] at hleads
  cases hleads.2

/-- Whatever the order of the reports, those that nothing beats are kept, and those that one of these
beats are dropped. So where every beaten report is beaten by one that is not, the reports that are
kept are those that nothing beats, and the order has no part in it. -/
theorem filtered_follows_rule {diagnostics diagnostics' : Diagnostics}
    (h : diagnostics'.Perm diagnostics) :
    (diagnostics'.filter fun report ↦ !diagnostics.beaten report).Sublist diagnostics'.filtered ∧
    diagnostics'.filtered.Sublist
      (diagnostics'.filter fun report ↦ !diagnostics.outclassed report) ∧
    (diagnostics.Led →
      diagnostics'.filtered = diagnostics'.filter (fun report ↦ !diagnostics.beaten report) ∧
      diagnostics'.filtered.Perm diagnostics.filtered) := by
  have hkept {reports : Diagnostics} (h : reports.Perm diagnostics) :
      (reports.filter fun report ↦ !diagnostics.beaten report).Sublist reports.filtered := by
    refine filter_sublist_filtered fun place report hreport hunbeaten hdropped ↦ ?_
    rw [beaten_of_dropped h hreport hdropped] at hunbeaten
    cases hunbeaten
  have hdropped {reports : Diagnostics} (h : reports.Perm diagnostics) :
      reports.filtered.Sublist (reports.filter fun report ↦ !diagnostics.outclassed report) := by
    refine filtered_sublist_filter fun report hreport ↦ ?_
    rw [not_outclassed_of_filtered h hreport]
    rfl
  have hexact (hled : diagnostics.Led) {reports : Diagnostics} (h : reports.Perm diagnostics) :
      reports.filtered = reports.filter fun report ↦ !diagnostics.beaten report := by
    refine List.Sublist.antisymm (filtered_sublist_filter fun report hreport ↦ ?_) (hkept h)
    have hmem := h.mem_iff.mp ((filtered_sublist reports).subset hreport)
    have hnever := not_outclassed_of_filtered h hreport
    rw [Bool.not_eq_true', ← Bool.not_eq_true]
    intro hbeaten
    rw [hled report hmem hbeaten] at hnever
    cases hnever
  refine ⟨hkept h, hdropped h, fun hled ↦ ⟨hexact hled h, ?_⟩⟩
  rw [hexact hled h, hexact hled (.refl diagnostics)]
  exact h.filter _

/-- A rule left open, with two reports inside it that start at one place. -/
def openRuleReports : Diagnostics :=
  [.plain .unclosedRule ⟨0, 20⟩, .plain .unexpectedToken ⟨5, 6⟩, .plain .undefinedRule ⟨5, 9⟩]

theorem filtered_follows_rule_open : openRuleReports.reverse.Perm openRuleReports ∧
    openRuleReports.Led ∧ filtered openRuleReports.reverse = [.plain .unclosedRule ⟨0, 20⟩] := by
  have hperm := openRuleReports.reverse_perm
  have hled : openRuleReports.Led := by decide
  refine ⟨hperm, hled, ?_⟩
  rw [((filtered_follows_rule hperm).2.2 hled).1]
  decide

/-- A group left open, the missing piece at its start, and a stray token inside it. -/
def openGroupReports : Diagnostics :=
  [.plain .expectedExpression ⟨4, 5⟩, .plain .unclosedGroup ⟨4, 10⟩, .plain .unexpectedToken ⟨6, 7⟩]

/-- The open group beats the stray token, which is kept or dropped as the missing piece is reported
before or after it. -/
theorem filtered_minds_order :
    (Diagnostic.plain .unclosedGroup ⟨4, 10⟩).beats (.plain .unexpectedToken ⟨6, 7⟩) = true ∧
    filtered openGroupReports =
      [.plain .expectedExpression ⟨4, 5⟩, .plain .unexpectedToken ⟨6, 7⟩] ∧
    filtered openGroupReports.reverse = [.plain .expectedExpression ⟨4, 5⟩] := by
  decide

end Diagnostics

end PegKit
