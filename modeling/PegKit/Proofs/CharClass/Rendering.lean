import PegKit.CharClass.Bracket
import PegKit.Proofs.CharClass.Membership
import PegKit.Proofs.Unicode.Union

/-!
# Rendered ranges

A class that is built from ranges is written with the ranges in brackets, one after another. Reading
what is written gives the same characters again: escapes keep the marks that open, close, negate and
join from being read as such, and what stands between two ranges is read as nothing else. The one
exception are two marks of an operator, which are not escaped: a range that is `&` alone in front of
one that begins with `&`, and likewise `~`.
-/

namespace PegKit.CharClass

open Pattern
open PegKit.Unicode (RangeTable)

/-! ## Characters and ranges in brackets -/

/-- The marks that mean something where a member is to begin, or a dash. -/
def isMark (c : Char) : Bool :=
  c == '[' || c == ']' || c == '^' || c == '-'

/-- A character is written as itself, or escaped. -/
theorem bracketChar_eq (c : Char) : (∃ e, bracketChar c = ['\\', e]) ∨
    bracketChar c = [c] ∧ isMark c = false ∧ c ≠ '\\' := by
  unfold bracketChar
  split
  · exact .inl ⟨c, rfl⟩
  · next hplain =>
    split
    · exact .inl ⟨'n', rfl⟩
    · split
      · exact .inl ⟨'t', rfl⟩
      · split
        · exact .inl ⟨'r', rfl⟩
        · refine .inr ⟨rfl, ?_, ?_⟩
          · simp_all [isMark]
          · simp_all

theorem readMember_bracketChar (c : Char) (rest : List Char) :
    readMember false (bracketChar c ++ rest) = .ok (.char c, rest) := by
  unfold bracketChar
  split
  · next hspecial =>
    simp only [Bool.or_eq_true, decide_eq_true_eq] at hspecial
    rcases hspecial with (((rfl | rfl) | rfl) | rfl) | rfl <;> rfl
  · next hplain =>
    split
    · next h => subst h; rfl
    · split
      · next h => subst h; rfl
      · split
        · next h => subst h; rfl
        · have hescape : c ≠ '\\' := by
            rintro rfl
            exact hplain (by decide)
          rw [List.singleton_append, readMember, if_neg hescape]

/-- What a range begins with. -/
theorem bracketRange_front (range : CharRange) (rest : List Char) : ∃ first others,
    bracketRange range ++ rest = first :: others ∧ isMark first = false ∧
      (first = '\\' ∨ first = range.first) := by
  have hfront : ∃ after, bracketRange range = bracketChar range.first ++ after := by
    unfold bracketRange
    split
    · exact ⟨[], (List.append_nil _).symm⟩
    · exact ⟨_, rfl⟩
  obtain ⟨after, hafter⟩ := hfront
  rw [hafter]
  rcases bracketChar_eq range.first with ⟨e, he⟩ | ⟨hself, hmark, _⟩
  · exact ⟨'\\', e :: (after ++ rest), by rw [he]; rfl, rfl, .inl rfl⟩
  · exact ⟨range.first, after ++ rest, by rw [hself]; rfl, hmark, .inr rfl⟩

def rangeSet (range : CharRange) : ClassSet :=
  .range ⟨range.first, false⟩ ⟨range.last, false⟩

/-- A range is read to its end, where what follows cannot go on with it. -/
theorem readRange_bracketRange {range : CharRange} (hproper : range.Proper) {next : Char}
    (hnext : isMark next = false ∨ next = ']') (rest : List Char) :
    readRange false (bracketRange range ++ next :: rest) = .ok (rangeSet range, next :: rest) := by
  have hdash : next ≠ '-' := by
    rintro rfl
    rcases hnext with hmark | hclose
    · exact Bool.noConfusion hmark
    · exact absurd hclose (by decide)
  unfold bracketRange
  split
  · next hsame =>
    rw [readRange, readMember_bracketChar]
    simp [hdash, Primitive.char, Primitive.toSet, literalSet, rangeSet, hsame, bind, Except.bind,
      pure, Except.pure]
  · obtain ⟨first, others, hlast, hmark⟩ : ∃ first others,
        bracketChar range.last ++ next :: rest = first :: others ∧ isMark first = false := by
      rcases bracketChar_eq range.last with ⟨e, he⟩ | ⟨hself, hmark, _⟩
      · exact ⟨'\\', e :: next :: rest, by rw [he]; rfl, rfl⟩
      · exact ⟨range.last, next :: rest, by rw [hself]; rfl, hmark⟩
    have hfollower : ∀ mark, isMark mark = true → (first == mark) = false := by
      rintro mark hmark'
      rw [beq_eq_false_iff_ne]
      rintro rfl
      exact Bool.false_ne_true (hmark.symm.trans hmark')
    have horder : ¬ range.last < range.first := by
      have hwide : range.first.toNat ≤ range.last.toNat := hproper
      intro hless
      exact absurd hwide (Nat.not_le.mpr hless)
    have hread := readMember_bracketChar range.last (next :: rest)
    rw [hlast] at hread
    rw [List.append_assoc, List.cons_append, hlast, readRange, readMember_bracketChar]
    simp [afterDash, hfollower _ (show isMark ']' = true from rfl),
      hfollower _ (show isMark '-' = true from rfl), hread, Primitive.char, Primitive.toEnd,
      rangeSet, horder, bind, Except.bind, pure, Except.pure]

/-! ## Ranges one after another -/

/-- The first of two neighbours is half of an operator by itself, and the second begins with the
other half. -/
def MakeOperator (left right : CharRange) : Prop :=
  left.first = left.last ∧ left.last = right.first ∧ (left.first = '&' ∨ left.first = '~')

instance (left right : CharRange) : Decidable (MakeOperator left right) :=
  inferInstanceAs (Decidable (_ ∧ _))

theorem setOperator?_of_head {c : Char} {cs : List Char} (h : cs.head? ≠ some c) :
    setOperator? c cs = none := by
  cases cs with
  | nil => rfl
  | cons d cs =>
    have hother : c ≠ d := by
      rintro rfl
      exact h rfl
    rw [setOperator?, if_pos hother]

theorem setOperator?_of_ne {c : Char} (hmark : isMark c = false) (hand : c ≠ '&')
    (htilde : c ≠ '~') (cs : List Char) : setOperator? c cs = none := by
  have hdash : c ≠ '-' := by
    rintro rfl
    cases hmark
  cases cs with
  | nil => rfl
  | cons d cs => simp [setOperator?, hand, htilde, hdash]

theorem setOperator?_bracketRange {range : CharRange} {rest : List Char}
    (h : range.first = range.last → range.first = '&' ∨ range.first = '~' →
      rest.head? ≠ some range.first)
    {first : Char} {others : List Char} (hfront : bracketRange range ++ rest = first :: others) :
    setOperator? first others = none := by
  by_cases hhalf : range.first = '&' ∨ range.first = '~'
  · have hself : bracketChar range.first = [range.first] := by
      rcases hhalf with hand | htilde
      · rw [hand]
        rfl
      · rw [htilde]
        rfl
    unfold bracketRange at hfront
    rw [hself] at hfront
    apply setOperator?_of_head
    split at hfront
    · next hsame =>
      obtain ⟨rfl, rfl⟩ := List.cons.inj hfront
      exact h hsame hhalf
    · obtain ⟨rfl, rfl⟩ := List.cons.inj hfront
      rcases hhalf with hand | htilde
      · simp [hand]
      · simp [htilde]
  · obtain ⟨front, after, hsplit, hmark, hself⟩ := bracketRange_front range rest
    obtain ⟨rfl, rfl⟩ := List.cons.inj (hsplit.symm.trans hfront)
    rcases hself with rfl | rfl
    · exact setOperator?_of_ne rfl (by decide) (by decide) _
    · exact setOperator?_of_ne hmark (fun hand ↦ hhalf (.inl hand)) (fun h ↦ hhalf (.inr h)) _

/-- Ranges in front of the closing bracket. -/
def listing (ranges : List CharRange) : List Char :=
  ranges.flatMap bracketRange ++ [']']

theorem listing_cons (range : CharRange) (ranges : List CharRange) :
    listing (range :: ranges) = bracketRange range ++ listing ranges := by
  rw [listing, List.flatMap_cons, List.append_assoc, listing]

/-- What a listing begins with. -/
theorem listing_front (ranges : List CharRange) : ∃ next others,
    listing ranges = next :: others ∧ (isMark next = false ∨ next = ']') ∧
      (next = ']' ∨ next = '\\' ∨ ∃ range ∈ ranges.head?, next = range.first) := by
  cases ranges with
  | nil => exact ⟨']', [], rfl, .inr rfl, .inl rfl⟩
  | cons range ranges =>
    obtain ⟨first, others, hfront, hmark, hself⟩ := bracketRange_front range (listing ranges)
    rw [listing_cons]
    exact ⟨first, others, hfront, .inl hmark, .inr (hself.imp_right fun h ↦ ⟨range, rfl, h⟩)⟩

theorem setOperator?_listing {range : CharRange} {ranges : List CharRange}
    (hapart : ∀ next ∈ ranges.head?, ¬ MakeOperator range next) {first : Char}
    {others : List Char} (hfront : bracketRange range ++ listing ranges = first :: others) :
    setOperator? first others = none := by
  refine setOperator?_bracketRange (fun hsame hhalf hhead ↦ ?_) hfront
  obtain ⟨next, after, hlisting, _, hnext⟩ := listing_front ranges
  rw [hlisting] at hhead
  obtain rfl : next = range.first := Option.some.inj hhead
  rcases hnext with hclose | hescape | ⟨following, hmem, hfirst⟩
  · rw [hclose] at hhalf
    exact absurd hhalf (by decide)
  · rw [hescape] at hhalf
    exact absurd hhalf (by decide)
  · exact hapart following hmem ⟨hsame, hsame.symm.trans hfirst, hhalf⟩

/-- The set of ranges that are listed after the members of `set`. -/
def joinedSet (set : ClassSet) (ranges : List CharRange) : ClassSet :=
  ranges.foldl (fun set range ↦ .union set (rangeSet range)) set

/-- Ranges are read up to the closing bracket as what they list. -/
theorem readLevels_listing {ranges : List CharRange} (hproper : ∀ range ∈ ranges, range.Proper)
    (hapart : ranges.IsChain fun left right ↦ ¬ MakeOperator left right) (members : Members)
    {fuel : Nat} (hfuel : ranges.length < fuel) :
    readLevels false fuel ⟨false, none, members⟩ [] (listing ranges) =
      .ok ((⟨false, none, ⟨joinedSet members.set ranges, members.count + ranges.length,
        members.depth⟩⟩ : Level).close, []) := by
  induction ranges generalizing members fuel with
  | nil =>
    obtain ⟨fuel, rfl⟩ : ∃ less, fuel = less + 1 := ⟨fuel - 1, by omega⟩
    rfl
  | cons range ranges ih =>
    obtain ⟨fuel, rfl⟩ : ∃ less, fuel = less + 1 := ⟨fuel - 1, by omega⟩
    obtain ⟨hrange, hothers⟩ := List.forall_mem_cons.mp hproper
    obtain ⟨hnext, hchain⟩ := List.isChain_cons.mp hapart
    obtain ⟨first, others, hfront, hmark, _⟩ := bracketRange_front range (listing ranges)
    obtain ⟨next, after, hlisting, hend, _⟩ := listing_front ranges
    have hoperator := setOperator?_listing hnext hfront
    have hread := readRange_bracketRange hrange hend after
    rw [← hlisting, hfront] at hread
    have hopen : first ≠ '[' := by
      rintro rfl
      cases hmark
    have hclose : first ≠ ']' := by
      rintro rfl
      cases hmark
    have hmembers : (⟨false, none, members⟩ : Level).add (rangeSet range) 0 =
        ⟨false, none, ⟨.union members.set (rangeSet range), members.count + 1, members.depth⟩⟩ := by
      simp [Level.add, Members.add]
    have hrest := ih hothers hchain ⟨.union members.set (rangeSet range), members.count + 1,
      members.depth⟩ (Nat.lt_of_succ_lt_succ hfuel)
    rw [listing_cons, hfront, readLevels.eq_def]
    simp only [skipSpace_of_not_spaced, if_neg hopen, if_neg hclose, hoperator, hread, bind,
      Except.bind, hmembers]
    have hcount : members.count + 1 + ranges.length = members.count + (range :: ranges).length := by
      rw [List.length_cons]
      omega
    rw [hrest, hcount]
    rfl

theorem readOpening_listing {range : CharRange} {ranges : List CharRange} :
    readOpening false (listing (range :: ranges)) =
      .ok (⟨false, none, .none⟩, listing (range :: ranges)) := by
  obtain ⟨first, others, hfront, hmark, _⟩ := bracketRange_front range (listing ranges)
  have hother : ∀ mark, isMark mark = true → first ≠ mark := by
    rintro mark hmark' rfl
    exact Bool.false_ne_true (hmark.symm.trans hmark')
  have hcaret := hother '^' rfl
  have hdash := hother '-' rfl
  have hclose := hother ']' rfl
  rw [listing_cons, hfront, readOpening]
  simp [takeSpaced_of_not_spaced, hcaret, hdash, hclose, Members.none, pure, Except.pure]

theorem length_lt_listing (ranges : List CharRange) : ranges.length < (listing ranges).length := by
  induction ranges with
  | nil => exact Nat.one_pos
  | cons range ranges ih =>
    obtain ⟨first, others, hfront, _⟩ := bracketRange_front range []
    rw [List.append_nil] at hfront
    rw [listing_cons, List.length_append, hfront, List.length_cons, List.length_cons]
    omega

theorem depth_close_le (members : Members) :
    (Level.close ⟨false, none, members⟩).depth ≤ members.depth + 2 := by
  change (if members.count ≤ 1 then members.depth else members.depth + 1) + 1 ≤ _
  split <;> omega

/-- A listing in brackets is read as the set of its ranges, and it nests no deeper than two
levels. -/
theorem readSet_listing {ranges : List CharRange} (hne : ranges ≠ [])
    (hproper : ∀ range ∈ ranges, range.Proper)
    (hapart : ranges.IsChain fun left right ↦ ¬ MakeOperator left right) : ∃ depth ≤ 2,
      readSet false (listing ranges) = .ok (⟨joinedSet .empty ranges, depth⟩, []) := by
  obtain ⟨range, others, rfl⟩ := List.exists_cons_of_ne_nil hne
  have hlevels := readLevels_listing hproper hapart .none
    (Nat.lt_succ_of_lt (length_lt_listing (range :: others)))
  rw [readSet, readOpening_listing]
  exact ⟨_, depth_close_le _, hlevels⟩

theorem read_listing {ranges : List CharRange} (hne : ranges ≠ [])
    (hproper : ∀ range ∈ ranges, range.Proper)
    (hapart : ranges.IsChain fun left right ↦ ¬ MakeOperator left right) :
    Pattern.read ('[' :: listing ranges) = .ok (.set (joinedSet .empty ranges)) := by
  obtain ⟨depth, hdepth, hset⟩ := readSet_listing hne hproper hapart
  have hshallow : ¬ nestingLimit < depth := by
    rw [nestingLimit]
    omega
  have hgroups : readGroups (('[' :: listing ranges).length + 1) false [] .none []
      ('[' :: listing ranges) = .ok ⟨.set (joinedSet .empty ranges), depth⟩ := by
    rw [List.length_cons, readGroups.eq_def]
    simp only [skipSpace_of_not_spaced, hset, bind, Except.bind]
    rw [readGroups.eq_def]
    rfl
  rw [Pattern.read, hgroups]
  simp [hshallow, bind, Except.bind, pure, Except.pure]

/-! ## What a listing denotes -/

/-- The code points of the ranges, with those of `table`. -/
def joinedTable (table : RangeTable) (ranges : List CharRange) : RangeTable :=
  ranges.foldl (fun table range ↦ table.union [(range.first.toNat, range.last.toNat)]) table

theorem codes_joinedSet {set : ClassSet} {table : RangeTable} (h : set.codes .initial = .ok table)
    (ranges : List CharRange) :
    (joinedSet set ranges).codes .initial = .ok (joinedTable table ranges) := by
  induction ranges generalizing set table with
  | nil => exact h
  | cons range ranges ih =>
    apply ih
    rw [ClassSet.codes, h]
    rfl

theorem holds_joinedTable (table : RangeTable) (ranges : List CharRange) (c : Char) :
    (joinedTable table ranges).holds c.toNat =
      (table.holds c.toNat || ranges.any (·.contains c)) := by
  induction ranges generalizing table with
  | nil => exact (Bool.or_false _).symm
  | cons range ranges ih =>
    have hone : RangeTable.holds [(range.first.toNat, range.last.toNat)] c.toNat =
        range.contains c := Bool.or_false _
    rw [List.any_cons, ← Bool.or_assoc, ← hone, ← RangeTable.holds_union]
    exact ih _

theorem ofChars_joinedTable {table : RangeTable} (h : table.OfChars) {ranges : List CharRange}
    (hproper : ∀ range ∈ ranges, range.Proper) : (joinedTable table ranges).OfChars := by
  induction ranges generalizing table with
  | nil => exact h
  | cons range ranges ih =>
    obtain ⟨hrange, hothers⟩ := List.forall_mem_cons.mp hproper
    have hone : RangeTable.OfChars [(range.first.toNat, range.last.toNat)] := by
      intro pair hpair
      obtain rfl := List.mem_singleton.mp hpair
      exact ⟨range.first, range.last, rfl, hrange⟩
    exact ih (h.union hone) hothers

def tableRanges (table : RangeTable) : List CharRange :=
  table.map fun range ↦ ⟨Char.ofNat range.1, Char.ofNat range.2⟩

theorem any_tableRanges {table : RangeTable} (h : table.OfChars) (c : Char) :
    (tableRanges table).any (·.contains c) = table.holds c.toNat := by
  rw [Bool.eq_iff_iff, RangeTable.holds_iff]
  simp only [tableRanges, List.any_map, List.any_eq_true, Function.comp_apply,
    CharRange.contains_iff]
  refine exists_congr fun range ↦ and_congr_right fun hrange ↦ ?_
  obtain ⟨first, last, rfl, _⟩ := h range hrange
  rw [Char.ofNat_toNat, Char.ofNat_toNat]

theorem tableRanges_proper {table : RangeTable} (h : table.OfChars) :
    ∀ range ∈ tableRanges table, range.Proper := by
  intro range hrange
  obtain ⟨pair, hpair, rfl⟩ := List.mem_map.mp hrange
  obtain ⟨first, last, rfl, hwide⟩ := h pair hpair
  rw [CharRange.Proper, Char.ofNat_toNat, Char.ofNat_toNat]
  exact hwide

/-- One character is a text, and several are a set; either way they are those of the table. -/
theorem bodyRanges_of_codes {body : List Char} {set : ClassSet} {table : RangeTable}
    (hread : Pattern.read ('[' :: body ++ [']']) = .ok (.set set))
    (hcodes : set.codes .initial = .ok table) (hsome : table ≠ []) :
    bodyRanges body = .ok (tableRanges table) := by
  have hshape : Pattern.shape (.set set) = .ok (.ofCodes true table) := by
    rw [Pattern.shape, Pattern.branches, hcodes]
    rfl
  have hboth : (Pattern.read ('[' :: body ++ [']']) >>= Pattern.shape) =
      .ok (.ofCodes true table) := by
    rw [hread]
    exact hshape
  rw [bodyRanges, hboth]
  match table, hsome with
  | [(first, last)], _ =>
    by_cases hone : first = last
    · subst hone
      simp [Shape.ofCodes, tableRanges]
    · simp [Shape.ofCodes, hone, tableRanges]
  | _ :: _ :: _, _ => rfl

/-- The ranges that are read from a listing hold the same characters. -/
theorem bodyRanges_listing {ranges : List CharRange} (hne : ranges ≠ [])
    (hproper : ∀ range ∈ ranges, range.Proper)
    (hapart : ranges.IsChain fun left right ↦ ¬ MakeOperator left right) : ∃ found,
      bodyRanges (ranges.flatMap bracketRange) = .ok found ∧
        (∀ range ∈ found, range.Proper) ∧
        ∀ c, found.any (·.contains c) = ranges.any (·.contains c) := by
  have hchars : (joinedTable [] ranges).OfChars :=
    ofChars_joinedTable (List.forall_mem_nil _) hproper
  have hheld (c : Char) : (joinedTable [] ranges).holds c.toNat = ranges.any (·.contains c) :=
    holds_joinedTable [] ranges c
  have hsome : joinedTable [] ranges ≠ [] := by
    obtain ⟨range, others, rfl⟩ := List.exists_cons_of_ne_nil hne
    intro hempty
    have hfirst := hheld range.first
    rw [hempty, List.any_cons, CharRange.contains_iff.mpr
      ⟨Nat.le_refl _, hproper range List.mem_cons_self⟩] at hfirst
    cases hfirst
  exact ⟨_,
    bodyRanges_of_codes (read_listing hne hproper hapart) (codes_joinedSet rfl ranges) hsome,
    tableRanges_proper hchars, fun c ↦ (any_tableRanges hchars c).trans (hheld c)⟩

/-! ## Rendered classes -/

theorem bracketBody?_enclosed (inner : List Char) :
    bracketBody? ('[' :: inner ++ [']']) = some inner := by
  rw [List.cons_append, bracketBody?, if_pos List.getLast?_concat, List.dropLast_concat]

/-- A caret after the opening bracket negates, and what follows it is read. -/
theorem ofBrackets_of_body {text : String} {negated : Bool} {first : Char} {others : List Char}
    {ranges : List CharRange} (hfirst : first ≠ '^')
    (htext : text.toList = '[' :: ((if negated then ['^'] else []) ++ first :: others) ++ [']'])
    (hranges : bodyRanges (first :: others) = .ok ranges) :
    ofBrackets text = .ok (ofRangesAs (String.ofList (first :: others)) ranges negated) := by
  have hplain : (first == '^') = false := beq_false_of_ne hfirst
  rw [ofBrackets, htext, bracketBody?_enclosed]
  cases negated with
  | false => simp [hplain, hranges, bind, Except.bind, pure, Except.pure]
  | true => simp [hranges, bind, Except.bind, pure, Except.pure]

theorem describe_ofRanges (ranges : List CharRange) (negated : Bool) :
    (ofRanges ranges negated).describe.toList =
      '[' :: ((if negated then ['^'] else []) ++ ranges.flatMap bracketRange) ++ [']'] := by
  cases negated <;> simp [describe, ofRanges, ofRangesAs]

/-- A class that is built from ranges the right way round, one at least, and written in brackets is
read as a class of the same characters, if no two neighbours among the ranges make an operator. -/
theorem rendered_class_denotes {ranges : List CharRange} (hne : ranges ≠ [])
    (hproper : ∀ range ∈ ranges, range.Proper)
    (hapart : ranges.IsChain fun left right ↦ ¬ MakeOperator left right) (negated : Bool) :
    ∃ cls, ofBrackets (ofRanges ranges negated).describe = .ok cls ∧
      cls.text = (ofRanges ranges negated).text ∧ cls.negated = negated ∧
      ∀ c, cls.contains c = (ofRanges ranges negated).contains c := by
  obtain ⟨found, hfound, hstraight, hsame⟩ := bodyRanges_listing hne hproper hapart
  have htext := describe_ofRanges ranges negated
  obtain ⟨first, others, hfront, hmark⟩ : ∃ first others,
      ranges.flatMap bracketRange = first :: others ∧ isMark first = false := by
    obtain ⟨range, rest, rfl⟩ := List.exists_cons_of_ne_nil hne
    obtain ⟨first, others, hfront, hmark, _⟩ :=
      bracketRange_front range (rest.flatMap bracketRange)
    exact ⟨first, others, hfront, hmark⟩
  have hcaret : first ≠ '^' := by
    rintro rfl
    cases hmark
  rw [hfront] at htext hfound
  refine ⟨_, ofBrackets_of_body hcaret htext hfound, ?_, rfl, fun c ↦ ?_⟩
  · rw [← hfront]
    rfl
  · rw [contains_of_proper hstraight, hsame, ofRanges, contains_of_proper hproper]

/-- Ranges with marks at their ends, and halves of operators that stay apart. -/
def markedRanges : List CharRange :=
  [⟨'^', '^'⟩, ⟨'&', '-'⟩, ⟨'&', '&'⟩, ⟨'[', ']'⟩, ⟨'&', '&'⟩, ⟨'~', '~'⟩, ⟨'\t', '\n'⟩]

theorem rendered_class_denotes_marked : markedRanges ≠ [] ∧
    (∀ range ∈ markedRanges, range.Proper) ∧
    (markedRanges.IsChain fun left right ↦ ¬ MakeOperator left right) ∧
    (ofRanges markedRanges true).describe = "[^\\^&-\\-&\\[-\\]&~\\t-\\n]" ∧
    ∃ cls, ofBrackets "[^\\^&-\\-&\\[-\\]&~\\t-\\n]" = .ok cls ∧
      cls.text = (ofRanges markedRanges true).text ∧ cls.negated = true ∧
      ∀ c, cls.contains c = (ofRanges markedRanges true).contains c := by
  have hne : markedRanges ≠ [] := by decide
  have hproper : ∀ range ∈ markedRanges, range.Proper := by decide
  have hapart : markedRanges.IsChain fun left right ↦ ¬ MakeOperator left right := by decide
  have hdescribe : (ofRanges markedRanges true).describe =
      "[^\\^&-\\-&\\[-\\]&~\\t-\\n]" := by
    rw [← String.toList_inj, describe_ofRanges]
    decide
  have hread := rendered_class_denotes hne hproper hapart true
  rw [hdescribe] at hread
  exact ⟨hne, hproper, hapart, hdescribe, hread⟩

/-- Twice `&` by itself is written as an operator between nothing and nothing. -/
theorem rendered_class_refused : ¬ ∀ ranges : List CharRange, ranges ≠ [] →
    (∀ range ∈ ranges, range.Proper) → ∀ negated, ∃ cls,
      ofBrackets (ofRanges ranges negated).describe = .ok cls ∧ cls.negated = negated ∧
        ∀ c, cls.contains c = (ofRanges ranges negated).contains c := by
  intro hall
  obtain ⟨cls, hread, _⟩ := hall [⟨'&', '&'⟩, ⟨'&', '&'⟩] (by decide) (by decide) false
  have hdescribe : (ofRanges [⟨'&', '&'⟩, ⟨'&', '&'⟩] false).describe = "[&&]" := by
    rw [← String.toList_inj, describe_ofRanges]
    decide
  have hrefused : (ofBrackets "[&&]").toOption.isNone = true := by
    decide +kernel
  rw [hdescribe] at hread
  rw [hread] at hrefused
  cases hrefused

end PegKit.CharClass
