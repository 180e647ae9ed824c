import PegKit.Proofs.Machine.Furthest
import PegKit.Proofs.Program.Building

/-!
# Interning numbers texts for good

Any number of calls leaves the different texts among them, in the order in which each was first
interned, and a call is answered with the place of its text in that order. Later calls only add texts
at the end, so whatever is asked of the interner has a closed form in the calls made so far.

An interner may also keep a table from texts to symbols beside the table of texts, so as to look up a
text without a search, and write symbols as words of 32 bits. The two tables never disagree, and they
answer the same as long as there are no more texts than words.
-/

namespace PegKit

namespace Interner

/-! ## Calls -/

def after (calls : List String) : Interner :=
  calls.foldl (fun interner text ↦ (interner.intern text).2) .empty

/-- The symbol that a call of `text` is answered with after the calls `before`. -/
def answer (before : List String) (text : String) : Symbol := ((after before).intern text).1

theorem after_concat (calls : List String) (text : String) :
    after (calls ++ [text]) = ((after calls).intern text).2 := by
  rw [after, List.foldl_append]
  rfl

/-- A text is found at its first place. -/
theorem find?_eq (interner : Interner) (text : String) :
    interner.find? text =
      if text ∈ interner.texts.toList then some ⟨interner.texts.toList.idxOf text⟩ else none := by
  obtain ⟨⟨texts⟩⟩ := interner
  rw [find?, List.findIdx?_toArray, List.findIdx?_eq_guard_findIdx_lt]
  change (Option.guard (fun i ↦ decide (i < texts.length)) (texts.idxOf text)).map Symbol.mk =
    if text ∈ texts then some ⟨texts.idxOf text⟩ else none
  rw [Option.guard]
  by_cases h : text ∈ texts
  · rw [if_pos h, if_pos (decide_eq_true (List.idxOf_lt_length_iff.mpr h)), Option.map_some]
  · have hend : ¬texts.idxOf text < texts.length := mt List.idxOf_lt_length_iff.mp h
    rw [if_neg h, decide_eq_false hend, if_neg Bool.false_ne_true, Option.map_none]

theorem intern_of_mem {interner : Interner} {text : String} (h : text ∈ interner.texts.toList) :
    interner.intern text = (⟨interner.texts.toList.idxOf text⟩, interner) := by
  rw [intern, find?_eq, if_pos h]

theorem intern_of_not_mem {interner : Interner} {text : String}
    (h : text ∉ interner.texts.toList) :
    interner.intern text = (⟨interner.size⟩, ⟨interner.texts.push text⟩) := by
  rw [intern, find?_eq, if_neg h]

/-- The different texts in the order of first interning. -/
theorem texts_after (calls : List String) : (after calls).texts.toList = calls.eraseDups := by
  induction calls using List.reverseRecOn with
  | nil => rfl
  | append_singleton calls text ih =>
    rw [after_concat]
    by_cases hknown : text ∈ calls
    · have hfound : text ∈ (after calls).texts.toList := by
        rw [ih]
        exact List.mem_eraseDups.mpr hknown
      rw [intern_of_mem hfound, eraseDups_concat_of_mem hknown, ih]
    · have hmissing : text ∉ (after calls).texts.toList := by
        rw [ih]
        exact mt List.mem_eraseDups.mp hknown
      rw [intern_of_not_mem hmissing, eraseDups_concat_of_not_mem hknown, Array.toList_push, ih]

theorem size_after (calls : List String) : (after calls).size = calls.eraseDups.length := by
  rw [size, ← Array.length_toList, texts_after]

theorem find?_after (calls : List String) (text : String) :
    (after calls).find? text =
      if text ∈ calls then some ⟨calls.eraseDups.idxOf text⟩ else none := by
  rw [find?_eq, texts_after]
  simp only [List.mem_eraseDups]

theorem resolve?_after (calls : List String) (symbol : Symbol) :
    (after calls).resolve? symbol = calls.eraseDups[symbol.index]? := by
  rw [resolve?, ← Array.getElem?_toList, texts_after]

/-! ## Answers -/

section Answers

variable {calls before : List String} {text : String}

theorem mem_of_call (h : before ++ [text] <+: calls) : text ∈ calls :=
  h.subset (List.mem_append_right _ (List.mem_singleton_self text))

/-- More calls only append to the order of first interning. -/
theorem eraseDups_prefix {calls later : List String} (h : calls <+: later) :
    calls.eraseDups <+: later.eraseDups := by
  obtain ⟨more, rfl⟩ := h
  rw [List.eraseDups_append]
  exact List.prefix_append _ _

/-- What is first interned by then keeps its place. -/
theorem idxOf_eraseDups {calls later : List String} (h : calls <+: later) (hmem : text ∈ calls) :
    later.eraseDups.idxOf text = calls.eraseDups.idxOf text := by
  obtain ⟨added, hadded⟩ := eraseDups_prefix h
  rw [← hadded, List.idxOf_append_of_mem (List.mem_eraseDups.mpr hmem)]

/-- Whenever a text is interned, the answer is its place in the order of first interning. -/
theorem answer_eq (h : before ++ [text] <+: calls) :
    answer before text = ⟨calls.eraseDups.idxOf text⟩ := by
  have hmem : text ∈ before ++ [text] := List.mem_append_right _ (List.mem_singleton_self text)
  rw [idxOf_eraseDups h hmem, answer]
  by_cases hknown : text ∈ before
  · have hfound : text ∈ (after before).texts.toList := by
      rw [texts_after]
      exact List.mem_eraseDups.mpr hknown
    rw [intern_of_mem hfound, texts_after, eraseDups_concat_of_mem hknown]
  · have hmissing : text ∉ (after before).texts.toList := by
      rw [texts_after]
      exact mt List.mem_eraseDups.mp hknown
    have hlast : text ∉ before.eraseDups := mt List.mem_eraseDups.mp hknown
    rw [intern_of_not_mem hmissing, eraseDups_concat_of_not_mem hknown, size_after,
      List.idxOf_append_of_notMem hlast, List.idxOf_cons_self, Nat.add_zero]

theorem answer_inj {before' : List String} {text' : String} (h : before ++ [text] <+: calls)
    (h' : before' ++ [text'] <+: calls) : answer before text = answer before' text' ↔ text = text' := by
  rw [answer_eq h, answer_eq h', Symbol.mk.injEq]
  exact List.idxOf_inj (List.mem_eraseDups.mpr (mem_of_call h))

end Answers

/-! ## Listing -/

theorem getElem?_entries (interner : Interner) (i : Nat) :
    interner.entries[i]? = (interner.resolve? ⟨i⟩).map fun text ↦ (⟨i⟩, text) := by
  rw [entries, resolve?, List.getElem?_map, List.getElem?_zipIdx, Array.getElem?_toList,
    Option.map_map, Nat.zero_add]
  rfl

/-- Symbols are listed from zero on, without a gap. -/
theorem entries_indices (interner : Interner) :
    interner.entries.map (·.1.index) = List.range interner.size := by
  apply List.ext_getElem?
  intro i
  rw [List.getElem?_map, getElem?_entries, Option.map_map]
  by_cases hlt : i < interner.size
  · have htext : interner.resolve? ⟨i⟩ = some interner.texts[i] := Array.getElem?_eq_getElem hlt
    rw [htext, List.getElem?_range hlt]
    rfl
  · have hnone : interner.resolve? ⟨i⟩ = none :=
      Array.getElem?_eq_none_iff.mpr (Nat.le_of_not_lt hlt)
    have hend : (List.range interner.size)[i]? = none := by
      rw [List.getElem?_eq_none_iff, List.length_range]
      exact Nat.le_of_not_lt hlt
    rw [hnone, hend]
    rfl

theorem mem_entries_iff {interner : Interner} {symbol : Symbol} {text : String} :
    (symbol, text) ∈ interner.entries ↔ interner.resolve? symbol = some text := by
  rw [List.mem_iff_getElem?]
  constructor
  · rintro ⟨i, hi⟩
    rw [getElem?_entries] at hi
    obtain ⟨found, hfound, hsame⟩ := Option.map_eq_some_iff.mp hi
    cases hsame
    exact hfound
  · intro h
    refine ⟨symbol.index, ?_⟩
    rw [getElem?_entries]
    exact Option.map_eq_some_iff.mpr ⟨text, h, rfl⟩

/-! ## Two tables -/

/-- A call is found from then on, and what was found before still is. -/
theorem find?_intern (interner : Interner) (text other : String) :
    (interner.intern text).2.find? other =
      if other = text then some (interner.intern text).1 else interner.find? other := by
  by_cases hknown : text ∈ interner.texts.toList
  · rw [intern_of_mem hknown]
    split
    · next hsame => rw [hsame, find?_eq, if_pos hknown]
    · rfl
  · rw [intern_of_not_mem hknown, find?_eq, find?_eq, Array.toList_push]
    by_cases hsame : other = text
    · rw [hsame, if_pos (List.mem_append_right _ (List.mem_singleton_self text)), if_pos rfl,
        List.idxOf_append_of_notMem hknown, List.idxOf_cons_self, Nat.add_zero, size,
        Array.length_toList]
    · have hmem : other ∈ interner.texts.toList ++ [text] ↔ other ∈ interner.texts.toList := by
        rw [List.mem_append, List.mem_singleton, or_iff_left hsame]
      rw [if_neg hsame]
      by_cases hold : other ∈ interner.texts.toList
      · rw [if_pos (hmem.mpr hold), if_pos hold, List.idxOf_append_of_mem hold]
      · rw [if_neg (mt hmem.mp hold), if_neg hold]

end Interner

/-- An interner that keeps a table for either direction. Symbols are words of 32 bits. -/
structure IndexedInterner where
  texts : Array String
  symbols : Std.HashMap String UInt32

namespace IndexedInterner

def empty : IndexedInterner := ⟨#[], ∅⟩

def find? (interner : IndexedInterner) (text : String) : Option UInt32 := interner.symbols[text]?

/-- A new text goes into one table after the other; its number is cut to a word. -/
def intern (interner : IndexedInterner) (text : String) : UInt32 × IndexedInterner :=
  match interner.find? text with
  | some symbol => (symbol, interner)
  | none =>
    let symbol := UInt32.ofNat interner.texts.size
    let symbols := interner.symbols.insert text symbol
    (symbol, ⟨interner.texts.push text, symbols⟩)

def resolve? (interner : IndexedInterner) (symbol : UInt32) : Option String :=
  interner.texts[symbol.toNat]?

def entries (interner : IndexedInterner) : List (UInt32 × String) :=
  interner.texts.toList.zipIdx.map fun entry ↦ (UInt32.ofNat entry.2, entry.1)

def after (calls : List String) : IndexedInterner :=
  calls.foldl (fun interner text ↦ (interner.intern text).2) .empty

def answer (before : List String) (text : String) : UInt32 := ((after before).intern text).1

/-- Both tables hold what an interner with a single one holds, symbols cut to words. -/
structure Tracks (tables : IndexedInterner) (interner : Interner) : Prop where
  texts : tables.texts = interner.texts
  symbols : ∀ text, tables.find? text =
    (interner.find? text).map fun symbol ↦ UInt32.ofNat symbol.index

theorem Tracks.intern {tables : IndexedInterner} {interner : Interner} (h : tables.Tracks interner)
    (text : String) :
    (tables.intern text).1 = UInt32.ofNat (interner.intern text).1.index ∧
      (tables.intern text).2.Tracks (interner.intern text).2 := by
  cases hfound : interner.find? text with
  | some symbol =>
    have hword : tables.find? text = some (UInt32.ofNat symbol.index) := by
      rw [h.symbols, hfound, Option.map_some]
    rw [IndexedInterner.intern, hword, Interner.intern, hfound]
    exact ⟨rfl, h⟩
  | none =>
    have hword : tables.find? text = none := by rw [h.symbols, hfound, Option.map_none]
    have hsize : tables.texts.size = interner.size := by rw [h.texts, Interner.size]
    have hafter := interner.find?_intern text
    rw [Interner.intern, hfound] at hafter ⊢
    rw [IndexedInterner.intern, hword, hsize, h.texts]
    refine ⟨rfl, rfl, ?_⟩
    intro other
    rw [hafter, find?, Std.HashMap.getElem?_insert]
    by_cases hsame : other = text
    · rw [if_pos (beq_iff_eq.mpr hsame.symm), if_pos hsame, Option.map_some]
    · rw [if_neg (mt beq_iff_eq.mp (Ne.symm hsame)), if_neg hsame]
      exact h.symbols other

theorem tracks_after (calls : List String) : (after calls).Tracks (.after calls) := by
  induction calls using List.reverseRecOn with
  | nil =>
    constructor
    · rfl
    · intro text
      have hnone : (after []).find? text = none := Std.HashMap.getElem?_empty
      rw [hnone, Interner.find?_after, if_neg List.not_mem_nil, Option.map_none]
  | append_singleton calls text ih =>
    rw [Interner.after_concat, after, List.foldl_append]
    exact (ih.intern text).2

/-- The tables answer as an interner with a single table does. -/
structure Agrees (calls : List String) : Prop where
  answer : ∀ before text, before ++ [text] <+: calls →
    (answer before text).toNat = (Interner.answer before text).index
  find? : ∀ text, ((after calls).find? text).map (·.toNat) =
    ((Interner.after calls).find? text).map (·.index)
  resolve? : ∀ symbol, (after calls).resolve? symbol =
    (Interner.after calls).resolve? ⟨symbol.toNat⟩
  entries : (after calls).entries.map (fun entry ↦ (entry.1.toNat, entry.2)) =
    (Interner.after calls).entries.map (fun entry ↦ (entry.1.index, entry.2))

/-- As long as no number is cut, nothing tells the tables from a single one. -/
theorem agrees_of_le {calls : List String} (h : calls.eraseDups.length ≤ UInt32.size) :
    Agrees calls := by
  have htracks := tracks_after calls
  have hplace {text : String} (hmem : text ∈ calls) :
      (UInt32.ofNat (calls.eraseDups.idxOf text)).toNat = calls.eraseDups.idxOf text := by
    have hlt := List.idxOf_lt_length_iff.mpr (List.mem_eraseDups.mpr hmem)
    exact UInt32.toNat_ofNat_of_lt' (Nat.lt_of_lt_of_le hlt h)
  constructor
  · intro before text hcall
    have hword : answer before text = UInt32.ofNat (Interner.answer before text).index :=
      ((tracks_after before).intern text).1
    rw [hword, Interner.answer_eq hcall]
    exact hplace (Interner.mem_of_call hcall)
  · intro text
    rw [htracks.symbols, Interner.find?_after]
    split
    · next hmem => rw [Option.map_some, Option.map_some, Option.map_some, hplace hmem]
    · rfl
  · intro symbol
    rw [resolve?, htracks.texts, Interner.resolve?]
  · rw [entries, Interner.entries, htracks.texts, List.map_map, List.map_map]
    apply List.map_congr_left
    intro entry hentry
    have hlt : entry.2 < UInt32.size := by
      have hbound := (List.mem_zipIdx' hentry).1
      rw [Interner.texts_after] at hbound
      exact Nat.lt_of_lt_of_le hbound h
    exact congrArg (·, entry.1) (UInt32.toNat_ofNat_of_lt' hlt)

end IndexedInterner

namespace Interner

/-- Interning answers equal texts with equal symbols and different ones with different symbols. The
symbols are the places of the texts in the order of first interning, from zero to the number of texts,
and they are so for good: then and after any later calls, a symbol resolves to its text and the text
is found under its symbol. No other text is found, only given symbols resolve, and the listing holds
each symbol with its text, in order. An interner that keeps two tables, with symbols of 32 bits,
answers the same up to 2 ^ 32 texts. -/
theorem symbols_number_texts (calls : List String) :
    (∀ before text before' text', before ++ [text] <+: calls → before' ++ [text'] <+: calls →
      (answer before text = answer before' text' ↔ text = text')) ∧
    (after calls).size = calls.eraseDups.length ∧
    (∀ before text, before ++ [text] <+: calls →
      (answer before text).index = calls.eraseDups.idxOf text ∧
        (after calls).resolve? (answer before text) = some text ∧
        (after calls).resolve (answer before text) = text ∧
        (after calls).find? text = some (answer before text)) ∧
    (∀ text, (after calls).find? text = none ↔ text ∉ calls) ∧
    (after calls).entries.map (·.1.index) = List.range (after calls).size ∧
    (∀ symbol text, (symbol, text) ∈ (after calls).entries ↔
      (after calls).resolve? symbol = some text) ∧
    (∀ symbol, ((after calls).resolve? symbol).isSome = true ↔
      symbol.index < (after calls).size) ∧
    (calls.eraseDups.length ≤ UInt32.size → IndexedInterner.Agrees calls) := by
  refine ⟨?_, size_after calls, ?_, ?_, entries_indices _, fun _ _ ↦ mem_entries_iff, ?_,
    IndexedInterner.agrees_of_le⟩
  · intro before text before' text' hcall hcall'
    exact answer_inj hcall hcall'
  · intro before text hcall
    have hmem := mem_of_call hcall
    have hresolves : (after calls).resolve? (answer before text) = some text := by
      rw [resolve?_after, answer_eq hcall]
      exact List.getElem?_idxOf (List.mem_eraseDups.mpr hmem)
    refine ⟨?_, hresolves, ?_, ?_⟩
    · rw [answer_eq hcall]
    · rw [resolve, hresolves, Option.getD_some]
    · rw [find?_after, if_pos hmem, answer_eq hcall]
  · intro text
    rw [find?_after]
    by_cases hmem : text ∈ calls <;> simp [hmem]
  · intro symbol
    rw [resolve?_after, size_after]
    simp

theorem symbols_number_texts_again :
    ["lhs", "rhs"] ++ ["lhs"] <+: ["lhs", "rhs", "lhs", "op"] ∧
      [] ++ ["lhs"] <+: ["lhs", "rhs", "lhs", "op"] ∧ answer ["lhs", "rhs"] "lhs" = answer [] "lhs" ∧
      ["lhs", "rhs", "lhs", "op"].eraseDups.length ≤ UInt32.size ∧
      IndexedInterner.Agrees ["lhs", "rhs", "lhs", "op"] := by
  obtain ⟨hsame, -, -, -, -, -, -, hagrees⟩ := symbols_number_texts ["lhs", "rhs", "lhs", "op"]
  have hagain : ["lhs", "rhs"] ++ ["lhs"] <+: ["lhs", "rhs", "lhs", "op"] := ⟨["op"], rfl⟩
  have hfirst : [] ++ ["lhs"] <+: ["lhs", "rhs", "lhs", "op"] := ⟨["rhs", "lhs", "op"], rfl⟩
  have hfew : ["lhs", "rhs", "lhs", "op"].eraseDups.length ≤ UInt32.size := by decide +kernel
  exact ⟨hagain, hfirst, (hsame _ _ _ _ hagain hfirst).mpr rfl, hfew, hagrees hfew⟩

end Interner

end PegKit
