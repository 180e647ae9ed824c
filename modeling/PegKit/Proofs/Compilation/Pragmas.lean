import Mathlib.Data.List.Infix
import PegKit.Emission
import PegKit.Proofs.Compilation.Accepted
import PegKit.Proofs.Cst.Heading
import PegKit.Proofs.Program.Building

/-!
# Encoding pragmas

A line comment before the grammar names an encoding when the word `coding` stands in it with a colon
or an equals sign after it. Such comments are carried over to the grammar, to its program and to the
front of the generated source. A comment is judged by the first place of the word alone, so it is
passed over when it names an encoding at a later one only; but for such comments, exactly those that
name an encoding are carried over, in order and as they are.
-/

namespace PegKit

namespace Cst

/-! ## The first place of a word -/

/-- `word` stands in `text` between `before` and `after`, and nowhere further to the front. -/
structure FirstAt (word text before after : List Char) : Prop where
  split : text = before ++ (word ++ after)
  first : ∀ before' after', text = before' ++ (word ++ after') → before.length ≤ before'.length

theorem firstAt_nil {word text after : List Char} :
    FirstAt word text [] after ↔ text = word ++ after := by
  constructor
  · intro h
    exact h.split
  · intro h
    exact ⟨h, fun _ _ _ ↦ Nat.zero_le _⟩

theorem firstAt_cons {word text before after : List Char} {c : Char} (h : ¬ word <+: c :: text) :
    FirstAt word (c :: text) before after ↔
      ∃ before', before = c :: before' ∧ FirstAt word text before' after := by
  constructor
  · rintro ⟨hsplit, hfirst⟩
    cases before with
    | nil => exact absurd ⟨after, hsplit.symm⟩ h
    | cons d before =>
      obtain ⟨rfl, hrest⟩ := List.cons.inj hsplit
      refine ⟨before, rfl, hrest, ?_⟩
      intro before' after' htext
      have hlength := hfirst (c :: before') after' (congrArg (c :: ·) htext)
      exact Nat.le_of_succ_le_succ hlength
  · rintro ⟨before, rfl, hsplit, hfirst⟩
    refine ⟨congrArg (c :: ·) hsplit, ?_⟩
    intro before' after' htext
    cases before' with
    | nil => exact absurd ⟨after', htext.symm⟩ h
    | cons d before' =>
      obtain ⟨rfl, hrest⟩ := List.cons.inj htext
      exact Nat.succ_le_succ (hfirst before' after' hrest)

/-- The search finds the first place. -/
theorem afterFirst?_eq_some_iff {word : List Char} (hword : word ≠ []) {text after : List Char} :
    afterFirst? word text = some after ↔ ∃ before, FirstAt word text before after := by
  induction text with
  | nil =>
    constructor
    · rintro ⟨⟩
    · rintro ⟨before, hsplit, _⟩
      have hempty := (List.append_eq_nil_iff.mp hsplit.symm).2
      exact absurd (List.append_eq_nil_iff.mp hempty).1 hword
  | cons c text ih =>
    rw [afterFirst?]
    split
    · next hfront =>
      obtain ⟨rest, hrest⟩ := List.isPrefixOf_iff_prefix.mp hfront
      rw [← hrest, List.drop_left]
      constructor
      · rintro ⟨⟩
        exact ⟨[], firstAt_nil.mpr rfl⟩
      · rintro ⟨before, hfirst⟩
        have hlength := hfirst.first [] rest rfl
        obtain rfl : before = [] := List.eq_nil_of_length_eq_zero (Nat.le_zero.mp hlength)
        exact congrArg some (List.append_cancel_left hfirst.split)
    · next hfront =>
      rw [List.isPrefixOf_iff_prefix] at hfront
      rw [ih]
      constructor
      · rintro ⟨before, hfirst⟩
        exact ⟨c :: before, (firstAt_cons hfront).mpr ⟨before, rfl, hfirst⟩⟩
      · rintro ⟨_, hfirst⟩
        obtain ⟨before, _, hfirst⟩ := (firstAt_cons hfront).mp hfirst
        exact ⟨before, hfirst⟩

/-! ## Comments that name an encoding -/

/-- The word `coding` stands somewhere in the comment before a colon or an equals sign. -/
def NamesEncoding (comment : String) : Prop :=
  "coding:".toList <:+: comment.toList ∨ "coding=".toList <:+: comment.toList

instance : DecidablePred NamesEncoding := fun _ ↦ inferInstanceAs (Decidable (_ ∨ _))

/-- A colon or an equals sign follows the first place of the word `coding`. -/
def NamesEncodingFirst (comment : String) : Prop :=
  ∃ before after, FirstAt "coding".toList comment.toList before after ∧
    (after.head? = some ':' ∨ after.head? = some '=')

theorem isEncodingPragma_iff {comment : String} :
    isEncodingPragma comment.toList = true ↔ NamesEncodingFirst comment := by
  have hword : "coding".toList ≠ [] := by decide
  unfold isEncodingPragma NamesEncodingFirst
  constructor
  · intro h
    split at h
    · next after hafter =>
      obtain ⟨before, hfirst⟩ := (afterFirst?_eq_some_iff hword).mp hafter
      exact ⟨before, after, hfirst, by simpa using h⟩
    · cases h
  · rintro ⟨before, after, hfirst, hmark⟩
    rw [(afterFirst?_eq_some_iff hword).mpr ⟨before, hfirst⟩]
    simpa using hmark

instance : DecidablePred NamesEncodingFirst := fun _ ↦ decidable_of_iff _ isEncodingPragma_iff

theorem NamesEncodingFirst.namesEncoding {comment : String} (h : NamesEncodingFirst comment) :
    NamesEncoding comment := by
  obtain ⟨before, after, ⟨hsplit, _⟩, hmark⟩ := h
  refine hmark.imp ?_ ?_
  all_goals
    intro hhead
    obtain ⟨rest, rfl⟩ := List.head?_eq_some_iff.mp hhead
    exact ⟨before, rest, by rw [hsplit]; simp⟩

/-- The line comments before the keyword of the grammar. -/
def headingComments (source : String) : List String :=
  (((Token.lex source.toList).takeWhile (·.kind ≠ .keywordGrammar)).filter
    (·.kind = .lineComment)).map (·.text)

theorem headingComments_oneLine {source comment : String} (h : comment ∈ headingComments source) :
    '\n' ∉ comment.toList := by
  obtain ⟨token, htoken, rfl⟩ := List.mem_map.mp h
  obtain ⟨hheading, hcomment⟩ := List.mem_filter.mp htoken
  exact Token.lex_comment (List.takeWhile_subset _ hheading) (of_decide_eq_true hcomment)

theorem parse_leadingComments {source : String} {limits : Limits} {parsed : Parsed}
    (hparse : Cst.parse source limits = .ok parsed) (hsome : parsed.root.grammar?.isSome) :
    parsed.root.leadingComments = (headingComments source).filter NamesEncodingFirst := by
  obtain ⟨inner, after, hchildren, htrivia⟩ := parse_leads hparse hsome
  rw [leadingComments, hchildren, headingComments]
  generalize (Token.lex source.toList).takeWhile (·.kind ≠ .keywordGrammar) = heading at htrivia
  have hheading : ∀ tree ∈ heading.map Cst.leaf, (tree.kind != .grammarNode) = true := by
    intro tree htree
    obtain ⟨token, htoken, rfl⟩ := List.mem_map.mp htree
    exact bne_iff_ne.mpr (Token.kind_ne_of_isTrivia (htrivia token htoken) rfl)
  rw [List.takeWhile_append_of_pos hheading, List.takeWhile_cons_of_neg (by simp [kind]),
    List.append_nil]
  clear hheading htrivia
  induction heading with
  | nil => rfl
  | cons token rest ih =>
    rw [List.map_cons, List.filterMap_cons, ih]
    by_cases hcomment : token.kind = .lineComment
    · by_cases hnames : NamesEncodingFirst token.text
      · have hpragma := isEncodingPragma_iff.mpr hnames
        simp [hcomment, hnames, hpragma]
      · have hother := mt isEncodingPragma_iff.mp hnames
        simp [hcomment, hnames, hother]
    · simp [hcomment]

end Cst

namespace Compilation

open Cst (headingComments NamesEncoding NamesEncodingFirst)

theorem filter_namesEncodingFirst_eq_iff {comments : List String} :
    comments.filter NamesEncodingFirst = comments.filter NamesEncoding ↔
      ∀ comment ∈ comments, NamesEncoding comment → NamesEncodingFirst comment := by
  constructor
  · intro h comment hcomment hnames
    have hkept : comment ∈ comments.filter NamesEncoding :=
      List.mem_filter.mpr ⟨hcomment, decide_eq_true hnames⟩
    rw [← h] at hkept
    exact of_decide_eq_true (List.mem_filter.mp hkept).2
  · intro h
    apply List.filter_congr
    intro comment hcomment
    rw [decide_eq_decide]
    exact ⟨fun hfirst ↦ hfirst.namesEncoding, h comment hcomment⟩

/-- The generated source begins with the comments of the program, each on a line of its own. -/
theorem source_comments (settings : Emission.Settings) (program : Program) : ∃ rest,
    Emission.source settings program =
      String.join (program.comments.map (· ++ "\n")) ++
        ("// @generated by thicket from grammar `" ++ program.name ++ "`. Do not edit.\n" ++
          rest) := by
  obtain ⟨others, hlines⟩ : ∃ others, Emission.programLines settings program =
      program.comments ++
        ["// @generated by thicket from grammar `" ++ program.name ++ "`. Do not edit."] ++
          others := ⟨_, rfl⟩
  refine ⟨String.join (others.map (· ++ "\n")), ?_⟩
  rw [Emission.source, hlines]
  simp only [List.map_append, List.map_cons, List.map_nil, String.join_append, String.join_cons,
    String.join_nil, String.append_empty, String.append_assoc]
  rfl

/-- The comments before the grammar that name an encoding at the first place of the word are carried
over: to the grammar, to its program, and to the first lines of the generated source. They are all
that name an encoding exactly when each of these names it at the first place. -/
theorem pragmas_carried {source : String} {limits : Cst.Limits} {parsed : Cst.Parsed}
    (hparse : Cst.parse source limits = .ok parsed) (hsome : parsed.root.grammar?.isSome) :
    let carried := parsed.root.leadingComments
    carried = (headingComments source).filter NamesEncodingFirst ∧
    (carried = (headingComments source).filter NamesEncoding ↔
      ∀ comment ∈ headingComments source, NamesEncoding comment → NamesEncodingFirst comment) ∧
    (∀ comment ∈ carried, '\n' ∉ comment.toList) ∧
    ∀ grammar, compileWithin limits source = .ok grammar → grammar.comments = carried ∧
      ∃ program, grammar.toProgram = .ok program ∧ program.comments = carried ∧
        ∀ settings, ∃ rest, Emission.source settings program =
          String.join (carried.map (· ++ "\n")) ++
            ("// @generated by thicket from grammar `" ++ grammar.name ++ "`. Do not edit.\n" ++
              rest) := by
  intro carried
  have hcarried : carried = (headingComments source).filter NamesEncodingFirst :=
    Cst.parse_leadingComments hparse hsome
  refine ⟨hcarried, by rw [hcarried]; exact filter_namesEncodingFirst_eq_iff, ?_, ?_⟩
  · intro comment hcomment
    rw [hcarried] at hcomment
    exact Cst.headingComments_oneLine (List.mem_of_mem_filter hcomment)
  · intro grammar haccepted
    have hcomments : grammar.comments = carried := by
      obtain ⟨parsed', hparse', _, _, rfl⟩ := compileWithin_eq_ok haccepted
      cases hparse.symm.trans hparse'
      rfl
    obtain ⟨program, hprogram⟩ := toProgram_ok haccepted
    obtain ⟨hname, hsame⟩ := Grammar.header_toProgram hprogram
    refine ⟨hcomments, program, hprogram, hsame.trans hcomments, ?_⟩
    intro settings
    rw [← hcomments, ← hsame, ← hname]
    exact source_comments settings program

/-- Two comments before a grammar, one that names an encoding and one that only has the word. -/
def pragmaText : String := "# -*- coding: utf-8 -*-\n// coding\ngrammar G rule r 'a' end end"

theorem pragmas_carried_marked : ∃ parsed grammar,
    Cst.parse pragmaText {} = .ok parsed ∧ parsed.root.grammar?.isSome ∧
      compileWithin {} pragmaText = .ok grammar ∧
      parsed.root.leadingComments = (headingComments pragmaText).filter NamesEncoding ∧
      grammar.comments = ["# -*- coding: utf-8 -*-"] := by
  have hread : ((Cst.parse pragmaText {}).toOption.map (·.root.grammar?.isSome)) = some true := by
    decide +kernel
  have haccepted : (compileWithin {} pragmaText).isOk = true := by decide +kernel
  have hnamed : (headingComments pragmaText).filter NamesEncodingFirst =
      ["# -*- coding: utf-8 -*-"] := by decide +kernel
  have hnone : ∀ comment ∈ headingComments pragmaText,
      NamesEncoding comment → NamesEncodingFirst comment := by decide +kernel
  cases hparse : Cst.parse pragmaText {} with
  | error fault =>
    rw [hparse] at hread
    cases hread
  | ok parsed =>
    cases hgrammar : compileWithin {} pragmaText with
    | error error =>
      rw [hgrammar] at haccepted
      cases haccepted
    | ok grammar =>
      rw [hparse] at hread
      have hsome := Option.some.inj hread
      obtain ⟨hcarried, hall, _, hcomments⟩ := pragmas_carried hparse hsome
      have hsame := (hcomments grammar hgrammar).1
      exact ⟨parsed, grammar, rfl, hsome, rfl, hall.mpr hnone,
        hsame.trans (hcarried.trans hnamed)⟩

/-- A grammar after a comment that has the word twice and names an encoding at the second place. -/
def lateText : String := "# no coding here, coding: utf-8\ngrammar G rule r 'a' end end"

theorem pragmas_passed_over : ¬ ∀ (source : String) (limits : Cst.Limits) (parsed : Cst.Parsed),
    Cst.parse source limits = .ok parsed → parsed.root.grammar?.isSome →
      parsed.root.leadingComments = (headingComments source).filter NamesEncoding := by
  intro hall
  have hread : ((Cst.parse lateText {}).toOption.map fun parsed ↦
      (parsed.root.grammar?.isSome, parsed.root.leadingComments)) = some (true, []) := by
    decide +kernel
  have hnamed : (headingComments lateText).filter NamesEncoding =
      ["# no coding here, coding: utf-8"] := by decide +kernel
  cases hparse : Cst.parse lateText {} with
  | error fault =>
    rw [hparse] at hread
    cases hread
  | ok parsed =>
    rw [hparse] at hread
    obtain ⟨hsome, hnone⟩ := Prod.mk.inj (Option.some.inj hread)
    have hcarried := hall lateText {} parsed hparse hsome
    rw [hnone, hnamed] at hcarried
    cases hcarried

end Compilation

end PegKit
