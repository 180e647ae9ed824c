import PegKit.Proofs.Emission.Tokens

/-!
# Printed statements are read back

Every statement of a generated function is read as the call that it was printed from: the method,
and the arguments with their literals decoded and their variables by name.
-/

namespace PegKit.Emission.Reading

/-- The text is read as whole tokens. -/
def Printed (s : String) (tokens : List Token) : Prop := Scans .between s tokens .between

/-- The text begins with something that ends a word. -/
def EndsWord (s : String) : Prop := ∃ c cs, s.toList = c :: cs ∧ isPathChar c = false

theorem EndsWord.append {s : String} (h : EndsWord s) (s' : String) : EndsWord (s ++ s') := by
  obtain ⟨c, cs, hs, hc⟩ := h
  exact ⟨c, cs ++ s'.toList, by rw [String.toList_append, hs, List.cons_append], hc⟩

namespace Printed

variable {s s' : String} {tokens tokens' : List Token}

theorem append (h : Printed s tokens) (h' : Printed s' tokens') :
    Printed (s ++ s') (tokens ++ tokens') := Scans.append h h'

theorem word_append {word : String} (hword : IsWord word) (hend : EndsWord s)
    (h : Printed s tokens) : Printed (word ++ s) (.word word :: tokens) := by
  obtain ⟨c, cs, hs, hc⟩ := hend
  have hboth := (scans_word hword).append (Scans.end_word hc word.toList hs h)
  rwa [String.ofList_toList, List.nil_append] at hboth

end Printed

/-! ## Lists in brackets -/

theorem printed_close {s : String} {tokens : List Token} (h : Printed s tokens) :
    Printed ("]" ++ s) (.mark ']' :: tokens) := by
  have hclose : Printed "]" [.mark ']'] := rfl
  exact hclose.append h

theorem printed_comma {s : String} {tokens : List Token} (h : Printed s tokens) :
    Printed (", " ++ s) (.mark ',' :: tokens) := by
  have hcomma : Printed ", " [.mark ','] := rfl
  exact hcomma.append h

/-- Names between commas and a closing bracket. -/
theorem words_printed {names : List String} (hnames : ∀ name ∈ names, IsWord name) :
    ∃ tokens, (∀ s' tokens', Printed s' tokens' →
        Printed (", ".intercalate names ++ ("]" ++ s')) (tokens ++ tokens')) ∧
      ∀ rest, readWords (tokens ++ rest) = some (names, rest) := by
  induction names with
  | nil =>
    refine ⟨[.mark ']'], fun s' tokens' h ↦ ?_, fun rest ↦ rfl⟩
    rw [String.intercalate_nil, String.empty_append]
    exact printed_close h
  | cons name rest ih =>
    have hname := hnames name List.mem_cons_self
    cases rest with
    | nil =>
      refine ⟨[.word name, .mark ']'], fun s' tokens' h ↦ ?_, fun rest ↦ rfl⟩
      rw [String.intercalate_singleton]
      refine Printed.word_append hname ?_ (printed_close h)
      exact EndsWord.append ⟨_, _, rfl, rfl⟩ s'
    | cons next others =>
      obtain ⟨tokens, hprinted, hread⟩ := ih fun name hname ↦
        hnames name (List.mem_cons_of_mem _ hname)
      refine ⟨.word name :: .mark ',' :: tokens, fun s' tokens' h ↦ ?_, fun rest ↦ ?_⟩
      · rw [String.intercalate_cons_cons, String.append_assoc, String.append_assoc]
        refine Printed.word_append hname ?_ (printed_comma (hprinted s' tokens' h))
        exact EndsWord.append ⟨_, _, rfl, rfl⟩ _
      · simp only [List.cons_append, readWords, hread, Option.map_some]

/-- A path that ends in `item` under the path of the runtime library. -/
theorem leadsTo_append (runtime item : String) : leadsTo (runtime ++ item) item = true := by
  rw [leadsTo, String.toList_append, List.isSuffixOf_iff_suffix]
  exact List.suffix_append _ _

def rangeTokens (runtime : String) (range : CharRange) : List Token :=
  [.word (runtime ++ "::ir::ClassRange::new"), .mark '(', .character range.first, .mark ',',
    .character range.last, .mark ')']

theorem range_printed {runtime : String} (hruntime : IsWord runtime) (range : CharRange) :
    Printed (Call.rangeText runtime range) (rangeTokens runtime range) := by
  have hpath : IsWord (runtime ++ "::ir::ClassRange::new") := hruntime.append (by decide)
  have hopen : Printed "(" [.mark '('] := rfl
  have hend : Printed ")" [.mark ')'] := rfl
  have hlast : Printed (Text.Quoted.quoteChar range.last ++ ")")
      [.character range.last, .mark ')'] := Printed.append (scans_quoteChar _) hend
  have hfirst : Printed (Text.Quoted.quoteChar range.first ++ (", " ++
      (Text.Quoted.quoteChar range.last ++ ")")))
      [.character range.first, .mark ',', .character range.last, .mark ')'] :=
    Printed.append (scans_quoteChar _) (printed_comma hlast)
  have hall := (hopen.append hfirst).word_append hpath (.append ⟨_, _, rfl, rfl⟩ _)
  have hsplit : "::ir::ClassRange::new(" = "::ir::ClassRange::new" ++ "(" := rfl
  rw [Call.rangeText, rangeTokens, hsplit]
  simpa only [String.append_assoc, List.cons_append, List.nil_append] using hall

/-- Ranges between commas and a closing bracket. -/
theorem ranges_printed {runtime : String} (hruntime : IsWord runtime) (ranges : List CharRange) :
    ∃ tokens, (∀ s' tokens', Printed s' tokens' →
        Printed (", ".intercalate (ranges.map (Call.rangeText runtime)) ++ ("]" ++ s'))
          (tokens ++ tokens')) ∧
      ∀ rest, readRanges (tokens ++ rest) = some (ranges, rest) := by
  have hleads := leadsTo_append runtime "::ir::ClassRange::new"
  induction ranges with
  | nil =>
    refine ⟨[.mark ']'], fun s' tokens' h ↦ ?_, fun rest ↦ rfl⟩
    rw [List.map_nil, String.intercalate_nil, String.empty_append]
    exact printed_close h
  | cons range rest ih =>
    have hrange := range_printed hruntime range
    cases rest with
    | nil =>
      refine ⟨rangeTokens runtime range ++ [Token.mark ']'], fun s' tokens' h ↦ ?_, fun rest ↦ ?_⟩
      · rw [List.map_cons, List.map_nil, String.intercalate_singleton, List.append_assoc]
        exact hrange.append (printed_close h)
      · simp [rangeTokens, readRanges, hleads]
    | cons next others =>
      obtain ⟨tokens, hprinted, hread⟩ := ih
      refine ⟨rangeTokens runtime range ++ .mark ',' :: tokens, fun s' tokens' h ↦ ?_,
        fun rest ↦ ?_⟩
      · rw [List.map_cons, List.map_cons, String.intercalate_cons_cons, String.append_assoc,
          String.append_assoc, List.append_assoc]
        exact hrange.append (printed_comma (hprinted s' tokens' h))
      · simp [rangeTokens, readRanges, hleads, hread]

/-! ## Arguments -/

/-- The text of an argument, with what follows it, is read as the argument. -/
def ReadsArgument (s : String) (argument : Argument) : Prop :=
  ∃ tokens, (∀ s' tokens', EndsWord s' → Printed s' tokens' →
      Printed (s ++ s') (tokens ++ tokens')) ∧
    (∀ c rest, c = ',' ∨ c = ')' →
      readArgument (tokens ++ .mark c :: rest) = some (argument, .mark c :: rest))

theorem readsArgument_quote (text : String) :
    ReadsArgument (Text.Quoted.quote text) (.text text) := by
  refine ⟨[.text text], fun s' tokens' _ h ↦ ?_, fun c rest _ ↦ rfl⟩
  exact Printed.append (scans_quote text) h

theorem readsArgument_word {word : String} (hword : IsWord word) :
    ReadsArgument word (.word word) := by
  refine ⟨[.word word], fun s' tokens' hend h ↦ ?_, fun c rest hc ↦ ?_⟩
  · exact h.word_append hword hend
  · rcases hc with rfl | rfl <;> rfl

theorem readsArgument_words {names : List String} (hnames : ∀ name ∈ names, IsWord name) :
    ReadsArgument ("vec![" ++ ", ".intercalate names ++ "]") (.words names) := by
  obtain ⟨tokens, hprinted, hread⟩ := words_printed hnames
  have hopen : Printed "vec![" [.word "vec", .mark '!', .mark '['] := rfl
  refine ⟨[Token.word "vec", .mark '!', .mark '['] ++ tokens, fun s' tokens' _ h ↦ ?_,
    fun c rest _ ↦ ?_⟩
  · rw [String.append_assoc, String.append_assoc, List.append_assoc]
    exact hopen.append (hprinted s' tokens' h)
  · simp [readArgument, hread]

theorem readsArgument_charClass {runtime : String} (hruntime : IsWord runtime) (text : String)
    (ranges : List CharRange) (negated : Bool) :
    ReadsArgument
      (runtime ++ "::ir::CharClass::new(" ++ Text.Quoted.quote text ++ ", vec![" ++
        ", ".intercalate (ranges.map (Call.rangeText runtime)) ++ "], " ++ toString negated ++ ")")
      (.charClass text ranges (toString negated)) := by
  obtain ⟨tokens, hprinted, hread⟩ := ranges_printed hruntime ranges
  have hpath : IsWord (runtime ++ "::ir::CharClass::new") := hruntime.append (by decide)
  have hleads := leadsTo_append runtime "::ir::CharClass::new"
  have hflag : IsWord (toString negated) := by cases negated <;> decide
  have hopen : Printed "(" [.mark '('] := rfl
  have hvec : Printed ", vec![" [.mark ',', .word "vec", .mark '!', .mark '['] := rfl
  have hend : Printed ")" [.mark ')'] := rfl
  refine ⟨[Token.word (runtime ++ "::ir::CharClass::new"), .mark '(', .text text, .mark ',',
    .word "vec", .mark '!', .mark '['] ++ tokens ++
      [Token.mark ',', .word (toString negated), .mark ')'], fun s' tokens' _ h ↦ ?_,
    fun c rest _ ↦ ?_⟩
  · have hnegated := ((hend.append h).word_append hflag (.append ⟨_, _, rfl, rfl⟩ _))
    have hranges := hprinted _ _ (printed_comma hnegated)
    have htext := Printed.append (scans_quote text) (hvec.append hranges)
    have hall := (hopen.append htext).word_append hpath (.append ⟨_, _, rfl, rfl⟩ _)
    have hsplit : "::ir::CharClass::new(" = "::ir::CharClass::new" ++ "(" := rfl
    have hsplit' : "], " = "]" ++ ", " := rfl
    rw [hsplit, hsplit']
    simpa only [String.append_assoc, List.append_assoc, List.cons_append, List.nil_append]
      using hall
  · simp [readArgument, hleads, readClass, hread]

/-! ## Calls -/

theorem readArguments_one {tokens rest : List Token} {argument : Argument}
    (h : readArgument tokens = some (argument, .mark ')' :: rest)) :
    readArguments tokens = some ([argument], rest) := by
  unfold readArguments
  split
  · cases h
  · simp only [h]

theorem readArguments_two {tokens middle rest : List Token} {first second : Argument}
    (h : readArgument tokens = some (first, .mark ',' :: middle))
    (h' : readArgument middle = some (second, .mark ')' :: rest)) :
    readArguments tokens = some ([first, second], rest) := by
  unfold readArguments
  split
  · cases h
  · simp only [h, h']

/-- The text of a call is read as its method and arguments. -/
def ReadsMethod (s method : String) (arguments : List Argument) : Prop :=
  ∃ tokens, Printed s (.word method :: .mark '(' :: tokens) ∧
    ∀ rest, readArguments (tokens ++ rest) = some (arguments, rest)

section Methods

variable {opened method : String} (hmethod : IsWord method) (hopened : opened = method ++ "(")

include hmethod hopened

theorem readsMethod_none : ReadsMethod (opened ++ ")") method [] := by
  have hends : Printed ("(" ++ ")") [.mark '(', .mark ')'] := rfl
  refine ⟨[.mark ')'], ?_, fun rest ↦ rfl⟩
  rw [hopened, String.append_assoc]
  exact hends.word_append hmethod (.append ⟨_, _, rfl, rfl⟩ _)

theorem readsMethod_one {text : String} {argument : Argument}
    (hargument : ReadsArgument text argument) :
    ReadsMethod (opened ++ text ++ ")") method [argument] := by
  obtain ⟨tokens, hprinted, hread⟩ := hargument
  have hopen : Printed "(" [.mark '('] := rfl
  have hend : Printed ")" [.mark ')'] := rfl
  refine ⟨tokens ++ [Token.mark ')'], ?_, fun rest ↦ ?_⟩
  · rw [hopened, String.append_assoc, String.append_assoc]
    exact (hopen.append (hprinted _ _ ⟨_, _, rfl, rfl⟩ hend)).word_append hmethod
      (.append ⟨_, _, rfl, rfl⟩ _)
  · rw [List.append_assoc]
    exact readArguments_one (hread ')' rest (.inr rfl))

theorem readsMethod_two {text text' : String} {argument argument' : Argument}
    (hargument : ReadsArgument text argument) (hargument' : ReadsArgument text' argument') :
    ReadsMethod (opened ++ text ++ ", " ++ text' ++ ")") method [argument, argument'] := by
  obtain ⟨tokens, hprinted, hread⟩ := hargument
  obtain ⟨tokens', hprinted', hnext⟩ := hargument'
  have hopen : Printed "(" [.mark '('] := rfl
  have hend : Printed ")" [.mark ')'] := rfl
  have hsecond := printed_comma (hprinted' _ _ ⟨_, _, rfl, rfl⟩ hend)
  refine ⟨tokens ++ Token.mark ',' :: (tokens' ++ [Token.mark ')']), ?_, fun rest ↦ ?_⟩
  · have hall := (hopen.append (hprinted _ _ (.append ⟨_, _, rfl, rfl⟩ _) hsecond)).word_append
      hmethod (.append ⟨_, _, rfl, rfl⟩ _)
    rw [hopened]
    simpa only [String.append_assoc, List.cons_append, List.nil_append] using hall
  · rw [List.append_assoc, List.cons_append, List.append_assoc]
    exact readArguments_two (hread ',' _ (.inl rfl)) (hnext ')' rest (.inr rfl))

end Methods

/-! ## Variables and numbers -/

theorem digits_pathChars (n : Nat) : n.repr.toList.all isPathChar = true := by
  refine List.all_eq_true.mpr fun c hc ↦ ?_
  rw [Nat.toList_repr] at hc
  have hdigit := Nat.isDigit_of_mem_toDigits (by decide) (by decide) hc
  simp [isPathChar, Char.isAlphanum, hdigit]

theorem opVariable_eq (id : OpId) : Call.opVariable id = "e" ++ id.index.repr := by
  simp only [Call.opVariable, Nat.toString_eq_repr]
  rfl

theorem ruleVariable_eq (id : RuleId) : Call.ruleVariable id = "r" ++ id.index.repr := by
  simp only [Call.ruleVariable, Nat.toString_eq_repr]
  rfl

theorem opVariable_word (id : OpId) : IsWord (Call.opVariable id) := by
  rw [opVariable_eq]
  exact IsWord.append (by decide) (digits_pathChars id.index)

theorem ruleVariable_word (id : RuleId) : IsWord (Call.ruleVariable id) := by
  rw [ruleVariable_eq]
  exact IsWord.append (by decide) (digits_pathChars id.index)

theorem number_word (n : Nat) : IsWord (toString n) :=
  ⟨by simp, List.all_eq_true.mp (digits_pathChars n)⟩

theorem flag_word (b : Bool) : IsWord (toString b) := by
  cases b <;> decide

theorem readsMethod_list {opened method : String} (hmethod : IsWord method)
    (hopened : opened = method ++ "(") (ids : List OpId) :
    ReadsMethod (opened ++ "vec![" ++ Call.opVariables ids ++ "])") method
      [.words (ids.map Call.opVariable)] := by
  have hids : ReadsArgument ("vec![" ++ Call.opVariables ids ++ "]")
      (.words (ids.map Call.opVariable)) := by
    refine readsArgument_words fun name hname ↦ ?_
    obtain ⟨id, _, rfl⟩ := List.mem_map.mp hname
    exact opVariable_word id
  have hclose : "])" = "]" ++ ")" := rfl
  rw [hclose]
  simpa only [String.append_assoc] using readsMethod_one hmethod hopened hids

end PegKit.Emission.Reading

namespace PegKit.Emission

open Reading

def Call.method : Call → String
  | .terminal _ => "terminal"
  | .charClass _ _ _ => "class"
  | .anyChar => "any_char"
  | .sequence _ => "sequence"
  | .choice _ => "choice"
  | .repetition _ _ => "repetition"
  | .optional _ => "optional"
  | .lookahead _ => "lookahead"
  | .negativeLookahead _ => "negative_lookahead"
  | .predicate _ _ => "predicate"
  | .label _ _ => "label"
  | .call _ => "call"

def Call.arguments : Call → List Argument
  | .terminal text => [.text text]
  | .charClass text ranges negated => [.charClass text ranges (toString negated)]
  | .anyChar => []
  | .sequence items => [.words (items.map opVariable)]
  | .choice alternatives => [.words (alternatives.map opVariable)]
  | .repetition inner least => [.word (opVariable inner), .word (toString least)]
  | .optional inner => [.word (opVariable inner)]
  | .lookahead inner => [.word (opVariable inner)]
  | .negativeLookahead inner => [.word (opVariable inner)]
  | .predicate hook negated => [.text hook, .word (toString negated)]
  | .label name inner => [.text name, .word (opVariable inner)]
  | .call rule => [.word (ruleVariable rule)]

theorem Call.method_word (call : Call) : IsWord call.method := by
  cases call <;> simp only [method] <;> decide

/-- A printed call is read as its method with its arguments. -/
theorem Call.reads {runtime : String} (hruntime : IsWord runtime) (call : Call) :
    ReadsMethod (call.text runtime) call.method call.arguments := by
  have hmethod := call.method_word
  have hop (id : OpId) := readsArgument_word (opVariable_word id)
  cases call with
  | terminal text =>
    change ReadsMethod ("terminal(" ++ Text.Quoted.quote text ++ ")") "terminal" [.text text]
    exact readsMethod_one hmethod rfl (readsArgument_quote text)
  | charClass text ranges negated =>
    have hclass := @readsMethod_one "class(" "class" hmethod rfl _ _
      (readsArgument_charClass hruntime text ranges negated)
    have hsplit : "))" = ")" ++ ")" := rfl
    change ReadsMethod ("class(" ++ runtime ++ "::ir::CharClass::new(" ++
      Text.Quoted.quote text ++ ", vec![" ++ ", ".intercalate (ranges.map (rangeText runtime)) ++
        "], " ++ toString negated ++ "))") "class" [.charClass text ranges (toString negated)]
    rw [hsplit]
    simpa only [String.append_assoc] using hclass
  | anyChar => exact @readsMethod_none "any_char(" "any_char" hmethod rfl
  | sequence items => exact @readsMethod_list "sequence(" "sequence" hmethod rfl items
  | choice alternatives => exact @readsMethod_list "choice(" "choice" hmethod rfl alternatives
  | repetition inner least =>
    change ReadsMethod ("repetition(" ++ opVariable inner ++ ", " ++ toString least ++ ")")
      "repetition" [.word (opVariable inner), .word (toString least)]
    exact readsMethod_two hmethod rfl (hop inner) (readsArgument_word (number_word least))
  | optional inner =>
    change ReadsMethod ("optional(" ++ opVariable inner ++ ")") "optional"
      [.word (opVariable inner)]
    exact readsMethod_one hmethod rfl (hop inner)
  | lookahead inner =>
    change ReadsMethod ("lookahead(" ++ opVariable inner ++ ")") "lookahead"
      [.word (opVariable inner)]
    exact readsMethod_one hmethod rfl (hop inner)
  | negativeLookahead inner =>
    change ReadsMethod ("negative_lookahead(" ++ opVariable inner ++ ")") "negative_lookahead"
      [.word (opVariable inner)]
    exact readsMethod_one hmethod rfl (hop inner)
  | predicate hook negated =>
    change ReadsMethod ("predicate(" ++ Text.Quoted.quote hook ++ ", " ++ toString negated ++ ")")
      "predicate" [.text hook, .word (toString negated)]
    exact readsMethod_two hmethod rfl (readsArgument_quote hook)
      (readsArgument_word (flag_word negated))
  | label name inner =>
    change ReadsMethod ("label(" ++ Text.Quoted.quote name ++ ", " ++ opVariable inner ++ ")")
      "label" [.text name, .word (opVariable inner)]
    exact readsMethod_two hmethod rfl (readsArgument_quote name) (hop inner)
  | call rule =>
    change ReadsMethod ("call(" ++ ruleVariable rule ++ ")") "call" [.word (ruleVariable rule)]
    exact readsMethod_one hmethod rfl (readsArgument_word (ruleVariable_word rule))

/-! ## Statements -/

namespace Statement

/-- What a statement is read as. -/
def line : Statement → Line
  | .start name => .create "b" name
  | .comment text => .perform ⟨"b", "leading_comment", [.text text]⟩
  | .declare rule name => .bind (Call.ruleVariable rule) ⟨"b", "declare_rule", [.text name]⟩
  | .add id call => .bind (Call.opVariable id) ⟨"b", call.method, call.arguments⟩
  | .define rule body =>
    .perform ⟨"b", "define_rule", [.word (Call.ruleVariable rule), .word (Call.opVariable body)]⟩
  | .finish => .result ⟨"b", "finish", []⟩

end Statement

/-- The text of a statement is read as `line`, before any others. -/
def ReadsLine (s : String) (line : Line) : Prop :=
  ∃ first others, Printed s (first :: others) ∧
    ∀ rest, readLine (first :: others ++ rest) = some (line, rest)

/-- A call of the builder, before a semicolon. -/
theorem Reading.ReadsMethod.perform {s method : String} {arguments : List Argument}
    (h : ReadsMethod s method arguments) :
    ReadsLine ("b." ++ s ++ ";") (.perform ⟨"b", method, arguments⟩) := by
  obtain ⟨tokens, hprinted, hread⟩ := h
  have hreceiver : Printed "b." [.word "b", .mark '.'] := rfl
  have hend : Printed ";" [.mark ';'] := rfl
  refine ⟨_, _, (hreceiver.append hprinted).append hend, fun rest ↦ ?_⟩
  simp [readLine, readCall, readInvocation, hread]

/-- A variable bound to a call of the builder. -/
theorem Reading.ReadsMethod.bind {s method target : String} {arguments : List Argument}
    (h : ReadsMethod s method arguments) (htarget : IsWord target) :
    ReadsLine ("let " ++ target ++ " = b." ++ s ++ ";")
      (.bind target ⟨"b", method, arguments⟩) := by
  obtain ⟨tokens, hprinted, hread⟩ := h
  have hlet : Printed "let " [.word "let"] := rfl
  have hreceiver : Printed " = b." [.mark '=', .word "b", .mark '.'] := rfl
  have hend : Printed ";" [.mark ';'] := rfl
  have hcall := (hreceiver.append (hprinted.append hend)).word_append htarget
    (.append ⟨_, _, rfl, rfl⟩ _)
  refine ⟨.word "let", .word target :: .mark '=' :: .word "b" :: .mark '.' :: .word method ::
    .mark '(' :: (tokens ++ [Token.mark ';']), ?_, fun rest ↦ ?_⟩
  · have hall := hlet.append hcall
    simpa only [String.append_assoc, List.cons_append, List.nil_append] using hall
  · simp [readLine, readBinding, readInvocation, hread]

namespace Statement

theorem start_reads {runtime : String} (hruntime : IsWord runtime) (name : String) :
    ReadsLine ((start name).text runtime) (start name).line := by
  have hpath : IsWord (runtime ++ "::ir::ProgramBuilder::new") := hruntime.append (by decide)
  have hleads := leadsTo_append runtime "::ir::ProgramBuilder::new"
  have hlet : Printed "let mut b = " [.word "let", .word "mut", .word "b", .mark '='] := rfl
  have hopen : Printed "(" [.mark '('] := rfl
  have hend : Printed ");" [.mark ')', .mark ';'] := rfl
  have hcall := (hopen.append (Printed.append (scans_quote name) hend)).word_append hpath
    (.append ⟨_, _, rfl, rfl⟩ _)
  have hsplit : "::ir::ProgramBuilder::new(" = "::ir::ProgramBuilder::new" ++ "(" := rfl
  refine ⟨.word "let", [.word "mut", .word "b", .mark '=',
    .word (runtime ++ "::ir::ProgramBuilder::new"), .mark '(', .text name, .mark ')', .mark ';'],
    ?_, fun rest ↦ ?_⟩
  · have hall := hlet.append hcall
    change Printed ("let mut b = " ++ runtime ++ "::ir::ProgramBuilder::new(" ++
      Text.Quoted.quote name ++ ");") _
    rw [hsplit]
    simpa only [String.append_assoc, List.cons_append, List.nil_append] using hall
  · simp [readLine, readBinding, hleads, line]

/-- Every statement but the last one is read as what it was printed from. -/
theorem reads {runtime : String} (hruntime : IsWord runtime) (statement : Statement)
    (hlast : statement ≠ .finish) : ReadsLine (statement.text runtime) statement.line := by
  cases statement with
  | start name => exact start_reads hruntime name
  | comment line =>
    have hmethod := @readsMethod_one "leading_comment(" "leading_comment" (by decide) rfl
      _ _ (readsArgument_quote line)
    have hsplit : "b.leading_comment(" = "b." ++ "leading_comment(" := rfl
    have hclose : ");" = ")" ++ ";" := rfl
    change ReadsLine ("b.leading_comment(" ++ Text.Quoted.quote line ++ ");")
      (.perform ⟨"b", "leading_comment", [.text line]⟩)
    rw [hsplit, hclose]
    simpa only [String.append_assoc] using hmethod.perform
  | declare rule name =>
    have hmethod := @readsMethod_one "declare_rule(" "declare_rule" (by decide) rfl _ _
      (readsArgument_quote name)
    have hsplit : " = b.declare_rule(" = " = b." ++ "declare_rule(" := rfl
    have hclose : ");" = ")" ++ ";" := rfl
    change ReadsLine ("let " ++ Call.ruleVariable rule ++ " = b.declare_rule(" ++
      Text.Quoted.quote name ++ ");")
      (.bind (Call.ruleVariable rule) ⟨"b", "declare_rule", [.text name]⟩)
    rw [hsplit, hclose]
    simpa only [String.append_assoc] using hmethod.bind (ruleVariable_word rule)
  | add id call => exact (call.reads hruntime).bind (opVariable_word id)
  | define rule body =>
    have hmethod := @readsMethod_two "define_rule(" "define_rule" (by decide) rfl _ _ _ _
      (readsArgument_word (ruleVariable_word rule)) (readsArgument_word (opVariable_word body))
    have hsplit : "b.define_rule(" = "b." ++ "define_rule(" := rfl
    have hclose : ");" = ")" ++ ";" := rfl
    change ReadsLine ("b.define_rule(" ++ Call.ruleVariable rule ++ ", " ++
      Call.opVariable body ++ ");")
      (.perform ⟨"b", "define_rule", [.word (Call.ruleVariable rule),
        .word (Call.opVariable body)]⟩)
    rw [hsplit, hclose]
    simpa only [String.append_assoc] using hmethod.perform
  | finish => exact absurd rfl hlast

end Statement

end PegKit.Emission
