import Mathlib.Data.List.Find
import PegKit.Proofs.Compilation.Legible
import PegKit.Proofs.Machine.Furthest
import PegKit.Proofs.Program.Building

/-!
# What a namespace serves

A namespace is filled by one load after the other, and some of them fail. The flat name of one
grammar could be the nested name of another if the name of the first ended in two colons; the names
of accepted grammars do not. So the loads of different grammars never meet, and both names of a
grammar lead to what was loaded last for it.
-/

namespace PegKit

namespace Namespace

/-! ## The names of one grammar -/

theorem flat_ne_nested (grammar other : String) (hname : grammar.toList.getLast? ≠ some ':') :
    grammar ++ "Parser" ≠ other ++ "::Parser" := by
  intro hsame
  have hchars : grammar.toList ++ "Parser".toList =
      (other.toList ++ [':', ':']) ++ "Parser".toList := by
    calc
      grammar.toList ++ "Parser".toList = (grammar ++ "Parser").toList := by simp
      _ = (other ++ "::Parser").toList := by rw [hsame]
      _ = (other.toList ++ [':', ':']) ++ "Parser".toList := by simp
  have hcolons : grammar.toList = other.toList ++ [':', ':'] := List.append_cancel_right hchars
  apply hname
  rw [hcolons]
  simp

theorem append_cancel {name other suffix : String} (h : name ++ suffix = other ++ suffix) :
    name = other := by
  have hchars := congrArg String.toList h
  rw [String.toList_append, String.toList_append] at hchars
  exact String.toList_inj.mp (List.append_cancel_right hchars)

/-- Two grammars share no name of their parsers. -/
theorem eq_of_mem_parserNames {grammar other name : String}
    (hgrammar : grammar.toList.getLast? ≠ some ':') (hother : other.toList.getLast? ≠ some ':')
    (hname : name ∈ parserNames grammar) (hname' : name ∈ parserNames other) :
    grammar = other := by
  rw [parserNames, List.mem_pair] at hname hname'
  rcases hname with hflat | hnested <;> rcases hname' with hflat' | hnested'
  · exact append_cancel (hflat.symm.trans hflat')
  · exact absurd (hflat.symm.trans hnested') (flat_ne_nested grammar other hgrammar)
  · exact absurd (hflat'.symm.trans hnested) (flat_ne_nested other grammar hother)
  · exact append_cancel (hnested.symm.trans hnested')

/-! ## Registering -/

section Put

variable (entries : List (String × Program)) (name : String) (program : Program)

theorem names_put_of_mem (h : name ∈ entries.map (·.1)) :
    (put entries name program).map (·.1) = entries.map (·.1) := by
  obtain ⟨entry, hentry, hsame⟩ := List.mem_map.mp h
  have hany : entries.any (·.1 == name) = true :=
    List.any_eq_true.mpr ⟨entry, hentry, beq_iff_eq.mpr hsame⟩
  rw [put, if_pos hany, List.map_map]
  apply List.map_congr_left
  intro entry _
  simp only [Function.comp_apply]
  split
  · next hsame => exact (beq_iff_eq.mp hsame).symm
  · rfl

theorem put_of_not_mem (h : name ∉ entries.map (·.1)) :
    put entries name program = entries ++ [(name, program)] := by
  have hnone : entries.any (·.1 == name) = false := by
    rw [List.any_eq_false]
    intro entry hentry hsame
    exact h (List.mem_map.mpr ⟨entry, hentry, beq_iff_eq.mp hsame⟩)
  rw [put, hnone]
  rfl

theorem lookup_map_replace (other : String) :
    (entries.map fun entry ↦ if entry.1 == name then (name, program) else entry).lookup other =
      if other = name then (entries.lookup name).map fun _ ↦ program
      else entries.lookup other := by
  induction entries with
  | nil => simp
  | cons entry rest ih =>
    obtain ⟨key, kept⟩ := entry
    rw [List.map_cons]
    by_cases hkey : key = name
    · subst hkey
      by_cases hother : other = key
      · simp [hother]
      · have hnot : (other == key) = false := beq_false_of_ne hother
        simpa only [beq_self_eq_true, if_true, List.lookup_cons, hnot, if_neg hother] using ih
    · rw [if_neg (by simpa using hkey), List.lookup_cons, List.lookup_cons, List.lookup_cons, ih]
      have hnot : (name == key) = false := beq_false_of_ne (Ne.symm hkey)
      by_cases hother : other = name
      · simp [hother, hnot]
      · simp only [if_neg hother]

theorem lookup_put (other : String) : (put entries name program).lookup other =
    if other = name then some program else entries.lookup other := by
  cases hfound : entries.lookup name with
  | none =>
    have hnew : name ∉ entries.map (·.1) := by
      intro hmem
      obtain ⟨entry, hentry, hsame⟩ := List.mem_map.mp hmem
      have hother := List.lookup_eq_none_iff.mp hfound entry hentry
      simp [hsame] at hother
    rw [put_of_not_mem entries name program hnew, List.lookup_append]
    by_cases hother : other = name
    · simp [hother, hfound]
    · simp [hother, List.lookup_cons, beq_false_of_ne hother]
  | some old =>
    obtain ⟨before, after, rfl, _⟩ := List.lookup_eq_some_iff.mp hfound
    rw [put, if_pos (by simp), lookup_map_replace, hfound]
    rfl

end Put

theorem find?_register (registry : Namespace) (program : Program) (name : String) :
    (registry.register program).find? name =
      if name ∈ parserNames program.name then some program else registry.find? name := by
  change (put (put registry.entries _ program) _ program).lookup name = _
  rw [lookup_put, lookup_put]
  by_cases hnested : name = program.name ++ "::Parser"
  · simp [parserNames, hnested]
  · by_cases hflat : name = program.name ++ "Parser"
    · simp [parserNames, hflat]
    · simp [parserNames, hnested, hflat, find?]

/-- A grammar that is loaded again keeps its place. -/
theorem names_register_of_subset {registry : Namespace} {program : Program}
    (h : parserNames program.name ⊆ registry.names) :
    (registry.register program).names = registry.names := by
  have hflat : program.name ++ "Parser" ∈ registry.entries.map (·.1) := h (by simp [parserNames])
  have hnested : program.name ++ "::Parser" ∈ registry.entries.map (·.1) :=
    h (by simp [parserNames])
  have hfirst := names_put_of_mem registry.entries _ program hflat
  calc
    (registry.register program).names
    _ = (put registry.entries (program.name ++ "Parser") program).map (·.1) :=
      names_put_of_mem _ _ program (by rwa [hfirst])
    _ = registry.names := hfirst

/-- A new grammar comes last, with its flat name first. -/
theorem names_register_of_disjoint {registry : Namespace} {program : Program}
    (hname : program.name.toList.getLast? ≠ some ':')
    (h : ∀ name ∈ parserNames program.name, name ∉ registry.names) :
    (registry.register program).names = registry.names ++ parserNames program.name := by
  have hflat := put_of_not_mem registry.entries _ program (h (program.name ++ "Parser") (by
    simp [parserNames]))
  have hnested : program.name ++ "::Parser" ∉
      (registry.entries ++ [(program.name ++ "Parser", program)]).map (·.1) := by
    rw [List.map_append, List.mem_append]
    rintro (hold | hnew)
    · exact h _ (by simp [parserNames]) hold
    · exact flat_ne_nested _ _ hname (List.mem_singleton.mp hnew).symm
  change (put (put registry.entries _ program) _ program).map (·.1) = _
  rw [hflat, put_of_not_mem _ _ program hnested]
  simp [names, parserNames]

/-! ## Registering one after the other -/

def registered (programs : List Program) : Namespace := programs.foldl register .empty

theorem registered_concat (programs : List Program) (program : Program) :
    registered (programs ++ [program]) = (registered programs).register program := by
  rw [registered, List.foldl_append]
  rfl

theorem find?_registered (programs : List Program) (name : String) :
    (registered programs).find? name =
      programs.reverse.find? fun program ↦ name ∈ parserNames program.name := by
  induction programs using List.reverseRecOn with
  | nil => rfl
  | append_singleton programs program ih =>
    rw [registered_concat, find?_register, List.reverse_concat, List.find?_cons, ih]
    by_cases hname : name ∈ parserNames program.name <;> simp [hname]

theorem names_registered {programs : List Program}
    (hnames : ∀ program ∈ programs, program.name.toList.getLast? ≠ some ':') :
    (registered programs).names = (programs.map (·.name)).eraseDups.flatMap parserNames := by
  induction programs using List.reverseRecOn with
  | nil => rfl
  | append_singleton programs program ih =>
    have hbefore (other : Program) (hother : other ∈ programs) :=
      hnames other (List.mem_append_left _ hother)
    have hprogram := hnames program (by simp)
    rw [registered_concat, List.map_append, List.map_singleton]
    by_cases hknown : program.name ∈ programs.map (·.name)
    · rw [eraseDups_concat_of_mem hknown, names_register_of_subset, ih hbefore]
      rw [ih hbefore]
      intro name hname
      exact List.mem_flatMap.mpr ⟨program.name, List.mem_eraseDups.mpr hknown, hname⟩
    · rw [eraseDups_concat_of_not_mem hknown, names_register_of_disjoint hprogram, ih hbefore]
      · simp
      · intro name hname hold
        rw [ih hbefore] at hold
        obtain ⟨grammar, hgrammar, hname'⟩ := List.mem_flatMap.mp hold
        rw [List.mem_eraseDups] at hgrammar
        obtain ⟨other, hother, rfl⟩ := List.mem_map.mp hgrammar
        have hsame := eq_of_mem_parserNames hprogram (hbefore other hother) hname hname'
        exact hknown (hsame ▸ hgrammar)

end Namespace

/-! ## Programs and their names -/

open Token (IsName isIdentifierPart isIdentifierStart)

theorem Token.IsName.part {name : List Char} (h : IsName name) {c : Char} (hc : c ∈ name) :
    isIdentifierPart c = true := by
  obtain @⟨first, rest, hstart, hrest, _⟩ := h
  rcases List.mem_cons.mp hc with rfl | hc
  · rw [isIdentifierStart, Bool.or_eq_true] at hstart
    rcases hstart with halpha | hunderscore
    · simp [isIdentifierPart, Char.isAlphanum, halpha]
    · simp [isIdentifierPart, hunderscore]
  · exact hrest c hc

/-- The last character of a nested name belongs to its last segment. -/
theorem last_of_segments {first : String} {others : List String}
    (h : ∀ segment ∈ first :: others, IsName segment.toList) :
    ∃ c, ("::".intercalate (first :: others)).toList.getLast? = some c ∧
      isIdentifierPart c = true := by
  induction others generalizing first with
  | nil =>
    have hfirst := h first List.mem_cons_self
    have hsome : first.toList ≠ [] := by
      rintro hnil
      rw [hnil] at hfirst
      cases hfirst
    refine ⟨first.toList.getLast hsome, ?_, hfirst.part (List.getLast_mem hsome)⟩
    rw [String.intercalate_singleton, List.getLast?_eq_some_getLast hsome]
  | cons segment rest ih =>
    obtain ⟨c, hlast, hpart⟩ := ih (List.forall_mem_cons.mp h).2
    refine ⟨c, ?_, hpart⟩
    rw [String.intercalate_cons_cons, String.toList_append, List.getLast?_append, hlast]
    rfl

theorem Grammar.Writable.last_ne_colon {grammar : Grammar} (h : grammar.Writable) :
    grammar.name.toList.getLast? ≠ some ':' := by
  obtain ⟨first, others, hname, hsegments⟩ := h.segments
  obtain ⟨c, hlast, hpart⟩ := last_of_segments hsegments
  rw [hname, hlast]
  rintro ⟨⟩
  cases hpart

/-! ## Loading one after the other -/

namespace Loading

/-- The namespace after a load, which may fail. -/
def attempt (registry : Namespace) (source : String) : Namespace :=
  match loadText registry source with
  | .ok (_, registry) => registry
  | .error _ => registry

def loadAll (sources : List String) : Namespace := sources.foldl attempt .empty

/-- The program that a text loads, under the name of its grammar. -/
def loaded? (source : String) : Option (String × Program) :=
  (Compilation.compile source).toOption.bind fun grammar ↦
    grammar.toProgram.toOption.map fun program ↦ (grammar.name, program)

/-- The loads that succeed. -/
def loads (sources : List String) : List (String × Program) := sources.filterMap loaded?

def lastLoad? (sources : List String) (grammar : String) : Option Program :=
  ((loads sources).reverse.find? (·.1 == grammar)).map (·.2)

/-- The grammars of the loads that succeed, each in the place of the first one. -/
def grammarNames (sources : List String) : List String := ((loads sources).map (·.1)).eraseDups

theorem programOf_toOption (source : String) :
    (programOf source).toOption = (loaded? source).map (·.2) := by
  unfold programOf loaded?
  cases Compilation.compile source with
  | error error => rfl
  | ok grammar =>
    have hbuilt (result : Except BuildError Program) :
        ((result.mapError CompileError.build).mapError LoadError.compile).toOption =
          (result.toOption.map fun program ↦ (grammar.name, program)).map (·.2) := by
      cases result <;> rfl
    exact hbuilt grammar.toProgram

/-- A text is loaded under the name of its grammar, which is the name of its program. -/
theorem loaded?_eq_some {source : String} {entry : String × Program}
    (h : loaded? source = some entry) :
    entry.2.name = entry.1 ∧ entry.1.toList.getLast? ≠ some ':' := by
  obtain ⟨grammar, hgrammar, hrest⟩ := Option.bind_eq_some_iff.mp h
  obtain ⟨program, hprogram, rfl⟩ := Option.map_eq_some_iff.mp hrest
  have haccepted : Compilation.compile source = .ok grammar := by
    revert hgrammar
    cases Compilation.compile source <;> simp [Except.toOption]
  have hbuilt : grammar.toProgram = .ok program := by
    revert hprogram
    cases grammar.toProgram <;> simp [Except.toOption]
  exact ⟨(Grammar.header_toProgram hbuilt).1,
    (Compilation.compileWithin_writable haccepted).last_ne_colon⟩

theorem mem_loads {sources : List String} {entry : String × Program} (h : entry ∈ loads sources) :
    entry.2.name = entry.1 ∧ entry.1.toList.getLast? ≠ some ':' := by
  obtain ⟨source, _, hentry⟩ := List.mem_filterMap.mp h
  exact loaded?_eq_some hentry

theorem attempt_eq (registry : Namespace) (source : String) :
    attempt registry source =
      ((loaded? source).map (·.2)).elim registry registry.register := by
  rw [← programOf_toOption]
  unfold attempt loadText
  cases programOf source <;> rfl

/-- Loads fill a namespace with the programs of those that succeed. -/
theorem loadAll_concat (sources : List String) (source : String) :
    loadAll (sources ++ [source]) = attempt (loadAll sources) source := by
  rw [loadAll, List.foldl_append]
  rfl

theorem attempt_of_error {registry : Namespace} {source : String} {error : LoadError}
    (h : loadText registry source = .error error) : attempt registry source = registry := by
  unfold attempt
  simp only [h]

theorem loadAll_eq (sources : List String) :
    loadAll sources = Namespace.registered ((loads sources).map (·.2)) := by
  induction sources using List.reverseRecOn with
  | nil => rfl
  | append_singleton sources source ih =>
    rw [loadAll_concat, attempt_eq, ih, loads, loads, List.filterMap_append]
    cases hload : loaded? source with
    | none => simp [hload]
    | some entry =>
      rw [List.filterMap_cons_some hload, List.filterMap_nil, List.map_append, List.map_singleton,
        Namespace.registered_concat]
      rfl

/-- The names of the programs are the names of the grammars. -/
theorem names_loads (sources : List String) :
    ((loads sources).map (·.2)).map (·.name) = (loads sources).map (·.1) := by
  rw [List.map_map]
  apply List.map_congr_left
  intro entry hentry
  exact (mem_loads hentry).1

theorem names_loadAll (sources : List String) :
    (loadAll sources).names = (grammarNames sources).flatMap Namespace.parserNames := by
  rw [loadAll_eq, Namespace.names_registered, names_loads, grammarNames]
  intro program hprogram
  obtain ⟨entry, hentry, rfl⟩ := List.mem_map.mp hprogram
  obtain ⟨hname, hlast⟩ := mem_loads hentry
  rwa [hname]

theorem size_loadAll (sources : List String) :
    (loadAll sources).size = 2 * (grammarNames sources).length := by
  calc
    (loadAll sources).size
    _ = (loadAll sources).names.length := (List.length_map _).symm
    _ = ((grammarNames sources).map fun _ ↦ 2).sum := by
      rw [names_loadAll, List.length_flatMap]
      rfl
    _ = 2 * (grammarNames sources).length := by simp [Nat.mul_comm]

/-- Both names of a grammar lead to its last load. -/
theorem find?_loadAll {sources : List String} {grammar name : String}
    (hgrammar : grammar ∈ grammarNames sources) (hname : name ∈ Namespace.parserNames grammar) :
    (loadAll sources).find? name = lastLoad? sources grammar := by
  obtain ⟨known, hknown, hsame⟩ := List.mem_map.mp (List.mem_eraseDups.mp hgrammar)
  have hlast := hsame ▸ (mem_loads hknown).2
  rw [loadAll_eq, Namespace.find?_registered, lastLoad?, ← List.map_reverse, List.find?_map]
  have hsame : ∀ entry ∈ (loads sources).reverse,
      decide (name ∈ Namespace.parserNames entry.2.name) = (entry.1 == grammar) := by
    intro entry hentry
    obtain ⟨hentryName, hentryLast⟩ := mem_loads (List.mem_reverse.mp hentry)
    rw [hentryName, Bool.eq_iff_iff, decide_eq_true_iff, beq_iff_eq]
    constructor
    · intro hmem
      exact Namespace.eq_of_mem_parserNames hentryLast hlast hmem hname
    · intro hentryGrammar
      rwa [hentryGrammar]
  exact congrArg (Option.map Prod.snd) (List.find?_congr hsame)

theorem lastLoad?_of_mem {sources : List String} {grammar : String}
    (hgrammar : grammar ∈ grammarNames sources) :
    ∃ program, lastLoad? sources grammar = some program ∧ program.name = grammar := by
  obtain ⟨known, hknown, hsame⟩ := List.mem_map.mp (List.mem_eraseDups.mp hgrammar)
  have hsome : ((loads sources).reverse.find? (·.1 == grammar)).isSome = true := by
    rw [List.find?_isSome]
    exact ⟨known, List.mem_reverse.mpr hknown, beq_iff_eq.mpr hsame⟩
  obtain ⟨entry, hentry⟩ := Option.isSome_iff_exists.mp hsome
  refine ⟨entry.2, by rw [lastLoad?, hentry]; rfl, ?_⟩
  calc
    entry.2.name = entry.1 :=
      (mem_loads (List.mem_reverse.mp (List.mem_of_find?_eq_some hentry))).1
    _ = grammar := by simpa using List.find?_some hentry

theorem find?_loadAll_of_not_mem {sources : List String} {name : String}
    (hname : name ∉ (grammarNames sources).flatMap Namespace.parserNames) :
    (loadAll sources).find? name = none := by
  rw [← names_loadAll, Namespace.names, List.mem_map] at hname
  apply List.lookup_eq_none_iff.mpr
  intro entry hentry
  rw [bne_iff_ne]
  intro hsame
  exact hname ⟨entry, hentry, hsame.symm⟩

/-- After any loads into an empty namespace, those that failed left no trace, and both names of each
grammar that was loaded lead to a parser of its last load. Nothing else is in the namespace. -/
theorem namespace_serves_last_loads (sources : List String) :
    (∀ source error, loadText (loadAll sources) source = .error error →
        loadAll (sources ++ [source]) = loadAll sources) ∧
      (∀ grammar ∈ grammarNames sources, ∃ program, lastLoad? sources grammar = some program ∧
        program.name = grammar ∧ ∀ name ∈ Namespace.parserNames grammar,
          parserNamed (loadAll sources) name = .ok (.ofProgram program)) ∧
      (loadAll sources).names = (grammarNames sources).flatMap Namespace.parserNames ∧
      (loadAll sources).size = 2 * (grammarNames sources).length ∧
      ∀ name ∉ (grammarNames sources).flatMap Namespace.parserNames,
        parserNamed (loadAll sources) name = .error (.unknownParser name) := by
  refine ⟨?_, ?_, names_loadAll sources, size_loadAll sources, ?_⟩
  · intro source error hfails
    rw [loadAll_concat, attempt_of_error hfails]
  · intro grammar hgrammar
    obtain ⟨program, hprogram, hname⟩ := lastLoad?_of_mem hgrammar
    refine ⟨program, hprogram, hname, ?_⟩
    intro name hserved
    rw [parserNamed, find?_loadAll hgrammar hserved, hprogram]
  · intro name hother
    rw [parserNamed, find?_loadAll_of_not_mem hother]

/-- A grammar, one that is nested in it, a text that is not closed, and the first grammar again. -/
def reloads : List String :=
  ["grammar A rule r . end end", "grammar A::B end", "grammar A rule", "grammar A end"]

theorem namespace_serves_last_loads_reloaded :
    (∃ error, loadText (loadAll reloads) "grammar A rule" = .error error) ∧
      loadAll (reloads ++ ["grammar A rule"]) = loadAll reloads ∧
      grammarNames reloads = ["A", "A::B"] ∧
      (∃ program, lastLoad? reloads "A" = some program ∧ program.name = "A" ∧
        program.rules.size = 0 ∧ parserNamed (loadAll reloads) "AParser" = .ok (.ofProgram program) ∧
        parserNamed (loadAll reloads) "A::Parser" = .ok (.ofProgram program)) ∧
      (loadAll reloads).names = ["AParser", "A::Parser", "A::BParser", "A::B::Parser"] ∧
      (loadAll reloads).size = 4 ∧
      "A::B" ∉ (grammarNames reloads).flatMap Namespace.parserNames ∧
      parserNamed (loadAll reloads) "A::B" = .error (.unknownParser "A::B") := by
  obtain ⟨hfails, hserved, hnames, hsize, hunknown⟩ := namespace_serves_last_loads reloads
  have hloaded : grammarNames reloads = ["A", "A::B"] := by decide +kernel
  have hlast : (lastLoad? reloads "A").map (·.rules.size) = some 0 := by decide +kernel
  have hrefused : (loadText (loadAll reloads) "grammar A rule").toOption.isNone = true := by
    decide +kernel
  rw [hloaded] at hserved hnames hsize hunknown ⊢
  obtain ⟨program, hprogram, hname, hparsers⟩ := hserved "A" (by decide)
  rw [hprogram] at hlast
  cases hresult : loadText (loadAll reloads) "grammar A rule" with
  | ok loaded =>
    rw [hresult] at hrefused
    cases hrefused
  | error error =>
    exact ⟨⟨error, rfl⟩, hfails _ error hresult, rfl,
      ⟨program, hprogram, hname, Option.some.inj hlast, hparsers _ (by decide),
        hparsers _ (by decide)⟩,
      hnames, hsize, by decide, hunknown _ (by decide)⟩

end Loading

end PegKit
