import PegKit.Analysis
import PegKit.Cst.Production
import PegKit.Diagnostic.Filter
import PegKit.Program.Builder

/-!
# Compiling grammar texts

A text is read, then analysed, then accepted as a grammar. Errors of reading stop before analysis,
and errors of analysis before acceptance; warnings stop nothing. The reports that an error carries
are filtered.
-/

namespace PegKit

/-- Why a text was not accepted. -/
inductive CompileError
  | fault (fault : Cst.Fault)
  | malformed (diagnostics : Diagnostics)
  | meaningless (diagnostics : Diagnostics)
  | build (error : BuildError)

namespace CompileError

/-- The wording of a fault in reading. -/
def faultMessage : Cst.Fault → String
  | .execFuelExhausted => "execution limit exceeded"
  | .recursionLimitExceeded => "recursion limit exceeded"
  | .stuck => "parser is stuck: too many lookaheads"
  | .endOfTokens => "bump called at end of input"
  | .misplaced => "broken parser invariant"

def message : CompileError → String
  | .fault cause => faultMessage cause
  | .malformed diagnostics => s!"grammar parsing failed with {diagnostics.errorCount} errors"
  | .meaningless diagnostics => s!"grammar analysis failed with {diagnostics.errorCount} errors"
  | .build error => error.message

/-- The reports that came with the error, if it is one of reading or analysis. -/
def diagnostics? : CompileError → Option Diagnostics
  | .malformed diagnostics => some diagnostics
  | .meaningless diagnostics => some diagnostics
  | .fault _ => none
  | .build _ => none

end CompileError

namespace Compilation

/-- Reads a text. -/
def parse (source : String) (limits : Cst.Limits) : Except CompileError Cst.Parsed :=
  (Cst.parse source limits).mapError .fault

/-- A text that was read without errors and analysed. -/
structure Analyzed where
  parsed : Cst.Parsed
  table : RuleTable
  grammar : Grammar
  /-- All reports, warnings included. -/
  diagnostics : Diagnostics

def analyze (parsed : Cst.Parsed) : Except CompileError Analyzed :=
  if parsed.diagnostics.hasErrors then .error (.malformed parsed.diagnostics.filtered)
  else
    let analysis := Analysis.ofRoot parsed.root
    .ok {
      parsed, table := analysis.table, grammar := analysis.grammar
      diagnostics := parsed.diagnostics ++ analysis.diagnostics }

namespace Analyzed

def isValid (analyzed : Analyzed) : Bool := !analyzed.diagnostics.hasErrors

def accept (analyzed : Analyzed) : Except CompileError Grammar :=
  if analyzed.isValid then .ok analyzed.grammar
  else .error (.meaningless analyzed.diagnostics.filtered)

end Analyzed

/-- The grammar of a text, within the limits given. -/
def compileWithin (limits : Cst.Limits) (source : String) : Except CompileError Grammar :=
  parse source limits >>= analyze >>= Analyzed.accept

/-- The grammar of a text, within the usual limits. -/
def compile (source : String) : Except CompileError Grammar :=
  compileWithin {} source

end Compilation

end PegKit
