import PegKit.Diagnostic.Kind
import PegKit.Text.Span

/-!
# Diagnostics

Reports on a grammar. A report says what is wrong and where, and may point at related places. On one
line it reads `severity at a..b: message`.
-/

namespace PegKit

open Text (Span)

/-- A secondary place shown with a report. -/
structure RelatedPlace where
  message : String
  span : Span
  deriving DecidableEq, Repr

structure Diagnostic where
  kind : DiagnosticKind
  span : Span
  message : String
  related : List RelatedPlace
  deriving DecidableEq, Repr

namespace Diagnostic

/-- A report worded with the headline of its kind. -/
def plain (kind : DiagnosticKind) (span : Span) : Diagnostic :=
  ⟨kind, span, kind.headline, []⟩

/-- A report worded around `detail`. -/
def detailed (kind : DiagnosticKind) (span : Span) (detail : String) : Diagnostic :=
  ⟨kind, span, kind.withDetail detail, []⟩

/-- The report with one more related place. -/
def relatedTo (diagnostic : Diagnostic) (message : String) (span : Span) : Diagnostic :=
  { diagnostic with related := diagnostic.related ++ [⟨message, span⟩] }

def severity (diagnostic : Diagnostic) : Severity := diagnostic.kind.severity

def isError (diagnostic : Diagnostic) : Bool := diagnostic.severity == .error

def isWarning (diagnostic : Diagnostic) : Bool := diagnostic.severity == .warning

/-- The report on one line. -/
def line (diagnostic : Diagnostic) : String :=
  diagnostic.severity.text ++ " at " ++ diagnostic.span.text ++ ": " ++ diagnostic.message ++
    String.join (diagnostic.related.map fun place ↦
      " (related: " ++ place.message ++ " at " ++ place.span.text ++ ")")

end Diagnostic

/-- Reports in the order they were made. -/
abbrev Diagnostics := List Diagnostic

namespace Diagnostics

def errorCount (diagnostics : Diagnostics) : Nat := diagnostics.countP Diagnostic.isError

def warningCount (diagnostics : Diagnostics) : Nat := diagnostics.countP Diagnostic.isWarning

def hasErrors (diagnostics : Diagnostics) : Bool := diagnostics.any Diagnostic.isError

def hasWarnings (diagnostics : Diagnostics) : Bool := diagnostics.any Diagnostic.isWarning

/-- All reports, one to a line. -/
def lines (diagnostics : Diagnostics) : String :=
  "\n".intercalate (diagnostics.map Diagnostic.line)

end Diagnostics

end PegKit
