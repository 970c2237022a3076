import Standin.Document

/-!
# Diagnostics

* `Severity`, `Related`, `Diagnostic`: a remark about a span of a document;
* `Diagnostic.location`: the file, line and column at which its span begins;
* `Diagnostic.headline`: the remark in one line.
-/

namespace Standin

/-- How grave a remark is. -/
inductive Severity
  | info
  | warn
  | error
deriving DecidableEq, Repr

namespace Severity

def name : Severity → String
  | .info => "info"
  | .warn => "warn"
  | .error => "error"

/-- The name in capitals, as headlines show it. -/
def title : Severity → String
  | .info => "INFO"
  | .warn => "WARN"
  | .error => "ERROR"

def ofName? (name : String) : Option Severity :=
  [info, warn, error].find? fun s => s.name == name

end Severity

/-- Another place that a remark refers to. -/
structure Related where
  label : String
  span : Span
  document : Document
deriving DecidableEq, Repr

/-- A remark about a span of a document. -/
structure Diagnostic where
  message : String
  severity : Severity
  span : Span
  document : Document
  code : Option String := none
  notes : List String := []
  hint : Option String := none
  related : List Related := []
deriving DecidableEq, Repr

namespace Diagnostic

/-- Where the span begins. -/
def location (d : Diagnostic) : Except SpanFault String :=
  (d.document.lineCol d.span.start).map fun (line, col) => s!"{d.document.label}:{line}:{col}"

/-- The code in brackets after the severity; an empty code counts as none. -/
def codeTag : Option String → String
  | none => ""
  | some code => if code = "" then "" else s!" [{code}]"

/-- The remark in one line. -/
def headline (d : Diagnostic) : Except SpanFault String :=
  d.location.map fun place =>
    s!"{d.severity.title}{codeTag d.code}: {d.message} at {place}"

end Diagnostic

end Standin
