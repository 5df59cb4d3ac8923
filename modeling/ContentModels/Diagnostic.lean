import ContentModels.HandFile.Error
import ContentModels.Plan.Error

/-!
# Diagnostics

A diagnostic is a problem that does not end a run: it concerns one hand-authored file or one content
type, and the others go on.
-/

namespace ContentModels

inductive Severity where
  | warning
  | error
  deriving DecidableEq, Repr

def Severity.word : Severity → String
  | .warning => "warning"
  | .error => "error"

/-- What a diagnostic is about. -/
inductive DiagnosticKind where
  /-- A hand-authored file is no source text. -/
  | parseFailure
  /-- A marker is malformed. -/
  | invalidMarker
  /-- Declarations of a property differ, and one of them was chosen. -/
  | mixinConflict
  /-- A content type got no model. -/
  | unresolvableType
  deriving DecidableEq, Repr

/-- A problem that does not end a run. -/
structure Diagnostic where
  severity : Severity
  kind : DiagnosticKind
  /-- The file or the content type that it is about. -/
  subject : String
  message : String
  deriving DecidableEq, Repr

namespace Diagnostic

/-- A problem of a hand-authored file. -/
def ofHandFile (e : HandFileError) : Diagnostic where
  severity := .error
  kind := match e with
    | .unreadable .. => .parseFailure
    | .marker .. => .invalidMarker
  subject := e.file.text
  message := e.message

/-- A content type that gets no model. -/
def unresolvable (handle : String) (e : PlanError) : Diagnostic :=
  ⟨.error, .unresolvableType, handle, e.message⟩

/-- Differing declarations of a property, of which one was chosen. -/
def conflict (handle message : String) : Diagnostic := ⟨.warning, .mixinConflict, handle, message⟩

def isError (d : Diagnostic) : Bool := d.severity == .error

/-- The diagnostic on one line. -/
def text (d : Diagnostic) : String := s!"{d.severity.word} [{d.subject}]: {d.message}"

end Diagnostic

end ContentModels
