import ContentModels.Diagnostic
import ContentModels.Mode

/-!
# The status of generation

The status remembers the error of the last run, and whether the schema changed since the last
successful one.

## Main definitions

* `Status` — what is remembered, with what changes it.
* `Dashboard` — what is shown of it.
-/

namespace ContentModels

/-- What is remembered of past runs. -/
structure Status where
  /-- The error of the last run, or a summary of its errors. -/
  lastError : Option String := none
  /-- Whether the schema changed since the last successful run. -/
  outOfDate : Bool := false
  deriving DecidableEq, Repr, Inhabited

/-- The summary of the errors among diagnostics. -/
def errorSummary (diagnostics : List Diagnostic) : Option String :=
  let errors := diagnostics.filter Diagnostic.isError
  if errors.isEmpty then none
  else some <|
    s!"Models generated with {errors.length} error(s):\n" ++
      "\n".intercalate (errors.map Diagnostic.text)

namespace Status

/-- A run failed. -/
def fail (s : Status) (message : String) : Status := { s with lastError := some message }

/-- A run succeeded, perhaps with diagnostics. -/
def succeed (_ : Status) (diagnostics : List Diagnostic) : Status :=
  ⟨errorSummary diagnostics, false⟩

/-- The schema changed. -/
def mark (s : Status) : Status := { s with outOfDate := true }

end Status

/-- Whether models reflect the schema. -/
inductive Currency where
  | current
  | outOfDate
  | unknown
  deriving DecidableEq, Repr

/-- Whether models reflect the schema, in a mode. -/
def Status.currency (s : Status) (mode : Mode) : Currency :=
  if !mode.isEnabled then .unknown else if s.outOfDate then .outOfDate else .current

/-- What is shown of a status. -/
structure Dashboard where
  enable : Bool
  text : String
  canGenerate : Bool
  /-- Generated models never make a restart necessary. -/
  causesRestart : Bool := false
  outOfDate : Bool
  lastError : Option String
  deriving DecidableEq, Repr

/-- What is shown of a status in a mode. -/
def Status.dashboard (s : Status) (mode : Mode) : Dashboard where
  enable := mode.isEnabled
  text := match mode with
    | .nothing => "Models generation is disabled."
    | mode => s!"Models generation is enabled in {mode.name} mode."
  canGenerate := mode.isEnabled
  outOfDate := s.outOfDate
  lastError := s.lastError

end ContentModels
