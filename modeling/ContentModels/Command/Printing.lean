import ContentModels.Run.Report
import ContentModels.Text.Split
import ContentModels.Validation

/-!
# What commands print

Every function answers the lines that are printed, without their line breaks.
-/

namespace ContentModels

/-- What marks a line about something that was done. -/
def doneMark : String := "✓"

/-- A line that sets off the text of a file. -/
def ruler : String := String.ofList (List.replicate 60 '─')

/-- What is printed of diagnostics. -/
def diagnosticLines (diagnostics : List Diagnostic) : List String :=
  diagnostics.map fun d => s!"  {d.text}"

/-- What is printed of a text that was written, or would have been. -/
def Written.lines : Written → List String
  | .file path size => [s!"{doneMark} Written {size} bytes to {path}"]
  | .preview path text => [s!"[dry-run] Would write to {path}:", ruler, text, ruler]

/-- Why a type was skipped, in words. -/
def TypeSkip.words : TypeSkip → String
  | .ignoredByMarker => "ignored"
  | .implementedByHand => "implemented by hand"
  | .unresolvable => "unresolvable"

/-- What is printed of a run. -/
def Report.lines (r : Report) : List String :=
  (if r.deleted.isEmpty then []
    else [s!"  Removed {r.deleted.length} previously generated file(s)"]) ++
  r.written.flatMap Written.lines ++
  r.skippedTypes.map (fun t => s!"  Skipped {t.className} ({t.reason.words})") ++
  diagnosticLines r.diagnostics ++
  r.artifact.toList.map (fun a => s!"{doneMark} Compiled {a.path}") ++
  [s!"  Generated {r.plans.length} model(s)"]

/-- A text moved to the right in a column of so many characters. -/
def padLeft (width : Nat) (s : String) : String :=
  String.ofList (List.replicate (width - s.length) ' ') ++ s

/-- What is printed of a file that is not as it would be generated. -/
def Drift.line (d : Drift) : String := "  " ++ padLeft 8 d.kind.name ++ s!" {d.path}"

/-- What is printed of a validation. -/
def Validation.lines (v : Validation) : List String :=
  diagnosticLines v.diagnostics ++
    if v.isUpToDate then [s!"{doneMark} {v.checked} generated file(s) are up-to-date"]
    else "✗ Models are out of date" :: v.drift.map Drift.line ++
      ["  Run 'modelgen generate' to update"]

/-- What is printed of a status. -/
def Dashboard.lines (d : Dashboard) : List String :=
  [d.text] ++
  (if d.outOfDate then ["  Models are out of date."] else []) ++
  match d.lastError with
  | none => ["  Last generation succeeded."]
  | some error => "  Last generation reported:" ::
    (Text.lines error.toList).map fun line => s!"    {String.ofList line}"

end ContentModels
