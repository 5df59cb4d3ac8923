import ContentModels.Compile.Basic
import ContentModels.Plan.Basic
import ContentModels.Run.Error
import ContentModels.Sorted.Map
import ContentModels.Status.Basic

/-!
# What a run reports
-/

namespace ContentModels

/-- What became of a text that was to be written. -/
inductive Written where
  /-- It was written, in so many bytes. -/
  | file (path : Path) (size : Nat)
  /-- It would have been written. -/
  | preview (path : Path) (text : String)
  deriving DecidableEq, Repr

namespace Written

def path : Written → Path
  | .file path _ => path
  | .preview path _ => path

/-- Whether anything was written. -/
def isFile : Written → Bool
  | .file .. => true
  | .preview .. => false

/-- The number of bytes that were written. -/
def size : Written → Nat
  | .file _ size => size
  | .preview .. => 0

end Written

/-- A phase of a run. -/
inductive Phase where
  | idle
  | cleaning
  | scanning
  | planning
  | emitting
  | compiling
  | done
  deriving DecidableEq, Repr

/-- What a run that succeeds reports. -/
structure Report where
  /-- The generated files of earlier runs that were removed. -/
  deleted : List Path := []
  /-- What became of the generated files. -/
  written : List Written := []
  /-- The texts of the generated files. -/
  generated : SortedMap Path String := ∅
  plans : List Plan := []
  skippedTypes : List SkippedType := []
  diagnostics : List Diagnostic := []
  artifact : Option Artifact := none

namespace Report

/-- The phases that the run went through. -/
def phases (r : Report) : List Phase :=
  [Phase.idle, .cleaning, .scanning, .planning, .emitting] ++
    (if r.artifact.isSome then [Phase.compiling] else []) ++ [Phase.done]

/-- The number of errors among the diagnostics. -/
def errorCount (r : Report) : Nat := (r.diagnostics.filter Diagnostic.isError).length

end Report

/-- The status after a run ended. -/
def Status.afterRun (s : Status) : Except RunError Report → Status
  | .ok report => s.succeed report.diagnostics
  | .error e => s.fail e.message

end ContentModels
