import ContentModels.Compile.Basic
import ContentModels.Store.Error

/-!
# Why a run fails
-/

namespace ContentModels

/-- Why there is no schema. -/
inductive SchemaFailure where
  /-- The document cannot be read. -/
  | unreadable (path : Path) (fault : IoFault)
  /-- The document is no schema. -/
  | invalid (path : Path) (reason : String)
  /-- The source of the schema has none to offer. -/
  | unavailable (reason : String)
  deriving DecidableEq, Repr

def SchemaFailure.message : SchemaFailure → String
  | unreadable path fault => s!"Failed to read schema {path}: {fault.message}"
  | invalid path reason => s!"Invalid schema document {path}: {reason}"
  | unavailable reason => reason

/-- Why a run fails. -/
inductive RunError where
  /-- Runs are switched off. -/
  | disabled
  /-- Another run has the directory. -/
  | inProgress (path : Path)
  | schema (failure : SchemaFailure)
  /-- The files of earlier runs cannot be removed. -/
  | clean (e : StoreError)
  /-- The hand-authored files cannot be read. -/
  | scan (e : StoreError)
  /-- A generated file cannot be written. -/
  | emit (e : StoreError)
  | compilation (e : CompileError)
  deriving DecidableEq, Repr

def RunError.message : RunError → String
  | disabled => "Models generation is not enabled"
  | inProgress path => s!"Models generation already in progress for {path}"
  | schema failure => s!"Schema unavailable: {failure.message}"
  | clean e => s!"Failed to clean generated files: {e.message}"
  | scan e => s!"Failed to scan models directory: {e.message}"
  | emit e => s!"Failed to write generated models: {e.message}"
  | compilation e => s!"Failed to compile models: {e.message}"

end ContentModels
