import ContentModels.Command.Error
import ContentModels.Run.Generate

/-!
# Whether generated files are up to date

A run that writes nothing tells what the generated files should be. Each of them may be missing or
differ from that, and there may be others that would no longer be generated.

## Main definitions

* `Drift` — a generated file that is not as it should be.
* `Settings.validate` — compares the files with what a run would write.
-/

namespace ContentModels

/-- How a generated file differs from what it should be. -/
inductive DriftKind where
  | missing
  | changed
  /-- It would no longer be generated. -/
  | stale
  deriving DecidableEq, Repr

def DriftKind.name : DriftKind → String
  | missing => "missing"
  | changed => "changed"
  | stale => "stale"

/-- A generated file that is not as it should be. -/
structure Drift where
  path : Path
  kind : DriftKind
  deriving DecidableEq, Repr

/-- What a comparison found. -/
structure Validation where
  /-- The number of files that a run would write. -/
  checked : Nat
  drift : List Drift
  diagnostics : List Diagnostic
  deriving DecidableEq, Repr

/-- Whether everything is as it should be. -/
def Validation.isUpToDate (v : Validation) : Bool := v.drift.isEmpty

/-- The reason why a file cannot be read. -/
def StoreError.fault : StoreError → IoFault
  | .createDir _ fault => fault
  | .write _ fault => fault
  | .read _ fault => fault
  | .delete _ fault => fault
  | .list _ reason => .other reason

/-- Compares files with their texts as they should be. -/
def compareFiles : List (Path × String) → Program (Except CommandError (List Drift))
  | [] => return .ok []
  | (file, expected) :: rest => do
    match ← Program.ask (.read file) with
    | .ok actual =>
      if actual = expected then compareFiles rest
      else return (← compareFiles rest).map (⟨file, .changed⟩ :: ·)
    | .error e =>
      if e.fault = .notFound then return (← compareFiles rest).map (⟨file, .missing⟩ :: ·)
      else return .error (.io e.fault)

/-- Compares the generated files with what a run would write. Artifacts are not compared, and it
does not matter whether runs are switched off. On a host that is dry nothing is changed. -/
def Settings.validate (s : Settings) (schema : Except SchemaFailure Schema) :
    Program (Except CommandError Validation) := do
  match ← { s with mode := .sourceOnly }.generate schema true with
  | .error e => return .error (.run e)
  | .ok report =>
    match ← compareFiles report.generated.entries with
    | .error e => return .error e
    | .ok drift =>
      match ← Program.ask (.list s.modelsDir generatedPattern) with
      | .error e => return .error (.store e)
      | .ok files =>
        let stale := files.filter fun file => !report.generated.contains file
        return .ok {
          checked := report.generated.entries.length
          drift := drift ++ stale.map fun file => ⟨file, .stale⟩
          diagnostics := report.diagnostics }

end ContentModels
