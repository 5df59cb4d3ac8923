import ContentModels.HandFile.HandCode
import ContentModels.Plan.Planning
import ContentModels.Rendering.Model
import ContentModels.Run.Program
import ContentModels.Settings

/-!
# The run that generates models

A run takes the directory of the models, removes what earlier runs generated there, reads the
hand-authored files, and writes the models that are planned for the schema. It may have an artifact
compiled from all of them. Whatever happens, it gives the directory back at its end.

## Main definitions

* `scan` — reads the hand-authored files.
* `Settings.generatedFiles` — the texts of the generated files.
* `Settings.generate` — the run.
-/

namespace ContentModels

/-- A program that may fail. -/
abbrev Attempt := ExceptT RunError Program

/-- Makes a call; a failure is told with the part of the run in which it happens. -/
def attempt {ε α : Type} (during : ε → RunError) (p : Program (Except ε α)) : Attempt α :=
  ExceptT.mk do
    match ← p with
    | .ok a => return .ok a
    | .error e => return .error (during e)

/-- Which files hold source text. -/
def sourcePattern : String := "*.rs"

/-- Which files are generated. -/
def generatedPattern : String := "*.generated.rs"

/-- Reads those of some files that are not generated. -/
def readSources : List Path → Program (Except StoreError (List SourceFile))
  | [] => return .ok []
  | file :: rest => do
    if file.isGenerated then readSources rest
    else
      match ← Program.ask (.read file) with
      | .error e => return .error e
      | .ok text => return (← readSources rest).map (⟨file, text⟩ :: ·)

/-- Reads the hand-authored files of a directory. -/
def scan (dir : Path) : Program (Except StoreError (List SourceFile)) := do
  match ← Program.ask (.list dir sourcePattern) with
  | .error e => return .error e
  | .ok files => readSources files

/-- Deletes files, and answers which of them were there. -/
def deleteAll : List Path → Program (Except StoreError (List Path))
  | [] => return .ok []
  | file :: rest => do
    match ← Program.ask (.delete file) with
    | .error e => return .error e
    | .ok gone =>
      return (← deleteAll rest).map fun deleted => if gone then file :: deleted else deleted

/-- Writes texts to their files. -/
def writeAll : List (Path × String) → Program (Except StoreError (List Written))
  | [] => return .ok []
  | (file, text) :: rest => do
    match ← Program.ask (.write file text) with
    | .error e => return .error e
    | .ok written => return (← writeAll rest).map (written :: ·)

/-- The files with their texts. -/
def fileMap (files : List SourceFile) : SortedMap Path String :=
  .ofList (files.map fun file => (file.path, file.content))

namespace Settings

/-- The texts of the generated files: one for each model, and the index. -/
def generatedFiles (s : Settings) (plans : List Plan) (handFiles : List Path) :
    SortedMap Path String :=
  (SortedMap.ofList (plans.map fun p => (s.modelPath p.className, p.render s.space))).insert
    s.indexPath (renderIndex s.space plans handFiles)

/-- Removes what earlier runs generated. -/
def clean (s : Settings) : Program (Except StoreError (List Path)) := do
  match ← Program.ask (.list s.modelsDir generatedPattern) with
  | .error e => return .error e
  | .ok files => deleteAll files

/-- What is compiled: all hand-authored files, and all generated ones. -/
def compileRequest (s : Settings) (sources : List SourceFile) (generated : SortedMap Path String) :
    CompileRequest where
  space := s.space
  files := generated.entries.foldl (fun m e => m.insert e.1 e.2) (fileMap sources)
  output := s.artifactPath

/-- Has the artifact compiled if one is asked for. A run that writes nothing compiles nothing. -/
def compile (s : Settings) (dry : Bool) (request : CompileRequest) : Attempt (Option Artifact) := do
  if s.mode.needsArtifact && !dry then
    return some (← attempt .compilation (Program.ask (.compile request)))
  else
    return none

/-- The part of a run during which it has the directory. -/
def generateLocked (s : Settings) (schema : Schema) (dry : Bool) : Attempt Report := do
  let deleted ← attempt .clean s.clean
  let sources ← attempt .scan (scan s.modelsDir)
  let (code, errors) := HandCode.ofFiles sources
  let planned := schema.plan code
  let generated := s.generatedFiles planned.plans (sources.map (·.path))
  let written ← attempt .emit (writeAll generated.entries)
  let artifact ← s.compile dry (s.compileRequest sources generated)
  return {
    deleted := deleted
    written := written
    generated := generated
    plans := planned.plans
    skippedTypes := planned.skippedTypes
    diagnostics := errors.map .ofHandFile ++ planned.diagnostics
    artifact := artifact }

/-- Performs the part of a run during which it has the directory, and gives it back. -/
def generateGuarded (s : Settings) (schema : Schema) (dry : Bool) (guard : Guard) :
    Program (Except RunError Report) := do
  let result ← (s.generateLocked schema dry).run
  Program.ask (.removeLockFile guard)
  Program.ask (.release guard)
  return result

/-- Generates the models of a schema. A run that is dry does not have an artifact compiled. -/
def generate (s : Settings) (schema : Except SchemaFailure Schema) (dry : Bool) :
    Program (Except RunError Report) := do
  if !s.mode.isEnabled then return .error .disabled
  match schema with
  | .error e => return .error (.schema e)
  | .ok schema =>
    match ← Program.ask (.createDir s.modelsDir) with
    | .error e => return .error (.clean e)
    | .ok () =>
      match ← Program.ask (.lock s.modelsDir) with
      | .error e => return .error e
      | .ok guard => s.generateGuarded schema dry guard

end Settings

end ContentModels
