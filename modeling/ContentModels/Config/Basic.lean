import ContentModels.Command.Error
import ContentModels.Compile.Toolchain
import ContentModels.Settings

/-!
# Configurations

What a command works with: where the models, the schema and the record of the last run are, and how
the artifact is compiled.

## Main definitions

* `Config` — a configuration; its defaults are those of an empty file.
* `Config.check` — refuses values that make no sense.
* `Overrides` — values from elsewhere that take the place of configured ones.
-/

namespace ContentModels

/-- A configuration. -/
structure Config where
  /-- The directory of the models. -/
  modelsDir : Path := ⟨"./models"⟩
  /-- The namespace of the models. -/
  space : String := "models"
  mode : Mode := .sourceOnly
  /-- The directory of the artifact, unless it is the one below the models. -/
  artifactDir : Option Path := none
  /-- The program that compiles, unless it is the usual one. -/
  compiler : Option Path := none
  edition : Option String := none
  schema : Path := ⟨"./schema.json"⟩
  /-- The record of the last run, unless it is the one below the models. -/
  status : Option Path := none
  deriving DecidableEq, Repr

namespace Config

/-- The file that is read if no other one is named. -/
def fileName : String := "modelgen.toml"

/-- Where a run is recorded below the models. -/
def defaultStatus : Path := ⟨".modelgen/status.json"⟩

/-- The settings of a run. -/
def settings (c : Config) : Settings := ⟨c.modelsDir, c.space, c.mode, c.artifactDir⟩

/-- Where runs are recorded. -/
def statusFile (c : Config) : Path := c.status.getD (c.modelsDir.join defaultStatus)

/-- The compiler, where `usual` is the one that is used if none is configured. -/
def toolchain (c : Config) (usual : Toolchain) : Toolchain :=
  { usual with
    program := c.compiler.getD usual.program
    edition := c.edition.getD usual.edition }

/-- The editions that models can be compiled with. -/
def editions : List String := ["2015", "2018", "2021", "2024"]

/-- Refuses values that make no sense. -/
def check (c : Config) : Except ConfigError Unit :=
  if c.modelsDir.chars.isEmpty then .error (.value "models.dir" emptyWords)
  else if c.schema.chars.isEmpty then .error (.value "schema.path" emptyWords)
  else
    match c.edition with
    | some edition =>
      if editions.contains edition then .ok ()
      else .error (.value "artifact.edition" s!"unknown edition '{edition}'")
    | none => .ok ()
where
  emptyWords : String := "must not be empty"

end Config

/-- Values that take the place of configured ones. -/
structure Overrides where
  modelsDir : Option Path := none
  space : Option String := none
  mode : Option Mode := none
  schema : Option Path := none
  artifactDir : Option Path := none
  deriving DecidableEq, Repr

/-- The configuration with other values in the place of its own. -/
def Config.override (c : Config) (o : Overrides) : Config :=
  { c with
    modelsDir := o.modelsDir.getD c.modelsDir
    space := o.space.getD c.space
    mode := o.mode.getD c.mode
    schema := o.schema.getD c.schema
    artifactDir := o.artifactDir <|> c.artifactDir }

/-- The override of a value is the value itself if nothing takes its place. -/
@[simp] theorem Config.override_empty (c : Config) : c.override {} = c := rfl

end ContentModels
