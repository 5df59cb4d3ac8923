import ContentModels.Config.Basic
import ContentModels.FileTree.Access
import ContentModels.Toml.Typed

/-!
# Configurations as files

## Main definitions

* `Config.parse` — reads a configuration.
* `Config.load` — reads the configuration of a file, which need not be there.
* `Config.template` — a file with the defaults, to start from.
-/

namespace ContentModels

namespace Config

open Toml (Located Value Field Record)

/-- A field that holds a text. -/
def textField (name : String) (put : Config → String → Config) : Toml.Field Config :=
  ⟨name, fun c v => put c <$> Toml.text v⟩

/-- A field that holds a path. -/
def pathField (name : String) (put : Config → Path → Config) : Toml.Field Config :=
  ⟨name, fun c v => (fun s => put c ⟨s⟩) <$> Toml.text v "path string"⟩

/-- The modes by their names. -/
def modes : List (String × Mode) := [Mode.nothing, .sourceOnly, .artifact].map fun m => (m.name, m)

/-- What is said of the models. -/
def modelsRecord : Record Config := ⟨"ModelsConfig", [
  pathField "dir" fun c p => { c with modelsDir := p },
  textField "namespace" fun c s => { c with space := s },
  ⟨"mode", fun c v => (fun m => { c with mode := m }) <$> Toml.choice modes v⟩]⟩

/-- What is said of the artifact. -/
def artifactRecord : Record Config := ⟨"ArtifactConfig", [
  pathField "dir" fun c p => { c with artifactDir := some p },
  pathField "rustc" fun c p => { c with compiler := some p },
  textField "edition" fun c s => { c with edition := some s }]⟩

/-- What is said of the schema. -/
def schemaRecord : Record Config := ⟨"SchemaConfig", [
  pathField "path" fun c p => { c with schema := p }]⟩

/-- What is said of the record of the last run. -/
def statusRecord : Record Config := ⟨"StatusConfig", [
  pathField "file" fun c p => { c with status := some p }]⟩

/-- A whole configuration. -/
def record : Record Config := ⟨"Config", [
  ⟨"models", modelsRecord.read⟩,
  ⟨"artifact", artifactRecord.read⟩,
  ⟨"schema", schemaRecord.read⟩,
  ⟨"status", statusRecord.read⟩]⟩

/-- Reads a configuration. What it does not say has its default. -/
def parse (document : String) : Except Toml.Error Config := do
  record.readEntries {} (← Toml.read document).entries

/-- Reads the configuration of a file. A file that is not there says nothing. -/
def load (t : FileTree) (file : Path) : Except ConfigError Config := do
  if !t.exists? file then return {}
  let document ← (t.read file).mapError (.unreadable file)
  let config ← (parse document).mapError fun e => .invalid file (e.message document)
  config.check
  return config

/-- A file with the defaults, and comments that tell what they are. -/
def template : String := "# modelgen configuration file

[models]
# Directory holding hand-authored models; generated files are written next to them
dir = \"./models\"

# Namespace of the generated models (also the artifact crate name)
namespace = \"models\"

# What a run produces: \"nothing\", \"source-only\" or \"artifact\"
mode = \"source-only\"

[artifact]
# Output directory for the compiled artifact (defaults to <models.dir>/.modelgen)
# dir = \"./target/models\"

# Compiler binary (defaults to $RUSTC, then rustc)
# rustc = \"rustc\"

# edition = \"2021\"

[schema]
# JSON snapshot of the content types
path = \"./schema.json\"

[status]
# Where the outcome of the last run is recorded (defaults to <models.dir>/.modelgen/status.json)
# file = \"./models/.modelgen/status.json\"
"

end Config

end ContentModels
