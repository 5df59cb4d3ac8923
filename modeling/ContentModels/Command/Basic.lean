import ContentModels.Config.Basic

/-!
# Commands

## Main definitions

* `Command` — what can be asked for.
* `Verb`, `Switch` — the words and the options that commands are given by.
* `Scope` — what options are given to.
-/

namespace ContentModels

/-- The name of the program. -/
def programName : String := "modelgen"

def programVersion : String := "0.1.0"

/-- What can be asked for. -/
inductive Command where
  /-- Generates models. With `watch`, again and again when something changes. -/
  | generate (o : Overrides) (config : Option Path) (watch dry : Bool)
  /-- Writes a configuration to start from. -/
  | init (output : Path) (force : Bool)
  /-- Compares the generated models with what would be generated. -/
  | validate (o : Overrides) (config : Option Path)
  /-- Shows how the last run ended. -/
  | status (o : Overrides) (config : Option Path) (json : Bool)
  deriving DecidableEq, Repr

/-- The words that name commands. -/
inductive Verb where
  | generate
  | init
  | validate
  | status
  | help
  deriving DecidableEq, Repr

namespace Verb

def all : List Verb := [generate, init, validate, status, help]

def name : Verb → String
  | generate => "generate"
  | init => "init"
  | validate => "validate"
  | status => "status"
  | help => "help"

def about : Verb → String
  | generate => "Generate models from the schema snapshot"
  | init => "Initialize a new modelgen configuration file"
  | validate => "Validate that generated models are up-to-date"
  | status => "Show the outcome of the last generation run"
  | help => "Print this message or the help of the given subcommand(s)"

/-- The verb of a name. -/
def ofName? (name : String) : Option Verb := all.find? fun v => v.name == name

end Verb

/-- The options of commands. -/
inductive Switch where
  | schema
  | modelsDir
  | space
  | mode
  | artifactDir
  | watch
  | dryRun
  | config
  | output
  | force
  | json
  | verbose
  | help
  | version
  deriving DecidableEq, Repr

namespace Switch

/-- The long name, which follows two dashes. -/
def long : Switch → String
  | schema => "schema"
  | modelsDir => "models-dir"
  | space => "namespace"
  | mode => "mode"
  | artifactDir => "artifact-dir"
  | watch => "watch"
  | dryRun => "dry-run"
  | config => "config"
  | output => "output"
  | force => "force"
  | json => "json"
  | verbose => "verbose"
  | help => "help"
  | version => "version"

/-- The letter that follows a single dash. -/
def short? : Switch → Option Char
  | schema => some 's'
  | modelsDir => some 'm'
  | space => some 'n'
  | watch => some 'w'
  | config => some 'c'
  | output => some 'o'
  | verbose => some 'v'
  | help => some 'h'
  | version => some 'V'
  | mode | artifactDir | dryRun | force | json => none

/-- Whether an option takes a value. -/
def takesValue : Switch → Bool
  | schema | modelsDir | space | mode | artifactDir | config | output => true
  | watch | dryRun | force | json | verbose | help | version => false

/-- Whether the value of an option is a path. -/
def takesPath : Switch → Bool
  | schema | modelsDir | artifactDir | config | output => true
  | _ => false

/-- What stands for the value of an option. -/
def valueName (s : Switch) : String :=
  String.ofList (s.long.toList.map fun c => if c = '-' then '_' else c.toUpper)

/-- An option as messages show it. -/
def text (s : Switch) : String :=
  if s.takesValue then s!"--{s.long} <{s.valueName}>" else s!"--{s.long}"

def about : Switch → String
  | schema => "JSON schema snapshot"
  | modelsDir => "Directory holding hand-authored and generated models"
  | space => "Namespace of the generated models"
  | mode => "What to produce: nothing, source-only or artifact"
  | artifactDir => "Output directory for the compiled artifact"
  | watch => "Watch for file changes and regenerate"
  | dryRun => "Preview changes without writing files"
  | config => "Configuration file path"
  | output => s!"Output path for configuration file [default: {Config.fileName}]"
  | force => "Overwrite existing configuration file"
  | json => "Print the dashboard as JSON"
  | verbose => "Enable debug logging (RUST_LOG takes precedence)"
  | help => "Print help"
  | version => "Print version"

end Switch

/-- The options of a verb's own. -/
def Verb.switches : Verb → List Switch
  | .generate => [.schema, .modelsDir, .space, .mode, .artifactDir, .watch, .dryRun, .config]
  | .init => [.output, .force]
  | .validate => [.schema, .modelsDir, .space, .config]
  | .status => [.modelsDir, .json, .config]
  | .help => []

/-- What options are given to: the program, or the command of a verb. -/
inductive Scope where
  | program
  | command (verb : Verb)
  deriving DecidableEq, Repr

namespace Scope

/-- The options that can be given. -/
def switches : Scope → List Switch
  | program => [.verbose, .help, .version]
  | command verb => verb.switches ++ [.verbose, .help]

/-- The words that lead to a scope. -/
def path : Scope → String
  | program => programName
  | command verb => s!"{programName} {verb.name}"

/-- What follows the options. -/
def tail : Scope → String
  | program => " <COMMAND>"
  | command .help => " [COMMAND]..."
  | command _ => ""

/-- How a scope is used, in general. -/
def usage (s : Scope) : String := s!"Usage: {s.path} [OPTIONS]{s.tail}"

/-- How a scope is used together with some options. -/
def usageWith (s : Scope) (given : List Switch) : String :=
  if given.isEmpty then s.usage
  else s!"Usage: {s.path} " ++ " ".intercalate (given.map Switch.text) ++ s.tail

def about : Scope → String
  | program => "Generate Rust content models from a schema snapshot"
  | command verb => verb.about

/-- Names with what they mean behind them, in two columns. -/
def columns (rows : List (String × String)) : String :=
  let width := (rows.map fun r => r.1.length).foldl max 0
  String.join (rows.map fun (name, about) =>
    "  " ++ name ++ String.ofList (List.replicate (width + 2 - name.length) ' ') ++ about ++ "\n")

/-- An option in a column. -/
def row (s : Switch) : String × String :=
  let short := match s.short? with
    | some c => s!"-{c}, "
    | none => "    "
  (short ++ s.text, s.about)

/-- What is told of a scope to those who ask. -/
def help (s : Scope) : String :=
  let commands := match s with
    | program => "\nCommands:\n" ++ columns (Verb.all.map fun (v : Verb) => (v.name, v.about))
    | command _ => ""
  s!"{s.about}\n\n{s.usage}\n{commands}\nOptions:\n" ++ columns (s.switches.map row)

end Scope

end ContentModels
