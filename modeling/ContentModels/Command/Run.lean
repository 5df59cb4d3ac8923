import ContentModels.Command.Arguments
import ContentModels.Command.Printing
import ContentModels.Config.Stored
import ContentModels.Disk.Basic
import ContentModels.Schema.Json
import ContentModels.Status.Stored

/-!
# Carrying out commands

A command works on a disk and prints lines. What it printed before it failed stays printed, and what
it changed stays changed.

## Main definitions

* `Action` — a step of a command.
* `Command.action` — what a command does.
* `Command.run`, `respond` — what a command, or a list of arguments, comes to.
-/

namespace ContentModels

/-- What a command works on: the disk, and the lines that were printed as output and as errors. -/
structure Desk where
  disk : Disk
  printed : List String := []
  complaints : List String := []

/-- A step of a command. -/
abbrev Action := ExceptT CommandError (StateM Desk)

namespace Action

/-- Prints lines. -/
def print (lines : List String) : Action Unit :=
  modify fun d => { d with printed := d.printed ++ lines }

/-- The files as they are. -/
def tree : Action FileTree := return (← get).disk.tree

def setTree (t : FileTree) : Action Unit :=
  modify fun d => { d with disk := { d.disk with tree := t } }

/-- Goes on with a result, or fails with its error. -/
def orFail {ε α : Type} (error : ε → CommandError) : Except ε α → Action α
  | .ok value => return value
  | .error e => throw (error e)

/-- Performs a program on the disk. -/
def perform {α : Type} (p : Program α) (dry : Bool) (tools : Toolchain) : Action α := do
  let desk ← get
  let e := p.execute (Disk.host dry tools) desk.disk
  set { desk with disk := e.state }
  return e.result

/-- Loads a configuration, and puts other values in the place of its own. -/
def loadConfig (o : Overrides) (file : Option Path) : Action Config := do
  let config ← orFail .config (Config.load (← tree) (file.getD ⟨Config.fileName⟩))
  let config := config.override o
  orFail .config config.check
  return config

/-- Generates models once. A dry run is not recorded. -/
def generate (tools : Toolchain) (c : Config) (dry : Bool) : Action Unit := do
  print [s!"Generating models in {c.modelsDir} ({c.mode.name} mode)"]
  let schema := Schema.load (← tree) c.schema
  let result ← perform (c.settings.generate schema dry) dry (c.toolchain tools)
  if !dry then setTree (Status.update (← tree) c.statusFile (·.afterRun result))
  print (← orFail .run result).lines

/-- What is said about an error. -/
def complaint (e : CommandError) : String := s!"Error: {e.message}"

/-- Generates models, and waits for changes to do so again. There is nothing here that tells of
changes, so that the waiting fails. -/
def watch (tools : Toolchain) (c : Config) (dry : Bool) : Action Unit := do
  print ["Starting watch mode...", s!"  Watching: {c.modelsDir}", s!"  Watching: {c.schema}",
    "  Press Ctrl+C to stop\n"]
  try generate tools c dry
  catch e => modify fun d => { d with complaints := d.complaints ++ [complaint e] }
  throw (.watch (.init "changes of files are not reported"))

/-- Writes a configuration to start from. -/
def init (output : Path) (force : Bool) : Action Unit := do
  let t ← tree
  if t.exists? output && !force then
    print [s!"Error: {existsWords}: {output}", "  Use --force to overwrite"]
    throw (.validation existsWords)
  setTree (← orFail .io (t.write output Config.template))
  print [s!"{doneMark} Created configuration file: {output}"]
where
  existsWords : String := "Configuration file already exists"

/-- Compares the generated models with what would be generated; if they differ, this is recorded. -/
def validate (tools : Toolchain) (o : Overrides) (file : Option Path) : Action Unit := do
  print ["Validating models..."]
  let config ← loadConfig o file
  let schema := Schema.load (← tree) config.schema
  let v ← orFail id (← perform (config.settings.validate schema) true (config.toolchain tools))
  print v.lines
  if !v.isUpToDate then
    setTree (Status.update (← tree) config.statusFile .mark)
    throw (.validation s!"{v.drift.length} generated file(s) out of date")

/-- Shows how the last run ended. -/
def status (o : Overrides) (file : Option Path) (json : Bool) : Action Unit := do
  let config ← loadConfig o file
  let recorded ← orFail .io (Status.load (← tree) config.statusFile)
  let dashboard := recorded.dashboard config.mode
  print (if json then [dashboard.document.pretty] else dashboard.lines)

end Action

/-- What a command does, with the compiler that is used unless another one is configured. -/
def Command.action (tools : Toolchain) : Command → Action Unit
  | .generate o file watch dry => do
    let config ← Action.loadConfig o file
    if watch then Action.watch tools config dry else Action.generate tools config dry
  | .init output force => Action.init output force
  | .validate o file => Action.validate tools o file
  | .status o file json => Action.status o file json

/-- What the program leaves behind for those who called it. -/
structure Output where
  exitCode : Nat := 0
  /-- What is printed as output. -/
  out : String := ""
  /-- What is printed about errors. -/
  err : String := ""
  deriving DecidableEq, Repr

/-- Lines with their line breaks. -/
def unlines (lines : List String) : String := String.join (lines.map (· ++ "\n"))

/-- Carries out a command. -/
def Command.run (tools : Toolchain) (c : Command) (d : Disk) : Output × Disk :=
  let (result, desk) := ((c.action tools).run.run ⟨d, [], []⟩ : Except CommandError Unit × Desk)
  let out := unlines desk.printed
  match result with
  | .ok () => (⟨0, out, unlines desk.complaints⟩, desk.disk)
  | .error e =>
    (⟨e.exitCode, out, unlines (desk.complaints ++ [Action.complaint e])⟩, desk.disk)

/-- What is answered to arguments that ask for no command. -/
def Halt.output : Halt → Output
  | .refused e => ⟨2, "", e.message⟩
  | .version => ⟨0, s!"{programName} {programVersion}\n", ""⟩
  | .help s => ⟨0, s.help, ""⟩
  | .nothing => ⟨2, "", Scope.program.help⟩

/-- Carries out what arguments ask for. -/
def respond (tools : Toolchain) (arguments : List String) (d : Disk) : Output × Disk :=
  match Request.ofArguments arguments with
  | .ok request => request.command.run tools d
  | .error halt => (halt.output, d)

end ContentModels
