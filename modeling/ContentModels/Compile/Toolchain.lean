import ContentModels.Compile.Message
import ContentModels.Compile.Basic
import ContentModels.FileTree.Access
import ContentModels.Naming
import ContentModels.Rendering.Index

/-!
# Compiling artifacts

The files are put next to each other into a directory of their own, in which the compiler is called.
Only an artifact that is finished is moved to where it belongs, so that a compilation that fails
leaves the artifact there as it is.

## Main definitions

* `Invocation` — how the compiler is called.
* `ExitStatus`, `Outcome` — how it ends, and what it leaves.
* `Toolchain` — which compiler is called, and what calls of it come to.
* `Toolchain.compile` — compiles an artifact.
-/

namespace ContentModels

/-- A call of the compiler. -/
structure Invocation where
  program : Path
  arguments : List String
  /-- The files of the directory in which it is called, by their names. -/
  staged : SortedMap String String
  deriving DecidableEq

/-- How a program ends. -/
inductive ExitStatus where
  | code (n : Nat)
  /-- The program was ended from outside. -/
  | signal (n : Nat)
  deriving DecidableEq, Repr

namespace ExitStatus

/-- The names of signals. -/
def signalNames : List String := [
  "HUP", "INT", "QUIT", "ILL", "TRAP", "ABRT", "BUS", "FPE", "KILL", "USR1", "SEGV", "USR2", "PIPE",
  "ALRM", "TERM", "STKFLT", "CHLD", "CONT", "STOP", "TSTP", "TTIN", "TTOU", "URG", "XCPU", "XFSZ",
  "VTALRM", "PROF", "WINCH", "IO", "PWR", "SYS"]

def text : ExitStatus → String
  | code n => s!"exit status: {n}"
  | signal n =>
    match signalNames[n - 1]? with
    | some name => s!"signal: {n} (SIG{name})"
    | none => s!"signal: {n}"

end ExitStatus

/-- What a call of the compiler comes to. -/
structure Outcome where
  /-- What was written about the files. -/
  output : String := ""
  /-- The artifact, if one was made. -/
  artifact : Option Content := none
  status : ExitStatus := .code 0

/-- Which compiler is called, and what calls of it come to. -/
structure Toolchain where
  program : Path := ⟨"rustc"⟩
  /-- The edition of the language. -/
  edition : String := "2021"
  /-- What a call comes to, or why there is no such program. -/
  call : Invocation → Except IoFault Outcome
  /-- The name of the directory that files are staged in. -/
  stagingName : String := ".modelgen-staging"

namespace Toolchain

/-- The name of an unfinished artifact. -/
def unfinishedName : String := "out.rlib"

/-- Puts files next to each other. Two files of one name cannot be. -/
def stage (files : List (Path × String)) (staged : List (String × Path)) :
    Except CompileError (List (String × Path)) :=
  match files with
  | [] => .ok staged
  | (file, _) :: rest =>
    match file.fileName? with
    | none => .error (.environment file "not a file path")
    | some name =>
      match staged.lookup name with
      | some other => .error (.environment file s!"file name clashes with {other}")
      | none => stage rest ((name, file) :: staged)

/-- The directory that an artifact goes to. -/
def outputDir (output : Path) : Path :=
  match output.parent? with
  | some dir => if dir.chars.isEmpty then ⟨"."⟩ else dir
  | none => ⟨"."⟩

/-- The call that compiles a request in a directory. -/
def invocation (tools : Toolchain) (request : CompileRequest) (staging : Path) : Invocation where
  program := tools.program
  arguments := [
    "--crate-type", "rlib", "--crate-name", Naming.crateName request.space, "--edition",
    tools.edition, "--error-format=json", "-o", (staging.file unfinishedName).text,
    (staging.file Rendering.indexFileName).text]
  staged := .ofList <| request.files.entries.filterMap fun e =>
    e.1.fileName?.map fun name => (name, e.2)

/-- The errors of a compilation that failed. -/
def failure (findings : Findings) (status : ExitStatus) : CompileError :=
  .failed <|
    if findings.errors.isEmpty then [{ message := s!"compiler exited with {status.text}" }]
    else findings.errors

/-- What is left to be done after the compiler was called. -/
def conclude (t : FileTree) (request : CompileRequest) (originals : List (String × Path))
    (call : Invocation) (outcome : Outcome) : Except CompileError Artifact × FileTree :=
  let findings := Findings.ofOutput outcome.output originals
  if outcome.status = .code 0 then
    let unfinished := outcome.artifact.or ((call.staged.get? unfinishedName).map .text)
    match t.moveTo request.output unfinished with
    | .ok t => (.ok ⟨request.output, findings.warnings⟩, t)
    | .error e => (.error (.environment request.output e.message), t)
  else (.error (failure findings outcome.status), t)

/-- Compiles an artifact; answers also how the compiler was called, if it could be called. -/
def compile (tools : Toolchain) (t : FileTree) (request : CompileRequest) :
    Except CompileError Artifact × FileTree × Option Invocation :=
  let dir := outputDir request.output
  match t.createDirs dir with
  | (.error e, t) => (.error (.environment dir e.message), t, none)
  | (.ok (), t) =>
    if !request.files.keys.any fun file => file.fileName? == some Rendering.indexFileName then
      let reason := s!"file set has no {Rendering.indexFileName}"
      (.error (.environment request.output reason), t, none)
    else
      match stage request.files.entries [] with
      | .error e => (.error e, t, none)
      | .ok originals =>
        let call := tools.invocation request ((t.absolute dir).file tools.stagingName)
        match tools.call call with
        | .error e =>
          let reason := s!"failed to run compiler: {e.message}"
          (.error (.environment tools.program reason), t, none)
        | .ok outcome =>
          let (result, t) := conclude t request originals call outcome
          (result, t, some call)

end Toolchain

end ContentModels
