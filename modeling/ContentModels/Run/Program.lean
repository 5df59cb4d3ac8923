import ContentModels.Compile.Basic
import ContentModels.Run.Error
import ContentModels.Run.Report

/-!
# Runs as programs of calls

A run does not touch files itself. It is a program that calls for one thing after the other, and
goes on with the answers. What the calls do is up to a host, so that one and the same run can be
performed on files in memory, on a tree of directories, or step by step between the steps of other
runs.

## Main definitions

* `Call` — what can be called for, with the type of its answers.
* `Program` — a program of calls.
* `Host` — what answers calls, and how its state changes.
* `Program.execute` — performs a program on a host.
-/

namespace ContentModels

/-- A directory that is taken. -/
structure Guard where
  /-- What stands for the directory among those that are taken. -/
  key : Path
  /-- The file that tells other processes, if there is one. -/
  file : Option Path
  deriving DecidableEq, Repr

/-- What a program calls for. -/
inductive Call where
  /-- Create a directory, and those that it lies in. -/
  | createDir (dir : Path)
  /-- List the files of a directory that match a pattern. -/
  | list (dir : Path) (pattern : String)
  | read (file : Path)
  | write (file : Path) (text : String)
  /-- Delete a file, and answer whether it was there. -/
  | delete (file : Path)
  /-- Take a directory, so that no other run has it. -/
  | lock (dir : Path)
  /-- Remove the file of a directory that is taken. -/
  | removeLockFile (guard : Guard)
  /-- Give a directory back. -/
  | release (guard : Guard)
  | compile (request : CompileRequest)

/-- What a call is answered with. -/
abbrev Call.Answer : Call → Type
  | .createDir _ => Except StoreError Unit
  | .list .. => Except StoreError (List Path)
  | .read _ => Except StoreError String
  | .write .. => Except StoreError Written
  | .delete _ => Except StoreError Bool
  | .lock _ => Except RunError Guard
  | .removeLockFile _ => Unit
  | .release _ => Unit
  | .compile _ => Except CompileError Artifact

/-- A program of calls that ends with a result. -/
inductive Program (α : Type) : Type where
  | done (result : α)
  /-- A call, and how the program goes on with each answer. -/
  | call (c : Call) (next : c.Answer → Program α)

namespace Program

variable {α β σ : Type}

/-- A program followed by another one that is chosen by its result. -/
def bind (p : Program α) (f : α → Program β) : Program β :=
  match p with
  | done result => f result
  | call c next => call c fun answer => (next answer).bind f

instance : Monad Program where
  pure := done
  bind := bind

/-- The program of one call. -/
def ask (c : Call) : Program c.Answer := call c done

end Program

/-- What answers calls. -/
structure Host (σ : Type) where
  /-- The answer to a call, and the state after it. -/
  answer (c : Call) (state : σ) : c.Answer × σ

/-- A program that was performed. -/
structure Execution (σ α : Type) where
  result : α
  /-- The state at the end. -/
  state : σ
  /-- The calls that were made, in order. -/
  calls : List Call

/-- Performs a program on a host. -/
def Program.execute {α σ : Type} (host : Host σ) : Program α → σ → Execution σ α
  | .done result, state => ⟨result, state, []⟩
  | .call c next, state =>
    let (answer, state) := host.answer c state
    let rest := (next answer).execute host state
    { rest with calls := c :: rest.calls }

end ContentModels
