import ContentModels.Compile.Toolchain
import ContentModels.FileTree.Access
import ContentModels.Glob.Search
import ContentModels.Run.Program
import ContentModels.Sorted.Set

/-!
# Runs on a tree of files

A disk is a tree of files with the directories that this process has taken. It answers the calls of
a run. A disk that is dry reads, but writes and deletes nothing.

A directory is taken twice: among those of this process, by its path without detours, and for other
processes by a file in it. A directory that is not there cannot hold that file, and is known by the
path that it is asked for.

## Main definitions

* `Disk` — the tree, the directories that are taken, and the calls of the compiler.
* `Disk.lock`, `Disk.removeLockFile`, `Disk.release`, `Disk.isLocked` — taking directories.
* `Disk.host` — answers the calls of a run.
-/

namespace ContentModels

/-- A tree of files, and what this process has to do with it. -/
structure Disk where
  tree : FileTree := {}
  /-- What stands for the directories that are taken. -/
  held : SortedSet Path := ∅
  /-- How the compiler was called, in order. -/
  invocations : List Invocation := []
  deriving DecidableEq

namespace Disk

/-! ## Taking directories -/

/-- The name of the file that tells other processes that a directory is taken. -/
def lockFileName : String := ".modelgen.lock"

/-- What stands for a directory among those that are taken. -/
def lockKey (d : Disk) (dir : Path) : Path := (d.tree.canonical? dir).getD dir

/-- Adds a directory to those that are taken. -/
def hold (d : Disk) (key : Path) : Disk := { d with held := SortedSet.add d.held key }

/-- Takes a directory, unless it is taken. -/
def lock (d : Disk) (dir : Path) : Except RunError Guard × Disk :=
  let key := d.lockKey dir
  if d.held.contains key then (.error (.inProgress dir), d)
  else if d.tree.isDir dir then
    let file := dir.file lockFileName
    match d.tree.createNew file "" with
    | .ok tree => (.ok ⟨key, some file⟩, { d with tree := tree }.hold key)
    | .error .alreadyExists => (.error (.inProgress file), d)
    | .error e => (.error (.clean (.write file e)), d)
  else (.ok ⟨key, none⟩, d.hold key)

/-- Removes the file that tells other processes that a directory is taken. -/
def removeLockFile (d : Disk) (guard : Guard) : Disk :=
  match guard.file with
  | none => d
  | some file =>
    match d.tree.delete file with
    | .ok tree => { d with tree := tree }
    | .error _ => d

/-- Gives a directory back to this process. -/
def release (d : Disk) (guard : Guard) : Disk := { d with held := d.held.erase guard.key }

/-- Gives a directory back. -/
def unlock (d : Disk) (guard : Guard) : Disk := (d.removeLockFile guard).release guard

/-- Whether a directory is taken, here or by another process. -/
def isLocked (d : Disk) (dir : Path) : Bool :=
  d.held.contains (d.lockKey dir) || d.tree.exists? (dir.file lockFileName)

/-! ## Files -/

/-- Creates a directory, and those that it lies in. -/
def createDir (d : Disk) (dir : Path) : Except StoreError Unit × Disk :=
  let (result, tree) := d.tree.createDirs dir
  (result.mapError (.createDir dir), { d with tree := tree })

/-- Creates what a file lies in, unless it is there. -/
def createParent (d : Disk) (file : Path) : Except StoreError Unit × Disk :=
  match file.parent? with
  | some dir => if dir.chars.isEmpty || d.tree.exists? dir then (.ok (), d) else d.createDir dir
  | none => (.ok (), d)

/-- Writes a text, and creates the directories that it takes. -/
def write (d : Disk) (file : Path) (text : String) : Except StoreError Written × Disk :=
  match d.createParent file with
  | (.error e, d) => (.error e, d)
  | (.ok (), d) =>
    match d.tree.write file text with
    | .ok tree => (.ok (.file file text.utf8ByteSize), { d with tree := tree })
    | .error e => (.error (.write file e), d)

/-- Deletes a file, and answers whether it was there. -/
def delete (d : Disk) (file : Path) : Except StoreError Bool × Disk :=
  match d.tree.delete file with
  | .ok tree => (.ok true, { d with tree := tree })
  | .error .notFound => (.ok false, d)
  | .error e => (.error (.delete file e), d)

/-- Has an artifact compiled. -/
def compile (d : Disk) (tools : Toolchain) (request : CompileRequest) :
    Except CompileError Artifact × Disk :=
  let (result, tree, call) := tools.compile d.tree request
  (result, { d with tree := tree, invocations := d.invocations ++ call.toList })

/-- Answers the calls of a run. -/
def host (dry : Bool) (tools : Toolchain) : Host Disk where
  answer
    | .createDir dir, d => if dry then (.ok (), d) else d.createDir dir
    | .list dir pattern, d => (Glob.list d.tree dir pattern, d)
    | .read file, d => ((d.tree.read file).mapError (.read file), d)
    | .write file text, d => if dry then (.ok (.preview file text), d) else d.write file text
    | .delete file, d => if dry then (.ok false, d) else d.delete file
    | .lock dir, d => d.lock dir
    | .removeLockFile guard, d => ((), d.removeLockFile guard)
    | .release guard, d => ((), d.release guard)
    | .compile request, d => d.compile tools request

end Disk

end ContentModels
