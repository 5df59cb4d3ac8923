import ContentModels.HandFile.Contribution
import ContentModels.Run.Program
import ContentModels.Sorted.Set

/-!
# Files in memory

A store that holds nothing but files. Every kind of call can be made to fail, and a store that is
dry changes nothing.

## Main definitions

* `MemoryStore` — the files, and the directories that are taken.
* `MemoryStore.list` — the files of a directory that match a pattern.
* `MemoryStore.host` — answers the calls of a run.
-/

namespace ContentModels

/-- Which calls fail, and why. -/
structure Faults where
  createDir : Option String := none
  /-- The reason why listing fails, by the pattern. -/
  list : String → Option String := fun _ => none
  read : Path → Option String := fun _ => none
  write : Path → Option String := fun _ => none
  delete : Path → Option String := fun _ => none

/-- Files in memory. -/
structure MemoryStore where
  files : SortedMap Path String := ∅
  /-- The directories that are taken. -/
  held : SortedSet Path := ∅
  deriving DecidableEq

namespace MemoryStore

/-- The store of a list of files. -/
def ofFiles (files : List SourceFile) : MemoryStore where
  files := .ofList (files.map fun file => (file.path, file.content))

/-- Whether a file lies in a directory itself and not deeper. -/
def isChild (dir file : Path) : Bool := file.parent?.any fun parent => parent.same dir

/-- The ending that a pattern asks for. -/
def ending (pattern : String) : List Char := pattern.toList.dropWhile (· == '*')

/-- The files of a directory that match a pattern, in order. -/
def list (s : MemoryStore) (dir : Path) (pattern : String) : List Path :=
  s.files.keys.filter fun file => isChild dir file && (ending pattern).isSuffixOf file.chars

/-- Writes a text. -/
def write (s : MemoryStore) (file : Path) (text : String) : MemoryStore :=
  { s with files := s.files.insert file text }

/-- Removes a file. -/
def delete (s : MemoryStore) (file : Path) : MemoryStore :=
  { s with files := s.files.erase file }

/-- Takes a directory unless it is taken. -/
def lock (s : MemoryStore) (dir : Path) : Except RunError Guard × MemoryStore :=
  if s.held.contains dir then (.error (.inProgress dir), s)
  else (.ok ⟨dir, none⟩, { s with held := SortedSet.add s.held dir })

/-- Gives a directory back. -/
def release (s : MemoryStore) (guard : Guard) : MemoryStore :=
  { s with held := s.held.erase guard.key }

variable (dry : Bool) (faults : Faults)
  (compiler : CompileRequest → Except CompileError Artifact)

/-- The answer to a call that does not fail, and the store after it. -/
def perform (s : MemoryStore) : (c : Call) → c.Answer × MemoryStore
  | .createDir _ => (.ok (), s)
  | .list dir pattern => (.ok (s.list dir pattern), s)
  | .read file =>
    (match s.files.get? file with
      | some text => .ok text
      | none => .error (.read file .notFound), s)
  | .write file text =>
    if dry then (.ok (.preview file text), s)
    else (.ok (.file file text.utf8ByteSize), s.write file text)
  | .delete file =>
    if dry then (.ok false, s) else (.ok (s.files.contains file), s.delete file)
  | .lock dir => s.lock dir
  | .removeLockFile _ => ((), s)
  | .release guard => ((), s.release guard)
  | .compile request => (compiler request, s)

/-- The answer to a call that is made to fail. -/
def refuse : (c : Call) → Option c.Answer
  | .createDir dir => faults.createDir.map fun reason => .error (.createDir dir (.other reason))
  | .list _ pattern => (faults.list pattern).map fun reason => .error (.list pattern reason)
  | .read file => (faults.read file).map fun reason => .error (.read file (.other reason))
  | .write file _ => (faults.write file).map fun reason => .error (.write file (.other reason))
  | .delete file => (faults.delete file).map fun reason => .error (.delete file (.other reason))
  | _ => none

/-- Answers the calls of a run. -/
def host : Host MemoryStore where
  answer c s :=
    match refuse faults c with
    | some answer => (answer, s)
    | none => s.perform dry compiler c

end MemoryStore

end ContentModels
