import ContentModels.FileTree.Walk
import ContentModels.Settings

/-!
# Which changes of files matter

While files are watched, a change matters if it is one of the schema, or of a hand-authored file of
the models.

## Main definitions

* `Watcher` — what is watched.
* `WatchEvent` — a change that matters.
* `Watcher.classify` — what a change of a file means.
-/

namespace ContentModels

/-- What is watched, by absolute paths. -/
structure Watcher where
  modelsDir : Path
  schema : Path
  deriving DecidableEq, Repr

/-- A change that matters. -/
inductive WatchEvent where
  | schemaChanged (path : Path)
  /-- A hand-authored file was written. -/
  | sourceChanged (path : Path)
  /-- A hand-authored file was deleted. -/
  | sourceDeleted (path : Path)
  | error (reason : String)
  deriving DecidableEq, Repr

namespace WatchEvent

/-- The file that changed. -/
def path? : WatchEvent → Option Path
  | .schemaChanged path => some path
  | .sourceChanged path => some path
  | .sourceDeleted path => some path
  | .error _ => none

def isError : WatchEvent → Bool
  | .error _ => true
  | _ => false

def reason? : WatchEvent → Option String
  | .error reason => some reason
  | _ => none

end WatchEvent

namespace Watcher

/-- The absolute path of a file without detours. A file that is not there is looked for in its
directory; if that is not there either, its path stays as it is. -/
def locate (t : FileTree) (p : Path) : Path :=
  let inParent : Option Path := do
    let dir ← p.parent?
    let name ← p.fileName?
    let dir ← t.canonical? (if dir.chars.isEmpty then ⟨"."⟩ else dir)
    return dir.file name
  ((t.canonical? p).or inParent).getD (t.here.path.join p)

/-- Watches the models of a directory, and a schema. -/
def ofPaths (t : FileTree) (modelsDir schema : Path) : Watcher :=
  ⟨locate t modelsDir, locate t schema⟩

/-- Whether a path is that of a hand-authored file of the models. -/
def isSource (w : Watcher) (p : Path) : Bool :=
  (p.parent?.any fun dir => dir.same w.modelsDir) && p.extension? == some "rs" && !p.isGenerated

/-- What a change of a file means, if anything. -/
def classify (w : Watcher) (t : FileTree) (p : Path) : Option WatchEvent :=
  let p := locate t p
  if p.same w.schema then some (.schemaChanged p)
  else if !w.isSource p then none
  else if t.exists? p then some (.sourceChanged p)
  else some (.sourceDeleted p)

end Watcher

end ContentModels
