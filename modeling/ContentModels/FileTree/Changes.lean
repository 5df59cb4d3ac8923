import ContentModels.FileTree.Basic

/-!
# What has changed in a tree

Two trees of the same places compared: what has to be done to the files of the first one so that
they are those of the second one. A directory comes before what lies in it.

## Main definitions

* `FileTree.Change` — something that has to be done.
* `FileTree.changes` — all that has to be done.
-/

namespace ContentModels

namespace FileTree

/-- Something that has to be done to the files of a tree. -/
inductive Change where
  | remove (place : Location)
  | makeDir (place : Location)
  | write (place : Location) (content : Content)
  deriving DecidableEq, Repr

/-- What puts something at a place. -/
def Change.put (place : Location) : Node → Change
  | .dir => .makeDir place
  | .file content => .write place content

/-- What has to be done to a tree so that it becomes another one. -/
def changes (before after : FileTree) : List Change :=
  (before.nodes.keys.filter fun l => (after.nodes.get? l).isNone).map .remove ++
    after.nodes.entries.filterMap fun (l, n) =>
      if before.nodes.get? l = some n then none else some (.put l n)

/-- Does something to a tree. -/
def Change.apply (t : FileTree) : Change → FileTree
  | .remove place => t.erase place
  | .makeDir place => t.put place .dir
  | .write place content => t.put place (.file content)

@[simp] theorem Change.apply_put (t : FileTree) (l : Location) (n : Node) :
    (Change.put l n).apply t = t.put l n := by
  cases n <;> rfl

end FileTree

end ContentModels
