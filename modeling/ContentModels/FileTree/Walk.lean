import ContentModels.FileTree.Basic

/-!
# Where paths lead

A path is walked piece by piece. Every piece but the last one has to lead to a directory, two dots
lead up, and what follows a separator asks for a directory even if it is empty.

## Main definitions

* `Finding` — what is found at the end of a walk.
* `FileTree.find` — walks a path.
* `FileTree.canonical?` — the path of a place without detours.
-/

namespace ContentModels

/-- What is found at the end of a walk. -/
inductive Finding where
  | node (l : Location) (n : Node)
  /-- Nothing, in a directory that is there. The path may ask for a directory by a separator at its
  end. -/
  | vacant (l : Location) (asDir : Bool)
  deriving DecidableEq, Repr

namespace FileTree

/-- Walks the pieces of a path from a directory. -/
def walk (t : FileTree) (dir : Location) : List (List Char) → Except IoFault Finding
  | [] => .ok (.node dir .dir)
  | piece :: rest =>
    if !Path.counts piece then t.walk dir rest
    else if piece == ['.', '.'] then t.walk dir.parent rest
    else
      let l := dir.child (String.ofList piece)
      match t.get? l with
      | some .dir => t.walk l rest
      | some (.file content) =>
        if rest.isEmpty then .ok (.node l (.file content)) else .error .notDirectory
      | none => if rest.all List.isEmpty then .ok (.vacant l !rest.isEmpty) else .error .notFound

/-- Walks a path. An empty path leads nowhere. -/
def find (t : FileTree) (p : Path) : Except IoFault Finding :=
  if p.chars.isEmpty then .error .notFound
  else t.walk (if p.isAbsolute then .root else t.here) p.bodyPieces

/-- What is at the end of a path. -/
def node? (t : FileTree) (p : Path) : Option Node :=
  match t.find p with
  | .ok (.node _ n) => some n
  | _ => none

/-- Whether something is at the end of a path. -/
def exists? (t : FileTree) (p : Path) : Bool := (t.node? p).isSome

def isDir (t : FileTree) (p : Path) : Bool := t.node? p == some .dir

def isFile (t : FileTree) (p : Path) : Bool := t.exists? p && !t.isDir p

/-- The absolute path of what is at the end of a path, without detours. -/
def canonical? (t : FileTree) (p : Path) : Option Path :=
  match t.find p with
  | .ok (.node l _) => some l.path
  | _ => none

/-- The absolute path of a path, whether it leads anywhere or not. -/
def absolute (t : FileTree) (p : Path) : Path :=
  if p.isAbsolute then p
  else
    let names := p.components.filterMap fun
      | .name text => some text
      | .up => some ".."
      | _ => none
    names.foldl Path.file t.here.path

end FileTree

end ContentModels
