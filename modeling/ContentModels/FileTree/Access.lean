import ContentModels.FileTree.Walk

/-!
# Reading and changing a tree

What the usual operations on files do to a tree, and why they are refused. An operation that is
refused changes nothing, except that creating a directory may have created some of those that it
lies in.

## Main definitions

* `FileTree.read`, `FileTree.write`, `FileTree.delete` — for files.
* `FileTree.createNew` — for a file that must not be there yet.
* `FileTree.createDirs` — for a directory and all that it lies in.
* `FileTree.moveTo` — puts a finished file in the place of another one.
-/

namespace ContentModels

namespace FileTree

/-- What is in the file at the end of a path. -/
def content (t : FileTree) (p : Path) : Except IoFault Content :=
  match t.find p with
  | .error e => .error e
  | .ok (.vacant ..) => .error .notFound
  | .ok (.node _ .dir) => .error .isDirectory
  | .ok (.node _ (.file content)) => .ok content

/-- Reads a text. -/
def read (t : FileTree) (p : Path) : Except IoFault String :=
  match t.content p with
  | .error e => .error e
  | .ok (.text s) => .ok s
  | .ok (.binary _) => .error .notText

/-- Writes a file, over the one that is there. -/
def writeContent (t : FileTree) (p : Path) (content : Content) : Except IoFault FileTree :=
  match t.find p with
  | .error e => .error e
  | .ok (.vacant _ true) => .error .isDirectory
  | .ok (.vacant l false) => .ok (t.put l (.file content))
  | .ok (.node _ .dir) => .error .isDirectory
  | .ok (.node l (.file _)) => .ok (t.put l (.file content))

/-- Writes a text. -/
def write (t : FileTree) (p : Path) (text : String) : Except IoFault FileTree :=
  t.writeContent p (.text text)

/-- Writes a text to a file that must not be there yet. -/
def createNew (t : FileTree) (p : Path) (text : String) : Except IoFault FileTree :=
  match t.find p with
  | .error e => .error e
  | .ok (.vacant _ true) => .error .isDirectory
  | .ok (.vacant l false) => .ok (t.put l (.file (.text text)))
  | .ok (.node ..) => .error .alreadyExists

/-- Deletes a file. -/
def delete (t : FileTree) (p : Path) : Except IoFault FileTree :=
  match t.find p with
  | .error e => .error e
  | .ok (.vacant ..) => .error .notFound
  | .ok (.node _ .dir) => .error .isDirectory
  | .ok (.node l (.file _)) => .ok (t.erase l)

/-- Removes a file, or a directory with all that is in it. -/
def remove (t : FileTree) (p : Path) : Except IoFault FileTree :=
  match t.find p with
  | .error e => .error e
  | .ok (.vacant ..) => .error .notFound
  | .ok (.node l _) => .ok (t.eraseAll l)

/-- Creates a directory in one that is there. -/
def createDir (t : FileTree) (p : Path) : Except IoFault FileTree :=
  match t.find p with
  | .error e => .error e
  | .ok (.vacant l _) => .ok (t.put l .dir)
  | .ok (.node ..) => .error .alreadyExists

/-- Creates a directory unless it is there. -/
def ensureDir (t : FileTree) (p : Path) : Except IoFault Unit × FileTree :=
  match t.createDir p with
  | .ok t => (.ok (), t)
  | .error e => (if t.isDir p then .ok () else .error e, t)

/-- Creates the first of some directories, each of which lies in the next one, after those of the
others that it takes. -/
def createChain (t : FileTree) : List Path → Except IoFault Unit × FileTree
  | [] => (.error .notFound, t)
  | p :: above =>
    if p.chars.isEmpty then (.ok (), t)
    else
      match t.createDir p with
      | .error .notFound =>
        match t.createChain above with
        | (.ok (), t) => t.ensureDir p
        | failure => failure
      | _ => t.ensureDir p

/-- Creates a directory, and all that it lies in. -/
def createDirs (t : FileTree) (p : Path) : Except IoFault Unit × FileTree :=
  t.createChain p.ancestors

/-- Whether a path ends in dots, so that it names no entry of a directory. -/
def endsInDots (p : Path) : Bool :=
  match (p.bodyPieces.reverse.dropWhile List.isEmpty).head? with
  | some piece => piece == ['.'] || piece == ['.', '.']
  | none => true

/-- Moves a finished file to a path. -/
def moveTo (t : FileTree) (p : Path) (file : Option Content) : Except IoFault FileTree :=
  if p.chars.isEmpty then .error .notFound
  else if endsInDots p then .error (.other "Device or resource busy (os error 16)")
  else
    match t.find p, file with
    | .error e, _ => .error e
    | .ok _, none => .error .notFound
    | .ok (.vacant _ true), some _ => .error .notDirectory
    | .ok (.vacant l false), some content => .ok (t.put l (.file content))
    | .ok (.node _ .dir), some _ =>
      .error (if p.chars.getLast? == some '/' then .notDirectory else .isDirectory)
    | .ok (.node l (.file _)), some content => .ok (t.put l (.file content))

end FileTree

end ContentModels
