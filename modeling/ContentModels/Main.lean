import ContentModels.Command.Run
import ContentModels.FileTree.Changes

/-!
# The program

The names of the files that there are come in by standard input, one on a line, as `find` writes
them; a name with a slash at its end is that of a directory. Unless the arguments are refused, these
files are read into a tree, the command is carried out on the tree, and what has changed in it is
done to the files. No other program is started, so that there is no compiler to be called.
-/

namespace ContentModels

namespace Outside

/-- The compiler, which is not there. -/
def tools : Toolchain where
  call := fun _ => .error (.other "no other program is started")

/-- Adds a directory to a tree, as far as this can be. -/
def withDir (t : FileTree) (dir : Path) : FileTree := (t.createDirs dir).2

/-- Adds a file to a tree, as far as this can be. -/
def withFile (t : FileTree) (file : Path) (bytes : ByteArray) : FileTree :=
  let t := withDir t (file.parent?.getD ⟨""⟩)
  let content := Content.ofBytes (bytes.toList.map UInt8.toNat)
  (t.writeContent file content).toOption.getD t

/-- Reads what is of a name; what cannot be read is left out. -/
def readInto (t : FileTree) (name : String) : IO FileTree := do
  if name.isEmpty then return t
  if name.endsWith "/" then return withDir t ⟨name⟩
  match ← (IO.FS.readBinFile name).toBaseIO with
  | .ok bytes => return withFile t ⟨name⟩ bytes
  | .error _ => return t

/-- Reads the files of some names, which are in the current directory unless they are absolute. -/
def read (names : List String) : IO FileTree := do
  let here : Path := ⟨(← IO.currentDir).toString⟩
  let start : FileTree := {}
  let start := withDir start here
  names.foldlM readInto { start with here := ⟨here.components.filterMap name?⟩ }
where
  name? : Component → Option String
    | .name text => some text
    | _ => none

/-- The bytes of a content. -/
def bytes : Content → ByteArray
  | .text s => s.toUTF8
  | .binary bytes => ⟨(bytes.map UInt8.ofNat).toArray⟩

/-- Does to the files of the machine what was done to those of a tree. -/
def perform : FileTree.Change → IO Unit
  | .remove l => IO.FS.removeFile l.path.text
  | .makeDir l => IO.FS.createDirAll l.path.text
  | .write l content => IO.FS.writeBinFile l.path.text (bytes content)

/-- Prints what the program leaves behind. -/
def leave (o : Output) : IO UInt32 := do
  (← IO.getStdout).putStr o.out
  (← IO.getStderr).putStr o.err
  return o.exitCode.toUInt32

end Outside

end ContentModels

open ContentModels in
/-- Carries out what the arguments ask for. -/
def main (arguments : List String) : IO UInt32 := do
  match Request.ofArguments arguments with
  | .error halt => Outside.leave halt.output
  | .ok request => do
    let names := (← (← IO.getStdin).readToEnd).splitOn "\n"
    let before ← Outside.read names
    let (output, after) := request.command.run Outside.tools { tree := before }
    (FileTree.changes before after.tree).forM Outside.perform
    Outside.leave output
