import ContentModels.Path

/-!
# Why files cannot be read or written
-/

namespace ContentModels

/-- Why the file system refuses an operation. -/
inductive IoFault where
  | notFound
  | alreadyExists
  | notDirectory
  | isDirectory
  /-- A file that should hold text does not. -/
  | notText
  | other (reason : String)
  deriving DecidableEq, Repr

def IoFault.message : IoFault → String
  | notFound => "No such file or directory (os error 2)"
  | alreadyExists => "File exists (os error 17)"
  | notDirectory => "Not a directory (os error 20)"
  | isDirectory => "Is a directory (os error 21)"
  | notText => "stream did not contain valid UTF-8"
  | other reason => reason

/-- Why a store refuses an operation. -/
inductive StoreError where
  | createDir (path : Path) (fault : IoFault)
  | write (path : Path) (fault : IoFault)
  | read (path : Path) (fault : IoFault)
  | delete (path : Path) (fault : IoFault)
  | list (pattern reason : String)
  deriving DecidableEq, Repr

def StoreError.message : StoreError → String
  | createDir path fault => s!"Failed to create directory {path}: {fault.message}"
  | write path fault => s!"Failed to write file {path}: {fault.message}"
  | read path fault => s!"Failed to read file {path}: {fault.message}"
  | delete path fault => s!"Failed to delete file {path}: {fault.message}"
  | list pattern reason => s!"Failed to list {pattern}: {reason}"

end ContentModels
