import ContentModels.Path
import ContentModels.Sorted.Map
import ContentModels.Store.Error
import ContentModels.Text.Utf8

/-!
# Trees of directories and files

A tree tells for every location what is there. The root of a tree is a directory.

## Main definitions

* `Location` — the names that lead from the root to a place.
* `Node` — what is at a place: a directory, or a file with its content.
* `FileTree` — what is where.
-/

namespace ContentModels

/-- The names that lead from the root to a place. -/
structure Location where
  names : List String
  deriving DecidableEq, Repr, Inhabited

namespace Location

def root : Location := ⟨[]⟩

/-- The place of a name in a directory. -/
def child (l : Location) (name : String) : Location := ⟨l.names ++ [name]⟩

/-- The directory of a place. The root lies in itself. -/
def parent (l : Location) : Location := ⟨l.names.dropLast⟩

/-- The absolute path of a place. -/
def path (l : Location) : Path := ⟨"/" ++ "/".intercalate l.names⟩

/-- Whether a place is another one or lies below it. -/
def isWithin (l above : Location) : Bool := above.names.isPrefixOf l.names

/-- The place of a location in the order of locations. -/
def key (l : Location) : List (List Nat) := l.names.map fun name => name.toList.map Char.toNat

instance : Ord Location := ⟨compareOn key⟩

instance : Std.TransOrd Location := inferInstanceAs (Std.TransCmp (compareOn key))

end Location

/-- What is in a file. -/
inductive Content where
  | text (s : String)
  /-- Bytes that are no text. -/
  | binary (bytes : List Nat)
  deriving DecidableEq, Repr

namespace Content

/-- The content that bytes make up. -/
def ofBytes (bytes : List Nat) : Content :=
  match Text.ofBytes? bytes with
  | some s => text s
  | none => binary bytes

/-- The content as far as it is text. -/
def display : Content → String
  | text s => s
  | binary bytes => Text.ofBytesLossy bytes

end Content

/-- What is at a place. -/
inductive Node where
  | dir
  | file (content : Content)
  deriving DecidableEq, Repr

/-- What is where below the root, and where relative paths start. -/
structure FileTree where
  nodes : SortedMap Location Node := ∅
  /-- The place where relative paths start. -/
  here : Location := .root
  deriving DecidableEq

instance : Inhabited FileTree := ⟨{}⟩

namespace FileTree

/-- What is at a place. -/
def get? (t : FileTree) (l : Location) : Option Node :=
  if l.names.isEmpty then some .dir else t.nodes.get? l

/-- Puts something at a place. -/
def put (t : FileTree) (l : Location) (n : Node) : FileTree :=
  { t with nodes := t.nodes.insert l n }

/-- Takes away what is at a place. -/
def erase (t : FileTree) (l : Location) : FileTree := { t with nodes := t.nodes.erase l }

/-- Takes away what is at a place and below it. -/
def eraseAll (t : FileTree) (l : Location) : FileTree :=
  { t with nodes := t.nodes.filter fun other _ => !other.isWithin l }

/-- The names in a directory, in order. -/
def names (t : FileTree) (l : Location) : List String :=
  t.nodes.keys.filterMap fun other =>
    match other.names.getLast? with
    | some name => if other = l.child name then some name else none
    | none => none

/-- What lies below a place, in order. -/
def below (t : FileTree) (l : Location) : List (Location × Node) :=
  t.nodes.entries.filter fun e => e.1.isWithin l && e.1 != l

end FileTree

end ContentModels
