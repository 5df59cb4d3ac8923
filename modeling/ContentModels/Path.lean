import ContentModels.Text.Split

/-!
# Paths

A path is kept as it is written, since it is printed that way. Its meaning lies in its components:
repeated and trailing separators and inner dots count for nothing, and two paths are ordered by
their components.

## Main definitions

* `Path.components` — what a path is made of.
* `Path.join`, `Path.parent?`, `Path.fileName?`, `Path.extension?` — the usual operations.
* `Path.same` — whether two paths have the same components.
-/

namespace ContentModels

open Text

/-- A path as it is written. -/
structure Path where
  text : String
  deriving DecidableEq, Repr, Inhabited

/-- A part of a path. -/
inductive Component where
  /-- The root, at the start of an absolute path. -/
  | root
  /-- A dot at the start of a relative path. -/
  | current
  /-- Two dots. -/
  | up
  | name (text : String)
  deriving DecidableEq, Repr

/-- The place of a component in the order of components: kinds first, then names by the codes of
their characters. -/
def Component.key : Component → List Nat
  | .root => [0]
  | .current => [1]
  | .up => [2]
  | .name text => 3 :: text.toList.map Char.toNat

namespace Path

instance : ToString Path := ⟨Path.text⟩

def chars (p : Path) : List Char := p.text.toList

def isAbsolute (p : Path) : Bool := p.chars.head? == some '/'

/-- Whether a path starts with a dot that is a component. -/
def opensWithDot (p : Path) : Bool :=
  match p.chars with
  | ['.'] => true
  | '.' :: '/' :: _ => true
  | _ => false

/-- The length of what a path starts with before its names: a separator or a dot. -/
def headLength (p : Path) : Nat := if p.isAbsolute || p.opensWithDot then 1 else 0

/-- Whether a piece between separators is a component. -/
def counts (piece : List Char) : Bool := !(piece.isEmpty || piece == ['.'])

/-- The component of a piece that counts. -/
def ofPiece (piece : List Char) : Component :=
  if piece == ['.', '.'] then .up else .name (String.ofList piece)

/-- The pieces behind the head, those that do not count included. -/
def bodyPieces (p : Path) : List (List Char) := pieces '/' (p.chars.drop p.headLength)

/-- The components of a path. -/
def components (p : Path) : List Component :=
  (if p.isAbsolute then [Component.root]
    else if p.opensWithDot then [Component.current] else []) ++
    (p.bodyPieces.filter counts).map ofPiece

/-- The place of a path in the order of paths. -/
def key (p : Path) : List (List Nat) := p.components.map Component.key

instance : Ord Path := ⟨compareOn key⟩

instance : Std.TransOrd Path := inferInstanceAs (Std.TransCmp (compareOn key))

/-- Whether two paths have the same components. -/
def same (p q : Path) : Bool := p.components == q.components

/-- A path below another one. An absolute path stays as it is. -/
def join (p q : Path) : Path :=
  if q.isAbsolute || p.chars.isEmpty then q
  else if p.chars.getLast? == some '/' then ⟨p.text ++ q.text⟩
  else ⟨p.text ++ "/" ++ q.text⟩

/-- A file of a directory. -/
def file (dir : Path) (name : String) : Path := dir.join ⟨name⟩

/-- The pieces without those at the end that do not count. -/
def trimPieces (l : List (List Char)) : List (List Char) :=
  (l.reverse.dropWhile fun piece => !counts piece).reverse

/-- The path without its last component, if it has one. -/
def parent? (p : Path) : Option Path :=
  match trimPieces p.bodyPieces with
  | [] => if p.opensWithDot then some ⟨""⟩ else none
  | body =>
    let body := trimPieces body.dropLast
    some ⟨String.ofList (p.chars.take p.headLength ++ joinPieces '/' body)⟩

/-- A path, what it lies in, what that lies in, and so on for so many steps. -/
def chain (p : Path) : Nat → List Path
  | 0 => [p]
  | steps + 1 => p :: (p.parent?.map (·.chain steps)).getD []

/-- A path, what it lies in, what that lies in, and so on. -/
def ancestors (p : Path) : List Path := p.chain p.chars.length

/-- The last component, if it is a name. -/
def fileName? (p : Path) : Option String :=
  match p.components.getLast? with
  | some (.name text) => some text
  | _ => none

/-- What follows the last dot of a file name; a dot at its start does not count. -/
def extension? (p : Path) : Option String := do
  let name := (← p.fileName?).toList
  let after := name.reverse.takeWhile (· != '.')
  if after.length + 1 < name.length then some (String.ofList after.reverse) else none

end Path

end ContentModels
