import ContentModels.HandFile.Error
import ContentModels.HandFile.Import
import ContentModels.HandFile.Marker
import ContentModels.Sorted.Set
import ContentModels.Source.Grammar.File

/-!
# What a hand-authored file contributes

Per model a file says which members exist already, which properties to leave out, and how accessors
are named. A file also says which content types to leave out, and which imports its code needs.

## Main definitions

* `Customisation` — what is said of one model.
* `Contribution` — what a whole file says.
* `Contribution.addItem` — the part of one item.
* `SourceFile.read` — the contribution of a file.
-/

namespace ContentModels

open Source

/-- A source file with its content. -/
structure SourceFile where
  path : Path
  content : String
  deriving DecidableEq, Repr

/-- What hand-authored code says of one model. -/
structure Customisation where
  /-- The functions and constants in its `impl` blocks. -/
  members : SortedSet String := ∅
  /-- The handles of properties to leave out. -/
  ignored : SortedSet String := ∅
  /-- The names of accessors by the handles of their properties. -/
  renamed : SortedMap String String := ∅
  /-- Whether the type itself is declared by hand. -/
  declaresType : Bool := false
  /-- The imports that its generated file gets. -/
  uses : SortedSet String := ∅
  deriving DecidableEq

instance : Inhabited Customisation := ⟨{}⟩

/-- What a hand-authored file says. -/
structure Contribution where
  path : Path
  models : SortedMap String Customisation := ∅
  /-- Patterns of the handles of content types to leave out. -/
  ignoredTypes : SortedSet String := ∅
  /-- The imports, in the order of the file. -/
  imports : List Import := []

namespace Contribution

/-- Changes what is said of a model. -/
def customise (c : Contribution) (model : String) (f : Customisation → Customisation) :
    Contribution :=
  { c with models := c.models.modify model f }

/-- Adds what a marker says. -/
def addMarker (c : Contribution) : Marker → Contribution
  | .ignoreProperties model handles =>
    c.customise model fun m => { m with ignored := SortedSet.addAll m.ignored handles }
  | .renameProperty model handle name =>
    c.customise model fun m => { m with renamed := m.renamed.insert handle name }
  | .ignoreTypes patterns => { c with ignoredTypes := SortedSet.addAll c.ignoredTypes patterns }

/-- Adds what an item says, or tells what is wrong with it. -/
def addItem (c : Contribution) : Item → Except HandFileError Contribution
  | .members (some model) names =>
    .ok <| c.customise model fun m => { m with members := SortedSet.addAll m.members names }
  | .members none _ => .ok c
  | .declaration name => .ok <| c.customise name fun m => { m with declaresType := true }
  | .macroCall call =>
    match Marker.ofCall call with
    | .ok (some marker) => .ok (c.addMarker marker)
    | .ok none => .ok c
    | .error reason => .error (.marker c.path call.pos.line reason)
  | .use item => .ok { c with imports := c.imports ++ (Import.ofUse? item).toList }
  | .other => .ok c

/-- Adds what the items say, and collects what is wrong with them. -/
def addItems (c : Contribution) : List Item → Contribution × List HandFileError
  | [] => (c, [])
  | item :: rest =>
    match c.addItem item with
    | .ok c => c.addItems rest
    | .error e =>
      let (c, errors) := c.addItems rest
      (c, e :: errors)

end Contribution

/-- What a file contributes, with what is wrong with its markers. -/
def SourceFile.read (file : SourceFile) :
    Except HandFileError (Contribution × List HandFileError) :=
  match Source.items file.content with
  | .ok items => .ok (Contribution.addItems { path := file.path } items)
  | .error e => .error (.unreadable file.path e.pos e.message)

end ContentModels
