import ContentModels.FileTree.Access
import ContentModels.Json.Document
import ContentModels.Json.Typed
import ContentModels.Run.Error
import ContentModels.Schema.Basic

/-!
# Schema documents

A schema is exchanged as a JSON document. Fields that are not known are read over; a field that is
absent has its default value, apart from the handles and the type of a property.

## Main definitions

* `Schema.ofJson` — reads a document.
* `Schema.toJson` — writes one.
* `Schema.load` — reads the document in a file.
-/

namespace ContentModels

open Json

def Property.record : Record Property where
  name := "PropertyModel"
  initial := {}
  fields := [
    { name := "alias", required := true
      read := fun p => return { p with handle := ← Reader.text } },
    { name := "name", read := fun p => return { p with name := ← Reader.optional Reader.text } },
    { name := "valueType", required := true
      read := fun p => return { p with valueType := ← Reader.text } },
    { name := "ignored", read := fun p => return { p with ignored := ← Reader.bool } }]

/-- The names of the kinds. -/
def ItemKind.names : List (String × ItemKind) := [("content", .content), ("element", .element)]

def ItemKind.name : ItemKind → String
  | .content => "content"
  | .element => "element"

def ContentType.record : Record ContentType where
  name := "TypeModel"
  initial := {}
  fields := [
    { name := "alias", required := true
      read := fun t => return { t with handle := ← Reader.text } },
    { name := "name", read := fun t => return { t with name := ← Reader.optional Reader.text } },
    { name := "kind", read := fun t => return { t with kind := ← Reader.choice ItemKind.names } },
    { name := "base", read := fun t => return { t with base := ← Reader.optional Reader.text } },
    { name := "mixins", read := fun t => return { t with mixins := ← Reader.list Reader.text } },
    { name := "properties"
      read := fun t => return { t with properties := ← Reader.list Property.record.read } }]

def Schema.record : Record Schema where
  name := "Schema"
  initial := {}
  fields := [
    { name := "types"
      read := fun s => return { s with types := ← Reader.list ContentType.record.read } }]

/-- Reads a schema document. -/
def Schema.ofJson (document : String) : Except Json.Error Schema :=
  Reader.run Schema.record.read document

/-- The entry of a field that is left out when it has no value. -/
def entryIfSome (key : String) (value : Option String) : List (String × Document) :=
  (value.map fun v => (key, Document.text v)).toList

def Property.document (p : Property) : Document := .object <|
  [("alias", Document.text p.handle)] ++ entryIfSome "name" p.name ++
    [("valueType", Document.text p.valueType), ("ignored", Document.bool p.ignored)]

def ContentType.document (t : ContentType) : Document := .object <|
  [("alias", Document.text t.handle)] ++ entryIfSome "name" t.name ++
    [("kind", Document.text t.kind.name)] ++ entryIfSome "base" t.base ++
    [("mixins", Document.ofTexts t.mixins),
      ("properties", Document.array (t.properties.map Property.document))]

def Schema.document (s : Schema) : Document :=
  .object [("types", .array (s.types.map ContentType.document))]

/-- Writes a schema document. -/
def Schema.toJson (s : Schema) : String := s.document.pretty

/-- Reads the schema in a file. -/
def Schema.load (t : FileTree) (file : Path) : Except SchemaFailure Schema :=
  match t.read file with
  | .error e => .error (.unreadable file e)
  | .ok document => (ofJson document).mapError fun e => .invalid file e.message

end ContentModels
