import ContentModels.Naming

/-!
# Schemas

A schema is the list of the content types that a content management system knows. A type has
properties of its own and may be composed with others: a base and mixins.

## Main definitions

* `Property`, `ContentType`, `Schema`.
* `ContentType.modelName`, `Property.defaultName` — the names that code gets by default.
-/

namespace ContentModels

/-- A property of a content type. -/
structure Property where
  /-- The name of the property in the schema. -/
  handle : String := ""
  /-- The name that the schema asks for in code. -/
  name : Option String := none
  /-- The type of its values in code. -/
  valueType : String := ""
  /-- Whether it gets no accessor. -/
  ignored : Bool := false
  deriving DecidableEq, Repr, Inhabited

/-- Whether a content type has pages of its own or is part of others. -/
inductive ItemKind where
  | content
  | element
  deriving DecidableEq, Repr, Inhabited

/-- A content type. -/
structure ContentType where
  /-- The name of the type in the schema. -/
  handle : String := ""
  /-- The name that the schema asks for in code. -/
  name : Option String := none
  kind : ItemKind := .content
  /-- The handle of the base. -/
  base : Option String := none
  /-- The handles of the mixins. -/
  mixins : List String := []
  properties : List Property := []
  deriving DecidableEq, Repr, Inhabited

/-- A list of content types. -/
structure Schema where
  types : List ContentType := []
  deriving DecidableEq, Repr, Inhabited

/-- A name that the schema gives, unless it is blank. -/
def givenName? (name : Option String) : Option String :=
  name.filter fun n => !(Text.trimChars n.toList).isEmpty

/-- The name of the accessor of a property, unless hand-authored code chooses one. -/
def Property.defaultName (p : Property) : String :=
  match givenName? p.name with
  | some name => Naming.explicitClassName name
  | none => Naming.accessorName p.handle

namespace ContentType

/-- The name of the model of a type. -/
def modelName (t : ContentType) : String :=
  match givenName? t.name with
  | some name => Naming.explicitClassName name
  | none => Naming.className t.handle

def isElement (t : ContentType) : Bool := t.kind == .element

/-- The handles of the types that a type is composed with, the base first. -/
def dependencies (t : ContentType) : List String := t.base.toList ++ t.mixins

/-! ## Building types -/

def withName (t : ContentType) (name : String) : ContentType := { t with name := some name }

def withBase (t : ContentType) (handle : String) : ContentType := { t with base := some handle }

def withMixin (t : ContentType) (handle : String) : ContentType :=
  { t with mixins := t.mixins ++ [handle] }

def withProperty (t : ContentType) (p : Property) : ContentType :=
  { t with properties := t.properties ++ [p] }

end ContentType

/-- The first type with a handle. -/
def Schema.find? (s : Schema) (handle : String) : Option ContentType :=
  s.types.find? fun t => t.handle == handle

end ContentModels
