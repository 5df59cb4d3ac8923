import ContentModels.Plan.Basic
import ContentModels.Text.Quoted

/-!
# The source text of a model

The text depends on nothing but the plan and the namespace.

## Main definitions

* `Rendering.header` — the comment that every generated file starts with.
* `Plan.render` — the text of a model.
-/

namespace ContentModels

open Text

namespace Rendering

/-- Lines, each with its line break. -/
def lines (l : List String) : String := String.join (l.map (· ++ "\n"))

/-- A text between braces behind a space. -/
def open_ : String := " \x7b"

def close : String := "\x7d"

/-- The comment that every generated file starts with. -/
def header : List String := [
  "// <auto-generated>",
  "//   This file was generated by modelgen.",
  "//   Changes to this file will be lost when models are regenerated.",
  "// </auto-generated>"]

/-- The comment that names the namespace. -/
def namespaceLine (space : String) : String := s!"//! Models of the `{space}` namespace."

/-- The import that every model starts with. -/
def runtimeImport : String := "super::runtime::PublishedContent"

/-- Whether an import brings in the runtime's type under its own name, though not from the runtime
of the models. -/
def importsRuntimeName (path : String) : Bool :=
  path.endsWith "::PublishedContent" && path != runtimeImport

/-- The imports of a model, in order. -/
def imports (p : Plan) : List String :=
  SortedSet.toList <|
    SortedSet.addAll (SortedSet.ofList [runtimeImport])
      ((SortedSet.toList p.uses).filter fun path => !importsRuntimeName path)

def kindWord : ItemKind → String
  | .content => "content"
  | .element => "element"

def truthWord (b : Bool) : String := if b then "true" else "false"

/-- The declaration of the type. -/
def declaration (p : Plan) : List String := [
  s!"/// Published `{p.handle}` {kindWord p.kind}.",
  "#[derive(Debug, Clone)]",
  "pub struct " ++ p.className ++ open_,
  "    content: PublishedContent,",
  close]

/-- The base as a constant. -/
def baseValue (base : Option ModelRef) : String :=
  match base with
  | some r => "Some(" ++ quoted r.handle ++ ")"
  | none => "None"

/-- The constants of a model. -/
def constants (p : Plan) : List String := [
  "    pub const CONTENT_TYPE_ALIAS: &'static str = " ++ quoted p.handle ++ ";",
  "    pub const IS_ELEMENT: bool = " ++ truthWord (p.kind == .element) ++ ";",
  "    pub const BASE_TYPE: Option<&'static str> = " ++ baseValue p.base ++ ";",
  "    pub const MIXINS: &'static [&'static str] = &[" ++
    ", ".intercalate (p.mixins.map fun r => quoted r.handle) ++ "];"]

/-- The members that every model has. -/
def ownMembers : List String := [
  "    pub fn new(content: PublishedContent) -> Self" ++ open_,
  "        Self" ++ open_ ++ " content " ++ close,
  "    " ++ close,
  "",
  "    pub fn content(&self) -> &PublishedContent" ++ open_,
  "        &self.content",
  "    " ++ close]

/-- The accessor of a property. -/
def accessorLines (q : PlannedProperty) : List String := [
  "",
  s!"    /// Value of the `{q.handle}` property.",
  "    pub fn " ++ q.localName ++ "(&self) -> Option<" ++ q.valueType ++ ">" ++ open_,
  "        self.content.value::<" ++ q.valueType ++ ">(" ++ quoted q.handle ++ ")",
  "    " ++ close]

/-- The conversion from the runtime's type. -/
def fromContent (name : String) : List String := [
  "impl From<PublishedContent> for " ++ name ++ open_,
  "    fn from(content: PublishedContent) -> Self" ++ open_,
  "        Self::new(content)",
  "    " ++ close,
  close]

/-- The conversion to the runtime's type. -/
def toContent (name : String) : List String := [
  "impl From<" ++ name ++ "> for PublishedContent" ++ open_,
  "    fn from(model: " ++ name ++ ") -> Self" ++ open_,
  "        model.content",
  "    " ++ close,
  close]

/-- The conversion to the model of a base or mixin. -/
def conversion (name : String) (target : ModelRef) : List String := [
  "",
  "impl From<" ++ name ++ "> for super::" ++ target.className ++ open_,
  "    fn from(model: " ++ name ++ ") -> Self" ++ open_,
  "        super::" ++ target.className ++ "::new(model.content)",
  "    " ++ close,
  close]

/-- The lines of a model; an import or a type may bring line breaks of its own. -/
def modelLines (p : Plan) (space : String) : List String :=
  header ++ ["", namespaceLine space, ""] ++
    (imports p).map (fun path => "use " ++ path ++ ";") ++ [""] ++
    declaration p ++ [""] ++
    ["impl " ++ p.className ++ open_] ++ constants p ++ [""] ++ ownMembers ++
    p.properties.flatMap accessorLines ++ [close, ""] ++
    fromContent p.className ++ [""] ++ toContent p.className ++
    p.references.flatMap (conversion p.className)

end Rendering

/-- The source text of a model. -/
def Plan.render (p : Plan) (space : String) : String :=
  Rendering.lines (Rendering.modelLines p space)

end ContentModels
