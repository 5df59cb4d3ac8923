import ContentModels.Source.Grammar.Basic

/-!
# Imports of hand-authored files

An import is recorded as a text in one canonical form, with the names that it brings into scope.

## Main definitions

* `Source.UseTree.render` — the canonical text of an import.
* `Source.UseTree.leafNames` — the names an import ends in.
* `Import.ofUse?` — what is recorded of an import.
-/

namespace ContentModels

namespace Source

mutual

/-- The canonical text of what follows `use`, such as `chrono::{DateTime, Utc}`. -/
def UseTree.render : UseTree → String
  | .path word tree => word ++ "::" ++ tree.render
  | .name word => word
  | .rename word newName => word ++ " as " ++ newName
  | .glob => "*"
  | .group items => "\x7b" ++ ", ".intercalate (UseTree.renderAll items) ++ "\x7d"

/-- The texts of the trees between braces. -/
def UseTree.renderAll : List UseTree → List String
  | [] => []
  | tree :: rest => tree.render :: UseTree.renderAll rest

end

mutual

/-- The names at the leaves of an import, where a renamed one has its new name. -/
def UseTree.leafNames : UseTree → List String
  | .path _ tree => tree.leafNames
  | .name word => [word]
  | .rename _ newName => [newName]
  | .glob => []
  | .group items => UseTree.leafNamesAll items

/-- The names at the leaves of the trees between braces. -/
def UseTree.leafNamesAll : List UseTree → List String
  | [] => []
  | tree :: rest => tree.leafNames ++ UseTree.leafNamesAll rest

end

end Source

/-- An import of a hand-authored file. -/
structure Import where
  /-- What follows `use`, in canonical form. -/
  path : String
  /-- The names at its leaves. -/
  names : List String
  deriving DecidableEq, Repr

/-- Whether the text of an import starts from the module it stands in. -/
def opensWithSelf (path : String) : Bool := path == "self" || path.startsWith "self::"

/-- What is recorded of an import; an import that starts from the module it stands in makes no sense
in another one, and is left out. -/
def Import.ofUse? (item : Source.UseItem) : Option Import :=
  let path := item.tree.render
  if opensWithSelf path then none
  else some ⟨if item.rooted then "::" ++ path else path, item.tree.leafNames⟩

end ContentModels
