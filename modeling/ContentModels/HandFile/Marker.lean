import ContentModels.Source.Grammar.Basic

/-!
# Markers

A macro call of one of three names is a marker: it tells the generator to leave something out or to
name it differently. The arguments of each marker have a small grammar of their own.

## Main definitions

* `Marker` — what a marker says.
* `Marker.ofCall` — the marker that a macro call is, if it is one.
-/

namespace ContentModels

open Source Source.Parser

/-- What a marker says. -/
inductive Marker where
  /-- The properties of these handles get no accessor in the model. -/
  | ignoreProperties (model : String) (handles : List String)
  /-- The accessor of a property has a name chosen by hand. -/
  | renameProperty (model handle name : String)
  /-- Content types whose handles match get no model. -/
  | ignoreTypes (patterns : List String)
  deriving DecidableEq, Repr

namespace Marker

/-- The names of the markers. -/
def ignorePropertyName : String := "ignore_property"
def renamePropertyName : String := "rename_property"
def ignoreTypeName : String := "ignore_content_type"

/-- Handles, each after a comma; a comma may come last. -/
def handlesAfterCommas : Parser (List String) :=
  repeatUntil do
    if ← ahead .atEnd then return none
    mark ","
    if ← ahead .atEnd then return none
    return some (← text)

/-- A model, then at least one handle. -/
def ignorePropertyArguments : Parser Marker := do
  let model ← ident
  let handles ← handlesAfterCommas
  if handles.isEmpty then refuse "expected at least one property alias"
  return .ignoreProperties model handles

/-- A model, a handle and a name. -/
def renamePropertyArguments : Parser Marker := do
  let model ← ident
  mark ","
  let handle ← text
  mark ","
  let name ← ident
  discard <| mark? ","
  return .renameProperty model handle name

/-- Patterns of handles, separated by commas. -/
def ignoreTypeArguments : Parser Marker := do
  return .ignoreTypes (← commaList text)

/-- The arguments of a macro call read by `p`, or the reason why they are not. -/
def arguments (call : MacroCall) (p : Parser Marker) : Except String Marker :=
  match readAll p call.close call.arguments with
  | .ok marker => .ok marker
  | .error e => .error e.message

/-- The name of a macro that is called by a single name. -/
def calledName? (path : NamePath) : Option String :=
  match path with
  | ⟨false, [⟨name, .none⟩]⟩ => some name
  | _ => none

/-- The marker that a macro call is, or the reason why it is malformed; nothing if the call is not a
marker. -/
def ofCall (call : MacroCall) : Except String (Option Marker) := do
  match calledName? call.path with
  | some name =>
    if name = ignorePropertyName then return some (← arguments call ignorePropertyArguments)
    else if name = renamePropertyName then return some (← arguments call renamePropertyArguments)
    else if name = ignoreTypeName then
      match ← arguments call ignoreTypeArguments with
      | .ignoreTypes [] => throw "expected at least one content type alias"
      | marker => return some marker
    else return none
  | none => return none

end Marker

end ContentModels
