/-!
# Why a content type gets no model
-/

namespace ContentModels

/-- Why a content type cannot be planned. -/
inductive PlanError where
  /-- A type is composed with itself; the cycle ends with the handle that it starts with. -/
  | circular (cycle : List String)
  /-- A base or mixin is missing from the schema. -/
  | missing (type dependency : String)
  /-- Two types that the type is composed with give a property values of different types. -/
  | incompatible (type handle kept keptOrigin dropped droppedOrigin : String)
  /-- Two properties have the same accessor. -/
  | sameAccessor (type first second name : String)
  /-- Another type has the same model name. -/
  | sameModel (type model owner : String)
  /-- Another type has the same generated file. -/
  | sameFile (type file owner : String)
  deriving DecidableEq, Repr

def PlanError.message : PlanError → String
  | circular cycle => "Circular composition detected: " ++ " -> ".intercalate cycle
  | missing type dependency => s!"Type '{type}' is composed of unknown type '{dependency}'"
  | incompatible type handle kept keptOrigin dropped droppedOrigin =>
    s!"Property '{handle}' of type '{type}' is declared as `{kept}` by {keptOrigin} " ++
      s!"and as `{dropped}` by {droppedOrigin}"
  | sameAccessor type first second name =>
    s!"Properties '{first}' and '{second}' of type '{type}' both map to `{name}`"
  | sameModel type model owner =>
    s!"Type '{type}' maps to model `{model}` already used by '{owner}'"
  | sameFile type file owner => s!"Type '{type}' maps to file `{file}` already used by {owner}"

end ContentModels
