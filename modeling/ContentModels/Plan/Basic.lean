import ContentModels.Diagnostic
import ContentModels.Schema.Basic
import ContentModels.Sorted.Set

/-!
# Plans

A plan says what the generated code of one model holds. The plans of a schema come with the types
that get no model, and the problems that were found.
-/

namespace ContentModels

/-- A reference to the model of another type. -/
structure ModelRef where
  handle : String
  className : String
  deriving DecidableEq, Repr

/-- A property that gets an accessor. -/
structure PlannedProperty where
  handle : String
  /-- The name of the accessor. -/
  localName : String
  valueType : String
  /-- The handle of the type that declares the property. -/
  declaredBy : String
  deriving DecidableEq, Repr

/-- Why a property gets no accessor. -/
inductive PropertySkip where
  /-- The schema or a marker says so. -/
  | ignored
  /-- A member of that name is written by hand. -/
  | declaredByHand
  deriving DecidableEq, Repr

/-- A property that gets no accessor. -/
structure SkippedProperty where
  handle : String
  localName : String
  reason : PropertySkip
  deriving DecidableEq, Repr

/-- Why a content type gets no model. -/
inductive TypeSkip where
  /-- A marker says so. -/
  | ignoredByMarker
  /-- The type is written by hand. -/
  | implementedByHand
  /-- It cannot be planned. -/
  | unresolvable
  deriving DecidableEq, Repr

/-- A content type that gets no model. -/
structure SkippedType where
  handle : String
  className : String
  reason : TypeSkip
  deriving DecidableEq, Repr

/-- What the generated code of a model holds. -/
structure Plan where
  handle : String
  className : String
  kind : ItemKind := .content
  base : Option ModelRef := none
  mixins : List ModelRef := []
  properties : List PlannedProperty := []
  skipped : List SkippedProperty := []
  /-- The imports taken over from hand-authored code. -/
  uses : SortedSet String := ∅
  deriving DecidableEq

/-- The planned property with a handle. -/
def Plan.property? (p : Plan) (handle : String) : Option PlannedProperty :=
  p.properties.find? fun q => q.handle == handle

/-- The models that a model can be converted to. -/
def Plan.references (p : Plan) : List ModelRef := p.base.toList ++ p.mixins

/-- The plans of a schema, in the order of their model names. -/
structure PlanSet where
  plans : List Plan := []
  skippedTypes : List SkippedType := []
  diagnostics : List Diagnostic := []

/-- The plan of a model. -/
def PlanSet.plan? (s : PlanSet) (className : String) : Option Plan :=
  s.plans.find? fun p => p.className == className

end ContentModels
