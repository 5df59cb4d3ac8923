import ContentModels.HandFile.HandCode
import ContentModels.Plan.Composition

/-!
# Planning a schema

Every content type gets a plan or is skipped with a reason; a type that cannot be planned leaves the
others alone. Model names and file names go to the first type that asks for them.

## Main definitions

* `ContentType.plan` — the plan of one type.
* `Schema.plan` — the plans of all types.
-/

namespace ContentModels

/-! ## One type -/

/-- What was decided about the properties of a type so far. -/
structure Choices where
  properties : List PlannedProperty := []
  skipped : List SkippedProperty := []

/-- The planned property with an accessor of this name. -/
def Choices.named? (c : Choices) (localName : String) : Option PlannedProperty :=
  c.properties.find? fun p => p.localName == localName

/-- The name of the accessor of a property. -/
def accessorFor (code : HandCode) (model : String) (p : Property) : String :=
  Naming.accessor ((code.renamed? model p.handle).getD p.defaultName)

/-- Decides about a property of the type `type`. -/
def Choices.add (c : Choices) (code : HandCode) (type model : String) (d : Declared) :
    Except PlanError Choices :=
  let handle := d.property.handle
  let localName := accessorFor code model d.property
  if d.property.ignored || code.isPropertyIgnored model handle then
    .ok { c with skipped := c.skipped ++ [⟨handle, localName, .ignored⟩] }
  else if code.isDeclared model localName then
    .ok { c with skipped := c.skipped ++ [⟨handle, localName, .declaredByHand⟩] }
  else
    match c.named? localName with
    | some first => .error (.sameAccessor type first.handle handle localName)
    | none =>
      .ok { c with
        properties := c.properties ++
          [⟨handle, localName, Text.trim d.property.valueType, d.declaredBy⟩] }

/-- Decides about properties in order. -/
def Choices.addAll (c : Choices) (code : HandCode) (type model : String) :
    List Declared → Except PlanError Choices
  | [] => .ok c
  | d :: rest => do (← c.add code type model d).addAll code type model rest

/-- The reference to the type that a handle refers to. -/
def Schema.reference? (s : Schema) (handle : String) : Option ModelRef :=
  (s.find? handle).map fun t => ⟨t.handle, t.modelName⟩

/-- The references without those to the handle of an earlier one. -/
def distinctRefs (seen : List String) : List ModelRef → List ModelRef
  | [] => []
  | r :: rest =>
    if seen.contains r.handle then distinctRefs seen rest
    else r :: distinctRefs (r.handle :: seen) rest

/-- The plan of a type, with warnings. -/
def Schema.planType (s : Schema) (code : HandCode) (t : s.Member) :
    Except PlanError (Plan × List Diagnostic) := do
  let model := t.1.modelName
  let composed ← s.compose t []
  let choices ← Choices.addAll {} code t.1.handle model composed.declared
  let base := t.1.base.bind s.reference?
  let plan : Plan := {
    handle := t.1.handle
    className := model
    kind := t.1.kind
    base
    mixins := distinctRefs (base.map (·.handle)).toList (t.1.mixins.filterMap s.reference?)
    properties := choices.properties
    skipped := choices.skipped
    uses := code.usesFor model }
  return (plan, composed.warnings)

/-! ## All types -/

/-- What was decided about the types so far. -/
structure Planning where
  /-- The handle of the type that has a model name. -/
  models : SortedMap String String := ∅
  /-- The type that has a file name, as a message shows it. -/
  files : SortedMap String String := ∅
  /-- The plans by model name. -/
  plans : SortedMap String Plan := ∅
  skipped : List SkippedType := []
  diagnostics : List Diagnostic := []

namespace Planning

/-- Skips a type. -/
def skip (p : Planning) (t : ContentType) (reason : TypeSkip) : Planning :=
  { p with skipped := p.skipped ++ [⟨t.handle, t.modelName, reason⟩] }

/-- Skips a type that cannot be planned. -/
def refuse (p : Planning) (t : ContentType) (e : PlanError) : Planning :=
  { p.skip t .unresolvable with diagnostics := p.diagnostics ++ [.unresolvable t.handle e] }

/-- Adds a diagnostic unless it is there already. -/
def warn (p : Planning) (d : Diagnostic) : Planning :=
  if p.diagnostics.contains d then p else { p with diagnostics := p.diagnostics ++ [d] }

/-- Decides about a type whose model name is free. -/
def addNamed (p : Planning) (s : Schema) (code : HandCode) (t : s.Member) : Planning :=
  let model := t.1.modelName
  let file := Naming.generatedFileName model
  if code.implementsType model then p.skip t.1 .implementedByHand
  else
    match p.files.get? file with
    | some owner => p.refuse t.1 (.sameFile t.1.handle file owner)
    | none =>
      match s.planType code t with
      | .error e => p.refuse t.1 e
      | .ok (plan, warnings) =>
        let p := warnings.foldl warn { p with files := p.files.insert file s!"'{t.1.handle}'" }
        { p with plans := p.plans.insert model plan }

/-- Decides about a type. -/
def add (p : Planning) (s : Schema) (code : HandCode) (t : s.Member) : Planning :=
  let model := t.1.modelName
  if code.isTypeIgnored t.1.handle then p.skip t.1 .ignoredByMarker
  else
    match p.models.get? model with
    | some owner => p.refuse t.1 (.sameModel t.1.handle model owner)
    | none => addNamed { p with models := p.models.insert model t.1.handle } s code t

end Planning

/-- The plan without references to types that got no model. -/
def Plan.keepReferences (p : Plan) (planned : List String) : Plan :=
  { p with
    base := p.base.filter fun r => planned.contains r.handle
    mixins := p.mixins.filter fun r => planned.contains r.handle }

/-- The plans that were made. -/
def Planning.result (p : Planning) : PlanSet :=
  let planned := p.plans.values.map (·.handle)
  { plans := p.plans.values.map (·.keepReferences planned)
    skippedTypes := p.skipped
    diagnostics := p.diagnostics }

/-- The plans of a schema, next to what is written by hand. -/
def Schema.plan (s : Schema) (code : HandCode) : PlanSet :=
  (s.types.attach.foldl (fun p t => Planning.add p s code t) {}).result

end ContentModels
