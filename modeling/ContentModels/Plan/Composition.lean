import ContentModels.Plan.Basic

/-!
# The properties of a composed type

A type has its own properties, then those of its base, then those of its mixins in order. The first
declaration of a handle counts. A later one with another type of values is dropped: with a warning
if the composing type declares the property itself or if the two types differ by an option only; and
otherwise the type cannot be planned.

## Main definitions

* `compatible` — whether two types of values differ by an option at most.
* `Composed.add` — adds a declaration.
* `Schema.compose` — all properties of a type.
-/

namespace ContentModels

/-! ## Types of values -/

/-- The text behind `start`, if the text starts with it. -/
def dropStart? (start : List Char) (cs : List Char) : Option (List Char) :=
  if start.isPrefixOf cs then some (cs.drop start.length) else none

/-- The type inside an option; any other type is itself. -/
def insideOption (cs : List Char) : List Char :=
  match dropStart? "Option<".toList cs with
  | some inner => if inner.getLast? = some '>' then inner.dropLast else cs
  | none => cs

/-- Whether two types are written alike, blanks aside. -/
def sameType (a b : String) : Bool := Text.withoutBlanks a == Text.withoutBlanks b

/-- Whether two types are alike once the option around each is taken off. -/
def compatible (a b : String) : Bool :=
  insideOption (Text.withoutBlanks a).toList == insideOption (Text.withoutBlanks b).toList

/-! ## Collecting declarations -/

/-- A property with the handle of the type that declares it. -/
structure Declared where
  property : Property
  declaredBy : String
  deriving DecidableEq, Repr

/-- The properties collected so far, with warnings. -/
structure Composed where
  declared : List Declared := []
  warnings : List Diagnostic := []
  deriving DecidableEq, Repr

/-- The warning that the declaration `dropped` was dropped in favour of `kept`. -/
def droppedWarning (owner : String) (kept dropped : Declared) : Diagnostic :=
  .conflict owner <|
    s!"property '{kept.property.handle}' is declared as `{kept.property.valueType}` by " ++
      s!"'{kept.declaredBy}' and as `{dropped.property.valueType}` by '{dropped.declaredBy}'; " ++
      s!"keeping `{kept.property.valueType}`"

/-- The warning for a declaration that is dropped, if there has to be one; or the error that it
cannot be dropped. -/
def Declared.settle (owner : String) (kept dropped : Declared) :
    Except PlanError (List Diagnostic) :=
  let keptType := kept.property.valueType
  let droppedType := dropped.property.valueType
  if sameType keptType droppedType then .ok []
  else if kept.declaredBy == owner || compatible keptType droppedType then
    .ok [droppedWarning owner kept dropped]
  else
    .error <| .incompatible owner kept.property.handle keptType s!"'{kept.declaredBy}'" droppedType
      s!"'{dropped.declaredBy}'"

/-- A declaration that is ignored as well if another one is. -/
def Declared.ignoreIf (d : Declared) (ignored : Bool) : Declared :=
  { d with property := { d.property with ignored := d.property.ignored || ignored } }

/-- Adds a declaration to a list of them: behind the others if its handle is new. -/
def mergeInto (owner : String) (incoming : Declared) :
    List Declared → Except PlanError (List Declared × List Diagnostic)
  | [] => .ok ([incoming], [])
  | d :: rest =>
    if d.property.handle == incoming.property.handle then do
      let warnings ← d.settle owner incoming
      return (d.ignoreIf incoming.property.ignored :: rest, warnings)
    else do
      let (rest, warnings) ← mergeInto owner incoming rest
      return (d :: rest, warnings)

/-- Adds a declaration to what the type `owner` has. -/
def Composed.add (c : Composed) (owner : String) (d : Declared) : Except PlanError Composed := do
  let (declared, warnings) ← mergeInto owner d c.declared
  return ⟨declared, c.warnings ++ warnings⟩

/-- Adds declarations in order. -/
def Composed.addAll (c : Composed) (owner : String) : List Declared → Except PlanError Composed
  | [] => .ok c
  | d :: rest => do (← c.add owner d).addAll owner rest

/-! ## Walking through a schema -/

namespace Schema

/-- The types of a schema whose handles are not in a list. -/
def outside (s : Schema) (stack : List String) : List ContentType :=
  s.types.filter fun t => !stack.contains t.handle

theorem length_outside_lt (s : Schema) {t : ContentType} {stack : List String} (ht : t ∈ s.types)
    (h : stack.contains t.handle = false) :
    (s.outside (stack ++ [t.handle])).length < (s.outside stack).length := by
  have hmem : t ∈ s.outside stack := by
    simp only [outside, List.mem_filter]
    exact ⟨ht, by simp_all⟩
  have hsub : s.outside (stack ++ [t.handle]) =
      (s.outside stack).filter fun u => !(u.handle == t.handle) := by
    simp only [outside, List.filter_filter]
    refine List.filter_congr fun u _ => ?_
    by_cases hu : u.handle = t.handle <;> simp [hu]
  rw [hsub]
  exact List.length_filter_lt_length_iff_exists.2 ⟨t, hmem, by simp⟩

/-- A type of a schema. -/
abbrev Member (s : Schema) := { t : ContentType // t ∈ s.types }

/-- The type of a schema that a handle refers to. -/
def member? (s : Schema) (handle : String) : Option s.Member :=
  match h : s.find? handle with
  | some t => some ⟨t, List.mem_of_find?_eq_some h⟩
  | none => none

/-- The own properties of a type. -/
def ownDeclarations (t : ContentType) : List Declared :=
  t.properties.map fun p => ⟨p, t.handle⟩

mutual

/-- All properties of a type. The stack holds the handles of the types that are being composed; a
type that is met again closes a cycle. -/
def compose (s : Schema) (t : s.Member) (stack : List String) : Except PlanError Composed :=
  if _met : stack.contains t.1.handle then
    .error (.circular (stack.dropWhile (· != t.1.handle) ++ [t.1.handle]))
  else do
    let own ← Composed.addAll {} t.1.handle (ownDeclarations t.1)
    composeWith s t.1.handle (stack ++ [t.1.handle]) t.1.dependencies own
termination_by ((s.outside stack).length, 0)
decreasing_by
  exact Prod.Lex.left _ _ (s.length_outside_lt t.2 (by simpa using _met))

/-- Adds the properties of the types that `owner` is composed with. -/
def composeWith (s : Schema) (owner : String) (stack : List String) (dependencies : List String)
    (c : Composed) : Except PlanError Composed :=
  match dependencies with
  | [] => .ok c
  | handle :: more =>
    match s.member? handle with
    | none => .error (.missing owner handle)
    | some t => do
      let inner ← compose s t stack
      let c ← Composed.addAll ⟨c.declared, c.warnings ++ inner.warnings⟩ owner inner.declared
      composeWith s owner stack more c
termination_by ((s.outside stack).length, dependencies.length + 1)

end

end Schema

end ContentModels
