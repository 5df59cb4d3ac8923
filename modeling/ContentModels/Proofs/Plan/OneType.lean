import ContentModels.Plan.Planning
import ContentModels.Proofs.Plan.Merging

/-!
# The plan of one type

What the planning of a type says about its plan, once it succeeds: which properties get accessors
and which are skipped, in terms of the declarations that were collected.

## Main definitions

* `Declared.skip?` — why a property gets no accessor.
* `Declared.planned` — the accessor that it gets otherwise.

## Main statements

* `Choices.addAll_eq` — what is decided about declarations that are taken in order.
* `Schema.compose_of_alone` — the properties of a type that is composed with no others.
* `Schema.planType_eq` — the plan of a type that can be planned.
-/

namespace ContentModels

/-! ## Deciding about properties -/

/-- Why a property gets no accessor in a model, if it gets none. -/
def Declared.skip? (d : Declared) (code : HandCode) (model : String) : Option PropertySkip :=
  if d.property.ignored || code.isPropertyIgnored model d.property.handle then some .ignored
  else if code.isDeclared model (accessorFor code model d.property) then some .declaredByHand
  else none

/-- The accessor that a property gets. -/
def Declared.planned (d : Declared) (code : HandCode) (model : String) : PlannedProperty :=
  ⟨d.property.handle, accessorFor code model d.property, Text.trim d.property.valueType,
    d.declaredBy⟩

@[simp] theorem Declared.planned_handle (d : Declared) (code : HandCode) (model : String) :
    (d.planned code model).handle = d.property.handle := rfl

@[simp] theorem Declared.planned_localName (d : Declared) (code : HandCode) (model : String) :
    (d.planned code model).localName = accessorFor code model d.property := by
  rw [Declared.planned]

/-- The properties of a list that get accessors. -/
def plannedOf (code : HandCode) (model : String) (l : List Declared) : List PlannedProperty :=
  (l.filter fun d => (d.skip? code model).isNone).map (·.planned code model)

/-- The properties of a list that get none. -/
def skippedOf (code : HandCode) (model : String) (l : List Declared) : List SkippedProperty :=
  l.filterMap fun d =>
    (d.skip? code model).map (⟨d.property.handle, accessorFor code model d.property, ·⟩)

@[simp] theorem plannedOf_nil (code : HandCode) (model : String) : plannedOf code model [] = [] :=
  rfl

@[simp] theorem skippedOf_nil (code : HandCode) (model : String) : skippedOf code model [] = [] :=
  rfl

theorem plannedOf_append (code : HandCode) (model : String) (l m : List Declared) :
    plannedOf code model (l ++ m) = plannedOf code model l ++ plannedOf code model m := by
  simp [plannedOf]

theorem skippedOf_append (code : HandCode) (model : String) (l m : List Declared) :
    skippedOf code model (l ++ m) = skippedOf code model l ++ skippedOf code model m :=
  List.filterMap_append

theorem Declared.skip?_eq_ignored_iff (d : Declared) (code : HandCode) (model : String) :
    d.skip? code model = some .ignored ↔
      d.property.ignored = true ∨ code.isPropertyIgnored model d.property.handle = true := by
  rw [skip?]
  split
  · next h => simpa using h
  · next h =>
    rw [Bool.or_eq_true] at h
    simp only [h, iff_false]
    split <;> simp

theorem Choices.add_of_skip? {code : HandCode} {model : String} {d : Declared}
    {reason : PropertySkip} (h : d.skip? code model = some reason) (c : Choices) (type : String) :
    c.add code type model d = .ok { c with
      skipped := c.skipped ++ [⟨d.property.handle, accessorFor code model d.property, reason⟩] } := by
  rw [Declared.skip?] at h
  split at h
  · next hig =>
    obtain rfl := Option.some.inj h
    exact if_pos hig
  · next hig =>
    split at h
    · next hdecl =>
      obtain rfl := Option.some.inj h
      exact (if_neg hig).trans (if_pos hdecl)
    · cases h

theorem Choices.add_of_planned {code : HandCode} {model : String} {d : Declared}
    (h : d.skip? code model = none) (c : Choices) (type : String) :
    c.add code type model d =
      match c.named? (accessorFor code model d.property) with
      | some first => .error (.sameAccessor type first.handle d.property.handle
          (accessorFor code model d.property))
      | none => .ok { c with properties := c.properties ++ [d.planned code model] } := by
  rw [Declared.skip?] at h
  split at h
  · cases h
  · next hig =>
    split at h
    · cases h
    · next hdecl => exact (if_neg hig).trans (if_neg hdecl)

theorem Choices.add_eq {c c' : Choices} {code : HandCode} {type model : String} {d : Declared}
    (h : c.add code type model d = .ok c') :
    c' = ⟨c.properties ++ plannedOf code model [d], c.skipped ++ skippedOf code model [d]⟩ := by
  cases hs : d.skip? code model with
  | some reason =>
    rw [add_of_skip? hs] at h
    obtain rfl := Except.ok.inj h
    simp [plannedOf, skippedOf, hs]
  | none =>
    rw [add_of_planned hs] at h
    split at h
    · cases h
    · obtain rfl := Except.ok.inj h
      simp [plannedOf, skippedOf, hs]

/-- Declarations that are taken in order are planned and skipped in that order. -/
theorem Choices.addAll_eq {c c' : Choices} {code : HandCode} {type model : String}
    {l : List Declared} (h : c.addAll code type model l = .ok c') :
    c' = ⟨c.properties ++ plannedOf code model l, c.skipped ++ skippedOf code model l⟩ := by
  induction l generalizing c with
  | nil =>
    obtain rfl := Except.ok.inj h
    simp
  | cons d rest ih =>
    obtain ⟨c₁, h₁, h⟩ := Except.bind_ok_iff.1 h
    rw [ih h, add_eq h₁, List.append_assoc, List.append_assoc, ← plannedOf_append,
      ← skippedOf_append, List.singleton_append]

/-! ## Planning a type -/

/-- A type that is composed with no others has its own properties. -/
theorem Schema.compose_of_alone {s : Schema} {t : s.Member} {stack : List String} {c : Composed}
    (hstack : stack.contains t.1.handle = false)
    (hown : Composed.addAll {} t.1.handle (ownDeclarations t.1) = .ok c)
    (hdependencies : t.1.dependencies = []) : s.compose t stack = .ok c := by
  rw [compose, dif_neg (Bool.not_eq_true _ ▸ hstack), hown, hdependencies]
  change s.composeWith _ _ [] c = _
  rw [composeWith.eq_def]

/-- What is in the plan of a type that can be planned. -/
theorem Schema.planType_eq {s : Schema} {code : HandCode} {t : s.Member} {p : Plan}
    {warnings : List Diagnostic} (h : s.planType code t = .ok (p, warnings)) :
    ∃ c, s.compose t [] = .ok c ∧ c.warnings = warnings ∧
      p.handle = t.1.handle ∧ p.className = t.1.modelName ∧
      p.properties = plannedOf code t.1.modelName c.declared ∧
      p.skipped = skippedOf code t.1.modelName c.declared := by
  obtain ⟨c, hc, h⟩ := Except.bind_ok_iff.1 h
  obtain ⟨choices, hchoices, h⟩ := Except.bind_ok_iff.1 h
  simp only [pure, Except.pure, Except.ok.injEq, Prod.mk.injEq] at h
  obtain ⟨rfl, rfl⟩ := h
  have := Choices.addAll_eq hchoices
  exact ⟨c, hc, rfl, rfl, rfl, by simp [this], by simp [this]⟩

end ContentModels
