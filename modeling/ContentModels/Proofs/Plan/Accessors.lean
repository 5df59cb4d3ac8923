import ContentModels.Proofs.Naming.Identifiers
import ContentModels.Proofs.Plan.Linearisation

/-!
# Names of accessors

A property whose accessor would be called like that of an earlier one ends the planning of its type.
So the accessors of a plan have different names.

## Main statements

* `Choices.nodup_add` — deciding about a property keeps the names of accessors apart.
* `Schema.nodup_localName` — no two accessors of a plan have the same name.
* `Schema.exists_property_of_mem_plans` — every accessor is made for a property of the schema.
* `hasCapital_accessorFor` — only a name that was chosen gives an accessor with capitals.
-/

namespace ContentModels

/-! ## Choices -/

/-- Deciding about a property keeps the names of accessors apart. -/
theorem Choices.nodup_add {c c' : Choices} {code : HandCode} {type model : String} {d : Declared}
    (h : c.add code type model d = .ok c') (hc : (c.properties.map (·.localName)).Nodup) :
    (c'.properties.map (·.localName)).Nodup := by
  simp only [add] at h
  split at h
  · obtain rfl := Except.ok.inj h
    exact hc
  · split at h
    · obtain rfl := Except.ok.inj h
      exact hc
    · split at h
      · cases h
      · next hnone =>
        obtain rfl := Except.ok.inj h
        have hnew : accessorFor code model d.property ∉ c.properties.map (·.localName) := by
          simpa [named?] using hnone
        simpa [List.nodup_append] using ⟨hc, fun p hp heq => hnew (heq ▸ List.mem_map_of_mem hp)⟩

theorem Choices.nodup_addAll {c c' : Choices} {code : HandCode} {type model : String}
    {l : List Declared} (h : c.addAll code type model l = .ok c')
    (hc : (c.properties.map (·.localName)).Nodup) : (c'.properties.map (·.localName)).Nodup := by
  induction l generalizing c with
  | nil =>
    obtain rfl := Except.ok.inj h
    exact hc
  | cons d rest ih =>
    obtain ⟨c₁, h₁, h⟩ := Except.bind_ok_iff.1 h
    exact ih h (nodup_add h₁ hc)

/-! ## Accessors of plans -/

/-- An accessor has a capital only if hand-authored code or the schema chooses its name. -/
theorem hasCapital_accessorFor {code : HandCode} {model : String} {p : Property}
    (hcode : code.renamed? model p.handle = none) (hname : givenName? p.name = none) :
    Naming.hasCapital (accessorFor code model p) = false := by
  obtain ⟨hident, hreserved⟩ := Naming.isIdentifier_accessor
    (String.ofList (Text.snake (Naming.plainChars p.handle)))
  rw [accessorFor, hcode, Option.getD_none, Property.defaultName, hname, Naming.accessorName,
    Naming.accessor_of_isIdentifier hident hreserved]
  exact Naming.hasCapital_accessorName p.handle

mutual

/-- The declarations of a line are properties of types of the schema. -/
theorem Linear.exists_type {s : Schema} {t : ContentType} {l : List Declared} (ht : t ∈ s.types)
    {d : Declared} : Linear s t l → d ∈ l → ∃ u ∈ s.types, d.property ∈ u.properties
  | .type composed, hd => by
    rcases List.mem_append.1 hd with hd | hd
    · obtain ⟨x, hx, rfl⟩ := List.mem_map.1 hd
      exact ⟨t, ht, hx⟩
    · exact composed.exists_type hd

theorem LinearAll.exists_type {s : Schema} {names : List String} {l : List Declared}
    {d : Declared} : LinearAll s names l → d ∈ l → ∃ u ∈ s.types, d.property ∈ u.properties
  | .nil, hd => by simp at hd
  | .cons found first rest, hd => by
    rcases List.mem_append.1 hd with hd | hd
    · exact first.exists_type (List.mem_of_find?_eq_some found) hd
    · exact rest.exists_type hd

end

namespace Schema

variable {s : Schema} {code : HandCode} {p : Plan}

/-- The accessors of the plan of a type have different names, each made for a property of the
schema. -/
theorem accessors_of_planType {t : s.Member} {warnings : List Diagnostic}
    (h : s.planType code t = .ok (p, warnings)) :
    (p.properties.map (·.localName)).Nodup ∧ ∀ q ∈ p.properties, ∃ u ∈ s.types,
      ∃ x ∈ u.properties, q.handle = x.handle ∧ q.localName = accessorFor code p.className x := by
  obtain ⟨c, hc, h⟩ := Except.bind_ok_iff.1 h
  obtain ⟨choices, hchoices, h⟩ := Except.bind_ok_iff.1 h
  simp only [pure, Except.pure, Except.ok.injEq, Prod.mk.injEq] at h
  obtain ⟨rfl, -⟩ := h
  refine ⟨Choices.nodup_addAll hchoices .nil, fun q hq => ?_⟩
  rw [Choices.addAll_eq hchoices] at hq
  obtain ⟨e, he, rfl⟩ := List.mem_map.1 hq
  obtain ⟨l, hl, hdeclared⟩ := (exists_linear_of_compose s).1 t [] c hc
  rw [hdeclared] at he
  obtain ⟨d, hd, heq⟩ := eq_firstOf_of_mem_collapse (List.mem_filter.1 he).1
  obtain ⟨u, hu, hx⟩ := hl.exists_type t.2 (List.mem_of_find?_eq_some hd)
  exact ⟨u, hu, d.property, hx, by rw [heq]; rfl, by rw [heq]; rfl⟩

/-- No two accessors of a plan have the same name. -/
theorem nodup_localName (h : p ∈ (s.plan code).plans) : (p.properties.map (·.localName)).Nodup := by
  obtain ⟨t, q, warnings, planned, -, hok, rfl⟩ := exists_planType_of_mem_plans h
  exact (accessors_of_planType hok).1

/-- The accessors of a plan are made for properties of the schema. -/
theorem exists_property_of_mem_plans (h : p ∈ (s.plan code).plans) {q : PlannedProperty}
    (hq : q ∈ p.properties) : ∃ u ∈ s.types, ∃ x ∈ u.properties,
      q.handle = x.handle ∧ q.localName = accessorFor code p.className x := by
  obtain ⟨t, r, warnings, planned, -, hok, rfl⟩ := exists_planType_of_mem_plans h
  exact (accessors_of_planType hok).2 q hq

end Schema

end ContentModels
