import ContentModels.Proofs.Plan.AllTypes
import Mathlib.Data.List.Basic

/-!
# Composition in one line

The declarations that a type is composed of can be listed in one line: its own, then those of its
base, then those of its mixins in order, each of them with all that it is composed of in turn.
Composing a type merges lists of merged lists on its way through the schema. The plan of a type says
what merging the one line says.

## Main definitions

* `Linear` — the declarations that a type is composed of, in one line.
* `Plan.Reflects` — what a plan says of such a line.

## Main statements

* `Schema.exists_linear_of_compose` — composing a type is merging its line.
* `Schema.reflects_linear_of_mem_plans` — every plan reflects the line of its type.
-/

namespace ContentModels

/-! ## Lines of declarations -/

mutual

/-- The declarations that a type is composed of: its own ones, and then those of the types that it
is composed with. -/
inductive Linear (s : Schema) : ContentType → List Declared → Prop
  | type {t : ContentType} {l : List Declared} (composed : LinearAll s t.dependencies l) :
      Linear s t (Schema.ownDeclarations t ++ l)

/-- The declarations that the types with some handles are composed of, one type after the other. A
handle refers to the first type that has it. -/
inductive LinearAll (s : Schema) : List String → List Declared → Prop
  | nil : LinearAll s [] []
  | cons {handle : String} {more : List String} {t : ContentType} {l m : List Declared}
      (found : s.find? handle = some t) (first : Linear s t l) (rest : LinearAll s more m) :
      LinearAll s (handle :: more) (l ++ m)

end

mutual

/-- A type is composed of one line of declarations at most. -/
theorem Linear.unique {s : Schema} {t : ContentType} {l m : List Declared} :
    Linear s t l → Linear s t m → l = m
  | .type h, .type h' => by rw [h.unique h']

theorem LinearAll.unique {s : Schema} {names : List String} {l m : List Declared} :
    LinearAll s names l → LinearAll s names m → l = m
  | .nil, .nil => rfl
  | .cons found first rest, .cons found' first' rest' => by
    obtain rfl := Option.some.inj (found.symm.trans found')
    rw [first.unique first', rest.unique rest']

end

namespace Schema

theorem find?_of_member? {s : Schema} {handle : String} {t : s.Member}
    (h : s.member? handle = some t) : s.find? handle = some t.1 := by
  unfold member? at h
  split at h
  · next u hu => exact hu.trans (congrArg some (congrArg Subtype.val (Option.some.inj h)))
  · cases h

/-- Composing a type is merging its line, whatever is being composed already. The second part is
about the types that another one is composed with: their lines are merged with what it has so
far. -/
theorem exists_linear_of_compose (s : Schema) :
    (∀ (t : s.Member) (stack : List String) (c : Composed), s.compose t stack = .ok c →
      ∃ l, Linear s t.1 l ∧ c.declared = collapse l) ∧
    ∀ (owner : String) (stack names : List String) (c c' : Composed),
      s.composeWith owner stack names c = .ok c' →
      ∃ l, LinearAll s names l ∧ c'.declared = l.foldl absorb c.declared := by
  refine compose.mutual_induct s
    (fun t stack => ∀ c, s.compose t stack = .ok c →
      ∃ l, Linear s t.1 l ∧ c.declared = collapse l)
    (fun owner stack names c => ∀ c', s.composeWith owner stack names c = .ok c' →
      ∃ l, LinearAll s names l ∧ c'.declared = l.foldl absorb c.declared) ?_ ?_ ?_ ?_ ?_
  · intro t stack met c h
    rw [compose, dif_pos met] at h
    cases h
  · intro t stack unmet ih c h
    rw [compose, dif_neg unmet] at h
    obtain ⟨own, hown, h⟩ := Except.bind_ok_iff.1 h
    obtain ⟨l, hl, hc⟩ := ih own c h
    refine ⟨_, .type hl, ?_⟩
    rw [hc, Composed.addAll_declared hown, collapse, List.foldl_append]
  · intro owner stack c c' h
    rw [composeWith] at h
    obtain rfl := Except.ok.inj h
    exact ⟨[], .nil, rfl⟩
  · intro owner stack c handle more hnone c' h
    rw [composeWith, hnone] at h
    cases h
  · intro owner stack c handle more t hsome ihType ihMore c' h
    rw [composeWith, hsome] at h
    obtain ⟨inner, hinner, h⟩ := Except.bind_ok_iff.1 h
    obtain ⟨c₁, h₁, h⟩ := Except.bind_ok_iff.1 h
    obtain ⟨l, hl, hdeclared⟩ := ihType inner hinner
    obtain ⟨m, hm, hc⟩ := ihMore c₁ c' h
    refine ⟨l ++ m, .cons (find?_of_member? hsome) hl hm, ?_⟩
    rw [hc, Composed.addAll_declared h₁, hdeclared, foldl_absorb_collapse, List.foldl_append]

/-- No handle is declared twice among the properties of a type. -/
theorem nodup_handles_compose {s : Schema} {t : s.Member} {c : Composed}
    (h : s.compose t [] = .ok c) : (handles c.declared).Nodup := by
  obtain ⟨l, -, hdeclared⟩ := (exists_linear_of_compose s).1 t [] c h
  exact hdeclared ▸ nodup_handles_collapse l

end Schema

/-! ## Plans -/

/-- What a plan says of a line of declarations. -/
structure Plan.Reflects (p : Plan) (code : HandCode) (l : List Declared) : Prop where
  /-- The handles that are planned or skipped are those of the line. -/
  covers : (p.properties.map (·.handle) ++ p.skipped.map (·.handle)).Perm (handles l).eraseDups
  /-- Each of them is planned or skipped once. -/
  once : (p.properties.map (·.handle) ++ p.skipped.map (·.handle)).Nodup
  /-- Both lists follow the first occurrences in the line. -/
  plannedInOrder : (p.properties.map (·.handle)).Sublist (handles l).eraseDups
  skippedInOrder : (p.skipped.map (·.handle)).Sublist (handles l).eraseDups
  /-- The first declaration of a handle says what its values are and who declares it. -/
  first : ∀ q ∈ p.properties, ∃ d, firstOf l q.handle = some d ∧
    q.valueType = Text.trim d.property.valueType ∧ q.declaredBy = d.declaredBy
  /-- A property is ignored if any of its declarations is, or if a marker says so. -/
  ignored : ∀ handle, (∃ q ∈ p.skipped, q.handle = handle ∧ q.reason = .ignored) ↔
    handle ∈ handles l ∧
      ((∃ d ∈ l, d.property.handle = handle ∧ d.property.ignored = true) ∨
        code.isPropertyIgnored p.className handle = true)

theorem map_handle_plannedOf (code : HandCode) (model : String) (l : List Declared) :
    (plannedOf code model l).map (·.handle) =
      handles (l.filter fun d => (d.skip? code model).isNone) := by
  simp [plannedOf, handles, Declared.planned]

theorem map_handle_skippedOf (code : HandCode) (model : String) (l : List Declared) :
    (skippedOf code model l).map (·.handle) =
      handles (l.filter fun d => !(d.skip? code model).isNone) := by
  induction l with
  | nil => rfl
  | cons d rest ih =>
    cases h : d.skip? code model <;>
      simpa [skippedOf, h] using ih

theorem ignoresHandle_eq_true_iff {l : List Declared} {handle : String} :
    ignoresHandle l handle = true ↔
      ∃ d ∈ l, d.property.handle = handle ∧ d.property.ignored = true := by
  simp [ignoresHandle]

/-- Which properties of a merged line are ignored. -/
theorem exists_ignored_iff (code : HandCode) (model : String) (l : List Declared)
    (handle : String) :
    (∃ q ∈ skippedOf code model (collapse l), q.handle = handle ∧ q.reason = .ignored) ↔
      handle ∈ handles l ∧
        (ignoresHandle l handle = true ∨ code.isPropertyIgnored model handle = true) := by
  have ignored_iff {e d : Declared} (h : firstOf l e.property.handle = some d)
      (he : e = d.ignoreIf (ignoresHandle l e.property.handle)) :
      e.property.ignored = true ↔ ignoresHandle l e.property.handle = true := by
    have hignored : e.property.ignored = (d.property.ignored || _) :=
      congrArg (·.property.ignored) he
    have heq : d.property.handle = e.property.handle := by simpa using List.find?_some h
    rw [hignored, Bool.or_eq_true]
    refine ⟨fun hd => hd.elim (fun hd => ?_) id, .inr⟩
    exact ignoresHandle_eq_true_iff.2 ⟨d, List.mem_of_find?_eq_some h, heq, hd⟩
  constructor
  · rintro ⟨q, hq, rfl, hreason⟩
    obtain ⟨e, he, hskip⟩ := List.mem_filterMap.1 hq
    obtain ⟨reason, hsome, rfl⟩ := Option.map_eq_some_iff.1 hskip
    obtain rfl : reason = .ignored := hreason
    obtain ⟨d, hd, heq⟩ := eq_firstOf_of_mem_collapse he
    refine ⟨mem_handles_collapse.1 (List.mem_map.2 ⟨e, he, rfl⟩), ?_⟩
    rcases (e.skip?_eq_ignored_iff code model).1 hsome with h | h
    · exact .inl ((ignored_iff hd heq).1 h)
    · exact .inr h
  · rintro ⟨hmem, h⟩
    obtain ⟨e, he, rfl⟩ := List.mem_map.1 (mem_handles_collapse.2 hmem)
    obtain ⟨d, hd, heq⟩ := eq_firstOf_of_mem_collapse he
    have hskip : e.skip? code model = some .ignored := (e.skip?_eq_ignored_iff code model).2
      (h.imp (ignored_iff hd heq).2 id)
    refine ⟨⟨e.property.handle, accessorFor code model e.property, .ignored⟩, ?_, rfl, rfl⟩
    exact List.mem_filterMap.2 ⟨e, he, by rw [hskip]; rfl⟩

/-- A plan that decides about a merged line in order reflects the line. -/
theorem Plan.reflects_of_eq {p : Plan} {code : HandCode} {l : List Declared}
    (hproperties : p.properties = plannedOf code p.className (collapse l))
    (hskipped : p.skipped = skippedOf code p.className (collapse l)) : p.Reflects code l := by
  have hperm : (p.properties.map (·.handle) ++ p.skipped.map (·.handle)).Perm
      (handles (collapse l)) := by
    rw [hproperties, hskipped, map_handle_plannedOf, map_handle_skippedOf, ← handles_append]
    exact (List.filter_append_perm _ _).map _
  constructor
  case covers => rwa [handles_collapse] at hperm
  case once => exact hperm.nodup_iff.2 (nodup_handles_collapse l)
  case plannedInOrder =>
    rw [hproperties, map_handle_plannedOf, ← handles_collapse]
    exact List.filter_sublist.map _
  case skippedInOrder =>
    rw [hskipped, map_handle_skippedOf, ← handles_collapse]
    exact List.filter_sublist.map _
  case first =>
    intro q hq
    rw [hproperties] at hq
    obtain ⟨e, he, rfl⟩ := List.mem_map.1 hq
    obtain ⟨d, hd, heq⟩ := eq_firstOf_of_mem_collapse (List.mem_of_mem_filter he)
    refine ⟨d, hd, ?_, ?_⟩
    · rw [Declared.planned, heq, Declared.ignoreIf_valueType]
    · rw [Declared.planned, heq, Declared.ignoreIf_declaredBy]
  case ignored =>
    intro handle
    rw [hskipped, exists_ignored_iff, ignoresHandle_eq_true_iff]

/-- Every plan reflects the one line of declarations that its type is composed of. The type is the
first one that asks for the model name of the plan. -/
theorem Schema.reflects_linear_of_mem_plans (s : Schema) (code : HandCode) (plan : Plan)
    (h : plan ∈ (s.plan code).plans) :
    ∃ t, firstAsking code s.types plan.className = some t ∧ t.handle = plan.handle ∧
      ∃ l, Linear s t l ∧ (∀ m, Linear s t m → m = l) ∧ plan.Reflects code l := by
  obtain ⟨t, q, warnings, planned, hfirst, hok, rfl⟩ := exists_planType_of_mem_plans h
  obtain ⟨c, hc, -, hhandle, hname, hproperties, hskipped⟩ := planType_eq hok
  obtain ⟨l, hl, hdeclared⟩ := (exists_linear_of_compose s).1 t [] c hc
  refine ⟨t.1, hfirst, hhandle.symm, l, hl, fun m hm => hm.unique hl, ?_⟩
  apply Plan.reflects_of_eq
  · rw [← hdeclared, Plan.keepReferences, hproperties, hname]
  · rw [← hdeclared, Plan.keepReferences, hskipped, hname]

/-! ### A page with a mixin

The mixin is declared behind the page, and ignores a property that the page declares too. -/

/-- Two types that declare one property, one of which is composed with the other. -/
def linked : Schema where
  types := [
    { handle := "page", name := some "Page", mixins := ["core"]
      properties := [{ handle := "note", name := some "note", valueType := " u8 " },
        { handle := "title", name := some "title", valueType := " String" }] },
    { handle := "core", name := some "Core"
      properties := [{ handle := "note", name := some "note", valueType := "u8", ignored := true }] }]

/-- The page of `linked`. -/
def linkedPage : linked.Member := ⟨linked.types[0], by simp [linked]⟩

/-- The mixin of `linked`. -/
def linkedCore : linked.Member := ⟨linked.types[1], by simp [linked]⟩

theorem compose_linkedPage : linked.compose linkedPage [] = .ok ⟨collapse
    (Schema.ownDeclarations linkedPage.1 ++ Schema.ownDeclarations linkedCore.1), []⟩ := by
  rw [Schema.compose, dif_neg (by decide)]
  change linked.composeWith "page" ["page"] ["core"] _ = _
  rw [Schema.composeWith, show linked.member? "core" = some linkedCore from rfl]
  change (linked.compose linkedCore ["page"] >>= _) = _
  rw [Schema.compose_of_alone (by decide) rfl rfl]
  change linked.composeWith "page" ["page"] [] _ = _
  rw [Schema.composeWith]
  rfl

/-- The plan of the page. -/
def linkedPlan : Plan where
  handle := "page"
  className := "Page"
  mixins := [⟨"core", "Core"⟩]
  properties := [⟨"title", "title", "String", "page"⟩]
  skipped := [⟨"note", "note", .ignored⟩]

theorem linkedPlan_mem_plans : linkedPlan ∈ (linked.plan {}).plans := by
  change linkedPlan ∈ (((Planning.add {} linked {} linkedPage).add linked {} linkedCore).result).plans
  have hcore : linked.compose linkedCore [] = .ok ⟨Schema.ownDeclarations linkedCore.1, []⟩ :=
    Schema.compose_of_alone rfl rfl rfl
  simp only [Planning.add, Planning.addNamed, Schema.planType, compose_linkedPage, hcore]
  decide

theorem reflects_linear_linkedPlan : linkedPlan ∈ (linked.plan {}).plans ∧
    ∃ t, firstAsking {} linked.types linkedPlan.className = some t ∧
      t.handle = linkedPlan.handle ∧
      ∃ l, Linear linked t l ∧ (∀ m, Linear linked t m → m = l) ∧ linkedPlan.Reflects {} l :=
  ⟨linkedPlan_mem_plans,
    Schema.reflects_linear_of_mem_plans linked {} linkedPlan linkedPlan_mem_plans⟩

end ContentModels
