import ContentModels.Proofs.HandFile.Merging
import ContentModels.Proofs.Plan.Accessors
import Mathlib.Data.List.Nodup

/-!
# Accessors that collide

A property gets an accessor unless it is ignored or the accessor is written by hand. The planning of
a type fails if two such accessors would have the same name, and for no other reason once the
properties of the type are known. So the accessors of a plan are apart from each other and from what
is written by hand.

## Main definitions

* `Declared.IsOpen` — a property that is to get an accessor.
* `Collide` — two properties that would have the same accessor.
* `Plan.IsProper` — what holds of the accessors of a plan.

## Main statements

* `Choices.exists_of_addAll_error` — where deciding about properties fails.
* `Schema.exists_collide_of_planType`, `Schema.planType_ne_ok_of_collide` — when the planning of a
  type fails.
* `Schema.isProper_of_mem_plans` — the accessors of every plan.
* `Schema.accessors_apart` — all of it.
-/

namespace ContentModels

/-! ## One property -/

/-- A property is to get an accessor in a model: it is neither ignored nor written by hand. -/
structure Declared.IsOpen (d : Declared) (code : HandCode) (model : String) : Prop where
  kept : d.property.ignored = false
  unmarked : code.isPropertyIgnored model d.property.handle = false
  unwritten : code.isDeclared model (accessorFor code model d.property) = false

theorem Declared.skip?_eq_none_iff {d : Declared} {code : HandCode} {model : String} :
    d.skip? code model = none ↔ d.IsOpen code model := by
  constructor
  · intro h
    unfold skip? at h
    split at h
    · cases h
    · next hkept =>
      split at h
      · cases h
      · next hwritten =>
        rw [Bool.or_eq_true, not_or, Bool.not_eq_true, Bool.not_eq_true] at hkept
        exact ⟨hkept.1, hkept.2, by simpa using hwritten⟩
  · intro h
    simp [skip?, h.kept, h.unmarked, h.unwritten]

/-- A property is left to hand-authored code if that has the accessor and nothing ignores it. -/
theorem Declared.skip?_eq_declaredByHand_iff {d : Declared} {code : HandCode} {model : String} :
    d.skip? code model = some .declaredByHand ↔ d.property.ignored = false ∧
      code.isPropertyIgnored model d.property.handle = false ∧
      code.isDeclared model (accessorFor code model d.property) = true := by
  rw [skip?]
  cases d.property.ignored <;> cases code.isPropertyIgnored model d.property.handle <;>
    cases code.isDeclared model (accessorFor code model d.property) <;> simp

theorem mem_plannedOf {code : HandCode} {model : String} {l : List Declared} {q : PlannedProperty} :
    q ∈ plannedOf code model l ↔ ∃ d ∈ l, d.IsOpen code model ∧ d.planned code model = q := by
  simp [plannedOf, Declared.skip?_eq_none_iff, and_assoc]

theorem mem_skippedOf {code : HandCode} {model : String} {l : List Declared} {q : SkippedProperty} :
    q ∈ skippedOf code model l ↔ ∃ d ∈ l, ∃ reason, d.skip? code model = some reason ∧
      ⟨d.property.handle, accessorFor code model d.property, reason⟩ = q := by
  simp [skippedOf]

/-! ## Two properties -/

/-- Two properties of different handles are to get accessors of the same name. -/
structure Collide (code : HandCode) (model : String) (d e : Declared) : Prop where
  first : d.IsOpen code model
  second : e.IsOpen code model
  handles_ne : d.property.handle ≠ e.property.handle
  same : accessorFor code model d.property = accessorFor code model e.property

/-- Deciding about properties in order fails at one whose accessor an earlier one has. -/
theorem Choices.exists_of_addAll_error {c : Choices} {code : HandCode} {type model : String}
    {l : List Declared} {e : PlanError} (h : c.addAll code type model l = .error e) :
    ∃ (before : List Declared) (d : Declared) (after : List Declared),
      l = before ++ d :: after ∧ d.IsOpen code model ∧
        ∃ q ∈ c.properties ++ plannedOf code model before,
          q.localName = accessorFor code model d.property ∧
            e = PlanError.sameAccessor type q.handle d.property.handle q.localName := by
  induction l generalizing c with
  | nil => cases h
  | cons d rest ih =>
    rw [addAll] at h
    cases hadd : c.add code type model d with
    | error e' =>
      rw [hadd] at h
      obtain rfl : e' = e := Except.error.inj h
      cases hskip : d.skip? code model with
      | some reason =>
        rw [add_of_skip? hskip] at hadd
        cases hadd
      | none =>
        rw [add_of_planned hskip] at hadd
        cases hnamed : c.named? (accessorFor code model d.property) with
        | none =>
          rw [hnamed] at hadd
          cases hadd
        | some q =>
          rw [hnamed] at hadd
          have hname : q.localName = accessorFor code model d.property := by
            simpa using List.find?_some hnamed
          refine ⟨[], d, rest, rfl, Declared.skip?_eq_none_iff.1 hskip, q, ?_, hname, ?_⟩
          · simpa using List.mem_of_find?_eq_some hnamed
          · rw [hname, Except.error.inj hadd]
    | ok c₁ =>
      rw [hadd] at h
      obtain ⟨before, d', after, rfl, hopen, q, hq, hname, herror⟩ := ih h
      refine ⟨d :: before, d', after, rfl, hopen, q, ?_, hname, herror⟩
      rw [add_eq hadd, List.append_assoc, ← plannedOf_append] at hq
      exact hq

namespace Schema

variable {s : Schema} {code : HandCode} {t : s.Member} {c : Composed}

/-- Once the properties of a type are known, its planning is deciding about them. -/
theorem planType_error_iff (hc : s.compose t [] = .ok c) {e : PlanError} :
    s.planType code t = .error e ↔
      Choices.addAll {} code t.1.handle t.1.modelName c.declared = .error e := by
  unfold planType
  rw [hc]
  change (Choices.addAll {} code t.1.handle t.1.modelName c.declared).bind _ = _ ↔ _
  cases Choices.addAll {} code t.1.handle t.1.modelName c.declared with
  | error e' => simp only [Except.bind, Except.error.injEq]
  | ok choices => simp only [Except.bind, pure, Except.pure, reduceCtorEq]

/-- Planning fails at two properties that collide, and names them. -/
theorem exists_collide_of_planType (hc : s.compose t [] = .ok c) {e : PlanError}
    (h : s.planType code t = .error e) : ∃ d ∈ c.declared, ∃ d' ∈ c.declared,
      Collide code t.1.modelName d d' ∧ e = .sameAccessor t.1.handle d.property.handle
        d'.property.handle (accessorFor code t.1.modelName d.property) := by
  obtain ⟨before, d', after, hl, hopen', q, hq, hname, rfl⟩ :=
    Choices.exists_of_addAll_error ((planType_error_iff hc).1 h)
  obtain ⟨d, hd, hopen, rfl⟩ := mem_plannedOf.1 hq
  rw [Declared.planned_localName] at hname
  have hnodup := nodup_handles_compose hc
  rw [hl, handles_append] at hnodup
  have hne : d.property.handle ≠ d'.property.handle :=
    (List.nodup_append.1 hnodup).2.2 _ (List.mem_map_of_mem hd) _ (by simp)
  refine ⟨d, by simp [hl, hd], d', by simp [hl], ⟨hopen, hopen', hne, hname⟩, ?_⟩
  rw [Declared.planned_handle, Declared.planned_localName]

/-- A type with two properties that collide cannot be planned. -/
theorem planType_ne_ok_of_collide (hc : s.compose t [] = .ok c) {d d' : Declared}
    (hd : d ∈ c.declared) (hd' : d' ∈ c.declared) (h : Collide code t.1.modelName d d')
    {p : Plan} {warnings : List Diagnostic} : s.planType code t ≠ .ok (p, warnings) := by
  intro hok
  obtain ⟨c', hc', -, -, hname, hproperties, -⟩ := planType_eq hok
  obtain rfl := Except.ok.inj (hc.symm.trans hc')
  have hnodup := (accessors_of_planType hok).1
  have hmem {x : Declared} (hx : x ∈ c.declared) (hopen : x.IsOpen code t.1.modelName) :
      x.planned code t.1.modelName ∈ p.properties :=
    hproperties ▸ mem_plannedOf.2 ⟨x, hx, hopen, rfl⟩
  have hsame : (d.planned code t.1.modelName).localName = (d'.planned code t.1.modelName).localName := by
    rw [Declared.planned_localName, Declared.planned_localName, h.same]
  have heq := List.inj_on_of_nodup_map hnodup (hmem hd h.first) (hmem hd' h.second) hsame
  exact h.handles_ne (congrArg PlannedProperty.handle heq)

/-- A type whose properties are known cannot be planned if and only if two of them collide. -/
theorem exists_planType_error_iff (hc : s.compose t [] = .ok c) :
    (∃ e, s.planType code t = .error e) ↔
      ∃ d ∈ c.declared, ∃ d' ∈ c.declared, Collide code t.1.modelName d d' := by
  constructor
  · rintro ⟨e, he⟩
    obtain ⟨d, hd, d', hd', hcollide, -⟩ := exists_collide_of_planType hc he
    exact ⟨d, hd, d', hd', hcollide⟩
  · rintro ⟨d, hd, d', hd', hcollide⟩
    cases hplan : s.planType code t with
    | error e => exact ⟨e, rfl⟩
    | ok r => exact absurd hplan (planType_ne_ok_of_collide hc hd hd' hcollide)

end Schema

/-! ## Plans -/

/-- What holds of the accessors of a plan, next to the declarations that its type is composed of,
and to what files of hand-authored code say. -/
structure Plan.IsProper (p : Plan) (files : List Contribution) (l : List Declared) : Prop where
  /-- No property is there twice. -/
  handles : (p.properties.map (·.handle) ++ p.skipped.map (·.handle)).Nodup
  /-- No two accessors have the same name. -/
  names : (p.properties.map (·.localName)).Nodup
  /-- The names of accessors are identifiers that the model does not use itself. -/
  legal : ∀ q ∈ p.properties,
    Naming.isIdentifier q.localName = true ∧ Naming.isReserved q.localName = false
  /-- No accessor is written by hand as well. -/
  unwritten : ∀ q ∈ p.properties, ∀ file ∈ files, file.declares p.className q.localName = false
  /-- A property is left to hand-authored code only if that has its accessor, and if neither the
  schema nor a marker ignores it. -/
  byHand : ∀ q ∈ p.skipped, q.reason = .declaredByHand →
    (∃ file ∈ files, file.declares p.className q.localName = true) ∧
      (∀ d ∈ l, d.property.handle = q.handle → d.property.ignored = false) ∧
      (HandCode.ofContributions files).isPropertyIgnored p.className q.handle = false

theorem isIdentifier_accessorFor (code : HandCode) (model : String) (p : Property) :
    Naming.isIdentifier (accessorFor code model p) = true ∧
      Naming.isReserved (accessorFor code model p) = false :=
  Naming.isIdentifier_accessor _

/-- The declarations of a merged line are ignored only if one in the line is. -/
theorem ignored_eq_false_of_mem_collapse {l : List Declared} {e : Declared} (he : e ∈ collapse l)
    (h : e.property.ignored = false) {d : Declared} (hd : d ∈ l)
    (hhandle : d.property.handle = e.property.handle) : d.property.ignored = false := by
  obtain ⟨f, -, heq⟩ := eq_firstOf_of_mem_collapse he
  have hnone : ignoresHandle l e.property.handle = false := by
    rw [heq, Declared.ignoreIf_ignored, Bool.or_eq_false_iff] at h
    exact h.2
  simpa [hhandle] using List.any_eq_false.1 hnone d hd

/-- The accessors of a plan that decides about a merged line in order. -/
theorem Plan.isProper_of_eq {p : Plan} {files : List Contribution} {l : List Declared}
    (hproperties : p.properties =
      plannedOf (HandCode.ofContributions files) p.className (collapse l))
    (hskipped : p.skipped = skippedOf (HandCode.ofContributions files) p.className (collapse l))
    (hnames : (p.properties.map (·.localName)).Nodup) : p.IsProper files l where
  handles := (Plan.reflects_of_eq hproperties hskipped).once
  names := hnames
  legal q hq := by
    obtain ⟨d, -, -, rfl⟩ := mem_plannedOf.1 (hproperties ▸ hq)
    rw [Declared.planned_localName]
    exact isIdentifier_accessorFor ..
  unwritten q hq := by
    obtain ⟨d, -, hopen, rfl⟩ := mem_plannedOf.1 (hproperties ▸ hq)
    have hnone := hopen.unwritten
    rw [HandCode.isDeclared_ofContributions, List.any_eq_false] at hnone
    rw [Declared.planned_localName]
    exact fun file hfile => Bool.eq_false_iff.2 (hnone file hfile)
  byHand q hq hreason := by
    obtain ⟨d, hd, reason, hskip, rfl⟩ := mem_skippedOf.1 (hskipped ▸ hq)
    dsimp only at hreason ⊢
    subst hreason
    obtain ⟨hkept, hunmarked, hwritten⟩ := Declared.skip?_eq_declaredByHand_iff.1 hskip
    rw [HandCode.isDeclared_ofContributions, List.any_eq_true] at hwritten
    exact ⟨hwritten, fun e he => ignored_eq_false_of_mem_collapse hd hkept he, hunmarked⟩

namespace Schema

variable {s : Schema} {files : List Contribution} {p : Plan}

/-- The accessors of every plan are proper next to the declarations of its type. -/
theorem isProper_of_mem_plans (h : p ∈ (s.plan (HandCode.ofContributions files)).plans) :
    ∃ t l, firstAsking (HandCode.ofContributions files) s.types p.className = some t ∧
      Linear s t l ∧ p.IsProper files l := by
  have hnames := nodup_localName h
  obtain ⟨t, q, warnings, planned, hfirst, hok, rfl⟩ := exists_planType_of_mem_plans h
  obtain ⟨c, hc, -, -, hname, hproperties, hskipped⟩ := planType_eq hok
  obtain ⟨l, hl, hdeclared⟩ := (exists_linear_of_compose s).1 t [] c hc
  refine ⟨t.1, l, hfirst, hl, Plan.isProper_of_eq ?_ ?_ hnames⟩
  · rw [← hdeclared, Plan.keepReferences, hproperties, hname]
  · rw [← hdeclared, Plan.keepReferences, hskipped, hname]

/-- The accessors of a plan are unique and legal, and repeat no member that any file writes by hand.
A type whose properties are known cannot be planned if and only if two of them, neither ignored nor
written by hand, would have the same accessor, and that is what the error says. -/
theorem accessors_apart (s : Schema) (files : List Contribution) :
    let code := HandCode.ofContributions files
    (∀ p ∈ (s.plan code).plans, ∃ t l, firstAsking code s.types p.className = some t ∧
      Linear s t l ∧ p.IsProper files l) ∧
    ∀ (t : s.Member) (c : Composed), s.compose t [] = .ok c →
      ((∃ e, s.planType code t = .error e) ↔
        ∃ d ∈ c.declared, ∃ d' ∈ c.declared, Collide code t.1.modelName d d') ∧
      ∀ e, s.planType code t = .error e → ∃ d ∈ c.declared, ∃ d' ∈ c.declared,
        Collide code t.1.modelName d d' ∧ e = .sameAccessor t.1.handle d.property.handle
          d'.property.handle (accessorFor code t.1.modelName d.property) := by
  intro code
  refine ⟨fun p hp => isProper_of_mem_plans hp, fun t c hc => ⟨?_, fun e he => ?_⟩⟩
  · exact exists_planType_error_iff hc
  · exact exists_collide_of_planType hc he

end Schema

/-! ### A page with an accessor by hand, and a page whose accessors collide -/

/-- Two pages. The properties of the second one ask for one name. -/
def crossed : Schema where
  types := [
    { handle := "page", name := some "Page"
      properties := [{ handle := "body", name := some "body", valueType := "String" },
        { handle := "title", name := some "title", valueType := "String" }] },
    { handle := "twin", name := some "Twin"
      properties := [{ handle := "left", name := some "side", valueType := "u8" },
        { handle := "right", name := some "side", valueType := "u8" }] }]

/-- The pages of `crossed`. -/
def crossedPage : crossed.Member := ⟨crossed.types[0], by simp [crossed]⟩
def crossedTwin : crossed.Member := ⟨crossed.types[1], by simp [crossed]⟩

/-- A file that declares an accessor of the first page. -/
def crossedFiles : List Contribution :=
  [Contribution.customise { path := ⟨"page.rs"⟩ } "Page" fun m =>
    { m with members := SortedSet.add m.members "body" }]

/-- The plan of the first page. -/
def crossedPlan : Plan where
  handle := "page"
  className := "Page"
  properties := [⟨"title", "title", "String", "page"⟩]
  skipped := [⟨"body", "body", .declaredByHand⟩]

theorem compose_crossed :
    crossed.compose crossedPage [] = .ok ⟨Schema.ownDeclarations crossedPage.1, []⟩ ∧
      crossed.compose crossedTwin [] = .ok ⟨Schema.ownDeclarations crossedTwin.1, []⟩ :=
  ⟨Schema.compose_of_alone rfl rfl rfl, Schema.compose_of_alone rfl rfl rfl⟩

theorem crossedPlan_mem_plans :
    crossedPlan ∈ (crossed.plan (HandCode.ofContributions crossedFiles)).plans := by
  change crossedPlan ∈ (((Planning.add {} crossed (HandCode.ofContributions crossedFiles)
    crossedPage).add crossed (HandCode.ofContributions crossedFiles) crossedTwin).result).plans
  simp only [Planning.add, Planning.addNamed, Schema.planType, compose_crossed.1, compose_crossed.2]
  decide

/-- The property of the first page that is written by hand gets no accessor, and the second page
cannot be planned. -/
theorem Schema.accessors_apart_crossed :
    let code := HandCode.ofContributions crossedFiles
    crossedPlan ∈ (crossed.plan code).plans ∧ (∃ t l, firstAsking code crossed.types "Page" = some t ∧
      Linear crossed t l ∧ crossedPlan.IsProper crossedFiles l) ∧
    crossed.compose crossedTwin [] = .ok ⟨Schema.ownDeclarations crossedTwin.1, []⟩ ∧
      ∃ e, crossed.planType code crossedTwin = .error e := by
  intro code
  refine ⟨crossedPlan_mem_plans, (accessors_apart crossed crossedFiles).1 _ crossedPlan_mem_plans,
    compose_crossed.2, ?_⟩
  refine ((accessors_apart crossed crossedFiles).2 _ _ compose_crossed.2).1.2 ⟨⟨?left, "twin"⟩, ?_,
    ⟨?right, "twin"⟩, ?_, ⟨?_, ?_, ?_⟩, ⟨?_, ?_, ?_⟩, ?_, ?_⟩
  case left => exact { handle := "left", name := some "side", valueType := "u8" }
  case right => exact { handle := "right", name := some "side", valueType := "u8" }
  all_goals decide

end ContentModels
