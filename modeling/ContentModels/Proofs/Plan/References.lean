import ContentModels.Proofs.Plan.Accounting
import ContentModels.Proofs.Plan.Linearisation
import ContentModels.Rendering.Index
import Mathlib.Data.List.Nodup

/-!
# The references of plans

A plan refers to the models of the types that its own type is composed with, as far as some type
with the handle of the reference has a plan. A handle refers to the first type that has it. So a
reference is to a model that is generated, unless the first type with its handle has no plan and a
later one with the same handle has one.

## Main definitions

* `Plan.Refers` — what the references of a plan are like in any schema.
* `Plan.Linked` — whether the references of a plan are to models that are generated.
* `Schema.IsUnambiguous` — whether the types of one handle have one model name.

## Main statements

* `Schema.notMem_of_compose` — a type that can be composed is not composed with itself.
* `Schema.planType_references` — the references of a type that can be planned.
* `Plan.linked_of_generated` — references to models that are generated are to different ones.
* `Schema.linked_of_mem_plans` — the references of the plans of a schema.
-/

namespace ContentModels

/-! ## References of one type -/

theorem Schema.handle_of_find? {s : Schema} {handle : String} {t : ContentType}
    (h : s.find? handle = some t) : t.handle = handle := by
  simpa using List.find?_some h

theorem Schema.mem_of_find? {s : Schema} {handle : String} {t : ContentType}
    (h : s.find? handle = some t) : t ∈ s.types := List.mem_of_find?_eq_some h

theorem Schema.notMem_of_composeWith {s : Schema} {owner : String} {stack names : List String}
    {c c' : Composed} (h : s.composeWith owner stack names c = .ok c') :
    ∀ handle ∈ names, handle ∉ stack := by
  induction names generalizing c with
  | nil => simp
  | cons handle more ih =>
    rw [composeWith] at h
    split at h
    · cases h
    · next t hsome =>
      obtain ⟨inner, hinner, h⟩ := Except.bind_ok_iff.1 h
      obtain ⟨c₁, -, h⟩ := Except.bind_ok_iff.1 h
      refine List.forall_mem_cons.2 ⟨fun hmem => ?_, ih h⟩
      have hhandle := handle_of_find? (find?_of_member? hsome)
      rw [compose, dif_pos (by simpa [hhandle] using hmem)] at hinner
      cases hinner

/-- A type that can be composed is not composed with itself. -/
theorem Schema.notMem_of_compose {s : Schema} {t : s.Member} {stack : List String} {c : Composed}
    (h : s.compose t stack = .ok c) : t.1.handle ∉ t.1.dependencies := by
  rw [compose] at h
  split at h
  · cases h
  · obtain ⟨own, -, h⟩ := Except.bind_ok_iff.1 h
    intro hmem
    exact notMem_of_composeWith h _ hmem (by simp)

theorem distinctRefs_sublist (seen : List String) (l : List ModelRef) :
    (distinctRefs seen l).Sublist l := by
  induction l generalizing seen with
  | nil => exact .refl _
  | cons r rest ih =>
    rw [distinctRefs]
    split
    · exact (ih seen).cons r
    · exact (ih _).cons_cons r

/-- The handles of distinct references differ from each other, and from those seen before. -/
theorem nodup_distinctRefs (seen : List String) (l : List ModelRef) :
    ((distinctRefs seen l).map (·.handle)).Nodup ∧
      ∀ r ∈ distinctRefs seen l, r.handle ∉ seen := by
  induction l generalizing seen with
  | nil => exact ⟨.nil, by simp [distinctRefs]⟩
  | cons r rest ih =>
    rw [distinctRefs]
    split
    · exact ih seen
    · next hseen =>
      obtain ⟨hnodup, hnew⟩ := ih (r.handle :: seen)
      constructor
      · refine List.nodup_cons.2 ⟨fun hmem => ?_, hnodup⟩
        obtain ⟨q, hq, heq⟩ := List.mem_map.1 hmem
        exact hnew q hq (heq ▸ List.mem_cons_self)
      · refine List.forall_mem_cons.2 ⟨by simpa using hseen, fun q hq hmem => ?_⟩
        exact hnew q hq (List.mem_cons_of_mem _ hmem)

/-- The references of a type that can be planned: those to the types that it is composed with, each
once. -/
theorem Schema.planType_references {s : Schema} {code : HandCode} {t : s.Member} {p : Plan}
    {warnings : List Diagnostic} (h : s.planType code t = .ok (p, warnings)) :
    p.references = distinctRefs [] (t.1.dependencies.filterMap s.reference?) := by
  obtain ⟨c, -, h⟩ := Except.bind_ok_iff.1 h
  obtain ⟨choices, -, h⟩ := Except.bind_ok_iff.1 h
  obtain ⟨rfl, -⟩ := Prod.ext_iff.1 (Except.ok.inj h)
  have hbase (o : Option String) :
      o.toList.filterMap s.reference? = (o.bind s.reference?).toList := by
    rcases o with _ | handle
    · rfl
    · cases href : s.reference? handle <;> simp [href]
  rw [Plan.references, ContentType.dependencies, List.filterMap_append, hbase]
  cases t.1.base.bind s.reference? with
  | none => rfl
  | some r => simp [distinctRefs]

theorem Plan.references_keepReferences (p : Plan) (planned : List String) :
    (p.keepReferences planned).references =
      p.references.filter fun r => planned.contains r.handle := by
  rw [references, references, keepReferences, List.filter_append]
  congr 1
  rcases p.base with _ | r
  · rfl
  · cases hr : planned.contains r.handle <;> simp_all

/-- References are kept alike where the types that they are to are known alike. -/
theorem Plan.keepReferences_congr {p : Plan} {planned planned' : List String}
    (h : ∀ r ∈ p.references, planned.contains r.handle = planned'.contains r.handle) :
    p.keepReferences planned = p.keepReferences planned' := by
  have hbase : p.base.filter (fun r => planned.contains r.handle) =
      p.base.filter fun r => planned'.contains r.handle := by
    cases hb : p.base with
    | none => rfl
    | some r => simp only [Option.filter, h r (by simp [references, hb])]
  have hmixins : p.mixins.filter (fun r => planned.contains r.handle) =
      p.mixins.filter fun r => planned'.contains r.handle :=
    List.filter_congr fun r hr => h r (by simp [references, hr])
  rw [keepReferences, keepReferences, hbase, hmixins]

/-! ## References of plans -/

/-- What the references of a plan are like in any schema. -/
structure Plan.Refers (p : Plan) (s : Schema) (plans : List Plan) : Prop where
  /-- A reference is to the model of the first type with its handle. That type has a plan, or
  another one with the same handle and with another model name has. -/
  target : ∀ r ∈ p.references, ∃ t, s.find? r.handle = some t ∧ r.className = t.modelName ∧
    (t.label ∈ plans.map Plan.label ∨
      ∃ u ∈ s.types, u.handle = t.handle ∧ u.modelName ≠ t.modelName ∧
        u.label ∈ plans.map Plan.label)
  /-- No reference is to the handle of the plan itself. -/
  others : ∀ r ∈ p.references, r.handle ≠ p.handle
  /-- No two references are to one handle. -/
  once : (p.references.map (·.handle)).Nodup

/-- The types of one handle have one model name. -/
def Schema.IsUnambiguous (s : Schema) : Prop :=
  ∀ t ∈ s.types, ∀ u ∈ s.types, t.handle = u.handle → t.modelName = u.modelName

/-- The references of a plan are to models that are generated. -/
structure Plan.Linked (p : Plan) (plans : List Plan) : Prop where
  /-- Every reference is to the model of a plan. -/
  generated : ∀ r ∈ p.references, (r.handle, r.className) ∈ plans.map Plan.label
  /-- No reference is to the model itself. -/
  others : ∀ r ∈ p.references, r.className ≠ p.className
  /-- No two references are to one model. -/
  once : (p.references.map (·.className)).Nodup
  /-- The index makes the model of every reference known under its name. -/
  exported : ∀ r ∈ p.references, ∀ space handFiles,
    "pub use self::" ++ Rendering.modelModule r.className ++ "::" ++ r.className ++ ";" ∈
      Rendering.indexLines space plans handFiles
  /-- No conversion is written twice. -/
  convertsOnce : (p.references.map (Rendering.conversion p.className)).Nodup

theorem Rendering.conversion_inj {name : String} {r r' : ModelRef}
    (h : conversion name r = conversion name r') : r.className = r'.className := by
  have hline := (List.cons.inj (List.cons.inj h).2).1
  have hchars := congrArg String.toList hline
  exact String.toList_inj.1 (by simpa using hchars)

theorem Rendering.mem_indexLines {plans : List Plan} {q : Plan} (h : q ∈ plans) (space : String)
    (handFiles : List Path) :
    "pub use self::" ++ modelModule q.className ++ "::" ++ q.className ++ ";" ∈
      indexLines space plans handFiles := by
  have hentry : "pub use self::" ++ modelModule q.className ++ "::" ++ q.className ++ ";" ∈
      plans.flatMap modelEntry := List.mem_flatMap.2 ⟨q, h, by simp [modelEntry]⟩
  rw [indexLines]
  exact List.mem_append_left _ (List.mem_append_right _ hentry)

/-- References to models that are generated are to models of their own: model names are given once,
and no two references are to one handle. -/
theorem Plan.linked_of_generated {p : Plan} {s : Schema} {plans : List Plan} (hp : p ∈ plans)
    (named : (plans.map (·.className)).Pairwise (· < ·)) (refers : p.Refers s plans)
    (generated : ∀ r ∈ p.references, (r.handle, r.className) ∈ plans.map Plan.label) :
    p.Linked plans := by
  have unique : ∀ q ∈ plans, ∀ q' ∈ plans, q.className = q'.className → q = q' :=
    List.inj_on_of_nodup_map (named.imp fun h => h.ne)
  have target {r : ModelRef} (hr : r ∈ p.references) :
      ∃ q ∈ plans, q.handle = r.handle ∧ q.className = r.className := by
    obtain ⟨q, hq, hlabel⟩ := List.mem_map.1 (generated r hr)
    exact ⟨q, hq, congrArg Prod.fst hlabel, congrArg Prod.snd hlabel⟩
  have same : ∀ r ∈ p.references, ∀ r' ∈ p.references, r.className = r'.className → r = r' := by
    intro r hr r' hr' heq
    obtain ⟨q, hq, hhandle, hname⟩ := target hr
    obtain ⟨q', hq', hhandle', hname'⟩ := target hr'
    obtain rfl := unique q hq q' hq' (by rw [hname, hname', heq])
    exact List.inj_on_of_nodup_map refers.once hr hr' (hhandle.symm.trans hhandle')
  have hnodup : p.references.Nodup := List.Nodup.of_map _ refers.once
  constructor
  case generated => exact generated
  case others =>
    intro r hr heq
    obtain ⟨q, hq, hhandle, hname⟩ := target hr
    obtain rfl := unique q hq p hp (hname.trans heq)
    exact refers.others r hr hhandle.symm
  case once => exact List.Nodup.map_on same hnodup
  case exported =>
    intro r hr space handFiles
    obtain ⟨q, hq, -, hname⟩ := target hr
    exact hname ▸ Rendering.mem_indexLines hq space handFiles
  case convertsOnce =>
    exact List.Nodup.map_on
      (fun r hr r' hr' heq => same r hr r' hr' (Rendering.conversion_inj heq)) hnodup

namespace Schema

variable {s : Schema} {code : HandCode} {p : Plan}

theorem eq_of_reference? {handle : String} {r : ModelRef} (h : s.reference? handle = some r) :
    ∃ t, s.find? handle = some t ∧ r = ⟨t.handle, t.modelName⟩ := by
  obtain ⟨t, ht, rfl⟩ := Option.map_eq_some_iff.1 h
  exact ⟨t, ht, rfl⟩

/-- The references of a type that can be planned are to types of the schema. -/
theorem exists_type_of_mem_references {t : s.Member} {warnings : List Diagnostic}
    (h : s.planType code t = .ok (p, warnings)) {r : ModelRef} (hr : r ∈ p.references) :
    ∃ u ∈ s.types, u.handle = r.handle := by
  rw [planType_references h] at hr
  obtain ⟨handle, -, href⟩ := List.mem_filterMap.1 ((distinctRefs_sublist _ _).subset hr)
  obtain ⟨u, hu, rfl⟩ := eq_of_reference? href
  exact ⟨u, mem_of_find? hu, rfl⟩

/-- The references of plans in any schema. -/
theorem refers_of_mem_plans (h : p ∈ (s.plan code).plans) : p.Refers s (s.plan code).plans := by
  have hsourced := (Planning.sourced_after s code s.types.attach).source
  rw [plan_eq, Planning.result] at h ⊢
  obtain ⟨q, hq, rfl⟩ := List.mem_map.1 h
  obtain ⟨t, -, warnings, -, hok⟩ := hsourced q hq
  obtain ⟨c, hc, -, hhandle, -⟩ := planType_eq hok
  obtain ⟨hnodup, -⟩ := nodup_distinctRefs [] (t.1.dependencies.filterMap s.reference?)
  have hrefs := planType_references hok
  have origin {r : ModelRef} (hr : r ∈ q.references) :
      ∃ handle ∈ t.1.dependencies, s.reference? handle = some r :=
    List.mem_filterMap.1 ((distinctRefs_sublist _ _).subset (hrefs ▸ hr))
  constructor
  case target =>
    intro r hr
    rw [Plan.references_keepReferences, List.mem_filter] at hr
    obtain ⟨hr, hplanned⟩ := hr
    obtain ⟨handle, -, href⟩ := origin hr
    obtain ⟨first, hfirst, rfl⟩ := eq_of_reference? href
    obtain rfl := handle_of_find? hfirst
    refine ⟨first, hfirst, rfl, ?_⟩
    -- Some plan has the handle, and it is that of a type with the handle.
    obtain ⟨q', hq', hsame⟩ := List.mem_map.1 (by simpa using hplanned)
    obtain ⟨u, -, warnings', -, hok'⟩ := hsourced q' hq'
    obtain ⟨-, -, -, hhandle', hname', -⟩ := planType_eq hok'
    have hmem : u.1.label ∈ ((Planning.after s code s.types.attach).plans.values.map
        (·.keepReferences ((Planning.after s code s.types.attach).plans.values.map
          (·.handle)))).map Plan.label := by
      rw [List.map_map]
      exact List.mem_map.2 ⟨q', hq', Prod.ext hhandle' hname'⟩
    have hu : u.1.handle = first.handle := hhandle'.symm.trans hsame
    by_cases hmodel : u.1.modelName = first.modelName
    · have hlabel : u.1.label = first.label := Prod.ext hu hmodel
      exact .inl (hlabel ▸ hmem)
    · exact .inr ⟨u.1, u.2, hu, hmodel, hmem⟩
  case others =>
    intro r hr heq
    rw [Plan.references_keepReferences, List.mem_filter] at hr
    obtain ⟨handle, hdep, href⟩ := origin hr.1
    obtain ⟨first, hfirst, rfl⟩ := eq_of_reference? href
    obtain rfl := handle_of_find? hfirst
    have hself : first.handle = t.1.handle := heq.trans hhandle
    exact notMem_of_compose hc (hself ▸ hdep)
  case once =>
    rw [Plan.references_keepReferences, hrefs]
    exact hnodup.sublist (List.filter_sublist.map _)

/-- The references of a plan are to models of their own that are generated, if and only if the first
type with the handle of each has a plan. So it is in a schema where the types of one handle have one
model name. -/
theorem linked_of_mem_plans (s : Schema) (code : HandCode) (p : Plan)
    (h : p ∈ (s.plan code).plans) :
    p.Refers s (s.plan code).plans ∧
      (p.Linked (s.plan code).plans ↔ ∀ r ∈ p.references, ∀ t, s.find? r.handle = some t →
        t.label ∈ (s.plan code).plans.map Plan.label) ∧
      (s.IsUnambiguous → p.Linked (s.plan code).plans) := by
  have hrefers := refers_of_mem_plans h
  have hlabel {r : ModelRef} {t : ContentType} (hr : r ∈ p.references)
      (ht : s.find? r.handle = some t) : t.label = (r.handle, r.className) := by
    obtain ⟨u, hu, hname, -⟩ := hrefers.target r hr
    obtain rfl := Option.some.inj (ht.symm.trans hu)
    exact Prod.ext (handle_of_find? ht) hname.symm
  have hiff : p.Linked (s.plan code).plans ↔ ∀ r ∈ p.references, ∀ t, s.find? r.handle = some t →
      t.label ∈ (s.plan code).plans.map Plan.label := by
    constructor
    · intro hlinked r hr t ht
      exact hlabel hr ht ▸ hlinked.generated r hr
    · intro hplanned
      refine Plan.linked_of_generated h (s.pairwise_className code) hrefers fun r hr => ?_
      obtain ⟨t, ht, -⟩ := hrefers.target r hr
      exact hlabel hr ht ▸ hplanned r hr t ht
  refine ⟨hrefers, hiff, fun unambiguous => hiff.2 fun r hr t ht => ?_⟩
  obtain ⟨u, hu, -, hplanned | ⟨v, hv, hhandle, hmodel, -⟩⟩ := hrefers.target r hr
  · obtain rfl := Option.some.inj (ht.symm.trans hu)
    exact hplanned
  · exact absurd (unambiguous v hv u (mem_of_find? hu) hhandle) hmodel

end Schema

theorem linked_linkedPlan :
    linkedPlan ∈ (linked.plan {}).plans ∧ linked.IsUnambiguous ∧
      linkedPlan.Refers linked (linked.plan {}).plans ∧
      linkedPlan.Linked (linked.plan {}).plans := by
  have unambiguous : linked.IsUnambiguous := by unfold Schema.IsUnambiguous; decide
  obtain ⟨hrefers, -, hlinked⟩ :=
    Schema.linked_of_mem_plans linked {} linkedPlan linkedPlan_mem_plans
  exact ⟨linkedPlan_mem_plans, unambiguous, hrefers, hlinked unambiguous⟩

/-! ### Two types of one handle

The first of them asks for a model name that is taken, so that the second alone has a plan. A page
that is composed with the handle refers to the model that is not generated. -/

/-- A page that is composed with a type and with the handle of two more. -/
def twins : Schema where
  types := [{ handle := "a", name := some "A" }, { handle := "b", name := some "A" },
    { handle := "b", name := some "B" },
    { handle := "page", name := some "Page", base := some "a", mixins := ["b"] }]

/-- The page of `twins`. -/
def twinsPage : twins.Member := ⟨twins.types[3], by simp [twins]⟩

/-- The other types of `twins`. -/
def twinsPart (i : Fin 3) : twins.Member := ⟨twins.types[i.castSucc], by simp [twins]⟩

theorem compose_twinsPage : twins.compose twinsPage [] = .ok {} := by
  rw [Schema.compose, dif_neg (by decide)]
  change twins.composeWith "page" ["page"] ["a", "b"] {} = _
  rw [Schema.composeWith, show twins.member? "a" = some (twinsPart 0) from rfl]
  change (twins.compose (twinsPart 0) ["page"] >>= _) = _
  rw [Schema.compose_of_alone (by decide) rfl rfl]
  change twins.composeWith "page" ["page"] ["b"] {} = _
  rw [Schema.composeWith, show twins.member? "b" = some (twinsPart 1) from rfl]
  change (twins.compose (twinsPart 1) ["page"] >>= _) = _
  rw [Schema.compose_of_alone (by decide) rfl rfl]
  change twins.composeWith "page" ["page"] [] {} = _
  rw [Schema.composeWith.eq_def]

/-- The plan of the page. -/
def twinsPlan : Plan where
  handle := "page"
  className := "Page"
  base := some ⟨"a", "A"⟩
  mixins := [⟨"b", "A"⟩]

theorem twinsPlan_mem_plans : twinsPlan ∈ (twins.plan {}).plans := by
  have hfirst : twins.compose (twinsPart 0) [] = .ok {} := Schema.compose_of_alone rfl rfl rfl
  have hthird : twins.compose (twinsPart 2) [] = .ok {} := Schema.compose_of_alone rfl rfl rfl
  change twinsPlan ∈ (((((Planning.add {} twins {} (twinsPart 0)).add twins {} (twinsPart 1)).add
    twins {} (twinsPart 2)).add twins {} twinsPage).result).plans
  simp only [Planning.add, Planning.addNamed, Schema.planType, compose_twinsPage, hfirst, hthird]
  decide

/-- Both references of the page are to one model, so that its conversion is written twice. -/
theorem not_linked_twinsPlan :
    twinsPlan ∈ (twins.plan {}).plans ∧ ¬twinsPlan.Linked (twins.plan {}).plans :=
  ⟨twinsPlan_mem_plans, fun h => absurd h.once (by decide)⟩

end ContentModels
