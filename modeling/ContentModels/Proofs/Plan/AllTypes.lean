import ContentModels.Proofs.Plan.OneType
import ContentModels.Proofs.Sorted.Map

/-!
# Planning all types

The types of a schema are decided about in order. Every decision is one of six, and what holds of
the plans follows from what each of the six does.

## Main definitions

* `Planning.Step` — the decisions about one type.
* `Planning.after` — the decisions about some types in order.
* `firstAsking` — the type that a model name goes to.

## Main statements

* `Planning.add_step` — there are no other decisions.
* `Planning.after_induct` — what every decision keeps holds at the end.
* `Schema.exists_planType_of_mem_plans` — every plan is that of the first type with its model name.
-/

namespace ContentModels

namespace Planning

/-! ## One decision -/

/-- Adds diagnostics, each of them unless it is there already. -/
def noteAll (noted : List Diagnostic) (warnings : List Diagnostic) : List Diagnostic :=
  warnings.foldl (fun noted d => if noted.contains d then noted else noted ++ [d]) noted

theorem foldl_warn (p : Planning) (warnings : List Diagnostic) :
    warnings.foldl warn p = { p with diagnostics := noteAll p.diagnostics warnings } := by
  induction warnings generalizing p with
  | nil => rfl
  | cons d rest ih =>
    rw [List.foldl_cons, ih]
    by_cases h : d ∈ p.diagnostics <;> simp [warn, noteAll, h]

/-- The planning in which a type has its model name. -/
def claim (p : Planning) (t : ContentType) : Planning :=
  { p with models := p.models.insert t.modelName t.handle }

/-- The decisions about one type: it is left out, its model name is taken, it is written by hand,
its file is taken, it cannot be planned, or it gets a plan. -/
inductive Step (s : Schema) (code : HandCode) (p : Planning) (t : s.Member) : Planning → Prop
  | leftOut (left : code.isTypeIgnored t.1.handle = true) :
      Step s code p t (p.skip t.1 .ignoredByMarker)
  | nameTaken (owner : String) (kept : code.isTypeIgnored t.1.handle = false)
      (taken : p.models.get? t.1.modelName = some owner) :
      Step s code p t (p.refuse t.1 (.sameModel t.1.handle t.1.modelName owner))
  | byHand (kept : code.isTypeIgnored t.1.handle = false)
      (free : p.models.get? t.1.modelName = none)
      (byHand : code.implementsType t.1.modelName = true) :
      Step s code p t ((p.claim t.1).skip t.1 .implementedByHand)
  | fileTaken (owner : String) (kept : code.isTypeIgnored t.1.handle = false)
      (free : p.models.get? t.1.modelName = none)
      (open_ : code.implementsType t.1.modelName = false)
      (taken : p.files.get? (Naming.generatedFileName t.1.modelName) = some owner) :
      Step s code p t ((p.claim t.1).refuse t.1
        (.sameFile t.1.handle (Naming.generatedFileName t.1.modelName) owner))
  | failed (e : PlanError) (kept : code.isTypeIgnored t.1.handle = false)
      (free : p.models.get? t.1.modelName = none)
      (open_ : code.implementsType t.1.modelName = false)
      (freeFile : p.files.get? (Naming.generatedFileName t.1.modelName) = none)
      (fails : s.planType code t = .error e) :
      Step s code p t ((p.claim t.1).refuse t.1 e)
  | planned (plan : Plan) (warnings : List Diagnostic)
      (kept : code.isTypeIgnored t.1.handle = false)
      (free : p.models.get? t.1.modelName = none)
      (open_ : code.implementsType t.1.modelName = false)
      (freeFile : p.files.get? (Naming.generatedFileName t.1.modelName) = none)
      (plans : s.planType code t = .ok (plan, warnings)) :
      Step s code p t
        { p.claim t.1 with
          files := p.files.insert (Naming.generatedFileName t.1.modelName) s!"'{t.1.handle}'"
          plans := p.plans.insert t.1.modelName plan
          diagnostics := noteAll p.diagnostics warnings }

/-- There are no other decisions. -/
theorem add_step (s : Schema) (code : HandCode) (p : Planning) (t : s.Member) :
    Step s code p t (p.add s code t) := by
  cases hleft : code.isTypeIgnored t.1.handle with
  | true => simpa [add, hleft] using Step.leftOut hleft
  | false =>
    cases hmodel : p.models.get? t.1.modelName with
    | some owner => simpa [add, hleft, hmodel] using Step.nameTaken owner hleft hmodel
    | none =>
      have hadd : p.add s code t = (p.claim t.1).addNamed s code t := by
        simp [add, hleft, hmodel, claim]
      rw [hadd]
      cases hhand : code.implementsType t.1.modelName with
      | true => simpa [addNamed, hhand] using Step.byHand hleft hmodel hhand
      | false =>
        cases hfile : p.files.get? (Naming.generatedFileName t.1.modelName) with
        | some owner =>
          simpa [addNamed, hhand, claim, hfile] using Step.fileTaken owner hleft hmodel hhand hfile
        | none =>
          cases hplan : s.planType code t with
          | error e =>
            simpa [addNamed, hhand, claim, hfile, hplan] using
              Step.failed e hleft hmodel hhand hfile hplan
          | ok r =>
            simpa [addNamed, hhand, claim, hfile, hplan, foldl_warn] using
              Step.planned r.1 r.2 hleft hmodel hhand hfile hplan

/-! ## All decisions -/

/-- The decisions about some types in order. -/
def after (s : Schema) (code : HandCode) (l : List s.Member) : Planning :=
  l.foldl (fun p t => p.add s code t) {}

theorem after_concat (s : Schema) (code : HandCode) (l : List s.Member) (t : s.Member) :
    after s code (l ++ [t]) = (after s code l).add s code t := by
  simp [after]

/-- What holds at first and is kept by every decision holds at the end. -/
theorem after_induct {s : Schema} {code : HandCode} {motive : List s.Member → Planning → Prop}
    (start : motive [] {})
    (step : ∀ l t p p', motive l p → Step s code p t p' → motive (l ++ [t]) p')
    (l : List s.Member) : motive l (after s code l) := by
  induction l using List.reverseRecOn with
  | nil => exact start
  | append_singleton l t ih =>
    rw [after_concat]
    exact step l t _ _ ih (add_step s code _ t)

end Planning

/-- The plans of a schema are the result of the decisions about all of its types. -/
theorem Schema.plan_eq (s : Schema) (code : HandCode) :
    s.plan code = (Planning.after s code s.types.attach).result := rfl

/-! ## Where plans come from -/

/-- Whether a type asks for a model of this name: it is not left out. -/
def ContentType.asksFor (t : ContentType) (code : HandCode) (model : String) : Bool :=
  t.modelName == model && !code.isTypeIgnored t.handle

/-- The first of some types that asks for a model name. -/
def firstAsking (code : HandCode) (l : List ContentType) (model : String) : Option ContentType :=
  l.find? fun t => t.asksFor code model

namespace Planning

/-- Every plan is that of the first type that asks for its model name, and a name that nobody has
was not asked for. -/
structure Sourced (s : Schema) (code : HandCode) (l : List s.Member) (p : Planning) : Prop where
  free : ∀ model, p.models.get? model = none → firstAsking code (l.map (·.1)) model = none
  source : ∀ plan ∈ p.plans.values, ∃ t ∈ l, ∃ warnings,
    firstAsking code (l.map (·.1)) plan.className = some t.1 ∧
      s.planType code t = .ok (plan, warnings)

variable {s : Schema} {code : HandCode} {l : List s.Member} {p : Planning} {t : s.Member}

theorem firstAsking_concat (l : List s.Member) (t : s.Member) (model : String) :
    firstAsking code ((l ++ [t]).map (·.1)) model =
      (firstAsking code (l.map (·.1)) model).or
        (if t.1.asksFor code model then some t.1 else none) := by
  simp only [firstAsking, List.map_append, List.find?_append, List.map_cons, List.map_nil,
    List.find?_singleton]

/-- A type that does not change the names and the plans keeps them sourced if it asks for no name,
or for one that is taken. -/
theorem Sourced.skip (h : Sourced s code l p)
    (ht : ∀ model, t.1.asksFor code model = true → p.models.get? model ≠ none) {p' : Planning}
    (hmodels : p'.models = p.models) (hplans : p'.plans = p.plans) :
    Sourced s code (l ++ [t]) p' where
  free model hnone := by
    rw [hmodels] at hnone
    have hasks : ¬t.1.asksFor code model = true := fun hasks => ht model hasks hnone
    rw [firstAsking_concat, h.free model hnone, if_neg hasks, Option.or_none]
  source plan hplan := by
    obtain ⟨u, hu, warnings, hfirst, hok⟩ := h.source plan (hplans ▸ hplan)
    exact ⟨u, by simp [hu], warnings, by rw [firstAsking_concat, hfirst, Option.some_or], hok⟩

/-- A type that takes its model name keeps the plans sourced if at most its own plan is added. -/
theorem Sourced.claim (h : Sourced s code l p) (kept : code.isTypeIgnored t.1.handle = false)
    (free : p.models.get? t.1.modelName = none) {p' : Planning}
    (hmodels : p'.models = (p.claim t.1).models)
    (hplans : ∀ plan ∈ p'.plans.values, plan ∈ p.plans.values ∨
      ∃ warnings, s.planType code t = .ok (plan, warnings)) :
    Sourced s code (l ++ [t]) p' where
  free model hnone := by
    rw [hmodels, Planning.claim, SortedMap.get?_insert] at hnone
    split at hnone
    · cases hnone
    · next hne =>
      have hasks : ¬t.1.asksFor code model = true := by
        intro hasks
        simp only [ContentType.asksFor, Bool.and_eq_true, beq_iff_eq] at hasks
        exact hne (hasks.1 ▸ Std.ReflCmp.compare_self)
      rw [firstAsking_concat, h.free model hnone, if_neg hasks, Option.or_none]
  source plan hplan := by
    rcases hplans plan hplan with hold | ⟨warnings, hok⟩
    · obtain ⟨u, hu, warnings, hfirst, hok⟩ := h.source plan hold
      exact ⟨u, by simp [hu], warnings, by rw [firstAsking_concat, hfirst, Option.some_or], hok⟩
    · obtain ⟨_, _, _, _, hname, _⟩ := Schema.planType_eq hok
      have hasks : t.1.asksFor code plan.className = true := by
        simp [ContentType.asksFor, hname, kept]
      refine ⟨t, by simp, warnings, ?_, hok⟩
      rw [firstAsking_concat, if_pos hasks, hname, h.free _ free, Option.none_or]

/-- Every decision keeps the plans sourced. -/
theorem Sourced.step {p' : Planning} (h : Sourced s code l p) (hstep : Step s code p t p') :
    Sourced s code (l ++ [t]) p' := by
  cases hstep with
  | leftOut left =>
    exact h.skip (fun model hasks => by simp [ContentType.asksFor, left] at hasks) rfl rfl
  | nameTaken owner kept taken =>
    refine h.skip (fun model hasks => ?_) rfl rfl
    simp only [ContentType.asksFor, Bool.and_eq_true, beq_iff_eq] at hasks
    simp [← hasks.1, taken]
  | byHand kept free byHand => exact h.claim kept free rfl fun plan hplan => .inl hplan
  | fileTaken owner kept free open_ taken =>
    exact h.claim kept free rfl fun plan hplan => .inl hplan
  | failed e kept free open_ freeFile fails =>
    exact h.claim kept free rfl fun plan hplan => .inl hplan
  | planned plan warnings kept free open_ freeFile plans =>
    refine h.claim kept free rfl fun q hq => ?_
    rcases SortedMap.mem_values_insert hq with rfl | hq
    · exact .inr ⟨warnings, plans⟩
    · exact .inl hq

theorem sourced_after (s : Schema) (code : HandCode) (l : List s.Member) :
    Sourced s code l (after s code l) :=
  after_induct ⟨fun _ _ => rfl, fun _ h => by simp [SortedMap.values] at h⟩
    (fun _ _ _ _ h hstep => h.step hstep) l

end Planning

/-- Every plan is that of the first type with its model name, among those that are not left out, but
for references to types that got no model. -/
theorem Schema.exists_planType_of_mem_plans {s : Schema} {code : HandCode} {plan : Plan}
    (h : plan ∈ (s.plan code).plans) :
    ∃ (t : s.Member) (q : Plan) (warnings : List Diagnostic) (planned : List String),
      firstAsking code s.types plan.className = some t.1 ∧
        s.planType code t = .ok (q, warnings) ∧ plan = q.keepReferences planned := by
  rw [plan_eq, Planning.result] at h
  obtain ⟨q, hq, rfl⟩ := List.mem_map.1 h
  obtain ⟨t, -, warnings, hfirst, hok⟩ := (Planning.sourced_after s code s.types.attach).source q hq
  rw [List.attach_map_subtype_val] at hfirst
  exact ⟨t, q, warnings, _, hfirst, hok, rfl⟩

end ContentModels
