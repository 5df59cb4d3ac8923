import ContentModels.Proofs.HandFile.Suppression
import ContentModels.Proofs.Plan.Accounting
import ContentModels.Proofs.Plan.Linearisation
import ContentModels.Rendering.Model

/-!
# One property less

A property that is ignored by hand gets no accessor, and nothing else is decided differently. Its
type can still be planned, since a name that nobody takes is in nobody's way, and other types do not
look at it.

## Main definitions

* `Plan.Skips` — a plan in which one more property is skipped.
* `PlanSet.Skips` — plans of which one is such a plan.

## Main statements

* `HandCode.Hides.exists_split` — the decisions about the properties of a type.
* `Schema.planType_of_hides`, `Schema.exists_skips_of_planType` — the plan of a type.
* `Planning.Skips.add` — what every decision about a type keeps.
* `Schema.plan_suppression` — the marker that is made from generated code ignores that property
  alone.
-/

namespace ContentModels

/-- One property of a plan is skipped as an ignored one, and all else is as it was. -/
def Plan.Skips (p : Plan) (x : PlannedProperty) (p' : Plan) : Prop :=
  ∃ l r before after, p.properties = l ++ x :: r ∧ p.skipped = before ++ after ∧
    p' = { p with
      properties := l ++ r
      skipped := before ++ ⟨x.handle, x.localName, .ignored⟩ :: after }

theorem Plan.Skips.handle_eq {p p' : Plan} {x : PlannedProperty} (h : p.Skips x p') :
    p'.handle = p.handle := by
  obtain ⟨_, _, _, _, -, -, rfl⟩ := h
  rfl

theorem Plan.Skips.keepReferences {p p' : Plan} {x : PlannedProperty} (h : p.Skips x p')
    (planned : List String) : (p.keepReferences planned).Skips x (p'.keepReferences planned) := by
  obtain ⟨l, r, before, after, hproperties, hskipped, rfl⟩ := h
  exact ⟨l, r, before, after, hproperties, hskipped, rfl⟩

namespace HandCode.Hides

variable {code code' : HandCode} {model handle : String}

/-! ## One property -/

theorem accessorFor_eq (h : code.Hides code' model handle) (m : String) (p : Property) :
    accessorFor code' m p = accessorFor code m p := by
  rw [accessorFor, accessorFor, h.renamed]

theorem skip?_eq (h : code.Hides code' model handle) (m : String) (d : Declared) :
    d.skip? code' m =
      if m = model ∧ d.property.handle = handle then some .ignored else d.skip? code m := by
  simp only [Declared.skip?, h.ignored, h.declared, h.accessorFor_eq]
  grind

theorem plannedOf_eq (h : code.Hides code' model handle) {m : String} {l : List Declared}
    (hl : m = model → handle ∉ handles l) :
    plannedOf code' m l = plannedOf code m l ∧ skippedOf code' m l = skippedOf code m l := by
  have hskip : ∀ d ∈ l, d.skip? code' m = d.skip? code m := by
    intro d hd
    rw [h.skip?_eq, if_neg]
    rintro ⟨hm, rfl⟩
    exact hl hm (List.mem_map_of_mem hd)
  constructor
  · rw [plannedOf, plannedOf, List.filter_congr fun d hd => by rw [hskip d hd]]
    simp only [Declared.planned, h.accessorFor_eq]
  · refine List.filterMap_congr fun d hd => ?_
    rw [hskip d hd, h.accessorFor_eq]

/-- In another model nothing is decided differently. -/
theorem choices_eq (h : code.Hides code' model handle) {m : String} (hm : m ≠ model) (c : Choices)
    (type : String) (l : List Declared) : c.addAll code' type m l = c.addAll code type m l := by
  induction l generalizing c with
  | nil => rfl
  | cons d rest ih =>
    have hadd : c.add code' type m d = c.add code type m d := by
      simp [Choices.add, h.ignored, h.declared, h.accessorFor_eq, hm]
    rw [Choices.addAll, Choices.addAll, hadd]
    exact bind_congr ih

/-- A property that can be decided about can be decided about when fewer others have accessors. -/
theorem exists_choice (h : code.Hides code' model handle) {m type : String} {d : Declared}
    {c c' r : Choices} (hok : c.add code type m d = .ok r)
    (hsub : c'.properties.Sublist c.properties) :
    ∃ r', c'.add code' type m d = .ok r' ∧ r'.properties.Sublist r.properties := by
  have hgrows : c'.properties.Sublist r.properties := by
    rw [Choices.add_eq hok]
    exact hsub.trans (List.sublist_append_left _ _)
  cases hskip : d.skip? code' m with
  | some reason => exact ⟨_, Choices.add_of_skip? hskip c' type, hgrows⟩
  | none =>
    have hskip' : d.skip? code m = none := by
      rw [h.skip?_eq] at hskip
      split at hskip
      · cases hskip
      · exact hskip
    rw [Choices.add_of_planned hskip'] at hok
    rw [Choices.add_of_planned hskip, h.accessorFor_eq]
    cases hnamed : c.named? (accessorFor code m d.property) with
    | some first =>
      rw [hnamed] at hok
      cases hok
    | none =>
      rw [hnamed] at hok
      obtain rfl := Except.ok.inj hok
      have hnamed' : c'.named? (accessorFor code m d.property) = none :=
        List.find?_eq_none.2 fun p hp => List.find?_eq_none.1 hnamed p (hsub.subset hp)
      have hplanned : d.planned code' m = d.planned code m := by
        rw [Declared.planned, Declared.planned, h.accessorFor_eq]
      rw [hnamed', hplanned]
      exact ⟨_, rfl, hsub.append (.refl _)⟩

/-- Properties that can be decided about can be decided about when one is ignored. -/
theorem exists_choices (h : code.Hides code' model handle) {m type : String} {l : List Declared}
    {c c' r : Choices} (hok : c.addAll code type m l = .ok r)
    (hsub : c'.properties.Sublist c.properties) :
    ∃ r', c'.addAll code' type m l = .ok r' := by
  induction l generalizing c c' with
  | nil => exact ⟨c', rfl⟩
  | cons d rest ih =>
    obtain ⟨c₁, h₁, hok⟩ := Except.bind_ok_iff.1 hok
    obtain ⟨c₁', h₁', hsub⟩ := h.exists_choice h₁ hsub
    obtain ⟨r', hr'⟩ := ih hok hsub
    exact ⟨r', Except.bind_ok_iff.2 ⟨c₁', h₁', hr'⟩⟩

/-- A property that is ignored moves from the properties with accessors to those without, and the
others stay where they are. -/
theorem exists_split (h : code.Hides code' model handle) {l : List Declared}
    (nodup : (handles l).Nodup) {x : PlannedProperty} (hx : x ∈ plannedOf code model l)
    (hhandle : x.handle = handle) :
    ∃ first last before after,
      plannedOf code model l = first ++ x :: last ∧ plannedOf code' model l = first ++ last ∧
      skippedOf code model l = before ++ after ∧
      skippedOf code' model l = before ++ ⟨x.handle, x.localName, .ignored⟩ :: after := by
  subst hhandle
  obtain ⟨d, hd, rfl⟩ := List.mem_map.1 hx
  obtain ⟨hd, hskip⟩ := List.mem_filter.1 hd
  obtain ⟨l, r, rfl⟩ := List.append_of_mem hd
  rw [handles_append, handles_cons, List.nodup_append, List.nodup_cons] at nodup
  obtain ⟨-, ⟨hr, -⟩, hl⟩ := nodup
  obtain ⟨hplanL, hskipL⟩ := h.plannedOf_eq fun _ hmem => hl _ hmem _ List.mem_cons_self rfl
  obtain ⟨hplanR, hskipR⟩ := h.plannedOf_eq fun _ => hr
  have hskip : d.skip? code model = none := by simpa using hskip
  have hskip' : d.skip? code' model = some .ignored := by
    rw [h.skip?_eq, if_pos ⟨rfl, rfl⟩]
  have hplanned : plannedOf code model [d] = [d.planned code model] ∧
      skippedOf code model [d] = [] := by
    simp [plannedOf, skippedOf, hskip]
  have hskipped : plannedOf code' model [d] = [] ∧ skippedOf code' model [d] =
      [⟨d.property.handle, accessorFor code model d.property, .ignored⟩] := by
    simp [plannedOf, skippedOf, hskip', h.accessorFor_eq]
  refine ⟨plannedOf code model l, plannedOf code model r, skippedOf code model l,
    skippedOf code model r, ?_⟩
  rw [← List.singleton_append, plannedOf_append, plannedOf_append, plannedOf_append,
    plannedOf_append, skippedOf_append, skippedOf_append, skippedOf_append, skippedOf_append, hplanL,
    hplanR, hskipL, hskipR, hplanned.1, hplanned.2, hskipped.1, hskipped.2]
  rw [Declared.planned_handle, Declared.planned_localName]
  exact ⟨rfl, rfl, rfl, rfl⟩

end HandCode.Hides

/-! ## One type -/

namespace Schema

variable {s : Schema} {code code' : HandCode} {model handle : String}

theorem planType_of_hides (h : code.Hides code' model handle) {t : s.Member}
    (ht : t.1.modelName ≠ model) : s.planType code' t = s.planType code t := by
  simp only [planType, h.choices_eq ht, h.uses]

theorem exists_skips_of_planType (h : code.Hides code' model handle) {t : s.Member}
    (ht : t.1.modelName = model) {p : Plan} {warnings : List Diagnostic}
    (hok : s.planType code t = .ok (p, warnings)) {x : PlannedProperty} (hx : x ∈ p.properties)
    (hhandle : x.handle = handle) :
    ∃ p', s.planType code' t = .ok (p', warnings) ∧ p.Skips x p' := by
  subst ht hhandle
  obtain ⟨c, hc, hok⟩ := Except.bind_ok_iff.1 hok
  obtain ⟨choices, hchoices, hok⟩ := Except.bind_ok_iff.1 hok
  simp only [pure, Except.pure, Except.ok.injEq, Prod.mk.injEq] at hok
  obtain ⟨rfl, rfl⟩ := hok
  obtain ⟨choices', hchoices'⟩ := h.exists_choices hchoices (.refl _)
  refine ⟨_, Except.bind_ok_iff.2 ⟨c, hc, Except.bind_ok_iff.2 ⟨choices', hchoices', rfl⟩⟩, ?_⟩
  obtain rfl := Choices.addAll_eq hchoices
  obtain rfl := Choices.addAll_eq hchoices'
  obtain ⟨first, last, before, after, hplanned, hplanned', hskipped, hskipped'⟩ :=
    h.exists_split (nodup_handles_compose hc) hx rfl
  refine ⟨first, last, before, after, hplanned, hskipped, ?_⟩
  simp only [List.nil_append, hplanned', hskipped', h.uses]

end Schema

/-! ## All types -/

namespace Planning

variable {s : Schema} {code code' : HandCode} {model handle : String} {p p' : Planning} {t : s.Member}

/-- A model name that was given away stays where it is, with its plan if there is one. -/
theorem Step.get?_of_taken (hstep : Step s code p t p') {owner : String}
    (taken : p.models.get? model = some owner) :
    p'.models.get? model = some owner ∧ p'.plans.get? model = p.plans.get? model := by
  have other (free : p.models.get? t.1.modelName = none) : compare model t.1.modelName ≠ .eq := by
    intro heq
    rw [SortedMap.get?_congr heq, free] at taken
    cases taken
  have claimed (free : p.models.get? t.1.modelName = none) :
      (p.claim t.1).models.get? model = some owner :=
    (SortedMap.get?_insert ..).trans ((if_neg (other free)).trans taken)
  cases hstep with
  | leftOut => exact ⟨taken, rfl⟩
  | nameTaken => exact ⟨taken, rfl⟩
  | byHand kept free byHand => exact ⟨claimed free, rfl⟩
  | fileTaken _ kept free => exact ⟨claimed free, rfl⟩
  | failed _ kept free => exact ⟨claimed free, rfl⟩
  | planned plan warnings kept free =>
    exact ⟨claimed free, (SortedMap.get?_insert ..).trans (if_neg (other free))⟩

/-- A model name that a type asks for is given away. -/
theorem Step.get?_ne_none (hstep : Step s code p t p') (ht : t.1.asksFor code model = true) :
    p'.models.get? model ≠ none := by
  simp only [ContentType.asksFor, Bool.and_eq_true, beq_iff_eq, Bool.not_eq_true'] at ht
  obtain ⟨rfl, kept⟩ := ht
  cases hstep with
  | leftOut left => simp [left] at kept
  | nameTaken owner _ taken => simp [refuse, skip, taken]
  | _ => simp [claim, refuse, skip, SortedMap.get?_insert]

/-- A decision that gives a model a plan is that of a type with this plan. -/
theorem Step.planType_of_new (hstep : Step s code p t p') (new : p.plans.get? model = none)
    {q : Plan}
    (hq : p'.plans.get? model = some q) : t.1.modelName = model ∧
      code.isTypeIgnored t.1.handle = false ∧ p.models.get? t.1.modelName = none ∧
      code.implementsType t.1.modelName = false ∧
      p.files.get? (Naming.generatedFileName t.1.modelName) = none ∧
      ∃ warnings, s.planType code t = .ok (q, warnings) ∧ p' =
        { p.claim t.1 with
          files := p.files.insert (Naming.generatedFileName t.1.modelName) s!"'{t.1.handle}'"
          plans := p.plans.insert model q
          diagnostics := noteAll p.diagnostics warnings } := by
  have absurd_of_eq (heq : p'.plans = p.plans) : False := by
    rw [heq, new] at hq
    cases hq
  cases hstep with
  | planned plan warnings kept free open_ freeFile plans =>
    have hname : t.1.modelName = model := by
      by_contra hne
      rw [SortedMap.get?_insert, if_neg (by simpa using Ne.symm hne), new] at hq
      cases hq
    subst hname
    rw [SortedMap.get?_insert, if_pos Std.ReflCmp.compare_self] at hq
    obtain rfl := Option.some.inj hq
    exact ⟨rfl, kept, free, open_, freeFile, warnings, plans, rfl⟩
  | _ => exact (absurd_of_eq rfl).elim

/-- Decisions about a type that does not ask for the model are the same. -/
theorem add_of_hides (h : code.Hides code' model handle) (ht : t.1.asksFor code model = false) :
    p.add s code' t = p.add s code t := by
  cases hleft : code.isTypeIgnored t.1.handle with
  | true => simp [add, h.typeIgnored, hleft]
  | false =>
    have hother : t.1.modelName ≠ model := by simpa [ContentType.asksFor, hleft] using ht
    simp only [add, addNamed, h.typeIgnored, h.implemented, Schema.planType_of_hides h hother]

/-- A plan that was made may be another one, as far as later decisions go. -/
theorem add_insert_of_taken (h : code.Hides code' model handle) {owner : String}
    (taken : p.models.get? model = some owner) (q : Plan) :
    ({ p with plans := p.plans.insert model q } : Planning).add s code' t =
      { p.add s code t with plans := (p.add s code t).plans.insert model q } := by
  cases hleft : code.isTypeIgnored t.1.handle with
  | true => simp [add, h.typeIgnored, hleft, skip]
  | false =>
    cases hmodel : p.models.get? t.1.modelName with
    | some first => simp [add, h.typeIgnored, hleft, hmodel, refuse, skip]
    | none =>
      have hother : t.1.modelName ≠ model := by
        rintro rfl
        rw [hmodel] at taken
        cases taken
      have hplan := Schema.planType_of_hides (s := s) h hother
      simp only [add, addNamed, h.typeIgnored, h.implemented, hleft, hmodel, hplan]
      cases hhand : code.implementsType t.1.modelName with
      | true => simp [skip]
      | false =>
        cases hfile : p.files.get? (Naming.generatedFileName t.1.modelName) with
        | some first => simp [refuse, skip]
        | none =>
          cases hok : s.planType code t with
          | error e => simp [refuse, skip]
          | ok r => simp [foldl_warn, SortedMap.insert_comm hother]

/-- Of two plannings, the second one is the first one, but that a property of a model is skipped
once the model has a plan. -/
structure Skips (model : String) (x : PlannedProperty) (p p' : Planning) : Prop where
  free : p.models.get? model = none → p' = p
  planned : ∀ q, p.plans.get? model = some q → x ∈ q.properties →
    ∃ q', q.Skips x q' ∧ p' = { p with plans := p.plans.insert model q' }

/-- Every decision keeps this. -/
theorem Skips.add {x : PlannedProperty} (h : code.Hides code' model x.handle)
    (hclaimed : p.models.get? model = none → p.plans.get? model = none)
    (hskips : Skips model x p p') :
    Skips model x (p.add s code t) (p'.add s code' t) where
  free hnone := by
    have hstep := add_step s code p t
    cases hmodel : p.models.get? model with
    | some owner =>
      rw [(hstep.get?_of_taken hmodel).1] at hnone
      cases hnone
    | none =>
      obtain rfl := hskips.free hmodel
      refine add_of_hides h (Bool.eq_false_iff.2 fun ht => ?_)
      exact hstep.get?_ne_none ht hnone
  planned q hq hx := by
    cases hmodel : p.models.get? model with
    | some owner =>
      have htaken := ((add_step s code p t).get?_of_taken hmodel).2
      obtain ⟨q', hq', rfl⟩ := hskips.planned q (htaken ▸ hq) hx
      exact ⟨q', hq', add_insert_of_taken h hmodel q'⟩
    | none =>
      obtain rfl := hskips.free hmodel
      obtain ⟨rfl, kept, free, open_, freeFile, warnings, hok, heq⟩ :=
        (add_step s code p' t).planType_of_new (hclaimed hmodel) hq
      obtain ⟨q', hok', hq'⟩ := Schema.exists_skips_of_planType h rfl hok hx rfl
      refine ⟨q', hq', ?_⟩
      rw [heq]
      simp [Planning.add, addNamed, h.typeIgnored, h.implemented, kept, free, open_, freeFile, hok',
        foldl_warn, claim, SortedMap.insert_insert]

/-- The decisions about some types. -/
theorem skips_after {x : PlannedProperty} (h : code.Hides code' model x.handle)
    (l : List s.Member) :
    Skips model x (after s code l) (after s code' l) := by
  induction l using List.reverseRecOn with
  | nil => exact ⟨fun _ => rfl, fun _ hq => by simp [after] at hq⟩
  | append_singleton l t ih =>
    rw [after_concat, after_concat]
    exact ih.add h ((Counted.after s code l).claimed model)

end Planning

/-- What the plans of a schema become when a property of one of them is skipped as an ignored one:
this plan alone is another one, and the same is told of the types. -/
structure PlanSet.Skips (p : PlanSet) (plan : Plan) (x : PlannedProperty) (p' : PlanSet) : Prop where
  plans : ∃ plan' before after, plan.Skips x plan' ∧ p.plans = before ++ plan :: after ∧
    p'.plans = before ++ plan' :: after
  skippedTypes : p'.skippedTypes = p.skippedTypes
  diagnostics : p'.diagnostics = p.diagnostics

/-- The plans that were made differ where the plannings do. -/
theorem Planning.Skips.result {model : String} {x : PlannedProperty} {p p' : Planning}
    (h : Skips model x p p') {q : Plan} (hq : p.plans.get? model = some q) (hx : x ∈ q.properties) :
    p.result.Skips (q.keepReferences (p.plans.values.map (·.handle))) x p'.result := by
  obtain ⟨q', hskips, rfl⟩ := h.planned q hq hx
  obtain ⟨before, after, hvalues, hinsert⟩ := SortedMap.values_insert_of_get? hq
  have hhandles : (p.plans.insert model q').values.map (·.handle) = p.plans.values.map (·.handle) := by
    simp [hvalues, hinsert, hskips.handle_eq]
  let kept (r : Plan) : Plan := r.keepReferences (p.plans.values.map (·.handle))
  refine ⟨⟨_, before.map kept, after.map kept, hskips.keepReferences _, ?_, ?_⟩, rfl, rfl⟩
  · exact (congrArg (List.map kept) hvalues).trans List.map_append
  · rw [Planning.result, hhandles, hinsert, List.map_append, List.map_cons]

/-- The literal that the accessor of a property has in the text of a model, in the marker of that
property. A file that holds nothing else is read without complaint wherever it stands among other
files. The property moves to those that are skipped as ignored ones, and everything else in the
plans of the schema stays as it was. -/
theorem Schema.plan_suppression (s : Schema) (before after : List SourceFile) (path : Path)
    (plan : Plan)
    (x : PlannedProperty) (planned : plan ∈ (s.plan (HandCode.ofFiles (before ++ after)).1).plans)
    (hx : x ∈ plan.properties) :
    let marker : SourceFile := ⟨path, suppression plan.className x.handle⟩
    (∀ space, "        self.content.value::<" ++ x.valueType ++ ">(" ++ Text.quoted x.handle ++ ")" ∈
      Rendering.modelLines plan space) ∧
    (∃ c, marker.read = .ok (c, [])) ∧
    (HandCode.ofFiles (before ++ marker :: after)).2 = (HandCode.ofFiles (before ++ after)).2 ∧
    (s.plan (HandCode.ofFiles (before ++ after)).1).Skips plan x
      (s.plan (HandCode.ofFiles (before ++ marker :: after)).1) := by
  intro marker
  have hname : Naming.isIdentifier plan.className = true := by
    obtain ⟨t, q, warnings, references, -, hok, rfl⟩ := exists_planType_of_mem_plans planned
    obtain ⟨c, -, -, -, hname, -⟩ := planType_eq hok
    exact hname ▸ t.1.isIdentifier_modelName
  obtain ⟨herrors, hhides⟩ := HandCode.hides_ofFiles before after path hname x.handle
  refine ⟨fun space => ?literal, ⟨_, read_suppression hname path x.handle⟩, herrors, ?skips⟩
  case literal =>
    have haccessor : "        self.content.value::<" ++ x.valueType ++ ">(" ++ Text.quoted x.handle ++
        ")" ∈ plan.properties.flatMap Rendering.accessorLines :=
      List.mem_flatMap.2 ⟨x, hx, by simp [Rendering.accessorLines]⟩
    simp only [Rendering.modelLines, List.mem_append, haccessor, or_true, true_or]
  case skips =>
    rw [plan_eq] at planned ⊢
    rw [plan_eq]
    obtain ⟨q, hq, rfl⟩ := List.mem_map.1 planned
    obtain ⟨k, hmem⟩ := SortedMap.mem_values.1 hq
    have hkey : q.className = k := (Planning.Counted.after s _ s.types.attach).named _ hmem
    have hget := SortedMap.get?_of_mem hmem
    rw [← hkey] at hget
    exact (Planning.skips_after hhides s.types.attach).result hget hx

/-- A page with a property whose handle is no word. -/
def quoting : Schema where
  types := [{
    handle := "page"
    properties := [
      { handle := "title", valueType := "String" },
      { handle := "say \"hi\"\n", valueType := "u8" }] }]

/-- The accessor of that property. -/
def quotingAccessor : PlannedProperty := ⟨"say \"hi\"\n", "say__hi_", "u8", "page"⟩

/-- The plan of the page. -/
def quotingPlan : Plan where
  handle := "page"
  className := "Page"
  properties := [⟨"title", "title", "String", "page"⟩, quotingAccessor]

theorem plans_quoting : (quoting.plan {}).plans = [quotingPlan] := by
  obtain ⟨c, hown, hc⟩ : ∃ c, Composed.addAll {} "page" (Schema.ownDeclarations quoting.types[0]) =
      .ok c ∧ c = ⟨Schema.ownDeclarations quoting.types[0], []⟩ := ⟨_, rfl, rfl⟩
  have hcompose : quoting.compose ⟨quoting.types[0], by simp [quoting]⟩ [] = .ok c :=
    Schema.compose_of_alone rfl hown rfl
  change (Planning.add {} quoting {} ⟨quoting.types[0], _⟩).result.plans = _
  simp only [Planning.add, Planning.addNamed, Schema.planType, hcompose, hc]
  decide

/-- The marker of the property leaves the other one in the plan. -/
theorem Schema.plan_suppression_quoting :
    quotingPlan ∈ (quoting.plan (HandCode.ofFiles []).1).plans ∧
      quotingAccessor ∈ quotingPlan.properties ∧
      (quoting.plan (HandCode.ofFiles []).1).Skips quotingPlan quotingAccessor
        (quoting.plan (HandCode.ofFiles [⟨⟨"page.rs"⟩, suppression "Page" "say \"hi\"\n"⟩]).1) := by
  have planned : quotingPlan ∈ (quoting.plan (HandCode.ofFiles []).1).plans :=
    plans_quoting.symm ▸ List.mem_singleton_self quotingPlan
  have hx : quotingAccessor ∈ quotingPlan.properties := by decide
  exact ⟨planned, hx,
    (plan_suppression quoting [] [] ⟨"page.rs"⟩ quotingPlan quotingAccessor planned hx).2.2.2⟩

end ContentModels
