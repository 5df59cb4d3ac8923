import ContentModels.Proofs.Plan.Lookup
import ContentModels.Proofs.Plan.References

/-!
# More types at the end of a schema

The types of a schema are decided about in order, and every decision adds to what was decided before
it. Names and files that were given away stay where they are. So types that come later, and that the
earlier ones know nothing of, take nothing from them, whatever they are called and however they are
composed.

## Main definitions

* `Planning.Extends` — a planning is another one with decisions about more types.

## Main statements

* `Planning.extends_after` — what decisions about more types add.
* `Schema.plan_append` — the plans of a schema with more types at its end.
-/

namespace ContentModels

namespace Planning

theorem prefix_noteAll (noted warnings : List Diagnostic) : noted <+: noteAll noted warnings := by
  induction warnings generalizing noted with
  | nil => exact List.prefix_rfl
  | cons d rest ih =>
    rw [noteAll, List.foldl_cons, ← noteAll]
    split
    · exact ih noted
    · exact (List.prefix_append noted [d]).trans (ih _)

/-- One planning is another one with decisions about more types. Plans with handles of other types
are the same in both. -/
structure Extends (keeps : String → Bool) (more : List ContentType) (p p' : Planning) : Prop where
  plans : p'.plans.filter (fun _ q => keeps q.handle) = p.plans.filter fun _ q => keeps q.handle
  skipped : ∃ l, p'.skipped = p.skipped ++ l ∧
    (l.map SkippedType.label).Sublist (more.map ContentType.label)
  diagnostics : p.diagnostics <+: p'.diagnostics

namespace Extends

variable {keeps : String → Bool} {more : List ContentType} {p p' p'' : Planning}

theorem refl (keeps : String → Bool) (p : Planning) : Extends keeps [] p p :=
  ⟨rfl, ⟨[], by simp, by simp⟩, List.prefix_rfl⟩

theorem trans {more' : List ContentType} (h : Extends keeps more p p')
    (h' : Extends keeps more' p' p'') : Extends keeps (more ++ more') p p'' where
  plans := h'.plans.trans h.plans
  skipped := by
    obtain ⟨l, hl, hsub⟩ := h.skipped
    obtain ⟨l', hl', hsub'⟩ := h'.skipped
    refine ⟨l ++ l', by rw [hl', hl, List.append_assoc], ?_⟩
    rw [List.map_append, List.map_append]
    exact hsub.append hsub'
  diagnostics := h.diagnostics.trans h'.diagnostics

/-- A type that is skipped is all that is added, but for what is told of it. -/
theorem skip {t : ContentType} (reason : TypeSkip) {diagnostics : List Diagnostic}
    (hplans : p'.plans = p.plans) (hskipped : p'.skipped = (p.skip t reason).skipped)
    (hdiagnostics : p'.diagnostics = p.diagnostics ++ diagnostics) : Extends keeps [t] p p' where
  plans := by rw [hplans]
  skipped := ⟨_, hskipped, .refl _⟩
  diagnostics := hdiagnostics ▸ List.prefix_append ..

end Extends

/-- A decision about a type adds to what was decided before it. -/
theorem Step.extends {s : Schema} {code : HandCode} {l : List ContentType} {p p' : Planning}
    {t : s.Member} {keeps : String → Bool} (hstep : Step s code p t p') (hcounted : Counted l p)
    (other : keeps t.1.handle = false) : Extends keeps [t.1] p p' := by
  cases hstep with
  | leftOut => exact .skip .ignoredByMarker rfl rfl (List.append_nil _).symm
  | nameTaken => exact .skip .unresolvable rfl rfl rfl
  | byHand => exact .skip .implementedByHand rfl rfl (List.append_nil _).symm
  | fileTaken => exact .skip .unresolvable rfl rfl rfl
  | failed => exact .skip .unresolvable rfl rfl rfl
  | planned plan warnings kept free open_ freeFile plans =>
    obtain ⟨c, -, -, hhandle, -⟩ := Schema.planType_eq plans
    refine ⟨SortedMap.ext_entries fun e => ?_, ⟨[], by simp [claim], by simp⟩, prefix_noteAll _ _⟩
    have hnew := SortedMap.perm_insert_of_new (hcounted.claimed _ free) plan
    rw [SortedMap.mem_filter, SortedMap.mem_filter, hnew.mem_iff, List.mem_cons]
    constructor
    · rintro ⟨rfl | he, hkeeps⟩
      · rw [hhandle, other] at hkeeps
        cases hkeeps
      · exact ⟨he, hkeeps⟩
    · rintro ⟨he, hkeeps⟩
      exact ⟨.inr he, hkeeps⟩

/-- The plans that are the same in both refer to the same models, as far as their references are to
handles of such plans. -/
theorem Extends.plans_result {keeps : String → Bool} {more : List ContentType} {p p' : Planning}
    (h : Extends keeps more p p') (kept : ∀ q ∈ p.plans.values, keeps q.handle = true ∧
      ∀ r ∈ q.references, keeps r.handle = true) :
    p'.result.plans.filter (fun q => keeps q.handle) = p.result.plans := by
  have hvalues : p'.plans.values.filter (fun q => keeps q.handle) = p.plans.values := by
    rw [← SortedMap.values_filter p'.plans fun q => keeps q.handle, h.plans, SortedMap.values_filter]
    exact List.filter_eq_self.2 fun q hq => (kept q hq).1
  have hplanned (handle : String) (hkeeps : keeps handle = true) :
      (p'.plans.values.map (·.handle)).contains handle =
        (p.plans.values.map (·.handle)).contains handle := by
    rw [Bool.eq_iff_iff, List.contains_iff_mem, List.contains_iff_mem, ← hvalues]
    constructor
    · intro hmem
      obtain ⟨q, hq, rfl⟩ := List.mem_map.1 hmem
      exact List.mem_map_of_mem (List.mem_filter.2 ⟨hq, hkeeps⟩)
    · exact fun hmem => (List.filter_sublist.map _).subset hmem
  rw [result, result, List.filter_map]
  refine Eq.trans (congrArg (List.map _) hvalues) (List.map_congr_left fun q hq => ?_)
  exact Plan.keepReferences_congr fun r hr => hplanned r.handle ((kept q hq).2 r hr)

/-- The decisions about more types add to those about the first ones. -/
theorem extends_after (s : Schema) (code : HandCode) {keeps : String → Bool} (l m : List s.Member)
    (other : ∀ t ∈ m, keeps t.1.handle = false) :
    Extends keeps (m.map (·.1)) (after s code l) (after s code (l ++ m)) := by
  induction m using List.reverseRecOn with
  | nil => rw [List.append_nil]; exact .refl _ _
  | append_singleton m t ih =>
    have hrest := ih fun u hu => other u (List.mem_append_left _ hu)
    rw [← List.append_assoc, after_concat, List.map_append]
    refine hrest.trans ((add_step s code _ t).extends (Counted.after s code (l ++ m)) ?_)
    exact other t (List.mem_append_right _ List.mem_cons_self)

end Planning

namespace Schema

/-- A handle that is that of a type. -/
def knows (s : Schema) (handle : String) : Bool := s.types.any fun t => t.handle == handle

/-- Types that come later, and that the types of a schema do not refer to. -/
def Ignores (s : Schema) (more : List ContentType) : Prop :=
  ∀ e ∈ more, ∀ t ∈ s.types, e.handle ≠ t.handle ∧ e.handle ∉ t.dependencies

variable {s : Schema} {more : List ContentType}

theorem Ignores.knows_eq (h : s.Ignores more) {e : ContentType} (he : e ∈ more) :
    s.knows e.handle = false :=
  List.any_eq_false.2 fun t ht heq => (h e he t ht).1 (by simpa using Eq.symm (by simpa using heq))

theorem Ignores.sees (h : s.Ignores more) : s.Sees ⟨s.types ++ more⟩ := by
  intro t ht handle hmem
  have hnone : more.find? (fun e => e.handle == handle) = none := by
    refine List.find?_eq_none.2 fun e he heq => (h e he t ht).2 ?_
    rwa [show e.handle = handle by simpa using heq]
  rw [find?, find?, List.find?_append, hnone, Option.or_none]

end Schema

/-- What the plans of a schema become with more types at its end: all that was decided stays, and
what is new is about the types that were added. -/
structure PlanSet.Grows (s : Schema) (more : List ContentType) (p p' : PlanSet) : Prop where
  /-- The plans of the types that were there are what they were. -/
  plans : p'.plans.filter (fun q => s.knows q.handle) = p.plans
  /-- The other plans are of types that were added. -/
  others : ∀ q ∈ p'.plans, s.knows q.handle = false → q.label ∈ more.map ContentType.label
  /-- The types that are skipped and what is told of them stay first. What comes behind them are
  types that were added, with errors about these alone. -/
  rest : ∃ skipped diagnostics, p'.skippedTypes = p.skippedTypes ++ skipped ∧
    p'.diagnostics = p.diagnostics ++ diagnostics ∧
    (skipped.map SkippedType.label).Sublist (more.map ContentType.label) ∧
    errorsOf diagnostics = unresolved skipped

namespace Schema

variable {s : Schema} {more : List ContentType} {code : HandCode}

theorem knows_of_mem {t : ContentType} (h : t ∈ s.types) : s.knows t.handle = true :=
  List.any_eq_true.2 ⟨t, h, beq_self_eq_true _⟩

/-- The handle of a plan is that of a type of the schema, and so are those of its references. -/
theorem knows_of_mem_after {l : List s.Member} {q : Plan}
    (h : q ∈ (Planning.after s code l).plans.values) :
    s.knows q.handle = true ∧ ∀ r ∈ q.references, s.knows r.handle = true := by
  obtain ⟨t, -, warnings, -, hok⟩ := (Planning.sourced_after s code l).source q h
  obtain ⟨c, -, -, hhandle, -⟩ := planType_eq hok
  refine ⟨by rw [hhandle, knows_of_mem t.2], fun r hr => ?_⟩
  obtain ⟨u, hu, heq⟩ := exists_type_of_mem_references hok hr
  exact heq ▸ knows_of_mem hu

/-- Types at the end of a schema that its own types know nothing of change no plan of these,
whatever names they ask for and whether or not they can be planned. -/
theorem plan_append (s : Schema) (more : List ContentType) (code : HandCode)
    (ignored : s.Ignores more) :
    PlanSet.Grows s more (s.plan code) ((⟨s.types ++ more⟩ : Schema).plan code) := by
  obtain ⟨A, B, hAB, hA, hB⟩ :=
    List.map_eq_append_iff.1 (List.attach_map_subtype_val (s.types ++ more))
  have hbefore : Planning.after ⟨s.types ++ more⟩ code A = Planning.after s code s.types.attach :=
    ignored.sees.after_eq code (hA.trans (List.attach_map_subtype_val _).symm)
  have hother : ∀ t ∈ B, s.knows t.1.handle = false := fun t ht =>
    ignored.knows_eq ((List.Perm.of_eq hB).subset (List.mem_map_of_mem ht))
  have hextends := Planning.extends_after ⟨s.types ++ more⟩ code A B hother
  have hafter : Planning.after ⟨s.types ++ more⟩ code (A ++ B) =
      Planning.after ⟨s.types ++ more⟩ code (s.types ++ more).attach := by rw [hAB]
  have haccounts := s.accounts_plan code
  have haccounts' := (⟨s.types ++ more⟩ : Schema).accounts_plan code
  rw [plan_eq] at haccounts haccounts'
  rw [plan_eq, plan_eq]
  rw [hbefore, hB, hafter] at hextends
  constructor
  case plans => exact hextends.plans_result fun q hq => knows_of_mem_after hq
  case others =>
    intro q hq hnew
    obtain ⟨q, hmem, rfl⟩ := List.mem_map.1 hq
    obtain ⟨t, -, warnings, -, hok⟩ :=
      (Planning.sourced_after ⟨s.types ++ more⟩ code _).source q hmem
    obtain ⟨c, -, -, hhandle, hname, -⟩ := planType_eq hok
    refine List.mem_map.2 ⟨t.1, ?_, Prod.ext hhandle.symm hname.symm⟩
    refine (List.mem_append.1 t.2).resolve_left fun ht => ?_
    exact Bool.false_ne_true (hnew.symm.trans (hhandle ▸ knows_of_mem ht))
  case rest =>
    obtain ⟨skipped, hskipped, hsublist⟩ := hextends.skipped
    obtain ⟨diagnostics, hdiagnostics⟩ := hextends.diagnostics
    refine ⟨skipped, diagnostics, hskipped, hdiagnostics.symm, hsublist, ?_⟩
    have herrors := haccounts'.errors
    rw [Planning.result, ← hdiagnostics, hskipped, errorsOf_append, unresolved_append] at herrors
    exact List.append_cancel_left (haccounts.errors ▸ herrors)

end Schema

/-- A home page. -/
def home : Schema where
  types := [{ handle := "home" }]

/-- A type that asks for the model name of the home page, and one that is composed with itself. -/
def intruders : List ContentType :=
  [{ handle := "start", name := some "Home" }, { handle := "loop", mixins := ["home", "loop"] }]

/-- The plan of the home page. -/
def homePlan : Plan where
  handle := "home"
  className := "Home"

/-- All three types. -/
def crowd : Schema := ⟨home.types ++ intruders⟩

/-- The type that is composed with itself. -/
def crowdLoop : crowd.Member := ⟨crowd.types[2], by simp [crowd, home, intruders]⟩

theorem compose_crowdLoop : crowd.compose crowdLoop [] = .error (.circular ["loop", "loop"]) := by
  rw [Schema.compose, dif_neg (by decide)]
  change crowd.composeWith "loop" ["loop"] ["home", "loop"] {} = _
  have hfirst : crowd.member? "home" = some ⟨crowd.types[0], by simp [crowd, home]⟩ := rfl
  rw [Schema.composeWith, hfirst]
  change (crowd.compose ⟨crowd.types[0], _⟩ ["loop"] >>= _) = _
  rw [Schema.compose_of_alone (by decide) rfl rfl]
  change crowd.composeWith "loop" ["loop"] ["loop"] {} = _
  rw [Schema.composeWith, show crowd.member? "loop" = some crowdLoop from rfl]
  change (crowd.compose crowdLoop ["loop"] >>= _) = _
  rw [Schema.compose, dif_pos (by decide)]
  rfl

/-- The home page keeps its model, and the two other types are skipped. -/
theorem plan_append_intruders :
    home.Ignores intruders ∧ PlanSet.Grows home intruders (home.plan {}) (crowd.plan {}) ∧
      (crowd.plan {}).plans = [homePlan] ∧ (crowd.plan {}).skippedTypes =
        [⟨"start", "Home", .unresolvable⟩, ⟨"loop", "Loop", .unresolvable⟩] := by
  have ignored : home.Ignores intruders := by
    unfold Schema.Ignores
    decide
  have hfirst : crowd.compose ⟨crowd.types[0], by simp [crowd, home]⟩ [] = .ok {} :=
    Schema.compose_of_alone rfl rfl rfl
  have hplan : crowd.plan {} = (((Planning.add {} crowd {} ⟨crowd.types[0], by
      simp [crowd, home]⟩).add crowd {} ⟨crowd.types[1], by
      simp [crowd, home, intruders]⟩).add crowd {} crowdLoop).result := rfl
  refine ⟨ignored, Schema.plan_append home intruders {} ignored, ?_⟩
  rw [hplan]
  simp only [Planning.add, Planning.addNamed, Schema.planType, hfirst, compose_crowdLoop]
  decide

end ContentModels
