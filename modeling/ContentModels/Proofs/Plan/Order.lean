import ContentModels.Proofs.Plan.Lookup
import ContentModels.Proofs.Plan.References
import Mathlib.Data.List.Perm.Basic

/-!
# The order of a schema

Types take model names and files from each other only if they ask for the same. Where none do, what
is decided about a type does not depend on those before it. So the order of a schema does not matter
for its plans, and elsewhere it is no more than the order in which things are told.

## Main definitions

* `Planning.alone` — what is decided about a type when nothing is taken.
* `Planning.Gathers` — a planning has what is decided about each of some types alone.

## Main statements

* `Planning.gathers_after` — so has the planning of types that share no names.
* `Schema.plan_perm` — the plans of a schema in another order.
-/

namespace ContentModels

namespace Planning

variable {s : Schema} {code : HandCode} {l l' : List s.Member} {p p' : Planning} {t : s.Member}

/-! ## One type -/

/-- What is decided about a type when no name and no file is taken. -/
def alone (s : Schema) (code : HandCode) (t : s.Member) : Planning := add {} s code t

theorem mem_noteAll {noted warnings : List Diagnostic} {d : Diagnostic} :
    d ∈ noteAll noted warnings ↔ d ∈ noted ∨ d ∈ warnings := by
  induction warnings generalizing noted with
  | nil => simp [noteAll]
  | cons w rest ih =>
    rw [noteAll, List.foldl_cons, ← noteAll, ih, List.mem_cons]
    split
    · next hmem =>
      have hw : w ∈ noted := by simpa using hmem
      constructor
      · rintro (h | h)
        · exact .inl h
        · exact .inr (.inr h)
      · rintro (h | rfl | h)
        · exact .inl h
        · exact .inl hw
        · exact .inr h
    · rw [List.mem_append, List.mem_singleton, or_assoc]

/-- A decision adds to a planning what is decided about the type alone, and takes no names but those
of the type. -/
structure Adds (s : Schema) (code : HandCode) (t : s.Member) (p p' : Planning) : Prop where
  plans : ∀ e, e ∈ p'.plans.entries ↔ e ∈ p.plans.entries ∨ e ∈ (alone s code t).plans.entries
  skipped : p'.skipped = p.skipped ++ (alone s code t).skipped
  diagnostics : ∀ d, d ∈ p'.diagnostics ↔
    d ∈ p.diagnostics ∨ d ∈ (alone s code t).diagnostics
  models : ∀ model, p.models.get? model = none → model ≠ t.1.modelName →
    p'.models.get? model = none
  files : ∀ file, p.files.get? file = none → file ≠ Naming.generatedFileName t.1.modelName →
    p'.files.get? file = none

theorem get?_insert_of_ne {m : SortedMap String String} {k k' v : String} (h : m.get? k' = none)
    (hne : k' ≠ k) : (m.insert k v).get? k' = none := by
  rw [SortedMap.get?_insert, if_neg (by simpa using hne), h]

theorem Step.adds (hstep : Step s code p t p') (free : p.models.get? t.1.modelName = none)
    (freeFile : p.files.get? (Naming.generatedFileName t.1.modelName) = none)
    (new : p.plans.get? t.1.modelName = none) : Adds s code t p p' := by
  have named (model : String) (h : p.models.get? model = none) (hne : model ≠ t.1.modelName) :
      (p.claim t.1).models.get? model = none := get?_insert_of_ne h hne
  cases hstep with
  | nameTaken owner _ taken => rw [free] at taken; cases taken
  | fileTaken owner _ _ _ taken => rw [freeFile] at taken; cases taken
  | leftOut left =>
    have halone : alone s code t = skip {} t.1 .ignoredByMarker := by simp [alone, add, left]
    exact ⟨by simp [halone, skip], by simp [halone, skip], by simp [halone, skip],
      fun _ h _ => h, fun _ h _ => h⟩
  | byHand kept _ byHand =>
    have halone : alone s code t = (claim {} t.1).skip t.1 .implementedByHand := by
      simp [alone, add, kept, addNamed, byHand, claim]
    exact ⟨by simp [halone, skip, claim], by simp [halone, skip, claim],
      by simp [halone, skip, claim], named, fun _ h _ => h⟩
  | failed e kept _ open_ _ fails =>
    have halone : alone s code t = (claim {} t.1).refuse t.1 e := by
      simp [alone, add, kept, addNamed, open_, fails, claim]
    exact ⟨by simp [halone, refuse, skip, claim], by simp [halone, refuse, skip, claim],
      by simp [halone, refuse, skip, claim], named, fun _ h _ => h⟩
  | planned plan warnings kept _ open_ _ plans =>
    have halone : (alone s code t).plans.entries = [(t.1.modelName, plan)] ∧
        (alone s code t).skipped = [] ∧
        (alone s code t).diagnostics = noteAll [] warnings := by
      simp [alone, add, kept, addNamed, open_, plans, foldl_warn]
      rfl
    obtain ⟨hplans, hskipped, hdiagnostics⟩ := halone
    constructor
    case plans =>
      intro e
      rw [(SortedMap.perm_insert_of_new new plan).mem_iff, hplans, List.mem_cons,
        List.mem_singleton, or_comm]
    case skipped => rw [hskipped, List.append_nil]; rfl
    case diagnostics =>
      intro d
      rw [hdiagnostics, mem_noteAll, mem_noteAll, List.mem_nil_iff, false_or]
    case models => exact named
    case files => exact fun file h hne => get?_insert_of_ne h hne

/-! ## Many types -/

/-- A planning has what is decided about each of some types alone, and the names of no others are
taken. -/
structure Gathers (s : Schema) (code : HandCode) (l : List s.Member) (p : Planning) : Prop where
  plans : ∀ e, e ∈ p.plans.entries ↔ ∃ t ∈ l, e ∈ (alone s code t).plans.entries
  skipped : p.skipped = l.flatMap fun t => (alone s code t).skipped
  diagnostics : ∀ d, d ∈ p.diagnostics ↔ ∃ t ∈ l, d ∈ (alone s code t).diagnostics
  models : ∀ model, (∀ t ∈ l, model ≠ t.1.modelName) → p.models.get? model = none
  files : ∀ file, (∀ t ∈ l, file ≠ Naming.generatedFileName t.1.modelName) →
    p.files.get? file = none

theorem Gathers.start (s : Schema) (code : HandCode) : Gathers s code [] {} := by
  constructor <;> simp

theorem exists_mem_concat {P : s.Member → Prop} :
    (∃ u ∈ l ++ [t], P u) ↔ (∃ u ∈ l, P u) ∨ P t := by
  simp [or_and_right, exists_or]

theorem Gathers.concat (h : Gathers s code l p) (hadds : Adds s code t p p') :
    Gathers s code (l ++ [t]) p' where
  plans e := by rw [hadds.plans, h.plans, exists_mem_concat]
  skipped := by
    rw [hadds.skipped, h.skipped, List.flatMap_append, List.flatMap_singleton]
  diagnostics d := by rw [hadds.diagnostics, h.diagnostics, exists_mem_concat]
  models model hother := by
    rw [List.forall_mem_append, List.forall_mem_singleton] at hother
    exact hadds.models model (h.models model hother.1) hother.2
  files file hother := by
    rw [List.forall_mem_append, List.forall_mem_singleton] at hother
    exact hadds.files file (h.files file hother.1) hother.2

/-- The planning of types that share no model names and no files has what is decided about each of
them alone. -/
theorem gathers_after (models : (l.map (·.1.modelName)).Nodup)
    (files : (l.map fun t => Naming.generatedFileName t.1.modelName).Nodup) :
    Gathers s code l (after s code l) := by
  induction l using List.reverseRecOn with
  | nil => exact .start s code
  | append_singleton l t ih =>
    rw [List.map_append, List.nodup_append] at models files
    obtain ⟨models, -, newModel⟩ := models
    obtain ⟨files, -, newFile⟩ := files
    have hgathers := ih models files
    rw [after_concat]
    have free : (after s code l).models.get? t.1.modelName = none :=
      hgathers.models _ fun u hu heq =>
        newModel _ (List.mem_map_of_mem hu) _ List.mem_cons_self heq.symm
    have freeFile := hgathers.files (Naming.generatedFileName t.1.modelName) fun u hu heq =>
      newFile _ (List.mem_map_of_mem hu) _ List.mem_cons_self heq.symm
    exact hgathers.concat
      ((add_step s code _ t).adds free freeFile ((Counted.after s code l).claimed _ free))

/-- Nothing is told twice of types with different handles. -/
theorem Counted.nodup_diagnostics {l : List ContentType} (h : Counted l p)
    (handles : (l.map (·.handle)).Nodup) : p.diagnostics.Nodup := by
  have hskipped : (p.skipped.map (·.handle)).Nodup := by
    refine handles.sublist ?_
    have := h.skippedInOrder.map Prod.fst
    rwa [List.map_map, List.map_map] at this
  have hunresolved : (unresolved p.skipped).Nodup := by
    refine List.Nodup.of_map Prod.snd ?_
    rw [unresolved, List.map_map]
    exact hskipped.sublist (List.filter_sublist.map _)
  have herrors : (p.diagnostics.filter Diagnostic.isError).Nodup := by
    rw [← h.errors] at hunresolved
    exact List.Nodup.of_map _ hunresolved
  have hwarnings : (p.diagnostics.filter fun d => !d.isError).Nodup := by
    refine (List.filter_congr fun d _ => ?_) ▸ h.warnings
    cases hd : d.severity <;> simp [Diagnostic.isError, hd]
  refine (List.filter_append_perm Diagnostic.isError _).nodup_iff.1 ?_
  refine List.nodup_append.2 ⟨herrors, hwarnings, fun d hd e he => ?_⟩
  rintro rfl
  have := (List.mem_filter.1 hd).2
  simp [this] at he

/-- Types that share no names are planned the same in any order, and the same is told of them. -/
theorem after_perm (code : HandCode) (perm : l.Perm l') (handles : (l.map (·.1.handle)).Nodup)
    (models : (l.map (·.1.modelName)).Nodup)
    (files : (l.map fun t => Naming.generatedFileName t.1.modelName).Nodup) :
    (after s code l).plans = (after s code l').plans ∧
      (after s code l).skipped.Perm (after s code l').skipped ∧
      (after s code l).diagnostics.Perm (after s code l').diagnostics := by
  have hgathers : Gathers s code l (after s code l) := gathers_after models files
  have hgathers' : Gathers s code l' (after s code l') :=
    gathers_after ((perm.map _).nodup_iff.1 models) ((perm.map _).nodup_iff.1 files)
  refine ⟨SortedMap.ext_entries fun e => ?_, ?_, ?_⟩
  · simp only [hgathers.plans, hgathers'.plans, perm.mem_iff]
  · rw [hgathers.skipped, hgathers'.skipped]
    exact perm.flatMap_right _
  · have hnodup {m : List s.Member} (h : (m.map (·.1.handle)).Nodup) :
        (after s code m).diagnostics.Nodup :=
      (Counted.after s code m).nodup_diagnostics (by rwa [List.map_map])
    refine (List.perm_ext_iff_of_nodup (hnodup handles)
      (hnodup ((perm.map _).nodup_iff.1 handles))).2 fun d => ?_
    simp only [hgathers.diagnostics, hgathers'.diagnostics, perm.mem_iff]

end Planning

/-! ## Schemas -/

namespace Schema

variable {s s' : Schema}

theorem find?_eq_some_iff (handles : (s.types.map (·.handle)).Nodup) {handle : String}
    {t : ContentType} : s.find? handle = some t ↔ t ∈ s.types ∧ t.handle = handle := by
  constructor
  · exact fun h => ⟨mem_of_find? h, handle_of_find? h⟩
  · rintro ⟨hmem, rfl⟩
    obtain ⟨u, hu⟩ : ∃ u, s.find? t.handle = some u :=
      Option.isSome_iff_exists.1 (List.find?_isSome.2 ⟨t, hmem, beq_self_eq_true _⟩)
    rw [hu, List.inj_on_of_nodup_map handles (mem_of_find? hu) hmem (handle_of_find? hu)]

/-- A handle that is given once refers to the same type in any order. -/
theorem sees_of_perm (perm : s.types.Perm s'.types) (handles : (s.types.map (·.handle)).Nodup) :
    s.Sees s' := by
  intro _ _ handle _
  have handles' := (perm.map (·.handle)).nodup_iff.1 handles
  refine Option.ext fun t => ?_
  rw [find?_eq_some_iff handles, find?_eq_some_iff handles',
    perm.mem_iff]

/-- The order of a schema whose types share no handles, no model names and no files does not matter
for its plans, and the same types are skipped and the same is told of them. -/
theorem plan_perm (s s' : Schema) (code : HandCode) (perm : s.types.Perm s'.types)
    (handles : (s.types.map (·.handle)).Nodup) (models : (s.types.map (·.modelName)).Nodup)
    (files : (s.types.map fun t => Naming.generatedFileName t.modelName).Nodup) :
    (s.plan code).plans = (s'.plan code).plans ∧
      (s.plan code).skippedTypes.Perm (s'.plan code).skippedTypes ∧
      (s.plan code).diagnostics.Perm (s'.plan code).diagnostics := by
  -- The types of the first schema, in its order, as those of the second one.
  let l : List s'.Member := s.types.attach.map fun t => ⟨t.1, perm.mem_iff.1 t.2⟩
  have hl : l.map (·.1) = s.types := by
    rw [List.map_map]
    exact List.attach_map_subtype_val s.types
  have hafter : Planning.after s' code l = Planning.after s code s.types.attach :=
    (sees_of_perm perm handles).after_eq code (hl.trans (List.attach_map_subtype_val _).symm)
  have hperm : l.Perm s'.types.attach := by
    refine (List.map_perm_map_iff Subtype.val_injective).1 ?_
    rw [hl, List.attach_map_subtype_val]
    exact perm
  rw [← hl, List.map_map] at handles models files
  obtain ⟨hplans, hskipped, hdiagnostics⟩ :=
    Planning.after_perm code hperm handles models files
  rw [hafter] at hplans hskipped hdiagnostics
  rw [plan_eq, plan_eq, Planning.result, Planning.result, hplans]
  exact ⟨rfl, hskipped, hdiagnostics⟩

end Schema

/-- A page with a mixin has the same plan behind the mixin and before it. -/
theorem plan_perm_linked :
    linkedPlan ∈ (linked.plan {}).plans ∧
      (linked.types.map (·.handle)).Nodup ∧ (linked.types.map (·.modelName)).Nodup ∧
      (linked.types.map fun t => Naming.generatedFileName t.modelName).Nodup ∧
      (linked.plan {}).plans = ((⟨linked.types.reverse⟩ : Schema).plan {}).plans ∧
      (linked.plan {}).skippedTypes.Perm ((⟨linked.types.reverse⟩ : Schema).plan {}).skippedTypes ∧
      (linked.plan {}).diagnostics.Perm ((⟨linked.types.reverse⟩ : Schema).plan {}).diagnostics := by
  have handles : (linked.types.map (·.handle)).Nodup := by decide
  have models : (linked.types.map (·.modelName)).Nodup := by decide
  have files : (linked.types.map fun t => Naming.generatedFileName t.modelName).Nodup := by
    decide
  exact ⟨linkedPlan_mem_plans, handles, models, files,
    Schema.plan_perm linked ⟨linked.types.reverse⟩ {} (List.reverse_perm _).symm handles models
      files⟩

end ContentModels
