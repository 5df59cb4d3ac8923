import ContentModels.Proofs.Plan.AllTypes
import Mathlib.Data.String.Basic

/-!
# Every type is accounted for

Each type of a schema gets a plan or is skipped, and never both. A type that cannot be planned is
told of by one error, and there are no other errors; a warning is given once. Model names that
differ may ask for the same file; it goes to the first model that is planned for it. All of this is
kept by every decision about a type.

## Main definitions

* `ContentType.label`, `Plan.label`, `SkippedType.label` — what types and what became of them have
  in common.
* `PlanSet.Accounts` — what the plans of a schema say of all its types.

## Main statements

* `Schema.onlyWarns_of_compose` — composing a type gives warnings only.
* `Planning.Counted.step` — every decision keeps the account.
* `Schema.accounts_plan` — the plans of a schema account for it.
* `Schema.nodup_file` — no two plans of a schema have the same file.
-/

namespace ContentModels

/-! ## What composing warns of -/

/-- Nothing is said about a composition but warnings. -/
def Composed.OnlyWarns (c : Composed) : Prop := ∀ d ∈ c.warnings, d.severity = .warning

theorem Declared.severity_of_settle {owner : String} {kept dropped : Declared}
    {warnings : List Diagnostic} (h : kept.settle owner dropped = .ok warnings) :
    ∀ d ∈ warnings, d.severity = .warning := by
  simp only [settle] at h
  split at h
  · obtain rfl := Except.ok.inj h
    simp
  · split at h
    · obtain rfl := Except.ok.inj h
      simp [droppedWarning, Diagnostic.conflict]
    · cases h

theorem severity_of_mergeInto {owner : String} {d : Declared} {l l' : List Declared}
    {warnings : List Diagnostic} (h : mergeInto owner d l = .ok (l', warnings)) :
    ∀ w ∈ warnings, w.severity = .warning := by
  induction l generalizing l' with
  | nil =>
    obtain ⟨-, rfl⟩ := Prod.ext_iff.1 (Except.ok.inj h)
    simp
  | cons e rest ih =>
    rw [mergeInto] at h
    split at h
    · obtain ⟨w, hw, h⟩ := Except.bind_ok_iff.1 h
      obtain ⟨-, rfl⟩ := Prod.ext_iff.1 (Except.ok.inj h)
      exact Declared.severity_of_settle hw
    · obtain ⟨⟨m, w⟩, hm, h⟩ := Except.bind_ok_iff.1 h
      obtain ⟨-, rfl⟩ := Prod.ext_iff.1 (Except.ok.inj h)
      exact ih hm

theorem Composed.OnlyWarns.addAll {c c' : Composed} {owner : String} {l : List Declared}
    (hc : c.OnlyWarns) (h : c.addAll owner l = .ok c') : c'.OnlyWarns := by
  induction l generalizing c with
  | nil =>
    obtain rfl := Except.ok.inj h
    exact hc
  | cons d rest ih =>
    obtain ⟨c₁, h₁, h⟩ := Except.bind_ok_iff.1 h
    refine ih ?_ h
    obtain ⟨⟨m, w⟩, hm, h₁⟩ := Except.bind_ok_iff.1 h₁
    obtain rfl := Except.ok.inj h₁
    intro x hx
    rcases List.mem_append.1 hx with hx | hx
    · exact hc x hx
    · exact severity_of_mergeInto hm x hx

/-- Composing a type gives warnings only, and adding what it is composed with gives no others. -/
theorem Schema.onlyWarns_of_compose (s : Schema) :
    (∀ (t : s.Member) (stack : List String) (c : Composed), s.compose t stack = .ok c →
      c.OnlyWarns) ∧
    ∀ (owner : String) (stack names : List String) (c c' : Composed), c.OnlyWarns →
      s.composeWith owner stack names c = .ok c' → c'.OnlyWarns := by
  have start : ({} : Composed).OnlyWarns := by simp [Composed.OnlyWarns]
  refine compose.mutual_induct s
    (fun t stack => ∀ c, s.compose t stack = .ok c → c.OnlyWarns)
    (fun owner stack names c => ∀ c', c.OnlyWarns →
      s.composeWith owner stack names c = .ok c' → c'.OnlyWarns) ?_ ?_ ?_ ?_ ?_
  · intro t stack met c h
    rw [compose, dif_pos met] at h
    cases h
  · intro t stack unmet ih c h
    rw [compose, dif_neg unmet] at h
    obtain ⟨own, hown, h⟩ := Except.bind_ok_iff.1 h
    exact ih own c (start.addAll hown) h
  · intro owner stack c c' hc h
    rw [composeWith] at h
    obtain rfl := Except.ok.inj h
    exact hc
  · intro owner stack c handle more hnone c' _ h
    rw [composeWith, hnone] at h
    cases h
  · intro owner stack c handle more t hsome ihType ihMore c' hc h
    rw [composeWith, hsome] at h
    obtain ⟨inner, hinner, h⟩ := Except.bind_ok_iff.1 h
    obtain ⟨c₁, h₁, h⟩ := Except.bind_ok_iff.1 h
    refine ihMore c₁ c' (Composed.OnlyWarns.addAll ?_ h₁) h
    intro x hx
    rcases List.mem_append.1 hx with hx | hx
    · exact hc x hx
    · exact ihType inner hinner x hx

/-! ## Errors and warnings -/

/-- What errors are about. -/
def errorsOf (l : List Diagnostic) : List (DiagnosticKind × String) :=
  (l.filter Diagnostic.isError).map fun d => (d.kind, d.subject)

def warningsOf (l : List Diagnostic) : List Diagnostic := l.filter fun d => d.severity == .warning

theorem errorsOf_append (l m : List Diagnostic) : errorsOf (l ++ m) = errorsOf l ++ errorsOf m := by
  simp [errorsOf]

theorem warningsOf_append (l m : List Diagnostic) :
    warningsOf (l ++ m) = warningsOf l ++ warningsOf m := List.filter_append ..

/-- Warnings that are noted are no errors, and each of them is noted once. -/
theorem errorsOf_noteAll {l noted : List Diagnostic} (h : ∀ d ∈ l, d.severity = .warning) :
    errorsOf (Planning.noteAll noted l) = errorsOf noted ∧
      ((warningsOf noted).Nodup → (warningsOf (Planning.noteAll noted l)).Nodup) := by
  induction l generalizing noted with
  | nil => exact ⟨rfl, id⟩
  | cons d rest ih =>
    obtain ⟨hd, hrest⟩ := List.forall_mem_cons.1 h
    have herrors : errorsOf [d] = [] := by simp [errorsOf, Diagnostic.isError, hd]
    have hwarnings : warningsOf [d] = [d] := by simp [warningsOf, hd]
    rw [Planning.noteAll, List.foldl_cons, ← Planning.noteAll]
    by_cases hmem : d ∈ noted
    · rw [if_pos (by simpa using hmem)]
      exact ih hrest
    · rw [if_neg (by simpa using hmem)]
      obtain ⟨ihErrors, ihWarnings⟩ := @ih (noted ++ [d]) hrest
      rw [errorsOf_append, herrors, List.append_nil] at ihErrors
      refine ⟨ihErrors, fun hnodup => ihWarnings ?_⟩
      rw [warningsOf_append, hwarnings, List.nodup_append]
      refine ⟨hnodup, by simp, fun a ha b hb => ?_⟩
      rintro rfl
      obtain rfl := List.mem_singleton.1 hb
      exact hmem (List.mem_filter.1 ha).1

/-! ## What became of types -/

/-- The handle of a type with the name of its model. -/
def ContentType.label (t : ContentType) : String × String := (t.handle, t.modelName)

def Plan.label (p : Plan) : String × String := (p.handle, p.className)

def SkippedType.label (t : SkippedType) : String × String := (t.handle, t.className)

/-- What is told of the types that cannot be planned. -/
def unresolved (l : List SkippedType) : List (DiagnosticKind × String) :=
  (l.filter fun t => t.reason = .unresolvable).map fun t => (.unresolvableType, t.handle)

theorem unresolved_append (l m : List SkippedType) :
    unresolved (l ++ m) = unresolved l ++ unresolved m := by
  simp [unresolved]

namespace Planning

/-- The decisions about some types account for all of them. -/
structure Counted (l : List ContentType) (p : Planning) : Prop where
  /-- Every type has a plan or is skipped, and there are no others. -/
  complete : (p.plans.values.map Plan.label ++ p.skipped.map SkippedType.label).Perm
    (l.map ContentType.label)
  skippedInOrder : (p.skipped.map SkippedType.label).Sublist (l.map ContentType.label)
  named : ∀ e ∈ p.plans.entries, e.2.className = e.1
  /-- A model name that nobody has is that of no plan. -/
  claimed : ∀ model, p.models.get? model = none → p.plans.get? model = none
  errors : errorsOf p.diagnostics = unresolved p.skipped
  warnings : (warningsOf p.diagnostics).Nodup

namespace Counted

variable {l : List ContentType} {p : Planning} {t : ContentType}

theorem start : Counted [] {} where
  complete := .refl _
  skippedInOrder := .refl _
  named := by simp
  claimed _ _ := rfl
  errors := rfl
  warnings := .nil

/-- A type that takes its model name is not decided about yet. -/
theorem claim (h : Counted l p) (t : ContentType) : Counted l (p.claim t) :=
  { h with
    claimed := fun model hnone => by
      refine h.claimed model ?_
      rw [Planning.claim, SortedMap.get?_insert] at hnone
      split at hnone
      · cases hnone
      · exact hnone }

theorem complete_skip (h : Counted l p) (reason : TypeSkip) :
    (p.plans.values.map Plan.label ++ (p.skip t reason).skipped.map SkippedType.label).Perm
      ((l ++ [t]).map ContentType.label) := by
  rw [skip, List.map_append, List.map_append, ← List.append_assoc]
  exact h.complete.append_right _

theorem skippedInOrder_skip (h : Counted l p) (reason : TypeSkip) :
    ((p.skip t reason).skipped.map SkippedType.label).Sublist
      ((l ++ [t]).map ContentType.label) := by
  rw [skip, List.map_append, List.map_append]
  exact h.skippedInOrder.append (.refl _)

/-- A type that is left out or written by hand is skipped without an error. -/
theorem skip (h : Counted l p) {reason : TypeSkip} (hreason : reason ≠ .unresolvable) :
    Counted (l ++ [t]) (p.skip t reason) where
  complete := h.complete_skip reason
  skippedInOrder := h.skippedInOrder_skip reason
  named := h.named
  claimed := h.claimed
  errors := by
    have hnone : unresolved [⟨t.handle, t.modelName, reason⟩] = [] := by simp [unresolved, hreason]
    rw [Planning.skip, unresolved_append, hnone, List.append_nil, h.errors]
  warnings := h.warnings

/-- A type that cannot be planned is skipped with one error. -/
theorem refuse (h : Counted l p) (e : PlanError) : Counted (l ++ [t]) (p.refuse t e) where
  complete := h.complete_skip .unresolvable
  skippedInOrder := h.skippedInOrder_skip .unresolvable
  named := h.named
  claimed := h.claimed
  errors := by
    rw [Planning.refuse, Planning.skip, errorsOf_append, unresolved_append, h.errors]
    rfl
  warnings := by
    have hnone : warningsOf [Diagnostic.unresolvable t.handle e] = [] := rfl
    rw [Planning.refuse, warningsOf_append, hnone, List.append_nil]
    exact h.warnings

/-- A type whose model name was free gets a plan of its own, and at most warnings. -/
theorem planned (h : Counted l p) (free : p.models.get? t.modelName = none) {plan : Plan}
    (hlabel : plan.label = t.label) {warnings : List Diagnostic}
    (hwarnings : ∀ d ∈ warnings, d.severity = .warning) (files : SortedMap String String) :
    Counted (l ++ [t])
      { p.claim t with
        files := files
        plans := p.plans.insert t.modelName plan
        diagnostics := noteAll p.diagnostics warnings } where
  complete := by
    have hplans := SortedMap.perm_insert_of_new (h.claimed _ free) plan
    have hvalues : ((p.plans.insert t.modelName plan).values.map Plan.label).Perm
        (t.label :: p.plans.values.map Plan.label) := by
      rw [← hlabel]
      exact (hplans.map _).map _
    refine (hvalues.append_right _).trans ?_
    rw [List.map_append, List.cons_append]
    exact ((h.complete.cons _).trans (List.perm_append_singleton _ _).symm)
  skippedInOrder := by
    rw [List.map_append]
    exact h.skippedInOrder.trans (List.sublist_append_left _ _)
  named e he := by
    rcases List.mem_cons.1 ((SortedMap.perm_insert_of_new (h.claimed _ free) plan).subset he) with
      rfl | he
    · exact congrArg Prod.snd hlabel
    · exact h.named e he
  claimed model hnone := by
    simp only [Planning.claim, SortedMap.get?_insert] at hnone ⊢
    split at hnone
    · cases hnone
    · next hne => rw [if_neg hne, h.claimed model hnone]
  errors := (errorsOf_noteAll hwarnings).1.trans h.errors
  warnings := (errorsOf_noteAll hwarnings).2 h.warnings

/-- Every decision about a type keeps the account. -/
theorem step {s : Schema} {code : HandCode} {t : s.Member} {p' : Planning} (h : Counted l p)
    (hstep : Step s code p t p') : Counted (l ++ [t.1]) p' := by
  cases hstep with
  | leftOut => exact h.skip (by simp)
  | nameTaken owner => exact h.refuse _
  | byHand => exact (h.claim t.1).skip (by simp)
  | fileTaken owner => exact (h.claim t.1).refuse _
  | failed e => exact (h.claim t.1).refuse _
  | planned plan warnings kept free open_ freeFile plans =>
    obtain ⟨c, hc, rfl, hhandle, hname, -⟩ := Schema.planType_eq plans
    exact h.planned free (Prod.ext hhandle hname) (s.onlyWarns_of_compose.1 t [] c hc) _

theorem after (s : Schema) (code : HandCode) (l : List s.Member) :
    Counted (l.map (·.1)) (Planning.after s code l) := by
  refine after_induct (motive := fun l p => Counted (l.map (·.1)) p) start ?_ l
  intro l t p p' h hstep
  rw [List.map_append]
  exact h.step hstep

end Counted

end Planning

/-! ## The plans of a schema -/

/-- The model names of plans increase, so that no two plans have the same. -/
theorem Schema.pairwise_className (s : Schema) (code : HandCode) :
    ((s.plan code).plans.map (·.className)).Pairwise (· < ·) := by
  have hcounted := Planning.Counted.after s code s.types.attach
  rw [plan_eq, Planning.result]
  generalize Planning.after s code s.types.attach = p at hcounted
  have hkeys (planned : List String) :
      (p.plans.values.map (·.keepReferences planned)).map (·.className) = p.plans.keys := by
    rw [List.map_map, SortedMap.values, List.map_map, SortedMap.keys]
    exact List.map_congr_left hcounted.named
  rw [hkeys]
  exact p.plans.pairwise_keys.imp fun h => compare_lt_iff_lt.1 h

/-- What the plans of a schema, together with what is said of its other types, come to. -/
structure PlanSet.Accounts (p : PlanSet) (s : Schema) : Prop where
  /-- Every type has a plan or is skipped, as often as it is there. -/
  complete : (p.plans.map Plan.label ++ p.skippedTypes.map SkippedType.label).Perm
    (s.types.map ContentType.label)
  /-- The model names of the plans increase. -/
  increasing : (p.plans.map (·.className)).Pairwise (· < ·)
  /-- The types that are skipped keep the order of the schema. -/
  skippedInOrder : (p.skippedTypes.map SkippedType.label).Sublist (s.types.map ContentType.label)
  /-- The errors are about the types that cannot be planned, in order and one for each. -/
  errors : errorsOf p.diagnostics = unresolved p.skippedTypes
  /-- No warning is given twice. -/
  warnings : (warningsOf p.diagnostics).Nodup

/-- The plans of a schema account for all of its types, whatever is written by hand. -/
theorem Schema.accounts_plan (s : Schema) (code : HandCode) : (s.plan code).Accounts s := by
  have hcounted := Planning.Counted.after s code s.types.attach
  rw [List.attach_map_subtype_val] at hcounted
  have hlabels (plans : List Plan) (planned : List String) :
      (plans.map (·.keepReferences planned)).map Plan.label = plans.map Plan.label := by
    rw [List.map_map]
    rfl
  constructor
  case complete =>
    rw [plan_eq, Planning.result, hlabels]
    exact hcounted.complete
  case increasing => exact s.pairwise_className code
  case skippedInOrder => exact hcounted.skippedInOrder
  case errors => exact hcounted.errors
  case warnings => exact hcounted.warnings

/-! ## Files of planned models -/

/-- The name of the file of a planned model. -/
def Plan.file (p : Plan) : String := Naming.generatedFileName p.className

namespace Planning

/-- The files of the plans are taken, and no two plans have the same. -/
structure Filed (p : Planning) : Prop where
  taken : ∀ plan ∈ p.plans.values, p.files.get? plan.file ≠ none
  distinct : (p.plans.values.map Plan.file).Nodup

variable {l : List ContentType} {p p' : Planning}

/-- Every decision about a type keeps the files of plans apart. -/
theorem Filed.step {s : Schema} {code : HandCode} {t : s.Member} (h : Filed p)
    (hcounted : Counted l p)
    (hstep : Step s code p t p') : Filed p' := by
  cases hstep with
  | leftOut | nameTaken | byHand | fileTaken | failed => exact ⟨h.taken, h.distinct⟩
  | planned plan warnings kept free open_ freeFile plans =>
    obtain ⟨c, -, -, -, hname, -⟩ := Schema.planType_eq plans
    have hfile : plan.file = Naming.generatedFileName t.1.modelName := by rw [Plan.file, hname]
    have hvalues : ((p.plans.insert t.1.modelName plan).values).Perm (plan :: p.plans.values) :=
      (SortedMap.perm_insert_of_new (hcounted.claimed _ free) plan).map _
    constructor
    case taken =>
      intro q hq
      simp only [SortedMap.get?_insert]
      split
      · simp
      · next hne =>
        rcases List.mem_cons.1 (hvalues.subset hq) with rfl | hq
        · exact absurd (hfile ▸ Std.ReflCmp.compare_self) hne
        · exact h.taken q hq
    case distinct =>
      refine ((hvalues.map Plan.file).nodup_iff).2 (List.nodup_cons.2 ⟨?_, h.distinct⟩)
      intro hmem
      obtain ⟨q, hq, heq⟩ := List.mem_map.1 hmem
      exact h.taken q hq (by rw [heq, hfile, freeFile])

theorem filed_after (s : Schema) (code : HandCode) (l : List s.Member) :
    Filed (after s code l) := by
  have hboth : Counted (l.map (·.1)) (after s code l) ∧ Filed (after s code l) := by
    refine after_induct (motive := fun l p => Counted (l.map (·.1)) p ∧ Filed p)
      ⟨.start, by simp [SortedMap.values], by simp [SortedMap.values]⟩ ?_ l
    rintro l t p p' ⟨hcounted, hfiled⟩ hstep
    rw [List.map_append]
    exact ⟨hcounted.step hstep, hfiled.step hcounted hstep⟩
  exact hboth.2

end Planning

/-- No two plans of a schema have the same file. -/
theorem Schema.nodup_file (s : Schema) (code : HandCode) :
    ((s.plan code).plans.map Plan.file).Nodup := by
  have hfiled := Planning.filed_after s code s.types.attach
  rw [plan_eq, Planning.result, List.map_map]
  exact hfiled.distinct

end ContentModels
