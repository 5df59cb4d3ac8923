import ContentModels.Proofs.Plan.Linearisation
import ContentModels.Proofs.Plan.References
import ContentModels.Proofs.Plan.Settling
import Mathlib.Logic.Relation

/-!
# How composing a type goes

A type is composed with others, which are composed with others in turn. Composing it fails for one
of four reasons, and when it does not fail, then each type that it is composed with was composed as
well and gave its declarations in the order of its handle. All that is said about composing follows
from these two laws by induction over the types that are being composed.

## Main definitions

* `Schema.ComposedWith`, `Schema.Reaches` — the types that a type is composed with, and those behind
  them.
* `Schema.Fails` — why composing a type fails.
* `Schema.Settles` — what was settled between a type and one that it is composed with.

## Main statements

* `Schema.compose_induct` — induction over the types that are being composed.
* `Schema.fails_of_compose` — there are no other failures.
* `Schema.settles_of_compose` — what a success says.
-/

namespace ContentModels

/-! ## Declarations up to ignoring -/

/-- The first declaration of a handle in a merged list is the first one in the list that it was made
of, ignored if any of them is. -/
theorem firstOf_collapse (l : List Declared) (handle : String) :
    firstOf (collapse l) handle =
      (firstOf l handle).map (·.ignoreIf (ignoresHandle l handle)) := by
  cases hfirst : firstOf (collapse l) handle with
  | none =>
    rw [firstOf_eq_none, mem_handles_collapse, ← firstOf_eq_none] at hfirst
    rw [hfirst, Option.map_none]
  | some e =>
    obtain ⟨d, hd, heq⟩ := eq_firstOf_of_mem_collapse (mem_of_firstOf hfirst)
    rw [handle_of_firstOf hfirst] at hd heq
    rw [hd, Option.map_some, ← heq]

theorem firstOf_append (l m : List Declared) (handle : String) :
    firstOf (l ++ m) handle = (firstOf l handle).or (firstOf m handle) := List.find?_append

/-- Whether a declaration is ignored makes no difference for what is settled with it. -/
@[simp] theorem Declared.clashes_ignoreIf_left {owner : String} {kept dropped : Declared} {b : Bool} :
    (kept.ignoreIf b).Clashes owner dropped ↔ kept.Clashes owner dropped :=
  ⟨fun ⟨h, h', h''⟩ => ⟨h, h', h''⟩, fun ⟨h, h', h''⟩ => ⟨h, h', h''⟩⟩

@[simp] theorem Declared.clashes_ignoreIf_right {owner : String} {kept dropped : Declared} {b : Bool} :
    kept.Clashes owner (dropped.ignoreIf b) ↔ kept.Clashes owner dropped :=
  ⟨fun ⟨h, h', h''⟩ => ⟨h, h', h''⟩, fun ⟨h, h', h''⟩ => ⟨h, h', h''⟩⟩

namespace Schema

variable {s : Schema}

/-! ## The types behind a type -/

/-- A type is composed with another one: the handle of its base or of one of its mixins refers to
it. -/
def ComposedWith (s : Schema) (t u : ContentType) : Prop :=
  ∃ handle ∈ t.dependencies, s.find? handle = some u

/-- The types that a type is composed of, itself included. -/
abbrev Reaches (s : Schema) : ContentType → ContentType → Prop :=
  Relation.ReflTransGen s.ComposedWith

theorem ComposedWith.mem {t u : ContentType} (h : s.ComposedWith t u) : u ∈ s.types := by
  obtain ⟨handle, -, hfind⟩ := h
  exact mem_of_find? hfind

theorem Reaches.mem {t u : ContentType} (ht : t ∈ s.types) (h : s.Reaches t u) : u ∈ s.types := by
  induction h with
  | refl => exact ht
  | tail _ hstep _ => exact hstep.mem

theorem member?_eq_none {handle : String} (h : s.member? handle = none) :
    s.find? handle = none := by
  unfold member? at h
  split at h
  · cases h
  · assumption

theorem composedWith_of_member? {t : ContentType} {handle : String} {u : s.Member}
    (hmem : handle ∈ t.dependencies) (h : s.member? handle = some u) : s.ComposedWith t u.1 :=
  ⟨handle, hmem, find?_of_member? h⟩

/-- Induction over the types that are being composed. What is on the stack is not composed again,
and there are finitely many types, so that what holds of a type whenever it holds of those that it
is composed with, with the type on the stack, holds of all types. -/
theorem compose_induct {motive : s.Member → List String → Prop}
    (step : ∀ t stack, (∀ u : s.Member, t.1.handle ∉ stack → s.ComposedWith t.1 u.1 →
      motive u (stack ++ [t.1.handle])) → motive t stack) (t : s.Member) (stack : List String) :
    motive t stack := by
  induction hn : (s.outside stack).length using Nat.strongRecOn generalizing t stack with
  | _ n ih =>
    apply step
    intro u hfresh _
    have hless := s.length_outside_lt t.2 (by simpa using hfresh)
    exact ih _ (hn ▸ hless) u _ rfl

/-! ## Lines -/

end Schema

/-- A line holds the lines of the types that it goes through. -/
theorem LinearAll.exists_of_mem {s : Schema} {names : List String} {l : List Declared}
    {handle : String} (h : LinearAll s names l) (hmem : handle ∈ names) :
    ∃ u m, s.find? handle = some u ∧ Linear s u m ∧ m ⊆ l := by
  match h with
  | .nil => cases hmem
  | .cons found first rest =>
    rcases List.mem_cons.1 hmem with rfl | hmem
    · exact ⟨_, _, found, first, List.subset_append_left ..⟩
    · obtain ⟨u, m, hu, hm, hsubset⟩ := rest.exists_of_mem hmem
      exact ⟨u, m, hu, hm, List.Subset.trans hsubset (List.subset_append_right ..)⟩

theorem Linear.exists_of_composedWith {s : Schema} {t u : ContentType} {l : List Declared}
    (h : Linear s t l) (hu : s.ComposedWith t u) : ∃ m, Linear s u m ∧ m ⊆ l := by
  obtain ⟨handle, hmem, hfind⟩ := hu
  obtain ⟨composed⟩ := h
  obtain ⟨v, m, hv, hline, hsubset⟩ := composed.exists_of_mem hmem
  obtain rfl := Option.some.inj (hfind.symm.trans hv)
  exact ⟨m, hline, List.Subset.trans hsubset (List.subset_append_right ..)⟩

theorem Linear.exists_of_reaches {s : Schema} {t u : ContentType} {l : List Declared}
    (h : Linear s t l) (hu : s.Reaches t u) : ∃ m, Linear s u m ∧ m ⊆ l := by
  induction hu with
  | refl => exact ⟨l, h, List.Subset.refl l⟩
  | tail _ hstep ih =>
    obtain ⟨m, hm, hsubset⟩ := ih
    obtain ⟨k, hk, hsubset'⟩ := hm.exists_of_composedWith hstep
    exact ⟨k, hk, List.Subset.trans hsubset' hsubset⟩

mutual

/-- Each declaration of a line is that of a type behind the type. -/
theorem Linear.exists_of_mem {s : Schema} {t : ContentType} {l : List Declared} {d : Declared} :
    Linear s t l → d ∈ l → ∃ v, s.Reaches t v ∧ d ∈ Schema.ownDeclarations v
  | .type composed, hd => by
    rcases List.mem_append.1 hd with hd | hd
    · exact ⟨t, .refl, hd⟩
    · obtain ⟨handle, hmem, u, hu, v, hv, hd⟩ := composed.exists_reaches_of_mem hd
      exact ⟨v, .head ⟨handle, hmem, hu⟩ hv, hd⟩

theorem LinearAll.exists_reaches_of_mem {s : Schema} {names : List String} {l : List Declared}
    {d : Declared} : LinearAll s names l → d ∈ l → ∃ handle ∈ names, ∃ u,
      s.find? handle = some u ∧ ∃ v, s.Reaches u v ∧ d ∈ Schema.ownDeclarations v
  | .cons found first rest, hd => by
    rcases List.mem_append.1 hd with hd | hd
    · exact ⟨_, List.mem_cons_self, _, found, first.exists_of_mem hd⟩
    · obtain ⟨handle, hmem, hu⟩ := rest.exists_reaches_of_mem hd
      exact ⟨handle, List.mem_cons_of_mem _ hmem, hu⟩

end

/-- A line has the declarations of all types behind the type, and no others. -/
theorem Linear.mem_iff {s : Schema} {t : ContentType} {l : List Declared} (h : Linear s t l)
    {d : Declared} : d ∈ l ↔ ∃ v, s.Reaches t v ∧ d ∈ Schema.ownDeclarations v := by
  constructor
  · exact h.exists_of_mem
  · rintro ⟨v, hv, hd⟩
    obtain ⟨m, ⟨_⟩, hsubset⟩ := h.exists_of_reaches hv
    exact hsubset (List.mem_append_left _ hd)

namespace Schema

variable {s : Schema}

/-! ## Adding the types that a type is composed with -/

/-- Adds the properties of one more type that `owner` is composed with, where `run` composes
types. -/
def addWith (s : Schema) (run : s.Member → Except PlanError Composed) (owner : String) (c : Composed)
    (handle : String) : Except PlanError Composed :=
  match s.member? handle with
  | none => .error (.missing owner handle)
  | some u => do
    let inner ← run u
    Composed.addAll ⟨c.declared, c.warnings ++ inner.warnings⟩ owner inner.declared

/-- The types that a type is composed with are added one by one. -/
theorem composeWith_eq_foldlM (owner : String) (stack names : List String) (c : Composed) :
    s.composeWith owner stack names c =
      names.foldlM (s.addWith (s.compose · stack) owner) c := by
  induction names generalizing c with
  | nil =>
    rw [composeWith]
    rfl
  | cons handle more ih =>
    rw [composeWith, List.foldlM_cons]
    cases hu : s.member? handle with
    | none => simp only [addWith, hu]; rfl
    | some u => simp only [addWith, hu, bind_assoc, ih]

theorem composeWith_append (owner : String) (stack names more : List String) (c : Composed) :
    s.composeWith owner stack (names ++ more) c =
      s.composeWith owner stack names c >>= fun c => s.composeWith owner stack more c := by
  simp only [composeWith_eq_foldlM, List.foldlM_append]

/-- Adding one type: it is known, and it is composed, and its declarations are added. -/
theorem composeWith_cons_ok_iff {owner : String} {stack more : List String} {handle : String}
    {c c' : Composed} :
    s.composeWith owner stack (handle :: more) c = .ok c' ↔
      ∃ u inner c₁, s.member? handle = some u ∧ s.compose u stack = .ok inner ∧
        Composed.addAll ⟨c.declared, c.warnings ++ inner.warnings⟩ owner inner.declared = .ok c₁ ∧
        s.composeWith owner stack more c₁ = .ok c' := by
  rw [composeWith]
  cases hu : s.member? handle with
  | none => simp
  | some u => simp [Except.bind_ok_iff]

/-- Adding types in order fails at one that is unknown, or that cannot be composed, or whose
declarations cannot be added. -/
theorem exists_of_composeWith_error {owner : String} {stack names : List String} {c : Composed}
    {e : PlanError} (h : s.composeWith owner stack names c = .error e) :
    ∃ before handle after c₁, names = before ++ handle :: after ∧
      s.composeWith owner stack before c = .ok c₁ ∧
      (s.find? handle = none ∧ e = .missing owner handle ∨
        ∃ u, s.member? handle = some u ∧ (s.compose u stack = .error e ∨
          ∃ inner, s.compose u stack = .ok inner ∧ Composed.addAll
            ⟨c₁.declared, c₁.warnings ++ inner.warnings⟩ owner inner.declared = .error e)) := by
  induction names generalizing c with
  | nil =>
    rw [composeWith] at h
    cases h
  | cons handle more ih =>
    have hnil : s.composeWith owner stack [] c = .ok c := by rw [composeWith]
    rw [composeWith] at h
    split at h
    · next hu =>
      exact ⟨[], handle, more, c, rfl, hnil, .inl ⟨member?_eq_none hu, (Except.error.inj h).symm⟩⟩
    · next u hu =>
      rcases Except.bind_error_iff.1 h with hinner | ⟨inner, hinner, h⟩
      · exact ⟨[], handle, more, c, rfl, hnil, .inr ⟨u, hu, .inl hinner⟩⟩
      rcases Except.bind_error_iff.1 h with hadd | ⟨c₁, hadd, h⟩
      · exact ⟨[], handle, more, c, rfl, hnil, .inr ⟨u, hu, .inr ⟨inner, hinner, hadd⟩⟩⟩
      · obtain ⟨before, handle', after, c₂, rfl, hbefore, hfails⟩ := ih h
        refine ⟨handle :: before, handle', after, c₂, rfl, ?_, hfails⟩
        exact composeWith_cons_ok_iff.2 ⟨u, inner, c₁, hu, hinner, hadd, hbefore⟩

/-! ## Failures -/

/-- Why composing a type fails: it is being composed already, or a type that it is composed with is
unknown or cannot be composed, or a declaration of such a type clashes with the one that was there
first. -/
inductive Fails (s : Schema) (t : s.Member) (stack : List String) : PlanError → Prop
  | met (met : t.1.handle ∈ stack) :
      Fails s t stack (.circular (stack.dropWhile (· != t.1.handle) ++ [t.1.handle]))
  | unknown {handle : String} (fresh : t.1.handle ∉ stack) (mem : handle ∈ t.1.dependencies)
      (unknown : s.find? handle = none) : Fails s t stack (.missing t.1.handle handle)
  | inside {u : s.Member} {e : PlanError} (fresh : t.1.handle ∉ stack)
      (composed : s.ComposedWith t.1 u.1) (fails : s.compose u (stack ++ [t.1.handle]) = .error e) :
      Fails s t stack e
  | clash {before after : List String} {handle : String} {u : s.Member} {l m : List Declared}
      {kept dropped : Declared} (fresh : t.1.handle ∉ stack)
      (dependencies : t.1.dependencies = before ++ handle :: after) (lines : LinearAll s before l)
      (found : s.find? handle = some u.1) (line : Linear s u.1 m)
      (first : firstOf (ownDeclarations t.1 ++ l) dropped.property.handle = some kept)
      (counts : firstOf m dropped.property.handle = some dropped)
      (clashes : kept.Clashes t.1.handle dropped) :
      Fails s t stack (incompatibility t.1.handle kept dropped)

/-- The own declarations of a type never clash. -/
theorem exists_addAll_ownDeclarations (t : ContentType) :
    ∃ c, Composed.addAll {} t.handle (ownDeclarations t) = .ok c := by
  apply Composed.exists_addAll_of_own
  intro d hd
  obtain ⟨p, -, rfl⟩ := List.mem_map.1 hd
  rfl

/-- What a type has once it has its own declarations and those of some types that it is composed
with. -/
theorem exists_line_of_composeWith {t : ContentType} {stack before : List String}
    {own c : Composed} (hown : Composed.addAll {} t.handle (ownDeclarations t) = .ok own)
    (h : s.composeWith t.handle stack before own = .ok c) :
    ∃ l, LinearAll s before l ∧ c.declared = collapse (ownDeclarations t ++ l) := by
  obtain ⟨l, hl, hdeclared⟩ := (exists_linear_of_compose s).2 _ _ _ _ _ h
  refine ⟨l, hl, ?_⟩
  rw [hdeclared, Composed.addAll_declared hown, collapse, List.foldl_append]

/-- A merged list has each handle once, so that none of its declarations meets another one of
them. -/
theorem firstOf_before {l m before after : List Declared} {dropped : Declared}
    (h : collapse m = before ++ dropped :: after) :
    firstOf (before.foldl absorb l) dropped.property.handle =
      firstOf l dropped.property.handle := by
  have hnodup := nodup_handles_collapse m
  rw [h, handles_append, List.nodup_append] at hnodup
  apply firstOf_foldl_absorb_of_notMem
  intro hmem
  exact hnodup.2.2 _ hmem _ List.mem_cons_self rfl

/-- There are no other failures. -/
theorem fails_of_compose {t : s.Member} {stack : List String} {e : PlanError}
    (h : s.compose t stack = .error e) : s.Fails t stack e := by
  rw [compose] at h
  split at h
  · next hmet =>
    obtain rfl := Except.error.inj h
    exact .met (by simpa using hmet)
  · next hfresh =>
    have hfresh : t.1.handle ∉ stack := by simpa using hfresh
    obtain ⟨own, hown⟩ := exists_addAll_ownDeclarations t.1
    rw [hown] at h
    obtain ⟨before, handle, after, c, hnames, hbefore, hfails⟩ := exists_of_composeWith_error h
    have hmem : handle ∈ t.1.dependencies := by simp [hnames]
    rcases hfails with ⟨hunknown, rfl⟩ | ⟨u, hu, hfails | ⟨inner, hinner, hadd⟩⟩
    · exact .unknown hfresh hmem hunknown
    · exact .inside hfresh (composedWith_of_member? hmem hu) hfails
    · obtain ⟨l, hl, hdeclared⟩ := exists_line_of_composeWith hown hbefore
      obtain ⟨m, hm, hcollapse⟩ := (exists_linear_of_compose s).1 u _ inner hinner
      obtain ⟨_, dropped, _, kept, hsplit, hfirst, hclash, rfl⟩ :=
        Composed.exists_of_addAll_error hadd
      rw [firstOf_before (hcollapse ▸ hsplit), hdeclared, firstOf_collapse] at hfirst
      obtain ⟨kept, hkept, rfl⟩ := Option.map_eq_some_iff.1 hfirst
      have hdropped : dropped ∈ collapse m := by rw [← hcollapse, hsplit]; simp
      obtain ⟨dropped, hcounts, heq⟩ := eq_firstOf_of_mem_collapse hdropped
      have hhandle := handle_of_firstOf hcounts
      generalize ignoresHandle m _ = b at heq
      subst heq
      have hfails : s.Fails t stack (incompatibility t.1.handle kept dropped) :=
        .clash hfresh hnames hl (find?_of_member? hu) hm hkept hcounts (by simpa using hclash)
      exact hfails

/-! ## Successes -/

/-- What comes later was settled with what was there earlier: no two declarations clash, and where
their values are of different types, a warning says so. -/
def Settles (owner : String) (warnings : List Diagnostic) (earlier later : List Declared) : Prop :=
  ∀ kept dropped, firstOf earlier dropped.property.handle = some kept →
    firstOf later dropped.property.handle = some dropped → ¬kept.Clashes owner dropped ∧
      (sameType kept.property.valueType dropped.property.valueType = false →
        droppedWarning owner kept dropped ∈ warnings)

theorem warnings_subset_of_composeWith {owner : String} {stack names : List String}
    {c c' : Composed} (h : s.composeWith owner stack names c = .ok c') :
    c.warnings ⊆ c'.warnings := by
  induction names generalizing c with
  | nil =>
    rw [composeWith] at h
    obtain rfl := Except.ok.inj h
    exact List.Subset.refl _
  | cons handle more ih =>
    obtain ⟨u, inner, c₁, -, -, hadd, hrest⟩ := composeWith_cons_ok_iff.1 h
    have hadd := Composed.warnings_subset_of_addAll hadd
    exact List.Subset.trans (List.subset_append_left ..) (List.Subset.trans hadd (ih hrest))

/-- When a type was composed, then its own declarations were added first. -/
theorem exists_own_of_compose {t : s.Member} {stack : List String} {c : Composed}
    (h : s.compose t stack = .ok c) :
    t.1.handle ∉ stack ∧ ∃ own, Composed.addAll {} t.1.handle (ownDeclarations t.1) = .ok own ∧
      s.composeWith t.1.handle (stack ++ [t.1.handle]) t.1.dependencies own = .ok c := by
  rw [compose] at h
  split at h
  · cases h
  · next hfresh =>
    obtain ⟨own, hown, h⟩ := Except.bind_ok_iff.1 h
    exact ⟨by simpa using hfresh, own, hown, h⟩

/-- A merged list that was added was settled with the one that was there. -/
theorem settles_of_addAll {c c' : Composed} {owner : String} {l m : List Declared}
    (hl : c.declared = collapse l) (h : c.addAll owner (collapse m) = .ok c') :
    Settles owner c'.warnings l m := by
  intro kept dropped hfirst hcounts
  have hdropped : firstOf (collapse m) dropped.property.handle =
      some (dropped.ignoreIf (ignoresHandle m dropped.property.handle)) := by
    rw [firstOf_collapse, hcounts, Option.map_some]
  obtain ⟨before, after, hsplit⟩ := List.append_of_mem (mem_of_firstOf hdropped)
  have hmet := firstOf_before (l := collapse l) hsplit
  rw [firstOf_collapse, Declared.ignoreIf_handle, hfirst, Option.map_some, ← hl] at hmet
  rw [hsplit] at h
  have hsettled := Composed.settled_of_addAll h hmet
  rw [Declared.clashes_ignoreIf_left, Declared.clashes_ignoreIf_right] at hsettled
  exact hsettled

/-- When a type was composed, then so was each type that it is composed with, and its declarations
were settled with those that were there before. -/
theorem settles_of_compose {t : s.Member} {stack before after : List String} {handle : String}
    {c : Composed} (h : s.compose t stack = .ok c)
    (hdependencies : t.1.dependencies = before ++ handle :: after) :
    ∃ u inner l m, s.member? handle = some u ∧
      s.compose u (stack ++ [t.1.handle]) = .ok inner ∧ inner.warnings ⊆ c.warnings ∧
      LinearAll s before l ∧ Linear s u.1 m ∧
      Settles t.1.handle c.warnings (ownDeclarations t.1 ++ l) m := by
  obtain ⟨-, own, hown, h⟩ := exists_own_of_compose h
  rw [hdependencies, composeWith_append] at h
  obtain ⟨c₁, hbefore, h⟩ := Except.bind_ok_iff.1 h
  obtain ⟨u, inner, c₂, hu, hinner, hadd, hafter⟩ := composeWith_cons_ok_iff.1 h
  obtain ⟨l, hl, hdeclared⟩ := exists_line_of_composeWith hown hbefore
  obtain ⟨m, hm, hcollapse⟩ := (exists_linear_of_compose s).1 u _ inner hinner
  have hsubset := warnings_subset_of_composeWith hafter
  refine ⟨u, inner, l, m, hu, hinner, ?_, hl, hm, ?_⟩
  · have hinnerSubset := Composed.warnings_subset_of_addAll hadd
    exact List.Subset.trans (List.subset_append_right ..) (List.Subset.trans hinnerSubset hsubset)
  · rw [hcollapse] at hadd
    have hsettles := settles_of_addAll (c := ⟨_, c₁.warnings ++ inner.warnings⟩) hdeclared hadd
    intro kept dropped hfirst hcounts
    obtain ⟨hapart, hwarns⟩ := hsettles kept dropped hfirst hcounts
    exact ⟨hapart, fun hdiffer => hsubset (hwarns hdiffer)⟩

end Schema

end ContentModels
