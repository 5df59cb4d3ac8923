import ContentModels.Proofs.Plan.Collisions
import ContentModels.Proofs.Plan.Composing
import ContentModels.Proofs.Plan.Order
import Mathlib.Data.List.Chain

/-!
# Cycles and unknown handles

A type that is composed of itself, or of a handle that no type has, cannot be planned, and neither
can the types that lead to it. The other types have no such trouble, however often they come by one
of their mixins. Composing ends in any case: a type is not composed again while it is being
composed, so that it goes no deeper than there are types.

## Main definitions

* `Schema.ReachesUnknown`, `Schema.ReachesCycle` — a type that leads to trouble.
* `Schema.IsCycle` — the handles along a cycle.
* `Schema.composeTo` — composing to some depth.

## Main statements

* `Schema.composeTo_eq` — the depth that is enough.
* `Schema.exists_incompatibility` — composing a type that leads to no trouble fails for another
  reason.
* `Schema.isCycle_of_compose` — the cycle that is reported is one.
* `Schema.faults_found` — all of it.
-/

namespace ContentModels

/-! ## Lines come to an end -/

theorem not_rel_self_of_acc {α : Type} {r : α → α → Prop} {a : α} (h : Acc r a) : ¬r a a := by
  induction h with
  | intro a _ ih => exact fun hself => ih a hself hself

mutual

/-- Where there is a line, no way through the types goes on for ever. -/
theorem Linear.acc {s : Schema} {t : ContentType} {l : List Declared} :
    Linear s t l → Acc (Function.swap s.ComposedWith) t
  | .type composed => ⟨t, fun _ ⟨_, hmem, hfind⟩ => composed.acc hmem hfind⟩

theorem LinearAll.acc {s : Schema} {names : List String} {l : List Declared} {handle : String}
    {u : ContentType} : LinearAll s names l → handle ∈ names → s.find? handle = some u →
      Acc (Function.swap s.ComposedWith) u
  | .nil, hmem, _ => nomatch hmem
  | .cons found first rest, hmem, hfind => by
    rcases List.mem_cons.1 hmem with rfl | hmem
    · obtain rfl := Option.some.inj (found.symm.trans hfind)
      exact first.acc
    · exact rest.acc hmem hfind

end

namespace Schema

variable {s : Schema}

/-- A type leads to a handle that no type has. -/
def ReachesUnknown (s : Schema) (t : ContentType) : Prop :=
  ∃ u, s.Reaches t u ∧ ∃ handle ∈ u.dependencies, s.find? handle = none

/-- A type leads to one that is composed of itself. -/
def ReachesCycle (s : Schema) (t : ContentType) : Prop :=
  ∃ u, s.Reaches t u ∧ Relation.TransGen s.ComposedWith u u

theorem not_reachesUnknown_of_linear {t : ContentType} {l : List Declared} (h : Linear s t l) :
    ¬s.ReachesUnknown t := by
  rintro ⟨u, hu, handle, hmem, hnone⟩
  obtain ⟨m, ⟨composed⟩, -⟩ := h.exists_of_reaches hu
  obtain ⟨v, -, hv, -⟩ := composed.exists_of_mem hmem
  rw [hnone] at hv
  cases hv

theorem not_reachesCycle_of_linear {t : ContentType} {l : List Declared} (h : Linear s t l) :
    ¬s.ReachesCycle t := by
  rintro ⟨u, hu, hcycle⟩
  obtain ⟨m, hm, -⟩ := h.exists_of_reaches hu
  exact not_rel_self_of_acc hm.acc.transGen (Relation.transGen_swap.2 hcycle)

/-- A type that can be composed leads to no trouble. -/
theorem leads_to_end_of_compose {t : s.Member} {stack : List String} {c : Composed}
    (h : s.compose t stack = .ok c) : ¬s.ReachesUnknown t.1 ∧ ¬s.ReachesCycle t.1 := by
  obtain ⟨l, hl, -⟩ := (exists_linear_of_compose s).1 t stack c h
  exact ⟨not_reachesUnknown_of_linear hl, not_reachesCycle_of_linear hl⟩

/-! ## Other reasons for failure -/

theorem not_reachesUnknown_of_composedWith {t u : ContentType} (h : ¬s.ReachesUnknown t)
    (hu : s.ComposedWith t u) : ¬s.ReachesUnknown u := by
  rintro ⟨v, hv, hunknown⟩
  exact h ⟨v, .head hu hv, hunknown⟩

theorem not_reachesCycle_of_composedWith {t u : ContentType} (h : ¬s.ReachesCycle t)
    (hu : s.ComposedWith t u) : ¬s.ReachesCycle u := by
  rintro ⟨v, hv, hcycle⟩
  exact h ⟨v, .head hu hv, hcycle⟩

/-- Composing a type that leads to no trouble, while types that are composed of it are being
composed, fails for declarations that clash only. It is not on the stack, since it is not composed
of itself and no other type has its handle. -/
theorem exists_incompatibility_of_above (handles : (s.types.map (·.handle)).Nodup) {t : s.Member}
    {stack : List String} {e : PlanError} (known : ¬s.ReachesUnknown t.1)
    (acyclic : ¬s.ReachesCycle t.1)
    (above : ∀ v ∈ s.types, v.handle ∈ stack → Relation.TransGen s.ComposedWith v t.1)
    (h : s.compose t stack = .error e) :
    ∃ owner kept dropped, e = incompatibility owner kept dropped := by
  induction t, stack using compose_induct generalizing e with
  | step t stack ih =>
    cases fails_of_compose h with
    | met met => exact absurd ⟨t.1, .refl, above t.1 t.2 met⟩ acyclic
    | unknown fresh mem unknown => exact absurd ⟨t.1, .refl, _, mem, unknown⟩ known
    | @inside u _ fresh composed fails =>
      have aboveInside : ∀ v ∈ s.types, v.handle ∈ stack ++ [t.1.handle] →
          Relation.TransGen s.ComposedWith v u.1 := by
        intro v hv hmem
        rcases List.mem_append.1 hmem with hmem | hmem
        · exact (above v hv hmem).tail composed
        · obtain rfl := List.inj_on_of_nodup_map handles hv t.2 (List.mem_singleton.1 hmem)
          exact .single composed
      exact ih u fresh composed (not_reachesUnknown_of_composedWith known composed)
        (not_reachesCycle_of_composedWith acyclic composed) aboveInside fails
    | clash => exact ⟨_, _, _, rfl⟩

/-- So it fails for declarations that clash only, where no type is being composed yet. -/
theorem exists_incompatibility (handles : (s.types.map (·.handle)).Nodup) {t : s.Member}
    {e : PlanError} (known : ¬s.ReachesUnknown t.1) (acyclic : ¬s.ReachesCycle t.1)
    (h : s.compose t [] = .error e) :
    ∃ owner kept dropped, e = incompatibility owner kept dropped := by
  refine exists_incompatibility_of_above handles known acyclic ?_ h
  intro v hv hmem
  cases hmem

/-! ## The cycle that is reported -/

/-- A handle is that of a type that is composed with another handle. -/
def RefersTo (s : Schema) (handle other : String) : Prop :=
  ∃ t ∈ s.types, t.handle = handle ∧ other ∈ t.dependencies

/-- Handles along a cycle: each refers to the next one, and the last one is the first one again. -/
structure IsCycle (s : Schema) (cycle : List String) : Prop where
  two_le : 2 ≤ cycle.length
  closed : cycle.head? = cycle.getLast?
  linked : cycle.IsChain s.RefersTo

theorem refersTo_of_composedWith {t u : ContentType} (ht : t ∈ s.types) (h : s.ComposedWith t u) :
    s.RefersTo t.handle u.handle := by
  obtain ⟨handle, hmem, hfind⟩ := h
  exact ⟨t, ht, rfl, handle_of_find? hfind ▸ hmem⟩

/-- A handle that is met again closes a cycle, which starts where it was met first. -/
theorem isCycle_of_mem {stack : List String} {handle : String} (h : handle ∈ stack)
    (chain : (stack ++ [handle]).IsChain s.RefersTo) :
    s.IsCycle (stack.dropWhile (· != handle) ++ [handle]) := by
  obtain ⟨before, after, rfl, hbefore⟩ := List.eq_append_cons_of_mem h
  have hdrop : (before ++ handle :: after).dropWhile (· != handle) = handle :: after := by
    have hskip : ∀ other ∈ before, (other != handle) = true := fun other hmem =>
      bne_iff_ne.2 (ne_of_mem_of_not_mem hmem hbefore)
    simp [List.dropWhile_append_of_pos hskip]
  rw [hdrop]
  constructor
  case two_le => simp
  case closed => rw [List.getLast?_concat, List.cons_append, List.head?_cons]
  case linked =>
    rw [List.append_assoc] at chain
    exact (List.isChain_append.1 chain).2.1

/-- While types are composed that are composed with one another, a cycle that is found is one. -/
theorem isCycle_of_compose {t : s.Member} {stack cycle : List String}
    (chain : (stack ++ [t.1.handle]).IsChain s.RefersTo)
    (h : s.compose t stack = .error (.circular cycle)) : s.IsCycle cycle := by
  generalize he : PlanError.circular cycle = e at h
  induction t, stack using compose_induct with
  | step t stack ih =>
    cases fails_of_compose h with
    | met met =>
      obtain rfl := PlanError.circular.inj he
      exact isCycle_of_mem met chain
    | unknown => cases he
    | @inside u _ fresh composed fails =>
      subst he
      refine ih u fresh composed ?_ fails
      rw [List.append_assoc]
      exact List.isChain_append_cons_cons.2
        ⟨chain, refersTo_of_composedWith t.2 composed, .singleton _⟩
    | clash => cases he

/-! ## How deep composing goes -/

/-- All properties of a type, where types that are composed with others go down to some depth, and
`beyond` stands for what is further down. -/
def composeTo (s : Schema) (beyond : Except PlanError Composed) :
    Nat → s.Member → List String → Except PlanError Composed
  | 0, _, _ => beyond
  | depth + 1, t, stack =>
    if stack.contains t.1.handle then
      .error (.circular (stack.dropWhile (· != t.1.handle) ++ [t.1.handle]))
    else do
      let own ← Composed.addAll {} t.1.handle (ownDeclarations t.1)
      t.1.dependencies.foldlM
        (s.addWith (s.composeTo beyond depth · (stack ++ [t.1.handle])) t.1.handle) own

/-- Adding types makes no difference between two ways to compose these types. -/
theorem foldlM_addWith_congr {run run' : s.Member → Except PlanError Composed} {owner : String}
    {names : List String}
    (h : ∀ handle ∈ names, ∀ u, s.member? handle = some u → run u = run' u) (c : Composed) :
    names.foldlM (s.addWith run owner) c = names.foldlM (s.addWith run' owner) c := by
  induction names generalizing c with
  | nil => rfl
  | cons handle more ih =>
    obtain ⟨hfirst, hmore⟩ := List.forall_mem_cons.1 h
    have hstep : s.addWith run owner c handle = s.addWith run' owner c handle := by
      unfold addWith
      split
      · rfl
      · next u hu => rw [hfirst u hu]
    rw [List.foldlM_cons, List.foldlM_cons, hstep]
    exact bind_congr fun c => ih hmore c

/-- Composing goes no deeper than there are types that are not being composed. -/
theorem composeTo_eq (beyond : Except PlanError Composed) {depth : Nat} {t : s.Member}
    {stack : List String} (h : (s.outside stack).length < depth) :
    s.composeTo beyond depth t stack = s.compose t stack := by
  induction t, stack using compose_induct generalizing depth with
  | step t stack ih =>
    obtain ⟨depth, rfl⟩ := Nat.exists_eq_add_one_of_ne_zero (Nat.ne_zero_of_lt h)
    rw [composeTo, compose]
    split
    · rfl
    · next hfresh =>
      have hless := s.length_outside_lt t.2 (by simpa using hfresh)
      apply bind_congr
      intro own
      rw [composeWith_eq_foldlM]
      apply foldlM_addWith_congr
      intro handle hmem u hu
      exact ih u (by simpa using hfresh) (composedWith_of_member? hmem hu) (by omega)

/-! ## Plans -/

/-- Planning a type fails where composing it does, and else for accessors that collide only. -/
theorem compose_of_planType_error {code : HandCode} {t : s.Member} {e : PlanError}
    (h : s.planType code t = .error e) : s.compose t [] = .error e ∨
      ∃ first second name, e = .sameAccessor t.1.handle first second name := by
  cases hc : s.compose t [] with
  | error e' =>
    rw [planType, hc] at h
    exact .inl (congrArg Except.error (Except.error.inj h))
  | ok c =>
    rw [planType_error_iff hc] at h
    obtain ⟨_, d, _, _, _, q, _, _, rfl⟩ := Choices.exists_of_addAll_error h
    exact .inr ⟨_, _, _, rfl⟩

/-- A type that has a plan was composed. -/
theorem exists_compose_of_mem_plans (handles : (s.types.map (·.handle)).Nodup) {code : HandCode}
    {plan : Plan} {t : s.Member} (h : plan ∈ (s.plan code).plans)
    (hhandle : plan.handle = t.1.handle) :
    ∃ c, s.compose t [] = .ok c := by
  obtain ⟨u, q, warnings, planned, -, hok, rfl⟩ := exists_planType_of_mem_plans h
  obtain ⟨c, hc, -, hq, -⟩ := planType_eq hok
  have heq : u = t := Subtype.ext (List.inj_on_of_nodup_map handles u.2 t.2 (hq.symm.trans hhandle))
  exact ⟨c, heq ▸ hc⟩

/-- Cycles and unknown handles are found exactly. In a schema whose types have different handles,
composing a type ends, and goes no deeper than there are types. A type that leads to an unknown
handle or to a cycle gets no plan; any other type is not refused for the one or the other; and a
cycle that is reported is one. -/
theorem faults_found (s : Schema) (handles : (s.types.map (·.handle)).Nodup) (t : s.Member) :
    (∀ beyond, s.composeTo beyond (s.types.length + 1) t [] = s.compose t []) ∧
      (s.ReachesUnknown t.1 ∨ s.ReachesCycle t.1 →
        ∀ code, ∀ plan ∈ (s.plan code).plans, plan.handle ≠ t.1.handle) ∧
      (¬s.ReachesUnknown t.1 → ¬s.ReachesCycle t.1 → ∀ code e, s.planType code t = .error e →
        (∀ cycle, e ≠ .circular cycle) ∧ ∀ type dependency, e ≠ .missing type dependency) ∧
      ∀ code cycle, s.planType code t = .error (.circular cycle) → s.IsCycle cycle := by
  refine ⟨fun beyond => composeTo_eq beyond ?_, ?_, ?_, ?_⟩
  · exact Nat.lt_succ_of_le (List.length_filter_le ..)
  · intro htrouble code plan hplan hhandle
    obtain ⟨c, hc⟩ := exists_compose_of_mem_plans handles hplan hhandle
    have hend := leads_to_end_of_compose hc
    exact htrouble.elim hend.1 hend.2
  · intro known acyclic code e h
    rcases compose_of_planType_error h with hc | ⟨first, second, name, rfl⟩
    · obtain ⟨owner, kept, dropped, rfl⟩ := exists_incompatibility handles known acyclic hc
      exact ⟨nofun, nofun⟩
    · exact ⟨nofun, nofun⟩
  · intro code cycle h
    rcases compose_of_planType_error h with hc | ⟨first, second, name, heq⟩
    · exact isCycle_of_compose (.singleton _) hc
    · cases heq

/-! ### A ring behind a diamond -/

/-- Two types that are composed with each other, and one that is composed of another type in two
ways, with a type that is composed with both. -/
def tangle : Schema where
  types := [
    { handle := "outer", base := some "top", mixins := ["ring"] },
    { handle := "top", base := some "left", mixins := ["right", "left"] },
    { handle := "left", mixins := ["core"] },
    { handle := "right", mixins := ["core"] },
    { handle := "core" },
    { handle := "ring", mixins := ["link"] },
    { handle := "link", base := some "ring" }]

/-- The type that is composed with the diamond and the ring. -/
def tangleOuter : tangle.Member := ⟨tangle.types[0], by simp [tangle]⟩

/-- The top of the diamond. -/
def tangleTop : tangle.Member := ⟨tangle.types[1], by simp [tangle]⟩

/-- The ring is found behind the diamond, and the diamond is none. -/
theorem faults_found_tangle :
    (tangle.types.map (·.handle)).Nodup ∧ tangle.ReachesCycle tangleOuter.1 ∧
      tangle.planType {} tangleOuter = .error (.circular ["ring", "link", "ring"]) ∧
      tangle.IsCycle ["ring", "link", "ring"] ∧
      (∀ plan ∈ (tangle.plan {}).plans, plan.handle ≠ "outer") ∧
      ¬tangle.ReachesUnknown tangleTop.1 ∧ ¬tangle.ReachesCycle tangleTop.1 ∧
      (∀ e, tangle.planType {} tangleTop = .error e → ∀ cycle, e ≠ .circular cycle) := by
  have handles : (tangle.types.map (·.handle)).Nodup := by decide
  obtain ⟨depth, refused, -, cycles⟩ := faults_found tangle handles tangleOuter
  obtain ⟨depthTop, -, planned, -⟩ := faults_found tangle handles tangleTop
  have hring : tangle.ReachesCycle tangleOuter.1 := by
    refine ⟨tangle.types[5], .single ⟨"ring", by decide, rfl⟩, ?_⟩
    exact .tail (b := tangle.types[6]) (.single ⟨"link", by decide, rfl⟩) ⟨"ring", by decide, rfl⟩
  have hfails : tangle.planType {} tangleOuter = .error (.circular ["ring", "link", "ring"]) := by
    rw [planType, ← depth (.ok {})]
    rfl
  have htop : tangle.compose tangleTop [] = .ok {} := by
    rw [← depthTop (.ok {})]
    rfl
  have hend := leads_to_end_of_compose htop
  exact ⟨handles, hring, hfails, cycles {} _ hfails, refused (.inr hring) {}, hend.1, hend.2,
    fun e he => (planned hend.1 hend.2 {} e he).1⟩

end Schema

end ContentModels
