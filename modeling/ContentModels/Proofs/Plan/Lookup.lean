import ContentModels.Proofs.Plan.AllTypes
import Mathlib.Data.List.Basic

/-!
# What a decision depends on

A type is composed with the types that its handles refer to. So a schema in which these handles
refer to the same types composes and plans it the same, whatever else is in there, and the decisions
about some types are the same as well.

## Main definitions

* `Schema.Sees` — the handles of the types of a schema refer to the same types in another one.

## Main statements

* `Schema.Sees.compose_eq`, `Schema.Sees.planType_eq` — one type in two schemas.
* `Schema.Sees.after_eq` — the decisions about some types in two schemas.
-/

namespace ContentModels

namespace Schema

theorem map_val_member? (s : Schema) (handle : String) :
    (s.member? handle).map (·.1) = s.find? handle := by
  unfold member?
  split
  · next t ht => exact ht.symm
  · next hnone => exact hnone.symm

/-- The handles that the types of a schema are composed with refer to the same types in another
one. -/
def Sees (s s' : Schema) : Prop :=
  ∀ t ∈ s.types, ∀ handle ∈ t.dependencies, s'.find? handle = s.find? handle

namespace Sees

variable {s s' : Schema}

/-- A type is composed the same in both schemas, and so is what it is composed with. -/
theorem compose_eq (h : s.Sees s') :
    (∀ (t : s.Member) (stack : List String) (t' : s'.Member), t'.1 = t.1 →
      s'.compose t' stack = s.compose t stack) ∧
    ∀ (owner : String) (stack names : List String) (c : Composed),
      (∀ handle ∈ names, s'.find? handle = s.find? handle) →
      s'.composeWith owner stack names c = s.composeWith owner stack names c := by
  refine compose.mutual_induct s
    (fun t stack => ∀ t' : s'.Member, t'.1 = t.1 → s'.compose t' stack = s.compose t stack)
    (fun owner stack names c => (∀ handle ∈ names, s'.find? handle = s.find? handle) →
      s'.composeWith owner stack names c = s.composeWith owner stack names c) ?_ ?_ ?_ ?_ ?_
  · intro t stack met t' heq
    rw [compose, compose, dif_pos met, dif_pos (heq ▸ met), heq]
  · intro t stack unmet ih t' heq
    rw [compose, compose, dif_neg unmet, dif_neg (heq ▸ unmet), heq]
    exact bind_congr fun own => ih own (h t.1 t.2)
  · intro owner stack c hnames
    rw [composeWith, composeWith]
  · intro owner stack c handle more hnone hnames
    have hfind := hnames handle List.mem_cons_self
    rw [← map_val_member?, ← map_val_member?, hnone, Option.map_none,
      Option.map_eq_none_iff] at hfind
    rw [composeWith, composeWith, hnone, hfind]
  · intro owner stack c handle more t hsome ihType ihMore hnames
    have hfind := hnames handle List.mem_cons_self
    rw [← map_val_member?, ← map_val_member?, hsome, Option.map_some,
      Option.map_eq_some_iff] at hfind
    obtain ⟨t', hsome', heq⟩ := hfind
    rw [composeWith, composeWith, hsome, hsome']
    dsimp only
    rw [ihType t' heq]
    refine bind_congr fun inner => bind_congr fun c₁ => ?_
    exact ihMore c₁ fun name hname => hnames name (List.mem_cons_of_mem _ hname)

/-- A type has the same plan in both schemas. -/
theorem planType_eq (h : s.Sees s') (code : HandCode) {t : s.Member} {t' : s'.Member}
    (heq : t'.1 = t.1) : s'.planType code t' = s.planType code t := by
  have hreference : ∀ handle ∈ t.1.dependencies, s'.reference? handle = s.reference? handle :=
    fun handle hmem => by rw [reference?, reference?, h t.1 t.2 handle hmem]
  have hbase : t.1.base.bind s'.reference? = t.1.base.bind s.reference? := by
    cases hbase : t.1.base with
    | none => rfl
    | some handle => exact hreference handle (by simp [ContentType.dependencies, hbase])
  have hmixins : t.1.mixins.filterMap s'.reference? = t.1.mixins.filterMap s.reference? :=
    List.filterMap_congr fun handle hmem =>
      hreference handle (by simp [ContentType.dependencies, hmem])
  simp only [planType, h.compose_eq.1 t [] t' heq, heq, hbase, hmixins]

/-- The decision about a type is the same in both schemas. -/
theorem add_eq (h : s.Sees s') (code : HandCode) (p : Planning) {t : s.Member} {t' : s'.Member}
    (heq : t'.1 = t.1) : p.add s' code t' = p.add s code t := by
  simp only [Planning.add, Planning.addNamed, h.planType_eq code heq, heq]

/-- The decisions about the same types are the same in both schemas. -/
theorem after_eq (h : s.Sees s') (code : HandCode) {l : List s.Member} {l' : List s'.Member}
    (heq : l'.map (·.1) = l.map (·.1)) : Planning.after s' code l' = Planning.after s code l := by
  have foldl_eq (l : List s.Member) (l' : List s'.Member) (p : Planning)
      (heq : l'.map (·.1) = l.map (·.1)) :
      l'.foldl (fun p t => p.add s' code t) p = l.foldl (fun p t => p.add s code t) p := by
    induction l generalizing l' p with
    | nil => rw [List.map_eq_nil_iff.1 heq, List.foldl_nil, List.foldl_nil]
    | cons t rest ih =>
      obtain ⟨t', rest', rfl, ht, hrest⟩ := List.map_eq_cons_iff.1 heq
      rw [List.foldl_cons, List.foldl_cons, h.add_eq code p ht, ih rest' _ hrest]
  exact foldl_eq l l' {} heq

end Sees

end Schema

end ContentModels
