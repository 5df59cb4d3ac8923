import ContentModels.Proofs.Rendering.Modules

/-!
# Models next to modules

The index re-exports every model, so that models share a namespace with the modules that the index
declares. Modules have names without capitals. A model whose name has a capital, as every name made
for a handle does, is never in the way of a module. A name that the schema gives may have none; then
there is a hand-authored file whose module has the same name, unless no module can have it.

## Main definitions

* `ClashFree` — no name that lines re-export is that of a module that they declare.

## Main statements

* `clashFree_of_hasCapital` — models with capitals are in the way of no module.
* `exists_not_clashFree` — a model without capitals is in the way of a module of some file.
* `Schema.clashFree_index_iff` — when the index of a schema is free of clashes, whatever the files.
-/

namespace ContentModels

namespace Rendering

open Text Naming

/-- No name that the lines re-export is that of a module that they declare. -/
def ClashFree (l : List String) : Prop :=
  ∀ m ∈ declaredModules none l, m.name ∉ exportedNames l

/-! ## Names of modules -/

/-- A name that a module may have: it has no capital, and no model has a member of that name. -/
def IsModular (name : String) : Prop := hasCapital name = false ∧ isReserved name = false

theorem hasCapital_append (name ending : String) :
    hasCapital (name ++ ending) = (hasCapital name || hasCapital ending) := by
  simp [hasCapital]

theorem IsModular.renames {taken : List String} {name out : String} (h : Renames taken name out)
    (hname : IsModular name) : IsModular out := by
  induction h with
  | free => exact hname
  | again _ _ ih =>
    refine ih ⟨?_, isReserved_of_underscore (by simp)⟩
    rw [String.push_eq_append, hasCapital_append, hname.1]
    decide

theorem isModular_of_mem_ownModules {plans : List Plan}
    (h : ∀ p ∈ plans, isIdentifier p.className = true) {name : String}
    (hname : name ∈ ownModules plans) : IsModular name := by
  rcases List.mem_cons.1 hname with rfl | hname
  · exact ⟨by decide, by decide⟩
  · obtain ⟨p, hp, rfl⟩ := List.mem_map.1 hname
    have hstem : hasCapital (fileStem p.className) = false := by
      rw [hasCapital, List.any_eq_false]
      intro c hc
      have := small_of_mem_fileStem (h p hp) hc
      simp_all [isSmallChar]
    refine ⟨?_, isReserved_of_underscore (by simp [modelModule])⟩
    rw [modelModule, hasCapital_append, hstem]
    decide

theorem isModular_of_mem_handModules {taken files : List String} {entry : String × String}
    (h : entry ∈ handModules taken files) : IsModular entry.2 := by
  obtain ⟨before, after, heq⟩ := List.append_of_mem h
  exact .renames (renames_of_handModules heq) ⟨hasCapital_moduleName _, (isIdentifier_accessor _).2⟩

/-! ## Clashes -/

variable {plans : List Plan}

/-- Models with capitals, and those that are called like members of models, clash with no module. -/
theorem clashFree_of_hasCapital (space : String) (handFiles : List Path)
    (h : ∀ p ∈ plans, isIdentifier p.className = true)
    (hcapital : ∀ p ∈ plans, hasCapital p.className = true ∨ isReserved p.className = true) :
    ClashFree (indexLines space plans handFiles) := by
  intro m hm hmem
  have hmodular : IsModular m.name := by
    have hm := List.mem_map_of_mem (f := (·.name)) hm
    rw [moduleNames_indexLines space handFiles h] at hm
    rcases List.mem_append.1 hm with hm | hm
    · exact isModular_of_mem_ownModules h hm
    · obtain ⟨entry, hentry, heq⟩ := List.mem_map.1 hm
      exact heq ▸ isModular_of_mem_handModules hentry
  rw [(read_indexLines space handFiles h).2] at hmem
  obtain ⟨p, hp, heq⟩ := List.mem_map.1 hmem
  rw [← heq] at hmodular
  have := hcapital p hp
  simp [hmodular.1, hmodular.2] at this

theorem stem_append (name : String) : stem (name ++ ".rs") = name := by
  have hsuffix : ".rs".toList.isSuffixOf (name ++ ".rs").toList = true := by
    simp [List.isSuffixOf_iff_suffix]
  rw [stem, if_pos hsuffix]
  simp

/-- There is a hand-authored file with whose module a model without capitals clashes. -/
theorem exists_not_clashFree (space : String) (h : ∀ p ∈ plans, isIdentifier p.className = true)
    {p : Plan} (hp : p ∈ plans) (hmodular : IsModular p.className) :
    ∃ handFiles, ¬ClashFree (indexLines space plans handFiles) := by
  have hname : Path.IsName (p.className ++ ".rs") := by
    have hending : ".rs".toList <:+ (p.className ++ ".rs").toList := by
      rw [String.toList_append]
      exact List.suffix_append ..
    refine isName_of_suffix ?_ (by decide) hending
    rw [String.toList_append, List.mem_append, not_or]
    exact ⟨slash_notMem_of_isIdentifier (h p hp), by decide⟩
  have hfile :
      handFileNames [(⟨""⟩ : Path).file (p.className ++ ".rs")] = [p.className ++ ".rs"] := by
    simp [handFileNames, Path.fileName?_file _ hname]
    rfl
  refine ⟨[(⟨""⟩ : Path).file (p.className ++ ".rs")], fun hfree => ?_⟩
  have hmem : p.className ∈ (declaredModules none (indexLines space plans
      [(⟨""⟩ : Path).file (p.className ++ ".rs")])).map (·.name) := by
    rw [moduleNames_indexLines space _ h, hfile]
    by_cases hown : p.className ∈ ownModules plans
    · exact List.mem_append_left _ hown
    · have hrenames := renames_freeName (ownModules plans) (moduleName (stem (p.className ++ ".rs")))
      rw [stem_append, moduleName_of_small (h p hp) hmodular.1 hmodular.2] at hrenames
      simp [handModules, stem_append, moduleName_of_small (h p hp) hmodular.1 hmodular.2,
        hrenames.eq_of_notMem hown]
  obtain ⟨m, hm, heq⟩ := List.mem_map.1 hmem
  refine hfree m hm ?_
  rw [(read_indexLines space _ h).2, heq]
  exact List.mem_map_of_mem hp

end Rendering

open Rendering in
/-- The models of a schema have different names. The index is free of clashes whatever files there
are exactly if the name of every model has a capital or is that of a member that all models have.
Only a name that the schema gives has no capital. What is declared and re-exported is read off the
lines that the text of the index is made of. -/
theorem Schema.clashFree_index_iff (s : Schema) (code : HandCode) (space : String) :
    (∀ handFiles, (exportedNames (indexLines space (s.plan code).plans handFiles)).Nodup) ∧
      ((∀ handFiles, ClashFree (indexLines space (s.plan code).plans handFiles)) ↔
        ∀ p ∈ (s.plan code).plans,
          Naming.hasCapital p.className = true ∨ Naming.isReserved p.className = true) ∧
      (∀ p ∈ (s.plan code).plans, Naming.hasCapital p.className = false →
        ∃ t ∈ s.types, t.modelName = p.className ∧ (givenName? t.name).isSome = true) ∧
      ('\n' ∉ space.toList → ∀ handFiles,
        textLines (renderIndex space (s.plan code).plans handFiles) =
          indexLines space (s.plan code).plans handFiles) := by
  have hnames : ∀ p ∈ (s.plan code).plans, Naming.isIdentifier p.className = true :=
    fun p hp => isIdentifier_className hp
  refine ⟨fun handFiles => ?_, ⟨fun hfree p hp => ?_, fun hcapital handFiles => ?_⟩,
    fun p hp hsmall => ?_, fun hspace handFiles => textLines_renderIndex handFiles hspace hnames⟩
  · rw [(read_indexLines space handFiles hnames).2]
    exact (s.pairwise_className code).imp fun hlt heq => absurd (heq ▸ hlt) (lt_irrefl _)
  · by_contra hmodular
    simp only [not_or, Bool.not_eq_true] at hmodular
    obtain ⟨handFiles, hclash⟩ := exists_not_clashFree space hnames hp hmodular
    exact hclash (hfree handFiles)
  · exact clashFree_of_hasCapital space handFiles hnames hcapital
  · obtain ⟨t, ht, heq⟩ := exists_type_of_mem_plans hp
    refine ⟨t, ht, heq, ?_⟩
    by_contra hgiven
    have hcapital := ContentType.hasCapital_modelName (t := t) (by simpa using hgiven)
    rw [heq, hsmall] at hcapital
    cases hcapital

/-! ### A model with a name in small letters -/

/-- A type whose given name has no capital. -/
def lowered : Schema where
  types := [{ handle := "a", name := some "article" }]

/-- The type of `lowered`. -/
def loweredType : lowered.Member := ⟨lowered.types[0], by simp [lowered]⟩

/-- The plan of the type. -/
def loweredPlan : Plan where
  handle := "a"
  className := "article"

theorem loweredPlan_mem_plans : loweredPlan ∈ (lowered.plan {}).plans := by
  change loweredPlan ∈ ((Planning.add {} lowered {} loweredType).result).plans
  have hown : lowered.compose loweredType [] = .ok {} := Schema.compose_of_alone rfl rfl rfl
  simp only [Planning.add, Planning.addNamed, Schema.planType, hown]
  decide

open Rendering in
/-- The text of the index declares a module with the name of the model that it re-exports, for some
hand-authored files. -/
theorem not_clashFree_loweredPlan :
    loweredPlan ∈ (lowered.plan {}).plans ∧ '\n' ∉ "site".toList ∧
      ¬∀ handFiles, ClashFree (textLines (renderIndex "site" (lowered.plan {}).plans handFiles)) := by
  obtain ⟨-, hclash, -, hlines⟩ := Schema.clashFree_index_iff lowered {} "site"
  refine ⟨loweredPlan_mem_plans, by decide, fun hfree => ?_⟩
  have hcapital := hclash.1 (fun handFiles => hlines (by decide) handFiles ▸ hfree handFiles)
    loweredPlan loweredPlan_mem_plans
  revert hcapital
  decide

end ContentModels
