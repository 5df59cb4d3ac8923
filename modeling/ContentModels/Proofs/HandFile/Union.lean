import ContentModels.Proofs.HandFile.Merging

/-!
# The union of what files say

Hand-authored code holds what any of its files says, and nothing else. So the order of the files
decides at most which name an accessor has, and it decides nothing where the files agree on names.

## Main definitions

* `Contribution.Says` — something holds of what a file says of a model.
* `HandCode.Unites` — hand-authored code is the union of what files say.
* `NamesAgree` — no two files name an accessor of a model differently.

## Main statements

* `HandCode.unites_ofContributions` — what several files say together is the union of what they say.
* `HandCode.Unites.unnamed_eq`, `HandCode.Unites.model?_eq` — unions of the same files are alike.
-/

namespace ContentModels

namespace Contribution

/-- Something holds of what a file says of a model. -/
def Says (c : Contribution) (model : String) (P : Customisation → Prop) : Prop :=
  ∃ said, c.models.get? model = some said ∧ P said

/-- The name that a file gives to the accessor of a property. -/
def renamed? (c : Contribution) (model handle : String) : Option String := do
  (← c.models.get? model).renamed.get? handle

end Contribution

/-- No two files name an accessor of a model differently. -/
def NamesAgree (model : String) (l : List Contribution) : Prop :=
  ∀ c ∈ l, ∀ c' ∈ l, ∀ handle name name',
    c.renamed? model handle = some name → c'.renamed? model handle = some name' → name = name'

/-- What is said of a model, apart from the names of accessors. -/
def Customisation.unnamed (m : Customisation) : Customisation := { m with renamed := ∅ }

theorem Customisation.eq_of_unnamed {m m' : Customisation} (h : m.unnamed = m'.unnamed)
    (names : m.renamed = m'.renamed) : m = m' := by
  cases m
  cases m'
  simp_all [unnamed]

namespace HandCode

/-- Hand-authored code is the union of what files say. The imports of a file go to every model that
the file speaks of, unless they bring the name of the model into scope. Of several names for an
accessor the first one counts. -/
structure Unites (code : HandCode) (l : List Contribution) : Prop where
  speaks (model : String) :
    (code.model? model).isSome = true ↔ ∃ c ∈ l, c.Says model fun _ => True
  declared (model member : String) : code.isDeclared model member = true ↔
    ∃ c ∈ l, c.Says model fun said => said.members.contains member = true
  ignored (model handle : String) : code.isPropertyIgnored model handle = true ↔
    ∃ c ∈ l, c.Says model fun said => said.ignored.contains handle = true
  implemented (model : String) : code.implementsType model = true ↔
    ∃ c ∈ l, c.Says model fun said => said.declaresType = true
  typeIgnored (handle : String) : code.isTypeIgnored handle = true ↔
    ∃ c ∈ l, ∃ pattern ∈ SortedSet.toList c.ignoredTypes,
      matchesPattern handle.toList pattern.toList = true
  uses (model path : String) : (code.usesFor model).contains path = true ↔
    ∃ c ∈ l, c.Says model fun said =>
      said.uses.contains path = true ∨ ∃ i ∈ c.imports, model ∉ i.names ∧ i.path = path
  renamed (model handle : String) :
    code.renamed? model handle = l.findSome? fun c => c.renamed? model handle

/-! ## One file -/

section OneFile

variable (c : Contribution) (model : String)

theorem isSome_model?_empty_add :
    ((add {} c).model? model).isSome = true ↔ c.Says model fun _ => True := by
  rw [model?_empty_add, Contribution.Says]
  cases c.models.get? model <;> simp

theorem isDeclared_empty_add (member : String) : (add {} c).isDeclared model member = true ↔
    c.Says model fun said => said.members.contains member = true := by
  rw [isDeclared, model?_empty_add, Contribution.Says]
  cases c.models.get? model <;> simp [Customisation.merge, default]

theorem isPropertyIgnored_empty_add (handle : String) :
    (add {} c).isPropertyIgnored model handle = true ↔
      c.Says model fun said => said.ignored.contains handle = true := by
  rw [isPropertyIgnored, model?_empty_add, Contribution.Says]
  cases c.models.get? model <;> simp [Customisation.merge, default]

theorem implementsType_empty_add : (add {} c).implementsType model = true ↔
    c.Says model fun said => said.declaresType = true := by
  rw [implementsType, model?_empty_add, Contribution.Says]
  cases c.models.get? model <;> simp [Customisation.merge, default]

theorem mem_importsFor {path : String} {imports : List Import} :
    path ∈ importsFor model imports ↔ ∃ i ∈ imports, model ∉ i.names ∧ i.path = path := by
  simp [importsFor, and_assoc]

theorem usesFor_empty_add (path : String) : ((add {} c).usesFor model).contains path = true ↔
    c.Says model fun said =>
      said.uses.contains path = true ∨ ∃ i ∈ c.imports, model ∉ i.names ∧ i.path = path := by
  rw [usesFor, model?_empty_add, Contribution.Says]
  cases c.models.get? model <;> simp [Customisation.merge, default, ← mem_importsFor]

theorem renamed?_empty_add (handle : String) :
    (add {} c).renamed? model handle = c.renamed? model handle := by
  rw [renamed?, model?_empty_add, Contribution.renamed?]
  cases c.models.get? model <;> simp [get?_renamed_merge, default]

end OneFile

/-! ## All files -/

variable {code code' : HandCode} {l l' : List Contribution}

theorem unites_nil : ({} : HandCode).Unites [] where
  speaks _ := by simp [model?]
  declared _ _ := by simp [isDeclared, model?]
  ignored _ _ := by simp [isPropertyIgnored, model?]
  implemented _ := by simp [implementsType, model?]
  typeIgnored _ := by simp [isTypeIgnored, SortedSet.toList, SortedMap.keys]
  uses _ _ := by simp [usesFor, model?]
  renamed _ _ := by simp [renamed?, model?]

/-- One more file adds what it says. -/
theorem Unites.add (h : code.Unites l) (c : Contribution) : (code.add c).Unites (l ++ [c]) := by
  have split (P : Contribution → Prop) : (∃ d ∈ l ++ [c], P d) ↔ (∃ d ∈ l, P d) ∨ P c := by
    simp [or_and_right, exists_or]
  constructor
  case speaks =>
    intro model
    rw [split, ← h.speaks, ← isSome_model?_empty_add, model?_add, model?_empty_add]
    cases c.models.get? model <;> simp
  case declared =>
    intro model member
    rw [isDeclared_add, Bool.or_eq_true, split, h.declared, isDeclared_empty_add]
  case ignored =>
    intro model handle
    rw [isPropertyIgnored_add, Bool.or_eq_true, split, h.ignored, isPropertyIgnored_empty_add]
  case implemented =>
    intro model
    rw [implementsType_add, Bool.or_eq_true, split, h.implemented, implementsType_empty_add]
  case typeIgnored =>
    intro handle
    rw [isTypeIgnored_add, Bool.or_eq_true, split, h.typeIgnored]
    simp [isTypeIgnored, HandCode.add, SortedSet.mem_toList]
  case uses =>
    intro model path
    rw [usesFor_add, SortedSet.contains_union, Bool.or_eq_true, split, h.uses, usesFor_empty_add]
  case renamed =>
    intro model handle
    rw [renamed?_add, h.renamed, renamed?_empty_add, List.findSome?_append]
    simp

/-- What several files say together is the union of what they say. -/
theorem unites_ofContributions (l : List Contribution) : (ofContributions l).Unites l := by
  induction l using List.reverseRecOn with
  | nil => exact unites_nil
  | append_singleton l c ih =>
    rw [ofContributions, List.foldl_append]
    exact ih.add c

/-! ## The same files in another order -/

namespace Unites

/-- Where the files agree on names, an accessor has the name that any of them gives it. -/
theorem renamed_eq_some_iff (h : code.Unites l) {model handle name : String}
    (agree : NamesAgree model l) :
    code.renamed? model handle = some name ↔ ∃ c ∈ l, c.renamed? model handle = some name := by
  rw [h.renamed]
  constructor
  · exact List.exists_of_findSome?_eq_some
  · rintro ⟨c, hc, hname⟩
    obtain ⟨name', hname'⟩ : ∃ name', (l.findSome? fun c => c.renamed? model handle) = some name' := by
      rw [← Option.isSome_iff_exists, List.findSome?_isSome_iff]
      exact ⟨c, hc, by simp [hname]⟩
    obtain ⟨c', hc', hfirst⟩ := List.exists_of_findSome?_eq_some hname'
    rw [hname', agree c' hc' c hc handle name' name hfirst hname]

variable (h : code.Unites l) (h' : code'.Unites l') (perm : l.Perm l')

include h h' perm

theorem typeIgnored_eq (handle : String) : code'.isTypeIgnored handle = code.isTypeIgnored handle := by
  rw [Bool.eq_iff_iff, h.typeIgnored, h'.typeIgnored]
  simp only [perm.mem_iff]

/-- The same files say the same of a model, apart from names. -/
theorem unnamed_eq (model : String) :
    (code'.model? model).map Customisation.unnamed = (code.model? model).map Customisation.unnamed := by
  have speaks := (h.speaks model).trans (.trans (by simp only [perm.mem_iff]) (h'.speaks model).symm)
  have declared (member : String) : code.isDeclared model member = code'.isDeclared model member := by
    rw [Bool.eq_iff_iff, h.declared, h'.declared]
    simp only [perm.mem_iff]
  have ignored (handle : String) :
      code.isPropertyIgnored model handle = code'.isPropertyIgnored model handle := by
    rw [Bool.eq_iff_iff, h.ignored, h'.ignored]
    simp only [perm.mem_iff]
  have implemented : code.implementsType model = code'.implementsType model := by
    rw [Bool.eq_iff_iff, h.implemented, h'.implemented]
    simp only [perm.mem_iff]
  have uses (path : String) :
      (code.usesFor model).contains path = (code'.usesFor model).contains path := by
    rw [Bool.eq_iff_iff, h.uses, h'.uses]
    simp only [perm.mem_iff]
  cases hm : code.model? model with
  | none =>
    cases hm' : code'.model? model with
    | none => rfl
    | some m' => simp [hm, hm'] at speaks
  | some m =>
    cases hm' : code'.model? model with
    | none => simp [hm, hm'] at speaks
    | some m' =>
      simp only [isDeclared, isPropertyIgnored, implementsType, usesFor, hm, hm', Option.any_some]
        at declared ignored implemented uses
      simp only [Option.map_some, Customisation.unnamed, SortedSet.ext_contains declared,
        SortedSet.ext_contains ignored, SortedSet.ext_contains uses, implemented]

/-- The same files say the same of a model, if they agree on names. -/
theorem model?_eq {model : String} (agree : NamesAgree model l) :
    code'.model? model = code.model? model := by
  have agree' : NamesAgree model l' := fun c hc c' hc' =>
    agree c (perm.mem_iff.2 hc) c' (perm.mem_iff.2 hc')
  have unnamed := h.unnamed_eq h' perm model
  have renamed (handle : String) : code'.renamed? model handle = code.renamed? model handle := by
    refine Option.ext fun name => ?_
    rw [h.renamed_eq_some_iff agree, h'.renamed_eq_some_iff agree']
    simp only [perm.mem_iff]
  cases hm : code.model? model with
  | none => simpa [hm] using unnamed
  | some m =>
    cases hm' : code'.model? model with
    | none => simp [hm, hm'] at unnamed
    | some m' =>
      have names : m'.renamed = m.renamed :=
        SortedMap.ext_get? fun handle => by simpa [renamed?, hm, hm'] using renamed handle
      rw [hm, hm', Option.map_some, Option.map_some, Option.some_inj] at unnamed
      rw [Customisation.eq_of_unnamed unnamed names]

end Unites

end HandCode

end ContentModels
