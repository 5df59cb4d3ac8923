import ContentModels.Plan.Planning
import ContentModels.Proofs.HandFile.Union

/-!
# Hand-authored files in any order

Planning sees of hand-authored code what is said of each model and which types are left out. Files
say the same together in any order, apart from the names of accessors on which they disagree. So
where they agree, the plans of a schema do not depend on the order of the files.

## Main statements

* `Schema.plan_congr` — what planning sees of hand-authored code.
* `Schema.plan_union` — the union of what files say, and the plans, do not depend on their order.
-/

namespace ContentModels

section Congr

variable {code code' : HandCode} (said : ∀ model, code'.model? model = code.model? model)

include said

theorem Choices.add_congr (c : Choices) (type model : String) (d : Declared) :
    c.add code' type model d = c.add code type model d := by
  simp only [Choices.add, accessorFor, HandCode.renamed?, HandCode.isPropertyIgnored,
    HandCode.isDeclared, said]
  rfl

theorem Choices.addAll_congr (c : Choices) (type model : String) (l : List Declared) :
    c.addAll code' type model l = c.addAll code type model l := by
  induction l generalizing c with
  | nil => rfl
  | cons d rest ih =>
    rw [Choices.addAll, Choices.addAll, Choices.add_congr said]
    exact bind_congr ih

theorem Schema.planType_congr (s : Schema) (t : s.Member) :
    s.planType code' t = s.planType code t := by
  simp only [Schema.planType, Choices.addAll_congr said, HandCode.usesFor, said]

variable (leftOut : ∀ handle, code'.isTypeIgnored handle = code.isTypeIgnored handle)

include leftOut

theorem Planning.add_congr (p : Planning) (s : Schema) (t : s.Member) :
    p.add s code' t = p.add s code t := by
  simp only [Planning.add, Planning.addNamed, leftOut, HandCode.implementsType, said,
    Schema.planType_congr said]
  rfl

/-- Hand-authored code that says the same of every model and leaves out the same types leads to the
same plans. -/
theorem Schema.plan_congr (s : Schema) : s.plan code' = s.plan code := by
  simp only [Schema.plan, Planning.add_congr said leftOut]

end Congr

/-- What files say together is the union of what they say: the imports of a file go to every model
it speaks of, unless they bring the name of the model into scope. In another order they say the
same, apart from the names of accessors. If no two files name an accessor of a model differently,
they say the same of the model, names included, and an accessor has the name that any file gives it.
If that holds of every model, every schema has the same plans. -/
theorem Schema.plan_union {l l' : List Contribution} (perm : l.Perm l') :
    let code := HandCode.ofContributions l
    let code' := HandCode.ofContributions l'
    code.Unites l ∧
    (∀ model, (code'.model? model).map Customisation.unnamed =
      (code.model? model).map Customisation.unnamed) ∧
    (∀ handle, code'.isTypeIgnored handle = code.isTypeIgnored handle) ∧
    (∀ model, NamesAgree model l →
      code'.model? model = code.model? model ∧
      ∀ handle name, code.renamed? model handle = some name ↔
        ∃ c ∈ l, c.renamed? model handle = some name) ∧
    ((∀ model, NamesAgree model l) → ∀ s : Schema, s.plan code' = s.plan code) := by
  intro code code'
  have unites : code.Unites l := HandCode.unites_ofContributions l
  have unites' : code'.Unites l' := HandCode.unites_ofContributions l'
  have leftOut := unites.typeIgnored_eq unites' perm
  refine ⟨unites, unites.unnamed_eq unites' perm, leftOut, fun model agree => ?_, fun agree s => ?_⟩
  · exact ⟨unites.model?_eq unites' perm agree, fun _ _ => unites.renamed_eq_some_iff agree⟩
  · exact s.plan_congr (fun model => unites.model?_eq unites' perm (agree model)) leftOut

/-- A file with a member of a model, and two imports. -/
def bodyFile : Contribution :=
  Contribution.customise
    { path := ⟨"article.rs"⟩
      imports := [⟨"chrono::Utc", ["Utc"]⟩, ⟨"super::Article", ["Article"]⟩] }
    "Article" fun said => { said with members := SortedSet.add said.members "body" }

/-- A file that names an accessor of the model. -/
def namingFile : Contribution :=
  Contribution.addMarker { path := ⟨"article_seo.rs"⟩ }
    (.renameProperty "Article" "metaTitle" "seo_title")

/-- The file with the member says first what the model has, or last. -/
theorem Schema.plan_union_naming :
    [bodyFile, namingFile].Perm [namingFile, bodyFile] ∧
      (∀ model, NamesAgree model [bodyFile, namingFile]) ∧
      (HandCode.ofContributions [namingFile, bodyFile]).renamed? "Article" "metaTitle" =
        some "seo_title" ∧
      ∀ s : Schema, s.plan (HandCode.ofContributions [namingFile, bodyFile]) =
        s.plan (HandCode.ofContributions [bodyFile, namingFile]) := by
  have perm : [bodyFile, namingFile].Perm [namingFile, bodyFile] := .swap ..
  have agree (model : String) : NamesAgree model [bodyFile, namingFile] := by
    have silent (handle : String) : bodyFile.renamed? model handle = none := by
      have hget : bodyFile.models.get? model = if compare model "Article" = .eq then
          some { members := SortedSet.add ∅ "body" } else none := SortedMap.get?_alter ..
      rw [Contribution.renamed?, hget]
      split <;> rfl
    intro c hc c' hc' handle name name' hname hname'
    simp only [List.mem_cons, List.not_mem_nil, or_false] at hc hc'
    rcases hc with rfl | rfl <;> rcases hc' with rfl | rfl <;> simp_all
  obtain ⟨-, -, -, alike, plans⟩ := Schema.plan_union perm
  obtain ⟨said, named⟩ := alike "Article" (agree "Article")
  refine ⟨perm, agree, ?_, plans agree⟩
  rw [HandCode.renamed?, said]
  exact (named "metaTitle" "seo_title").2 ⟨namingFile, by simp, by decide⟩

end ContentModels
