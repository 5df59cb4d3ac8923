import ContentModels.Proofs.Naming.FileNames
import ContentModels.Proofs.Plan.Accessors
import ContentModels.Proofs.Rendering.Lines

/-!
# Members of models

The members that a model defines are read off its lines: four constants, the two methods that every
model has, and an accessor for each planned property. Accessors have different names and keep away
from the methods. They do not keep away from the constants: a property whose name is chosen like one
of them gives the model two members of that name.

## Main definitions

* `memberNames` — the names of the members that lines define.
* `constantNames` — the names of the constants of a model.

## Main statements

* `memberNames_modelLines` — the members that the lines of a model define.
* `Schema.nodup_memberNames_iff` — when the members of a planned model are distinct.
-/

namespace ContentModels

namespace Rendering

open Text Naming

/-! ## Reading members -/

/-- The name of the constant or method for everyone that an indented line defines. -/
def memberOf? : List Char → Option String
  | ' ' :: ' ' :: ' ' :: ' ' :: 'p' :: 'u' :: 'b' :: ' ' :: 'c' :: 'o' :: 'n' :: 's' :: 't' :: ' ' ::
      rest => some (splitName rest).1
  | ' ' :: ' ' :: ' ' :: ' ' :: 'p' :: 'u' :: 'b' :: ' ' :: 'f' :: 'n' :: ' ' :: rest =>
    some (splitName rest).1
  | _ => none

/-- The names of the members that lines define. -/
def memberNames (l : List String) : List String := l.filterMap fun line => memberOf? line.toList

/-- The names of the constants of a model. -/
def constantNames : List String := ["CONTENT_TYPE_ALIAS", "IS_ELEMENT", "BASE_TYPE", "MIXINS"]

/-! ## Lines without members -/

/-- The lines define no member. -/
def Memberless (l : List String) : Prop := ∀ line ∈ l, memberOf? line.toList = none

namespace Memberless

variable {l : List String} {cs : List Char}

theorem nil : Memberless [] := by simp [Memberless]

theorem cons_line (h : memberOf? cs = none) (hl : Memberless l) :
    Memberless (String.ofList cs :: l) :=
  List.forall_mem_cons.2 ⟨by rwa [String.toList_ofList], hl⟩

/-- How a line starts tells that it defines no member. -/
theorem cons_start (h : ∀ tail, memberOf? (cs ++ tail) = none) (more : String)
    (hl : Memberless l) : Memberless ((String.ofList cs ++ more) :: l) :=
  List.forall_mem_cons.2 ⟨by rw [String.toList_append, String.toList_ofList, h], hl⟩

theorem append {m : List String} (hl : Memberless l) (hm : Memberless m) : Memberless (l ++ m) :=
  List.forall_mem_append.2 ⟨hl, hm⟩

theorem memberNames_eq_nil (h : Memberless l) : memberNames l = [] :=
  List.filterMap_eq_nil_iff.2 h

end Memberless

theorem memberless_header : Memberless header := by
  repeat' first | exact .nil | refine .cons_line rfl ?_

theorem memberless_namespaceLine (space : String) : Memberless [namespaceLine space] := by
  rw [namespaceLine_eq, String.append_assoc]
  exact .cons_start (fun _ => rfl) _ .nil

theorem memberless_imports (p : Plan) :
    Memberless ((imports p).map fun path => "use " ++ path ++ ";") := by
  intro line hline
  obtain ⟨path, -, rfl⟩ := List.mem_map.1 hline
  rw [String.append_assoc]
  exact Memberless.cons_start (fun _ => rfl) _ .nil _ List.mem_cons_self

theorem memberless_declaration (p : Plan) : Memberless (declaration p) := by
  simp only [declaration, String.append_assoc]
  repeat' first | exact .nil | refine .cons_line rfl ?_ | refine .cons_start (fun _ => rfl) _ ?_

theorem memberless_close : Memberless ["    " ++ close, close] := by
  intro line hline
  simp only [List.mem_cons, List.not_mem_nil, or_false] at hline
  rcases hline with rfl | rfl <;> decide

theorem memberless_fromContent (name : String) : Memberless (fromContent name) := by
  simp only [fromContent, String.append_assoc]
  repeat' first | exact memberless_close | refine .cons_line rfl ?_ |
    refine .cons_start (fun _ => rfl) _ ?_

theorem memberless_toContent (name : String) : Memberless (toContent name) := by
  simp only [toContent, String.append_assoc]
  repeat' first | exact memberless_close | refine .cons_line rfl ?_ |
    refine .cons_start (fun _ => rfl) _ ?_

theorem memberless_conversion (name : String) (target : ModelRef) :
    Memberless (conversion name target) := by
  simp only [conversion, String.append_assoc]
  repeat' first | exact memberless_close | refine .cons_line rfl ?_ |
    refine .cons_start (fun _ => rfl) _ ?_

/-! ## Members of a model -/

@[simp] theorem memberNames_append (l m : List String) :
    memberNames (l ++ m) = memberNames l ++ memberNames m :=
  List.filterMap_append

theorem memberNames_cons (name : String) {cs : List Char}
    (h : ∀ tail, memberOf? (cs ++ tail) = some name) (more : String) (l : List String) :
    memberNames ((String.ofList cs ++ more) :: l) = name :: memberNames l := by
  simp [memberNames, h]

theorem memberNames_constants (p : Plan) : memberNames (constants p) = constantNames := by
  simp only [constants, String.append_assoc]
  rw [memberNames_cons "CONTENT_TYPE_ALIAS" fun _ => rfl, memberNames_cons "IS_ELEMENT" fun _ => rfl,
    memberNames_cons "BASE_TYPE" fun _ => rfl, memberNames_cons "MIXINS" fun _ => rfl]
  rfl

theorem memberNames_ownMembers : memberNames ownMembers = reservedMembers := by decide

theorem memberOf?_signature {name : String} (h : isIdentifier name = true) (type : String) :
    memberOf? ("    pub fn " ++ name ++ "(&self) -> Option<" ++ type ++ ">" ++ open_).toList =
      some name := by
  have hsplit := splitName_append ((isIdentifier_iff _).1 h).1 (c := '(') (by decide)
  simp [memberOf?, hsplit]

/-- The lines of an accessor define it and nothing else. -/
theorem memberNames_accessorLines {q : PlannedProperty} (h : isIdentifier q.localName = true) :
    memberNames (accessorLines q) = [q.localName] := by
  have hcomment : Memberless ["", "    /// Value of the `" ++ (q.handle ++ "` property.")] :=
    .cons_line rfl (.cons_start (fun _ => rfl) _ .nil)
  have hvalue : Memberless ["        self.content.value::<" ++
      (q.valueType ++ (">(" ++ (quoted q.handle ++ ")"))), "    " ++ close] :=
    .cons_start (fun _ => rfl) _ fun line hline =>
      memberless_close line (List.mem_cons.2 (.inl (List.mem_singleton.1 hline)))
  simp only [← String.append_assoc] at hcomment hvalue
  obtain ⟨before, after, hbefore, hafter, heq⟩ : ∃ before after, Memberless before ∧
      Memberless after ∧ accessorLines q = before ++
        (["    pub fn " ++ q.localName ++ "(&self) -> Option<" ++ q.valueType ++ ">" ++ open_] ++
          after) := ⟨_, _, hcomment, hvalue, rfl⟩
  rw [heq, memberNames_append, memberNames_append, hbefore.memberNames_eq_nil,
    hafter.memberNames_eq_nil, memberNames, List.filterMap_cons, memberOf?_signature h]
  rfl

/-- The members that the lines of a model define. -/
theorem memberNames_modelLines {p : Plan} (space : String)
    (h : ∀ q ∈ p.properties, isIdentifier q.localName = true) :
    memberNames (modelLines p space) =
      constantNames ++ reservedMembers ++ p.properties.map (·.localName) := by
  have hblank : Memberless [""] := .cons_line rfl .nil
  have haccessors (l : List PlannedProperty) (hl : ∀ q ∈ l, isIdentifier q.localName = true) :
      memberNames (l.flatMap accessorLines) = l.map (·.localName) := by
    induction l with
    | nil => rfl
    | cons q more ih =>
      obtain ⟨hq, hmore⟩ := List.forall_mem_cons.1 hl
      rw [List.flatMap_cons, memberNames_append, memberNames_accessorLines hq, ih hmore]
      rfl
  have hconversions : Memberless (p.references.flatMap (conversion p.className)) := by
    intro line hline
    obtain ⟨target, -, hline⟩ := List.mem_flatMap.1 hline
    exact memberless_conversion _ _ _ hline
  have himpl : Memberless ["impl " ++ p.className ++ open_] := by
    rw [String.append_assoc]
    exact .cons_start (fun _ => rfl) _ .nil
  have hend : Memberless [close, ""] := .cons_line rfl (.cons_line rfl .nil)
  have hnamespace : Memberless ["", namespaceLine space, ""] :=
    hblank.append ((memberless_namespaceLine space).append hblank)
  unfold modelLines
  simp only [memberNames_append, memberless_header.memberNames_eq_nil,
    hnamespace.memberNames_eq_nil, (memberless_imports p).memberNames_eq_nil,
    hblank.memberNames_eq_nil, (memberless_declaration p).memberNames_eq_nil,
    himpl.memberNames_eq_nil, memberNames_constants, memberNames_ownMembers, haccessors _ h,
    hend.memberNames_eq_nil, (memberless_fromContent _).memberNames_eq_nil,
    (memberless_toContent _).memberNames_eq_nil, hconversions.memberNames_eq_nil, List.nil_append,
    List.append_nil]

end Rendering

open Rendering in
/-- The members of a planned model are its constants, the methods of every model and its accessors.
They are distinct exactly if no accessor has the name of a constant. An accessor has such a name
only if hand-authored code or the schema chooses it. -/
theorem Schema.nodup_memberNames_iff (s : Schema) (code : HandCode) (space : String) (p : Plan)
    (h : p ∈ (s.plan code).plans) :
    memberNames (modelLines p space) =
        constantNames ++ Naming.reservedMembers ++ p.properties.map (·.localName) ∧
      ((memberNames (modelLines p space)).Nodup ↔
        ∀ q ∈ p.properties, q.localName ∉ constantNames) ∧
      ∀ q ∈ p.properties, q.localName ∈ constantNames →
        code.renamed? p.className q.handle ≠ none ∨
          ∃ t ∈ s.types, ∃ x ∈ t.properties, x.handle = q.handle ∧ givenName? x.name ≠ none := by
  have haccessor : ∀ q ∈ p.properties, Naming.isIdentifier q.localName = true ∧
      Naming.isReserved q.localName = false := by
    intro q hq
    obtain ⟨u, -, x, -, -, heq⟩ := exists_property_of_mem_plans h hq
    rw [heq]
    exact Naming.isIdentifier_accessor _
  have hmembers := memberNames_modelLines space fun q hq => (haccessor q hq).1
  refine ⟨hmembers, ?_, ?_⟩
  · have hfixed : (constantNames ++ Naming.reservedMembers).Nodup := by decide
    rw [hmembers, List.nodup_append]
    constructor
    · rintro ⟨-, -, hdisjoint⟩ q hq hconstant
      exact hdisjoint _ (List.mem_append_left _ hconstant) _ (List.mem_map_of_mem hq) rfl
    · intro hapart
      refine ⟨hfixed, nodup_localName h, ?_⟩
      rintro a ha b hb rfl
      obtain ⟨q, hq, rfl⟩ := List.mem_map.1 hb
      rcases List.mem_append.1 ha with ha | ha
      · exact hapart q hq ha
      · have := (haccessor q hq).2
        simp_all [Naming.isReserved]
  · intro q hq hconstant
    obtain ⟨u, hu, x, hx, hhandle, heq⟩ := exists_property_of_mem_plans h hq
    by_contra hchosen
    simp only [not_or, not_exists, not_and, not_not] at hchosen
    have hcapital := hasCapital_accessorFor (hhandle ▸ hchosen.1) (hchosen.2 u hu x hx hhandle.symm)
    rw [← heq] at hcapital
    have hall : ∀ name ∈ constantNames, Naming.hasCapital name = true := by decide
    exact absurd ((hall _ hconstant).symm.trans hcapital) (by simp)

/-! ### A property with the name of a constant -/

/-- A type with a property whose chosen name is that of a constant. -/
def capitalised : Schema where
  types := [
    { handle := "a", name := some "A"
      properties := [{ handle := "x", name := some "MIXINS", valueType := "String" }] }]

/-- The type of `capitalised`. -/
def capitalisedType : capitalised.Member := ⟨capitalised.types[0], by simp [capitalised]⟩

/-- The plan of the type. -/
def capitalisedPlan : Plan where
  handle := "a"
  className := "A"
  properties := [⟨"x", "MIXINS", "String", "a"⟩]

theorem capitalisedPlan_mem_plans : capitalisedPlan ∈ (capitalised.plan {}).plans := by
  change capitalisedPlan ∈ ((Planning.add {} capitalised {} capitalisedType).result).plans
  have hown : capitalised.compose capitalisedType [] =
      .ok ⟨Schema.ownDeclarations capitalisedType.1, []⟩ := Schema.compose_of_alone rfl rfl rfl
  simp only [Planning.add, Planning.addNamed, Schema.planType, hown]
  decide

/-- The model has a constant and a method of one name. -/
theorem not_nodup_memberNames_capitalisedPlan :
    capitalisedPlan ∈ (capitalised.plan {}).plans ∧
      ¬(Rendering.memberNames (Rendering.modelLines capitalisedPlan "site")).Nodup :=
  ⟨capitalisedPlan_mem_plans, fun h =>
    absurd ((Schema.nodup_memberNames_iff capitalised {} "site" capitalisedPlan
      capitalisedPlan_mem_plans).2.1.1 h _ (List.mem_singleton.2 rfl)) (by decide)⟩

end ContentModels
