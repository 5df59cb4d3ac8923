import ContentModels.Proofs.HandFile.Merging
import ContentModels.Rendering.Model

/-!
# What imports bind

The names that an import brings into scope, and those of them that are not at its leaves: a leaf
`self` stands for the segment before it, and a raw identifier for the name behind its mark. Imports
are taken over from a file into the code of a model by the names at their leaves.

## Main definitions

* `Source.UseItem.bound` — the names that an import binds.
* `Source.UseItem.hidden` — the names that it binds without having them at a leaf.
* `Source.UseItem.endsIn` — imports that are a path to a name.
* `SourceFile.Offers` — the imports that a file has for a model.

## Main statements

* `Source.UseItem.mem_bound_iff` — a bound name is at a leaf or hidden.
* `HandCode.contains_usesFor_ofFiles` — the imports that a model takes over.
-/

namespace ContentModels

namespace Source

/-! ## Names of an import -/

/-- A word without the mark of a raw identifier. -/
def plainWord (word : String) : String :=
  if "r#".toList.isPrefixOf word.toList then String.ofList (word.toList.drop 2) else word

/-- A name that no word stands for but itself. -/
structure IsName (name : String) : Prop where
  plain : plainWord name = name
  self : name ≠ "self"
  blank : name ≠ "_"

mutual

/-- The names that an import binds behind a segment of a path. -/
def UseTree.boundBehind : (segment : Option String) → UseTree → List String
  | _, .path word tree => tree.boundBehind (some word)
  | segment, .name word =>
    if word = "self" then (segment.map plainWord).toList else [plainWord word]
  | _, .rename _ newName => if newName = "_" then [] else [plainWord newName]
  | _, .glob => []
  | segment, .group items => UseTree.boundBehindAll segment items

/-- The names that the trees between braces bind. -/
def UseTree.boundBehindAll : (segment : Option String) → List UseTree → List String
  | _, [] => []
  | segment, tree :: rest => tree.boundBehind segment ++ UseTree.boundBehindAll segment rest

end

mutual

/-- The names among them that are not written at a leaf. -/
def UseTree.hiddenBehind : (segment : Option String) → UseTree → List String
  | _, .path word tree => tree.hiddenBehind (some word)
  | segment, .name word =>
    if word = "self" then (segment.map plainWord).toList
    else if plainWord word = word then [] else [plainWord word]
  | _, .rename _ newName => if plainWord newName = newName then [] else [plainWord newName]
  | _, .glob => []
  | segment, .group items => UseTree.hiddenBehindAll segment items

/-- The names among those of the trees between braces. -/
def UseTree.hiddenBehindAll : (segment : Option String) → List UseTree → List String
  | _, [] => []
  | segment, tree :: rest => tree.hiddenBehind segment ++ UseTree.hiddenBehindAll segment rest

end

/-- Whether what follows `use` is a path of several segments to a name. -/
def UseTree.endsIn (name : String) : UseTree → Bool
  | .path _ (.name word) => word == name
  | .path _ tree => tree.endsIn name
  | _ => false

variable {name : String}

theorem mem_unless_plain (h : IsName name) (word : String) :
    name = plainWord word ↔
      name = word ∨ name ∈ if plainWord word = word then [] else [plainWord word] := by
  split
  · next hplain => simp [hplain]
  · next hplain =>
    have hne : name ≠ word := by
      rintro rfl
      exact hplain h.plain
    simp [hne]

mutual

theorem UseTree.mem_boundBehind_iff (h : IsName name) : (segment : Option String) → (tree : UseTree) →
    (name ∈ tree.boundBehind segment ↔ name ∈ tree.leafNames ∨ name ∈ tree.hiddenBehind segment)
  | _, .path word tree => by
    simpa only [boundBehind, leafNames, hiddenBehind] using tree.mem_boundBehind_iff h (some word)
  | segment, .name word => by
    by_cases hself : word = "self"
    · simp [boundBehind, leafNames, hiddenBehind, hself, h.self]
    · simpa [boundBehind, leafNames, hiddenBehind, hself] using mem_unless_plain h word
  | _, .rename _ newName => by
    by_cases hblank : newName = "_"
    · have hplain : plainWord "_" = "_" := by decide
      simp [boundBehind, leafNames, hiddenBehind, hblank, h.blank, hplain]
    · simpa [boundBehind, leafNames, hiddenBehind, hblank] using mem_unless_plain h newName
  | _, .glob => by simp [boundBehind, leafNames, hiddenBehind]
  | segment, .group items => by
    simpa only [boundBehind, leafNames, hiddenBehind] using mem_boundBehindAll_iff h segment items

theorem UseTree.mem_boundBehindAll_iff (h : IsName name) :
    (segment : Option String) → (items : List UseTree) →
    (name ∈ boundBehindAll segment items ↔
      name ∈ leafNamesAll items ∨ name ∈ hiddenBehindAll segment items)
  | _, [] => by simp [boundBehindAll, leafNamesAll, hiddenBehindAll]
  | segment, tree :: rest => by
    have htree := tree.mem_boundBehind_iff h segment
    have hrest := mem_boundBehindAll_iff h segment rest
    simp only [boundBehindAll, leafNamesAll, hiddenBehindAll, List.mem_append, htree, hrest]
    grind

end

/-! ## Imports -/

namespace UseItem

/-- The canonical text of an import. -/
def text (item : UseItem) : String :=
  if item.rooted then "::" ++ item.tree.render else item.tree.render

/-- The names that an import binds. -/
def bound (item : UseItem) : List String := item.tree.boundBehind none

/-- The names that an import binds without having them at a leaf. -/
def hidden (item : UseItem) : List String := item.tree.hiddenBehind none

/-- Whether an import is a path of several segments to a name, or a rooted one. -/
def endsIn (item : UseItem) (name : String) : Bool :=
  match item.tree with
  | .name word => item.rooted && word == name
  | tree => tree.endsIn name

variable {item : UseItem}

/-- A bound name is at a leaf or hidden. -/
theorem mem_bound_iff (h : IsName name) :
    name ∈ item.bound ↔ name ∈ item.tree.leafNames ∨ name ∈ item.hidden :=
  item.tree.mem_boundBehind_iff h none

end UseItem

end Source

open Source

/-! ## What a file contributes -/

/-- What is recorded of an item, if it is an import. -/
def Import.ofItem? : Item → Option Import
  | .use item => Import.ofUse? item
  | _ => none

theorem Import.ofUse?_eq (item : UseItem) : Import.ofUse? item =
    if opensWithSelf item.tree.render then none else some ⟨item.text, item.tree.leafNames⟩ := rfl

namespace Contribution

variable {c c' : Contribution}

theorem imports_addItem {item : Item} (h : c.addItem item = .ok c') :
    c'.imports = c.imports ++ (Import.ofItem? item).toList := by
  unfold addItem at h
  split at h
  case h_4 =>
    split at h
    · next marker _ =>
      cases h
      cases marker <;> simp [addMarker, customise, Import.ofItem?]
    · cases h
      simp [Import.ofItem?]
    · cases h
  all_goals
    cases h
    simp [customise, Import.ofItem?]

theorem ofItem?_of_addItem_error {item : Item} {e : HandFileError} (h : c.addItem item = .error e) :
    Import.ofItem? item = none := by
  unfold addItem at h
  split at h
  case h_4 => rfl
  all_goals cases h

/-- The imports among the items are added to those that are there. -/
theorem imports_addItems (c : Contribution) (items : List Item) :
    (c.addItems items).1.imports = c.imports ++ items.filterMap Import.ofItem? := by
  induction items generalizing c with
  | nil => simp [addItems]
  | cons item rest ih =>
    have hsplit : (item :: rest).filterMap Import.ofItem? =
        (Import.ofItem? item).toList ++ rest.filterMap Import.ofItem? := by
      cases h : Import.ofItem? item <;> simp [h]
    rw [addItems, hsplit, ← List.append_assoc]
    split
    · next c' h => rw [ih, imports_addItem h]
    · next e h => simp [ih, ofItem?_of_addItem_error h]

/-- No imports are attached to models yet. -/
def NoUses (c : Contribution) : Prop := ∀ model said, c.models.get? model = some said → said.uses = ∅

theorem NoUses.customise (h : c.NoUses) (model : String) {f : Customisation → Customisation}
    (hf : ∀ said, (f said).uses = said.uses) : (c.customise model f).NoUses := by
  intro m said hsaid
  rw [Contribution.customise, SortedMap.modify, SortedMap.get?_alter] at hsaid
  split at hsaid
  · cases hsaid
    rw [hf]
    cases hget : c.models.get? model with
    | none => rfl
    | some said => exact h model said hget
  · exact h m said hsaid

theorem NoUses.addItem (h : c.NoUses) {item : Item} (hitem : c.addItem item = .ok c') :
    c'.NoUses := by
  unfold Contribution.addItem at hitem
  split at hitem
  case h_1 =>
    cases hitem
    exact h.customise _ fun _ => rfl
  case h_3 =>
    cases hitem
    exact h.customise _ fun _ => rfl
  case h_4 =>
    split at hitem
    · next marker _ =>
      cases hitem
      cases marker with
      | ignoreProperties => exact h.customise _ fun _ => rfl
      | renameProperty => exact h.customise _ fun _ => rfl
      | ignoreTypes => exact h
    · cases hitem
      exact h
    · cases hitem
  all_goals
    cases hitem
    exact h

theorem NoUses.addItems (h : c.NoUses) (items : List Item) : (c.addItems items).1.NoUses := by
  induction items generalizing c with
  | nil => exact h
  | cons item rest ih =>
    rw [Contribution.addItems]
    split
    · next hitem => exact ih (h.addItem hitem)
    · exact ih h

end Contribution

/-- A file has an import for a model: the file says something of the model, the import can stand in
another module, and the name of the model is not at its leaves. -/
structure SourceFile.Offers (file : SourceFile) (model : String) (item : UseItem) : Prop where
  written : ∃ items, Source.items file.content = .ok items ∧ .use item ∈ items
  speaks : ∃ c errors, file.read = .ok (c, errors) ∧ c.models.contains model = true
  portable : opensWithSelf item.tree.render = false
  apart : model ∉ item.tree.leafNames

theorem SourceFile.items_of_read {file : SourceFile} {c : Contribution}
    {errors : List HandFileError}
    (h : file.read = .ok (c, errors)) : ∃ items, Source.items file.content = .ok items ∧
      c.NoUses ∧ c.imports = items.filterMap Import.ofItem? := by
  unfold read at h
  split at h
  · next items hitems =>
    refine ⟨items, hitems, ?_⟩
    have hc : (Contribution.addItems { path := file.path } items).1 = c :=
      congrArg Prod.fst (Except.ok.inj h)
    subst hc
    have hnone : Contribution.NoUses { path := file.path } := fun _ _ hsaid => by cases hsaid
    exact ⟨hnone.addItems items, Contribution.imports_addItems _ items⟩
  · cases h

namespace HandCode

theorem mem_read {files : List SourceFile} {c : Contribution} :
    c ∈ (read files).1 ↔ ∃ file ∈ files, ∃ errors, file.read = .ok (c, errors) := by
  induction files with
  | nil => simp [read]
  | cons file rest ih =>
    rw [read_cons]
    cases h : file.read with
    | error e => simp [ih, h]
    | ok pair =>
      obtain ⟨c', more⟩ := pair
      simp [ih, h, eq_comm]

theorem contains_usesFor_add {c : Contribution} (h : c.NoUses) (model path : String) :
    ((add {} c).usesFor model).contains path = true ↔
      c.models.contains model = true ∧ path ∈ importsFor model c.imports := by
  rw [usesFor, model?_empty_add, SortedMap.contains_eq_isSome c.models]
  cases hsaid : c.models.get? model with
  | none => simp
  | some said => simp [Customisation.merge, default, h model said hsaid]

/-- The imports that a model takes over from what files contribute. -/
theorem contains_usesFor_ofContributions {l : List Contribution} (h : ∀ c ∈ l, c.NoUses)
    (model path : String) : ((ofContributions l).usesFor model).contains path = true ↔
      ∃ c ∈ l, c.models.contains model = true ∧ path ∈ importsFor model c.imports := by
  induction l using List.reverseRecOn with
  | nil => simp [ofContributions, usesFor, model?]
  | append_singleton l c ih =>
    obtain ⟨hl, hc⟩ := List.forall_mem_append.1 h
    have hsplit : ofContributions (l ++ [c]) = (ofContributions l).add c := by
      simp [ofContributions]
    rw [hsplit, usesFor_add, SortedSet.contains_union, Bool.or_eq_true, ih hl,
      contains_usesFor_add (hc c (by simp))]
    simp [or_and_right, exists_or]

/-- The imports that a model takes over are those that the files have for it. -/
theorem contains_usesFor_ofFiles (files : List SourceFile) (model path : String) :
    ((ofFiles files).1.usesFor model).contains path = true ↔
      ∃ file ∈ files, ∃ item, file.Offers model item ∧ item.text = path := by
  have hnone : ∀ c ∈ (read files).1, c.NoUses := by
    intro c hc
    obtain ⟨file, -, errors, hread⟩ := mem_read.1 hc
    obtain ⟨-, -, huses, -⟩ := SourceFile.items_of_read hread
    exact huses
  refine (contains_usesFor_ofContributions hnone model path).trans ⟨?_, ?_⟩
  · rintro ⟨c, hc, hspeaks, hpath⟩
    obtain ⟨file, hfile, errors, hread⟩ := mem_read.1 hc
    obtain ⟨items, hitems, -, himports⟩ := SourceFile.items_of_read hread
    obtain ⟨i, hi, rfl⟩ := List.mem_map.1 hpath
    obtain ⟨hi, hnames⟩ := List.mem_filter.1 hi
    rw [himports] at hi
    obtain ⟨item, hitem, hofItem⟩ := List.mem_filterMap.1 hi
    cases item with
    | use item =>
      obtain ⟨hportable, heq⟩ := Option.ite_none_left_eq_some.1 hofItem
      cases heq
      refine ⟨file, hfile, item, ⟨⟨items, hitems, hitem⟩, ⟨c, errors, hread, hspeaks⟩, ?_, ?_⟩, rfl⟩
      · simpa using hportable
      · simpa using hnames
    | _ => cases hofItem
  · rintro ⟨file, hfile, item, hoffers, rfl⟩
    obtain ⟨⟨items, hitems, hitem⟩, ⟨c, errors, hread, hspeaks⟩, hportable, hapart⟩ := hoffers
    obtain ⟨items', hitems', -, himports⟩ := SourceFile.items_of_read hread
    obtain rfl : items' = items := Except.ok.inj (hitems'.symm.trans hitems)
    have himport : ⟨item.text, item.tree.leafNames⟩ ∈ c.imports := by
      rw [himports]
      refine List.mem_filterMap.2 ⟨.use item, hitem, ?_⟩
      simp [Import.ofItem?, Import.ofUse?_eq, hportable]
    refine ⟨c, mem_read.2 ⟨file, hfile, errors, hread⟩, hspeaks, ?_⟩
    exact List.mem_map.2 ⟨_, List.mem_filter.2 ⟨himport, by simpa using hapart⟩, rfl⟩

end HandCode

end ContentModels
