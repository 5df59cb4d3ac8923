import ContentModels.Proofs.Source.Reads.Uses
import ContentModels.Proofs.Rendering.Imports

/-!
# Imports from the module that they stand in

An import whose path starts with `self` starts from the module that it stands in, and means
something else in the module of a model. Whether it does is judged by the start of its canonical
text. So plain paths are left out, but an import that opens with a brace, or gives the module itself
another name, is taken over with the leaves that start with `self`.

## Main definitions

* `Source.UseItem.leaves` — the full paths of the leaves of an import.
* `Source.UseItem.ReachesSelf` — imports with a leaf that starts with `self`.
* `Source.UseItem.hidesSelf` — those whose canonical text does not tell.

## Main statements

* `Source.UseItem.portable_iff_hidesSelf` — which imports from their own module are taken over.
* `Source.UseItem.eq_of_text_eq` — the canonical text tells the import.
* `Schema.self_imports` — the imports from their own module in the code of models.
-/

namespace ContentModels

namespace Source

/-! ## Leaves -/

mutual

/-- The full paths of the leaves. That of everything of a module ends in a star. -/
def UseTree.leaves : UseTree → List (List String)
  | .path word tree => tree.leaves.map (word :: ·)
  | .name word => [[word]]
  | .rename word _ => [[word]]
  | .glob => [["*"]]
  | .group items => UseTree.leavesAll items

/-- The full paths of the leaves of the trees between braces. -/
def UseTree.leavesAll : List UseTree → List (List String)
  | [] => []
  | tree :: rest => tree.leaves ++ UseTree.leavesAll rest

end

/-- Whether a path starts from the module that it stands in. -/
def startsWithSelf (path : List String) : Bool := path.head? == some "self"

namespace UseItem

/-- The full paths of the leaves of an import. Those of a rooted one start with the root. -/
def leaves (item : UseItem) : List (List String) :=
  if item.rooted then item.tree.leaves.map ("::" :: ·) else item.tree.leaves

/-- An import with a leaf in the module that it stands in. -/
def ReachesSelf (item : UseItem) : Prop := ∃ path ∈ item.leaves, startsWithSelf path = true

/-- Whether an import reaches into its own module without a text that starts with a path from there:
it renames the module, or opens with a brace. -/
def hidesSelf (item : UseItem) : Bool :=
  !item.rooted && match item.tree with
    | .rename word _ => word == "self"
    | .group items => (UseTree.leavesAll items).any startsWithSelf
    | _ => false

instance (item : UseItem) : Decidable item.ReachesSelf :=
  inferInstanceAs (Decidable (∃ path ∈ item.leaves, startsWithSelf path = true))

variable {item : UseItem}

theorem not_reachesSelf_of_rooted (h : item.rooted = true) : ¬item.ReachesSelf := by
  rintro ⟨path, hpath, hself⟩
  rw [leaves, if_pos h] at hpath
  obtain ⟨inner, -, rfl⟩ := List.mem_map.1 hpath
  cases hself

/-- An import that reaches into its own module is a plain path from there, unless it hides it. -/
theorem reachesSelf_cases (h : item.ReachesSelf) :
    item.tree = .name "self" ∨ (∃ tree, item.tree = .path "self" tree) ∨ item.hidesSelf = true := by
  have hrooted : item.rooted = false := Bool.eq_false_iff.2 fun h' => not_reachesSelf_of_rooted h' h
  obtain ⟨path, hpath, hself⟩ := h
  obtain ⟨rooted, tree⟩ := item
  obtain rfl : rooted = false := hrooted
  change path ∈ tree.leaves at hpath
  cases tree with
  | path word tree =>
    obtain ⟨inner, -, rfl⟩ := List.mem_map.1 hpath
    obtain rfl : word = "self" := by simpa [startsWithSelf] using hself
    exact .inr (.inl ⟨tree, rfl⟩)
  | name word =>
    obtain rfl : path = [word] := List.mem_singleton.1 hpath
    obtain rfl : word = "self" := by simpa [startsWithSelf] using hself
    exact .inl rfl
  | rename word newName =>
    obtain rfl : path = [word] := List.mem_singleton.1 hpath
    exact .inr (.inr (by simpa [startsWithSelf, hidesSelf] using hself))
  | glob =>
    obtain rfl : path = ["*"] := List.mem_singleton.1 hpath
    cases hself
  | group items => exact .inr (.inr (by simpa [hidesSelf] using ⟨path, hpath, hself⟩))

/-- What hides that it reaches into its own module does reach there. -/
theorem reachesSelf_of_hidesSelf (h : item.hidesSelf = true) : item.ReachesSelf := by
  obtain ⟨rooted, tree⟩ := item
  obtain ⟨hrooted, htree⟩ := Bool.and_eq_true_iff.1 h
  obtain rfl : rooted = false := by simpa using hrooted
  cases tree with
  | rename word newName =>
    exact ⟨[word], List.mem_singleton_self _, by simpa [startsWithSelf] using htree⟩
  | group items => simpa [ReachesSelf, leaves, UseTree.leaves] using htree
  | _ => cases htree

theorem opensWithSelf_eq_false_iff {path : String} : opensWithSelf path = false ↔
    path ≠ "self" ∧ ¬"self::".toList <+: path.toList := by
  rw [opensWithSelf, Bool.or_eq_false_iff, String.startsWith_string_eq_false_iff, beq_eq_false_iff_ne]

/-- The canonical text tells of a plain path from the module itself, and of no other import that
reaches there. -/
theorem portable_iff_hidesSelf (h : item.ReachesSelf) :
    opensWithSelf item.tree.render = false ↔ item.hidesSelf = true := by
  obtain ⟨rooted, tree⟩ := item
  rw [opensWithSelf_eq_false_iff]
  constructor
  · rintro ⟨hname, hpath⟩
    rcases reachesSelf_cases h with rfl | ⟨tree, rfl⟩ | hhides
    · exact absurd rfl hname
    · refine absurd ?_ hpath
      have hself : "self::".toList = "self".toList ++ "::".toList := by decide
      rw [hself, UseTree.render, String.toList_append, String.toList_append]
      exact List.prefix_append ..
    · exact hhides
  · intro hhides
    obtain ⟨-, htree⟩ := Bool.and_eq_true_iff.1 hhides
    cases tree with
    | rename word newName =>
      obtain rfl : word = "self" := by simpa using htree
      simp [UseTree.render, ← String.toList_inj]
    | group items => simp [UseTree.render, ← String.toList_inj]
    | _ => cases htree

/-- The canonical text tells the import. -/
theorem eq_of_text_eq {item' : UseItem} (h : item.tree.IsRead) (h' : item'.tree.IsRead)
    (text : item.text = item'.text) : item = item' := by
  have hback := h.items_eq
  rw [statement, text] at hback
  cases hback.symm.trans h'.items_eq
  rfl

end UseItem

end Source

open Source Rendering

/-! ## What is taken over -/

/-- A file has an import that a model takes over if it can stand in another module: the file says
something of the model, and the name of the model is not at the leaves of the import. -/
structure SourceFile.Writes (file : SourceFile) (model : String) (item : UseItem) : Prop where
  written : ∃ items, Source.items file.content = .ok items ∧ .use item ∈ items
  speaks : ∃ c errors, file.read = .ok (c, errors) ∧ c.models.contains model = true
  apart : model ∉ item.tree.leafNames

variable {file : SourceFile} {model path : String} {item : UseItem} {files : List SourceFile}

theorem SourceFile.offers_iff : file.Offers model item ↔
    file.Writes model item ∧ opensWithSelf item.tree.render = false :=
  ⟨fun h => ⟨⟨h.written, h.speaks, h.apart⟩, h.portable⟩,
    fun ⟨h, portable⟩ => ⟨h.written, h.speaks, portable, h.apart⟩⟩

theorem SourceFile.Writes.isRead (h : file.Writes model item) : item.tree.IsRead := by
  obtain ⟨items, hitems, hitem⟩ := h.written
  exact isRead_of_items hitems hitem

/-- Of the imports that reach into their own module, a model takes over those that hide it. -/
theorem HandCode.contains_usesFor_iff_hidesSelf (h : item.tree.IsRead)
    (reaches : item.ReachesSelf) :
    ((HandCode.ofFiles files).1.usesFor model).contains item.text = true ↔
      item.hidesSelf = true ∧ ∃ file ∈ files, file.Writes model item := by
  rw [contains_usesFor_ofFiles]
  constructor
  · rintro ⟨file, hfile, item', hoffers, htext⟩
    obtain ⟨hwrites, hportable⟩ := SourceFile.offers_iff.1 hoffers
    obtain rfl : item' = item := UseItem.eq_of_text_eq hwrites.isRead h htext
    exact ⟨(UseItem.portable_iff_hidesSelf reaches).1 hportable, file, hfile, hwrites⟩
  · rintro ⟨hhides, file, hfile, hwrites⟩
    have hportable := (UseItem.portable_iff_hidesSelf reaches).2 hhides
    exact ⟨file, hfile, item, SourceFile.offers_iff.2 ⟨hwrites, hportable⟩, rfl⟩

theorem isRead_runtimeItem : runtimeItem.tree.IsRead :=
  .path ⟨by decide, .inr (by decide)⟩ (.path ⟨by decide, .inl (by decide)⟩
    (.name ⟨by decide, .inl (by decide)⟩))

/-- What hand-authored files import is taken over as the text of one import. If this import reaches
into the module that it stands in, then it is one that renames this module or opens with a brace.
All such imports are taken over, by the code of every model that the file speaks of, and no
other import from `self` comes into the code of a model. -/
theorem Schema.self_imports (s : Schema) (files : List SourceFile) :
    (∀ model path, ((HandCode.ofFiles files).1.usesFor model).contains path = true →
      ∃ item : UseItem, item.tree.IsRead ∧ item.text = path ∧
        (item.ReachesSelf ↔ item.hidesSelf = true)) ∧
    ∀ item : UseItem, item.tree.IsRead → item.ReachesSelf →
      (∀ model, ((HandCode.ofFiles files).1.usesFor model).contains item.text = true ↔
        item.hidesSelf = true ∧ ∃ file ∈ files, file.Writes model item) ∧
      ∀ p ∈ (s.plan (HandCode.ofFiles files).1).plans, item.text ∈ Rendering.imports p ↔
        importsRuntimeName item.text = false ∧ item.hidesSelf = true ∧
          ∃ file ∈ files, file.Writes p.className item := by
  refine ⟨fun model path hpath => ?_, fun item h reaches => ⟨fun model => ?_, fun p hp => ?_⟩⟩
  · obtain ⟨file, -, item, hoffers, htext⟩ := (HandCode.contains_usesFor_ofFiles files model path).1 hpath
    obtain ⟨hwrites, hportable⟩ := SourceFile.offers_iff.1 hoffers
    refine ⟨item, hwrites.isRead, htext, fun reaches => ?_, UseItem.reachesSelf_of_hidesSelf⟩
    exact (UseItem.portable_iff_hidesSelf reaches).1 hportable
  · exact HandCode.contains_usesFor_iff_hidesSelf h reaches
  · rw [mem_imports, uses_of_mem_plans hp, HandCode.contains_usesFor_iff_hidesSelf h reaches]
    have hother : item.text ≠ runtimeImport := by
      intro htext
      obtain rfl : item = runtimeItem :=
        UseItem.eq_of_text_eq h isRead_runtimeItem (htext.trans text_runtimeItem.symm)
      exact absurd reaches (by decide)
    simp [hother]
    tauto

/-! ### An import between braces -/

/-- A file that extends a model, and imports a member of its own module. -/
def selfFile : SourceFile where
  path := ⟨"article.rs"⟩
  content := "use \x7bself::a\x7d;impl Article\x7b\x7d"

/-- The import of the file. -/
def selfItem : UseItem := ⟨false, .group [.path "self" (.name "a")]⟩

theorem tokenize_selfFile : ∃ p₁ p₂ p₃ p₄ p₅ p₆ p₇ p₈ p₉ p₁₀ p₁₁ p₁₂,
    tokenize selfFile.content.toList = .ok [.word "use" p₁,
      .group .brace [.word "self" p₂, .punct ':' true p₃, .punct ':' false p₄, .word "a" p₅] p₆ p₇,
      .punct ';' false p₈, .word "impl" p₉, .word "Article" p₁₀, .group .brace [] p₁₁ p₁₂] := by
  have hchars : selfFile.content.toList = "use".toList ++ ' ' :: '\x7b' :: ("self".toList ++ ':' :: ':' ::
      ("a".toList ++ '\x7d' :: ';' :: ("impl".toList ++ ' ' ::
        ("Article".toList ++ ['\x7b', '\x7d'])))) := by decide
  -- every token takes one step, the ends of groups and of the text as well
  obtain ⟨fuel, hfuel⟩ : ∃ fuel, selfFile.content.toList.length + 1 = fuel + 13 :=
    Nat.exists_eq_add_of_le' (by decide)
  refine ⟨?p₁, ?p₂, ?p₃, ?p₄, ?p₅, ?p₆, ?p₇, ?p₈, ?p₉, ?p₁₀, ?p₁₁, ?p₁₂, ?tokens⟩
  case tokens =>
    rw [tokenize, hfuel, hchars, Lexer.run_word (by decide) rfl, Lexer.run_gap rfl,
      Lexer.run_opening (c := '\x7b') rfl, Lexer.run_word (by decide) rfl,
      Lexer.run_punct (by decide) rfl, Lexer.run_punct (by decide) rfl,
      Lexer.run_word (by decide) rfl, Lexer.run_closing (c := '\x7d') rfl,
      Lexer.run_punct (by decide) rfl, Lexer.run_word (by decide) rfl, Lexer.run_gap rfl,
      Lexer.run_word (by decide) rfl, Lexer.run_opening (c := '\x7b') rfl,
      Lexer.run_closing (c := '\x7d') rfl, Lexer.run_end]
    rfl

theorem items_selfFile : Source.items selfFile.content =
    .ok [.use selfItem, .members (some "Article") []] := by
  obtain ⟨p₁, p₂, p₃, p₄, p₅, p₆, p₇, p₈, p₉, p₁₀, p₁₁, p₁₂, htokens⟩ := tokenize_selfFile
  have hwhole : withoutByteOrderMark (withoutInterpreter (withoutByteOrderMark
      selfFile.content.toList)) = selfFile.content.toList := by
    decide
  rw [Source.items, hwhole, htokens]
  rfl

/-- What the file contributes. -/
def selfContribution : Contribution :=
  Contribution.customise { path := selfFile.path, imports := [⟨selfItem.text, ["a"]⟩] } "Article" id

theorem portable_selfItem : opensWithSelf selfItem.tree.render = false :=
  (UseItem.portable_iff_hidesSelf (by decide)).2 (by decide)

theorem read_selfFile : selfFile.read = .ok (selfContribution, []) := by
  simp only [SourceFile.read, items_selfFile, Contribution.addItems, Contribution.addItem,
    Import.ofUse?_eq, portable_selfItem]
  rfl

theorem writes_selfFile : selfFile.Writes "Article" selfItem where
  written := ⟨_, items_selfFile, List.mem_cons_self⟩
  speaks := ⟨_, _, read_selfFile, by decide⟩
  apart := by decide

/-- The plan of the type. -/
def selfPlan : Plan where
  handle := "article"
  className := "Article"
  uses := SortedSet.ofList [selfItem.text]

theorem selfPlan_mem_plans : selfPlan ∈ (articles.plan (HandCode.ofFiles [selfFile]).1).plans := by
  rw [HandCode.ofFiles_singleton read_selfFile]
  change selfPlan ∈ (Planning.add {} articles (HandCode.ofContributions [selfContribution])
    articlesType).result.plans
  simp only [Planning.add, Planning.addNamed, Schema.planType, compose_articlesType]
  decide

/-- The import is in the code of the model. -/
theorem Schema.self_imports_group : selfItem.text = "\x7bself::a\x7d" ∧ selfItem.ReachesSelf ∧
    selfPlan ∈ (articles.plan (HandCode.ofFiles [selfFile]).1).plans ∧
    selfItem.text ∈ Rendering.imports selfPlan := by
  have reaches : selfItem.ReachesSelf := by decide
  have hkept : importsRuntimeName selfItem.text = false := by
    rw [Bool.eq_false_iff, Ne, importsRuntimeName_iff]
    decide
  obtain ⟨-, hself⟩ := Schema.self_imports articles [selfFile]
  obtain ⟨-, himports⟩ := hself selfItem writes_selfFile.isRead reaches
  refine ⟨by decide, reaches, selfPlan_mem_plans, ?_⟩
  rw [himports selfPlan selfPlan_mem_plans]
  exact ⟨hkept, by decide, selfFile, List.mem_cons_self, writes_selfFile⟩

end ContentModels
