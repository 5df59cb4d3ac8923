import ContentModels.Proofs.HandFile.Imports
import ContentModels.Proofs.Naming.FileNames
import ContentModels.Proofs.Plan.OneType
import ContentModels.Proofs.Source.Lexing

/-!
# Imports of generated code

The code of a model imports the type of the runtime, and what hand-authored files import that say
something of the model. Imports that have the name of the model at a leaf are left out, and so are
paths to the name of the runtime's type. What an import binds without a leaf of that name is
overlooked, and so is the name of the runtime's type between braces, behind `as`, or as a raw or
bare identifier.

## Main definitions

* `Rendering.runtimeItem` — the import of the runtime's type.
* `Rendering.Declares` — the import that a text in generated code was taken from.

## Main statements

* `Rendering.mem_imports` — the texts that are written.
* `Schema.bound_imports` — the names that the imports of a model bind.
-/

namespace ContentModels

open Source

/-- A plan takes over the imports that hand-authored code has for its model. -/
theorem Schema.planType_uses {s : Schema} {code : HandCode} {t : s.Member} {p : Plan}
    {warnings : List Diagnostic} (h : s.planType code t = .ok (p, warnings)) :
    p.uses = code.usesFor p.className := by
  obtain ⟨c, -, h⟩ := Except.bind_ok_iff.1 h
  obtain ⟨choices, -, h⟩ := Except.bind_ok_iff.1 h
  cases h
  rfl

theorem Schema.uses_of_mem_plans {s : Schema} {code : HandCode} {p : Plan}
    (h : p ∈ (s.plan code).plans) : p.uses = code.usesFor p.className := by
  obtain ⟨t, q, warnings, planned, -, hok, rfl⟩ := exists_planType_of_mem_plans h
  have huses : q.uses = code.usesFor q.className := planType_uses hok
  exact huses

namespace Rendering

/-- The name of the runtime's type. -/
def contentName : String := "PublishedContent"

/-- The import of the runtime's type. -/
def runtimeItem : UseItem := ⟨false, .path "super" (.path "runtime" (.name contentName))⟩

theorem text_runtimeItem : runtimeItem.text = runtimeImport := by decide

theorem bound_runtimeItem : runtimeItem.bound = [contentName] := by decide

theorem isName_of_isIdentifier {name : String} (h : Naming.isIdentifier name = true) :
    IsName name := by
  obtain ⟨hplain, -, -, hlone, hkeyword⟩ := (Naming.isIdentifier_iff name).1 h
  constructor
  case plain =>
    rw [plainWord, if_neg]
    intro hmark
    have hmem : '#' ∈ name.toList := (List.isPrefixOf_iff_prefix.1 hmark).subset (by decide)
    exact hplain.notMem (by decide) hmem
  case self =>
    rintro rfl
    exact absurd hkeyword (by decide)
  case blank => exact hlone

/-- The import that a text in the code of a model stands for: that of the runtime's type, or one
that a hand-authored file has for the model. -/
inductive Declares (files : List SourceFile) (model : String) : String → UseItem → Prop
  | runtime : Declares files model runtimeImport runtimeItem
  | taken {path : String} {file : SourceFile} {item : UseItem} (hfile : file ∈ files)
      (offers : file.Offers model item) (text : item.text = path) (other : path ≠ runtimeImport) :
      Declares files model path item

/-! ## What is written -/

theorem mem_imports {p : Plan} {path : String} : path ∈ imports p ↔
    path = runtimeImport ∨ p.uses.contains path = true ∧ importsRuntimeName path = false := by
  rw [imports, SortedSet.mem_toList, SortedSet.contains_addAll, Bool.or_eq_true, List.any_eq_true,
    ← SortedSet.mem_toList, SortedSet.mem_toList_ofList, List.mem_singleton]
  simp [SortedSet.mem_toList]

theorem nodup_imports (p : Plan) : (imports p).Nodup := SortedSet.nodup_toList _

theorem importsRuntimeName_iff {path : String} : importsRuntimeName path = true ↔
    "::PublishedContent".toList <:+ path.toList ∧ path ≠ runtimeImport := by
  have hends : path.endsWith "::PublishedContent" = true ↔
      "::PublishedContent".toList <:+ path.toList := by
    have hslice : path.toSlice.endsWith "::PublishedContent" = true ↔
        "::PublishedContent".toList <:+ path.toSlice.copy.toList := String.Slice.endsWith_string_iff
    rwa [String.copy_toSlice] at hslice
  rw [importsRuntimeName, Bool.and_eq_true, hends, bne_iff_ne]

theorem suffix_of_endsIn {name : String} {tree : UseTree} (h : tree.endsIn name = true) :
    ("::" ++ name).toList <:+ tree.render.toList := by
  fun_induction UseTree.endsIn name tree with
  | case1 segment word =>
    obtain rfl : word = name := by simpa using h
    simp only [UseTree.render, String.append_assoc, String.toList_append]
    exact List.suffix_append ..
  | case2 segment tree _ ih =>
    simp only [UseTree.render, String.append_assoc, String.toList_append] at ih ⊢
    exact (ih h).trans ((List.suffix_append ..).trans (List.suffix_append ..))
  | case3 => cases h

/-- A path to the name of the runtime's type, other than the runtime's own, is left out. -/
theorem importsRuntimeName_of_endsIn {item : UseItem} (h : item.endsIn contentName = true)
    (other : item.text ≠ runtimeImport) : importsRuntimeName item.text = true := by
  refine importsRuntimeName_iff.2 ⟨?_, other⟩
  have hname : "::PublishedContent" = "::" ++ contentName := by decide
  rw [hname]
  unfold UseItem.endsIn at h
  split at h
  · next word htree =>
    obtain ⟨hrooted, rfl⟩ : item.rooted = true ∧ word = contentName := by simpa using h
    rw [UseItem.text, if_pos hrooted, htree]
    exact List.suffix_rfl
  · have hsuffix := suffix_of_endsIn h
    rw [UseItem.text]
    split
    · rw [String.toList_append (s := "::") (t := item.tree.render)]
      exact hsuffix.trans (List.suffix_append ..)
    · exact hsuffix

variable {files : List SourceFile} {model path : String} {item : UseItem}

theorem Declares.eq_runtimeItem (h : Declares files model runtimeImport item) : item = runtimeItem := by
  cases h with
  | runtime => rfl
  | taken _ _ _ other => exact absurd rfl other

theorem Declares.text_eq (h : Declares files model path item) : item.text = path := by
  cases h with
  | runtime => exact text_runtimeItem
  | taken _ _ text => exact text

theorem Declares.eq_runtimeItem_iff (h : Declares files model path item) :
    item = runtimeItem ↔ path = runtimeImport := by
  constructor
  · rintro rfl
    exact h.text_eq.symm.trans text_runtimeItem
  · rintro rfl
    exact h.eq_runtimeItem

/-- An import that is taken over has the name of the model at no leaf, so that it binds it only if
it hides it. -/
theorem Declares.mem_bound (h : Declares files model path item) (hname : IsName model)
    (hbound : model ∈ item.bound) : model = contentName ∨ model ∈ item.hidden := by
  cases h with
  | runtime =>
    rw [bound_runtimeItem, List.mem_singleton] at hbound
    exact .inl hbound
  | taken _ offers _ _ => exact .inr (((UseItem.mem_bound_iff hname).1 hbound).resolve_left offers.apart)

theorem exists_of_mem {paths : List String} {items : List UseItem}
    (h : List.Forall₂ (Declares files model) paths items) (hitem : item ∈ items) :
    ∃ path ∈ paths, Declares files model path item := by
  induction h with
  | nil => cases hitem
  | cons hfirst _ ih =>
    rcases List.mem_cons.1 hitem with rfl | hitem
    · exact ⟨_, List.mem_cons_self, hfirst⟩
    · obtain ⟨path, hpath, hdeclares⟩ := ih hitem
      exact ⟨path, List.mem_cons_of_mem _ hpath, hdeclares⟩

/-- The imports in the code of a model, with that of the runtime's type among them. -/
theorem exists_split {paths : List String} {items : List UseItem} (hmem : runtimeImport ∈ paths)
    (hnodup : paths.Nodup) (h : List.Forall₂ (Declares files model) paths items) :
    ∃ before after, items = before ++ runtimeItem :: after ∧
      ∀ item ∈ before ++ after, item ≠ runtimeItem := by
  induction h with
  | nil => cases hmem
  | @cons path item paths items hitem hitems ih =>
    obtain ⟨hnew, hnodup⟩ := List.nodup_cons.1 hnodup
    by_cases heq : path = runtimeImport
    · refine ⟨[], items, ?_, fun other hother => ?_⟩
      · rw [hitem.eq_runtimeItem_iff.2 heq, List.nil_append]
      obtain ⟨path', hpath', hdeclares⟩ := exists_of_mem hitems hother
      rw [Ne, hdeclares.eq_runtimeItem_iff]
      rintro rfl
      exact hnew (heq ▸ hpath')
    · have hrest := (List.mem_cons.1 hmem).resolve_left (Ne.symm heq)
      obtain ⟨before, after, rfl, hothers⟩ := ih hrest hnodup
      refine ⟨item :: before, after, rfl, List.forall_mem_cons.2 ⟨?_, hothers⟩⟩
      rwa [Ne, hitem.eq_runtimeItem_iff]

end Rendering

open Rendering

/-- The names that the imports of a model bind. The texts that are written are the import of the
runtime's type and those that hand-authored files have for the model, but for paths to the name of
that type. However they are read as imports, the name of the model is bound if and only if it is
that of the runtime's type or an import hides it, and the name of the runtime's type is bound once
if and only if no other import binds it. -/
theorem Schema.bound_imports (s : Schema) (files : List SourceFile) (p : Plan)
    (h : p ∈ (s.plan (HandCode.ofFiles files).1).plans) :
    (∀ path, path ∈ Rendering.imports p ↔
        importsRuntimeName path = false ∧ ∃ item, Declares files p.className path item) ∧
      ∀ items, List.Forall₂ (Declares files p.className) (Rendering.imports p) items →
        (p.className ∈ items.flatMap UseItem.bound ↔
            p.className = contentName ∨ ∃ item ∈ items, p.className ∈ item.hidden) ∧
          ((items.flatMap UseItem.bound).count contentName = 1 ↔
            ∀ item ∈ items, item = runtimeItem ∨ contentName ∉ item.bound) ∧
          ∀ item ∈ items, item = runtimeItem ∨ item.endsIn contentName = false := by
  have hname := isName_of_isIdentifier (isIdentifier_className h)
  have hwritten (path : String) : path ∈ Rendering.imports p ↔
      importsRuntimeName path = false ∧ ∃ item, Declares files p.className path item := by
    rw [mem_imports, uses_of_mem_plans h, HandCode.contains_usesFor_ofFiles]
    constructor
    · rintro (rfl | ⟨⟨file, hfile, item, hoffers, rfl⟩, hother⟩)
      · exact ⟨Bool.eq_false_iff.2 fun h => (importsRuntimeName_iff.1 h).2 rfl, runtimeItem, .runtime⟩
      · by_cases heq : item.text = runtimeImport
        · exact ⟨hother, runtimeItem, heq ▸ .runtime⟩
        · exact ⟨hother, item, .taken hfile hoffers rfl heq⟩
    · rintro ⟨hother, item, hdeclares⟩
      cases hdeclares with
      | runtime => exact .inl rfl
      | taken hfile hoffers htext _ => exact .inr ⟨⟨_, hfile, item, hoffers, htext⟩, hother⟩
  refine ⟨hwritten, fun items hitems => ?_⟩
  have hruntime : runtimeImport ∈ Rendering.imports p := mem_imports.2 (.inl rfl)
  obtain ⟨before, after, rfl, hothers⟩ := exists_split hruntime (nodup_imports p) hitems
  refine ⟨⟨?_, ?_⟩, ?_, ?_⟩
  · intro hbound
    obtain ⟨item, hitem, hbound⟩ := List.mem_flatMap.1 hbound
    obtain ⟨path, -, hdeclares⟩ := exists_of_mem hitems hitem
    exact (hdeclares.mem_bound hname hbound).imp_right fun hhidden => ⟨item, hitem, hhidden⟩
  · rintro (heq | ⟨item, hitem, hhidden⟩)
    · refine List.mem_flatMap.2 ⟨runtimeItem, by simp, ?_⟩
      rw [bound_runtimeItem, heq]
      exact List.mem_singleton_self _
    · exact List.mem_flatMap.2 ⟨item, hitem, (UseItem.mem_bound_iff hname).2 (.inr hhidden)⟩
  · have hcount : ((before ++ runtimeItem :: after).flatMap UseItem.bound).count contentName =
        ((before ++ after).flatMap UseItem.bound).count contentName + 1 := by
      simp only [List.flatMap_append, List.flatMap_cons, List.count_append, bound_runtimeItem,
        List.count_singleton_self]
      omega
    rw [hcount, Nat.add_eq_right, List.count_eq_zero, List.mem_flatMap]
    constructor
    · intro hnone item hitem
      by_cases heq : item = runtimeItem
      · exact .inl heq
      · exact .inr fun hbound => hnone ⟨item, by simpa [heq] using hitem, hbound⟩
    · rintro hall ⟨item, hitem, hbound⟩
      have hmem : item ∈ before ++ runtimeItem :: after := by
        simp only [List.mem_append, List.mem_cons] at hitem ⊢
        grind
      exact (hall item hmem).elim (hothers item hitem) fun hnot => hnot hbound
  · intro item hitem
    obtain ⟨path, hpath, hdeclares⟩ := exists_of_mem hitems hitem
    by_cases heq : item = runtimeItem
    · exact .inl heq
    · refine .inr (Bool.eq_false_iff.2 fun hends => ?_)
      have hother := ((hwritten path).1 hpath).1
      have htext := hdeclares.text_eq
      rw [hdeclares.eq_runtimeItem_iff] at heq
      rw [← htext, importsRuntimeName_of_endsIn hends (htext ▸ heq)] at hother
      cases hother

/-! ### An import that hides the name of a model -/

/-- A type with the name of what a file imports. -/
def articles : Schema where
  types := [{ handle := "article", name := some "Article" }]

/-- The type of `articles`. -/
def articlesType : articles.Member := ⟨articles.types[0], by simp [articles]⟩

theorem compose_articlesType :
    articles.compose articlesType [] = .ok ⟨Schema.ownDeclarations articlesType.1, []⟩ :=
  Schema.compose_of_alone rfl rfl rfl

/-- A file that extends the model, and imports a module of its name. -/
def articleFile : SourceFile where
  path := ⟨"article.rs"⟩
  content := "use other::Article::\x7bself\x7d;impl Article\x7b\x7d"

/-- The import of the file. -/
def articleItem : UseItem := ⟨false, .path "other" (.path "Article" (.group [.name "self"]))⟩

/-- What the file contributes. -/
def articleContribution : Contribution :=
  Contribution.customise { path := articleFile.path, imports := [⟨articleItem.text, ["self"]⟩] }
    "Article" id

/-- The plan of the type. -/
def articlePlan : Plan where
  handle := "article"
  className := "Article"
  uses := SortedSet.ofList [articleItem.text]

theorem tokenize_articleFile : ∃ p₁ p₂ p₃ p₄ p₅ p₆ p₇ p₈ p₉ p₁₀ p₁₁ p₁₂ p₁₃ p₁₄ p₁₅,
    tokenize articleFile.content.toList = .ok [.word "use" p₁, .word "other" p₂, .punct ':' true p₃,
      .punct ':' false p₄, .word "Article" p₅, .punct ':' true p₆, .punct ':' false p₇,
      .group .brace [.word "self" p₈] p₉ p₁₀, .punct ';' false p₁₁, .word "impl" p₁₂,
      .word "Article" p₁₃, .group .brace [] p₁₄ p₁₅] := by
  have hchars : articleFile.content.toList = "use".toList ++ ' ' :: ("other".toList ++ ':' :: ':' ::
      ("Article".toList ++ ':' :: ':' :: '\x7b' :: ("self".toList ++ '\x7d' :: ';' ::
        ("impl".toList ++ ' ' :: ("Article".toList ++ ['\x7b', '\x7d']))))) := by decide
  -- every token takes one step, the ends of groups and of the text as well
  obtain ⟨fuel, hfuel⟩ : ∃ fuel, articleFile.content.toList.length + 1 = fuel + 16 :=
    Nat.exists_eq_add_of_le' (by decide)
  refine ⟨?p₁, ?p₂, ?p₃, ?p₄, ?p₅, ?p₆, ?p₇, ?p₈, ?p₉, ?p₁₀, ?p₁₁, ?p₁₂, ?p₁₃, ?p₁₄, ?p₁₅, ?tokens⟩
  case tokens =>
    rw [tokenize, hfuel, hchars, Lexer.run_word (by decide) rfl, Lexer.run_gap rfl,
      Lexer.run_word (by decide) rfl, Lexer.run_punct (by decide) rfl,
      Lexer.run_punct (by decide) rfl, Lexer.run_word (by decide) rfl,
      Lexer.run_punct (by decide) rfl, Lexer.run_punct (by decide) rfl,
      Lexer.run_opening (c := '\x7b') rfl, Lexer.run_word (by decide) rfl,
      Lexer.run_closing (c := '\x7d') rfl, Lexer.run_punct (by decide) rfl,
      Lexer.run_word (by decide) rfl, Lexer.run_gap rfl, Lexer.run_word (by decide) rfl,
      Lexer.run_opening (c := '\x7b') rfl, Lexer.run_closing (c := '\x7d') rfl, Lexer.run_end]
    rfl

theorem items_articleFile : Source.items articleFile.content =
    .ok [.use articleItem, .members (some "Article") []] := by
  obtain ⟨p₁, p₂, p₃, p₄, p₅, p₆, p₇, p₈, p₉, p₁₀, p₁₁, p₁₂, p₁₃, p₁₄, p₁₅, htokens⟩ :=
    tokenize_articleFile
  have hwhole : withoutByteOrderMark (withoutInterpreter (withoutByteOrderMark
      articleFile.content.toList)) = articleFile.content.toList := by
    decide
  rw [Source.items, hwhole, htokens]
  rfl

theorem portable_articleItem : opensWithSelf articleItem.tree.render = false := by
  rw [opensWithSelf, Bool.or_eq_false_iff, String.startsWith_string_eq_false_iff]
  decide

theorem read_articleFile : articleFile.read = .ok (articleContribution, []) := by
  simp only [SourceFile.read, items_articleFile, Contribution.addItems, Contribution.addItem,
    Import.ofUse?_eq, portable_articleItem]
  rfl

theorem offers_articleFile : articleFile.Offers "Article" articleItem where
  written := ⟨_, items_articleFile, List.mem_cons_self⟩
  speaks := ⟨_, _, read_articleFile, by decide⟩
  portable := portable_articleItem
  apart := by decide

theorem articlePlan_mem_plans :
    articlePlan ∈ (articles.plan (HandCode.ofFiles [articleFile]).1).plans := by
  rw [HandCode.ofFiles_singleton read_articleFile]
  change articlePlan ∈ (Planning.add {} articles (HandCode.ofContributions [articleContribution])
    articlesType).result.plans
  simp only [Planning.add, Planning.addNamed, Schema.planType, compose_articlesType]
  decide

theorem imports_articlePlan : Rendering.imports articlePlan = [articleItem.text, runtimeImport] := by
  have hkept : importsRuntimeName articleItem.text = false := by
    rw [Bool.eq_false_iff, Ne, importsRuntimeName_iff]
    decide
  have huses : SortedSet.toList articlePlan.uses = [articleItem.text] := by decide
  rw [Rendering.imports, huses, List.filter_cons_of_pos (by simp [hkept]), List.filter_nil]
  decide

/-- The name of the model is bound by an import of its code. -/
theorem Schema.bound_imports_articles :
    articlePlan ∈ (articles.plan (HandCode.ofFiles [articleFile]).1).plans ∧
      List.Forall₂ (Declares [articleFile] "Article") (Rendering.imports articlePlan)
        [articleItem, runtimeItem] ∧
      "Article" ∈ [articleItem, runtimeItem].flatMap UseItem.bound := by
  have hdeclares : List.Forall₂ (Declares [articleFile] "Article") (Rendering.imports articlePlan)
      [articleItem, runtimeItem] := by
    rw [imports_articlePlan]
    exact .cons (.taken List.mem_cons_self offers_articleFile rfl (by decide)) (.cons .runtime .nil)
  refine ⟨articlePlan_mem_plans, hdeclares, ?_⟩
  have hbound := (Schema.bound_imports articles [articleFile] articlePlan articlePlan_mem_plans).2
    [articleItem, runtimeItem] hdeclares
  exact hbound.1.2 (.inr ⟨articleItem, List.mem_cons_self, by decide⟩)

end ContentModels
