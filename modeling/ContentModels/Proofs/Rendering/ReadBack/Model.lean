import ContentModels.Proofs.HandFile.Suppression
import ContentModels.Proofs.Rendering.ReadBack.Accessors
import ContentModels.Proofs.Rendering.ReadBack.Conversions
import ContentModels.Proofs.Rendering.SelfImports

/-!
# Generated models are read back

A generated file is read as a hand-authored one: it declares the type of its model with the members
that the model has, and it has the imports that were written. The conversions add nothing.

## Main definitions

* `Import.IsRecorded` — a text that is recorded of an import of some file.
* `Plan.IsWritable` — a plan of names, types and imports that a source text can hold.
* `Plan.members` — the members that a generated file declares.

## Main statements

* `Plan.items_render` — the items of a generated file.
* `Plan.read_render` — what a generated file says.
-/

namespace ContentModels

open Source Source.Parser Source.Lexer Source.Grammar Rendering Text

/-- A text that is recorded of an import of some file. -/
def Import.IsRecorded (path : String) : Prop :=
  ∃ content items item i, Source.items content = .ok items ∧ .use item ∈ items ∧
    Import.ofUse? item = some i ∧ i.path = path

/-- A plan of names, types and imports that a source text can hold, for a namespace. -/
structure Plan.IsWritable (p : Plan) (space : String) : Prop where
  space : StaysOnLine space
  handle : StaysOnLine p.handle
  className : IsSourceName p.className
  properties : ∀ q ∈ p.properties, StaysOnLine q.handle ∧ IsSourceName q.localName ∧
    IsTypeText q.valueType
  uses : ∀ path, p.uses.contains path = true → Import.IsRecorded path

/-- The members that the file of a model declares. -/
def Plan.members (p : Plan) : List String :=
  ["CONTENT_TYPE_ALIAS", "IS_ELEMENT", "BASE_TYPE", "MIXINS", "new", "content"] ++
    p.properties.map (·.localName)

namespace Rendering

variable {X : List Char} {p : Plan} {space name : String} {l : List UseItem}

/-- The names of generated code are names of any source text. -/
theorem isSourceName_of_isIdentifier (h : Naming.isIdentifier name = true) : IsSourceName name where
  isAnyWord := by
    have hleaf : leaf {} (name.toList ++ []) = some (.word name {}, []) :=
      leaf_word (.of_isIdentifier h) rfl {}
    obtain ⟨t, -, hlike⟩ := leaf_like hleaf {}
    cases hlike with
    | word _ _ hword => exact hword
  usable := isUsableIdent_of_isIdentifier h

/-! ## The start of the file -/

/-- The lines before the items. -/
def startLines (space : String) : List String := header ++ ["", namespaceLine space, ""]

/-- What the comment of the namespace says. -/
def spaceComment (space : String) : String := " Models of the `" ++ space ++ "` namespace."

theorem isDocText_spaceComment (h : StaysOnLine space) : IsDocText (spaceComment space) := by
  have hopening : IsDocText " Models of the `" := by decide
  exact (hopening.append h).append (by decide)

/-- Whether a line is a plain comment. -/
def isComment : List Char → Bool
  | '/' :: '/' :: text =>
    decide (('\n' ∉ text ∧ '\r' ∉ text) ∧ text.head? ≠ some '/' ∧ text.head? ≠ some '!')
  | _ => false

theorem lexes_comment {line : List Char} (h : isComment line = true) :
    Lexes (line ++ ['\n']) [] X := by
  unfold isComment at h
  split at h
  · next text =>
    obtain ⟨hbreaks, hstart⟩ := of_decide_eq_true h
    have hend : Lexes ['\n'] [] X := .gaps rfl
    exact (Lexes.lineComment hbreaks hstart).append hend
  · cases h

theorem lexes_comments {l : List String} (h : ∀ line ∈ l, isComment line.toList = true) :
    Lexes (lines l).toList [] X := by
  rw [toList_lines]
  induction l with
  | nil => exact .nil
  | cons line l ih =>
    obtain ⟨hline, hl⟩ := List.forall_mem_cons.1 h
    exact (lexes_comment hline).append (ih hl)

theorem lexes_header : Lexes (lines header).toList [] X :=
  lexes_comments (List.all_eq_true.1 (by decide))

theorem lexes_start (h : StaysOnLine space) :
    Lexes (lines (startLines space)).toList (docAttribute (spaceComment space).toList true {}) X := by
  have hopening : "//! Models of the `" = "//!" ++ " Models of the `" := rfl
  have hslashes : "//!".toList = docStart true := rfl
  have htext : (lines (startLines space)).toList = (lines header).toList ++ (['\n'] ++
      ((docStart true ++ (spaceComment space).toList) ++ ['\n', '\n'])) := by
    rw [startLines, lines_append, String.toList_append, toList_lines ["", _, _]]
    unfold spaceComment
    simp only [namespaceLine_eq, hopening, List.flatMap_cons, List.flatMap_nil, String.toList_append,
      String.toList_empty, hslashes, List.append_assoc, List.cons_append, List.nil_append,
      List.append_nil]
  have hall : Lexes (lines (startLines space)).toList
      ([] ++ ([] ++ (docAttribute (spaceComment space).toList true {} ++ []))) X := by
    rw [htext]
    exact lexes_header.append <| .append (.gaps rfl) <|
      .append ((isDocText_spaceComment h).lexes true) (.gaps rfl)
  simpa using hall

/-! ## Imports -/

theorem readBack_use {item : UseItem} (h : item.tree.IsRead) :
    ReadBack itemProduction (item.statement.toList ++ ['\n']) [.use item] X := by
  have hlexes : Lexes item.statement.toList item.tokens ('\n' :: X) := by
    rw [UseItem.toList_statement]
    exact UseItem.lexes h (opensPunct_of_notMem (by decide) (by decide))
  have hbreak : Lexes ['\n'] [] X := .gaps rfl
  have hline : Lexes (item.statement.toList ++ ['\n']) item.tokens X := by
    simpa using hlexes.append hbreak
  exact .of_lexes hline (List.cons_ne_nil _ _) fun m hm rest => UseItem.reads h (by omega)

theorem readBack_uses (h : ∀ item ∈ l, item.tree.IsRead) :
    ReadBack itemProduction (lines (l.map UseItem.statement)).toList (l.map .use) X := by
  rw [toList_lines, List.flatMap_map]
  exact .flatMap fun item hitem X => readBack_use (h item hitem)

/-! ## The members -/

theorem toList_lines_flatMap {α : Type} (l : List α) (f : α → List String) :
    (lines (l.flatMap f)).toList = l.flatMap fun e => (lines (f e)).toList := by
  simp only [toList_lines, List.flatMap_assoc]

theorem readBack_blank {α : Type} {production : Nat → Parser α} :
    ReadBack production (lines [""]).toList [] X :=
  .of_empty (.gaps rfl)

/-- The lines between the brackets of the `impl`. -/
def memberLines (p : Plan) : List String :=
  constants p ++ ([""] ++ (ownMembers ++ p.properties.flatMap accessorLines))

theorem readBack_members (h : p.IsWritable space) :
    ReadBack memberProduction (lines (memberLines p)).toList (p.members.map some) X := by
  have hproperties : p.members.map some =
      [some "CONTENT_TYPE_ALIAS", some "IS_ELEMENT", some "BASE_TYPE", some "MIXINS"] ++
        ([] ++ ([some "new", some "content"] ++ p.properties.map fun q => some q.localName)) := by
    simp [Plan.members]
  simp only [memberLines, lines_append, String.toList_append, hproperties]
  refine (readBack_constants p).append (readBack_blank.append (readBack_ownMembers.append ?_))
  rw [toList_lines_flatMap]
  refine .flatMap fun q hq X => ?_
  obtain ⟨hhandle, hname, htype⟩ := h.properties q hq
  exact readBack_accessor hname hhandle htype

theorem readBack_impl {body : List String} {names : List (Option String)}
    (hname : IsSourceName name)
    (h : ∀ X, ReadBack memberProduction (lines body).toList names X) :
    ReadBack itemProduction (lines (["impl " ++ name ++ open_] ++ (body ++ [close]))).toList
      [.members (some name) (names.filterMap id)] X := by
  obtain ⟨tss, hbody, hread⟩ := h ('\x7d' :: (['\n'] ++ X))
  have himpl : "impl " = "impl" ++ " " := rfl
  have htext : (lines (["impl " ++ name ++ open_] ++ (body ++ [close]))).toList =
      ("impl".toList ++ [' ']) ++ (name.toList ++ ([' '] ++
        (('\x7b' :: ((['\n'] ++ (lines body).toList) ++ ['\x7d'])) ++ ['\n']))) := by
    rw [lines_append, lines_append, String.toList_append, String.toList_append, toList_lines [_],
      toList_lines [close]]
    simp only [himpl, List.flatMap_cons, List.flatMap_nil, String.toList_append, toList_space,
      toList_open, toList_close, List.append_assoc, List.cons_append, List.nil_append,
      List.append_nil]
  have hbreak (X : List Char) : Lexes ['\n'] [] X := .gaps rfl
  have hlexes : Lexes (lines (["impl " ++ name ++ open_] ++ (body ++ [close]))).toList
      ([Token.word "impl" {}] ++ ([Token.word name {}] ++ ([] ++
        ([Token.group .brace ([] ++ tss.flatten) {} {}] ++ [])))) X := by
    rw [htext]
    exact .append (.fixed_space (by rfl)) <| .append (hname.lexes (by decide)) <|
      .append lexes_space <| .append (.group rfl rfl (.append (hbreak _) hbody)) (hbreak X)
  simp only [List.nil_append, List.append_nil, List.singleton_append] at hlexes
  refine .of_lexes hlexes (List.cons_ne_nil _ _) fun m hm rest => ?_
  simp only [Token.listSize, Token.size] at hm
  have hpieces := hread (m + 7) (by omega)
  refine item_impl hname.usable (fun scope => untilEnd_eq scope hpieces) ?_
  cases hpieces with
  | nil => rfl
  | cons hfirst => exact opensInner_of_implItem (hfirst.2 _ {})

/-! ## The items -/

/-- The lines of the items that every model has, behind its imports. -/
def ownLines (p : Plan) : List String :=
  [""] ++ (declaration p ++ ([""] ++ ((["impl " ++ p.className ++ open_] ++
    (memberLines p ++ [close])) ++ ([""] ++ (fromContent p.className ++ ([""] ++
      toContent p.className))))))

/-- The lines of the conversions to models of the base and the mixins. -/
def referenceLines (p : Plan) : List String := p.references.flatMap (conversion p.className)

theorem modelLines_eq (himports : l.map UseItem.text = imports p) : modelLines p space =
    startLines space ++ (l.map UseItem.statement ++ (ownLines p ++ referenceLines p)) := by
  have huses : (imports p).map (fun path => "use " ++ path ++ ";") = l.map UseItem.statement := by
    rw [← himports, List.map_map]
    rfl
  simp only [modelLines, huses, startLines, ownLines, memberLines, referenceLines, List.append_assoc,
    List.cons_append, List.nil_append]

/-- The items that every model has, behind its imports. -/
def ownItems (p : Plan) : List Item :=
  [.declaration p.className, .members (some p.className) p.members, .other, .other]

theorem readBack_own (h : p.IsWritable space) :
    ReadBack itemProduction (lines (ownLines p)).toList (ownItems p) X := by
  have himpl (X : List Char) : ReadBack itemProduction
      (lines (["impl " ++ p.className ++ open_] ++ (memberLines p ++ [close]))).toList
      [.members (some p.className) p.members] X := by
    have hread := readBack_impl (X := X) h.className fun X => readBack_members (X := X) h
    have hall : (p.members.map some).filterMap id = p.members := by
      rw [List.filterMap_map]
      exact List.filterMap_some
    rwa [hall] at hread
  rw [ownLines]
  simp only [lines_append, String.toList_append]
  simp only [lines_append, String.toList_append] at himpl
  exact readBack_blank.append <| (readBack_declaration h.className h.handle).append <|
    readBack_blank.append <| (himpl _).append <| readBack_blank.append <|
      (readBack_fromContent h.className).append <| readBack_blank.append <|
        readBack_toContent h.className

theorem readBack_references (h : IsSourceName p.className)
    (hreferences : ∀ r ∈ p.references, IsSourceName r.className) :
    ReadBack itemProduction (lines (referenceLines p)).toList (p.references.map fun _ => .other) X := by
  rw [referenceLines, toList_lines_flatMap]
  exact .flatMap fun r hr X => readBack_conversion h (hreferences r hr)

/-! ## The file -/

/-- The tokens of a file that starts with a comment of its own. -/
theorem itemsOfTokens_doc {text : List Char} {tss : List (List Token)} {items : List Item}
    (hne : tss ≠ []) (h : ∀ m, 8 * Token.listSize tss.flatten ≤ m →
      List.Forall₂ (Piece (itemProduction m)) tss items) :
    itemsOfTokens (docAttribute text true {} ++ tss.flatten) = .ok items := by
  have hpieces := h (8 * Token.listSize (docAttribute text true {} ++ tss.flatten) + 16) (by
    rw [Token.listSize_append]
    omega)
  have hinner : opensInner tss.flatten = false := by
    cases hpieces with
    | nil => exact absurd rfl hne
    | cons hfirst => exact opensInner_of_item (hfirst.2 _ {})
  rw [itemsOfTokens, Grammar.forTokens, readAll_ok_iff, bind_ok_iff]
  exact ⟨(), ⟨tss.flatten, none⟩, innerAttributes_doc hinner _, untilEnd_eq ⟨{}, none⟩ hpieces⟩

/-- Items other than macro calls do not change with the place where they stand. -/
theorem eq_of_likes {l l' : List Item} (h : List.Forall₂ Item.Like l l')
    (hcalls : ∀ call, .macroCall call ∉ l) : l' = l := by
  induction h with
  | nil => rfl
  | @cons item item' l l' hitem _ ih =>
    have hmore : l' = l := ih fun call hcall => hcalls call (List.mem_cons_of_mem _ hcall)
    cases hitem with
    | macroCall => exact absurd List.mem_cons_self (hcalls _)
    | _ => rw [hmore]

/-- A generated file starts with a comment, and so with no mark and no interpreter. -/
theorem starts_render : withoutByteOrderMark (withoutInterpreter (withoutByteOrderMark
    (p.render space).toList)) = (p.render space).toList := by
  have hheader : "// <auto-generated>" = "//" ++ " <auto-generated>" := rfl
  have hslashes : "//".toList = ['/', '/'] := rfl
  obtain ⟨more, hmore⟩ : ∃ more, (p.render space).toList = '/' :: '/' :: more := by
    obtain ⟨others, hothers⟩ : ∃ l, modelLines p space = "// <auto-generated>" :: l := by
      simp only [modelLines, header, List.cons_append, List.cons.injEq, true_and, exists_eq']
    rw [Plan.render, hothers, lines_cons, hheader]
    simp only [String.toList_append, hslashes, List.cons_append]
    exact ⟨_, rfl⟩
  rw [hmore]
  rfl

end Rendering

/-- The items of a generated file, by the imports that were written. -/
theorem Plan.items_render {p : Plan} {space : String} {l : List UseItem} (h : p.IsWritable space)
    (hreferences : ∀ r ∈ p.references, IsSourceName r.className)
    (himports : l.map UseItem.text = imports p) (hread : ∀ item ∈ l, item.tree.IsRead) :
    Source.items (p.render space) =
      .ok (l.map Item.use ++ (ownItems p ++ p.references.map fun _ => Item.other)) := by
  obtain ⟨tss, hlexes, hpieces⟩ := (readBack_uses hread).append <|
    (readBack_own h).append (readBack_references (X := []) h.className hreferences)
  have hne : tss ≠ [] := by
    rintro rfl
    have hlength := (hpieces _ (Nat.le_refl _)).length_eq
    simp [ownItems] at hlength
  have hall : Lexes (p.render space).toList
      (docAttribute (spaceComment space).toList true {} ++ tss.flatten) [] := by
    rw [Plan.render, modelLines_eq himports, lines_append, lines_append, lines_append,
      String.toList_append, String.toList_append, String.toList_append]
    exact (lexes_start h.space).append hlexes
  obtain ⟨items, hitems, hlike⟩ := items_of_lexes hall starts_render (itemsOfTokens_doc hne hpieces)
  rw [hitems, eq_of_likes hlike]
  simp [ownItems]

/-! ## What a file says -/

theorem SourceFile.read_of_error {path : Path} {content : String} {e : SyntaxError}
    (h : Source.items content = .error e) :
    (⟨path, content⟩ : SourceFile).read = .error (.unreadable path e.pos e.message) := by
  rw [SourceFile.read, h]

namespace Contribution

variable {c : Contribution}

theorem addItems_uses (l : List UseItem) (rest : List Item) : c.addItems (l.map .use ++ rest) =
    ({ c with imports := c.imports ++ l.filterMap Import.ofUse? } : Contribution).addItems rest := by
  induction l generalizing c with
  | nil => simp
  | cons item l ih =>
    have himports : (item :: l).filterMap Import.ofUse? =
        (Import.ofUse? item).toList ++ l.filterMap Import.ofUse? := by
      cases h : Import.ofUse? item <;> simp [h]
    rw [List.map_cons, List.cons_append, himports]
    simp only [addItems, addItem, ih, List.append_assoc]

theorem addItems_others {α : Type} (l : List α) : c.addItems (l.map fun _ => .other) = (c, []) := by
  induction l with
  | nil => rfl
  | cons _ l ih => simpa [addItems, addItem] using ih

end Contribution

/-- Two changes of one entry, the first of the map. -/
theorem modify_modify_empty {ν : Type} [Inhabited ν] (k : String) (f g : ν → ν) :
    ((∅ : SortedMap String ν).modify k f).modify k g = SortedMap.ofList [(k, g (f default))] := by
  apply SortedMap.ext
  simp [SortedMap.modify, SortedMap.alter, alterEntries, SortedMap.ofList, SortedMap.insert,
    Std.ReflCmp.compare_self]

namespace Plan

variable {p : Plan} {space : String}

/-- What is written of an import is what is recorded of one. -/
theorem IsWritable.exists_use (h : p.IsWritable space) {path : String} (hpath : path ∈ imports p) :
    ∃ item : UseItem, item.tree.IsRead ∧ Import.ofUse? item = some ⟨path, item.tree.leafNames⟩ := by
  rcases mem_imports.1 hpath with rfl | ⟨hcontains, -⟩
  · have hself : opensWithSelf runtimeItem.tree.render = false := by decide +kernel
    refine ⟨runtimeItem, isRead_runtimeItem, ?_⟩
    rw [Import.ofUse?_eq, hself, text_runtimeItem]
    rfl
  · obtain ⟨content, items, item, i, hitems, hitem, hrecorded, rfl⟩ := h.uses path hcontains
    obtain ⟨hpath, hnames⟩ := Import.path_of_ofUse? hrecorded
    refine ⟨item, isRead_of_items hitems hitem, ?_⟩
    rw [hrecorded, ← hnames]

/-- The imports that were written, as they are read. -/
theorem IsWritable.exists_uses (h : p.IsWritable space) :
    ∃ l : List UseItem, l.map UseItem.text = imports p ∧ (∀ item ∈ l, item.tree.IsRead) ∧
      (l.filterMap Import.ofUse?).map (·.path) = imports p ∧
        ∀ i ∈ l.filterMap Import.ofUse?, ∃ item, item.tree.IsRead ∧ Import.ofUse? item = some i := by
  have : Nonempty UseItem := ⟨runtimeItem⟩
  have huses : ∀ path ∈ imports p, ∃ item : UseItem, item.tree.IsRead ∧
      Import.ofUse? item = some ⟨path, item.tree.leafNames⟩ := fun path => h.exists_use
  choose! f hread hrecorded using huses
  have himports : ((imports p).map f).filterMap Import.ofUse? =
      (imports p).map fun path => ⟨path, (f path).tree.leafNames⟩ := by
    rw [List.filterMap_map, ← List.filterMap_eq_map]
    exact List.filterMap_congr hrecorded
  refine ⟨(imports p).map f, ?_, ?_, ?_, ?_⟩
  · have htext : ∀ path ∈ imports p, (UseItem.text ∘ f) path = path := fun path hpath =>
      (Import.path_of_ofUse? (hrecorded path hpath)).1.symm
    rw [List.map_map, List.map_congr_left htext]
    exact List.map_id' _
  · exact List.forall_mem_map.2 hread
  · rw [himports, List.map_map]
    exact List.map_id _
  · rw [himports]
    exact List.forall_mem_map.2 fun path hpath => ⟨f path, hread path hpath, hrecorded path hpath⟩

/-- A generated file is read without an error in its markers. It speaks of its model alone, whose
type it declares, with the constants and functions that every model has and the accessors of the
plan. Its imports are in order and each of them stands once: that of the runtime, and those of the
plan that do not bring in the name of its type. Each is read as an import of which it is recorded.

The names in the file must be such as a source text can hold, those of the models of its base and
its mixins too. -/
theorem read_render (h : p.IsWritable space)
    (hreferences : ∀ r ∈ p.references, IsSourceName r.className) (path : Path) :
    ∃ uses : List Import, (⟨path, p.render space⟩ : SourceFile).read = .ok
        ({ path
           models := SortedMap.ofList [(p.className,
             { declaresType := true, members := SortedSet.ofList p.members })]
           imports := uses }, []) ∧
      (uses.map (·.path)).Pairwise (fun s t => compare s t = .lt) ∧
      (∀ text, text ∈ uses.map (·.path) ↔ text = runtimeImport ∨
        p.uses.contains text = true ∧ ¬"::PublishedContent".toList <:+ text.toList) ∧
      ∀ i ∈ uses, ∃ item, item.tree.IsRead ∧ Import.ofUse? item = some i := by
  obtain ⟨l, htexts, hread, hpaths, hitems⟩ := h.exists_uses
  refine ⟨l.filterMap Import.ofUse?, ?_, ?_, fun text => ?_, hitems⟩
  · rw [SourceFile.read, items_render h hreferences htexts hread]
    simp only [Contribution.addItems_uses, ownItems, List.cons_append, List.nil_append,
      Contribution.addItems, Contribution.addItem, Contribution.customise,
      Contribution.addItems_others, modify_modify_empty]
    rfl
  · rw [hpaths]
    exact SortedMap.pairwise_keys _
  · have hname : importsRuntimeName text = false ↔
        ¬("::PublishedContent".toList <:+ text.toList ∧ text ≠ runtimeImport) := by
      rw [← importsRuntimeName_iff, Bool.not_eq_true]
    rw [hpaths, mem_imports, hname]
    tauto

/-- What stands before the name of the base in a conversion. -/
def strayText : List Char := "\nimpl From<Post> for super".toList ++ [':', ':']

theorem lexes_strayText {X : List Char} : Lexes strayText ([Token.word "impl" {}, .word "From" {},
    .punct '<' false {}, .word "Post" {}, .punct '>' false {}, .word "for" {}, .word "super" {}] ++
      [Token.punct ':' true {}, .punct ':' (opensPunct (')' :: X)) {}]) (')' :: X) :=
  .append (.fixed_tight (by rfl) (by decide) rfl) lexes_colons

theorem run_stray {fuel : Nat} {read : List Token} {p : Position} {c : Char} {cs : List Char}
    {d : Delimiter} (h : Delimiter.ofClosing c = some d) :
    run (fuel + 1) [] read p (c :: cs) = .error p := by
  have hc : isGap c = false ∧ c ≠ '/' ∧ Delimiter.ofOpening c = none := by
    unfold Delimiter.ofClosing at h
    split at h <;> first | decide | cases h
  rw [run.eq_def]
  have comment : opensComment (c :: cs) = false := by simp [opensComment, hc]
  simp only [skip_eq_self comment (by simpa using hc.1), moved_self, docComment_eq_none comment, h,
    hc.2.2]

theorem tokenize_stray {cs X : List Char} {ts : List Token} {c : Char} {d : Delimiter}
    (h : Lexes cs ts (c :: X)) (hclose : Delimiter.ofClosing c = some d) :
    ∃ p, tokenize (cs ++ c :: X) = .error p := by
  obtain ⟨k, us, q, hk, -, hrun⟩ := h [] [] {}
  obtain ⟨fuel, hfuel⟩ : ∃ fuel, (cs ++ c :: X).length + 1 = fuel + 1 + k :=
    ⟨(cs ++ c :: X).length - k, by rw [List.length_append]; omega⟩
  refine ⟨q, ?_⟩
  rw [tokenize, hfuel, hrun, run_stray hclose]

/-- A plan whose base has a mark of the grammar for a name. -/
def stray : Plan where
  handle := "post"
  className := "Post"
  base := some ⟨"page", ")"⟩

theorem toList_referenceLines_stray :
    ∃ rest, (lines (referenceLines stray)).toList = strayText ++ ')' :: rest := by
  have hlines : referenceLines stray = conversion "Post" ⟨"page", ")"⟩ := by
    simp [referenceLines, Plan.references, stray]
  have hparts : "impl From<Post> for super::" = "impl From<" ++ "Post" ++ "> for super::" := rfl
  have hhead : "impl From<Post> for super::" = "impl From<Post> for super" ++ "::" := rfl
  have hbreak : "\nimpl From<Post> for super" = "\n" ++ "impl From<Post> for super" := rfl
  have hmarks : "::".toList = [':', ':'] ∧ ")".toList = [')'] := ⟨rfl, rfl⟩
  rw [hlines, conversion, lines_cons, lines_cons, ← hparts]
  unfold strayText
  simp only [hhead, hbreak, String.toList_append, String.toList_empty, toList_break, hmarks,
    List.append_assoc, List.cons_append, List.nil_append]
  generalize open_.toList ++ '\n' :: _ = rest
  exact ⟨rest, rfl⟩

theorem isWritable_stray : stray.IsWritable "site" where
  space := by decide
  handle := by decide
  className := ⟨by decide, by decide⟩
  properties := nofun
  uses := nofun

theorem items_stray : ∃ e, Source.items (stray.render "site") = .error e := by
  obtain ⟨rest, hrest⟩ := toList_referenceLines_stray
  obtain ⟨l, htexts, hread, -, -⟩ := isWritable_stray.exists_uses
  obtain ⟨tss, hlexes, -⟩ := (readBack_uses hread).append (readBack_own isWritable_stray)
    (X := strayText ++ ')' :: rest)
  have hall := (lexes_start isWritable_stray.space).append (hlexes.append lexes_strayText)
  obtain ⟨p, htokens⟩ := tokenize_stray hall rfl
  have hrender : (stray.render "site").toList = (lines (startLines "site")).toList ++
      (((lines (l.map UseItem.statement)).toList ++ (lines (ownLines stray)).toList) ++ strayText) ++
        ')' :: rest := by
    rw [Plan.render, modelLines_eq htexts, lines_append, lines_append, lines_append,
      String.toList_append, String.toList_append, String.toList_append, hrest]
    simp only [List.append_assoc]
  rw [Source.items, starts_render, hrender, htokens]
  exact ⟨_, rfl⟩

/-- The file of such a plan is no source text. -/
theorem read_render_stray : stray.IsWritable "site" ∧
    (stray.properties.map (·.localName)).Nodup ∧
      ∃ e, (⟨⟨"post.generated.rs"⟩, stray.render "site"⟩ : SourceFile).read = .error e := by
  obtain ⟨e, he⟩ := items_stray
  exact ⟨isWritable_stray, List.nodup_nil, _, SourceFile.read_of_error he⟩

/-- A plan with one of everything. -/
def full : Plan where
  handle := "article"
  className := "Article"
  base := some ⟨"page", "Page"⟩
  mixins := [⟨"seo", "Seo"⟩]
  properties := [⟨"keywords", "keywords", "Vec<String>", "seo"⟩]
  uses := SortedSet.ofList [articleItem.text]

theorem tokenize_typeText : ∃ p₁ p₂ p₃ p₄, tokenize "Vec<String>".toList =
    .ok [.word "Vec" p₁, .punct '<' false p₂, .word "String" p₃, .punct '>' false p₄] := by
  have hchars : "Vec<String>".toList = "Vec".toList ++ '<' :: ("String".toList ++ ['>']) := by
    decide
  obtain ⟨fuel, hfuel⟩ : ∃ fuel, "Vec<String>".toList.length + 1 = fuel + 5 :=
    Nat.exists_eq_add_of_le' (by decide)
  refine ⟨?p₁, ?p₂, ?p₃, ?p₄, ?tokens⟩
  case tokens =>
    rw [tokenize, hfuel, hchars, run_word (by decide) rfl, run_punct (by decide) rfl,
      run_word (by decide) rfl, run_punct (by decide) rfl, run_end]
    rfl

theorem isTypeText_vec : IsTypeText "Vec<String>" where
  commentFree := by decide
  isType := by
    obtain ⟨p₁, p₂, p₃, p₄, htokens⟩ := tokenize_typeText
    refine ⟨_, htokens, ⟨.path ⟨false, [⟨"Vec", .angle false⟩]⟩, false⟩, ?_⟩
    have hstring : IsType 1 [.word "String" p₃] :=
      ⟨{}, _, readAll_ok_iff.2 (type_name (m := 0) (by decide) rfl)⟩
    obtain ⟨m, hm⟩ : ∃ m, 8 * Token.listSize [.word "Vec" p₁, .punct '<' false p₂,
        .word "String" p₃, .punct '>' false p₄] + 16 = m + 3 :=
      Nat.exists_eq_add_of_le' (by omega)
    rw [forTokens, hm, readAll_ok_iff]
    exact hstring.type_arguments (c := ⟨false, p₄, []⟩) (Nat.zero_le m) (by decide)
      (.cons (.word _ _ (by decide)) .nil) rfl

theorem isWritable_full : full.IsWritable "site" where
  space := by decide
  handle := by decide
  className := ⟨by decide, by decide⟩
  properties q hq := by
    obtain rfl := List.mem_singleton.1 hq
    exact ⟨by decide, ⟨by decide, by decide⟩, isTypeText_vec⟩
  uses path hpath := by
    obtain rfl : path = articleItem.text := by simpa [full, SortedSet.ofList] using hpath
    exact ⟨_, _, articleItem, ⟨articleItem.text, ["self"]⟩, items_articleFile, List.mem_cons_self,
      by rw [Import.ofUse?_eq, portable_articleItem]; rfl, rfl⟩

/-- Its file is read back. -/
theorem read_render_full : full.IsWritable "site" ∧
    (∀ r ∈ full.references, IsSourceName r.className) ∧
    full.members = ["CONTENT_TYPE_ALIAS", "IS_ELEMENT", "BASE_TYPE", "MIXINS", "new", "content",
      "keywords"] ∧
    ∃ uses : List Import, (⟨⟨"article.generated.rs"⟩, full.render "site"⟩ : SourceFile).read = .ok
        ({ path := ⟨"article.generated.rs"⟩
           models := SortedMap.ofList [("Article",
             { declaresType := true, members := SortedSet.ofList full.members })]
           imports := uses }, []) ∧
      ∀ text, text ∈ uses.map (·.path) ↔ text = runtimeImport ∨ text = articleItem.text := by
  have hreferences : ∀ r ∈ full.references, IsSourceName r.className := by
    simp only [references, full, Option.toList_some, List.cons_append, List.nil_append,
      List.forall_mem_cons]
    exact ⟨⟨by decide, by decide⟩, ⟨by decide, by decide⟩, List.forall_mem_nil _⟩
  obtain ⟨uses, hread, -, hpaths, -⟩ :=
    read_render isWritable_full hreferences ⟨"article.generated.rs"⟩
  refine ⟨isWritable_full, hreferences, rfl, uses, hread, fun text => ?_⟩
  rw [hpaths]
  have huses : full.uses.contains text = true ↔ text = articleItem.text := by
    simp [full, SortedSet.ofList]
  have hother : ¬"::PublishedContent".toList <:+ articleItem.text.toList := by decide
  rw [huses]
  refine or_congr_right ⟨fun h => h.1, ?_⟩
  rintro rfl
  exact ⟨rfl, hother⟩

end Plan

end ContentModels
