import ContentModels.HandFile.Contribution
import ContentModels.Proofs.HandFile.Imports
import ContentModels.Proofs.Source.Agree.Items
import ContentModels.Proofs.Source.Chunks
import ContentModels.Proofs.Source.Reads.Lists

/-!
# Imports are read back

The canonical text of an import is read as the same import. The text has the tokens of the tree,
whatever follows it; and these tokens are read as the tree, by induction over the tree. What is
recorded of an import is its canonical text, so behind `use` and before a semicolon it is read as
that import.

## Main definitions

* `UseTree.tokens`, `UseItem.tokens` — the tokens of an import.

## Main statements

* `UseTree.IsRead.lexes` — the canonical text of a tree has these tokens.
* `UseTree.IsRead.reads` — these tokens are read as the tree.
* `UseTree.IsRead.items_eq` — an import is read back.
* `isRead_of_items` — the imports of a text have words that a text can hold.
* `Import.path_of_ofUse?` — what is recorded is the canonical text.
* `Import.readBack` — an import is read back from what is recorded of it.
-/

namespace ContentModels.Source

/-- Whether a tree is everything of a module. -/
def UseTree.isGlob : UseTree → Bool
  | .glob => true
  | _ => false

mutual

/-- The tokens of what follows `use`; `joint` tells that punctuation follows at once. -/
def UseTree.tokens (joint : Bool) : UseTree → List Token
  | .path word tree =>
    .word word {} :: .punct ':' true {} :: .punct ':' tree.isGlob {} :: tree.tokens joint
  | .name word => [.word word {}]
  | .rename word newName => [.word word {}, .word "as" {}, .word newName {}]
  | .glob => [.punct '*' joint {}]
  | .group items => [.group .brace (commas (UseTree.tokensAll items)) {} {}]

/-- The tokens of the trees between braces. -/
def UseTree.tokensAll : List UseTree → List (List Token)
  | [] => []
  | tree :: rest => tree.tokens (!rest.isEmpty) :: UseTree.tokensAll rest

end

open ContentModels.Source.Parser ContentModels.Source.Parser.Running Grammar

variable {tree : UseTree} {items : List UseTree} {joint rootInside : Bool} {n m : Nat}
  {rest : List Token} {scope : Scope} {g : Grammar} {w : String} {p : Position}

/-! ## Tokens -/

theorem UseTree.tokens_ne_nil : tree.tokens joint ≠ [] := by
  cases tree <;> simp [UseTree.tokens]

@[simp] theorem Token.listSize_append (ts us : List Token) :
    Token.listSize (ts ++ us) = Token.listSize ts + Token.listSize us := by
  induction ts with
  | nil => simp [Token.listSize]
  | cons t ts ih => simp [Token.listSize, ih, Nat.add_assoc]

theorem UseTree.size_pos : 0 < Token.listSize (tree.tokens joint) := by
  cases tree <;> simp [UseTree.tokens, Token.listSize, Token.size]

theorem listSize_le_commas {ts : List Token} {tss : List (List Token)} (h : ts ∈ tss) :
    Token.listSize ts ≤ Token.listSize (commas tss) := by
  induction tss with
  | nil => cases h
  | cons us more ih =>
    cases more with
    | nil => simp_all [commas]
    | cons vs more =>
      rw [commas, Token.listSize_append, Token.listSize]
      · rcases List.mem_cons.1 h with rfl | h
        · omega
        · have := ih h
          omega
      · simp

/-! ## Reading a tree -/

/-- Nothing that goes on an import. -/
def endsUse (ts : List Token) : Prop := Ahead.any [.mark "::", .word "as"] ts = false

theorem endsElement.endsUse (h : endsElement rest) : endsUse rest := by
  rcases h with rfl | ⟨more, rfl⟩ <;> simp [Source.endsUse]

theorem endsUse_semicolon : endsUse (.punct ';' joint p :: rest) := by
  simp [endsUse]

theorem UseTree.not_colons (tree : UseTree) (joint : Bool) (us : List Token) :
    Ahead.mark "::" (tree.tokens joint ++ us) = false := by
  cases tree <;> simp [UseTree.tokens]

/-- What stands between braces is read as the trees whose tokens it is. -/
theorem UseTree.tokensAll_elements {q : Parser (Option UseTree)} {size : Nat}
    (h : ∀ tree ∈ items, ∀ joint, Token.listSize (tree.tokens joint) ≤ size →
      Element q (tree.tokens joint) (some tree))
    (hsize : ∀ ts ∈ UseTree.tokensAll items, Token.listSize ts ≤ size) :
    List.Forall₂ (Element q) (UseTree.tokensAll items) (items.map some) := by
  induction items with
  | nil => exact .nil
  | cons tree more ih =>
    rw [UseTree.tokensAll, List.forall_mem_cons] at hsize
    obtain ⟨htree, hmore⟩ := List.forall_mem_cons.1 h
    exact .cons (htree _ hsize.1) (ih hmore hsize.2)

/-- What follows `use` is read as the tree whose tokens it is. -/
theorem UseTree.IsRead.reads (h : tree.IsRead) (hn : Token.listSize (tree.tokens joint) ≤ n)
    (hrest : endsUse rest) :
    Reads ((ofDepth n).useTree rootInside) (tree.tokens joint) (some tree) rest := by
  induction h generalizing joint n rootInside rest with
  | @path name tree hname htree ih =>
    obtain ⟨n, rfl⟩ := Nat.exists_eq_add_one.2 (Nat.lt_of_lt_of_le UseTree.size_pos hn)
    have hsize : Token.listSize (tree.tokens joint) ≤ n := by
      simp [UseTree.tokens, Token.listSize, Token.size] at hn
      omega
    intro scope
    have hread : (ofDepth n).useTree false scope ⟨tree.tokens joint ++ rest, none⟩ =
        .ok (some tree, ⟨rest, none⟩) := ih hsize hrest scope
    have hname := hname.2
    simp at hname
    simp [UseTree.tokens, useTreeProduction, hname, hread]
  | @name name hname =>
    obtain ⟨n, rfl⟩ := Nat.exists_eq_add_one.2 (Nat.lt_of_lt_of_le UseTree.size_pos hn)
    intro scope
    have hname := hname.2
    simp [endsUse] at hname hrest
    simp [UseTree.tokens, useTreeProduction, hname, hrest]
  | @rename name newName hname hword hnew =>
    obtain ⟨n, rfl⟩ := Nat.exists_eq_add_one.2 (Nat.lt_of_lt_of_le UseTree.size_pos hn)
    intro scope
    have hname := hname.2
    simp at hname
    simp [UseTree.tokens, useTreeProduction, hname, hnew]
  | glob =>
    obtain ⟨n, rfl⟩ := Nat.exists_eq_add_one.2 (Nat.lt_of_lt_of_le UseTree.size_pos hn)
    intro scope
    simp [UseTree.tokens, useTreeProduction]
  | @group items h ih =>
    obtain ⟨n, rfl⟩ := Nat.exists_eq_add_one.2 (Nat.lt_of_lt_of_le UseTree.size_pos hn)
    have hsize : Token.listSize (commas (UseTree.tokensAll items)) ≤ n := by
      simp [UseTree.tokens, Token.listSize, Token.size] at hn
      omega
    -- A tree between braces starts with no colons, so that it is read wherever they are allowed.
    let inner : Parser (Option UseTree) := do
      let rooted ← if rootInside then mark? "::" else Pure.pure false
      let tree ← (ofDepth n).useTree (rootInside && !rooted)
      return if rooted then none else tree
    have hinner : ∀ tree ∈ items, ∀ joint, Token.listSize (tree.tokens joint) ≤ n →
        Element inner (tree.tokens joint) (some tree) := by
      intro tree htree joint hsize
      refine ⟨UseTree.tokens_ne_nil, fun rest hrest scope => ?_⟩
      have hcolons := tree.not_colons joint rest
      have hread {inside : Bool} : (ofDepth n).useTree inside scope ⟨tree.tokens joint ++ rest, none⟩ =
          .ok (some tree, ⟨rest, none⟩) := ih tree htree hsize hrest.endsUse scope
      simp at hcolons
      cases rootInside <;> simp [inner, hcolons, hread]
    have hitems := UseTree.tokensAll_elements hinner fun ts hts =>
      Nat.le_trans (listSize_le_commas hts) hsize
    have hlist := fun scope => commaList_eq scope hitems
    intro scope
    simp [inner] at hlist
    simp [UseTree.tokens, useTreeProduction, braces, hlist]

/-! ## Reading an item -/

theorem outerAttributes_word :
    g.outerAttributes scope ⟨.word w p :: rest, none⟩ = .ok (false, ⟨.word w p :: rest, none⟩) := by
  simp [outerAttributes]

theorem innerAttributes_word :
    g.innerAttributes scope ⟨.word w p :: rest, none⟩ = .ok ((), ⟨.word w p :: rest, none⟩) := by
  simp [innerAttributes]

theorem visibility_word (h : w ≠ "pub") :
    visibility scope ⟨.word w p :: rest, none⟩ = .ok (false, ⟨.word w p :: rest, none⟩) := by
  simp [visibility, h]

/-- The tokens of an import with its keyword. -/
def UseItem.tokens (item : UseItem) : List Token :=
  Token.word "use" {} ::
    (if item.rooted then [Token.punct ':' true {}, .punct ':' item.tree.isGlob {}] else []) ++
      item.tree.tokens true ++ [Token.punct ';' false {}]

variable {item : UseItem}

theorem UseItem.reads (h : item.tree.IsRead) (hm : Token.listSize item.tokens ≤ m) :
    Reads (ofDepth (m + 1)).item item.tokens (.use item) rest := by
  have hsize : Token.listSize (item.tree.tokens true) ≤ m := by
    simp [UseItem.tokens, Token.listSize, Token.size] at hm
    omega
  obtain ⟨rooted, tree⟩ := item
  intro scope
  have hread {inside : Bool} : (ofDepth m).useTree inside scope
      ⟨tree.tokens true ++ .punct ';' false {} :: rest, none⟩ =
        .ok (some tree, ⟨.punct ';' false {} :: rest, none⟩) := h.reads hsize endsUse_semicolon scope
  have hcolons := tree.not_colons true (.punct ';' false {} :: rest)
  simp at hcolons
  cases rooted <;>
    simp [itemProduction, UseItem.tokens, outerAttributes_word, visibility_word, functionFollows, abi?,
      useItem, hcolons, hread]

/-! ## The canonical text -/

open Lexer

variable {X : List Char} {c : Char}

theorem opensPunct_of_mem (h : c ∈ punctuation) (comment : opensComment (c :: X) = false) :
    opensPunct (c :: X) = true := by
  simp [opensPunct, comment, h]

theorem opensPunct_of_notMem (h : c ∉ punctuation) (h' : c ≠ '\'') :
    opensPunct (c :: X) = false := by
  simp [opensPunct, h, h']

theorem opensPunct_word (h : IsAnyWord w) (X : List Char) : opensPunct (w.toList ++ X) = false := by
  obtain ⟨c, cs, hcs⟩ := List.exists_cons_of_ne_nil (ne_nil_of_isAnyWord h)
  have hstart : isIdentStart c = true :=
    isIdentStart_of_anyIdent (by rw [← hcs, h]; rfl : (anyIdent (c :: cs)).isSome)
  rw [hcs]
  refine opensPunct_of_notMem (fun hc => ?_) ?_
  · simp [isIdentStart_of_punctuation hc] at hstart
  · rintro rfl
    exact absurd hstart (by decide)

theorem UseTree.IsRead.opensPunct_render (h : tree.IsRead) (X : List Char) :
    opensPunct (tree.render.toList ++ X) = tree.isGlob := by
  cases h with
  | path hname => simpa [UseTree.render, UseTree.isGlob] using opensPunct_word hname.1 _
  | name hname => simpa [UseTree.render, UseTree.isGlob] using opensPunct_word hname.1 _
  | rename hname => simpa [UseTree.render, UseTree.isGlob] using opensPunct_word hname.1 _
  | glob => exact opensPunct_of_mem (by decide) rfl
  | group =>
    rw [UseTree.render, String.toList_append, String.toList_append, List.append_assoc,
      List.append_assoc]
    exact opensPunct_of_notMem (by decide) (by decide)

/-- Two colons between names. -/
theorem lexes_colons : Lexes [':', ':'] [.punct ':' true {}, .punct ':' (opensPunct X) {}] X := by
  have hfirst : Lexes [':'] [.punct ':' (opensPunct (':' :: X)) {}] (':' :: X) :=
    .punct (by decide) rfl
  rw [opensPunct_of_mem (by decide) rfl] at hfirst
  have hsecond : Lexes [':'] [.punct ':' (opensPunct X) {}] X := .punct (by decide) rfl
  exact hfirst.append hsecond

theorem lexes_space : Lexes [' '] [] X := .gaps rfl

/-- A comma between elements. -/
theorem lexes_comma : Lexes [',', ' '] [.punct ',' false {}] X := by
  have hcomma : Lexes [','] [.punct ',' (opensPunct (' ' :: X)) {}] (' ' :: X) :=
    .punct (by decide) rfl
  rw [opensPunct_of_notMem (by decide) (by decide)] at hcomma
  have hspace : Lexes [' '] [] X := lexes_space
  exact hcomma.append hspace

/-- A word with text behind it that does not belong to it. -/
theorem lexes_word (h : IsAnyWord w) (hc : isIdentStart c = false ∧ isIdentContinue c = false ∧
    c ∉ tokenMarks) : Lexes w.toList [.word w {}] (c :: X) := .word h (parts_cons.2 hc)

theorem UseTree.lexes_renderAll (h : ∀ tree ∈ items, ∀ {X}, parts X = true →
      Lexes tree.render.toList (tree.tokens (opensPunct X)) X) :
    Lexes (", ".intercalate (UseTree.renderAll items)).toList (commas (UseTree.tokensAll items))
      ('\x7d' :: X) := by
  induction items with
  | nil => exact .nil
  | cons tree more ih =>
    obtain ⟨htree, hmore⟩ := List.forall_mem_cons.1 h
    cases more with
    | nil =>
      have hlexes : Lexes tree.render.toList (tree.tokens (opensPunct ('\x7d' :: X))) ('\x7d' :: X) :=
        htree (parts_cons.2 (by decide))
      rw [opensPunct_of_notMem (by decide) (by decide)] at hlexes
      simpa [UseTree.renderAll, UseTree.tokensAll, commas] using hlexes
    | cons next more =>
      let others := (", ".intercalate (UseTree.renderAll (next :: more))).toList
      have hlexes : Lexes tree.render.toList
          (tree.tokens (opensPunct (',' :: ' ' :: others ++ '\x7d' :: X)))
          (([',', ' '] ++ others) ++ '\x7d' :: X) := htree (parts_cons.2 (by decide))
      rw [List.cons_append, opensPunct_of_mem (by decide) rfl] at hlexes
      have hall := hlexes.append (lexes_comma.append (ih hmore))
      simpa [UseTree.renderAll, UseTree.tokensAll, commas, others] using hall

/-- The canonical text of what follows `use` has the tokens of its tree. -/
theorem UseTree.IsRead.lexes (h : tree.IsRead) (hX : parts X = true) :
    Lexes tree.render.toList (tree.tokens (opensPunct X)) X := by
  induction h generalizing X with
  | @path name tree hname htree ih =>
    have hcolons : Lexes [':', ':'] _ (tree.render.toList ++ X) := lexes_colons
    rw [htree.opensPunct_render] at hcolons
    have hword : Lexes name.toList [.word name {}] (([':', ':'] ++ tree.render.toList) ++ X) :=
      lexes_word hname.1 (by decide)
    simpa [UseTree.render, UseTree.tokens] using hword.append (hcolons.append (ih hX))
  | name hname => exact .word hname.1 hX
  | @rename name newName hname hword hnew =>
    have hfirst : Lexes name.toList [.word name {}]
        (([' '] ++ ("as".toList ++ ([' '] ++ newName.toList))) ++ X) :=
      lexes_word hname.1 (by decide)
    have has : Lexes "as".toList [.word "as" {}] (([' '] ++ newName.toList) ++ X) :=
      lexes_word (by decide) (by decide)
    have hall := hfirst.append (lexes_space.append (has.append (lexes_space.append (.word hword hX))))
    simpa [UseTree.render, UseTree.tokens] using hall
  | glob => exact .punct (by decide) rfl
  | @group items h ih =>
    have hgroup := Lexes.group (X := X) (o := '\x7b') rfl rfl
      (UseTree.lexes_renderAll fun tree htree {X} => ih tree htree)
    simpa [UseTree.render, UseTree.tokens] using hgroup

/-- The text of an import has its tokens, apart from the keyword and the end. -/
theorem UseItem.lexes_text (h : item.tree.IsRead) (hX : parts X = true) :
    Lexes item.text.toList ((if item.rooted then
      [Token.punct ':' true {}, .punct ':' item.tree.isGlob {}] else []) ++
        item.tree.tokens (opensPunct X)) X := by
  rw [UseItem.text]
  split
  · next hrooted =>
    have hcolons : Lexes [':', ':'] _ (item.tree.render.toList ++ X) := lexes_colons
    rw [h.opensPunct_render] at hcolons
    simpa [hrooted] using hcolons.append (h.lexes hX)
  · next hrooted => simpa [hrooted] using h.lexes hX

/-- An import with its keyword, and whatever is no punctuation behind it. -/
theorem UseItem.lexes (h : item.tree.IsRead) (hX : opensPunct X = false) :
    Lexes ("use".toList ++ ([' '] ++ (item.text.toList ++ [';']))) item.tokens X := by
  have huse : Lexes "use".toList [.word "use" {}] (([' '] ++ (item.text.toList ++ [';'])) ++ X) :=
    lexes_word (by decide) (by decide)
  have htext : Lexes item.text.toList _ ([';'] ++ X) := item.lexes_text h (parts_cons.2 (by decide))
  have hjoint : opensPunct (';' :: X) = true := opensPunct_of_mem (by decide) rfl
  have hend : Lexes [';'] [.punct ';' (opensPunct X) {}] X := .punct (by decide) rfl
  rw [List.singleton_append, hjoint] at htext
  rw [hX] at hend
  simpa [UseItem.tokens] using huse.append (lexes_space.append (htext.append hend))

/-! ## Whole texts -/

/-- The statement of an import. -/
def UseItem.statement (item : UseItem) : String := "use " ++ item.text ++ ";"

theorem UseItem.toList_statement : item.statement.toList =
    "use".toList ++ ([' '] ++ (item.text.toList ++ [';'])) := by
  have huse : "use ".toList = "use".toList ++ [' '] := by decide
  have hend : ";".toList = [';'] := by decide
  unfold UseItem.statement
  simp only [String.toList_append, huse, hend, List.append_assoc]

theorem UseItem.itemsOfTokens_eq (h : item.tree.IsRead) :
    itemsOfTokens item.tokens = .ok [.use item] := by
  have hpiece (m : Nat) (hm : Token.listSize item.tokens ≤ m) :
      Piece (ofDepth (m + 1)).item item.tokens (.use item) :=
    ⟨List.cons_ne_nil _ _, fun rest => UseItem.reads h hm⟩
  obtain ⟨m, hm, hdepth⟩ : ∃ m, Token.listSize item.tokens ≤ m ∧
      8 * Token.listSize item.tokens + 16 = m + 1 :=
    ⟨8 * Token.listSize item.tokens + 15, by omega, by omega⟩
  have hall := untilEnd_eq ⟨{}, none⟩ (.cons (hpiece m hm) .nil)
  rw [List.flatten_cons, List.flatten_nil, List.append_nil] at hall
  rw [itemsOfTokens, Grammar.forTokens, hdepth, readAll_ok_iff, bind_ok_iff]
  exact ⟨(), ⟨item.tokens, none⟩, innerAttributes_word, hall⟩

/-- A text is read as its tokens are, whatever their places. -/
theorem items_of_lexes {content : String} {ts : List Token} {l : List Item}
    (h : Lexes content.toList ts [])
    (whole : withoutByteOrderMark (withoutInterpreter (withoutByteOrderMark content.toList)) =
      content.toList)
    (hitems : itemsOfTokens ts = .ok l) :
    ∃ l', Source.items content = .ok l' ∧ List.Forall₂ Item.Like l l' := by
  obtain ⟨us, htokens, hlikes⟩ := h.tokenize
  rw [Source.items, whole, htokens]
  exact itemsOfTokens_agree hlikes hitems

/-- An import is read back. -/
theorem UseTree.IsRead.items_eq (h : item.tree.IsRead) :
    Source.items item.statement = .ok [.use item] := by
  have htext : item.statement.toList = "use".toList ++ ([' '] ++ (item.text.toList ++ [';'])) :=
    UseItem.toList_statement
  have hlexes : Lexes item.statement.toList item.tokens [] := by
    rw [htext]
    exact UseItem.lexes h rfl
  have hwhole : withoutByteOrderMark (withoutInterpreter (withoutByteOrderMark
      item.statement.toList)) = item.statement.toList := by
    rw [htext]
    rfl
  obtain ⟨l, hitems, hlike⟩ := items_of_lexes hlexes hwhole (UseItem.itemsOfTokens_eq h)
  obtain - | ⟨⟨⟩, ⟨⟩⟩ := hlike
  exact hitems

/-- The imports of a text have words that a text can hold. -/
theorem isRead_of_items {content : String} {l : List Item} (h : Source.items content = .ok l)
    (hitem : .use item ∈ l) : item.tree.IsRead := by
  rw [Source.items] at h
  cases htokens : tokenize (withoutByteOrderMark (withoutInterpreter (withoutByteOrderMark
      content.toList))) with
  | error p =>
    rw [htokens] at h
    cases h
  | ok ts =>
    rw [htokens] at h
    obtain ⟨l', hitems, hlike⟩ := itemsOfTokens_agree (likes_of_tokenize htokens) h
    cases hitems.symm.trans h
    cases List.forall₂_same.1 hlike _ hitem with
    | use _ hread => exact hread

end ContentModels.Source

/-! ## What is recorded of an import -/

namespace ContentModels

open Source

variable {item : UseItem} {i : Import}

theorem Import.path_of_ofUse? (recorded : Import.ofUse? item = some i) :
    i.path = item.text ∧ i.names = item.tree.leafNames := by
  simp only [Import.ofUse?] at recorded
  split at recorded
  · cases recorded
  · cases recorded
    exact ⟨rfl, rfl⟩

/-- Every import of a file is read back from its canonical text. It is the same import, so that it
has the same canonical text again, the same names at its leaves and the same full paths. What is
recorded of it is this text and these names, and a file that holds nothing else records the same. -/
theorem Import.readBack {content : String} {items : List Item}
    (parsed : Source.items content = .ok items) (h : .use item ∈ items) :
    Source.items ("use " ++ item.text ++ ";") = .ok [.use item] ∧
      ∀ i, Import.ofUse? item = some i → i.path = item.text ∧ i.names = item.tree.leafNames ∧
        ∀ path : Path, (⟨path, "use " ++ i.path ++ ";"⟩ : SourceFile).read =
          .ok ({ path, imports := [i] }, []) := by
  have hback : Source.items ("use " ++ item.text ++ ";") = .ok [.use item] :=
    (isRead_of_items parsed h).items_eq
  refine ⟨hback, fun i recorded => ?_⟩
  obtain ⟨hpath, hnames⟩ := path_of_ofUse? recorded
  refine ⟨hpath, hnames, fun path => ?_⟩
  rw [SourceFile.read, hpath, hback]
  simp [Contribution.addItems, Contribution.addItem, recorded]

/-- Everything of a root's member, and two names of it. -/
def nestedImport : UseItem :=
  ⟨true, .path "a" (.group [.rename "b" "_", .path "r#type" .glob, .group []])⟩

theorem text_nestedImport : nestedImport.text = "::a::\x7bb as _, r#type::*, \x7b\x7d\x7d" := by
  decide

theorem isRead_nestedImport : nestedImport.tree.IsRead := by
  have ha : startsUse "a" := ⟨by decide, .inl (by decide)⟩
  have hb : startsUse "b" := ⟨by decide, .inl (by decide)⟩
  have htype : startsUse "r#type" := ⟨by decide, .inl (by decide)⟩
  refine .path ha (.group ?_)
  simp only [List.forall_mem_cons]
  refine ⟨.rename hb (by decide) (.inr rfl), .path htype .glob, .group nofun, nofun⟩

theorem Import.readBack_nested :
    Source.items "use ::a::\x7bb as _, r#type::*, \x7b\x7d\x7d;" = .ok [.use nestedImport] ∧
      (⟨⟨"article.rs"⟩, "use ::a::\x7bb as _, r#type::*, \x7b\x7d\x7d;"⟩ : SourceFile).read =
        .ok ({ path := ⟨"article.rs"⟩
               imports := [⟨"::a::\x7bb as _, r#type::*, \x7b\x7d\x7d", ["_"]⟩] }, []) := by
  have recorded : Import.ofUse? nestedImport =
      some ⟨"::a::\x7bb as _, r#type::*, \x7b\x7d\x7d", ["_"]⟩ := by decide +kernel
  have hstatement : "use " ++ "::a::\x7bb as _, r#type::*, \x7b\x7d\x7d" ++ ";" =
      "use ::a::\x7bb as _, r#type::*, \x7b\x7d\x7d;" := by decide
  obtain ⟨hback, hrecorded⟩ := Import.readBack isRead_nestedImport.items_eq List.mem_cons_self
  obtain ⟨-, -, hread⟩ := hrecorded _ recorded
  specialize hread ⟨"article.rs"⟩
  rw [text_nestedImport, hstatement] at hback
  rw [hstatement] at hread
  exact ⟨hback, hread⟩

end ContentModels
