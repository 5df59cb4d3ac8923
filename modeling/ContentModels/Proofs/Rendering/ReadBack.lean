import ContentModels.Proofs.Rendering.Confinement
import ContentModels.Proofs.Source.Fixed
import ContentModels.Proofs.Source.Reads.Items
import ContentModels.Rendering.Model

/-!
# Generated text is read piece by piece

A generated file is put together from parts: the type, the constants, the accessors and the
conversions. Each part is read as it stands, whatever was read before and whatever follows.

## Main definitions

* `Source.ReadBack` — a text whose tokens are read one part after the other.
* `Rendering.StaysOnLine`, `Rendering.IsDocText` — what a comment can say.
* `Rendering.IsSourceName` — what can stand for a name.

## Main statements

* `Rendering.readBack_declaration`, `Rendering.readBack_constants`, `Rendering.readBack_ownMembers`
  — the parts that every model has.
-/

namespace ContentModels.Source

open ContentModels.Source.Parser Lexer Grammar

variable {α : Type} {production : Nat → Parser α} {cs ds X : List Char} {v : α} {vs ws : List α}

/-- A text whose tokens a production reads one part after the other, if it may go deep enough. -/
def ReadBack (production : Nat → Parser α) (cs : List Char) (vs : List α) (X : List Char) : Prop :=
  ∃ tss, Lexes cs tss.flatten X ∧
    ∀ m, 8 * Token.listSize tss.flatten ≤ m → List.Forall₂ (Piece (production m)) tss vs

namespace ReadBack

theorem nil : ReadBack production [] [] X := ⟨[], .nil, fun _ _ => .nil⟩

theorem append (h : ReadBack production cs vs (ds ++ X)) (h' : ReadBack production ds ws X) :
    ReadBack production (cs ++ ds) (vs ++ ws) X := by
  obtain ⟨tss, hlexes, hread⟩ := h
  obtain ⟨uss, hlexes', hread'⟩ := h'
  refine ⟨tss ++ uss, by simpa using hlexes.append hlexes', fun m hm => ?_⟩
  rw [List.flatten_append, Token.listSize_append] at hm
  exact List.rel_append (hread m (by omega)) (hread' m (by omega))

theorem cons (h : ReadBack production cs [v] (ds ++ X)) (h' : ReadBack production ds ws X) :
    ReadBack production (cs ++ ds) (v :: ws) X :=
  h.append h'

/-- One part, which the production reads as deep as a part can need. -/
theorem of_lexes {ts : List Token} (h : Lexes cs ts X) (hne : ts ≠ [])
    (hread : ∀ m, 8 * Token.listSize ts ≤ m + 8 → ∀ rest, Reads (production (m + 8)) ts v rest) :
    ReadBack production cs [v] X := by
  refine ⟨[ts], by simpa using h, fun m hm => .cons ⟨hne, ?_⟩ .nil⟩
  rw [List.flatten_singleton] at hm
  have hpos : 0 < Token.listSize ts := by
    obtain ⟨t, more, rfl⟩ := List.exists_cons_of_ne_nil hne
    cases t <;> simp [Token.listSize, Token.size]
  obtain ⟨k, rfl⟩ := Nat.exists_eq_add_of_le' (show 8 ≤ m by omega)
  exact hread k hm

/-- Text without tokens. -/
theorem of_empty (h : Lexes cs [] X) : ReadBack production cs [] X := ⟨[], h, fun _ _ => .nil⟩

/-- Texts, each of which is read. -/
theorem flatMap {β : Type} {l : List β} {f : β → List Char} {g : β → α}
    (h : ∀ e ∈ l, ∀ X, ReadBack production (f e) [g e] X) :
    ReadBack production (l.flatMap f) (l.map g) X := by
  induction l with
  | nil => exact nil
  | cons e l ih =>
    obtain ⟨he, hl⟩ := List.forall_mem_cons.1 h
    exact (he _).append (ih hl)

end ReadBack

end ContentModels.Source

namespace ContentModels.Rendering

open Source Source.Parser Source.Lexer Source.Grammar Text

variable {X : List Char} {name : String}

theorem toList_lines (l : List String) :
    (lines l).toList = l.flatMap fun line => line.toList ++ ['\n'] := by
  simp [lines, String.toList_join, List.flatMap_def, Function.comp_def]

theorem toList_open : open_.toList = [' ', '\x7b'] := rfl

theorem toList_close : close.toList = ['\x7d'] := rfl

theorem toList_space : " ".toList = [' '] := rfl

theorem toList_break : "\n".toList = ['\n'] := rfl

/-- What can stand for a name in a generated file. -/
structure IsSourceName (name : String) : Prop where
  isAnyWord : IsAnyWord name
  usable : isUsableIdent name = true

/-! ## Comments -/

/-- A text that a comment at the end of a line can hold. -/
structure StaysOnLine (text : String) : Prop where
  noBreak : '\n' ∉ text.toList
  noReturn : '\r' ∉ text.toList

instance (text : String) : Decidable (StaysOnLine text) :=
  decidable_of_iff ('\n' ∉ text.toList ∧ '\r' ∉ text.toList)
    ⟨fun h => ⟨h.1, h.2⟩, fun h => ⟨h.noBreak, h.noReturn⟩⟩

theorem StaysOnLine.append {s t : String} (h : StaysOnLine s) (h' : StaysOnLine t) :
    StaysOnLine (s ++ t) where
  noBreak := by simp [h.noBreak, h'.noBreak]
  noReturn := by simp [h.noReturn, h'.noReturn]

/-- What a documentation comment can say behind its slashes. -/
structure IsDocText (text : String) : Prop extends StaysOnLine text where
  start : text.toList.head? = some ' '

instance (text : String) : Decidable (IsDocText text) :=
  decidable_of_iff (StaysOnLine text ∧ text.toList.head? = some ' ')
    ⟨fun h => ⟨h.1, h.2⟩, fun h => ⟨h.toStaysOnLine, h.start⟩⟩

theorem IsDocText.append {s t : String} (h : IsDocText s) (h' : StaysOnLine t) :
    IsDocText (s ++ t) where
  toStaysOnLine := h.toStaysOnLine.append h'
  start := by rw [String.toList_append, List.head?_append, h.start, Option.some_or]

/-- The start of a documentation comment, of the whole file or of what follows. -/
def docStart (inner : Bool) : List Char := ['/', '/', if inner then '!' else '/']

theorem IsDocText.lexes {text : String} (h : IsDocText text) (inner : Bool) :
    Lexes (docStart inner ++ text.toList) (docAttribute text.toList inner {}) ('\n' :: X) :=
  .docLine ⟨h.noBreak, h.noReturn⟩ (by rw [h.start]; decide) inner

/-! ## The type -/

/-- The tokens of the attribute that derives traits. -/
def deriveTokens : List Token :=
  [.punct '#' false {}, .group .bracket [.word "derive" {}, .group .parenthesis
    [.word "Debug" {}, .punct ',' false {}, .word "Clone" {}] {} {}] {} {}]

/-- What the comment of a type says. -/
def declarationComment (p : Plan) : String :=
  " Published `" ++ p.handle ++ "` " ++ kindWord p.kind ++ "."

theorem isDocText_declarationComment {p : Plan} (h : StaysOnLine p.handle) :
    IsDocText (declarationComment p) := by
  have hopening : IsDocText " Published `" := by decide
  have hkind : StaysOnLine (kindWord p.kind) := by cases p.kind <;> decide
  exact (((hopening.append h).append (by decide)).append hkind).append (by decide)

/-- The text of a declaration. -/
def declarationText (p : Plan) : List Char :=
  (docStart false ++ (declarationComment p).toList) ++ (['\n'] ++
    (("#[derive(Debug, Clone)]\npub struct".toList ++ [' ']) ++ (p.className.toList ++ ([' '] ++
      ("\x7b\n    content: PublishedContent,\n\x7d".toList ++ ['\n'])))))

theorem toList_declaration (p : Plan) : (lines (declaration p)).toList = declarationText p := by
  have hslashes : "///".toList = docStart false := rfl
  have hderive : "#[derive(Debug, Clone)]\npub struct" =
      "#[derive(Debug, Clone)]" ++ "\n" ++ "pub struct" := rfl
  have hstruct : "pub struct " = "pub struct" ++ " " := rfl
  have hfields : "\x7b\n    content: PublishedContent,\n\x7d" =
      "\x7b" ++ "\n" ++ "    content: PublishedContent," ++ "\n" ++ "\x7d" := rfl
  have hbraces : "\x7b".toList = ['\x7b'] ∧ "\x7d".toList = ['\x7d'] := ⟨rfl, rfl⟩
  rw [declaration_eq, toList_lines]
  unfold declarationText declarationComment
  simp only [declaration, List.tail_cons, List.flatMap_cons, List.flatMap_nil, hderive, hstruct,
    hfields, String.toList_append, hslashes, hbraces, toList_open, toList_close, toList_space,
    toList_break, List.append_assoc, List.cons_append, List.nil_append, List.append_nil]

theorem lexes_declaration {p : Plan} (hname : IsAnyWord p.className)
    (hhandle : StaysOnLine p.handle) :
    Lexes (declarationText p) ((docAttribute (declarationComment p).toList false {} ++ deriveTokens) ++
      structTokens p.className) X := by
  have hall : Lexes (declarationText p) (docAttribute (declarationComment p).toList false {} ++ ([] ++
      ((deriveTokens ++ [Token.word "pub" {}, .word "struct" {}]) ++
        ([Token.word p.className {}] ++ ([] ++ [Token.group .brace fieldTokens {} {}]))))) X :=
    .append ((isDocText_declarationComment hhandle).lexes false) <| .append (.gaps rfl) <|
      .append (.fixed_space (by rfl)) <|
        .append (.word hname (parts_cons.2 (by decide))) <|
          .append (.gaps rfl) (.fixed_break (by rfl))
  simpa [structTokens] using hall

/-- The items of a file, by how deep they may go. -/
abbrev itemProduction (m : Nat) : Parser Item := (ofDepth m).item

/-- The items of an `impl`, by how deep they may go. -/
abbrev memberProduction (m : Nat) : Parser (Option String) := (ofDepth m).implItem

theorem readBack_declaration {p : Plan} (hname : IsSourceName p.className)
    (hhandle : StaysOnLine p.handle) :
    ReadBack itemProduction (lines (declaration p)).toList [.declaration p.className] X := by
  rw [toList_declaration]
  exact .of_lexes (lexes_declaration hname.isAnyWord hhandle) (by simp [structTokens])
    fun m _ rest => item_struct hname.usable fun us => outerAttributes_derive

/-! ## Constants -/

/-- Punctuation with none behind it. -/
theorem lexes_punct {c d : Char} (hc : c ∈ punctuation ∧ c ≠ '/')
    (hd : d ∉ punctuation ∧ d ≠ '\'') : Lexes [c] [.punct c false {}] (d :: X) := by
  have hpunct : Lexes [c] [.punct c (opensPunct (d :: X)) {}] (d :: X) :=
    .punct hc.1 (by simp [opensComment, hc.2])
  rwa [opensPunct_of_notMem hd.1 hd.2] at hpunct

/-- The end of a statement. -/
theorem lexes_semicolon : Lexes [';', '\n'] [.punct ';' false {}] X := by
  have hend : Lexes [';'] [.punct ';' false {}] ('\n' :: X) := lexes_punct (by decide) (by decide)
  have hbreak : Lexes ['\n'] [] X := .gaps rfl
  exact hend.append hbreak

/-- A constant, by how its head and its value are written and read. -/
theorem readBack_const {cs ds : List Char} {constName : String} {type value : List Token}
    {v : TypeForm} {form : ExprForm}
    (hhead : scanText cs = some (.word "pub" {} :: .word "const" {} :: .word constName {} ::
      .punct ':' false {} :: type ++ [Token.punct '=' false {}]))
    (hvalue : ∀ X, Lexes ds value (';' :: X)) (hname : isUsableIdent constName = true)
    (htype : ∀ m us, Reads ((ofDepth (m + 4)).type true) type v (.punct '=' false {} :: us))
    (hread : ∀ m rest, Reads ((ofDepth (m + 4)).expr true) value form
      (.punct ';' false {} :: rest)) :
    ReadBack memberProduction ((cs ++ [' ']) ++ (ds ++ [';', '\n'])) [some constName] X := by
  have hlexes : Lexes ((cs ++ [' ']) ++ (ds ++ [';', '\n'])) (constTokens constName type value) X := by
    simpa [constTokens] using (Lexes.fixed_space hhead).append ((hvalue _).append lexes_semicolon)
  exact .of_lexes hlexes (by simp [constTokens])
    fun m _ rest => implItem_constant hname (htype (m + 4)) (hread (m + 4) rest)

theorem lexes_quoted (s : String) {c : Char} (hc : isIdentStart c = false) :
    Lexes (quoted s).toList [.literal (.text s) {}] (c :: X) := .quoted s (afterSuffix_eq_self hc)

/-- The tokens of the base as a constant. -/
def baseTokens : Option ModelRef → List Token
  | some r => [.word "Some" {}, .group .parenthesis [.literal (.text r.handle) {}] {} {}]
  | none => [.word "None" {}]

theorem lexes_baseValue (base : Option ModelRef) :
    Lexes (baseValue base).toList (baseTokens base) (';' :: X) := by
  cases base with
  | none => exact .word (by decide) (parts_cons.2 (by decide))
  | some r =>
    have hgroup : Lexes ('(' :: ((quoted r.handle).toList ++ [')']))
        [.group .parenthesis [.literal (.text r.handle) {}] {} {}] (';' :: X) :=
      .group rfl rfl (lexes_quoted r.handle (by decide))
    have hword : Lexes "Some".toList [.word "Some" {}]
        ('(' :: ((quoted r.handle).toList ++ [')']) ++ ';' :: X) :=
      .word (by decide) (parts_cons.2 (by decide))
    simpa [baseValue, baseTokens] using hword.append hgroup

theorem lexes_quotedList (l : List String) : Lexes (", ".intercalate (l.map quoted)).toList
    (commas (l.map fun s => [.literal (.text s) {}])) (']' :: X) := by
  induction l with
  | nil => exact .nil
  | cons s more ih =>
    cases more with
    | nil => simpa [commas] using lexes_quoted s (by decide)
    | cons next more =>
      have hfirst : Lexes (quoted s).toList [.literal (.text s) {}]
          (([',', ' '] ++ (", ".intercalate ((next :: more).map quoted)).toList) ++ ']' :: X) :=
        lexes_quoted s (by decide)
      simpa [commas] using hfirst.append (lexes_comma.append ih)

/-- The text of a list of texts. -/
def listText (l : List String) : List Char :=
  ['&'] ++ ('[' :: ((", ".intercalate (l.map quoted)).toList ++ [']']))

/-- The tokens of a list of texts. -/
def listTokens (l : List String) : List Token :=
  [.punct '&' false {}, .group .bracket (commas (l.map fun s => [.literal (.text s) {}])) {} {}]

theorem lexes_list (l : List String) : Lexes (listText l) (listTokens l) (';' :: X) := by
  have hgroup : Lexes ('[' :: ((", ".intercalate (l.map quoted)).toList ++ [']'])) _ (';' :: X) :=
    .group rfl rfl (lexes_quotedList l)
  have hand {Y : List Char} : Lexes ['&'] [.punct '&' false {}] ('[' :: Y) :=
    lexes_punct (by decide) (by decide)
  exact hand.append hgroup

/-- The texts of the constants. -/
def constantTexts (p : Plan) : List (List Char) := [
  ("    pub const CONTENT_TYPE_ALIAS: &'static str =".toList ++ [' ']) ++
    ((quoted p.handle).toList ++ [';', '\n']),
  ("    pub const IS_ELEMENT: bool =".toList ++ [' ']) ++
    ((truthWord (p.kind == .element)).toList ++ [';', '\n']),
  ("    pub const BASE_TYPE: Option<&'static str> =".toList ++ [' ']) ++
    ((baseValue p.base).toList ++ [';', '\n']),
  ("    pub const MIXINS: &'static [&'static str] =".toList ++ [' ']) ++
    (listText (p.mixins.map (·.handle)) ++ [';', '\n'])]

theorem toList_constants (p : Plan) : (lines (constants p)).toList = (constantTexts p).flatten := by
  have hhandle : "    pub const CONTENT_TYPE_ALIAS: &'static str = " =
      "    pub const CONTENT_TYPE_ALIAS: &'static str =" ++ " " := rfl
  have helement : "    pub const IS_ELEMENT: bool = " =
      "    pub const IS_ELEMENT: bool =" ++ " " := rfl
  have hbase : "    pub const BASE_TYPE: Option<&'static str> = " =
      "    pub const BASE_TYPE: Option<&'static str> =" ++ " " := rfl
  have hmixins : "    pub const MIXINS: &'static [&'static str] = &[" =
      "    pub const MIXINS: &'static [&'static str] =" ++ " " ++ "&[" := rfl
  have hmarks : ";".toList = [';'] ∧ "&[".toList = ['&', '['] ∧ "];".toList = [']', ';'] :=
    ⟨rfl, rfl, rfl⟩
  rw [toList_lines]
  unfold constantTexts listText
  simp only [constants, List.flatMap_cons, List.flatMap_nil, List.flatten_cons, List.flatten_nil,
    hhandle, helement, hbase, hmixins, String.toList_append, toList_space, hmarks, List.map_map,
    Function.comp_def, List.append_assoc, List.cons_append, List.nil_append, List.append_nil]

theorem readBack_constants (p : Plan) : ReadBack memberProduction (lines (constants p)).toList
    [some "CONTENT_TYPE_ALIAS", some "IS_ELEMENT", some "BASE_TYPE", some "MIXINS"] X := by
  rw [toList_constants]
  refine .cons ?_ <| .cons ?_ <| .cons ?_ <| .cons ?_ .nil
  · exact readBack_const (by rfl) (fun X => lexes_quoted p.handle (by decide)) (by decide)
      (fun m us => type_text rfl) fun m rest scope => expr_literal endsExpr_semicolon rfl
  · have hword : IsAnyWord (truthWord (p.kind == .element)) := by cases p.kind <;> decide
    have hvalue (X : List Char) : Lexes (truthWord (p.kind == .element)).toList
        [.word (truthWord (p.kind == .element)) {}] (';' :: X) := .word hword (parts_cons.2 (by decide))
    have htype (m : Nat) (us : List Token) : Reads ((ofDepth (m + 4)).type true) [.word "bool" {}]
        ⟨.path ⟨false, [⟨"bool", .none⟩]⟩, false⟩ (.punct '=' false {} :: us) :=
      fun scope => type_name usable_types.2.1 rfl
    exact readBack_const (by rfl) hvalue (by decide) htype fun m rest => expr_truth
  · refine readBack_const (by rfl) (fun X => lexes_baseValue p.base) (by decide)
      (fun m us => type_optionalText rfl) fun m rest => (?_ : Reads _ _ ({} : ExprForm) _)
    cases p.base with
    | none => exact expr_none
    | some r => exact expr_some
  · exact readBack_const (by rfl) (fun X => lexes_list _) (by decide)
      (fun m us => type_texts) fun m rest => expr_texts _

/-! ## Functions -/

/-- The tokens of the function that makes a model. -/
def newTokens : List Token :=
  fnTokens [] true "new" [.word "content" {}, .punct ':' false {}, .word "PublishedContent" {}]
    [.word "Self" {}] [.word "Self" {}, .group .brace [.word "content" {}] {} {}]

/-- The tokens of the function that answers the published content. -/
def contentTokens : List Token :=
  fnTokens [] true "content" [.punct '&' false {}, .word "self" {}]
    [.punct '&' false {}, .word "PublishedContent" {}]
    [.punct '&' false {}, .word "self" {}, .punct '.' false {}, .word "content" {}]

/-- The texts of these functions. -/
def ownTexts : List (List Char) := [
  "    pub fn new(content: PublishedContent) -> Self \x7b\n        Self \x7b content \x7d\n    \x7d".toList ++
    ['\n'],
  "\n    pub fn content(&self) -> &PublishedContent \x7b\n        &self.content\n    \x7d".toList ++
    ['\n']]

theorem toList_ownMembers : (lines ownMembers).toList = ownTexts.flatten := by
  have hnew : "    pub fn new(content: PublishedContent) -> Self \x7b\n        Self \x7b content \x7d\n    \x7d" =
      ("    pub fn new(content: PublishedContent) -> Self" ++ open_) ++ "\n" ++
        ("        Self" ++ open_ ++ " content " ++ close) ++ "\n" ++ ("    " ++ close) := rfl
  have hcontent : "\n    pub fn content(&self) -> &PublishedContent \x7b\n        &self.content\n    \x7d" =
      "\n" ++ ("    pub fn content(&self) -> &PublishedContent" ++ open_) ++ "\n" ++
        "        &self.content" ++ "\n" ++ ("    " ++ close) := rfl
  rw [toList_lines]
  unfold ownTexts
  simp only [ownMembers, List.flatMap_cons, List.flatMap_nil, List.flatten_cons, List.flatten_nil,
    hnew, hcontent, String.toList_append, String.toList_empty, toList_break, List.append_assoc,
    List.cons_append, List.nil_append, List.append_nil]

theorem readBack_ownMembers :
    ReadBack memberProduction (lines ownMembers).toList [some "new", some "content"] X := by
  rw [toList_ownMembers]
  refine .cons ?_ <| .cons ?_ .nil
  · exact .of_lexes (.fixed_break (by rfl) : Lexes _ newTokens _)
      (by simp [newTokens, fnTokens])
      fun m _ rest => implItem_fn (fun w _ => outerAttributes_nil w) (by decide)
        (parameters_one (by decide) (by decide)) (fun scope => type_Self rfl) statements_literal rfl
  · exact .of_lexes (.fixed_break (by rfl) : Lexes _ contentTokens _)
      (by simp [contentTokens, fnTokens])
      fun m _ rest => implItem_fn (fun w _ => outerAttributes_nil w) (by decide) parameters_self
        (fun scope => type_referenceTo (type_name (by decide) rfl) rfl) statements_borrow rfl

end ContentModels.Rendering
