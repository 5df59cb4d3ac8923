import ContentModels.Proofs.Rendering.ReadBack

/-!
# Conversions are read back

All conversions are the same text around three names: where they come from, where they go to, and
the word for what is converted.

## Main definitions

* `Rendering.conversionText`, `Rendering.conversionTokens` — a conversion, and how it is read.

## Main statements

* `Rendering.readBack_conversionText` — every conversion is an item that says nothing.
* `Rendering.readBack_fromContent`, `Rendering.readBack_toContent`, `Rendering.readBack_conversion`
  — those of a model.
-/

namespace ContentModels.Rendering

open Source Source.Parser Source.Lexer Source.Grammar Text

variable {X : List Char} {name word source : String} {body target : List Char}
  {bodyTokens targetTokens : List Token}

/-- The tokens of the function of a conversion. -/
def fromTokens (word source : String) (body : List Token) : List Token :=
  fnTokens [] false "from" [.word word {}, .punct ':' false {}, .word source {}] [.word "Self" {}] body

/-- The tokens of a conversion. -/
def conversionTokens (word source : String) (target body : List Token) : List Token :=
  .word "impl" {} :: .word "From" {} :: .punct '<' false {} :: .word source {} ::
    .punct '>' false {} :: .word "for" {} :: target ++
      [Token.group .brace (fromTokens word source body) {} {}]

/-- The text of the function of a conversion. -/
def fromText (word source : String) (body : List Char) : List Char :=
  "\n    fn from".toList ++ (('(' :: (((word.toList ++ [':']) ++ [' '] ++ source.toList) ++ [')'])) ++
    ((" -> Self".toList ++ [' ']) ++ (('\x7b' :: (body ++ ['\x7d'])) ++ ['\n'])))

/-- The text of a conversion. -/
def conversionText (word source : String) (target body : List Char) : List Char :=
  "impl From".toList ++ (['<'] ++ (source.toList ++ (((['>'] ++ " for".toList) ++ [' ']) ++ (target ++
    ([' '] ++ (('\x7b' :: (fromText word source body ++ ['\x7d'])) ++ ['\n']))))))

/-- The lines of a conversion. -/
def conversionLines (word source target body : String) : List String := [
  "impl From<" ++ source ++ "> for " ++ target ++ open_,
  "    fn from(" ++ word ++ ": " ++ source ++ ") -> Self" ++ open_,
  "        " ++ body,
  "    " ++ close,
  close]

theorem toList_conversionLines (word source target body : String) :
    (lines (conversionLines word source target body)).toList = conversionText word source
      target.toList ("\n        ".toList ++ (body.toList ++ "\n    ".toList)) := by
  have hhead : "impl From<" = "impl From" ++ "<" := rfl
  have hfor : "> for " = ">" ++ " for" ++ " " := rfl
  have hfrom : "    fn from(" = "    fn from" ++ "(" ∧ "\n    fn from" = "\n" ++ "    fn from" :=
    ⟨rfl, rfl⟩
  have hself : ") -> Self" = ")" ++ " -> Self" := rfl
  have hbreaks : "\n        " = "\n" ++ "        " ∧ "\n    " = "\n" ++ "    " := ⟨rfl, rfl⟩
  have hmarks : "<".toList = ['<'] ∧ ">".toList = ['>'] ∧ "(".toList = ['('] ∧ ")".toList = [')'] ∧
      ": ".toList = [':', ' '] := ⟨rfl, rfl, rfl, rfl, rfl⟩
  rw [toList_lines]
  unfold conversionText fromText
  simp only [conversionLines, List.flatMap_cons, List.flatMap_nil, hhead, hfor, hfrom, hself, hbreaks,
    String.toList_append, hmarks, toList_open, toList_close, toList_space, toList_break,
    List.append_assoc, List.cons_append, List.nil_append, List.append_nil]

/-! ## Every conversion -/

/-- The words for what is converted. -/
def conversionWords : List String := ["content", "model"]

theorem lexes_from (hword : word ∈ conversionWords) (hsource : IsAnyWord source)
    (hbody : ∀ X, Lexes body bodyTokens ('\x7d' :: X)) :
    Lexes (fromText word source body) (fromTokens word source bodyTokens) X := by
  have hparameter (X : List Char) : Lexes ((word.toList ++ [':']) ++ [' '] ++ source.toList)
      ([Token.word word {}, .punct ':' false {}] ++ [Token.word source {}]) (')' :: X) := by
    simp only [conversionWords, List.mem_cons, List.not_mem_nil, or_false] at hword
    refine .append ?_ (.word hsource (parts_cons.2 (by decide)))
    rcases hword with rfl | rfl <;> exact .fixed_space (by rfl)
  have hall : Lexes (fromText word source body) ([Token.word "fn" {}, .word "from" {}] ++
      ([Token.group .parenthesis ([Token.word word {}, .punct ':' false {}] ++
        [Token.word source {}]) {} {}] ++ ([Token.punct '-' true {}, .punct '>' false {},
          .word "Self" {}] ++ ([Token.group .brace bodyTokens {} {}] ++ [])))) X :=
    .append (.fixed_tight (by rfl) (by decide) rfl) <|
      .append (.group rfl rfl (hparameter _)) <| .append (.fixed_space (by rfl)) <|
        .append (.group rfl rfl (hbody _)) (.gaps rfl)
  simpa [fromTokens, fnTokens] using hall

theorem lexes_conversion (hword : word ∈ conversionWords) (hsource : IsAnyWord source)
    (htarget : ∀ X, Lexes target targetTokens (' ' :: X))
    (hbody : ∀ X, Lexes body bodyTokens ('\x7d' :: X)) :
    Lexes (conversionText word source target body)
      (conversionTokens word source targetTokens bodyTokens) X := by
  have hangle (X : List Char) : Lexes ['<'] [.punct '<' false {}] (source.toList ++ X) := by
    have hpunct : Lexes ['<'] [.punct '<' (opensPunct (source.toList ++ X)) {}]
        (source.toList ++ X) := .punct (by decide) rfl
    rwa [opensPunct_word hsource] at hpunct
  have hall : Lexes (conversionText word source target body) ([Token.word "impl" {}, .word "From" {}] ++
      ([Token.punct '<' false {}] ++ ([Token.word source {}] ++ ([Token.punct '>' false {},
        .word "for" {}] ++ (targetTokens ++ ([] ++
          ([Token.group .brace (fromTokens word source bodyTokens) {} {}] ++ []))))))) X := by
    unfold conversionText
    exact .append (.fixed_tight (by rfl) (by decide) rfl) <|
      .append (by simpa using hangle _) <| .append (.word hsource (parts_cons.2 (by decide))) <|
        .append (.fixed_space (by rfl)) <| .append (by simpa using htarget _) <|
          .append (.gaps rfl) <| .append (.group rfl rfl (lexes_from hword hsource hbody)) (.gaps rfl)
  simpa [conversionTokens] using hall

/-- A conversion is an item that says nothing, whatever its names are. -/
theorem readBack_conversionText (hword : word ∈ conversionWords) (hsource : IsSourceName source)
    (htarget : ∀ X, Lexes target targetTokens (' ' :: X))
    (hbody : ∀ X, Lexes body bodyTokens ('\x7d' :: X))
    (hreadTarget : ∀ m us rest, ∃ v,
      Reads ((ofDepth (m + 1)).type true) targetTokens v (.group .brace us {} {} :: rest))
    (hreadBody : ∀ m, Reads (ofDepth (m + 4)).statements bodyTokens () [])
    (hinner : opensInner bodyTokens = false) :
    ReadBack itemProduction (conversionText word source target body) [.other] X := by
  refine .of_lexes (lexes_conversion hword hsource.isAnyWord htarget hbody) (List.cons_ne_nil _ _)
    fun m _ rest => ?_
  obtain ⟨v, htype⟩ := hreadTarget (m + 6) (fromTokens word source bodyTokens) rest
  have hfrom : Piece (ofDepth (m + 7)).implItem (fromTokens word source bodyTokens) (some "from") :=
    ⟨List.cons_ne_nil _ _, fun rest => implItem_fn (fun w _ => outerAttributes_nil w) (by decide)
      (parameters_one hword hsource.usable) (fun scope => type_Self rfl) (hreadBody (m + 3)) hinner⟩
  have hcontent (scope : Source.Scope) := untilEnd_eq scope (.cons hfrom .nil)
  rw [List.flatten_singleton] at hcontent
  exact item_implFor hsource.usable hsource.isAnyWord htype hcontent rfl

/-! ## The conversions of a model -/

theorem IsSourceName.lexes (h : IsSourceName name) {c : Char}
    (hc : isIdentStart c = false ∧ isIdentContinue c = false ∧ c ∉ tokenMarks) :
    Lexes name.toList [.word name {}] (c :: X) := .word h.isAnyWord (parts_cons.2 hc)

/-- The name of a sibling model. -/
def siblingText (name : String) : List Char := "super".toList ++ ([':', ':'] ++ name.toList)

/-- The tokens of the name of a sibling model. -/
def siblingTokens (name : String) : List Token :=
  [.word "super" {}, .punct ':' true {}, .punct ':' false {}, .word name {}]

theorem lexes_sibling (h : IsSourceName name) {c : Char}
    (hc : isIdentStart c = false ∧ isIdentContinue c = false ∧ c ∉ tokenMarks) :
    Lexes (siblingText name) (siblingTokens name) (c :: X) := by
  have hsuper : Lexes "super".toList [.word "super" {}] (([':', ':'] ++ name.toList) ++ c :: X) :=
    .word (by decide) (parts_cons.2 (by decide))
  have hcolons : Lexes [':', ':'] [.punct ':' true {}, .punct ':' false {}] (name.toList ++ c :: X) := by
    have hpair : Lexes [':', ':'] _ (name.toList ++ c :: X) := lexes_colons
    rwa [opensPunct_word h.isAnyWord] at hpair
  exact hsuper.append (hcolons.append (h.lexes hc))

theorem readBack_fromContent (hname : IsSourceName name) :
    ReadBack itemProduction (lines (fromContent name)).toList [.other] X := by
  have hlines : fromContent name =
      conversionLines "content" "PublishedContent" name "Self::new(content)" := rfl
  have hbody (X : List Char) :
      Lexes ("\n        ".toList ++ ("Self::new(content)".toList ++ "\n    ".toList))
        [.word "Self" {}, .punct ':' true {}, .punct ':' false {}, .word "new" {},
          .group .parenthesis [.word "content" {}] {} {}] ('\x7d' :: X) :=
    .fixed_tight (by rfl) (by decide) rfl
  rw [hlines, toList_conversionLines]
  exact readBack_conversionText (by decide) ⟨by decide, by decide⟩ (fun X => hname.lexes (by decide))
    hbody (fun m us rest => ⟨_, fun scope => type_name hname.usable rfl⟩) (fun m => statements_new) rfl

theorem readBack_toContent (hname : IsSourceName name) :
    ReadBack itemProduction (lines (toContent name)).toList [.other] X := by
  have hfor : "> for PublishedContent" = "> for " ++ "PublishedContent" := rfl
  have hfrom : "    fn from(model: " = "    fn from(" ++ ("model" ++ ": ") := rfl
  have hfield : "        model.content" = "        " ++ "model.content" := rfl
  have hlines : toContent name =
      conversionLines "model" name "PublishedContent" "model.content" := by
    simp only [toContent, conversionLines, hfor, hfrom, hfield, String.append_assoc]
  have hbody (X : List Char) :
      Lexes ("\n        ".toList ++ ("model.content".toList ++ "\n    ".toList))
        [.word "model" {}, .punct '.' false {}, .word "content" {}] ('\x7d' :: X) :=
    .fixed_tight (by rfl) (by decide) rfl
  have hcontent : IsSourceName "PublishedContent" := ⟨by decide, by decide⟩
  rw [hlines, toList_conversionLines]
  exact readBack_conversionText (by decide) hname (fun X => hcontent.lexes (by decide)) hbody
    (fun m us rest => ⟨_, fun scope => type_name hcontent.usable rfl⟩) (fun m => statements_field) rfl

theorem readBack_conversion {target : ModelRef} (hname : IsSourceName name)
    (htarget : IsSourceName target.className) :
    ReadBack itemProduction (lines (conversion name target)).toList [.other] X := by
  have hfor : "> for super::" = "> for " ++ "super::" := rfl
  have hfrom : "    fn from(model: " = "    fn from(" ++ ("model" ++ ": ") := rfl
  have hbase : "        super::" = "        " ++ "super::" := rfl
  have hlines : conversion name target =
      "" :: conversionLines "model" name ("super::" ++ target.className)
        ("super::" ++ target.className ++ "::new(model.content)") := by
    simp only [conversion, conversionLines, hfor, hfrom, hbase, String.append_assoc]
  have hsibling : ("super::" ++ target.className).toList = siblingText target.className := by
    rw [String.toList_append]
    rfl
  have hcall (X : List Char) : Lexes "::new(model.content)".toList
      [.punct ':' true {}, .punct ':' false {}, .word "new" {}, .group .parenthesis
        [.word "model" {}, .punct '.' false {}, .word "content" {}] {} {}]
      ("\n    ".toList ++ '\x7d' :: X) :=
    .fixed_tight (by rfl) (by decide) rfl
  have hbody (X : List Char) : Lexes ("\n        ".toList ++
      ((siblingText target.className ++ "::new(model.content)".toList) ++ "\n    ".toList))
      ([] ++ ((siblingTokens target.className ++ [Token.punct ':' true {}, .punct ':' false {},
        .word "new" {}, .group .parenthesis [.word "model" {}, .punct '.' false {},
          .word "content" {}] {} {}]) ++ [])) ('\x7d' :: X) :=
    .append (.gaps rfl) <| .append (.append (lexes_sibling htarget (by decide)) (hcall X)) (.gaps rfl)
  rw [hlines, toList_lines, List.flatMap_cons, ← toList_lines, toList_conversionLines, hsibling,
    String.toList_append, hsibling]
  refine (ReadBack.of_empty (.gaps rfl)).append ?_
  exact readBack_conversionText (by decide) hname (fun X => lexes_sibling htarget (by decide)) hbody
    (fun m us rest => ⟨_, fun scope => type_super htarget.usable rfl⟩)
    (fun m => statements_newOf htarget.usable) rfl

end ContentModels.Rendering
