import ContentModels.Proofs.Rendering.ReadBack

/-!
# Accessors are read back

The type of a property stands twice in its accessor, behind different texts. It is read in both
places as it is read alone.

## Main definitions

* `Rendering.IsTypeText` — a text without comments that is a type.

## Main statements

* `Rendering.IsTypeText.lexes` — the text of a type between angle brackets.
* `Rendering.readBack_accessor` — an accessor is read as a function with its name.
-/

namespace ContentModels.Rendering

open Source Source.Parser Source.Lexer Source.Grammar Text

variable {X : List Char}

/-! ## Types -/

/-- A text without comments that is a type. -/
structure IsTypeText (text : String) : Prop where
  commentFree : commentFree text = true
  isType : ∃ tokens, tokenize text.toList = .ok tokens ∧
    ∃ form, readAll ((forTokens tokens).type true) {} tokens = .ok form

theorem followed_of_ends {j : Bool} {ts us : List Token} (h : Ends j ts us) (hus : Likes us us)
    (c : Closing) : Followed c ts (us ++ c.tokens) := by
  rcases h with rfl | ⟨before, t, rfl, rfl⟩
  · exact followed_of_likes hus c
  · induction before with
    | nil =>
      obtain _ | ⟨ht, -⟩ := hus
      cases t with
      | punct d joint p => cases joint <;> exact .last ..
      | _ => exact .cons ht .nil
    | cons u before ih =>
      obtain _ | ⟨hu, hus⟩ := hus
      exact .cons hu (ih hus)

theorem listSize_of_ends {j : Bool} {ts us : List Token} (h : Ends j ts us) :
    Token.listSize us = Token.listSize ts := by
  rcases h with rfl | ⟨before, t, rfl, rfl⟩
  · rfl
  · have hsize : (joined j t).size = t.size := by
      cases t with
      | punct d joint p => cases joint <;> rfl
      | _ => rfl
    simp [Token.listSize, hsize]

/-- The tokens of a type between angle brackets. -/
def angleTokens (joint : Bool) (us : List Token) : List Token :=
  Token.punct '<' joint {} :: (us ++ [Token.punct '>' false {}])

/-- The text of a type between angle brackets, before text that opens with no punctuation. -/
theorem IsTypeText.lexes {text : String} (h : IsTypeText text) :
    ∃ ts, IsType (8 * Token.listSize ts + 16) ts ∧ ∀ X, opensPunct X = false → ∃ joint us,
      Lexes ('<' :: (text.toList ++ ['>'])) (angleTokens joint us) X ∧
        Token.listSize us = Token.listSize ts ∧
        ∀ more, Followed ⟨false, {}, more⟩ ts (us ++ .punct '>' false {} :: more) := by
  obtain ⟨ts, htokens, form, hread⟩ := h.isType
  refine ⟨ts, ⟨_, _, hread⟩, fun X hX => ?_⟩
  obtain ⟨us, hends, hlexes⟩ :=
    lexes_of_tokenize (X := '>' :: X) (parts_cons.2 (by decide)) htokens h.commentFree
  have hlikes : Likes us us := by
    obtain ⟨_, vs, _, _, hvs, _⟩ := hlexes [] [] {}
    exact hvs.trans hvs.symm
  have hopen : Lexes ['<'] [.punct '<' (opensPunct ((text.toList ++ ['>']) ++ X)) {}]
      ((text.toList ++ ['>']) ++ X) := .punct (by decide) rfl
  have hclose : Lexes ['>'] [.punct '>' (opensPunct X) {}] X := .punct (by decide) rfl
  rw [hX] at hclose
  exact ⟨_, us, hopen.append (hlexes.append hclose), listSize_of_ends hends,
    fun more => followed_of_ends hends hlikes ⟨false, {}, more⟩⟩

/-! ## The text of an accessor -/

/-- What the comment of an accessor says. -/
def accessorComment (q : PlannedProperty) : String := " Value of the `" ++ q.handle ++ "` property."

theorem isDocText_accessorComment {q : PlannedProperty} (h : StaysOnLine q.handle) :
    IsDocText (accessorComment q) := by
  have hopening : IsDocText " Value of the `" := by decide
  exact (hopening.append h).append (by decide)

/-- What stands in the body of an accessor. -/
def valueTokens (handle : String) (joint : Bool) (us : List Token) : List Token :=
  [Token.word "self" {}, .punct '.' false {}, .word "content" {}, .punct '.' false {},
    .word "value" {}, .punct ':' true {}, .punct ':' true {}] ++ (angleTokens joint us ++
      [Token.group .parenthesis [.literal (.text handle) {}] {} {}])

/-- The tokens of an accessor, by those of its type in both places. -/
def accessorTokens (q : PlannedProperty) (joint joint' : Bool) (us us' : List Token) : List Token :=
  fnTokens (docAttribute (accessorComment q).toList false {}) true q.localName
    [.punct '&' false {}, .word "self" {}] (Token.word "Option" {} :: angleTokens joint us)
    (valueTokens q.handle joint' us')

/-- The type of a property between brackets. -/
def typeText (q : PlannedProperty) : List Char := '<' :: (q.valueType.toList ++ ['>'])

/-- The handle of a property between parentheses. -/
def handleText (q : PlannedProperty) : List Char := '(' :: ((quoted q.handle).toList ++ [')'])

/-- The body of an accessor. -/
def valueText (q : PlannedProperty) : List Char :=
  ['\n'] ++ ("        self.content.value".toList ++ ([':', ':'] ++ (typeText q ++
    (handleText q ++ (['\n'] ++ "    ".toList)))))

/-- The text of an accessor. -/
def accessorText (q : PlannedProperty) : List Char :=
  (['\n'] ++ "    ".toList) ++ ((docStart false ++ (accessorComment q).toList) ++ (['\n'] ++
    (("    pub fn".toList ++ [' ']) ++ (q.localName.toList ++ ("(&self) -> Option".toList ++
      (typeText q ++ ([' '] ++ (('\x7b' :: (valueText q ++ ['\x7d'])) ++ ['\n']))))))))

theorem toList_accessorLines (q : PlannedProperty) :
    (lines (accessorLines q)).toList = accessorText q := by
  have hcomment : "    ///" = "    " ++ "///" := rfl
  have hhead : "    pub fn " = "    pub fn" ++ " " := rfl
  have houtput : "(&self) -> Option<" = "(&self) -> Option" ++ "<" := rfl
  have hvalue : "        self.content.value::<" = "        self.content.value" ++ "::<" := rfl
  have hmarks : "///".toList = docStart false ∧ "<".toList = ['<'] ∧ "::<".toList = [':', ':', '<'] ∧
      ">(".toList = ['>', '('] ∧ ">".toList = ['>'] ∧ ")".toList = [')'] :=
    ⟨rfl, rfl, rfl, rfl, rfl, rfl⟩
  rw [accessorLines_eq, toList_lines]
  unfold accessorText valueText typeText handleText accessorComment
  simp only [accessorLines, List.drop_succ_cons, List.drop_zero, List.flatMap_cons, List.flatMap_nil,
    hcomment, hhead, houtput, hvalue, String.toList_append, String.toList_empty, hmarks, toList_open,
    toList_close, toList_space, List.append_assoc, List.cons_append, List.nil_append,
    List.append_nil]

variable {q : PlannedProperty} {joint joint' : Bool} {us us' : List Token}

theorem opensPunct_typeText (Y : List Char) : opensPunct (typeText q ++ Y) = true := by
  rw [typeText, List.cons_append]
  exact opensPunct_of_mem (by decide) rfl

theorem lexes_value (htype : Lexes (typeText q) (angleTokens joint us)
      ((handleText q ++ (['\n'] ++ "    ".toList)) ++ X)) :
    Lexes (valueText q) (valueTokens q.handle joint us) X := by
  have hcolons : Lexes [':', ':'] [.punct ':' true {}, .punct ':' true {}]
      ((typeText q ++ (handleText q ++ (['\n'] ++ "    ".toList))) ++ X) := by
    have hcolons := lexes_colons (X := (typeText q ++ (handleText q ++ (['\n'] ++ "    ".toList))) ++ X)
    rwa [List.append_assoc, opensPunct_typeText, ← List.append_assoc] at hcolons
  have hhandle : Lexes (handleText q) [.group .parenthesis [.literal (.text q.handle) {}] {} {}]
      ((['\n'] ++ "    ".toList) ++ X) :=
    .group rfl rfl (lexes_quoted q.handle (by decide))
  have hall : Lexes (valueText q) ([] ++ ([Token.word "self" {}, .punct '.' false {},
      .word "content" {}, .punct '.' false {}, .word "value" {}] ++
        ([Token.punct ':' true {}, .punct ':' true {}] ++ (angleTokens joint us ++
          ([Token.group .parenthesis [.literal (.text q.handle) {}] {} {}] ++ []))))) X :=
    .append (.gaps rfl) <|
      .append (.fixed_tight (by rfl) (by decide) rfl) <|
        .append hcolons <| .append htype <| .append hhandle (.gaps rfl)
  simpa [valueTokens] using hall

/-- The text of an accessor, where every text that the type stands before settles its tokens. -/
theorem lexes_accessor {P : Bool → List Token → Prop} (hname : IsAnyWord q.localName)
    (hhandle : StaysOnLine q.handle)
    (htype : ∀ X, opensPunct X = false → ∃ joint us,
      Lexes (typeText q) (angleTokens joint us) X ∧ P joint us) :
    ∃ joint us joint' us', P joint us ∧ P joint' us' ∧
      Lexes (accessorText q) (accessorTokens q joint joint' us us') X := by
  obtain ⟨joint', us', hlexes', h'⟩ :=
    htype ((handleText q ++ (['\n'] ++ "    ".toList)) ++ '\x7d' :: (['\n'] ++ X))
      (opensPunct_of_notMem (by decide) (by decide))
  have hbody : Lexes ('\x7b' :: (valueText q ++ ['\x7d']))
      [.group .brace (valueTokens q.handle joint' us') {} {}] (['\n'] ++ X) :=
    .group rfl rfl (lexes_value hlexes')
  obtain ⟨joint, us, hlexes, h⟩ :=
    htype (([' '] ++ (('\x7b' :: (valueText q ++ ['\x7d'])) ++ ['\n'])) ++ X)
      (opensPunct_of_notMem (by decide) (by decide))
  refine ⟨joint, us, joint', us', h, h', ?_⟩
  have hall : Lexes (accessorText q) ([] ++ (docAttribute (accessorComment q).toList false {} ++
      ([] ++ ([Token.word "pub" {}, .word "fn" {}] ++ ([Token.word q.localName {}] ++
        ([Token.group .parenthesis [.punct '&' false {}, .word "self" {}] {} {}, .punct '-' true {},
          .punct '>' false {}, .word "Option" {}] ++ (angleTokens joint us ++ ([] ++
            ([Token.group .brace (valueTokens q.handle joint' us') {} {}] ++ []))))))))) X :=
    .append (.gaps rfl) <| .append ((isDocText_accessorComment hhandle).lexes false) <|
      .append (.gaps rfl) <| .append (.fixed_space (by rfl)) <|
        .append (.word hname (parts_cons.2 (by decide))) <|
          .append (.fixed_tight (by rfl) (by decide) rfl) <|
            .append hlexes <| .append (.gaps rfl) <| .append hbody (.gaps rfl)
  simpa [accessorTokens, fnTokens] using hall

/-- An accessor is read as a function with its name. -/
theorem readBack_accessor (hname : IsSourceName q.localName) (hhandle : StaysOnLine q.handle)
    (htype : IsTypeText q.valueType) :
    ReadBack memberProduction (lines (accessorLines q)).toList [some q.localName] X := by
  obtain ⟨ts, hts, hlexes⟩ := htype.lexes
  obtain ⟨joint, us, joint', us', ⟨hsize, hus⟩, ⟨-, hus'⟩, h⟩ :=
    lexes_accessor (X := X) hname.isAnyWord hhandle hlexes
  rw [toList_accessorLines]
  refine .of_lexes h (by simp [accessorTokens, fnTokens]) fun m hm rest => ?_
  have hdepth : 8 * Token.listSize ts + 15 ≤ m + 3 := by
    simp [accessorTokens, fnTokens, angleTokens, Token.listSize, Token.size] at hm
    omega
  have houtput : Reads ((ofDepth (m + 8)).type true) (Token.word "Option" {} :: angleTokens joint us)
      ⟨.path ⟨false, [⟨"Option", .angle false⟩]⟩, false⟩
      (.group .brace (valueTokens q.handle joint' us') {} {} :: rest) := by
    intro scope
    simp only [angleTokens, List.cons_append, List.append_assoc, List.nil_append]
    exact hts.type_arguments (m := m + 5) (by omega) (by decide)
      (hus (.group .brace (valueTokens q.handle joint' us') {} {} :: rest)) rfl
  have hbody : Reads (ofDepth (m + 8)).statements (valueTokens q.handle joint' us') () [] := by
    simp only [valueTokens, angleTokens, List.cons_append, List.append_assoc, List.nil_append]
    exact statements_value (m := m + 3) hts hdepth
      (hus' [.group .parenthesis [.literal (.text q.handle) {}] {} {}])
  exact implItem_fn (fun w _ us => outerAttributes_doc) hname.usable parameters_self houtput hbody rfl

end ContentModels.Rendering
