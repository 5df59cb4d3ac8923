import ContentModels.Proofs.Source.Reads.Expressions
import ContentModels.Proofs.Source.Reads.Uses

/-!
# How plain items are read
-/

namespace ContentModels.Source

namespace Grammar

open ContentModels.Source.Parser ContentModels.Source.Parser.Running

variable {c : Closing} {g : Grammar} {n m : Nat} {ts us rest : List Token} {scope : Scope}

theorem visibility_pub {p : Position} {w : String} {q : Position} :
    visibility scope ⟨.word "pub" p :: .word w q :: rest, none⟩ =
      .ok (true, ⟨.word w q :: rest, none⟩) := by
  simp [visibility, restrictionFollows, pathRestrictionFollows]

theorem whereClause?_group {d : Delimiter} {content : List Token} {p q : Position} :
    g.whereClause? scope ⟨.group d content p q :: rest, none⟩ =
      .ok (false, ⟨.group d content p q :: rest, none⟩) := by
  simp [whereClause?]

theorem constRest_eq {name : String} {p : Position} {type value : List Token} {v : TypeForm}
    {form : ExprForm}
    (hname : isUsableIdent name = true)
    (htype : Reads (g.type true) type v
      (Token.punct '=' false {} :: value ++ Token.punct ';' false {} :: rest))
    (hvalue : Reads g.expr value form (.punct ';' false {} :: rest)) :
    Reads g.constRest (Token.word name p :: .punct ':' false {} :: type ++
      Token.punct '=' false {} :: value ++ [Token.punct ';' false {}]) (some name) rest := by
  intro scope
  have htype := htype scope
  have hvalue := hvalue scope
  simp only [List.cons_append, List.append_assoc, List.nil_append] at htype hvalue ⊢
  simp [constRest, constName, hname, generics, htype, hvalue, whereClause?]

theorem functionFollows_const {p q : Position} {w : String} (hw : isUsableIdent w = true) :
    functionFollows false scope ⟨.word "const" p :: .word w q :: rest, none⟩ =
      .ok (false, ⟨.word "const" p :: .word w q :: rest, none⟩) := by
  have hasync := not_keyword hw (k := "async") (by decide)
  have hunsafe := not_keyword hw (k := "unsafe") (by decide)
  have hextern := not_keyword hw (k := "extern") (by decide)
  have hfn := not_keyword hw (k := "fn") (by decide)
  simp [functionFollows, abi?, hasync, hunsafe, hextern, hfn]

theorem functionFollows_fn {p : Position} :
    functionFollows false scope ⟨.word "fn" p :: rest, none⟩ =
      .ok (true, ⟨.word "fn" p :: rest, none⟩) := by
  simp [functionFollows, abi?]

theorem implItem_const {name : String} {item : List Token} {v : Option String}
    (hname : isUsableIdent name = true)
    (hread : Reads g.constRest (.word name {} :: item) v rest) :
    Reads g.implItem (.word "pub" {} :: .word "const" {} :: .word name {} :: item) v rest := by
  intro scope
  have hread := hread scope
  simp only [List.cons_append] at hread ⊢
  simp [implItem, outerAttributes_word, visibility_pub, functionFollows_const hname, hread]

/-- Whether an attribute of what encloses it comes next. -/
def opensInner : Ahead := fun ts => Ahead.mark "#" ts && Ahead.second (.mark "!") ts

theorem innerAttributes_eq (h : opensInner ts = false) :
    g.innerAttributes scope ⟨ts, none⟩ = .ok ((), ⟨ts, none⟩) := by
  have h : (Ahead.mark "#" ts && Ahead.second (.mark "!") ts) = false := h
  simp only [innerAttributes, run_discard, run_repeatUntil, run_repeatFor, run_bind, run_ahead,
    onward_ok, run_ite, h, Bool.false_eq_true, if_false, run_pure]

theorem exists_of_opensInner (h : opensInner ts = true) :
    ∃ joint p joint' q more, ts = .punct '#' joint p :: .punct '!' joint' q :: more := by
  obtain ⟨hmark, hsecond⟩ := Bool.and_eq_true_iff.1 h
  cases ts with
  | nil => cases hmark
  | cons t ts =>
    cases t with
    | punct c joint p =>
      cases ts with
      | nil => cases hsecond
      | cons u more =>
        cases u with
        | punct d joint' q =>
          simp at hmark hsecond
          obtain ⟨rfl, rfl⟩ := And.intro hmark hsecond
          exact ⟨_, _, _, _, _, rfl⟩
        | _ => simp at hsecond
    | _ => simp at hmark

/-- What starts with attributes of its own starts with none of what encloses it. -/
theorem opensInner_of_ok {r : Bool × Input} (h : g.outerAttributes scope ⟨ts, none⟩ = .ok r) :
    opensInner ts = false := by
  by_contra hinner
  rw [Bool.not_eq_false] at hinner
  obtain ⟨joint, p, joint', q, more, rfl⟩ := exists_of_opensInner hinner
  simp [outerAttributes, brackets, Parser.group] at h

theorem opensInner_of_implItem {r : Option String × Input}
    (h : g.implItem scope ⟨ts, none⟩ = .ok r) :
    opensInner ts = false := by
  simp only [implItem, run_bind, run_get, onward_ok, run_discard] at h
  cases hattrs : g.outerAttributes scope ⟨ts, none⟩ with
  | ok r => exact opensInner_of_ok hattrs
  | error e => simp [hattrs] at h

theorem opensInner_of_item {r : Item × Input} (h : g.itemProduction scope ⟨ts, none⟩ = .ok r) :
    opensInner ts = false := by
  simp only [itemProduction, run_bind, run_discard] at h
  cases hattrs : g.outerAttributes scope ⟨ts, none⟩ with
  | ok r => exact opensInner_of_ok hattrs
  | error e => simp [hattrs] at h

/-- The tokens of a function. -/
def fnTokens (attrs : List Token) (visible : Bool) (name : String)
    (params output body : List Token) :
    List Token :=
  attrs ++ (if visible then [Token.word "pub" {}] else []) ++ Token.word "fn" {} :: .word name {} ::
    .group .parenthesis params {} {} :: .punct '-' true {} :: .punct '>' false {} :: output ++
      [Token.group .brace body {} {}]

theorem implItem_fn {name : String} {attrs params output body : List Token} {v : TypeForm}
    {b visible : Bool} (hattrs : ∀ w ∈ ["pub", "fn"], ∀ us,
      Reads g.outerAttributes attrs b (.word w {} :: us))
    (hname : isUsableIdent name = true) (hparams : Reads g.parameters params () [])
    (houtput : Reads (g.type true) output v (.group .brace body {} {} :: rest))
    (hbody : Reads g.statements body () []) (hinner : opensInner body = false) :
    Reads g.implItem (fnTokens attrs visible name params output body) (some name) rest := by
  intro scope
  have hpub := fun us => hattrs "pub" (by decide) us scope
  have hfn := fun us => hattrs "fn" (by decide) us scope
  have houtput := houtput scope
  simp only [Reads, List.append_nil] at hparams hbody
  simp only [fnTokens, List.cons_append, List.append_assoc, List.nil_append] at houtput hpub hfn ⊢
  cases visible <;>
    simp [implItem, hpub, hfn, visibility_pub, visibility_word, functionFollows_fn, signature, abi?,
      hname, generics, hparams, houtput, whereClause?, attributedBlock, braces,
      innerAttributes_eq hinner, hbody, parens]

theorem outerAttributes_nil (w : String) (us : List Token) :
    Reads g.outerAttributes [] false (.word w {} :: us) := fun _ => outerAttributes_word

/-! ## Attributes -/

theorem attributeContent_doc {s : String} {p : Position} :
    g.attributeContent scope ⟨[.word "doc" p, .punct '=' false p, .literal (.text s) p], none⟩ =
      .ok ((), ⟨[], none⟩) := by
  have hdoc : isUsableIdent "doc" = true := by decide
  simp [attributeContent, plainPath, hdoc]

theorem attributeContent_derive {content : List Token} {p q q' : Position} :
    g.attributeContent scope ⟨[.word "derive" p, .group .parenthesis content q q'], none⟩ =
      .ok ((), ⟨[], none⟩) := by
  have hderive : isUsableIdent "derive" = true := by decide
  simp [attributeContent, plainPath, hderive]

/-- A documentation comment. -/
theorem outerAttributes_doc {text : List Char} {p q : Position} {w : String} :
    Reads g.outerAttributes (Lexer.docAttribute text false p) true (.word w q :: rest) := by
  intro scope
  simp [outerAttributes, Lexer.docAttribute, brackets, attributeContent_doc]

/-- A documentation comment and a list of traits. -/
theorem outerAttributes_derive {text : List Char} {p q r r' : Position} {content : List Token}
    {w : String} :
    Reads g.outerAttributes (Lexer.docAttribute text false p ++ [Token.punct '#' false {},
      .group .bracket [.word "derive" {}, .group .parenthesis content {} {}] r r'])
        true (.word w q :: rest) := by
  intro scope
  simp [outerAttributes, Lexer.docAttribute, brackets, attributeContent_doc,
    attributeContent_derive]

/-- A documentation comment of the whole file. -/
theorem innerAttributes_doc {text : List Char} {p : Position} (h : opensInner rest = false) :
    Reads g.innerAttributes (Lexer.docAttribute text true p) () rest := by
  intro scope
  have h : (Ahead.marks ['#'] rest && Ahead.second (.mark "!") rest) = false := h
  simp [innerAttributes, Lexer.docAttribute, brackets, attributeContent_doc, h]

/-! ## Parameters -/

theorem usable_words : isUsableIdent "content" = true ∧ isUsableIdent "model" = true := by decide

theorem parameters_self : Reads g.parameters [.punct '&' false {}, .word "self" {}] () [] := by
  intro scope
  simp [parameters, parameters.next, parameters.go, parameters.continues, outerAttributes, receiver]

theorem parameters_one {w type : String} (hw : w ∈ ["content", "model"])
    (htype : isUsableIdent type = true) :
    Reads (ofDepth (m + 1)).parameters [.word w {}, .punct ':' false {}, .word type {}] () [] := by
  intro scope
  have hread (scope : Scope) : (ofDepth (m + 1)).type true scope ⟨[.word type {}], none⟩ =
      .ok (⟨.path ⟨false, [⟨type, .none⟩]⟩, false⟩, ⟨[], none⟩) := type_name htype rfl
  simp only [List.mem_cons, List.not_mem_nil, or_false] at hw
  rcases hw with rfl | rfl <;>
    simp [-type_succ, parameters, parameters.next, parameters.go, parameters.continues,
      outerAttributes, receiver, patternProduction, usable_words, hread]

/-! ## Constants -/

theorem usable_types : isUsableIdent "str" = true ∧ isUsableIdent "bool" = true ∧
    isUsableIdent "Option" = true ∧ isUsableIdent "PublishedContent" = true ∧
      isUsableIdent "From" = true ∧ isUsableIdent "Some" = true ∧ isUsableIdent "None" = true := by
  decide

/-- The tokens of `&'static str`. -/
def textTokens : List Token := [.punct '&' true {}, .lifetime "static" {}, .word "str" {}]

theorem type_text {plus : Bool} (hrest : goesOnPath rest = false) :
    Reads ((ofDepth (m + 2)).type plus) textTokens {} rest := by
  intro scope
  exact type_reference (type_name usable_types.1 hrest) rfl

theorem isType_text : IsType 2 textTokens :=
  ⟨{}, {}, rfl⟩

/-- Tokens that end before a closing bracket, in their places. -/
theorem followed_of_likes (h : Likes ts ts) (c : Closing) : Followed c ts (ts ++ c.tokens) := by
  induction ts with
  | nil => exact .nil
  | cons t ts ih =>
    cases h with
    | cons ht hs => exact .cons ht (ih hs)

theorem likes_text : Likes textTokens textTokens :=
  .cons (.punct ..) <| .cons (.lifetime ..) <| .cons (.word _ _ (by decide)) .nil

/-- `Option<&'static str>` -/
theorem type_optionalText {plus : Bool} (hrest : goesOnPath rest = false) :
    Reads ((ofDepth (m + 4)).type plus)
      (Token.word "Option" {} :: .punct '<' true {} :: textTokens ++ [Token.punct '>' false {}])
      ⟨.path ⟨false, [⟨"Option", .angle false⟩]⟩, false⟩ rest := by
  intro scope
  have hread : (ofDepth (m + 4)).type plus scope
      ⟨.word "Option" {} :: .punct '<' true {} :: (textTokens ++ Closing.tokens ⟨false, {}, rest⟩),
        none⟩ =
        .ok (⟨.path ⟨false, [⟨"Option", .angle false⟩]⟩, false⟩, ⟨rest, none⟩) :=
    isType_text.type_arguments (Nat.le_add_left ..) usable_types.2.2.1
      (followed_of_likes likes_text _) hrest
  simpa [Closing.tokens] using hread

/-- `&'static [&'static str]` -/
theorem type_texts {plus : Bool} :
    Reads ((ofDepth (m + 4)).type plus) [.punct '&' true {}, .lifetime "static" {},
      .group .bracket textTokens {} {}] {} rest := by
  intro scope
  refine type_reference (v := {}) (type_slice (v := {}) fun scope => ?_) rfl
  have hread : (ofDepth (m + 2)).type true scope ⟨textTokens ++ [], none⟩ = .ok ({}, ⟨[], none⟩) :=
    type_text rfl scope
  rwa [List.append_nil] at hread

/-- The tokens of a public constant. -/
def constTokens (name : String) (type value : List Token) : List Token :=
  Token.word "pub" {} :: .word "const" {} :: .word name {} :: .punct ':' false {} :: type ++
    Token.punct '=' false {} :: value ++ [Token.punct ';' false {}]

theorem implItem_constant {name : String} {type value : List Token} {v : TypeForm} {form : ExprForm}
    (hname : isUsableIdent name = true)
    (htype : ∀ us, Reads (g.type true) type v (.punct '=' false {} :: us))
    (hvalue : Reads g.expr value form (.punct ';' false {} :: rest)) :
    Reads g.implItem (constTokens name type value) (some name) rest := by
  have := implItem_const hname (constRest_eq (p := {}) hname (htype _) hvalue)
  simpa [constTokens] using this

/-- `true` and `false` -/
theorem expr_truth {b : Bool} : Reads ((ofDepth (m + 1)).expr true)
    [.word (Rendering.truthWord b) {}] {} (.punct ';' false {} :: rest) := by
  intro scope
  have hliteral : Rendering.truthWord b = "true" ∨ Rendering.truthWord b = "false" := by
    cases b <;> simp [Rendering.truthWord]
  have hends : endsOperand (.punct ';' false {} :: rest) = true := rfl
  refine expr_of_unary ?_ (by decide) endsExpr_semicolon
  simp [unaryProduction, outerAttributes, atom, hliteral, trailers_end hends]

/-- `None` -/
theorem expr_none :
    Reads ((ofDepth (m + 1)).expr true) [.word "None" {}] {} (.punct ';' false {} :: rest) := by
  intro scope
  exact expr_of_unary (unary_name (by decide) rfl (trailers_end rfl)) (by decide) endsExpr_semicolon

/-- `Some("base")` -/
theorem expr_some {s : String} : Reads ((ofDepth (m + 2)).expr true)
    [.word "Some" {}, .group .parenthesis [.literal (.text s) {}] {} {}] {}
    (.punct ';' false {} :: rest) := by
  intro scope
  have hunary : (ofDepth (m + 2)).unary true scope ⟨pathTokens "Some" [] ++
      .group .parenthesis [.literal (.text s) {}] {} {} :: .punct ';' false {} :: rest, none⟩ =
        .ok ({}, ⟨.punct ';' false {} :: rest, none⟩) :=
    unary_call (by decide) (by simp) rfl (List.cons_ne_nil _ _) fun _ =>
      expr_literal endsExpr_nil rfl
  exact expr_of_unary hunary (by decide) endsExpr_semicolon

theorem expr_element {s : String} (h : endsElement rest) :
    Reads ((ofDepth (m + 1)).expr true) [.literal (.text s) {}] {} rest := by
  intro scope
  rcases h with rfl | ⟨more, rfl⟩
  · exact expr_literal endsExpr_nil rfl
  · exact expr_literal (by simp [endsExpr, binaryOperator?, binaryOperators]) rfl

theorem arrayExpr_texts (l : List String) {p q : Position} :
    (ofDepth (m + 1)).arrayExpr scope
      ⟨.group .bracket (commas (l.map fun s => [.literal (.text s) {}])) p q :: rest, none⟩ =
        .ok ({}, ⟨rest, none⟩) := by
  have helements (l : List String) : List.Forall₂ (Element ((ofDepth (m + 1)).expr true))
      (l.map fun s => [.literal (.text s) {}]) (l.map fun _ => {}) :=
    List.forall₂_map_left_iff.2 <| List.forall₂_map_right_iff.2 <| List.forall₂_same.2 fun s _ =>
      ⟨List.cons_ne_nil _ _, fun rest hrest => expr_element hrest⟩
  have hfirst {s : String} {us : List Token} (hus : endsElement us) :
      (ofDepth (m + 1)).expr true ⟨q, some .bracket⟩ ⟨.literal (.text s) {} :: us, none⟩ =
        .ok ({}, ⟨us, none⟩) := expr_element hus _
  match l with
  | [] => simp [arrayExpr, commas, brackets]
  | [s] => simp [arrayExpr, commas, brackets, hfirst (.inl rfl)]
  | s :: s' :: l =>
    have hmore := commaList_eq ⟨q, some .bracket⟩ (helements (s' :: l))
    simp only [List.map_cons] at hmore
    simp [arrayExpr, commas, brackets, hfirst (.inr ⟨_, rfl⟩), hmore]

/-- An array is an operand. -/
theorem unary_array {content : List Token} {p q : Position} (hrest : endsOperand rest = true)
    (harray : (ofDepth m).arrayExpr scope ⟨.group .bracket content p q :: rest, none⟩ =
      .ok ({}, ⟨rest, none⟩)) :
    (ofDepth (m + 1)).unary true scope ⟨.group .bracket content p q :: rest, none⟩ =
      .ok ({}, ⟨rest, none⟩) := by
  simp [unaryProduction, outerAttributes, atom, harray, trailers_end hrest]

/-- `&["first", "second"]` -/
theorem expr_texts (l : List String) : Reads ((ofDepth (m + 3)).expr true)
    [.punct '&' false {},
      .group .bracket (commas (l.map fun s => [.literal (.text s) {}])) {} {}] {}
    (.punct ';' false {} :: rest) := by
  intro scope
  refine expr_of_unary ?_ (by decide) endsExpr_semicolon
  exact unary_reference rfl (unary_array rfl (arrayExpr_texts l))

/-! ## Items -/

/-- The tokens of the field that holds the published content. -/
def fieldTokens : List Token :=
  [.word "content" {}, .punct ':' false {}, .word "PublishedContent" {}, .punct ',' false {}]

/-- The tokens of a struct with the published content as its one field. -/
def structTokens (name : String) : List Token :=
  [.word "pub" {}, .word "struct" {}, .word name {}, .group .brace fieldTokens {} {}]

theorem functionFollows_word {w : String} {p : Position} (hw : w ∈ ["struct", "impl", "use"]) :
    functionFollows false scope ⟨.word w p :: rest, none⟩ =
      .ok (false, ⟨.word w p :: rest, none⟩) := by
  simp only [List.mem_cons, List.not_mem_nil, or_false] at hw
  rcases hw with rfl | rfl | rfl <;> simp [functionFollows, abi?]

theorem namedFields_content {p q : Position} : (ofDepth (m + 1)).namedFields scope
    ⟨.group .brace fieldTokens p q :: rest, none⟩ =
      .ok ((), ⟨rest, none⟩) := by
  have htype (scope : Scope) : (ofDepth (m + 1)).type true scope
      ⟨[.word "PublishedContent" {}, .punct ',' false {}], none⟩ =
        .ok (⟨.path ⟨false, [⟨"PublishedContent", .none⟩]⟩, false⟩,
          ⟨[.punct ',' false {}], none⟩) :=
    type_name usable_types.2.2.2.1 rfl
  simp [-type_succ, fieldTokens, namedFields, braces, commaList, separated, outerAttributes,
    visibility_word, usable_words, htype]

theorem item_struct {name : String} {attrs : List Token} {b : Bool}
    (hname : isUsableIdent name = true)
    (hattrs : ∀ us, Reads (ofDepth (m + 1)).outerAttributes attrs b (.word "pub" {} :: us)) :
    Reads (ofDepth (m + 2)).item (attrs ++ structTokens name) (.declaration name) rest := by
  intro scope
  have hattrs := fun us => hattrs us scope
  have hfields : (ofDepth (m + 1)).namedFields scope
      ⟨.group .brace fieldTokens {} {} :: rest, none⟩ = .ok ((), ⟨rest, none⟩) :=
    namedFields_content
  simp [itemProduction, structTokens, hattrs, visibility_pub, functionFollows_word, structItem,
    hname, generics, whereClause?_group, hfields]

theorem item_impl {name : String} {content : List Token} {names : List (Option String)}
    (hname : isUsableIdent name = true)
    (hcontent : ∀ scope, untilEnd (ofDepth (m + 1)).implItem scope ⟨content, none⟩ =
      .ok (names, ⟨[], none⟩))
    (hinner : opensInner content = false) :
    Reads (ofDepth (m + 2)).item [.word "impl" {}, .word name {},
      .group .brace content {} {}] (.members (some name) (names.filterMap id)) rest := by
  intro scope
  have htype : (ofDepth (m + 1)).type true scope
      ⟨.word name {} :: .group .brace content {} {} :: rest, none⟩ =
        .ok (⟨.path ⟨false, [⟨name, .none⟩]⟩, false⟩,
          ⟨.group .brace content {} {} :: rest, none⟩) :=
    type_name hname rfl
  have hconst := not_keyword hname (k := "const") (by decide)
  simp [-type_succ, itemProduction, outerAttributes_word, visibility_word, functionFollows_word,
    implItems, parametersFollow, hconst, htype, whereClause?_group, braces,
    innerAttributes_eq hinner, hcontent, implItems.lastName]

theorem isType_name {w : String} (hw : isUsableIdent w = true) : IsType 1 [.word w {}] := by
  refine ⟨{}, ⟨.path ⟨false, [⟨w, .none⟩]⟩, false⟩, ?_⟩
  simp only [readAll]
  rw [type_name (m := 0) hw rfl]
  rfl

/-- `From<Source>` -/
theorem type_from {w : String} {plus : Bool} (hw : isUsableIdent w = true) (hword : IsAnyWord w)
    (hrest : goesOnPath rest = false) :
    Reads ((ofDepth (m + 3)).type plus) [.word "From" {}, .punct '<' false {}, .word w {},
      .punct '>' false {}]
      ⟨.path ⟨false, [⟨"From", .angle false⟩]⟩, false⟩ rest := by
  intro scope
  exact (isType_name hw).type_arguments (c := ⟨false, {}, rest⟩) (Nat.zero_le m)
    usable_types.2.2.2.2.1
    (followed_of_likes (.cons (.word _ _ hword) .nil) _) hrest

theorem item_implFor {target content : List Token} {source : String} {v : TypeForm}
    {names : List (Option String)}
    (hsource : isUsableIdent source = true) (hword : IsAnyWord source)
    (htarget : Reads ((ofDepth (m + 3)).type true) target v (.group .brace content {} {} :: rest))
    (hcontent : ∀ scope, untilEnd (ofDepth (m + 3)).implItem scope ⟨content, none⟩ =
      .ok (names, ⟨[], none⟩))
    (hinner : opensInner content = false) :
    Reads (ofDepth (m + 4)).item (Token.word "impl" {} :: .word "From" {} :: .punct '<' false {} ::
      .word source {} :: .punct '>' false {} :: .word "for" {} :: target ++
        [Token.group .brace content {} {}]) .other rest := by
  intro scope
  have htarget := htarget scope
  have htype := (type_from hsource hword rfl : Reads ((ofDepth (m + 3)).type true) _ _
    (Token.word "for" {} :: target ++ Token.group .brace content {} {} :: rest)) scope
  simp only [List.cons_append, List.nil_append, List.append_assoc] at htype htarget ⊢
  simp [-type_succ, itemProduction, outerAttributes_word, visibility_word, functionFollows_word,
    implItems, parametersFollow, htype, htarget, whereClause?_group, braces,
    innerAttributes_eq hinner, hcontent]

end Grammar

end ContentModels.Source
