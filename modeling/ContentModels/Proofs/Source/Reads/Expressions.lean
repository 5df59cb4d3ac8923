import ContentModels.Proofs.Source.Reads.Types

/-!
# How plain expressions are read

An operand is a path or a literal with calls, fields and methods behind it. Each of them is read on
its own, whatever follows it.

## Main definitions

* `Grammar.IsSegment` — words that can stand in the path of an expression.
* `Grammar.pathTokens` — the tokens of such a path.
* `Grammar.endsExpr` — what cannot go on an expression.

## Main statements

* `Grammar.unary_path` — a path with what follows it.
* `Grammar.further_call`, `Grammar.further_field`, `Grammar.further_method` — what may follow.
* `Grammar.statements_of_unary` — an operand that is all of a block.
-/

namespace ContentModels.Source

namespace Grammar

open ContentModels.Source.Parser ContentModels.Source.Parser.Running

variable {g : Grammar} {n m fuel : Nat} {ts us rest : List Token} {scope : Scope} {w : String}
  {names : List String} {p q : Position} {form : ExprForm} {structs : Bool}

/-! ## Paths -/

/-- A word that can stand in the path of an expression. -/
def IsSegment (w : String) : Prop := isUsableIdent w = true ∨ w ∈ ["super", "self", "Self", "crate"]

instance (w : String) : Decidable (IsSegment w) :=
  inferInstanceAs (Decidable (isUsableIdent w = true ∨ w ∈ ["super", "self", "Self", "crate"]))

theorem IsSegment.ne {k : String} (hw : IsSegment w) (hk : ¬IsSegment k) : w ≠ k := by
  rintro rfl
  exact hk hw

/-- Where a path can go on with another name, one of these words comes next. -/
theorem IsSegment.any_eq (hw : IsSegment w) (rest : List Token) :
    Ahead.any [.ident, .word "super", .word "self", .word "Self", .word "crate"]
      (.word w p :: rest) = true := by
  simp only [IsSegment, List.mem_cons, List.not_mem_nil, or_false] at hw
  simp only [any_cons, ident_word, word_word, any_nil, Bool.or_eq_true, beq_iff_eq]
  grind

/-- The tokens of the further names of a path. -/
def moreTokens (names : List String) : List Token :=
  names.flatMap fun w => [.punct ':' true {}, .punct ':' false {}, .word w {}]

/-- The tokens of a path. -/
def pathTokens (w : String) (names : List String) : List Token := .word w {} :: moreTokens names

theorem moreTokens_cons (w : String) (names : List String) : moreTokens (w :: names) =
    .punct ':' true {} :: .punct ':' false {} :: .word w {} :: moreTokens names := rfl

theorem pathTokens_nil (w : String) (rest : List Token) :
    pathTokens w [] ++ rest = .word w {} :: rest := rfl

/-- What cannot go on a path. -/
def endsPath : Ahead := fun ts => !Ahead.any [.mark "::", .mark "!", .mark "#", .brace] ts

theorem endsPath_iff : endsPath rest = true ↔ Ahead.mark "::" rest = false ∧
    Ahead.mark "!" rest = false ∧ Ahead.mark "#" rest = false ∧ Ahead.brace rest = false := by
  simp only [endsPath, any_cons, any_nil, Bool.not_eq_true', Bool.or_eq_false_iff, Bool.or_false]

theorem segment_eq (hw : IsSegment w)
    (hrest : (Ahead.mark "::" rest && Ahead.third (.mark "<") rest) = false) :
    g.segment true scope ⟨.word w p :: rest, none⟩ = .ok (⟨w, .none⟩, ⟨rest, none⟩) := by
  have htry : w ≠ "try" := hw.ne (by decide)
  have hno : ¬(Ahead.marks [':', ':'] rest = true ∧
    (Ahead.mark "<").second.second rest = true) := by
    simpa using hrest
  by_cases hbare : w = "super" ∨ w = "self" ∨ w = "crate"
  · rcases hbare with rfl | rfl | rfl <;> simp [segment]
  · by_cases hself : w = "Self"
    · subst hself
      simp [segment, hno]
    · have hname : isUsableIdent w = true := by
        simp only [IsSegment, List.mem_cons, List.not_mem_nil, or_false] at hw
        grind
      simp only [not_or] at hbare
      simp [segment, hbare, htry, hself, hname, hno]

/-- Another name follows, and no arguments of the name before it. -/
theorem noArguments_of_more (names : List String) (hrest : Ahead.mark "::" rest = false) :
    (Ahead.mark "::" (moreTokens names ++ rest) &&
      Ahead.third (.mark "<") (moreTokens names ++ rest)) = false := by
  cases names with
  | nil =>
    rw [moreTokens, List.flatMap_nil, List.nil_append, hrest, Bool.false_and]
  | cons w names => simp [moreTokens_cons]

theorem moreSegments_eq (hnames : ∀ w ∈ names, IsSegment w) (hrest : Ahead.mark "::" rest = false) :
    g.moreSegments true scope ⟨moreTokens names ++ rest, none⟩ =
      .ok (names.map (⟨·, .none⟩), ⟨rest, none⟩) := by
  have hrepeat (fuel : Nat) (hfuel : names.length < fuel) : repeatFor (do
      if ← ahead (fun ts => Ahead.mark "::" ts && !Ahead.third .paren ts) then
        mark "::"
        return some (← g.segment true)
      return none) fuel scope ⟨moreTokens names ++ rest, none⟩ =
        .ok (names.map (⟨·, .none⟩), ⟨rest, none⟩) := by
    obtain ⟨fuel, rfl⟩ := Nat.exists_eq_add_one.2 (Nat.zero_lt_of_lt hfuel)
    induction names generalizing fuel with
    | nil =>
      have hmarks : Ahead.marks [':', ':'] rest = false := hrest
      exact repeatFor_none (by simp [moreTokens, hmarks])
    | cons w names ih =>
      obtain ⟨hw, hmore⟩ := List.forall_mem_cons.1 hnames
      obtain ⟨fuel, rfl⟩ :=
        Nat.exists_eq_add_one.2 (Nat.zero_lt_of_lt (Nat.lt_of_succ_lt_succ hfuel))
      have hfirst : g.segment true scope ⟨.word w {} :: (moreTokens names ++ rest), none⟩ =
          .ok (⟨w, .none⟩, ⟨moreTokens names ++ rest, none⟩) :=
        segment_eq hw (noArguments_of_more names hrest)
      exact repeatFor_some (by simp [moreTokens_cons, hfirst])
        (ih hmore fuel (Nat.lt_of_succ_lt_succ hfuel))
  have hlength : names.length ≤ (moreTokens names).length := by
    rw [moreTokens, List.length_flatMap]
    simp
    omega
  rw [moreSegments, run_repeatUntil]
  exact hrepeat _ (by simp; omega)

theorem qualifiedPath_eq (hw : IsSegment w) (hnames : ∀ w ∈ names, IsSegment w)
    (hrest : Ahead.mark "::" rest = false) :
    g.qualifiedPath true scope ⟨pathTokens w names ++ rest, none⟩ =
      .ok ((false, ⟨false, (w :: names).map (⟨·, .none⟩)⟩), ⟨rest, none⟩) := by
  have hfirst : g.segment true scope ⟨.word w {} :: (moreTokens names ++ rest), none⟩ =
      .ok (⟨w, .none⟩, ⟨moreTokens names ++ rest, none⟩) :=
    segment_eq hw (noArguments_of_more names hrest)
  have hmore : g.moreSegments true scope ⟨moreTokens names ++ rest, none⟩ =
      .ok (names.map (⟨·, .none⟩), ⟨rest, none⟩) := moreSegments_eq hnames hrest
  simp [qualifiedPath, path, pathTokens, hfirst, hmore]

theorem pathExpr_eq (hw : IsSegment w) (hnames : ∀ w ∈ names, IsSegment w)
    (hrest : endsPath rest = true) :
    g.pathExpr structs scope ⟨pathTokens w names ++ rest, none⟩ = .ok ({}, ⟨rest, none⟩) := by
  obtain ⟨hcolons, hbang, -, hbrace⟩ := endsPath_iff.1 hrest
  have hpath : g.qualifiedPath true scope ⟨pathTokens w names ++ rest, none⟩ =
      .ok ((false, ⟨false, (w :: names).map (⟨·, .none⟩)⟩), ⟨rest, none⟩) :=
    qualifiedPath_eq hw hnames hcolons
  have hmark : Ahead.marks ['!'] rest = false := hbang
  have hgroup : Ahead.group .brace rest = false := hbrace
  simp [pathExpr, hpath, hmark, hgroup]

/-- An operand that starts with the name of a path is a path. -/
theorem atom_eq (hw : IsSegment w) (hts : Ahead.mark "#" ts = false) :
    g.atom structs scope ⟨.word w p :: ts, none⟩ =
      g.pathExpr structs scope ⟨.word w p :: ts, none⟩ := by
  have hliteral : ¬(w = "true" ∨ w = "false") := by
    rintro (h | h) <;> exact hw.ne (by decide) h
  have hasync : w ≠ "async" := hw.ne (by decide)
  have htry : w ≠ "try" := hw.ne (by decide)
  have hmove : w ≠ "move" := hw.ne (by decide)
  have hfor : w ≠ "for" := hw.ne (by decide)
  have hconst : w ≠ "const" := hw.ne (by decide)
  have hstatic : w ≠ "static" := hw.ne (by decide)
  have hmark : Ahead.marks ['#'] ts = false := hts
  have hword : isUsableIdent w = true ∨ w = "self" ∨ w = "Self" ∨ w = "super" ∨ w = "crate" := by
    simp only [IsSegment, List.mem_cons, List.not_mem_nil, or_false] at hw
    grind
  simp [atom, hliteral, hasync, htry, hmove, hfor, hconst, hstatic, hword, hmark]

/-- The operand that starts with the name of a path, from the path and what follows it. -/
theorem unary_of_pathExpr {form' : ExprForm} {o o' : Input} (hw : IsSegment w)
    (hts : Ahead.mark "#" ts = false)
    (hpath : (ofDepth m).pathExpr structs scope ⟨.word w p :: ts, none⟩ = .ok (form, o))
    (htrailers : (ofDepth m).trailers form scope o = .ok (form', o')) :
    (ofDepth (m + 1)).unary structs scope ⟨.word w p :: ts, none⟩ = .ok (form', o') := by
  simp [unaryProduction, outerAttributes, atom_eq hw hts, hpath, htrailers]

/-- A path with what follows it. -/
theorem unary_path {o : Input} (hw : IsSegment w) (hnames : ∀ w ∈ names, IsSegment w)
    (hrest : endsPath rest = true)
    (htrailers : (ofDepth m).trailers {} scope ⟨rest, none⟩ = .ok (form, o)) :
    (ofDepth (m + 1)).unary structs scope ⟨pathTokens w names ++ rest, none⟩ = .ok (form, o) := by
  refine unary_of_pathExpr hw ?_ (pathExpr_eq hw hnames hrest) htrailers
  cases names with
  | nil => exact (endsPath_iff.1 hrest).2.2.1
  | cons v names => rfl

/-- A name with what follows it. -/
theorem unary_name {o : Input} (hw : IsSegment w) (hrest : endsPath rest = true)
    (htrailers : (ofDepth m).trailers {} scope ⟨rest, none⟩ = .ok (form, o)) :
    (ofDepth (m + 1)).unary structs scope ⟨.word w {} :: rest, none⟩ = .ok (form, o) := by
  rw [← pathTokens_nil]
  exact unary_path hw (by simp) hrest htrailers

/-! ## What follows an operand -/

/-- What cannot go on an operand. -/
def endsOperand : Ahead := fun ts => !Ahead.any [.paren, .bracket, .mark ".", .mark "?"] ts

theorem further_end (hrest : endsOperand rest = true) :
    trailers.further g (fuel + 1) form scope ⟨rest, none⟩ = .ok (form, ⟨rest, none⟩) := by
  simp [endsOperand] at hrest
  simp [trailers.further, hrest]

theorem trailers_end (hrest : endsOperand rest = true) :
    g.trailers form scope ⟨rest, none⟩ = .ok (form, ⟨rest, none⟩) := further_end hrest

theorem further_call {content : List Token}
    (hcall : g.callArguments scope ⟨.group .parenthesis content p q :: rest, none⟩ =
      .ok ((), ⟨rest, none⟩)) :
    trailers.further g (fuel + 1) form scope ⟨.group .parenthesis content p q :: rest, none⟩ =
      trailers.further g fuel {} scope ⟨rest, none⟩ := by
  simp [trailers.further, hcall]

theorem further_field (hw : isUsableIdent w = true) (hawait : w ≠ "await")
    (hform : form.kind ≠ .range)
    (hrest : Ahead.any [.mark "::", .paren] rest = false) :
    trailers.further g (fuel + 1) form scope ⟨.punct '.' false p :: .word w q :: rest, none⟩ =
      trailers.further g fuel {} scope ⟨rest, none⟩ := by
  simp at hrest
  simp [trailers.further, trailers.name, member, hw, hawait, hform, hrest]

theorem further_method {args : List Token} {r r' : Position} {b : Bool}
    (hw : isUsableIdent w = true)
    (hawait : w ≠ "await") (hform : form.kind ≠ .range)
    (hargs : g.angleArguments scope ⟨args, none⟩ = .ok (b, ⟨rest, none⟩)) :
    trailers.further g (fuel + 1) form scope
        ⟨.punct '.' false p :: .word w q :: .punct ':' true r :: .punct ':' true r' :: args, none⟩ =
      (do g.callArguments; trailers.further g fuel {}) scope ⟨rest, none⟩ := by
  simp [trailers.further, trailers.name, member, hw, hawait, hform, hargs]

/-- A call with one argument. -/
theorem callArguments_one (hne : ts ≠ [])
    (h : ∀ scope, g.expr true scope ⟨ts, none⟩ = .ok (form, ⟨[], none⟩)) :
    g.callArguments scope ⟨.group .parenthesis ts p q :: rest, none⟩ = .ok ((), ⟨rest, none⟩) := by
  simp [callArguments, parens, commaList, separated, hne, h]

/-! ## Whole expressions -/

@[simp] theorem binaryOperator?_semicolon {joint : Bool} :
    binaryOperator? (.punct ';' joint p :: ts) = none := by
  simp [binaryOperator?, binaryOperators]

/-- What cannot go on an expression. -/
def endsExpr (ts : List Token) : Prop :=
  binaryOperator? ts = none ∧ Ahead.any [.mark "=", .mark "..", .word "as"] ts = false

theorem endsExpr_nil : endsExpr [] := ⟨rfl, rfl⟩

theorem endsExpr_semicolon : endsExpr (.punct ';' false {} :: rest) := by
  simp [endsExpr]

theorem operators_end (hform : form.kind ≠ .range) (base : Precedence) (hrest : endsExpr rest) :
    (ofDepth (m + 1)).operators structs base form scope ⟨rest, none⟩ =
      .ok (form, ⟨rest, none⟩) := by
  obtain ⟨hoperator, hother⟩ := hrest
  simp at hother
  simp [operatorsProduction, operatorsProduction.further, hform, assignFollows, hoperator, hother]

theorem expr_of_unary
    (hunary : (ofDepth (m + 1)).unary structs scope ⟨ts, none⟩ = .ok (form, ⟨rest, none⟩))
    (hform : form.kind ≠ .range) (hrest : endsExpr rest) :
    (ofDepth (m + 1)).expr structs scope ⟨ts, none⟩ = .ok (form, ⟨rest, none⟩) := by
  simp only [expr, run_bind, hunary, onward_ok, operators_end hform .lowest hrest]

theorem expr_literal {s : String} (hrest : endsExpr rest) (hrest' : endsOperand rest = true) :
    (ofDepth (m + 1)).expr structs scope ⟨.literal (.text s) p :: rest, none⟩ =
      .ok ({}, ⟨rest, none⟩) := by
  refine expr_of_unary ?_ (by decide) hrest
  simp [unaryProduction, outerAttributes, atom, trailers_end hrest']

theorem unary_reference {joint : Bool} {o : Input}
    (hts : Ahead.any [.word "mut", .word "raw"] ts = false)
    (hunary : (ofDepth m).unary structs scope ⟨ts, none⟩ = .ok (form, o)) :
    (ofDepth (m + 1)).unary structs scope ⟨.punct '&' joint p :: ts, none⟩ =
      .ok ({ endsWithBrace := form.endsWithBrace }, o) := by
  simp at hts
  simp [unaryProduction, outerAttributes, hts, hunary]

/-- `content` -/
theorem expr_content : (ofDepth (m + 1)).expr true scope ⟨[.word "content" {}], none⟩ =
    .ok ({}, ⟨[], none⟩) := by
  exact expr_of_unary (unary_name (by decide) rfl (trailers_end rfl)) (by decide) endsExpr_nil

/-- The field `content` of what is named by a word. -/
theorem unary_field (hw : IsSegment w) : (ofDepth (m + 1)).unary true scope
    ⟨[.word w {}, .punct '.' false {}, .word "content" {}], none⟩ = .ok ({}, ⟨[], none⟩) := by
  refine unary_name hw rfl ?_
  rw [trailers, run_bind, run_get, onward_ok]
  exact (further_field (by decide) (by decide) (by decide) rfl).trans (further_end rfl)

/-- A function at the end of a path, called with one argument. -/
theorem unary_call (hw : IsSegment w) (hnames : ∀ w ∈ names, IsSegment w)
    (hrest : endsOperand rest = true)
    (hne : ts ≠ [])
    (hexpr : ∀ scope, (ofDepth m).expr true scope ⟨ts, none⟩ = .ok (form, ⟨[], none⟩)) :
    (ofDepth (m + 1)).unary true scope
        ⟨pathTokens w names ++ .group .parenthesis ts {} {} :: rest, none⟩ =
          .ok ({}, ⟨rest, none⟩) := by
  refine unary_path hw hnames rfl ?_
  rw [trailers, run_bind, run_get, onward_ok]
  exact (further_call (callArguments_one hne hexpr)).trans (further_end hrest)

/-! ## Blocks of one expression -/

/-- The tokens that such blocks start with here. -/
def opensBody (t : Token) : Prop :=
  t ∈ ([.punct '&' false {}, .word "self" {}, .word "Self" {}, .word "super" {}, .word "model" {}] :
    List Token)

theorem statements_of_unary {t : Token} (ht : opensBody t)
    (hneither : ∀ scope, macroStart scope ⟨t :: ts, none⟩ = .ok (.neither, ⟨t :: ts, none⟩))
    (hunary : ∀ scope, (ofDepth (m + 1)).unary true scope ⟨t :: ts, none⟩ = .ok (form, ⟨[], none⟩))
    (hform : form.kind = .other) : Reads (ofDepth (m + 3)).statements (t :: ts) () [] := by
  intro scope
  rw [List.append_nil]
  have hoperators (scope : Scope) : (ofDepth (m + 1)).operators true .lowest form scope ⟨[], none⟩ =
      .ok (form, ⟨[], none⟩) := operators_end (by simp [hform]) .lowest endsExpr_nil
  simp only [opensBody, List.mem_cons, List.not_mem_nil, or_false] at ht
  have hstatement (scope : Scope) :
      (ofDepth (m + 2)).statementExpr scope ⟨t :: ts, none⟩ = .ok (form, ⟨[], none⟩) := by
    rcases ht with rfl | rfl | rfl | rfl | rfl <;>
      simp [-unary_succ, -operators_succ, statementExprProduction, outerAttributes, hunary, hform,
        hoperators]
  rcases ht with rfl | rfl | rfl | rfl | rfl <;>
    simp [-statementExpr_succ, statementsProduction, statement, outerAttributes, hstatement,
      hneither, startsItem, hform]

theorem plainPath_eq (hw : IsSegment w) (hnames : ∀ w ∈ names, IsSegment w)
    (hrest : Ahead.mark "::" rest = false) :
    plainPath scope ⟨pathTokens w names ++ rest, none⟩ =
      .ok (⟨false, (w :: names).map fun name => { name }⟩, ⟨rest, none⟩) := by
  have hrepeat (fuel : Nat) (hfuel : names.length < fuel) : repeatFor (do
      if !(← ahead (.mark "::")) then return none
      mark "::"
      if ← ahead (.any [.ident, .word "super", .word "self", .word "Self", .word "crate"]) then
        return some (← anyWord)
      expected [.other "path segment after `::`"]) fuel scope ⟨moreTokens names ++ rest, none⟩ =
        .ok (names, ⟨rest, none⟩) := by
    obtain ⟨fuel, rfl⟩ := Nat.exists_eq_add_one.2 (Nat.zero_lt_of_lt hfuel)
    induction names generalizing fuel with
    | nil =>
      have hmarks : Ahead.marks [':', ':'] rest = false := hrest
      exact repeatFor_none (by simp [moreTokens, hmarks])
    | cons v names ih =>
      obtain ⟨hv, hmore⟩ := List.forall_mem_cons.1 hnames
      obtain ⟨fuel, rfl⟩ :=
        Nat.exists_eq_add_one.2 (Nat.zero_lt_of_lt (Nat.lt_of_succ_lt_succ hfuel))
      have hword := hv.any_eq (p := {}) (moreTokens names ++ rest)
      exact repeatFor_some (by simp [-any_cons, moreTokens_cons, hword])
        (ih hmore fuel (Nat.lt_of_succ_lt_succ hfuel))
  have hlength : names.length ≤ (moreTokens names).length := by
    rw [moreTokens, List.length_flatMap]
    simp
    omega
  have hword := hw.any_eq (p := {}) (moreTokens names ++ rest)
  have hmore := hrepeat ((moreTokens names ++ rest).length + 2) (by simp; omega)
  simp only [plainPath, pathTokens, List.cons_append, run_bind, run_mark?, mark_eq, marks_word,
    Bool.false_eq_true, if_false, onward_ok, run_ahead, hword, Bool.not_true, run_ite, run_pure,
    run_anyWord_word, run_repeatUntil, hmore]

/-- A path with no exclamation mark behind it starts no macro call. -/
theorem macroStart_path (hw : IsSegment w) (hnames : ∀ w ∈ names, IsSegment w)
    (hrest : endsPath rest = true) : macroStart scope ⟨pathTokens w names ++ rest, none⟩ =
      .ok (.neither, ⟨pathTokens w names ++ rest, none⟩) := by
  obtain ⟨hcolons, hbang, -, -⟩ := endsPath_iff.1 hrest
  have hpath : plainPath scope ⟨pathTokens w names ++ rest, none⟩ =
      .ok (⟨false, (w :: names).map fun name => { name }⟩, ⟨rest, none⟩) :=
    plainPath_eq hw hnames hcolons
  have hmark : Ahead.marks ['!'] rest = false := hbang
  simp [macroStart, hpath, hmark]

/-- A block that is a path with what follows it. -/
theorem statements_path (ht : opensBody (.word w {})) (hw : IsSegment w)
    (hnames : ∀ w ∈ names, IsSegment w) (hrest : endsPath rest = true)
    (htrailers : ∀ scope, (ofDepth m).trailers {} scope ⟨rest, none⟩ = .ok ({}, ⟨[], none⟩)) :
    Reads (ofDepth (m + 3)).statements (pathTokens w names ++ rest) () [] :=
  statements_of_unary ht (fun _ => macroStart_path hw hnames hrest)
    (fun scope => unary_path hw hnames hrest (htrailers scope)) rfl

/-- A block that is a name with what follows it. -/
theorem statements_name (ht : opensBody (.word w {})) (hw : IsSegment w)
    (hrest : endsPath rest = true)
    (htrailers : ∀ scope, (ofDepth m).trailers {} scope ⟨rest, none⟩ = .ok ({}, ⟨[], none⟩)) :
    Reads (ofDepth (m + 3)).statements (.word w {} :: rest) () [] := by
  rw [← pathTokens_nil]
  exact statements_path ht hw (by simp) hrest htrailers

/-- `Self { content }` -/
theorem statements_literal : Reads (ofDepth (m + 3)).statements
    [.word "Self" {}, .group .brace [.word "content" {}] {} {}] () [] := by
  have hcontent : isUsableIdent "content" = true := by decide
  have hpath (scope : Scope) : (ofDepth m).qualifiedPath true scope
      ⟨pathTokens "Self" [] ++ [Token.group .brace [.word "content" {}] {} {}], none⟩ =
        .ok ((false, ⟨false, [⟨"Self", .none⟩]⟩),
          ⟨[.group .brace [.word "content" {}] {} {}], none⟩) :=
    qualifiedPath_eq (by decide) (by simp) rfl
  have hexpr (scope : Scope) : (ofDepth m).pathExpr true scope
      ⟨[.word "Self" {}, .group .brace [.word "content" {}] {} {}], none⟩ =
        .ok ({ endsWithBrace := true }, ⟨[], none⟩) := by
    simp only [pathTokens, moreTokens, List.flatMap_nil, List.nil_append, List.cons_append] at hpath
    simp [pathExpr, hpath, structFields, member, braces, outerAttributes, hcontent]
  refine statements_of_unary (by simp [opensBody]) (fun scope => ?_)
    (fun scope => unary_of_pathExpr (by decide) rfl (hexpr scope) (trailers_end rfl)) rfl
  have hplain : plainPath scope
      ⟨pathTokens "Self" [] ++ [Token.group .brace [.word "content" {}] {} {}], none⟩ =
        .ok (⟨false, [{ name := "Self" }]⟩, ⟨[.group .brace [.word "content" {}] {} {}], none⟩) :=
    plainPath_eq (by decide) (by simp) rfl
  simp only [pathTokens, moreTokens, List.flatMap_nil, List.nil_append, List.cons_append] at hplain
  simp [macroStart, hplain]

/-- `&self.content` -/
theorem statements_borrow : Reads (ofDepth (m + 4)).statements
    [.punct '&' false {}, .word "self" {}, .punct '.' false {}, .word "content" {}] () [] := by
  refine statements_of_unary (by simp [opensBody]) (fun scope => ?_)
    (fun scope => unary_reference rfl (unary_field (by decide))) rfl
  simp [macroStart, plainPath]

/-- `model.content` -/
theorem statements_field : Reads (ofDepth (m + 3)).statements
    [.word "model" {}, .punct '.' false {}, .word "content" {}] () [] := by
  have hneither (scope : Scope) : macroStart scope
      ⟨pathTokens "model" [] ++ [Token.punct '.' false {}, .word "content" {}], none⟩ =
        .ok (.neither, ⟨pathTokens "model" [] ++ [Token.punct '.' false {}, .word "content" {}],
          none⟩) :=
    macroStart_path (by decide) (by simp) rfl
  exact statements_of_unary (by simp [opensBody]) hneither (fun _ => unary_field (by decide)) rfl

/-- `Self::new(content)` -/
theorem statements_new : Reads (ofDepth (m + 4)).statements
    (pathTokens "Self" ["new"] ++ [Token.group .parenthesis [.word "content" {}] {} {}]) () [] := by
  have hnew : ∀ w ∈ ["new"], IsSegment w := by decide
  exact statements_of_unary (by simp [opensBody]) (fun _ => macroStart_path (by decide) hnew rfl)
    (fun _ => unary_call (by decide) hnew rfl (List.cons_ne_nil _ _) fun _ => expr_content) rfl

/-- `super::Base::new(model.content)` -/
theorem statements_newOf (hw : isUsableIdent w = true) : Reads (ofDepth (m + 4)).statements
    (pathTokens "super" [w, "new"] ++
      [Token.group .parenthesis [.word "model" {}, .punct '.' false {}, .word "content" {}] {} {}])
      () [] := by
  have hnames : ∀ v ∈ [w, "new"], IsSegment v :=
    List.forall_mem_cons.2 ⟨.inl hw, List.forall_mem_singleton.2 (by decide)⟩
  exact statements_of_unary (by simp [opensBody]) (fun _ => macroStart_path (by decide) hnames rfl)
    (fun _ => unary_call (by decide) hnames rfl (List.cons_ne_nil _ _) fun _ =>
      expr_of_unary (unary_field (by decide)) (by decide) endsExpr_nil) rfl

/-- `self.content.value::<T>("alias")`, where `us` are the tokens behind the opening bracket. -/
theorem statements_value {handle : String} {joint : Bool} (h : IsType (n + 1) ts) (hm : n ≤ m)
    (hus : Followed ⟨false, {}, [.group .parenthesis [.literal (.text handle) {}] {} {}]⟩ ts us) :
    Reads (ofDepth (m + 5)).statements
      (.word "self" {} :: .punct '.' false {} :: .word "content" {} :: .punct '.' false {} ::
        .word "value" {} :: .punct ':' true {} :: .punct ':' true {} :: .punct '<' joint {} :: us)
      () [] := by
  have hcall (scope : Scope) : (ofDepth (m + 2)).callArguments scope
      ⟨[.group .parenthesis [.literal (.text handle) {}] {} {}], none⟩ = .ok ((), ⟨[], none⟩) :=
    callArguments_one (List.cons_ne_nil _ _) fun _ => expr_literal endsExpr_nil rfl
  refine statements_name (by simp [opensBody]) (by decide) rfl fun scope => ?_
  rw [trailers, run_bind, run_get, onward_ok]
  refine (further_field (by decide) (by decide) (by decide) rfl).trans ?_
  refine (further_method (by decide) (by decide) (by decide)
    (h.angleArguments_eq hm hus {} joint)).trans ?_
  rw [run_bind, hcall, onward_ok]
  exact further_end rfl

end Grammar

end ContentModels.Source
