import ContentModels.Proofs.Source.Agree.Types

/-!
# Expressions, patterns and statements are read alike in different places

The loops over operators and over what follows an operand are bounded by the tokens that are left.
Lists of tokens that differ in their places have the same length, so these loops run as often.

## Main statements

* `Grammar.further_agree` — what follows an operand.
* `Grammar.patterns_agree` — alternatives of patterns.
-/

namespace ContentModels.Source

open AgreeBy

namespace Grammar

set_option synthInstance.maxSize 1000000

variable {g g' : Grammar} [h : Below g g']

/-! ## Patterns -/

instance : Blind barFollows := by
  unfold barFollows
  infer_instance

instance : Agree member member := by
  unfold member
  refine bind_get fun t => ?_
  obtain ⟨⟨ts, l⟩, ⟨us, l'⟩, ⟨ht, _⟩⟩ := t
  cases ht with
  | nil => infer_instance
  | cons h _ =>
    cases h with
    | literal value => cases value <;> infer_instance
    | _ => infer_instance

instance (older : Bool) : Agree (rangeDots older) (rangeDots older) := by
  unfold rangeDots
  infer_instance

instance : Agree g.rangeEnd g'.rangeEnd := by
  unfold rangeEnd
  infer_instance

theorem patterns_agree : AgreeBy PatternForm.Like g.patterns g'.patterns := by
  unfold patterns
  refine bind_eq inferInstance fun leading => bind_of h.pattern fun first first' hfirst => ?_
  refine bind_of (R := List.Forall₂ PatternForm.Like) (repeatUntil_of <| bind_eq inferInstance fun b =>
    ite_of (bind_eq inferInstance fun _ => bind_of h.pattern fun _ _ hv => pure_of (.some hv))
      (pure_of .none)) fun more more' hmore => pure_of ?_
  have hempty : more.isEmpty = more'.isEmpty := by cases hmore <;> rfl
  rw [hempty]
  split
  · exact .other
  · exact hfirst

instance : Agree (discard g.pattern) (discard g'.pattern) := discard_of h.pattern

instance : Agree (discard g.patterns) (discard g'.patterns) := discard_of patterns_agree

/-! ## Expressions -/

instance : Blind assignFollows := by
  unfold assignFollows
  infer_instance

theorem binaryOperator?_eq {ts us : List Token} (h : Likes ts us) :
    binaryOperator? ts = binaryOperator? us :=
  congrArg (List.find? · binaryOperators) (funext fun e => Blind.eq (a := .mark e.1) ts us h)

theorem nextPrecedence_eq {ts us : List Token} (h : Likes ts us) :
    nextPrecedence ts = nextPrecedence us := by
  unfold nextPrecedence
  rw [binaryOperator?_eq h, Blind.eq (a := assignFollows) ts us h, Blind.eq (a := .mark "..") ts us h,
    Blind.eq (a := .word "as") ts us h]

instance (precedence : Precedence) (structs : Bool) (form : ExprForm) (fuel : Nat) :
    Agree (operand.further g structs precedence fuel form)
      (operand.further g' structs precedence fuel form) := by
  induction fuel generalizing form with
  | zero => exact pure _
  | succ fuel ih =>
    unfold operand.further
    refine bind_get fun t => ?_
    dsimp only
    rw [nextPrecedence_eq t.like.rest]
    refine ite_of (bind_eq inferInstance fun form => ?_) inferInstance
    refine bind_get fun u => ?_
    rw [t.like.rest.length_eq, u.like.rest.length_eq]
    infer_instance

instance (structs : Bool) (precedence : Precedence) :
    Agree (g.operand structs precedence) (g'.operand structs precedence) := by
  unfold operand
  refine bind_eq inferInstance fun first => bind_get fun t => ?_
  rw [t.like.rest.length_eq]
  infer_instance

instance (structs : Bool) : Blind (rangeStops structs) := by
  unfold rangeStops
  infer_instance

instance (structs : Bool) : Agree (g.rangeTail structs) (g'.rangeTail structs) := by
  unfold rangeTail
  infer_instance

instance : Agree checkCast checkCast := by
  unfold checkCast
  refine bind_get fun t => ?_
  have same (a : Ahead) [ha : Blind a] : a t.left.rest = a t.right.rest := ha.eq _ _ t.like.rest
  dsimp only
  rw [same (.butNot (.mark ".") (.mark "..")), same (.second (.word "await")), same (.second .ident),
    same (.third (.any [.paren, .mark "::"])), same (.mark "?"), same .bracket, same .paren]
  split <;> infer_instance

instance (structs : Bool) (base : Precedence) (form : ExprForm) (fuel : Nat) :
    Agree (operatorsProduction.further g structs base fuel form)
      (operatorsProduction.further g' structs base fuel form) := by
  induction fuel generalizing form with
  | zero => exact pure _
  | succ fuel ih =>
    unfold operatorsProduction.further
    refine bind_get fun t => ?_
    dsimp only
    rw [binaryOperator?_eq t.like.rest]
    refine ite_of inferInstance ?_
    split <;> infer_instance

instance (structs : Bool) (base : Precedence) (first : ExprForm) :
    Agree (g.operatorsProduction structs base first) (g'.operatorsProduction structs base first) := by
  unfold operatorsProduction
  refine bind_get fun t => ?_
  rw [t.like.rest.length_eq]
  infer_instance

instance : Agree g.callArguments g'.callArguments := by
  unfold callArguments
  infer_instance

instance (written : String) (p q : Position) :
    Agree (indexChain written p) (indexChain written q) := by
  unfold indexChain
  refine bind_eq (forIn_of fun part _ => ?_) fun _ => inferInstance
  split <;> infer_instance

theorem further_agree (fuel : Nat) :
    (∀ form, Agree (trailers.further g fuel form) (trailers.further g' fuel form)) ∧
      Agree (trailers.name g fuel) (trailers.name g' fuel) := by
  induction fuel with
  | zero =>
    have hfurther (form : ExprForm) :
        Agree (trailers.further g 0 form) (trailers.further g' 0 form) := by
      rw [trailers.further.eq_1, trailers.further.eq_1]
      infer_instance
    refine ⟨hfurther, ?_⟩
    rw [trailers.name.eq_1, trailers.name.eq_1]
    infer_instance
  | succ fuel ih =>
    obtain ⟨ihfurther, ihname⟩ := ih
    have hfurther (form : ExprForm) :
        Agree (trailers.further g (fuel + 1) form) (trailers.further g' (fuel + 1) form) := by
      rw [trailers.further.eq_2, trailers.further.eq_2]
      refine bind_eq inferInstance fun _ => ite_of inferInstance ?_
      refine bind_eq inferInstance fun _ => ite_of (bind_eq inferInstance fun _ => ?_) inferInstance
      refine bind_get fun t => ?_
      obtain ⟨⟨ts, l⟩, ⟨us, l'⟩, ⟨ht, _⟩⟩ := t
      cases ht with
      | nil => infer_instance
      | cons h _ =>
        cases h with
        | literal value => cases value <;> infer_instance
        | _ => infer_instance
    refine ⟨hfurther, ?_⟩
    rw [trailers.name.eq_1, trailers.name.eq_1]
    infer_instance

instance (first : ExprForm) : Agree (g.trailers first) (g'.trailers first) := by
  unfold trailers
  refine bind_get fun t => ?_
  rw [t.like.rest.length_eq]
  exact (further_agree _).1 _

instance : Blind startsExpr := by
  unfold startsExpr
  infer_instance

instance : Agree g.optionalExpr g'.optionalExpr := by
  unfold optionalExpr
  infer_instance

instance : Agree label? label? := by
  unfold label?
  infer_instance

instance : Agree g.ifExpr g'.ifExpr := by
  unfold ifExpr
  infer_instance

instance : Agree g.whileExpr g'.whileExpr := by
  unfold whileExpr
  infer_instance

instance : Agree g.forExpr g'.forExpr := by
  unfold forExpr
  infer_instance

instance : Agree g.loopExpr g'.loopExpr := by
  unfold loopExpr
  infer_instance

instance : Agree g.arm g'.arm := by
  unfold arm
  infer_instance

instance : Agree g.matchExpr g'.matchExpr := by
  unfold matchExpr
  infer_instance

instance (text : String) : Agree (g.wordBlock text) (g'.wordBlock text) := by
  unfold wordBlock
  infer_instance

instance : Agree g.blockExpr g'.blockExpr := by
  unfold blockExpr
  infer_instance

instance : Agree g.labeled g'.labeled := by
  unfold labeled
  infer_instance

instance : Agree g.closureParam g'.closureParam := by
  unfold closureParam
  infer_instance

instance (structs : Bool) : Agree (g.closure structs) (g'.closure structs) := by
  unfold closure
  infer_instance

instance : Agree g.structFields g'.structFields := by
  unfold structFields
  infer_instance

instance (structs : Bool) : Agree (g.pathExpr structs) (g'.pathExpr structs) := by
  unfold pathExpr
  infer_instance

instance : Agree g.parenExpr g'.parenExpr := by
  unfold parenExpr
  infer_instance

instance : Agree g.arrayExpr g'.arrayExpr := by
  unfold arrayExpr
  infer_instance

instance (structs : Bool) : Agree (g.letExpr structs) (g'.letExpr structs) := by
  unfold letExpr
  infer_instance

instance (structs : Bool) : Agree (g.breakExpr structs) (g'.breakExpr structs) := by
  unfold breakExpr
  infer_instance

instance (structs : Bool) : Agree (g.atom structs) (g'.atom structs) := by
  unfold atom
  infer_instance

instance (structs : Bool) : Agree (g.unaryProduction structs) (g'.unaryProduction structs) := by
  unfold unaryProduction
  infer_instance

instance : Agree g.statementExprProduction g'.statementExprProduction := by
  unfold statementExprProduction
  infer_instance

/-! ## Patterns -/

instance : AgreeBy PatternForm.Like (Pure.pure .rest) (Pure.pure .rest) := pure_of .rest

instance (p q : Position) :
    AgreeBy PatternForm.Like (Pure.pure (.openRange p)) (Pure.pure (.openRange q)) :=
  pure_of (.openRange p q)

instance : AgreeBy PatternForm.Like (Pure.pure .other) (Pure.pure .other) := pure_of .other

instance : AgreeBy PatternForm.Like g.rangeRest g'.rangeRest := by
  unfold rangeRest
  infer_instance

instance : AgreeBy PatternForm.Like g.literalPattern g'.literalPattern := by
  unfold literalPattern
  infer_instance

instance : Agree (pathPattern.field g) (pathPattern.field g') := by
  unfold pathPattern.field
  infer_instance

instance : Agree (pathPattern.fields g) (pathPattern.fields g') := by
  unfold pathPattern.fields
  infer_instance

instance : Agree (discard (Parser.parens (Parser.commaList g.patterns)))
    (discard (Parser.parens (Parser.commaList g'.patterns))) :=
  discard_of (group_of _ (commaList_of patterns_agree))

/-- A pattern whose form decides how reading goes on. -/
instance (priority := high) {α : Type} {R : α → α → Prop} {f f' : PatternForm → Parser α}
    [hrest : AgreeBy R (f .rest) (f' .rest)]
    [hopen : ∀ p q, AgreeBy R (f (.openRange p)) (f' (.openRange q))]
    [hother : AgreeBy R (f .other) (f' .other)] : AgreeBy R (g.patterns >>= f) (g'.patterns >>= f') :=
  bind_of patterns_agree fun _ _ h => by
    cases h with
    | rest => exact hrest
    | openRange p q => exact hopen p q
    | other => exact hother

instance : AgreeBy PatternForm.Like g.pathPattern g'.pathPattern := by
  unfold pathPattern
  infer_instance

instance : AgreeBy PatternForm.Like g.patternProduction g'.patternProduction := by
  unfold patternProduction
  infer_instance

/-! ## Statements -/

instance : Blind startsItem := by
  unfold startsItem
  dsimp only
  infer_instance

instance : Agree (discard g.item) (discard g'.item) := discard_of h.item

instance : Agree macroStart macroStart := by
  unfold macroStart
  infer_instance

instance : Agree g.localStatement g'.localStatement := by
  unfold localStatement
  infer_instance

instance : Agree g.statement g'.statement := by
  unfold statement
  infer_instance

instance : Agree g.statementsProduction g'.statementsProduction := by
  unfold statementsProduction
  infer_instance

end Grammar

end ContentModels.Source
