import ContentModels.Proofs.Source.Agree
import ContentModels.Source.Grammar.File

/-!
# Types are read alike in different places

What the productions of a grammar call is the grammar of a smaller depth. They do the same in
different places if these do. Patterns may answer where the dots of a range stand, and macro calls
where they stand, so their answers are compared up to places.

## Main definitions

* `PatternForm.Like`, `Item.Like` — what two readers that are alike may answer.
* `UseTree.IsRead` — the imports that a text can hold.
* `Grammar.Below` — a grammar that does the same as another one, or gives up.
-/

namespace ContentModels.Source

open AgreeBy

/-- Patterns that differ in where the dots of a range stand. -/
inductive PatternForm.Like : PatternForm → PatternForm → Prop
  | rest : PatternForm.Like .rest .rest
  | openRange (p q : Position) : PatternForm.Like (.openRange p) (.openRange q)
  | other : PatternForm.Like .other .other

/-- Whether a name may stand in an import. -/
def startsUse (name : String) : Prop :=
  IsAnyWord name ∧ (isUsableIdent name ∨ name ∈ ["self", "super", "crate", "try"])

/-- The imports that a text can hold. -/
inductive UseTree.IsRead : UseTree → Prop
  | path {name : String} {tree : UseTree} (hname : startsUse name) (htree : tree.IsRead) :
      IsRead (.path name tree)
  | name {name : String} (hname : startsUse name) : IsRead (.name name)
  | rename {name newName : String} (hname : startsUse name) (hword : IsAnyWord newName)
      (hnew : isUsableIdent newName ∨ newName = "_") : IsRead (.rename name newName)
  | glob : IsRead .glob
  | group {items : List UseTree} (h : ∀ tree ∈ items, tree.IsRead) : IsRead (.group items)

/-- Items that differ in where they stand. Imports are those that a text can hold. -/
inductive Item.Like : Item → Item → Prop
  | members (model : Option String) (names : List String) :
      Item.Like (.members model names) (.members model names)
  | declaration (name : String) : Item.Like (.declaration name) (.declaration name)
  | macroCall {call call' : MacroCall} (path : call.path = call'.path)
      (arguments : Likes call.arguments call'.arguments) :
      Item.Like (.macroCall call) (.macroCall call')
  | use (item : UseItem) (h : item.tree.IsRead) : Item.Like (.use item) (.use item)
  | other : Item.Like .other .other

namespace Grammar

/-- A grammar whose productions do the same as those of another one, unless they give up. -/
class Below (g g' : Grammar) : Prop where
  type (plus : Bool) : Agree (g.type plus) (g'.type plus)
  unary (structs : Bool) : Agree (g.unary structs) (g'.unary structs)
  operators (structs : Bool) (base : Precedence) (form : ExprForm) :
    Agree (g.operators structs base form) (g'.operators structs base form)
  statementExpr : Agree g.statementExpr g'.statementExpr
  genericParam : Agree g.genericParam g'.genericParam
  genericArgument : Agree g.genericArgument g'.genericArgument
  pattern : AgreeBy PatternForm.Like g.pattern g'.pattern
  statements : Agree g.statements g'.statements
  item : AgreeBy Item.Like g.item g'.item
  useTree (rootInside : Bool) : AgreeBy (fun v w => v = w ∧ ∀ tree ∈ v, tree.IsRead)
    (g.useTree rootInside) (g'.useTree rootInside)

attribute [instance] Below.type Below.unary Below.operators Below.statementExpr Below.genericParam
  Below.genericArgument Below.statements

set_option synthInstance.maxSize 1000000

variable {g g' : Grammar} [h : Below g g']

instance (structs : Bool) : Agree (g.expr structs) (g'.expr structs) := by
  unfold expr
  infer_instance

instance : Agree plainPath plainPath := by
  unfold plainPath
  infer_instance

instance : Agree g.attributeContent g'.attributeContent := by
  unfold attributeContent
  infer_instance

instance : Agree g.outerAttributes g'.outerAttributes := by
  unfold outerAttributes
  infer_instance

instance : Agree g.innerAttributes g'.innerAttributes := by
  unfold innerAttributes
  infer_instance

instance : Agree g.block g'.block := by
  unfold block
  infer_instance

instance : Agree g.attributedBlock g'.attributedBlock := by
  unfold attributedBlock
  infer_instance

/-! ## Types -/

instance : Agree g.constArgument g'.constArgument := by
  unfold constArgument
  infer_instance

instance : Agree preciseCapture preciseCapture := by
  unfold preciseCapture
  infer_instance

instance : Agree g.boundLifetimes g'.boundLifetimes := by
  unfold boundLifetimes
  infer_instance

instance : Agree g.boundLifetimes? g'.boundLifetimes? := by
  unfold boundLifetimes?
  infer_instance

instance : Agree g.parenArguments g'.parenArguments := by
  unfold parenArguments
  infer_instance

instance : Agree g.angleArguments g'.angleArguments := by
  unfold angleArguments
  infer_instance

instance : Blind parensFollow := by
  unfold parensFollow
  infer_instance

instance (inExpr : Bool) : Agree (g.segment inExpr) (g'.segment inExpr) := by
  unfold segment
  infer_instance

instance (inExpr : Bool) : Agree (g.moreSegments inExpr) (g'.moreSegments inExpr) := by
  unfold moreSegments
  infer_instance

instance (inExpr : Bool) : Agree (g.path inExpr) (g'.path inExpr) := by
  unfold path
  infer_instance

instance (inExpr : Bool) : Agree (g.qualifiedPath inExpr) (g'.qualifiedPath inExpr) := by
  unfold qualifiedPath
  infer_instance

instance (allowConst : Bool) : Agree (g.traitBound allowConst) (g'.traitBound allowConst) := by
  unfold traitBound
  infer_instance

instance (allowCapture allowConst : Bool) :
    Agree (g.bound allowCapture allowConst) (g'.bound allowCapture allowConst) := by
  unfold bound
  infer_instance

instance (plus allowCapture allowConst : Bool) :
    Agree (g.bounds plus allowCapture allowConst) (g'.bounds plus allowCapture allowConst) := by
  unfold bounds
  infer_instance

instance (stop : Ahead) [Blind stop] : Agree (g.boundsUpTo stop) (g'.boundsUpTo stop) := by
  unfold boundsUpTo
  infer_instance

instance (stop : Ahead) [Blind stop] : Agree (g.boundsThrough stop) (g'.boundsThrough stop) := by
  unfold boundsThrough
  infer_instance

instance : Agree g.genericArgumentProduction g'.genericArgumentProduction := by
  unfold genericArgumentProduction
  refine bind_eq inferInstance fun _ => ite_of inferInstance ?_
  refine bind_eq inferInstance fun _ => ite_of inferInstance ?_
  refine bind_eq inferInstance fun argument => ?_
  split <;> infer_instance

instance : Blind functionPointer.ellipsisAfterColon := by
  have h : functionPointer.ellipsisAfterColon = Ahead.third (.mark "...") := by
    funext ts
    match ts with
    | [] => rfl
    | [_] => rfl
    | _ :: _ :: _ => rfl
  rw [h]
  infer_instance

instance (first : Bool) :
    Agree (functionPointer.argument g first) (functionPointer.argument g' first) := by
  unfold functionPointer.argument
  infer_instance

instance {p q : Bool → Parser (Option Unit)} [∀ b, Agree (p b) (q b)] :
    Agree (functionPointer.repeatFirst p) (functionPointer.repeatFirst q) := by
  unfold functionPointer.repeatFirst
  infer_instance

instance : Agree g.functionPointer g'.functionPointer := by
  unfold functionPointer
  infer_instance

instance (start start' : Position) (plus : Bool) :
    Agree (g.objectBounds start plus) (g'.objectBounds start' plus) := by
  unfold objectBounds
  infer_instance

instance : Agree g.addedBounds g'.addedBounds := by
  unfold addedBounds
  infer_instance

instance (plus : Bool) : Agree (g.parenType plus) (g'.parenType plus) := by
  unfold parenType
  infer_instance

instance (fuel : Nat) (p : NamePath) :
    Agree (pathType.extended g fuel p) (pathType.extended g' fuel p) := by
  induction fuel generalizing p with
  | zero => unfold pathType.extended; infer_instance
  | succ fuel ih =>
    unfold pathType.extended
    infer_instance

instance (t : Input.Twin) (p : NamePath) :
    Agree (pathType.extended g (t.left.rest.length + 1) p)
      (pathType.extended g' (t.right.rest.length + 1) p) := by
  rw [t.like.rest.length_eq]
  infer_instance

instance (plus binder : Bool) : Agree (g.pathType plus binder) (g'.pathType plus binder) := by
  unfold pathType
  infer_instance

instance (plus : Bool) : Agree (g.typeProduction plus) (g'.typeProduction plus) := by
  unfold typeProduction
  infer_instance

/-! ## Generics -/

instance (stop : Ahead) [Blind stop] :
    Agree (lifetimeParam.lifetimesUpTo stop) (lifetimeParam.lifetimesUpTo stop) := by
  unfold lifetimeParam.lifetimesUpTo
  infer_instance

instance : Agree g.lifetimeParam g'.lifetimeParam := by
  unfold lifetimeParam
  infer_instance

instance : Agree g.typeParam g'.typeParam := by
  unfold typeParam
  infer_instance

instance : Agree g.constParam g'.constParam := by
  unfold constParam
  infer_instance

instance : Agree g.genericParamProduction g'.genericParamProduction := by
  unfold genericParamProduction
  infer_instance

instance : Agree g.generics g'.generics := by
  unfold generics
  infer_instance

instance : Blind endsConditions := by
  unfold endsConditions
  infer_instance

instance : Agree g.condition g'.condition := by
  unfold condition
  infer_instance

instance : Agree g.whereClause? g'.whereClause? := by
  unfold whereClause?
  infer_instance

instance : Blind parametersFollow := by
  unfold parametersFollow
  infer_instance

end Grammar

end ContentModels.Source
