import ContentModels.Proofs.Source.Agree.Items
import ContentModels.Proofs.Source.Before
import ContentModels.Proofs.Source.Running

/-!
# Types are read before a closing bracket

A type stands as an argument between angle brackets, so it is read before a closing one.

## Main definitions

* `Grammar.IsType` — tokens that are read as a type.
* `Grammar.Inside` — a grammar that reads before a closing bracket what another one reads alone.

## Main statements

* `Grammar.inside_ofDepth` — every grammar reads what a less deep one reads alone.
* `Grammar.IsType.angleArguments_eq` — the tokens of a type are read as an argument between angle
  brackets.
-/

namespace ContentModels.Source

open Before

namespace Grammar

set_option synthInstance.maxSize 1000000

variable {c : Closing} {g g' : Grammar}

/-- A grammar that reads types before a closing bracket as another one reads them alone. -/
class Inside (c : Closing) (g g' : Grammar) : Prop extends Below g g' where
  type_before (plus : Bool) : Before c (g.type plus) (g'.type plus)
  genericParam_before : Before c g.genericParam g'.genericParam
  genericArgument_before : Before c g.genericArgument g'.genericArgument
  type_hungry (plus : Bool) : Hungry (g.type plus)
  genericParam_hungry : Hungry g.genericParam
  genericArgument_hungry : Hungry g.genericArgument

attribute [instance] Inside.type_before Inside.genericParam_before Inside.genericArgument_before
  Inside.type_hungry Inside.genericParam_hungry Inside.genericArgument_hungry

variable [h : Inside c g g']

instance : Before c g.outerAttributes g'.outerAttributes := by
  unfold outerAttributes
  infer_instance

instance : Before c g.attributedBlock g'.attributedBlock := by
  unfold attributedBlock
  infer_instance

instance : Before c g.constArgument g'.constArgument := by
  unfold constArgument
  infer_instance

instance : Before c preciseCapture preciseCapture := by
  unfold preciseCapture
  infer_instance

instance : Before c g.boundLifetimes g'.boundLifetimes := by
  unfold boundLifetimes
  infer_instance

instance : Before c g.boundLifetimes? g'.boundLifetimes? := by
  unfold boundLifetimes?
  infer_instance

instance : Before c g.parenArguments g'.parenArguments := by
  unfold parenArguments
  infer_instance

instance : Before c g.angleArguments g'.angleArguments := by
  unfold angleArguments
  infer_instance

instance : Steady c parensFollow := by
  unfold parensFollow
  infer_instance

instance (inExpr : Bool) : Before c (g.segment inExpr) (g'.segment inExpr) := by
  unfold segment
  infer_instance

instance (inExpr : Bool) : Before c (g.moreSegments inExpr) (g'.moreSegments inExpr) := by
  unfold moreSegments
  infer_instance

instance (inExpr : Bool) : Before c (g.path inExpr) (g'.path inExpr) := by
  unfold path
  infer_instance

instance (inExpr : Bool) : Before c (g.qualifiedPath inExpr) (g'.qualifiedPath inExpr) := by
  unfold qualifiedPath
  infer_instance

instance (allowConst : Bool) : Before c (g.traitBound allowConst) (g'.traitBound allowConst) := by
  unfold traitBound
  infer_instance

instance (allowCapture allowConst : Bool) :
    Before c (g.bound allowCapture allowConst) (g'.bound allowCapture allowConst) := by
  unfold bound
  infer_instance

instance (plus allowCapture allowConst : Bool) :
    Before c (g.bounds plus allowCapture allowConst) (g'.bounds plus allowCapture allowConst) := by
  unfold bounds
  infer_instance

instance (stop : Ahead) [Steady c stop] : Before c (g.boundsUpTo stop) (g'.boundsUpTo stop) := by
  unfold boundsUpTo
  infer_instance

instance (allowCapture allowConst : Bool) : Hungry (g.bound allowCapture allowConst) where
  fails scope l r h := by cases h

instance (stop : Ahead) [Watchful c stop] : Before c (g.boundsUpTo stop) (g'.boundsUpTo stop) := by
  unfold boundsUpTo
  infer_instance

instance : Before c g.genericArgumentProduction g'.genericArgumentProduction := by
  unfold genericArgumentProduction
  refine bind_of inferInstance fun _ => ite_of inferInstance ?_
  refine bind_of inferInstance fun _ => ite_of inferInstance ?_
  refine bind_of inferInstance fun argument => ?_
  split <;> infer_instance

instance : Before c g.functionPointer g'.functionPointer := by
  unfold functionPointer
  infer_instance

instance (start start' : Position) (plus : Bool) :
    Before c (g.objectBounds start plus) (g'.objectBounds start' plus) := by
  unfold objectBounds
  infer_instance

instance : Before c g.addedBounds g'.addedBounds := by
  unfold addedBounds
  infer_instance

instance (plus : Bool) : Before c (g.parenType plus) (g'.parenType plus) := by
  unfold parenType
  infer_instance

/-! ### The arguments of function traits -/

theorem bind_congr_of {α β : Type} {p : Parser α} {f f' : α → Parser β} {scope : Scope} {i : Input}
    (h : ∀ v m, p scope i = .ok (v, m) → f v scope m = f' v scope m) :
    (p >>= f) scope i = (p >>= f') scope i := by
  rw [Parser.Running.run_bind, Parser.Running.run_bind]
  cases hp : p scope i with
  | error e => rfl
  | ok r => exact h r.1 r.2 hp

include h in
/-- The arguments of a function trait are a group at least. -/
theorem length_lt_of_parenArguments {scope : Scope} {i o : Input} {v : Bool × Bool}
    (hp : g.parenArguments scope i = .ok (v, o)) : o.rest.length < i.rest.length := by
  have hresult : Before c
      (do
        if ← Parser.mark? "->" then
          let output ← g.type false
          return (output.kind == .paren, output.endsWithBrace)
        return (true, false))
      (do
        if ← Parser.mark? "->" then
          let output ← g'.type false
          return (output.kind == .paren, output.endsWithBrace)
        return (true, false)) := inferInstance
  obtain ⟨_, m, hgroup, hrest⟩ := Parser.bind_ok_iff.1 hp
  obtain ⟨_, hgroup⟩ := Parser.discard_ok_iff.1 hgroup
  obtain ⟨content, pos, close, heq⟩ := group_ok hgroup
  rw [heq, List.length_cons]
  exact Nat.lt_succ_of_le (hresult.suffix hrest).length_le

include h in
/-- Arguments use up tokens, so that there are never too many of them. -/
theorem extended_eq {n m : Nat} (p : NamePath) {scope : Scope} {i : Input} (hn : i.rest.length < n)
    (hm : i.rest.length < m) : pathType.extended g n p scope i = pathType.extended g m p scope i := by
  induction n generalizing m p i with
  | zero => exact absurd hn (Nat.not_lt_zero _)
  | succ n ih =>
    obtain ⟨m, rfl⟩ := Nat.exists_eq_add_one.2 (Nat.zero_lt_of_lt hm)
    rw [pathType.extended.eq_2, pathType.extended.eq_2]
    refine bind_congr_of fun b i₁ h₁ => ?_
    cases h₁
    split
    · rfl
    refine bind_congr_of fun _ i₂ h₂ => bind_congr_of fun v i₃ h₃ => ?_
    have hmark : Before c (Functor.discard (Parser.mark? "::")) (Functor.discard (Parser.mark? "::")) :=
      inferInstance
    have hsegments : Before c (g.moreSegments false) (g'.moreSegments false) := inferInstance
    have hlength : i₃.rest.length < i.rest.length :=
      Nat.lt_of_lt_of_le (length_lt_of_parenArguments (c := c) (h := h) h₃) (hmark.suffix h₂).length_le
    have hgoesOn (more : List Segment) (i₄ : Input) (h₄ : i₄.rest.length ≤ i₃.rest.length) :
        (if more.isEmpty then (Pure.pure (p.withArguments .paren, v.2) : Parser (NamePath × Bool))
          else pathType.extended g n
            { p.withArguments .paren with
              segments := (p.withArguments .paren).segments ++ more }) scope i₄ =
        (if more.isEmpty then (Pure.pure (p.withArguments .paren, v.2) : Parser (NamePath × Bool))
          else pathType.extended g m
            { p.withArguments .paren with
              segments := (p.withArguments .paren).segments ++ more }) scope i₄ := by
      split
      · rfl
      · exact ih _ (by omega) (by omega)
    obtain ⟨goesOn, endsWithBrace⟩ := v
    cases goesOn
    · exact hgoesOn [] i₃ (Nat.le_refl _)
    · exact bind_congr_of fun more i₄ h₄ => hgoesOn more i₄ (hsegments.suffix h₄).length_le

instance (fuel : Nat) (p : NamePath) :
    Before c (pathType.extended g fuel p) (pathType.extended g' fuel p) := by
  induction fuel generalizing p with
  | zero => exact pure _
  | succ fuel ih =>
    unfold pathType.extended
    infer_instance

/-- As many arguments of function traits as there are tokens. -/
theorem extended_before (p : NamePath) :
    Before c (do pathType.extended g ((← get).rest.length + 1) p)
      (do pathType.extended g' ((← get).rest.length + 1) p) := by
  have hfuel (n : Nat) : Before c (pathType.extended g n p) (pathType.extended g' n p) :=
    inferInstance
  constructor
  case suffix =>
    intro scope i v o hp
    exact (hfuel (i.rest.length + 1)).suffix hp
  case stuck =>
    intro scope i v o hp
    exact (hfuel (i.rest.length + 1)).stuck hp
  case before =>
    intro scope i v o scope' i' hp hopen hi
    have hlength := hi.rest.length_le
    have hmore : pathType.extended g (i'.rest.length + 1) p scope i = .ok (v, o) := by
      rw [← hp]
      exact extended_eq (c := c) (h := h) p (by omega) (by omega)
    exact (hfuel (i'.rest.length + 1)).before scope' hmore hopen hi

instance (plus binder : Bool) : Before c (g.pathType plus binder) (g'.pathType plus binder) := by
  unfold pathType
  refine bind_of inferInstance fun v => ?_
  have hbind {f f' : NamePath × Bool → Parser TypeForm} (hf : ∀ r, Before c (f r) (f' r)) :=
    bind_of (extended_before (c := c) (h := h) v.2) hf
  simp only [bind_assoc] at hbind
  exact hbind fun _ => inferInstance

instance (plus : Bool) : Before c (g.typeProduction plus) (g'.typeProduction plus) := by
  unfold typeProduction
  infer_instance

/-! ## Generics -/

instance (stop : Ahead) [Steady c stop] :
    Before c (lifetimeParam.lifetimesUpTo stop) (lifetimeParam.lifetimesUpTo stop) := by
  unfold lifetimeParam.lifetimesUpTo
  infer_instance

instance : Before c g.lifetimeParam g'.lifetimeParam := by
  unfold lifetimeParam
  infer_instance

instance : Before c g.typeParam g'.typeParam := by
  unfold typeParam
  infer_instance

instance : Before c g.constParam g'.constParam := by
  unfold constParam
  infer_instance

instance : Before c g.genericParamProduction g'.genericParamProduction := by
  unfold genericParamProduction
  infer_instance

/-! ## Grammars of different depths -/

instance (plus : Bool) : Hungry (g.typeProduction plus) where
  fails scope l r h := by cases h

instance : Hungry g.genericParamProduction where
  fails scope l r h := by cases h

omit h in
theorem hungry_genericArgument (htype : Hungry (g.type true)) :
    Hungry g.genericArgumentProduction where
  fails scope l r hr := by
    rw [genericArgumentProduction, ite_ahead_eq, if_neg (by simp [Ahead.lifetime]), ite_ahead_eq,
      if_neg (by simp [Ahead.any, Ahead.literal, Ahead.brace, Ahead.group])] at hr
    obtain ⟨v, m, hv, -⟩ := Parser.bind_ok_iff.1 hr
    exact htype.fails scope l _ hv

theorem hungry_fail {α : Type} (fault : SyntaxFault) : Hungry (Parser.fail fault : Parser α) where
  fails scope _ r := fail_ne_ok _ scope _ r

/-- Every grammar reads before a closing bracket what a less deep one reads alone. -/
theorem inside_ofDepth (c : Closing) {n m : Nat} (h : n ≤ m) :
    Inside c (ofDepth n) (ofDepth m) := by
  induction n generalizing m with
  | zero =>
    exact {
      toBelow := below_nothing _
      type_before _ := of_fails (fail_ne_ok _)
      genericParam_before := of_fails (fail_ne_ok _)
      genericArgument_before := of_fails (fail_ne_ok _)
      type_hungry _ := hungry_fail _
      genericParam_hungry := hungry_fail _
      genericArgument_hungry := hungry_fail _ }
  | succ n ih =>
    obtain ⟨m, rfl⟩ := Nat.exists_eq_add_one.2 (Nat.zero_lt_of_lt h)
    have hinside : Inside c (ofDepth n) (ofDepth m) := ih (Nat.le_of_succ_le_succ h)
    exact {
      toBelow := below_ofDepth h
      type_before plus := inferInstanceAs
        (Before c ((ofDepth n).typeProduction plus) ((ofDepth m).typeProduction plus))
      genericParam_before := inferInstanceAs
        (Before c (ofDepth n).genericParamProduction (ofDepth m).genericParamProduction)
      genericArgument_before := inferInstanceAs
        (Before c (ofDepth n).genericArgumentProduction (ofDepth m).genericArgumentProduction)
      type_hungry plus := inferInstanceAs (Hungry ((ofDepth n).typeProduction plus))
      genericParam_hungry := inferInstanceAs (Hungry (ofDepth n).genericParamProduction)
      genericArgument_hungry := hungry_genericArgument (g := ofDepth n) (hinside.type_hungry true) }

end Grammar

end ContentModels.Source

/-! ## Types as arguments -/

namespace ContentModels.Source

namespace Grammar

open ContentModels.Source.Parser ContentModels.Source.Parser.Running

variable {c : Closing} {g : Grammar} {n m : Nat} {ts us : List Token} {scope : Scope}

/-- Tokens that are a type, read at some depth. -/
def IsType (n : Nat) (ts : List Token) : Prop :=
  ∃ close v, Parser.readAll ((ofDepth n).type true) close ts = .ok v

/-- A type is read before a closing bracket as it is read alone. -/
theorem IsType.type_eq (h : IsType n ts) (hm : n ≤ m) (hus : Followed c ts us) (scope : Scope) :
    ∃ v, (ofDepth m).type true scope ⟨us, none⟩ = .ok (v, ⟨c.tokens, none⟩) := by
  obtain ⟨close, v, hread⟩ := h
  have hin := inside_ofDepth c hm
  have halone := readAll_ok_iff.1 hread
  have hopen : ¬EndsOpen ts := fun hopen => by
    simpa using (hin.type_before true).stuck halone hopen
  obtain ⟨o, ho, hrest, hleftover⟩ := (hin.type_before true).before scope halone hopen
    (⟨hus, rfl⟩ : Input.Followed c ⟨ts, none⟩ ⟨us, none⟩)
  obtain ⟨rest, leftover⟩ := o
  cases leftover with
  | some _ => simp at hleftover
  | none =>
    cases hrest with
    | nil => exact ⟨v, ho⟩

/-! ## What a type does not start with -/

/-- What a type may start with. -/
def typeHeads : List Ahead := [.word "for", .paren, .any [.word "fn", .word "unsafe", .word "extern"],
  .any [.ident, .word "super", .word "self", .word "Self", .word "crate", .mark "::", .mark "<"],
  .word "dyn", .bracket, .mark "*", .mark "&", .mark "!", .word "impl", .word "_", .lifetime]

theorem startsType_of_ok {plus : Bool} {i : Input} {r : TypeForm × Input}
    (h : g.typeProduction plus scope i = .ok r) : Ahead.any typeHeads i.rest = true := by
  by_contra hnone
  simp only [typeHeads, any_cons, Bool.or_eq_true, not_or, Bool.not_eq_true] at hnone
  obtain ⟨hfor, hparen, hfn, hpath, hdyn, hbracket, hstar, hand, hbang, himpl, hhole, hlife, -⟩ := hnone

  simp only [typeProduction, ↓run_bind, ↓run_ahead, ↓onward_ok, ↓run_ite, ↓run_here, ↓run_word?,
    ↓run_mark?, ↓run_expected, ↓run_pure, any_cons, hfor, hparen, hfn, hpath, hdyn, hbracket, hstar,
    hand, hbang, himpl, hhole, hlife, Bool.or_self, Bool.false_eq_true, if_false] at h
  cases h

/-- A type starts neither like a constant nor with a closing bracket. -/
theorem notConst_of_typeHeads (h : Ahead.any typeHeads ts = true) :
    Ahead.any [.literal, .brace] ts = false ∧ Ahead.mark ">" ts = false := by
  cases ts with
  | nil => exact ⟨rfl, rfl⟩
  | cons t ts =>
    cases t with
    | word name p =>
      have hname : (name == "true" || name == "false") = false := by
        by_contra hne
        rw [Bool.not_eq_false, Bool.or_eq_true, beq_iff_eq, beq_iff_eq] at hne
        rcases hne with rfl | rfl <;> revert h <;> simp [typeHeads] <;> decide
      simp [hname]
    | punct d joint p =>
      have hne : d ≠ '-' ∧ d ≠ '>' := by
        constructor <;> rintro rfl <;> revert h <;> simp [typeHeads]
      simp [hne, Ne.symm hne.2]
    | literal value => revert h; simp [typeHeads]
    | lifetime name p => simp
    | group d content p close =>
      cases d <;> revert h <;> simp [typeHeads]

/-- A type that starts with a lifetime is a sum of bounds. -/
theorem plus_of_lifetime {plus : Bool} {i : Input} {r : TypeForm × Input}
    (h : g.typeProduction plus scope i = .ok r) (hlife : Ahead.lifetime i.rest = true) :
    Ahead.second (.mark "+") i.rest = true := by
  obtain ⟨rest, leftover⟩ := i
  cases rest with
  | nil => cases hlife
  | cons t ts =>
    cases t with
    | lifetime name p =>
      by_contra hplus
      have hmarks : Ahead.marks ['+'] ts = false := Bool.not_eq_true _ ▸ hplus
      simp [typeProduction, objectBounds, bounds, bound, hmarks] at h
    | _ => cases hlife

/-- A type before a closing bracket is an argument. -/
theorem IsType.genericArgument_eq (h : IsType (n + 1) ts) (hm : n ≤ m) (hus : Followed c ts us)
    (scope : Scope) : (ofDepth (m + 2)).genericArgument scope ⟨us, none⟩ =
      .ok ((), ⟨c.tokens, none⟩) := by
  obtain ⟨v, hv⟩ := h.type_eq (Nat.succ_le_succ hm) hus scope
  have hprod : (ofDepth m).typeProduction true scope ⟨us, none⟩ = .ok (v, ⟨c.tokens, none⟩) := hv
  have hhead := startsType_of_ok hprod
  have hconst := (notConst_of_typeHeads hhead).1
  have hplus := plus_of_lifetime hprod
  have hnot : (Ahead.lifetime us && !Ahead.second (.mark "+") us) = false := by
    cases hlife : Ahead.lifetime us with
    | true => simp [hplus hlife]
    | false => rfl
  simp only [genericArgument_succ, genericArgumentProduction, ↓run_bind, ↓run_ahead, ↓onward_ok,
    ↓run_ite, hnot, hconst, Bool.false_eq_true, if_false, hv]
  -- Only a single name can take a value or bounds, and neither follows.
  rcases v.kind with ⟨_ | _, _ | ⟨⟨name, arguments⟩, _ | _⟩⟩ | _ | _ | _ | _
  case path.false.cons.nil => cases arguments <;> simp [Closing.tokens]
  all_goals rfl

/-- A type before a closing bracket is read between angle brackets. -/
theorem IsType.angleArguments_eq (h : IsType (n + 1) ts) (hm : n ≤ m) (hus : Followed c ts us)
    (p : Position) (joint : Bool) :
    (ofDepth (m + 2)).angleArguments scope ⟨.punct '<' joint p :: us, none⟩ =
      .ok (false, ⟨c.more, none⟩) := by
  obtain ⟨v, hv⟩ := h.type_eq (Nat.succ_le_succ hm) hus scope
  have hclose := (notConst_of_typeHeads (startsType_of_ok hv)).2
  have hargument := h.genericArgument_eq hm hus scope
  have hmarks : Ahead.marks ['>'] us = false := hclose
  simp [angleArguments, separated, hmarks, -genericArgument_succ, hargument, Closing.tokens]

end Grammar

end ContentModels.Source
