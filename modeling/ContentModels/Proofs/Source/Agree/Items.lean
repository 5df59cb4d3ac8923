import ContentModels.Proofs.Source.Agree.Expressions

/-!
# Items are read alike in different places

The grammars of all depths are alike, as far as they do not give up. So the items of a file do not
depend on where its tokens stand, and an import that is read has words that a text can hold.

## Main statements

* `Grammar.below_ofDepth` — what is read at some depth is read at every larger one.
* `itemsOfTokens_agree` — the items of a file do not depend on where its tokens stand.
-/

namespace ContentModels.Source

open AgreeBy

namespace Grammar

set_option synthInstance.maxSize 1000000

variable {g g' : Grammar} [h : Below g g']

/-! ## Imports -/

theorem startsUse_of_ahead (name : String) (p : Position) (ts : List Token)
    (h : Ahead.any [.ident, .word "self", .word "super", .word "crate", .word "try"]
      (.word name p :: ts) = true) (hword : IsAnyWord name) : startsUse name := by
  refine ⟨hword, ?_⟩
  simpa [Ahead.any, Ahead.ident, Ahead.word] using h

/-- What comes of a tree that is read where imports are. -/
abbrev AgreeUse (p q : Parser (Option UseTree)) : Prop :=
  AgreeBy (fun v w => v = w ∧ ∀ tree ∈ v, tree.IsRead) p q

theorem agreeUse_some {tree : UseTree} (h : tree.IsRead) :
    AgreeUse (Pure.pure (some tree)) (Pure.pure (some tree)) :=
  pure_of ⟨rfl, fun _ hmem => Option.some.inj hmem ▸ h⟩

/-- The trees between braces. -/
theorem agreeUse_group {p q : Parser (Option UseTree)} (h : AgreeUse p q) :
    AgreeUse
      (do
        let items ← Parser.braces (Parser.commaList p)
        return if items.all Option.isSome then some (.group (items.filterMap id)) else none)
      (do
        let items ← Parser.braces (Parser.commaList q)
        return if items.all Option.isSome then some (.group (items.filterMap id)) else none) := by
  refine bind_of (group_of _ (commaList_of h)) fun items items' hitems => pure_of ?_
  have heq : items = items' := by
    have hmap := hitems.imp fun _ _ h => h.1
    rwa [List.forall₂_eq_eq_eq] at hmap
  subst heq
  refine ⟨rfl, fun tree htree => ?_⟩
  split at htree
  · obtain rfl := Option.some.inj htree
    refine .group fun inner hinner => ?_
    obtain ⟨item, hitem, heq⟩ := List.mem_filterMap.1 hinner
    exact (List.forall₂_same.1 hitems item hitem).2 inner heq
  · cases htree

instance (rootInside : Bool) :
    AgreeUse (g.useTreeProduction rootInside) (g'.useTreeProduction rootInside) := by
  unfold useTreeProduction
  refine ite_anyWord startsUse_of_ahead (fun name hname => ?_) ?_
  · refine bind_eq inferInstance fun _ => ite_of ?_ ?_
    · refine bind_of (h.useTree false) fun tree tree' htree => pure_of ⟨congrArg _ htree.1, ?_⟩
      intro outer houter
      obtain ⟨inner, hinner, rfl⟩ := Option.map_eq_some_iff.1 houter
      exact .path hname (htree.2 inner hinner)
    · refine bind_eq inferInstance fun _ => ite_of ?_ (agreeUse_some (.name hname))
      refine ite_anyWord (P := fun w => IsAnyWord w ∧ (isUsableIdent w ∨ w = "_")) ?_ ?_ ?_
      · intro w p ts htest hword
        exact ⟨hword, by simpa [Ahead.any, Ahead.ident, Ahead.word] using htest⟩
      · exact fun w hw => agreeUse_some (.rename hname hw.1 hw.2)
      · exact bind_of (expected _) fun _ _ h => (h : False).elim
  · refine bind_eq inferInstance fun _ => ite_of (agreeUse_some .glob) ?_
    refine bind_eq inferInstance fun _ => ite_of (agreeUse_group ?_) inferInstance
    have hitem (rooted : Bool) : AgreeUse
        (do
          let tree ← g.useTree (rootInside && !rooted)
          return if rooted then none else tree)
        (do
          let tree ← g'.useTree (rootInside && !rooted)
          return if rooted then none else tree) := by
      refine bind_of (h.useTree _) fun tree tree' htree => pure_of ?_
      split
      · exact ⟨rfl, by simp⟩
      · exact htree
    exact ite_of (bind_eq inferInstance hitem) (bind_eq inferInstance hitem)

/-! ## Parts of items -/

theorem restrictionFollows_eq {content content' : List Token} (h : Likes content content')
    (p q close close' : Position) (ts ts' : List Token) :
    restrictionFollows (.group .parenthesis content p close :: ts) =
      restrictionFollows (.group .parenthesis content' q close' :: ts') := by
  cases h with
  | nil => rfl
  | cons h hs =>
    cases hs with
    | nil => cases h <;> rfl
    | cons h' => cases h <;> rfl

instance : Blind restrictionFollows :=
  blind_of_head (fun ts us h => by
    cases h with
    | group d _ _ _ _ h =>
      cases d with
      | parenthesis => exact restrictionFollows_eq h ..
      | _ => rfl
    | _ => rfl)

instance : Blind pathRestrictionFollows :=
  blind_of_head (fun ts us h => by
    cases h with
    | group d _ _ _ _ h =>
      cases d with
      | parenthesis => exact Blind.eq (a := .word "in") _ _ h
      | _ => rfl
    | _ => rfl)

instance : Agree visibility visibility := by
  unfold visibility
  infer_instance

instance : Agree abi? abi? := by
  unfold abi?
  infer_instance

instance (allowSafe : Bool) : Agree (functionFollows allowSafe) (functionFollows allowSafe) := by
  unfold functionFollows
  infer_instance

instance (p q : Position) : AgreeBy (fun _ _ => True) (Pure.pure p) (Pure.pure q) := pure_of trivial

/-- Where a receiver stands is of no matter to what is read. -/
theorem receiver_agree : AgreeBy (fun _ _ => True) g.receiver g'.receiver := by
  unfold receiver
  infer_instance

omit h in
/-- The parameters behind one that was read, if those from the next one on are alike. -/
theorem continues_of {fuel : Nat} (ih : ∀ first received,
    Agree (parameters.go g fuel first received) (parameters.go g' fuel first received))
    (received : Bool) :
    Agree (parameters.continues g fuel received) (parameters.continues g' fuel received) := by
  rw [parameters.continues.eq_1, parameters.continues.eq_1]
  infer_instance

instance (fuel : Nat) (first received : Bool) :
    Agree (parameters.go g fuel first received) (parameters.go g' fuel first received) := by
  induction fuel generalizing first received with
  | zero =>
    rw [parameters.go.eq_1, parameters.go.eq_1]
    infer_instance
  | succ fuel ih =>
    have hcontinues := continues_of ih
    rw [parameters.go.eq_2, parameters.go.eq_2]
    refine bind_eq inferInstance fun _ => ite_of inferInstance ?_
    refine bind_eq inferInstance fun _ => bind_eq inferInstance fun _ => ite_of inferInstance ?_
    refine bind_of (attempt_of receiver_agree) fun v w h => ?_
    cases h <;> infer_instance

instance : Agree g.parameters g'.parameters := by
  unfold parameters parameters.next
  refine discard_of (R := Eq) (bind_get fun t => ?_)
  rw [t.like.rest.length_eq]
  infer_instance

instance (allowSafe : Bool) : Agree (g.signature allowSafe) (g'.signature allowSafe) := by
  unfold signature
  infer_instance

instance : Agree g.namedFields g'.namedFields := by
  unfold namedFields
  infer_instance

instance : Agree g.unnamedFields g'.unnamedFields := by
  unfold unnamedFields
  infer_instance

instance : Agree constName constName := by
  unfold constName
  infer_instance

instance : Agree g.constRest g'.constRest := by
  unfold constRest
  infer_instance

instance (allowDefault : Bool) (place : ConditionPlace) :
    Agree (g.typeAlias allowDefault place) (g'.typeAlias allowDefault place) := by
  unfold typeAlias
  infer_instance

instance : Agree macroItem macroItem := by
  unfold macroItem
  infer_instance

instance : Blind startsMacro := by
  unfold startsMacro
  infer_instance

/-! ## Items of items -/

instance : Agree g.implItem g'.implItem := by
  unfold implItem
  infer_instance

instance : Agree g.traitFunction g'.traitFunction := by
  unfold traitFunction
  infer_instance

instance : Agree g.traitItem g'.traitItem := by
  unfold traitItem
  infer_instance

instance : Agree g.foreignItem g'.foreignItem := by
  unfold foreignItem
  infer_instance

/-! ## Items of a file -/

instance (name : String) :
    AgreeBy Item.Like (Pure.pure (.declaration name)) (Pure.pure (.declaration name)) :=
  pure_of (.declaration name)

instance (model : Option String) (names : List String) :
    AgreeBy Item.Like (Pure.pure (.members model names)) (Pure.pure (.members model names)) :=
  pure_of (.members model names)

instance : AgreeBy Item.Like (Pure.pure .other) (Pure.pure .other) := pure_of .other

instance : AgreeBy Item.Like g.structItem g'.structItem := by
  unfold structItem
  infer_instance

instance : AgreeBy Item.Like g.enumItem g'.enumItem := by
  unfold enumItem
  infer_instance

instance : AgreeBy Item.Like g.unionItem g'.unionItem := by
  unfold unionItem
  infer_instance

instance : Agree g.traitRest g'.traitRest := by
  unfold traitRest
  infer_instance

instance : AgreeBy Item.Like g.traitOrAlias g'.traitOrAlias := by
  unfold traitOrAlias
  infer_instance

instance : AgreeBy Item.Like g.markedTrait g'.markedTrait := by
  unfold markedTrait
  infer_instance

instance : AgreeBy Item.Like g.implItems g'.implItems := by
  unfold implItems
  infer_instance

instance : Agree (discard (Parser.untilEnd g.item)) (discard (Parser.untilEnd g'.item)) :=
  discard_of (untilEnd_of h.item)

instance : AgreeBy Item.Like g.moduleItem g'.moduleItem := by
  unfold moduleItem
  infer_instance

instance : AgreeBy Item.Like externCrate externCrate := by
  unfold externCrate
  infer_instance

instance : AgreeBy Item.Like g.foreignBlock g'.foreignBlock := by
  unfold foreignBlock
  infer_instance

instance : AgreeBy Item.Like g.useItem g'.useItem := by
  unfold useItem
  refine bind_eq inferInstance fun _ => bind_eq inferInstance fun _ => ?_
  refine bind_eq inferInstance fun rooted => bind_of (h.useTree _) fun tree tree' htree => ?_
  obtain ⟨rfl, htree⟩ := htree
  refine bind_eq inferInstance fun _ => pure_of ?_
  cases tree with
  | none => exact .other
  | some tree => exact .use ⟨rooted, tree⟩ (htree tree rfl)

instance : AgreeBy Item.Like g.staticItem g'.staticItem := by
  unfold staticItem
  infer_instance

instance : AgreeBy Item.Like macroDefinition macroDefinition := by
  unfold macroDefinition
  infer_instance

instance : AgreeBy Item.Like macroCallItem macroCallItem := by
  unfold macroCallItem
  refine bind_here fun pos pos' => bind_eq inferInstance fun path => ?_
  refine bind_eq inferInstance fun _ => bind_eq inferInstance fun named => ?_
  have hcall : AgreeBy Item.Like
      (do
        let (d, content, close) ← Parser.anyGroup
        if d != .brace then Parser.mark ";"
        return if named then .other else .macroCall ⟨path, pos, content, close⟩)
      (do
        let (d, content, close) ← Parser.anyGroup
        if d != .brace then Parser.mark ";"
        return if named then .other else .macroCall ⟨path, pos', content, close⟩) := by
    refine bind_of anyGroup fun v w hv => ?_
    obtain ⟨d, content, close⟩ := v
    obtain ⟨d', content', close'⟩ := w
    obtain ⟨rfl, hcontent⟩ : d = d' ∧ Likes content content' := hv
    have hitem : Item.Like
        (if named then .other else .macroCall ⟨path, pos, content, close⟩)
        (if named then .other else .macroCall ⟨path, pos', content', close'⟩) := by
      split
      · exact .other
      · exact .macroCall rfl hcontent
    exact ite_of (bind_eq inferInstance fun _ => pure_of hitem) (pure_of hitem)
  exact ite_of (bind_eq inferInstance fun _ => hcall) hcall

instance : AgreeBy Item.Like g.itemProduction g'.itemProduction := by
  unfold itemProduction
  infer_instance

/-! ## Grammars of different depths -/

theorem agree_tooDeep {α : Type} {R : α → α → Prop} (q : Parser α) :
    AgreeBy R (Parser.fail .tooDeep) q where
  outcome scope _ i _ _ := by
    obtain ⟨p, hp⟩ := fail_eq (α := α) .tooDeep scope i
    rw [hp]
    exact .tooDeep rfl

theorem below_nothing (g : Grammar) : Below nothing g where
  type _ := agree_tooDeep _
  unary _ := agree_tooDeep _
  operators _ _ _ := agree_tooDeep _
  statementExpr := agree_tooDeep _
  genericParam := agree_tooDeep _
  genericArgument := agree_tooDeep _
  pattern := agree_tooDeep _
  statements := agree_tooDeep _
  item := agree_tooDeep _
  useTree _ := agree_tooDeep _

theorem below_succ {n m : Nat} (h : Below (ofDepth n) (ofDepth m)) :
    Below (ofDepth (n + 1)) (ofDepth (m + 1)) where
  type plus :=
    inferInstanceAs (Agree ((ofDepth n).typeProduction plus) ((ofDepth m).typeProduction plus))
  unary structs :=
    inferInstanceAs (Agree ((ofDepth n).unaryProduction structs) ((ofDepth m).unaryProduction structs))
  operators structs base form :=
    inferInstanceAs (Agree ((ofDepth n).operatorsProduction structs base form)
      ((ofDepth m).operatorsProduction structs base form))
  statementExpr :=
    inferInstanceAs (Agree (ofDepth n).statementExprProduction (ofDepth m).statementExprProduction)
  genericParam :=
    inferInstanceAs (Agree (ofDepth n).genericParamProduction (ofDepth m).genericParamProduction)
  genericArgument :=
    inferInstanceAs
      (Agree (ofDepth n).genericArgumentProduction (ofDepth m).genericArgumentProduction)
  pattern :=
    inferInstanceAs
      (AgreeBy PatternForm.Like (ofDepth n).patternProduction (ofDepth m).patternProduction)
  statements :=
    inferInstanceAs (Agree (ofDepth n).statementsProduction (ofDepth m).statementsProduction)
  item := inferInstanceAs (AgreeBy Item.Like (ofDepth n).itemProduction (ofDepth m).itemProduction)
  useTree rootInside :=
    inferInstanceAs
      (AgreeUse ((ofDepth n).useTreeProduction rootInside) ((ofDepth m).useTreeProduction rootInside))

/-- What is read at some depth is read at every larger one. -/
theorem below_ofDepth {n m : Nat} (h : n ≤ m) : Below (ofDepth n) (ofDepth m) := by
  induction n generalizing m with
  | zero => exact below_nothing _
  | succ n ih =>
    obtain ⟨m, rfl⟩ := Nat.exists_eq_add_one.2 (Nat.zero_lt_of_lt h)
    exact below_succ (ih (Nat.le_of_succ_le_succ h))

end Grammar

/-! ## Whole files -/

mutual

theorem Token.Like.size_eq {t u : Token} (h : t.Like u) : t.size = u.size := by
  cases h with
  | group _ _ _ _ _ hcontent => simp [Token.size, hcontent.listSize_eq]
  | _ => rfl

theorem Likes.listSize_eq {ts us : List Token} (h : Likes ts us) :
    Token.listSize ts = Token.listSize us := by
  cases h with
  | nil => rfl
  | cons ht hs => simp [Token.listSize, ht.size_eq, hs.listSize_eq]

end

/-- The items of a file do not depend on where its tokens stand. -/
theorem itemsOfTokens_agree {ts us : List Token} (h : Likes ts us) {l : List Item}
    (hitems : itemsOfTokens ts = .ok l) :
    ∃ l', itemsOfTokens us = .ok l' ∧ List.Forall₂ Item.Like l l' := by
  have hbelow : Grammar.Below (.forTokens ts) (.forTokens us) := by
    rw [Grammar.forTokens, Grammar.forTokens, h.listSize_eq]
    exact Grammar.below_ofDepth (Nat.le_refl _)
  exact readAll_of (bind_eq inferInstance fun _ => untilEnd_of hbelow.item) h hitems

end ContentModels.Source
