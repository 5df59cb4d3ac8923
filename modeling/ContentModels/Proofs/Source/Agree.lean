import ContentModels.Source.Parser
import Mathlib.Data.List.Forall2

/-!
# Readers that do the same in different places

Where tokens stand matters for the place of an error alone. Two readers are alike if they do the
same on tokens that differ in their places: both succeed, or both fail. A reader that gives up on
the depth of nesting says nothing, so that a reader with a smaller bound is alike to one with a
larger bound.

The instances follow the ways in which readers are put together, so that two readers that are
written alike are found to be alike.

## Main definitions

* `Token.Like`, `Likes` — tokens that differ in their places.
* `AgreeBy`, `Agree` — readers that do the same on such tokens.
* `Blind` — a look ahead that does not see places.

## Main statements

* `AgreeBy.bind` — one reader after the other.
* `AgreeBy.repeatUntil`, `AgreeBy.attempt`, `AgreeBy.group` — readers made from others.
-/

namespace ContentModels.Source

/-! ## Tokens -/

/-- What a text can hold as a word: an identifier or a keyword, perhaps a raw one. -/
def IsAnyWord (text : String) : Prop := anyIdent text.toList = some (text.toList, [])

instance (text : String) : Decidable (IsAnyWord text) := inferInstanceAs (Decidable (_ = _))

mutual

/-- Tokens that differ in where they stand. Words are those that a text can hold. -/
inductive Token.Like : Token → Token → Prop
  | word {text : String} (p q : Position) (h : IsAnyWord text) :
      Token.Like (.word text p) (.word text q)
  | punct (c : Char) (joint : Bool) (p q : Position) :
      Token.Like (.punct c joint p) (.punct c joint q)
  | lifetime (name : String) (p q : Position) : Token.Like (.lifetime name p) (.lifetime name q)
  | literal (value : Literal) (p q : Position) : Token.Like (.literal value p) (.literal value q)
  | group (d : Delimiter) {content content' : List Token} (p q close close' : Position)
      (h : Likes content content') :
      Token.Like (.group d content p close) (.group d content' q close')

/-- Lists of such tokens. -/
inductive Likes : List Token → List Token → Prop
  | nil : Likes [] []
  | cons {t u : Token} {ts us : List Token} (h : t.Like u) (hs : Likes ts us) :
      Likes (t :: ts) (u :: us)

end

theorem Likes.length_eq {ts us : List Token} (h : Likes ts us) : ts.length = us.length := by
  induction ts generalizing us with
  | nil => cases h; rfl
  | cons t ts ih =>
    cases h with
    | cons _ hs => simp [ih hs]

theorem Likes.tail {ts us : List Token} (h : Likes ts us) : Likes ts.tail us.tail := by
  cases h with
  | nil => exact .nil
  | cons _ hs => exact hs

theorem Likes.isSome_head? {ts us : List Token} (h : Likes ts us) :
    ts.head?.isSome = us.head?.isSome := by
  cases h <;> rfl

theorem Likes.drop {ts us : List Token} (h : Likes ts us) (n : Nat) :
    Likes (ts.drop n) (us.drop n) := by
  induction n generalizing ts us with
  | zero => simpa using h
  | succ n ih =>
    rw [← List.drop_tail, ← List.drop_tail]
    exact ih h.tail

/-- What is left to read, up to places. -/
structure Input.Like (i i' : Input) : Prop where
  rest : Likes i.rest i'.rest
  leftover : i.leftover.isSome = i'.leftover.isSome

/-- What is left to read in two places. -/
structure Input.Twin where
  left : Input
  right : Input
  like : left.Like right

/-! ## Readers -/

variable {α β γ : Type}

/-- What comes of two readers. -/
inductive Outcome (R : α → α → Prop) :
    Except SyntaxError (α × Input) → Except SyntaxError (α × Input) → Prop
  | ok {v w : α} {o o' : Input} (value : R v w) (rest : o.Like o') :
      Outcome R (.ok (v, o)) (.ok (w, o'))
  | error {e e' : SyntaxError} (real : e.fault ≠ .tooDeep) (real' : e'.fault ≠ .tooDeep) :
      Outcome R (.error e) (.error e')
  /-- The first one gives up. -/
  | tooDeep {e : SyntaxError} {r : Except SyntaxError (α × Input)} (deep : e.fault = .tooDeep) :
      Outcome R (.error e) r

/-- Readers that do the same on tokens that differ in their places. The values that they answer are
related by `R`. -/
class AgreeBy (R : α → α → Prop) (p q : Parser α) : Prop where
  outcome : ∀ scope scope' i i', Input.Like i i' → Outcome R (p scope i) (q scope' i')

/-- Readers that do the same on tokens that differ in their places, and answer the same. -/
abbrev Agree (p q : Parser α) : Prop := AgreeBy Eq p q

namespace AgreeBy

variable {R : α → α → Prop} {S : β → β → Prop} {T : γ → γ → Prop}

theorem pure_of {v w : α} (h : R v w) : AgreeBy R (pure v) (pure w) where
  outcome _ _ _ _ hi := .ok h hi

instance pure (v : α) : Agree (pure v) (pure v) := pure_of rfl

/-- One reader after the other. -/
theorem bind_of {p q : Parser α} {f f' : α → Parser β} (hp : AgreeBy R p q)
    (hf : ∀ v w, R v w → AgreeBy S (f v) (f' w)) : AgreeBy S (p >>= f) (q >>= f') where
  outcome scope scope' i i' hi := by
    have h := hp.outcome scope scope' i i' hi
    change Outcome S ((p scope i) >>= fun r => f r.1 scope r.2)
      ((q scope' i') >>= fun r => f' r.1 scope' r.2)
    generalize p scope i = r at h
    generalize q scope' i' = r' at h
    cases h with
    | ok value rest => exact (hf _ _ value).outcome _ _ _ _ rest
    | error real real' => exact .error real real'
    | tooDeep deep => exact .tooDeep deep

theorem bind_eq {p q : Parser α} {f f' : α → Parser β} (hp : Agree p q)
    (hf : ∀ v, AgreeBy S (f v) (f' v)) : AgreeBy S (p >>= f) (q >>= f') :=
  bind_of hp fun v _ h => h ▸ hf v

instance bind {p q : Parser α} {f f' : α → Parser β} [hp : Agree p q]
    [hf : ∀ v, AgreeBy S (f v) (f' v)] : AgreeBy S (p >>= f) (q >>= f') := bind_eq hp hf

instance (priority := high) bindPair {p q : Parser (α × β)} {f f' : α × β → Parser γ}
    [hp : Agree p q]
    [hf : ∀ v w, AgreeBy T (f (v, w)) (f' (v, w))] : AgreeBy T (p >>= f) (q >>= f') :=
  bind_of hp fun v _ h => h ▸ hf v.1 v.2

/-- A reader that may answer nothing, and what goes on from either answer. -/
instance (priority := high) bindOption {p q : Parser (Option α)} {f f' : Option α → Parser β}
    [hp : Agree p q] [hnone : AgreeBy S (f none) (f' none)]
    [hsome : ∀ v, AgreeBy S (f (some v)) (f' (some v))] : AgreeBy S (p >>= f) (q >>= f') :=
  bind_eq hp fun v => by
    cases v with
    | none => exact hnone
    | some v => exact hsome v

theorem map_of {p q : Parser α} {f : α → β} (hp : AgreeBy R p q)
    (hf : ∀ v w, R v w → S (f v) (f w)) :
    AgreeBy S (f <$> p) (f <$> q) := by
  rw [map_eq_pure_bind, map_eq_pure_bind]
  exact bind_of hp fun v w h => pure_of (hf v w h)

instance map {p q : Parser α} {f : α → β} [hp : Agree p q] : Agree (f <$> p) (f <$> q) :=
  map_of hp fun _ _ h => congrArg f h

theorem discard_of {p q : Parser α} (h : AgreeBy R p q) : Agree (discard p) (discard q) :=
  map_of h fun _ _ _ => rfl

instance discard {p q : Parser α} [h : Agree p q] : Agree (discard p) (discard q) := discard_of h

theorem ite_of {c : Prop} [Decidable c] {p q p' q' : Parser α} (hp : AgreeBy R p p')
    (hq : AgreeBy R q q') : AgreeBy R (if c then p else q) (if c then p' else q') := by
  split
  · exact hp
  · exact hq

instance ite {c : Prop} [Decidable c] {p q p' q' : Parser α} [hp : AgreeBy R p p']
    [hq : AgreeBy R q q'] : AgreeBy R (if c then p else q) (if c then p' else q') := ite_of hp hq

/-! ### Looking ahead -/

/-- A look ahead that does not see places. -/
class Blind (a : Ahead) : Prop where
  eq : ∀ ts us, Likes ts us → a ts = a us

/-- Tests of what comes next, none of which sees places. -/
class AllBlind (l : List Ahead) : Prop where
  blind : ∀ a ∈ l, Blind a

/-- A test of the next token alone. -/
theorem blind_of_head {a : Ahead}
    (same : ∀ {t u : Token} (ts us : List Token), t.Like u → a (t :: ts) = a (u :: us)) : Blind a where
  eq _ _ h := by
    cases h with
    | nil => rfl
    | cons h _ => exact same _ _ h

instance (text : String) : Blind (.word text) :=
  blind_of_head fun _ _ h => by cases h <;> rfl

instance : Blind .ident := blind_of_head fun _ _ h => by cases h <;> rfl

instance : Blind .anyWord := blind_of_head fun _ _ h => by cases h <;> rfl

instance : Blind .lifetime := blind_of_head fun _ _ h => by cases h <;> rfl

instance (d : Delimiter) : Blind (.group d) :=
  blind_of_head fun _ _ h => by cases h <;> rfl

instance : Blind .paren := inferInstanceAs (Blind (.group .parenthesis))
instance : Blind .bracket := inferInstanceAs (Blind (.group .bracket))
instance : Blind .brace := inferInstanceAs (Blind (.group .brace))

instance : Blind .text := blind_of_head fun _ _ h => by
  cases h with
  | literal value => cases value <;> rfl
  | _ => rfl

theorem marks_eq {ts us : List Token} (h : Likes ts us) (cs : List Char) :
    Ahead.marks cs ts = Ahead.marks cs us := by
  induction cs generalizing ts us with
  | nil => simp [Ahead.marks]
  | cons c more ih =>
    cases h with
    | nil => rfl
    | cons h hs =>
      cases h with
      | punct d joint p q => cases more <;> simp [Ahead.marks, ih hs]
      | _ => cases more <;> rfl

instance (cs : List Char) : Blind (.marks cs) := ⟨fun _ _ h => marks_eq h cs⟩

instance (text : String) : Blind (.mark text) := ⟨fun _ _ h => marks_eq h text.toList⟩

instance : Blind .literal where
  eq _ _ h := by
    cases h with
    | nil => rfl
    | cons h hs =>
      cases h with
      | punct c joint p q =>
        by_cases hc : c = '-'
        · subst hc
          cases hs with
          | nil => rfl
          | cons h' _ =>
            cases h' with
            | literal value => cases value <;> rfl
            | _ => rfl
        · simp [Ahead.literal, hc]
      | _ => rfl

instance : Blind .atEnd where
  eq _ _ h := by cases h <;> rfl

instance {a : Ahead} [h : Blind a] : Blind (.second a) where
  eq ts us hl := by
    cases hl with
    | nil => rfl
    | cons _ hs => exact h.eq _ _ hs

instance {a : Ahead} [Blind a] : Blind (.third a) := inferInstanceAs (Blind (.second (.second a)))

instance : AllBlind [] := ⟨by simp⟩

instance {a : Ahead} {l : List Ahead} [ha : Blind a] [hl : AllBlind l] : AllBlind (a :: l) :=
  ⟨List.forall_mem_cons.2 ⟨ha, hl.blind⟩⟩

instance {l l' : List Ahead} [hl : AllBlind l] [hl' : AllBlind l'] : AllBlind (l ++ l') :=
  ⟨List.forall_mem_append.2 ⟨hl.blind, hl'.blind⟩⟩

instance {c : Prop} [Decidable c] {l l' : List Ahead} [hl : AllBlind l] [hl' : AllBlind l'] :
    AllBlind (if c then l else l') := by
  split
  · exact hl
  · exact hl'

instance {l : List Ahead} [hl : AllBlind l] : Blind (.any l) where
  eq ts us h := by
    rw [Ahead.any, Ahead.any, Bool.eq_iff_iff, List.any_eq_true, List.any_eq_true]
    exact exists_congr fun a => and_congr_right fun ha => by rw [(hl.blind a ha).eq ts us h]

instance (b : Bool) : Blind fun _ => b := ⟨fun _ _ _ => rfl⟩

instance {a b : Ahead} [ha : Blind a] [hb : Blind b] : Blind fun ts => a ts && b ts :=
  ⟨fun ts us h => by rw [ha.eq ts us h, hb.eq ts us h]⟩

instance {a b : Ahead} [ha : Blind a] [hb : Blind b] : Blind fun ts => a ts || b ts :=
  ⟨fun ts us h => by rw [ha.eq ts us h, hb.eq ts us h]⟩

instance {a : Ahead} [ha : Blind a] :
    Blind fun ts => !a ts := ⟨fun ts us h => by rw [ha.eq ts us h]⟩

instance {a b : Ahead} [Blind a] [Blind b] : Blind (.butNot a b) :=
  inferInstanceAs (Blind fun ts => a ts && !b ts)

instance ahead (a : Ahead) [h : Blind a] : Agree (Parser.ahead a) (Parser.ahead a) where
  outcome _ _ _ _ hi := .ok (h.eq _ _ hi.rest) hi

/-! ### Errors and places -/

theorem outcome_error {e e' : SyntaxError} (h : e.fault = e'.fault) :
    Outcome R (.error e) (.error e') := by
  by_cases deep : e.fault = .tooDeep
  · exact .tooDeep deep
  · exact .error deep (h ▸ deep)

instance failAt (p q : Position) (fault : SyntaxFault) :
    AgreeBy R (Parser.failAt p fault) (Parser.failAt q fault) where
  outcome _ _ _ _ _ := outcome_error rfl

theorem fail_eq (fault : SyntaxFault) (scope : Scope) (i : Input) : ∃ p,
    (Parser.fail fault : Parser α) scope i = .error ⟨fault, i.rest.isEmpty, p⟩ := by
  obtain ⟨rest, leftover⟩ := i
  cases rest <;> exact ⟨_, rfl⟩

instance fail (fault : SyntaxFault) : AgreeBy R (Parser.fail fault) (Parser.fail fault) where
  outcome scope scope' i i' _ := by
    obtain ⟨p, hp⟩ := fail_eq (α := α) fault scope i
    obtain ⟨q, hq⟩ := fail_eq (α := α) fault scope' i'
    rw [hp, hq]
    exact outcome_error rfl

instance expected (alternatives : List Expectation) :
    AgreeBy R (Parser.expected alternatives) (Parser.expected alternatives) :=
  inferInstanceAs (AgreeBy R (Parser.fail _) (Parser.fail _))

instance refuse (reason : String) : AgreeBy R (Parser.refuse reason) (Parser.refuse reason) :=
  inferInstanceAs (AgreeBy R (Parser.fail _) (Parser.fail _))

/-- Where the next token stands is of no matter to what is read. -/
instance here : AgreeBy (fun _ _ => True) Parser.here Parser.here where
  outcome _ _ i i' hi := by
    obtain ⟨rest, _⟩ := i
    obtain ⟨rest', _⟩ := i'
    cases rest <;> cases rest' <;> exact .ok trivial hi

theorem bind_here {f f' : Position → Parser β} (hf : ∀ p q, AgreeBy S (f p) (f' q)) :
    AgreeBy S (Parser.here >>= f) (Parser.here >>= f') :=
  bind_of here fun p q _ => hf p q

instance (priority := high) bindHere {f f' : Position → Parser β}
    [hf : ∀ p q, AgreeBy S (f p) (f' q)] : AgreeBy S (Parser.here >>= f) (Parser.here >>= f') :=
  bind_here hf

/-- A reader that looks at all that is left. -/
theorem bind_get {f f' : Input → Parser β}
    (hf : ∀ t : Input.Twin, AgreeBy S (f t.left) (f' t.right)) :
    AgreeBy S (get >>= f) (get >>= f') where
  outcome scope scope' i i' hi := (hf ⟨i, i', hi⟩).outcome scope scope' i i' hi

instance (priority := high) bindGet {f f' : Input → Parser β}
    [hf : ∀ t : Input.Twin, AgreeBy S (f t.left) (f' t.right)] :
    AgreeBy S (get >>= f) (get >>= f') := bind_get hf

/-- Conditions on what is left. -/
class SameTest (b b' : Bool) : Prop where
  eq : b = b'

instance (b : Bool) : SameTest b b := ⟨rfl⟩

instance (a : Ahead) [ha : Blind a] (t : Input.Twin) : SameTest (a t.left.rest) (a t.right.rest) :=
  ⟨ha.eq _ _ t.like.rest⟩

instance {b b' c c' : Bool} [hb : SameTest b b'] [hc : SameTest c c'] :
    SameTest (b && c) (b' && c') := ⟨by rw [hb.eq, hc.eq]⟩

instance {b b' c c' : Bool} [hb : SameTest b b'] [hc : SameTest c c'] :
    SameTest (b || c) (b' || c') := ⟨by rw [hb.eq, hc.eq]⟩

instance {b b' : Bool} [hb : SameTest b b'] : SameTest (!b) (!b') := ⟨by rw [hb.eq]⟩

instance iteTest {b b' : Bool} {p q p' q' : Parser α} [hb : SameTest b b'] [hp : AgreeBy R p p']
    [hq : AgreeBy R q q'] :
    AgreeBy R (if b = true then p else q) (if b' = true then p' else q') := by
  rw [hb.eq]
  infer_instance

instance set (t : Input.Twin) : Agree (set t.left : Parser PUnit) (set t.right) where
  outcome _ _ _ _ _ := .ok rfl t.like

/-! ### Single tokens -/

instance drop : Agree Parser.drop Parser.drop where
  outcome _ _ _ _ hi := .ok rfl ⟨hi.rest.tail, hi.leftover⟩

instance dropMany (n : Nat) : Agree (modify fun i : Input => { i with rest := i.rest.drop n })
    (modify fun i : Input => { i with rest := i.rest.drop n } : Parser PUnit) where
  outcome _ _ _ _ hi := .ok rfl ⟨hi.rest.drop n, hi.leftover⟩

instance skipAll : Agree Parser.skipAll Parser.skipAll where
  outcome _ _ _ _ hi := .ok rfl ⟨.nil, hi.leftover⟩

instance word (text : String) : Agree (Parser.word text) (Parser.word text) := by
  unfold Parser.word
  infer_instance

instance word? (text : String) : Agree (Parser.word? text) (Parser.word? text) := by
  unfold Parser.word?
  infer_instance

instance mark (text : String) : Agree (Parser.mark text) (Parser.mark text) := by
  unfold Parser.mark
  infer_instance

instance mark? (text : String) : Agree (Parser.mark? text) (Parser.mark? text) := by
  unfold Parser.mark?
  infer_instance

instance lifetime : Agree Parser.lifetime Parser.lifetime := by
  unfold Parser.lifetime
  infer_instance

/-- A word that is read is one that a text can hold. -/
theorem anyWord_isAnyWord :
    AgreeBy (fun v w => v = w ∧ IsAnyWord v) Parser.anyWord Parser.anyWord where
  outcome scope scope' i i' hi := by
    obtain ⟨rest, l⟩ := i
    obtain ⟨rest', l'⟩ := i'
    cases hi.rest with
    | cons h hs =>
      cases h with
      | word p q h => exact .ok ⟨rfl, h⟩ ⟨hs, hi.leftover⟩
      | _ => exact (expected _).outcome scope scope' _ _ hi
    | _ => exact (expected _).outcome scope scope' _ _ hi

instance anyWord : Agree Parser.anyWord Parser.anyWord := by
  have h := map_of (S := Eq) (f := id) anyWord_isAnyWord fun v w h => h.1
  rwa [id_map] at h

/-- A word that is read if a test holds of it. -/
theorem ite_anyWord {a : Ahead} [ha : Blind a] {P : String → Prop}
    (hP : ∀ w p ts, a (.word w p :: ts) = true → IsAnyWord w → P w) {f f' : String → Parser β}
    (hf : ∀ w, P w → AgreeBy S (f w) (f' w)) {q q' : Parser β} (hq : AgreeBy S q q') :
    AgreeBy S (do if ← Parser.ahead a then f (← Parser.anyWord) else q)
      (do if ← Parser.ahead a then f' (← Parser.anyWord) else q') where
  outcome scope scope' i i' hi := by
    have hsame : a i.rest = a i'.rest := ha.eq _ _ hi.rest
    change Outcome S ((if a i.rest = true then Parser.anyWord >>= f else q) scope i)
      ((if a i'.rest = true then Parser.anyWord >>= f' else q') scope' i')
    rw [← hsame]
    split
    · next htest =>
      have hread : AgreeBy (fun v w => v = w ∧ IsAnyWord v) Parser.anyWord Parser.anyWord :=
        anyWord_isAnyWord
      obtain ⟨rest, l⟩ := i
      obtain ⟨rest', l'⟩ := i'
      cases hi.rest with
      | nil => exact (bind_of (expected _) fun _ _ h => (h : False).elim).outcome scope scope' _ _ hi
      | cons h hs =>
        cases h with
        | word p q hw => exact (hf _ (hP _ _ _ htest hw)).outcome scope scope' _ _ ⟨hs, hi.leftover⟩
        | _ => exact (bind_of (expected _) fun _ _ h => (h : False).elim).outcome scope scope' _ _ hi
    · exact hq.outcome scope scope' i i' hi

instance ident : Agree Parser.ident Parser.ident where
  outcome scope scope' i i' hi := by
    obtain ⟨rest, l⟩ := i
    obtain ⟨rest', l'⟩ := i'
    cases hi.rest with
    | cons h hs =>
      cases h with
      | @word text p q h =>
        let read : Parser String :=
          if isUsableIdent text then do Parser.drop; return text else Parser.fail (.keyword text)
        have read : Agree read read := inferInstance
        exact read.outcome scope scope' _ _ hi
      | _ => exact (expected _).outcome scope scope' _ _ hi
    | _ => exact (expected _).outcome scope scope' _ _ hi

instance text : Agree Parser.text Parser.text where
  outcome scope scope' i i' hi := by
    obtain ⟨rest, l⟩ := i
    obtain ⟨rest', l'⟩ := i'
    cases hi.rest with
    | cons h hs =>
      cases h with
      | literal value =>
        cases value with
        | text value => exact .ok rfl ⟨hs, hi.leftover⟩
        | _ => exact (expected _).outcome scope scope' _ _ hi
      | _ => exact (expected _).outcome scope scope' _ _ hi
    | _ => exact (expected _).outcome scope scope' _ _ hi

instance literal : Agree Parser.literal Parser.literal where
  outcome scope scope' i i' hi := by
    let signed : Parser Unit := do
      if ← Parser.ahead .literal then do Parser.drop; Parser.drop
      else Parser.expected [.literal]
    let unsigned : Parser Unit := do
      if ← Parser.ahead .literal then Parser.drop else Parser.expected [.literal]
    have signed : Agree signed signed := inferInstance
    have unsigned : Agree unsigned unsigned := inferInstance
    obtain ⟨rest, l⟩ := i
    obtain ⟨rest', l'⟩ := i'
    cases hi.rest with
    | nil => exact unsigned.outcome scope scope' _ _ hi
    | cons h hs =>
      cases h with
      | punct => exact signed.outcome scope scope' _ _ hi
      | _ => exact unsigned.outcome scope scope' _ _ hi

/-! ### Groups -/

/-- A group whose content two readers read alike. -/
theorem group_of (d : Delimiter) {p q : Parser α} (h : AgreeBy R p q) :
    AgreeBy R (Parser.group d p) (Parser.group d q) where
  outcome scope scope' i i' hi := by
    obtain ⟨rest, leftover⟩ := i
    obtain ⟨rest', leftover'⟩ := i'
    cases hi.rest with
    | nil => exact (expected _).outcome scope scope' _ _ hi
    | cons ht hs =>
      cases ht with
      | group d' _ _ close close' hcontent =>
        by_cases hd : d = d'
        · have hinner := h.outcome ⟨close, some d⟩ ⟨close', some d⟩ ⟨_, leftover⟩ ⟨_, leftover'⟩
            ⟨hcontent, hi.leftover⟩
          simp only [Parser.group, if_pos hd]
          generalize p _ _ = r at hinner ⊢
          generalize q _ _ = r' at hinner ⊢
          cases hinner with
          | ok value inner =>
            refine .ok value ⟨hs, ?_⟩
            simp [inner.leftover, inner.rest.isSome_head?]
          | error real real' => exact .error real real'
          | tooDeep deep => exact .tooDeep deep
        · simp only [Parser.group, if_neg hd]
          exact (expected _).outcome scope scope' _ _ hi
      | _ => exact (expected _).outcome scope scope' _ _ hi

instance group (d : Delimiter) {p q : Parser α} [h : AgreeBy R p q] :
    AgreeBy R (Parser.group d p) (Parser.group d q) := group_of d h

instance parens {p q : Parser α} [h : AgreeBy R p q] :
    AgreeBy R (Parser.parens p) (Parser.parens q) := group_of _ h

instance brackets {p q : Parser α} [h : AgreeBy R p q] :
    AgreeBy R (Parser.brackets p) (Parser.brackets q) := group_of _ h

instance braces {p q : Parser α} [h : AgreeBy R p q] :
    AgreeBy R (Parser.braces p) (Parser.braces q) := group_of _ h

/-- A group that is read as it is. -/
theorem anyGroup :
    AgreeBy (fun v w => v.1 = w.1 ∧ Likes v.2.1 w.2.1) Parser.anyGroup Parser.anyGroup where
  outcome scope scope' i i' hi := by
    obtain ⟨rest, l⟩ := i
    obtain ⟨rest', l'⟩ := i'
    cases hi.rest with
    | cons h hs =>
      cases h with
      | group d p q close close' h => exact .ok ⟨rfl, h⟩ ⟨hs, hi.leftover⟩
      | _ => exact (expected _).outcome scope scope' _ _ hi
    | _ => exact (expected _).outcome scope scope' _ _ hi

instance discardAnyGroup :
    Agree (Functor.discard Parser.anyGroup) (Functor.discard Parser.anyGroup) := discard_of anyGroup

instance (priority := high) bindAnyGroup {f f' : Delimiter × List Token × Position → Parser β}
    [hf : ∀ d content content' p q, AgreeBy S (f (d, content, p)) (f' (d, content', q))] :
    AgreeBy S (Parser.anyGroup >>= f) (Parser.anyGroup >>= f') :=
  bind_of anyGroup fun v w h => by
    obtain ⟨d, content, p⟩ := v
    obtain ⟨d', content', q⟩ := w
    obtain rfl : d = d' := h.1
    exact hf d content content' p q

/-! ### Trying and repeating -/

/-- A reader that is tried fails in one place if it fails in the other. -/
theorem attempt_of {p q : Parser α} (h : AgreeBy R p q) :
    AgreeBy (Option.Rel R) (Parser.attempt p) (Parser.attempt q) where
  outcome scope scope' i i' hi := by
    have ho := h.outcome scope scope' i i' hi
    unfold Parser.attempt
    generalize p scope i = r at ho ⊢
    generalize q scope' i' = r' at ho ⊢
    cases ho with
    | ok value rest => exact .ok (.some value) rest
    | error real real' =>
      simp only [if_neg real, if_neg real']
      exact .ok .none hi
    | tooDeep deep =>
      simp only [if_pos deep]
      exact .tooDeep deep

instance attempt {p q : Parser α} [h : Agree p q] :
    Agree (Parser.attempt p) (Parser.attempt q) := by
  have h := map_of (S := Eq) (f := id) (attempt_of h) fun v w h => by
    cases h with
    | some h => rw [h]
    | none => rfl
  rwa [id_map, id_map] at h

theorem peek_of {p q : Parser α} (h : AgreeBy R p q) :
    AgreeBy R (Parser.peek p) (Parser.peek q) where
  outcome scope scope' i i' hi := by
    have ho := h.outcome scope scope' i i' hi
    change Outcome R (p scope i >>= fun r => .ok (r.1, i)) (q scope' i' >>= fun r => .ok (r.1, i'))
    generalize p scope i = r at ho ⊢
    generalize q scope' i' = r' at ho ⊢
    cases ho with
    | ok value rest => exact .ok value hi
    | error real real' => exact .error real real'
    | tooDeep deep => exact .tooDeep deep

instance peek {p q : Parser α} [h : AgreeBy R p q] : AgreeBy R (Parser.peek p) (Parser.peek q) :=
  peek_of h

instance wouldRead {p q : Parser α} [h : Agree p q] :
    Agree (Parser.wouldRead p) (Parser.wouldRead q) := by
  unfold Parser.wouldRead
  infer_instance

theorem repeatFor_of {p q : Parser (Option α)} (h : AgreeBy (Option.Rel R) p q) (fuel : Nat) :
    AgreeBy (List.Forall₂ R) (Parser.repeatFor p fuel) (Parser.repeatFor q fuel) := by
  induction fuel with
  | zero => exact fail _
  | succ fuel ih =>
    refine bind_of h fun v w hv => ?_
    cases hv with
    | none => exact pure_of .nil
    | some hv => exact bind_of ih fun _ _ hs => pure_of (.cons hv hs)

/-- A reader that is repeated. The lists that are left have the same length, so that both readers
may be repeated as often. -/
theorem repeatUntil_of {p q : Parser (Option α)} (h : AgreeBy (Option.Rel R) p q) :
    AgreeBy (List.Forall₂ R) (Parser.repeatUntil p) (Parser.repeatUntil q) where
  outcome scope scope' i i' hi := by
    have ho := (repeatFor_of h (i.rest.length + 2)).outcome scope scope' i i' hi
    change Outcome _ (Parser.repeatFor p (i.rest.length + 2) scope i)
      (Parser.repeatFor q (i'.rest.length + 2) scope' i')
    rwa [hi.rest.length_eq] at ho ⊢

theorem rel_of_eq {p q : Parser (Option α)} (h : Agree p q) : AgreeBy (Option.Rel Eq) p q := by
  have h := map_of (S := Option.Rel Eq) (f := id) h fun v w h => by
    subst h
    cases v with
    | none => exact .none
    | some v => exact .some rfl
  rwa [id_map, id_map] at h

instance repeatUntil {p q : Parser (Option α)} [h : Agree p q] :
    Agree (Parser.repeatUntil p) (Parser.repeatUntil q) := by
  have h := repeatUntil_of (rel_of_eq h)
  rwa [List.forall₂_eq_eq_eq] at h

/-- A loop over a list. -/
theorem forIn_of {l : List α} {b : β} {f f' : α → β → Parser (ForInStep β)}
    (hf : ∀ x b, Agree (f x b) (f' x b)) : Agree (ForIn.forIn l b f) (ForIn.forIn l b f') := by
  induction l generalizing b with
  | nil => exact pure _
  | cons x l ih =>
    simp only [List.forIn_cons]
    refine bind_eq (hf x b) fun r => ?_
    cases r with
    | done b => exact pure _
    | yield b => exact ih

/-- A reader that is repeated to the end of the group. -/
theorem untilEnd_of {p q : Parser α} (h : AgreeBy R p q) :
    AgreeBy (List.Forall₂ R) (Parser.untilEnd p) (Parser.untilEnd q) :=
  repeatUntil_of <| bind_eq (ahead .atEnd) fun _ => ite_of (pure_of .none) <|
    bind_of h fun _ _ hv => pure_of (.some hv)

instance untilEnd {p q : Parser α} [h : Agree p q] :
    Agree (Parser.untilEnd p) (Parser.untilEnd q) := by
  unfold Parser.untilEnd
  infer_instance

theorem separated_of {stop : Ahead} [Blind stop] {sep sep' : Parser Unit} (hsep : Agree sep sep')
    {p q : Parser α} (h : AgreeBy R p q) :
    AgreeBy (List.Forall₂ R) (Parser.separated stop sep p) (Parser.separated stop sep' q) := by
  refine bind_eq (ahead stop) fun _ => ite_of (pure_of .nil) ?_
  refine bind_of h fun _ _ hfirst => bind_of (repeatUntil_of (R := R) ?_) fun _ _ hrest =>
    pure_of (.cons hfirst hrest)
  refine bind_eq (ahead stop) fun _ => ite_of (pure_of .none) ?_
  refine bind_eq hsep fun _ => bind_eq (ahead stop) fun _ => ite_of (pure_of .none) ?_
  exact bind_of h fun _ _ hv => pure_of (.some hv)

instance separated {stop : Ahead} [Blind stop] {sep sep' : Parser Unit} [hsep : Agree sep sep']
    {p q : Parser α} [h : Agree p q] :
    Agree (Parser.separated stop sep p) (Parser.separated stop sep' q) := by
  have h : AgreeBy (List.Forall₂ Eq) (Parser.separated stop sep p) (Parser.separated stop sep' q) :=
    separated_of hsep h
  rwa [List.forall₂_eq_eq_eq] at h

/-- What is separated by commas. -/
theorem commaList_of {p q : Parser α} (h : AgreeBy R p q) :
    AgreeBy (List.Forall₂ R) (Parser.commaList p) (Parser.commaList q) :=
  separated_of inferInstance h

instance commaList {p q : Parser α} [Agree p q] :
    Agree (Parser.commaList p) (Parser.commaList q) := by
  unfold Parser.commaList
  infer_instance

/-! ### Whole lists -/

theorem readAll_of {p q : Parser α} (h : AgreeBy R p q) {ts us : List Token} (hl : Likes ts us)
    {close close' : Position} {v : α} (hread : Parser.readAll p close ts = .ok v) :
    ∃ w, Parser.readAll q close' us = .ok w ∧ R v w := by
  have ho := h.outcome ⟨close, none⟩ ⟨close', none⟩ ⟨ts, none⟩ ⟨us, none⟩ ⟨hl, rfl⟩
  simp only [Parser.readAll] at hread ⊢
  generalize p _ _ = r at ho hread
  generalize q _ _ = r' at ho
  cases ho with
  | @ok v' w o o' value hrest =>
    obtain ⟨rest, leftover⟩ := o
    obtain ⟨rest', leftover'⟩ := o'
    obtain ⟨hrest, hleftover⟩ := hrest
    cases hrest with
    | nil =>
      cases leftover with
      | none =>
        cases leftover' with
        | none =>
          obtain rfl : v' = v := Except.ok.inj hread
          exact ⟨w, rfl, value⟩
        | some _ => cases hleftover
      | some _ => cases hread
    | cons _ _ => cases leftover <;> cases hread
  | error _ _ => cases hread
  | tooDeep _ => cases hread

end AgreeBy

end ContentModels.Source
