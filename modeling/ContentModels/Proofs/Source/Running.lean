import ContentModels.Source.Grammar.File

/-!
# Running readers

What a reader answers on given tokens is computed step by step: the next reader of a sequence is run
on what the one before it left. The equations here are rewritten from the outside in, so that what
comes later is not looked at before it is its turn.

A reader that succeeds tells what the tokens are. The second part reads that off, one equivalence
for each reader of a single token.

## Main definitions

* `Parser.onward` — what goes on from the outcome of a reader.

## Main statements

* `Parser.Running.run_bind` — one reader after the other.
* `Parser.bind_ok_iff`, `Parser.readAll_ok_iff` — where a sequence succeeds, and where all is read.
-/

namespace ContentModels.Source

namespace Parser

variable {α β : Type}

/-- What goes on from the outcome of a reader. -/
def onward (r : Except SyntaxError (α × Input)) (f : α → Parser β) (scope : Scope) :
    Except SyntaxError (β × Input) :=
  r.bind fun v => f v.1 scope v.2

/-- The outcome comes first. -/
@[congr]
theorem onward_congr {r r' : Except SyntaxError (α × Input)} (h : r = r') (f : α → Parser β)
    (scope : Scope) : onward r f scope = onward r' f scope := by rw [h]

/-- The place of the next token, or where the group closes. -/
def place (scope : Scope) : List Token → Position
  | t :: _ => t.pos
  | [] => scope.close

/-- What is left of an attempt with a given outcome, that was made on `i`. -/
def settled (i : Input) : Except SyntaxError (α × Input) → Except SyntaxError (Option α × Input)
  | .ok (value, after) => .ok (some value, after)
  | .error e => if e.fault = .tooDeep then .error e else .ok (none, i)

/-- What comes of a group whose content has the given outcome. -/
def closed (d : Delimiter) (rest : List Token) :
    Except SyntaxError (α × Input) → Except SyntaxError (α × Input)
  | .ok (value, inner) =>
    .ok (value, ⟨rest, inner.leftover <|> inner.rest.head?.map fun t => (t.pos, some d)⟩)
  | .error e => .error e

namespace Running

variable {scope : Scope} {i : Input} {b : Prop} [Decidable b] {text : String} {ts rest : List Token}
  {leftover : Option (Position × Option Delimiter)}

@[scoped simp ↓] theorem onward_ok (v : α) (f : α → Parser β) :
    onward (.ok (v, i)) f scope = f v scope i := (rfl)

@[scoped simp ↓] theorem onward_error (e : SyntaxError) (f : α → Parser β) :
    onward (.error e) f scope = .error e := (rfl)

@[scoped simp] theorem settled_ok (i o : Input) (v : α) :
    settled i (.ok (v, o)) = .ok (some v, o) := (rfl)

@[scoped simp] theorem settled_error (i : Input) (e : SyntaxError) :
    settled i (.error e : Except SyntaxError (α × Input)) =
      if e.fault = .tooDeep then .error e else .ok (none, i) := (rfl)

@[scoped simp] theorem closed_ok (d : Delimiter) (v : α) :
    closed d rest (.ok (v, ⟨[], leftover⟩)) = .ok (v, ⟨rest, leftover⟩) := by
  simp [closed]

@[scoped simp] theorem closed_error (d : Delimiter) (e : SyntaxError) :
    closed d rest (.error e : Except SyntaxError (α × Input)) = .error e := (rfl)

@[scoped simp ↓] theorem run_bind (p : Parser α) (f : α → Parser β) :
    (p >>= f) scope i = onward (p scope i) f scope := (rfl)

@[scoped simp ↓] theorem run_pure (v : α) : (pure v : Parser α) scope i = .ok (v, i) := (rfl)

@[scoped simp ↓] theorem run_map (f : α → β) (p : Parser α) :
    (f <$> p) scope i = onward (p scope i) (fun v => pure (f v)) scope := (rfl)

@[scoped simp ↓] theorem run_discard (p : Parser α) :
    (discard p) scope i = onward (p scope i) (fun _ => pure ()) scope := (rfl)

@[scoped simp ↓] theorem run_ite (p q : Parser α) :
    (if b then p else q) scope i = if b then p scope i else q scope i := by
  split <;> rfl

@[scoped simp ↓] theorem run_get : (get : Parser Input) scope i = .ok (i, i) := (rfl)

@[scoped simp ↓] theorem run_set (j : Input) : (set j : Parser Unit) scope i = .ok ((), j) := (rfl)

@[scoped simp ↓] theorem run_ahead (a : Ahead) : ahead a scope i = .ok (a i.rest, i) := (rfl)

@[scoped simp ↓] theorem run_drop : drop scope i = .ok ((), { i with rest := i.rest.tail }) := (rfl)

@[scoped simp ↓] theorem run_here : here scope i = .ok (place scope i.rest, i) := by
  obtain ⟨rest, leftover⟩ := i
  cases rest <;> rfl

@[scoped simp ↓] theorem run_failAt (p : Position) (fault : SyntaxFault) :
    (failAt p fault : Parser α) scope i = .error ⟨fault, false, p⟩ := (rfl)

@[scoped simp ↓] theorem run_fail (fault : SyntaxFault) :
    (fail fault : Parser α) scope i = .error ⟨fault, i.rest.isEmpty, place scope i.rest⟩ := by
  obtain ⟨rest, leftover⟩ := i
  cases rest <;> rfl

@[scoped simp ↓] theorem run_expected (l : List Expectation) :
    (expected l : Parser α) scope i = .error ⟨.expected l, i.rest.isEmpty, place scope i.rest⟩ :=
  run_fail _

@[scoped simp ↓] theorem run_refuse (reason : String) :
    (refuse reason : Parser α) scope i =
      .error ⟨.refused reason, i.rest.isEmpty, place scope i.rest⟩ :=
  run_fail _

@[scoped simp ↓] theorem run_word : word text scope i =
    if Ahead.word text i.rest then .ok ((), { i with rest := i.rest.tail })
    else .error ⟨.expected [.token text], i.rest.isEmpty, place scope i.rest⟩ := by
  simp [word]

@[scoped simp ↓] theorem run_word? : word? text scope i =
    if Ahead.word text i.rest then .ok (true, { i with rest := i.rest.tail }) else .ok (false, i) := by
  simp [word?]

@[scoped simp ↓] theorem run_mark : mark text scope i =
    if Ahead.mark text i.rest then .ok ((), { i with rest := i.rest.drop text.toList.length })
    else .error ⟨.expected [.token text], false, place scope i.rest⟩ := by
  simp only [mark, run_bind, run_ahead, onward_ok, run_ite, run_here, run_failAt, String.length_toList]
  rfl

@[scoped simp ↓] theorem run_mark? : mark? text scope i =
    if Ahead.mark text i.rest then .ok (true, { i with rest := i.rest.drop text.toList.length })
    else .ok (false, i) := by
  simp only [mark?, run_bind, run_ahead, onward_ok, run_ite, run_mark, run_pure]
  split <;> rfl

@[scoped simp ↓] theorem run_ident_word {name : String} {p : Position} :
    ident scope ⟨.word name p :: rest, leftover⟩ =
      if isUsableIdent name then .ok (name, ⟨rest, leftover⟩) else .error ⟨.keyword name, false, p⟩ := by
  simp only [ident, run_bind, run_get, onward_ok, run_ite, run_drop, run_fail, run_pure]
  rfl

@[scoped simp ↓] theorem run_ident_punct {c : Char} {joint : Bool} {p : Position} :
    ident scope ⟨.punct c joint p :: rest, leftover⟩ =
      .error ⟨.expected [.identifier], false, p⟩ := (rfl)

@[scoped simp ↓] theorem run_anyWord_word {name : String} {p : Position} :
    anyWord scope ⟨.word name p :: rest, leftover⟩ = .ok (name, ⟨rest, leftover⟩) := (rfl)

@[scoped simp ↓] theorem run_literal (value : Literal) (p : Position) :
    literal scope ⟨.literal value p :: rest, leftover⟩ = .ok ((), ⟨rest, leftover⟩) := (rfl)

@[scoped simp ↓] theorem run_literal_word {name : String} {p : Position}
    (h : (name == "true" || name == "false") = true) :
    literal scope ⟨.word name p :: rest, leftover⟩ = .ok ((), ⟨rest, leftover⟩) := by
  simp only [literal, run_bind, run_get, onward_ok, run_ite, run_drop, run_ahead, Ahead.literal, h,
    if_true]
  rfl

@[scoped simp ↓] theorem run_lifetime : lifetime scope i =
    if Ahead.lifetime i.rest then .ok ((), { i with rest := i.rest.tail })
    else .error ⟨.expected [.lifetime], i.rest.isEmpty, place scope i.rest⟩ := by
  simp [lifetime]

@[scoped simp ↓] theorem run_group (d : Delimiter) (p : Parser α) (content : List Token)
    (pos close : Position) : group d p scope ⟨.group d content pos close :: rest, leftover⟩ =
      closed d rest (p ⟨close, some d⟩ ⟨content, leftover⟩) := by
  simp only [group, if_true]
  cases p ⟨close, some d⟩ ⟨content, leftover⟩ <;> rfl

@[scoped simp ↓] theorem run_anyGroup (d : Delimiter) (content : List Token) (pos close : Position) :
    anyGroup scope ⟨.group d content pos close :: rest, leftover⟩ =
      .ok ((d, content, close), ⟨rest, leftover⟩) := (rfl)

@[scoped simp ↓] theorem run_attempt (p : Parser α) : attempt p scope i = settled i (p scope i) := (rfl)

@[scoped simp ↓] theorem run_peek (p : Parser α) :
    peek p scope i = onward (p scope i) (fun v => do set i; return v) scope := (rfl)

@[scoped simp ↓] theorem run_wouldRead (p : Parser α) :
    wouldRead p scope i =
      onward (settled i (p scope i)) (fun v => do set i; return v.isSome) scope := by
  rw [wouldRead, run_peek, run_bind, run_attempt]
  cases settled i (p scope i) <;> rfl

@[scoped simp ↓] theorem run_repeatFor_zero (p : Parser (Option α)) :
    repeatFor p 0 scope i = .error ⟨.tooDeep, i.rest.isEmpty, place scope i.rest⟩ := run_fail _

@[scoped simp ↓] theorem run_repeatFor (p : Parser (Option α)) (fuel : Nat) :
    repeatFor p (fuel + 1) scope i = onward (p scope i)
      (fun
        | some v => do return v :: (← repeatFor p fuel)
        | none => pure []) scope := (rfl)

@[scoped simp ↓] theorem run_repeatUntil (p : Parser (Option α)) :
    repeatUntil p scope i = repeatFor p (i.rest.length + 2) scope i := (rfl)

/-! ### Looking ahead -/

section Ahead

open Ahead

variable {d e : Char} {joint : Bool} {p close : Position} {content : List Token} {cs : List Char}
  {g g' : Delimiter} {name : String} {value : Literal} {a a' : Ahead} {l : List Ahead}

@[scoped simp] theorem word_nil : Ahead.word text [] = false := (rfl)
@[scoped simp] theorem word_word : Ahead.word text (.word name p :: ts) = (name == text) := (rfl)
@[scoped simp] theorem word_punct : Ahead.word text (.punct d joint p :: ts) = false := (rfl)
@[scoped simp] theorem word_lifetime : Ahead.word text (.lifetime name p :: ts) = false := (rfl)
@[scoped simp] theorem word_literal : Ahead.word text (.literal value p :: ts) = false := (rfl)
@[scoped simp] theorem word_group : Ahead.word text (.group g content p close :: ts) = false := (rfl)

@[scoped simp] theorem ident_nil : Ahead.ident [] = false := (rfl)
@[scoped simp] theorem ident_word : Ahead.ident (.word name p :: ts) = isUsableIdent name := (rfl)
@[scoped simp] theorem ident_punct : Ahead.ident (.punct d joint p :: ts) = false := (rfl)
@[scoped simp] theorem ident_lifetime : Ahead.ident (.lifetime name p :: ts) = false := (rfl)
@[scoped simp] theorem ident_literal : Ahead.ident (.literal value p :: ts) = false := (rfl)
@[scoped simp] theorem ident_group : Ahead.ident (.group g content p close :: ts) = false := (rfl)

@[scoped simp] theorem lifetime_nil : Ahead.lifetime [] = false := (rfl)
@[scoped simp] theorem lifetime_word : Ahead.lifetime (.word name p :: ts) = false := (rfl)
@[scoped simp] theorem lifetime_punct : Ahead.lifetime (.punct d joint p :: ts) = false := (rfl)
@[scoped simp] theorem lifetime_lifetime : Ahead.lifetime (.lifetime name p :: ts) = true := (rfl)
@[scoped simp] theorem lifetime_literal : Ahead.lifetime (.literal value p :: ts) = false := (rfl)
@[scoped simp] theorem lifetime_group :
    Ahead.lifetime (.group g content p close :: ts) = false := (rfl)

@[scoped simp] theorem text_nil : Ahead.text [] = false := (rfl)
@[scoped simp] theorem text_word : Ahead.text (.word name p :: ts) = false := (rfl)

@[scoped simp] theorem group_nil : Ahead.group g [] = false := (rfl)
@[scoped simp] theorem group_word : Ahead.group g (.word name p :: ts) = false := (rfl)
@[scoped simp] theorem group_punct : Ahead.group g (.punct d joint p :: ts) = false := (rfl)
@[scoped simp] theorem group_lifetime : Ahead.group g (.lifetime name p :: ts) = false := (rfl)
@[scoped simp] theorem group_literal : Ahead.group g (.literal value p :: ts) = false := (rfl)
@[scoped simp] theorem group_group :
    Ahead.group g (.group g' content p close :: ts) = (g == g') := (rfl)

@[scoped simp] theorem literal_nil : Ahead.literal [] = false := (rfl)
@[scoped simp] theorem literal_word :
    Ahead.literal (.word name p :: ts) = (name == "true" || name == "false") := (rfl)
@[scoped simp] theorem literal_literal : Ahead.literal (.literal value p :: ts) = true := (rfl)
@[scoped simp] theorem literal_lifetime : Ahead.literal (.lifetime name p :: ts) = false := (rfl)
@[scoped simp] theorem literal_group :
    Ahead.literal (.group g content p close :: ts) = false := (rfl)
@[scoped simp] theorem literal_punct (h : d ≠ '-') :
    Ahead.literal (.punct d joint p :: ts) = false := by
  simp [Ahead.literal, h]

@[scoped simp] theorem marks_nil : Ahead.marks cs [] = false := by
  rcases cs with - | ⟨c, - | ⟨e, more⟩⟩ <;> rfl
@[scoped simp] theorem marks_word : Ahead.marks cs (.word name p :: ts) = false := by
  rcases cs with - | ⟨c, - | ⟨e, more⟩⟩ <;> rfl
@[scoped simp] theorem marks_lifetime : Ahead.marks cs (.lifetime name p :: ts) = false := by
  rcases cs with - | ⟨c, - | ⟨e, more⟩⟩ <;> rfl
@[scoped simp] theorem marks_literal : Ahead.marks cs (.literal value p :: ts) = false := by
  rcases cs with - | ⟨c, - | ⟨e, more⟩⟩ <;> rfl
@[scoped simp] theorem marks_group : Ahead.marks cs (.group g content p close :: ts) = false := by
  rcases cs with - | ⟨c, - | ⟨e, more⟩⟩ <;> rfl
@[scoped simp] theorem marks_punct :
    Ahead.marks [e] (.punct d joint p :: ts) = (e == d && e != '\'') := (rfl)
@[scoped simp] theorem marks_cons_punct {c : Char} :
    Ahead.marks (c :: e :: cs) (.punct d joint p :: ts) =
      (c == d && c != '\'' && joint && Ahead.marks (e :: cs) ts) := (rfl)

@[scoped simp] theorem mark_eq : Ahead.mark text ts = Ahead.marks text.toList ts := (rfl)

@[scoped simp] theorem second_nil : Ahead.second a [] = false := (rfl)
@[scoped simp] theorem second_cons {t : Token} : Ahead.second a (t :: ts) = a ts := (rfl)
@[scoped simp] theorem third_eq : Ahead.third a ts = Ahead.second (Ahead.second a) ts := (rfl)
@[scoped simp] theorem atEnd_eq : Ahead.atEnd ts = ts.isEmpty := (rfl)
@[scoped simp] theorem any_nil : Ahead.any [] ts = false := (rfl)
@[scoped simp] theorem any_cons : Ahead.any (a :: l) ts = (a ts || Ahead.any l ts) := (rfl)
@[scoped simp] theorem butNot_eq : Ahead.butNot a a' ts = (a ts && !a' ts) := (rfl)
@[scoped simp] theorem paren_eq : Ahead.paren ts = Ahead.group .parenthesis ts := (rfl)
@[scoped simp] theorem bracket_eq : Ahead.bracket ts = Ahead.group .bracket ts := (rfl)
@[scoped simp] theorem brace_eq : Ahead.brace ts = Ahead.group .brace ts := (rfl)

end Ahead

/-! ### Productions -/

variable (n : Nat)

@[scoped simp ↓] theorem type_succ (plus : Bool) :
    (Grammar.ofDepth (n + 1)).type plus = (Grammar.ofDepth n).typeProduction plus := (rfl)

@[scoped simp ↓] theorem unary_succ (structs : Bool) :
    (Grammar.ofDepth (n + 1)).unary structs = (Grammar.ofDepth n).unaryProduction structs := (rfl)

@[scoped simp ↓] theorem operators_succ (structs : Bool) (base : Precedence) (form : ExprForm) :
    (Grammar.ofDepth (n + 1)).operators structs base form =
      (Grammar.ofDepth n).operatorsProduction structs base form := (rfl)

@[scoped simp ↓] theorem statementExpr_succ :
    (Grammar.ofDepth (n + 1)).statementExpr = (Grammar.ofDepth n).statementExprProduction := (rfl)

@[scoped simp ↓] theorem genericArgument_succ :
    (Grammar.ofDepth (n + 1)).genericArgument = (Grammar.ofDepth n).genericArgumentProduction := (rfl)

@[scoped simp ↓] theorem pattern_succ :
    (Grammar.ofDepth (n + 1)).pattern = (Grammar.ofDepth n).patternProduction := (rfl)

@[scoped simp ↓] theorem statements_succ :
    (Grammar.ofDepth (n + 1)).statements = (Grammar.ofDepth n).statementsProduction := (rfl)

@[scoped simp ↓] theorem item_succ :
    (Grammar.ofDepth (n + 1)).item = (Grammar.ofDepth n).itemProduction := (rfl)

@[scoped simp ↓] theorem useTree_succ (rootInside : Bool) :
    (Grammar.ofDepth (n + 1)).useTree rootInside =
      (Grammar.ofDepth n).useTreeProduction rootInside := (rfl)

end Running

/-! ## Success -/

section Success

variable {p : Parser α} {scope : Scope} {i o : Input}

theorem bind_ok_iff {f : α → Parser β} {w : β} :
    (p >>= f) scope i = .ok (w, o) ↔
      ∃ v m, p scope i = .ok (v, m) ∧ f v scope m = .ok (w, o) := by
  rw [Running.run_bind]
  cases p scope i with
  | error e => simp [onward, Except.bind]
  | ok r => simp [onward, Except.bind, Prod.ext_iff, and_assoc]

theorem discard_ok_iff {u : Unit} :
    Functor.discard p scope i = .ok (u, o) ↔ ∃ v, p scope i = .ok (v, o) := by
  change ((fun _ => ()) <$> p) scope i = _ ↔ _
  rw [map_eq_pure_bind, bind_ok_iff]
  exact ⟨fun ⟨v, m, hv, hpure⟩ => ⟨v, by cases hpure; exact hv⟩, fun ⟨v, hv⟩ => ⟨v, o, hv, rfl⟩⟩

theorem ident_ok_iff {name : String} : ident scope i = .ok (name, o) ↔
    ∃ p rest, isUsableIdent name = true ∧ i.rest = .word name p :: rest ∧ o = ⟨rest, i.leftover⟩ := by
  constructor
  · obtain ⟨_ | ⟨t, rest⟩, leftover⟩ := i <;> intro h
    · cases h
    · cases t
      case word name' p =>
        rw [Running.run_ident_word] at h
        split at h <;> cases h
        exact ⟨p, rest, ‹_›, rfl, rfl⟩
      all_goals cases h
  · obtain ⟨_, leftover⟩ := i
    rintro ⟨p, rest, usable, rfl, rfl⟩
    rw [Running.run_ident_word, if_pos usable]

theorem text_ok_iff {value : String} : text scope i = .ok (value, o) ↔
    ∃ p rest, i.rest = .literal (.text value) p :: rest ∧ o = ⟨rest, i.leftover⟩ := by
  constructor
  · obtain ⟨_ | ⟨t, rest⟩, leftover⟩ := i <;> intro h
    · cases h
    · cases t
      case literal literal p =>
        cases literal <;> cases h
        exact ⟨p, rest, rfl, rfl⟩
      all_goals cases h
  · obtain ⟨_, leftover⟩ := i
    rintro ⟨p, rest, rfl, rfl⟩
    rfl

theorem mark_comma_ok_iff {u : Unit} : mark "," scope i = .ok (u, o) ↔
    ∃ joint p rest, i.rest = .punct ',' joint p :: rest ∧ o = ⟨rest, i.leftover⟩ := by
  rw [Running.run_mark]
  constructor
  · obtain ⟨_ | ⟨t, rest⟩, leftover⟩ := i <;> intro h
    · cases h
    · cases t
      case punct char joint p =>
        split at h
        case isFalse => cases h
        case isTrue comma =>
          cases h
          obtain rfl : ',' = char := by simpa [Ahead.mark, Ahead.marks] using comma
          exact ⟨joint, p, rest, rfl, rfl⟩
      all_goals cases h
  · obtain ⟨_, leftover⟩ := i
    rintro ⟨joint, p, rest, rfl, rfl⟩
    rfl

/-- All is read where nothing is left, also in no group. -/
theorem readAll_ok_iff {close : Position} {tokens : List Token} {v : α} :
    readAll p close tokens = .ok v ↔ p ⟨close, none⟩ ⟨tokens, none⟩ = .ok (v, ⟨[], none⟩) := by
  rw [readAll]
  cases p ⟨close, none⟩ ⟨tokens, none⟩ with
  | error e => simp [bind, Except.bind]
  | ok r =>
    obtain ⟨w, ⟨rest, leftover⟩⟩ := r
    rcases leftover with - | ⟨pos, inside⟩
    · rcases rest with - | ⟨t, rest⟩
      · change Except.ok w = _ ↔ _
        simp
      · simp [bind, Except.bind, throw, throwThe, MonadExceptOf.throw]
    · simp [bind, Except.bind, throw, throwThe, MonadExceptOf.throw]

end Success

end Parser

end ContentModels.Source
