import ContentModels.Proofs.Source.Agree
import ContentModels.Proofs.Source.Running

/-!
# Readers before a closing bracket

A type is a text of its own, and it stands between angle brackets. A reader that succeeds on tokens
that end also succeeds where a closing bracket and more follow them, and leaves these.

No reader of types uses up a minus sign at the end, which the bracket would make an arrow. So tokens
that are used up do not end with one.

## Main definitions

* `Closing` — a closing bracket with what follows it.
* `Followed` — tokens that end, and such tokens before a closing bracket.
* `Before` — a reader of tokens that end, and one of tokens before a closing bracket.
* `Steady` — a look ahead that does not tell the end from a closing bracket.
* `Hungry` — a reader that fails where nothing is left.

## Main statements

* `Before.bind` — one reader after the other.
* `Before.group` — the content of a group, where nothing follows.
* `Before.ite_hungry` — a look ahead that sees the bracket, where the end is no success.
-/

namespace ContentModels.Source

/-! ## Tokens -/

/-- A closing bracket with what follows it. -/
structure Closing where
  joint : Bool
  pos : Position
  more : List Token

def Closing.tokens (c : Closing) : List Token := .punct '>' c.joint c.pos :: c.more

/-- Tokens that end, and such tokens before a closing bracket. The bracket may follow the last
punctuation at once. -/
inductive Followed (c : Closing) : List Token → List Token → Prop
  | nil : Followed c [] c.tokens
  | cons {t u : Token} {ts us : List Token} (h : t.Like u) (hs : Followed c ts us) :
      Followed c (t :: ts) (u :: us)
  | last (char : Char) (joint joint' : Bool) (p q : Position) :
      Followed c [.punct char joint p] (.punct char joint' q :: c.tokens)

/-- Whether a minus sign comes last. -/
def EndsOpen (ts : List Token) : Prop := ∃ joint p, ts.getLast? = some (.punct '-' joint p)

theorem EndsOpen.of_suffix {ts us : List Token} (h : EndsOpen ts) (hs : ts <:+ us) :
    EndsOpen us := by
  obtain ⟨joint, p, hlast⟩ := h
  obtain ⟨before, rfl⟩ := hs
  exact ⟨joint, p, by rw [List.getLast?_append, hlast]; rfl⟩

@[simp] theorem endsOpen_cons_cons {t u : Token} {ts : List Token} :
    EndsOpen (t :: u :: ts) ↔ EndsOpen (u :: ts) := by
  simp [EndsOpen]

@[simp] theorem not_endsOpen_nil : ¬EndsOpen [] := by simp [EndsOpen]

theorem endsOpen_of_cons {t : Token} {ts : List Token} (ht : ∀ joint p, t ≠ .punct '-' joint p)
    (h : EndsOpen (t :: ts)) : EndsOpen ts := by
  cases ts with
  | nil => simp [EndsOpen, ht] at h
  | cons u us => exact endsOpen_cons_cons.1 h

theorem Followed.length_le {c : Closing} {ts us : List Token} (h : Followed c ts us) :
    ts.length ≤ us.length := by
  induction h with
  | nil => simp
  | cons _ _ ih => simpa using ih
  | last => simp

/-- What is left to read where a list ends, and before a closing bracket. -/
structure Input.Followed (c : Closing) (i i' : Input) : Prop where
  rest : Source.Followed c i.rest i'.rest
  leftover : i.leftover.isSome = i'.leftover.isSome

/-! ## Readers -/

variable {c : Closing} {α β γ : Type}

/-- A reader of tokens that end, and one that reads them before a closing bracket: the second one
succeeds where the first one does, and answers the same. -/
class Before (c : Closing) (p q : Parser α) : Prop where
  /-- What is left is what comes last. -/
  suffix : ∀ {scope i v o}, p scope i = .ok (v, o) → o.rest <:+ i.rest
  /-- A minus sign that comes last is left. -/
  stuck : ∀ {scope i v o}, p scope i = .ok (v, o) → EndsOpen i.rest → EndsOpen o.rest
  before : ∀ {scope i v o} (scope' : Scope) {i' : Input}, p scope i = .ok (v, o) →
    ¬EndsOpen i.rest → i.Followed c i' → ∃ o', q scope' i' = .ok (v, o') ∧ o.Followed c o'

namespace Before

/-- A reader that never succeeds. -/
theorem of_fails {p q : Parser α} (h : ∀ scope i r, p scope i ≠ .ok r) : Before c p q where
  suffix hp := absurd hp (h _ _ _)
  stuck hp := absurd hp (h _ _ _)
  before _ _ hp := absurd hp (h _ _ _)

instance pure (v : α) : Before c (pure v) (pure v) where
  suffix h := by cases h; exact List.suffix_rfl
  stuck h hopen := by cases h; exact hopen
  before _ i' h _ hi := by cases h; exact ⟨i', rfl, hi⟩

/-- One reader after the other. -/
theorem bind_of {p q : Parser α} {f f' : α → Parser β} (hp : Before c p q)
    (hf : ∀ v, Before c (f v) (f' v)) : Before c (p >>= f) (q >>= f') where
  suffix h := by
    obtain ⟨v, m, hv, hw⟩ := Parser.bind_ok_iff.1 h
    exact ((hf v).suffix hw).trans (hp.suffix hv)
  stuck h hopen := by
    obtain ⟨v, m, hv, hw⟩ := Parser.bind_ok_iff.1 h
    exact (hf v).stuck hw (hp.stuck hv hopen)
  before scope' i' h hopen hi := by
    obtain ⟨v, m, hv, hw⟩ := Parser.bind_ok_iff.1 h
    obtain ⟨m', hq, hm⟩ := hp.before scope' hv hopen hi
    obtain ⟨o', hu, ho⟩ := (hf v).before scope' hw
      (fun hstuck => hopen (hstuck.of_suffix (hp.suffix hv))) hm
    exact ⟨o', Parser.bind_ok_iff.2 ⟨v, m', hq, hu⟩, ho⟩

instance bind {p q : Parser α} {f f' : α → Parser β} [hp : Before c p q]
    [hf : ∀ v, Before c (f v) (f' v)] : Before c (p >>= f) (q >>= f') := bind_of hp hf

instance (priority := high) bindPair {p q : Parser (α × β)} {f f' : α × β → Parser γ}
    [hp : Before c p q] [hf : ∀ v w, Before c (f (v, w)) (f' (v, w))] :
    Before c (p >>= f) (q >>= f') := bind_of hp fun v => hf v.1 v.2

instance map {p q : Parser α} {f : α → β} [hp : Before c p q] : Before c (f <$> p) (f <$> q) := by
  rw [map_eq_pure_bind, map_eq_pure_bind]
  infer_instance

instance discard {p q : Parser α} [Before c p q] : Before c (discard p) (discard q) := map

theorem ite_of {b : Prop} [Decidable b] {p q p' q' : Parser α} (hp : Before c p p')
    (hq : Before c q q') : Before c (if b then p else q) (if b then p' else q') := by
  split
  · exact hp
  · exact hq

instance ite {b : Prop} [Decidable b] {p q p' q' : Parser α} [hp : Before c p p']
    [hq : Before c q q'] : Before c (if b then p else q) (if b then p' else q') := ite_of hp hq

/-! ### Errors and places -/

theorem fail_ne_ok (fault : SyntaxFault) (scope : Scope) (i : Input) (r : α × Input) :
    (Parser.fail fault : Parser α) scope i ≠ .ok r := by
  obtain ⟨p, hp⟩ := AgreeBy.fail_eq (α := α) fault scope i
  rw [hp]
  nofun

instance failAt (p q : Position) (fault : SyntaxFault) :
    Before c (Parser.failAt p fault : Parser α) (Parser.failAt q fault) := of_fails nofun

instance fail (fault : SyntaxFault) :
    Before c (Parser.fail fault : Parser α) (Parser.fail fault) := of_fails (fail_ne_ok fault)

instance expected (alternatives : List Expectation) :
    Before c (Parser.expected alternatives : Parser α) (Parser.expected alternatives) :=
  of_fails (fail_ne_ok _)

theorem here_eq (scope : Scope) (i : Input) : ∃ p, Parser.here scope i = .ok (p, i) := by
  obtain ⟨rest, leftover⟩ := i
  cases rest <;> exact ⟨_, rfl⟩

/-- Where the next token stands is of no matter to what is read. -/
instance (priority := high) bindHere {f f' : Position → Parser β}
    [hf : ∀ p q, Before c (f p) (f' q)] :
    Before c (Parser.here >>= f) (Parser.here >>= f') where
  suffix {scope i v o} h := by
    obtain ⟨p, hp⟩ := here_eq scope i
    obtain ⟨p', m, hhere, hv⟩ := Parser.bind_ok_iff.1 h
    cases hp.symm.trans hhere
    exact (hf p p).suffix hv
  stuck {scope i v o} h hopen := by
    obtain ⟨p, hp⟩ := here_eq scope i
    obtain ⟨p', m, hhere, hv⟩ := Parser.bind_ok_iff.1 h
    cases hp.symm.trans hhere
    exact (hf p p).stuck hv hopen
  before {scope i v o} scope' i' h hopen hi := by
    obtain ⟨p, hp⟩ := here_eq scope i
    obtain ⟨q, hq⟩ := here_eq scope' i'
    obtain ⟨p', m, hhere, hv⟩ := Parser.bind_ok_iff.1 h
    cases hp.symm.trans hhere
    obtain ⟨o', ho', ho⟩ := (hf p q).before scope' hv hopen hi
    exact ⟨o', Parser.bind_ok_iff.2 ⟨q, i', hq, ho'⟩, ho⟩

/-! ### Looking ahead -/

/-- A look ahead that does not tell a token before the end from one before a closing bracket. -/
class SteadyCons (c : Closing) (a : Ahead) : Prop where
  cons : ∀ {t ts us}, ¬EndsOpen (t :: ts) → Followed c (t :: ts) us → a (t :: ts) = a us

/-- A look ahead that does not tell the end from a closing bracket either. -/
class Steady (c : Closing) (a : Ahead) : Prop extends SteadyCons c a where
  nil : a [] = a c.tokens

theorem Steady.eq {a : Ahead} (h : Steady c a) {ts us : List Token} (hopen : ¬EndsOpen ts)
    (hs : Followed c ts us) : a ts = a us := by
  cases hs with
  | nil => exact h.nil
  | cons ht hs => exact h.cons hopen (.cons ht hs)
  | last => exact h.cons hopen (.last ..)

/-- A test of the next token alone, which is no punctuation. -/
theorem steady_of_head {a : Ahead}
    (same : ∀ {t u : Token} (ts us : List Token), t.Like u → a (t :: ts) = a (u :: us))
    (punct : ∀ char joint p ts, a (.punct char joint p :: ts) = false) (nil : a [] = false) :
    Steady c a where
  cons _ h := by
    cases h with
    | cons h _ => exact same _ _ h
    | last => rw [punct, punct]
  nil := by rw [nil]; exact (punct ..).symm

instance (text : String) : Steady c (.word text) :=
  steady_of_head (fun _ _ h => by cases h <;> rfl) (fun _ _ _ _ => rfl) rfl

instance : Steady c .ident :=
  steady_of_head (fun _ _ h => by cases h <;> rfl) (fun _ _ _ _ => rfl) rfl

instance : Steady c .anyWord :=
  steady_of_head (fun _ _ h => by cases h <;> rfl) (fun _ _ _ _ => rfl) rfl

instance : Steady c .lifetime :=
  steady_of_head (fun _ _ h => by cases h <;> rfl) (fun _ _ _ _ => rfl) rfl

instance (d : Delimiter) : Steady c (.group d) :=
  steady_of_head (fun _ _ h => by cases h <;> rfl) (fun _ _ _ _ => rfl) rfl

instance : Steady c .paren := inferInstanceAs (Steady c (.group .parenthesis))
instance : Steady c .bracket := inferInstanceAs (Steady c (.group .bracket))
instance : Steady c .brace := inferInstanceAs (Steady c (.group .brace))

instance : Steady c .text :=
  steady_of_head (fun _ _ h => by
    cases h with
    | literal value => cases value <;> rfl
    | _ => rfl) (fun _ _ _ _ => rfl) rfl

instance : Steady c .literal where
  nil := by simp [Ahead.literal, Closing.tokens]
  cons hopen h := by
    cases h with
    | last char joint joint' p q =>
      by_cases hchar : char = '-'
      · subst hchar
        exact absurd ⟨joint, p, rfl⟩ hopen
      · simp [Ahead.literal, hchar]
    | cons h hs =>
      cases h with
      | punct char joint p q =>
        by_cases hchar : char = '-'
        · subst hchar
          cases hs with
          | nil => exact absurd ⟨joint, p, rfl⟩ hopen
          | last => rfl
          | cons h' _ =>
            cases h' with
            | literal value => cases value <;> rfl
            | _ => rfl
        · simp [Ahead.literal, hchar]
      | _ => rfl

/-- Punctuation without a closing bracket in it. -/
theorem marks_eq {cs : List Char} (hcs : '>' ∉ cs) {ts us : List Token} (h : Followed c ts us) :
    Ahead.marks cs ts = Ahead.marks cs us := by
  induction cs generalizing ts us with
  | nil => simp [Ahead.marks]
  | cons char more ih =>
    obtain ⟨hchar, hmore⟩ : '>' ≠ char ∧ '>' ∉ more := by simpa using hcs
    have hend : Ahead.marks more [] = Ahead.marks more c.tokens := ih hmore .nil
    cases h with
    | nil => cases more <;> simp [Ahead.marks, Closing.tokens, hchar.symm]
    | last d joint joint' p q =>
      cases more with
      | nil => simp [Ahead.marks]
      | cons e rest =>
        have hnone : Ahead.marks (e :: rest) [] = false := by cases rest <;> rfl
        simp [Ahead.marks, ← hend, hnone]
    | cons h hs =>
      cases h with
      | punct d joint p q => cases more <;> simp [Ahead.marks, ih hmore hs]
      | _ => cases more <;> rfl

theorem steady_mark {text : String} (h : '>' ∉ text.toList) : Steady c (.mark text) where
  cons _ hs := marks_eq h hs
  nil := marks_eq h .nil

instance : Steady c (.mark "::") := steady_mark (by decide)
instance : Steady c (.mark ":") := steady_mark (by decide)
instance : Steady c (.mark "<") := steady_mark (by decide)
instance : Steady c (.mark "<=") := steady_mark (by decide)
instance : Steady c (.mark "<<=") := steady_mark (by decide)
instance : Steady c (.mark ",") := steady_mark (by decide)
instance : Steady c (.mark "+") := steady_mark (by decide)
instance : Steady c (.mark "?") := steady_mark (by decide)
instance : Steady c (.mark "=") := steady_mark (by decide)
instance : Steady c (.mark "!") := steady_mark (by decide)
instance : Steady c (.mark "!=") := steady_mark (by decide)
instance : Steady c (.mark "&") := steady_mark (by decide)
instance : Steady c (.mark "*") := steady_mark (by decide)
instance : Steady c (.mark "#") := steady_mark (by decide)

/-- An arrow is told from a closing bracket, since no minus sign comes last. -/
instance : Steady c (.mark "->") where
  nil := rfl
  cons hopen h := by
    change Ahead.marks ['-', '>'] _ = Ahead.marks ['-', '>'] _
    cases h with
    | last d joint joint' p q =>
      have hd : d ≠ '-' := fun heq => hopen ⟨joint, p, by rw [heq]; rfl⟩
      simp [Ahead.marks, hd.symm]
    | cons h hs =>
      cases h with
      | punct d joint p q =>
        by_cases hd : d = '-'
        · subst hd
          cases hs with
          | nil => exact absurd ⟨joint, p, rfl⟩ hopen
          | last => simp [Ahead.marks]
          | cons h' _ => cases h' <;> simp [Ahead.marks]
        · have hne : ('-' == d) = false := by simpa using Ne.symm hd
          simp [Ahead.marks, hne]
      | _ => rfl

/-- Tests none of which tells the end from a closing bracket. -/
class AllSteady (c : Closing) (l : List Ahead) : Prop where
  steady : ∀ a ∈ l, Steady c a

instance : AllSteady c [] := ⟨by simp⟩

instance {a : Ahead} {l : List Ahead} [ha : Steady c a] [hl : AllSteady c l] :
    AllSteady c (a :: l) := ⟨List.forall_mem_cons.2 ⟨ha, hl.steady⟩⟩

instance {l l' : List Ahead} [hl : AllSteady c l] [hl' : AllSteady c l'] : AllSteady c (l ++ l') :=
  ⟨List.forall_mem_append.2 ⟨hl.steady, hl'.steady⟩⟩

instance {b : Prop} [Decidable b] {l l' : List Ahead} [hl : AllSteady c l] [hl' : AllSteady c l'] :
    AllSteady c (if b then l else l') := by
  split
  · exact hl
  · exact hl'

theorem any_congr {l : List Ahead} {ts us : List Token} (h : ∀ a ∈ l, a ts = a us) :
    Ahead.any l ts = Ahead.any l us := by
  rw [Ahead.any, Ahead.any, Bool.eq_iff_iff, List.any_eq_true, List.any_eq_true]
  exact exists_congr fun a => and_congr_right fun ha => by rw [h a ha]

instance {l : List Ahead} [hl : AllSteady c l] : Steady c (.any l) where
  cons hopen hs := any_congr fun a ha => (hl.steady a ha).cons hopen hs
  nil := any_congr fun a ha => (hl.steady a ha).nil

instance (b : Bool) : Steady c fun _ => b where
  cons _ _ := rfl
  nil := rfl

instance {a b : Ahead} [ha : Steady c a] [hb : Steady c b] : Steady c fun ts => a ts && b ts where
  cons hopen hs := by rw [ha.cons hopen hs, hb.cons hopen hs]
  nil := by rw [ha.nil, hb.nil]

instance {a b : Ahead} [ha : Steady c a] [hb : Steady c b] : Steady c fun ts => a ts || b ts where
  cons hopen hs := by rw [ha.cons hopen hs, hb.cons hopen hs]
  nil := by rw [ha.nil, hb.nil]

instance {a : Ahead} [ha : Steady c a] : Steady c fun ts => !a ts where
  cons hopen hs := by rw [ha.cons hopen hs]
  nil := by rw [ha.nil]

instance {a b : Ahead} [Steady c a] [Steady c b] : Steady c (.butNot a b) :=
  inferInstanceAs (Steady c fun ts => a ts && !b ts)

/-- What comes after two colons. -/
theorem steady_colons {f b : Ahead} [hb : Steady c b] (hf : ∀ t u ts, f (t :: u :: ts) = b ts) :
    Steady c fun ts => Ahead.mark "::" ts && f ts where
  nil := rfl
  cons {t ts us} hopen h := by
    have hmark : Ahead.mark "::" (t :: ts) = Ahead.mark "::" us := marks_eq (by decide) h
    have hone (t : Token) : Ahead.mark "::" [t] = false := by
      change Ahead.marks [':', ':'] [t] = false
      cases t <;> simp [Ahead.marks]
    rw [← hmark]
    cases h with
    | last => simp [hone]
    | cons _ hs =>
      cases hs with
      | nil => simp [hone]
      | last => rw [hf, hf, hb.nil]
      | cons _ hs =>
        have hopen' : ¬EndsOpen _ := fun hstuck => hopen (hstuck.of_suffix ⟨[_, _], rfl⟩)
        rw [hf, hf, hb.eq hopen' hs]

instance (priority := high) {b : Ahead} [Steady c b] :
    Steady c fun ts => Ahead.mark "::" ts && Ahead.third b ts := steady_colons fun _ _ _ => rfl

instance (priority := high) {b : Ahead} [hb : Steady c b] :
    Steady c fun ts => Ahead.mark "::" ts && !Ahead.third b ts :=
  have : Steady c fun ts => !b ts := inferInstance
  steady_colons (b := fun ts => !b ts) fun _ _ _ => rfl

/-- What does not come after a token that is no bracket. -/
theorem steady_second {a b : Ahead} [ha : Steady c a] [hb : Steady c b] (hnil : a [] = false) :
    Steady c fun ts => a ts && !Ahead.second b ts where
  nil := by rw [← ha.nil, hnil]; rfl
  cons {t ts us} hopen h := by
    rw [ha.cons hopen h]
    cases h with
    | last => simp [Ahead.second, hb.nil]
    | cons _ hs =>
      have hopen' : ¬EndsOpen ts := fun hstuck => hopen (hstuck.of_suffix ⟨[_], rfl⟩)
      simp [Ahead.second, hb.eq hopen' hs]

instance (priority := high) {b : Ahead} [Steady c b] :
    Steady c fun ts => Ahead.lifetime ts && !Ahead.second b ts := steady_second rfl

theorem ahead_eq {a : Ahead} {scope : Scope} {i : Input} :
    Parser.ahead a scope i = .ok (a i.rest, i) := rfl

instance ahead (a : Ahead) [h : Steady c a] : Before c (Parser.ahead a) (Parser.ahead a) where
  suffix hp := by cases hp; exact List.suffix_rfl
  stuck hp hopen := by cases hp; exact hopen
  before _ i' hp hopen hi := by
    cases hp
    exact ⟨i', by rw [ahead_eq, h.eq hopen hi.rest], hi⟩

/-! ### Single tokens -/

/-- A reader of one token, which is no punctuation. -/
theorem of_read {p : Parser α} (read : Token → Option α)
    (some_eq : ∀ {t v} scope ts l, read t = some v → p scope ⟨t :: ts, l⟩ = .ok (v, ⟨ts, l⟩))
    (none_ne : ∀ {t} scope ts l r, read t = none → p scope ⟨t :: ts, l⟩ ≠ .ok r)
    (nil_ne : ∀ scope l r, p scope ⟨[], l⟩ ≠ .ok r)
    (same : ∀ {t u}, t.Like u → read t = read u)
    (punct : ∀ char joint p, read (.punct char joint p) = none) : Before c p p := by
  have hread {scope i v o} (hp : p scope i = .ok (v, o)) :
      ∃ t, read t = some v ∧ i = ⟨t :: o.rest, o.leftover⟩ := by
    obtain ⟨_ | ⟨t, ts⟩, l⟩ := i
    · exact absurd hp (nil_ne _ _ _)
    · cases ht : read t with
      | none => exact absurd hp (none_ne _ _ _ _ ht)
      | some w =>
        cases (some_eq scope ts l ht).symm.trans hp
        exact ⟨t, ht, rfl⟩
  constructor
  case suffix =>
    intro scope i v o hp
    obtain ⟨t, -, rfl⟩ := hread hp
    exact List.suffix_cons ..
  case stuck =>
    intro scope i v o hp hopen
    obtain ⟨t, ht, rfl⟩ := hread hp
    refine endsOpen_of_cons (fun joint p heq => ?_) hopen
    rw [heq, punct] at ht
    cases ht
  case before =>
    intro scope i v o scope' i' hp _ hi
    obtain ⟨t, ht, rfl⟩ := hread hp
    obtain ⟨rest, leftover⟩ := o
    obtain ⟨rest', leftover'⟩ := i'
    cases hi.rest with
    | last => rw [punct] at ht; cases ht
    | @cons _ u _ us hlike hs =>
      exact ⟨⟨us, leftover'⟩, some_eq _ _ _ (same hlike ▸ ht), hs, hi.leftover⟩

theorem ite_ahead_eq {a : Ahead} {p q : Parser α} {scope : Scope} {i : Input} :
    (do if ← Parser.ahead a then p else q) scope i =
      if a i.rest = true then p scope i else q scope i := by
  change (if a i.rest = true then p else q) scope i = _
  split <;> rfl

/-- A keyword that is read. -/
def readWord (text : String) : Token → Option Unit
  | .word t _ => if t == text then some () else none
  | _ => none

instance word (text : String) : Before c (Parser.word text) (Parser.word text) := by
  refine of_read (readWord text) (fun {t v} scope ts l ht => ?_) (fun {t} scope ts l r ht => ?_)
    nofun
    (fun h => by cases h <;> rfl) fun _ _ _ => rfl
  · cases t with
    | word w p =>
      have hw : (w == text) = true := by simpa [readWord] using ht
      have hahead : Ahead.word text (.word w p :: ts) = true := hw
      rw [Parser.word, ite_ahead_eq, if_pos hahead]
      rfl
    | _ => cases ht
  · rw [Parser.word, ite_ahead_eq, if_neg]
    · exact fail_ne_ok _ _ _ _
    · cases t <;> simp_all [readWord, Ahead.word]

theorem word?_eq (text : String) : Parser.word? text = do
    if ← Parser.ahead (.word text) then do Parser.word text; return true
    return false := by
  funext scope i
  by_cases h : Ahead.word text i.rest = true
  · have hword : Parser.word text scope i = Parser.drop scope i := by
      rw [Parser.word, ite_ahead_eq, if_pos h]
    rw [Parser.word?, ite_ahead_eq, ite_ahead_eq, if_pos h, if_pos h]
    rw [Parser.Running.run_bind, Parser.Running.run_bind, hword]
  · rw [Parser.word?, ite_ahead_eq, ite_ahead_eq, if_neg h, if_neg h]

instance word? (text : String) : Before c (Parser.word? text) (Parser.word? text) := by
  rw [word?_eq]
  infer_instance

/-- An identifier or keyword that is read. -/
def readAnyWord : Token → Option String
  | .word t _ => some t
  | _ => none

instance anyWord : Before c Parser.anyWord Parser.anyWord :=
  of_read readAnyWord
    (fun {t v} scope ts l ht => by
      cases t with
      | word w p => cases ht; rfl
      | _ => cases ht)
    (fun {t} scope ts l r ht => by
      cases t with
      | word w p => cases ht
      | _ => exact nofun)
    nofun (fun h => by cases h <;> rfl) fun _ _ _ => rfl

/-- An identifier that is read. -/
def readIdent : Token → Option String
  | .word t _ => if isUsableIdent t then some t else none
  | _ => none

instance ident : Before c Parser.ident Parser.ident := by
  have hword (w p scope ts l) : Parser.ident scope ⟨.word w p :: ts, l⟩ =
      (if isUsableIdent w then do Parser.drop; return w else Parser.fail (.keyword w)) scope
        ⟨.word w p :: ts, l⟩ := rfl
  refine of_read readIdent (fun {t v} scope ts l ht => ?_) (fun {t} scope ts l r ht => ?_)
    nofun (fun h => by cases h <;> rfl) fun _ _ _ => rfl
  · cases t with
    | word w p =>
      rw [hword]
      by_cases hw : isUsableIdent w = true
      · simp only [readIdent, if_pos hw] at ht ⊢
        cases ht
        rfl
      · simp [readIdent, hw] at ht
    | _ => cases ht
  · cases t with
    | word w p =>
      rw [hword]
      by_cases hw : isUsableIdent w = true
      · simp [readIdent, hw] at ht
      · rw [if_neg hw]
        exact fail_ne_ok _ _ _ _
    | _ => exact nofun

/-- A lifetime that is read. -/
def readLifetime : Token → Option Unit
  | .lifetime _ _ => some ()
  | _ => none

instance lifetime : Before c Parser.lifetime Parser.lifetime :=
  of_read readLifetime
    (fun {t v} scope ts l ht => by
      cases t with
      | lifetime _ _ => rfl
      | _ => cases ht)
    (fun {t} scope ts l r ht => by
      cases t with
      | lifetime _ _ => cases ht
      | _ => exact nofun)
    nofun (fun h => by cases h <;> rfl) fun _ _ _ => rfl

/-- A string that is read. -/
def readText : Token → Option String
  | .literal (.text value) _ => some value
  | _ => none

instance text : Before c Parser.text Parser.text :=
  of_read readText
    (fun {t v} scope ts l ht => by
      cases t with
      | literal value _ =>
        cases value with
        | text value => cases ht; rfl
        | _ => cases ht
      | _ => cases ht)
    (fun {t} scope ts l r ht => by
      cases t with
      | literal value _ =>
        cases value with
        | text value => cases ht
        | _ => exact nofun
      | _ => exact nofun)
    nofun
    (fun h => by
      cases h with
      | literal value => cases value <;> rfl
      | _ => rfl)
    fun _ _ _ => rfl

/-- What is left behind punctuation that comes next. -/
theorem drop_of_marks {cs : List Char} {ts us : List Token} (hmarks : Ahead.marks cs ts = true)
    (h : Followed c ts us) :
    Ahead.marks cs us = true ∧ Followed c (ts.drop cs.length) (us.drop cs.length) := by
  induction cs generalizing ts us with
  | nil => simp [Ahead.marks] at hmarks
  | cons char more ih =>
    cases h with
    | nil => cases more <;> simp [Ahead.marks] at hmarks
    | last d joint joint' p q =>
      cases more with
      | nil => exact ⟨by simpa [Ahead.marks] using hmarks, .nil⟩
      | cons e rest =>
        have hnone : Ahead.marks (e :: rest) [] = false := by cases rest <;> rfl
        simp [Ahead.marks, hnone] at hmarks
    | cons ht hs =>
      cases ht with
      | punct d joint p q =>
        cases more with
        | nil => exact ⟨by simpa [Ahead.marks] using hmarks, hs⟩
        | cons e rest =>
          simp only [Ahead.marks, Bool.and_eq_true] at hmarks ⊢
          obtain ⟨hmore, hrest⟩ := ih hmarks.2 hs
          exact ⟨⟨hmarks.1, hmore⟩, hrest⟩
      | _ => cases more <;> simp [Ahead.marks] at hmarks

theorem endsOpen_drop_of_marks {cs : List Char} {ts : List Token} (hcs : cs.getLast? ≠ some '-')
    (hmarks : Ahead.marks cs ts = true) (hopen : EndsOpen ts) : EndsOpen (ts.drop cs.length) := by
  induction cs generalizing ts with
  | nil => simp [Ahead.marks] at hmarks
  | cons char more ih =>
    cases ts with
    | nil => exact absurd hopen not_endsOpen_nil
    | cons t ts =>
      cases more with
      | nil =>
        refine endsOpen_of_cons (fun joint p heq => ?_) hopen
        subst heq
        have hchar : char ≠ '-' := by simpa using hcs
        simp [Ahead.marks, hchar] at hmarks
      | cons e rest =>
        cases t with
        | punct d joint p =>
          simp only [Ahead.marks, Bool.and_eq_true] at hmarks
          cases ts with
          | nil => cases rest <;> simp [Ahead.marks] at hmarks
          | cons u us =>
            exact ih (by simpa using hcs) hmarks.2 (endsOpen_cons_cons.1 hopen)
        | _ => simp [Ahead.marks] at hmarks

theorem mark_ok_iff {text : String} {scope : Scope} {i o : Input} {v : Unit} :
    Parser.mark text scope i = .ok (v, o) ↔
      Ahead.mark text i.rest = true ∧ o = { i with rest := i.rest.drop text.toList.length } := by
  rw [Parser.mark, ite_ahead_eq, String.length_toList]
  by_cases h : Ahead.mark text i.rest = true
  · rw [if_pos h]
    change Except.ok ((), { i with rest := i.rest.drop text.length }) = Except.ok (v, o) ↔ _
    simp [h, eq_comm]
  · rw [if_neg h]
    obtain ⟨p, hp⟩ := here_eq scope i
    refine iff_of_false (fun hfail => ?_) (fun hand => h hand.1)
    obtain ⟨_, _, _, hfail⟩ := Parser.bind_ok_iff.1 hfail
    cases hfail

theorem mark_of {text : String} (h : text.toList.getLast? ≠ some '-') :
    Before c (Parser.mark text) (Parser.mark text) where
  suffix hp := by
    obtain ⟨-, rfl⟩ := mark_ok_iff.1 hp
    exact List.drop_suffix ..
  stuck hp hopen := by
    obtain ⟨hmark, rfl⟩ := mark_ok_iff.1 hp
    exact endsOpen_drop_of_marks h hmark hopen
  before scope' i' hp _ hi := by
    obtain ⟨hmark, rfl⟩ := mark_ok_iff.1 hp
    obtain ⟨hmark', hrest⟩ := drop_of_marks hmark hi.rest
    exact ⟨_, mark_ok_iff.2 ⟨hmark', rfl⟩, hrest, hi.leftover⟩

instance : Before c (Parser.mark "::") (Parser.mark "::") := mark_of (by decide)
instance : Before c (Parser.mark ":") (Parser.mark ":") := mark_of (by decide)
instance : Before c (Parser.mark "<") (Parser.mark "<") := mark_of (by decide)
instance : Before c (Parser.mark ">") (Parser.mark ">") := mark_of (by decide)
instance : Before c (Parser.mark ",") (Parser.mark ",") := mark_of (by decide)
instance : Before c (Parser.mark "+") (Parser.mark "+") := mark_of (by decide)
instance : Before c (Parser.mark "?") (Parser.mark "?") := mark_of (by decide)
instance : Before c (Parser.mark "=") (Parser.mark "=") := mark_of (by decide)
instance : Before c (Parser.mark "!") (Parser.mark "!") := mark_of (by decide)
instance : Before c (Parser.mark "&") (Parser.mark "&") := mark_of (by decide)
instance : Before c (Parser.mark "*") (Parser.mark "*") := mark_of (by decide)
instance : Before c (Parser.mark "#") (Parser.mark "#") := mark_of (by decide)
instance : Before c (Parser.mark "->") (Parser.mark "->") := mark_of (by decide)

instance mark? (text : String) [Steady c (.mark text)] [Before c (Parser.mark text) (Parser.mark text)] :
    Before c (Parser.mark? text) (Parser.mark? text) := by
  unfold Parser.mark?
  infer_instance

/-- A literal is one token, or two with a minus sign. -/
theorem literal_cases {ts : List Token} (h : Ahead.literal ts = true) :
    (∃ t rest, (∀ char joint p, t ≠ .punct char joint p) ∧ ts = t :: rest) ∨
      ∃ joint p value q rest, ts = .punct '-' joint p :: .literal value q :: rest := by
  match ts, h with
  | .word w p :: rest, _ => exact .inl ⟨_, _, by simp, rfl⟩
  | .literal value p :: rest, _ => exact .inl ⟨_, _, by simp, rfl⟩
  | .punct char joint p :: rest, h =>
    by_cases hchar : char = '-'
    · subst hchar
      match rest, h with
      | .literal value q :: rest, _ => exact .inr ⟨_, _, _, _, _, rfl⟩
    · simp [Ahead.literal, hchar] at h

theorem literal_eq {t : Token} {ts : List Token} (ht : ∀ char joint p, t ≠ .punct char joint p)
    (h : Ahead.literal (t :: ts) = true) (scope : Scope)
    (l : Option (Position × Option Delimiter)) :
    Parser.literal scope ⟨t :: ts, l⟩ = .ok ((), ⟨ts, l⟩) := by
  have heq : Parser.literal scope ⟨t :: ts, l⟩ =
      (do if ← Parser.ahead .literal then Parser.drop else Parser.expected [.literal]) scope
        ⟨t :: ts, l⟩ := by
    cases t with
    | punct char joint p => exact absurd rfl (ht char joint p)
    | _ => rfl
  rw [heq, ite_ahead_eq, if_pos h]
  rfl

theorem literal_minus_eq {joint : Bool} {p q : Position} {value : Literal} {ts : List Token}
    (h : Ahead.literal (.punct '-' joint p :: .literal value q :: ts) = true) (scope : Scope)
    (l : Option (Position × Option Delimiter)) :
    Parser.literal scope ⟨.punct '-' joint p :: .literal value q :: ts, l⟩ = .ok ((), ⟨ts, l⟩) := by
  have heq : Parser.literal scope ⟨.punct '-' joint p :: .literal value q :: ts, l⟩ =
      (do
        if ← Parser.ahead .literal then do Parser.drop; Parser.drop
        else Parser.expected [.literal]) scope ⟨.punct '-' joint p :: .literal value q :: ts, l⟩ := rfl
  rw [heq, ite_ahead_eq, if_pos h]
  rfl

theorem literal_of_ok {scope : Scope} {i o : Input} {v : Unit}
    (h : Parser.literal scope i = .ok (v, o)) : Ahead.literal i.rest = true := by
  by_contra hahead
  obtain ⟨ts, l⟩ := i
  have heq (p : Parser Unit) :
      (do if ← Parser.ahead .literal then p else Parser.expected [.literal]) scope ⟨ts, l⟩ ≠
        .ok (v, o) := by
    rw [ite_ahead_eq, if_neg hahead]
    exact fail_ne_ok _ _ _ _
  match ts with
  | [] => exact heq Parser.drop h
  | .punct _ _ _ :: _ => exact heq (do Parser.drop; Parser.drop) h
  | .word _ _ :: _ => exact heq Parser.drop h
  | .lifetime _ _ :: _ => exact heq Parser.drop h
  | .literal _ _ :: _ => exact heq Parser.drop h
  | .group _ _ _ _ :: _ => exact heq Parser.drop h

/-- What a literal is made of when it is read. -/
theorem literal_ok {scope : Scope} {i o : Input} {v : Unit}
    (h : Parser.literal scope i = .ok (v, o)) :
    (∃ t, (∀ char joint p, t ≠ .punct char joint p) ∧ i = ⟨t :: o.rest, o.leftover⟩) ∨
      ∃ joint p value q, i = ⟨.punct '-' joint p :: .literal value q :: o.rest, o.leftover⟩ := by
  have hahead := literal_of_ok h
  obtain ⟨ts, l⟩ := i
  rcases literal_cases hahead with ⟨t, rest, ht, heq⟩ | ⟨joint, p, value, q, rest, heq⟩
  · obtain rfl : ts = t :: rest := heq
    cases (literal_eq ht hahead scope l).symm.trans h
    exact .inl ⟨t, ht, rfl⟩
  · obtain rfl : ts = .punct '-' joint p :: .literal value q :: rest := heq
    cases (literal_minus_eq hahead scope l).symm.trans h
    exact .inr ⟨joint, p, value, q, rfl⟩

instance literal : Before c Parser.literal Parser.literal where
  suffix hp := by
    rcases literal_ok hp with ⟨t, -, rfl⟩ | ⟨joint, p, value, q, rfl⟩
    · exact List.suffix_cons ..
    · exact ⟨[_, _], rfl⟩
  stuck hp hopen := by
    rcases literal_ok hp with ⟨t, ht, rfl⟩ | ⟨joint, p, value, q, rfl⟩
    · exact endsOpen_of_cons (fun joint p => ht '-' joint p) hopen
    · exact endsOpen_of_cons (by simp) (endsOpen_cons_cons.1 hopen)
  before {scope i v o} scope' i' hp hopen hi := by
    have hahead : Ahead.literal i'.rest = true := by
      rw [← Steady.eq (c := c) (a := .literal) inferInstance hopen hi.rest]
      exact literal_of_ok hp
    obtain ⟨ts, l⟩ := o
    obtain ⟨ts', l'⟩ := i'
    rcases literal_ok hp with ⟨t, ht, rfl⟩ | ⟨joint, p, value, q, rfl⟩
    · cases hi.rest with
      | last => exact absurd rfl (ht _ _ _)
      | @cons _ u _ us hlike hs =>
        refine ⟨⟨us, l'⟩, literal_eq (fun char joint p heq => ?_) hahead scope' l', hs, hi.leftover⟩
        subst heq
        cases hlike
        exact ht _ _ _ rfl
    · cases hi.rest with
      | cons hlike hs =>
        cases hlike
        cases hs with
        | cons hlike hs =>
          cases hlike
          exact ⟨⟨_, l'⟩, literal_minus_eq hahead scope' l', hs, hi.leftover⟩

/-! ### Groups -/

theorem group_cons {d : Delimiter} {p : Parser α} {scope : Scope} {t : Token} {ts : List Token}
    {l : Option (Position × Option Delimiter)} :
    Parser.group d p scope ⟨t :: ts, l⟩ =
      (Parser.group d p scope ⟨[t], l⟩).map fun r => (r.1, ⟨ts, r.2.leftover⟩) := by
  cases t with
  | group d' content pos close =>
    by_cases hd : d = d'
    · simp only [Parser.group, if_pos hd]
      generalize p _ _ = r
      cases r <;> rfl
    · simp only [Parser.group, if_neg hd]
      rfl
  | _ => rfl

theorem group_ok {d : Delimiter} {p : Parser α} {scope : Scope} {i o : Input} {v : α}
    (h : Parser.group d p scope i = .ok (v, o)) :
    ∃ content pos close, i.rest = .group d content pos close :: o.rest := by
  obtain ⟨_ | ⟨t, ts⟩, l⟩ := i
  · cases h
  · rw [group_cons] at h
    cases t with
    | group d' content pos close =>
      by_cases hd : d = d'
      · subst hd
        refine ⟨content, pos, close, ?_⟩
        cases hr : Parser.group d p scope ⟨[.group d content pos close], l⟩ with
        | error e => rw [hr] at h; cases h
        | ok r => rw [hr] at h; cases h; rfl
      · simp only [Parser.group, if_neg hd] at h
        cases h
    | _ => cases h

/-- A group, in which nothing follows the content. -/
theorem group_of (d : Delimiter) {p q : Parser α} (h : Agree p q) :
    Before c (Parser.group d p) (Parser.group d q) where
  suffix hp := by
    obtain ⟨content, pos, close, hrest⟩ := group_ok hp
    rw [hrest]
    exact List.suffix_cons ..
  stuck hp hopen := by
    obtain ⟨content, pos, close, hrest⟩ := group_ok hp
    rw [hrest] at hopen
    exact endsOpen_of_cons (fun _ _ heq => by cases heq) hopen
  before {scope i v o} scope' i' hp _ hi := by
    obtain ⟨content, pos, close, hrest⟩ := group_ok hp
    obtain ⟨rest, leftover⟩ := i
    obtain ⟨rest', leftover'⟩ := i'
    obtain ⟨ts, l⟩ := o
    obtain rfl : rest = _ := hrest
    cases hi.rest with
    | @cons _ u _ us ht hs =>
      have halike := (AgreeBy.group_of d h).outcome scope scope' ⟨[.group d content pos close], leftover⟩
        ⟨[u], leftover'⟩ ⟨.cons ht .nil, hi.leftover⟩
      rw [group_cons] at hp
      rw [group_cons]
      generalize Parser.group d p scope _ = r at halike hp
      generalize Parser.group d q scope' _ = r' at halike
      cases halike with
      | ok value hlike =>
        cases value
        cases hp
        exact ⟨_, rfl, hs, hlike.leftover⟩
      | error _ _ => cases hp
      | tooDeep _ => cases hp

instance parens {p q : Parser α} [h : Agree p q] : Before c (Parser.parens p) (Parser.parens q) :=
  group_of _ h

instance brackets {p q : Parser α} [h : Agree p q] :
    Before c (Parser.brackets p) (Parser.brackets q) := group_of _ h

instance braces {p q : Parser α} [h : Agree p q] : Before c (Parser.braces p) (Parser.braces q) :=
  group_of _ h

theorem bind_anyGroup_ok {f : Delimiter × List Token × Position → Parser β} {scope : Scope}
    {i o : Input} {v : β} (h : (Parser.anyGroup >>= f) scope i = .ok (v, o)) :
    ∃ d content pos close rest, i = ⟨.group d content pos close :: rest, i.leftover⟩ ∧
      f (d, content, close) scope ⟨rest, i.leftover⟩ = .ok (v, o) := by
  obtain ⟨_ | ⟨t, ts⟩, l⟩ := i
  · cases h
  · cases t with
    | group d content pos close => exact ⟨d, content, pos, close, ts, rfl, h⟩
    | _ => cases h

/-- A group that is read as it is. -/
instance (priority := high) bindAnyGroup {f f' : Delimiter × List Token × Position → Parser β}
    [hf : ∀ d content content' p q, Before c (f (d, content, p)) (f' (d, content', q))] :
    Before c (Parser.anyGroup >>= f) (Parser.anyGroup >>= f') where
  suffix hp := by
    obtain ⟨d, content, pos, close, rest, heq, hv⟩ := bind_anyGroup_ok hp
    rw [heq]
    exact ((hf d content content close close).suffix hv).trans (List.suffix_cons ..)
  stuck hp hopen := by
    obtain ⟨d, content, pos, close, rest, heq, hv⟩ := bind_anyGroup_ok hp
    rw [heq] at hopen
    exact (hf d content content close close).stuck hv
      (endsOpen_of_cons (fun _ _ heq => by cases heq) hopen)
  before {scope i v o} scope' i' hp hopen hi := by
    obtain ⟨d, content, pos, close, rest, heq, hv⟩ := bind_anyGroup_ok hp
    obtain ⟨rest', leftover'⟩ := i'
    rw [heq] at hi hopen
    cases hi.rest with
    | cons ht hs =>
      cases ht with
      | group _ _ pos' _ close' _ =>
        have hopen' : ¬EndsOpen rest := fun hstuck => hopen (hstuck.of_suffix (List.suffix_cons ..))
        exact (hf d content _ close close').before scope' hv hopen' ⟨hs, hi.leftover⟩

/-! ### Trying and repeating -/

theorem peek_ok_iff {p : Parser α} {scope : Scope} {i o : Input} {v : α} :
    Parser.peek p scope i = .ok (v, o) ↔ o = i ∧ ∃ m, p scope i = .ok (v, m) := by
  have heq : Parser.peek p scope i = (p scope i).map fun r => (r.1, i) := by
    change (p scope i >>= fun r => .ok (r.1, i)) = _
    cases p scope i <;> rfl
  rw [heq]
  cases p scope i with
  | error e => simp [Except.map]
  | ok r =>
    obtain ⟨w, m⟩ := r
    simp [Except.map, and_comm, eq_comm]

instance peek {p q : Parser α} [h : Before c p q] : Before c (Parser.peek p) (Parser.peek q) where
  suffix hp := (peek_ok_iff.1 hp).1 ▸ List.suffix_rfl
  stuck hp hopen := by rwa [(peek_ok_iff.1 hp).1]
  before scope' i' hp hopen hi := by
    obtain ⟨rfl, m, hm⟩ := peek_ok_iff.1 hp
    obtain ⟨o', ho', -⟩ := h.before scope' hm hopen hi
    exact ⟨i', peek_ok_iff.2 ⟨rfl, o', ho'⟩, hi⟩

theorem repeatFor_of {p q : Parser (Option α)} (h : Before c p q) {n m : Nat} (hnm : n ≤ m) :
    Before c (Parser.repeatFor p n) (Parser.repeatFor q m) := by
  induction n generalizing m with
  | zero => exact of_fails (fail_ne_ok _)
  | succ n ih =>
    obtain ⟨m, rfl⟩ := Nat.exists_eq_add_one.2 (Nat.zero_lt_of_lt hnm)
    have hrest := ih (Nat.le_of_succ_le_succ hnm)
    refine bind_of h fun v => ?_
    cases v with
    | none => exact pure _
    | some v => exact bind_of hrest fun _ => pure _

/-- A reader that is repeated. More is left before a closing bracket, so that the second reader may
be repeated more often. -/
instance repeatUntil {p q : Parser (Option α)} [h : Before c p q] :
    Before c (Parser.repeatUntil p) (Parser.repeatUntil q) where
  suffix hp := (repeatFor_of h (Nat.le_refl _)).suffix hp
  stuck hp := (repeatFor_of h (Nat.le_refl _)).stuck hp
  before scope' _ hp hopen hi :=
    (repeatFor_of h (Nat.add_le_add_right hi.rest.length_le 2)).before scope' hp hopen hi

/-! ### Looking for the closing bracket -/

instance : SteadyCons c (.mark ">") where
  cons _ h := by
    cases h with
    | last => rfl
    | cons h _ => cases h <;> rfl

instance : SteadyCons c .atEnd where
  cons _ h := by cases h <;> rfl

/-- Tests none of which tells a token before the end from one before a closing bracket. -/
class AllSteadyCons (c : Closing) (l : List Ahead) : Prop where
  steady : ∀ a ∈ l, SteadyCons c a

instance : AllSteadyCons c [] := ⟨by simp⟩

instance {a : Ahead} {l : List Ahead} [ha : SteadyCons c a] [hl : AllSteadyCons c l] :
    AllSteadyCons c (a :: l) := ⟨List.forall_mem_cons.2 ⟨ha, hl.steady⟩⟩

instance {l : List Ahead} [hl : AllSteadyCons c l] : SteadyCons c (.any l) where
  cons hopen hs := any_congr fun a ha => (hl.steady a ha).cons hopen hs

/-- A list that stops both at the end and before a closing bracket. -/
instance {l : List Ahead} [AllSteadyCons c l] :
    Steady c (.any (.atEnd :: .mark "," :: .mark ">" :: l)) where
  cons := SteadyCons.cons
  nil := rfl

/-- A reader that fails where nothing is left. -/
class Hungry (p : Parser α) : Prop where
  fails : ∀ scope l r, p scope ⟨[], l⟩ ≠ .ok r

instance {p : Parser α} {f : α → Parser β} [h : Hungry p] : Hungry (p >>= f) where
  fails scope l r hr := by
    obtain ⟨v, m, hv, -⟩ := Parser.bind_ok_iff.1 hr
    exact h.fails scope l _ hv

instance {p : Parser α} {f : α → β} [h : Hungry p] : Hungry (f <$> p) := by
  rw [map_eq_pure_bind]
  infer_instance

instance {p : Parser α} [h : Hungry p] : Hungry (Functor.discard p) :=
  inferInstanceAs (Hungry (_ <$> p))

instance (text : String) : Hungry (Parser.mark text) where
  fails scope l r hr := by
    have hmark : Ahead.marks text.toList [] = true := (mark_ok_iff.1 hr).1
    have hnone : Ahead.marks text.toList [] = false := by
      generalize text.toList = cs
      match cs with
      | [] | [_] | _ :: _ :: _ => rfl
    rw [hnone] at hmark
    cases hmark

instance (alternatives : List Expectation) : Hungry (Parser.expected alternatives : Parser α) where
  fails scope _ r := fail_ne_ok _ scope _ r

/-- A look ahead that sees a closing bracket, and nothing where nothing is left. -/
class Watchful (c : Closing) (a : Ahead) : Prop extends SteadyCons c a where
  nil : a [] = false

instance : Watchful c (.mark ">") where
  nil := rfl

instance : Watchful c (.any [.mark ",", .mark ">"]) where
  cons := SteadyCons.cons
  nil := rfl

/-- A look ahead that sees a closing bracket, where the end is no success. -/
instance (priority := high) ite_hungry {a : Ahead} [ha : Watchful c a] {p q p' q' : Parser α}
    [hp : Before c p p'] [hq : Before c q q'] [hungry : Hungry q] :
    Before c (do if ← Parser.ahead a then p else q) (do if ← Parser.ahead a then p' else q') where
  suffix {scope i v o} h := by
    rw [ite_ahead_eq] at h
    split at h
    · exact hp.suffix h
    · exact hq.suffix h
  stuck {scope i v o} h hopen := by
    rw [ite_ahead_eq] at h
    split at h
    · exact hp.stuck h hopen
    · exact hq.stuck h hopen
  before {scope i v o} scope' i' h hopen hi := by
    rw [ite_ahead_eq] at h
    rw [ite_ahead_eq]
    obtain ⟨_ | ⟨t, ts⟩, l⟩ := i
    · rw [if_neg (by simp [ha.nil])] at h
      exact absurd h (hungry.fails scope l _)
    · rw [← ha.cons hopen hi.rest]
      split at h
      · next htest =>
        rw [if_pos htest]
        exact hp.before scope' h hopen hi
      · next htest =>
        rw [if_neg htest]
        exact hq.before scope' h hopen hi

/-- A list that a closing bracket ends. -/
instance separated {stop : Ahead} [Watchful c stop] {sep sep' : Parser Unit} [Before c sep sep']
    [Hungry sep] {p q : Parser α} [Before c p q] [Hungry p] :
    Before c (Parser.separated stop sep p) (Parser.separated stop sep' q) := by
  unfold Parser.separated
  infer_instance

end Before

end ContentModels.Source
