import ContentModels.HandFile.Contribution
import ContentModels.Proofs.Plan.Merging
import ContentModels.Proofs.Source.Agree.Types
import ContentModels.Proofs.Source.Running

/-!
# The grammar of markers

A marker is a macro call of one of three names, with arguments of a small grammar. The readers of
its arguments accept the tokens that are written in this grammar, and no others.

## Main definitions

* `BehindCommas` — texts behind commas, as tokens.
* `Marker.Written` — the tokens that a marker is written in.

## Main statements

* `Marker.readAll_ignoreProperty`, `Marker.readAll_renameProperty`, `Marker.readAll_ignoreType` —
  what the readers of arguments accept.
* `Marker.ofCall_eq_some_iff` — which marker a macro call is.
-/

namespace ContentModels

open Source Source.Parser

/-- Texts, each behind a comma. A comma may come last. -/
inductive BehindCommas : List String → List Token → Prop
  | nil : BehindCommas [] []
  | comma (joint : Bool) (p : Position) : BehindCommas [] [.punct ',' joint p]
  | cons {texts : List String} {rest : List Token} (joint : Bool) (p : Position) (text : String)
      (q : Position) (h : BehindCommas texts rest) :
      BehindCommas (text :: texts) (.punct ',' joint p :: .literal (.text text) q :: rest)

/-- The name of the macro that a marker is a call of. -/
def Marker.macroName : Marker → String
  | .ignoreProperties .. => ignorePropertyName
  | .renameProperty .. => renamePropertyName
  | .ignoreTypes .. => ignoreTypeName

/-- How a marker is written: the tokens of its arguments. -/
inductive Marker.Written : Marker → List Token → Prop
  /-- A model, then one or more handles behind commas. -/
  | ignoreProperties {model : String} {handles : List String} {rest : List Token} (p : Position)
      (usable : isUsableIdent model = true) (some_handle : handles ≠ [])
      (h : BehindCommas handles rest) :
      Written (.ignoreProperties model handles) (.word model p :: rest)
  /-- A model, a handle and a name with commas between them. A comma may come last. -/
  | renameProperty {model handle name : String} {rest : List Token} {joint joint' : Bool}
      {p₁ p₂ p₃ p₄ p₅ : Position} (usable : isUsableIdent model = true)
      (usable' : isUsableIdent name = true) (h : BehindCommas [] rest) :
      Written (.renameProperty model handle name)
        (.word model p₁ :: .punct ',' joint p₂ :: .literal (.text handle) p₃ ::
          .punct ',' joint' p₄ :: .word name p₅ :: rest)
  /-- One or more patterns with commas between them. A comma may come last. -/
  | ignoreTypes {text : String} {texts : List String} {rest : List Token} (p : Position)
      (h : BehindCommas texts rest) :
      Written (.ignoreTypes (text :: texts)) (.literal (.text text) p :: rest)

/-! ## Tokens in other places -/

theorem BehindCommas.of_likes {texts : List String} {ts us : List Token} (h : BehindCommas texts ts)
    (like : Likes ts us) : BehindCommas texts us := by
  induction h generalizing us with
  | nil =>
    cases like
    exact .nil
  | comma =>
    obtain - | ⟨⟨⟩, ⟨⟩⟩ := like
    exact .comma ..
  | cons _ _ text _ _ ih =>
    obtain - | ⟨⟨⟩, - | ⟨⟨⟩, like⟩⟩ := like
    exact .cons _ _ text _ (ih like)

/-- How a marker is written has nothing to do with where it stands. -/
theorem Marker.Written.of_likes {marker : Marker} {ts us : List Token} (h : marker.Written ts)
    (like : Likes ts us) : marker.Written us := by
  cases h with
  | ignoreProperties p usable some_handle hbehind =>
    obtain - | ⟨⟨⟩, like⟩ := like
    exact .ignoreProperties _ usable some_handle (hbehind.of_likes like)
  | renameProperty usable usable' hend =>
    obtain - | ⟨⟨⟩, - | ⟨⟨⟩, - | ⟨⟨⟩, - | ⟨⟨⟩, - | ⟨⟨⟩, like⟩⟩⟩⟩⟩ := like
    exact .renameProperty usable usable' (hend.of_likes like)
  | ignoreTypes p hbehind =>
    obtain - | ⟨⟨⟩, like⟩ := like
    exact .ignoreTypes _ (hbehind.of_likes like)

/-! ## Texts behind commas -/

section Commas

variable {scope : Scope} {i o : Input} {r : Option String} {texts : List String}

theorem BehindCommas.length_le {rest : List Token} (h : BehindCommas texts rest) :
    texts.length ≤ rest.length := by
  induction h with
  | nil => exact Nat.le_refl 0
  | comma => exact Nat.zero_le _
  | cons _ _ _ _ _ ih => simpa using Nat.le_succ_of_le ih

/-- A text, or nothing at the end. -/
def textOrEnd : Parser (Option String) := do
  if ← ahead .atEnd then return none
  return some (← text)

/-- A text behind a comma, or nothing at the end. -/
def nextText : Parser (Option String) := do
  if ← ahead .atEnd then return none
  mark ","
  textOrEnd

theorem textOrEnd_ok_iff : textOrEnd scope i = .ok (r, o) ↔
    (r = none ∧ i.rest = [] ∧ o = i) ∨
    ∃ text p rest, r = some text ∧ i.rest = .literal (.text text) p :: rest ∧
      o = ⟨rest, i.leftover⟩ := by
  obtain ⟨_ | ⟨t, rest⟩, leftover⟩ := i
  · constructor
    · intro h
      cases h
      exact .inl ⟨rfl, rfl, rfl⟩
    · rintro (⟨rfl, -, rfl⟩ | ⟨_, _, _, -, hrest, -⟩)
      · rfl
      · cases hrest
  · change (text >>= fun value => pure (some value)) scope _ = _ ↔ _
    rw [bind_ok_iff]
    constructor
    · rintro ⟨text, m, htext, hpure⟩
      obtain ⟨p, after, hrest, rfl⟩ := text_ok_iff.1 htext
      cases hpure
      exact .inr ⟨text, p, after, rfl, hrest, rfl⟩
    · rintro (⟨-, hrest, -⟩ | ⟨text, p, after, rfl, hrest, rfl⟩)
      · cases hrest
      · exact ⟨text, _, text_ok_iff.2 ⟨p, after, hrest, rfl⟩, rfl⟩

theorem nextText_ok_iff : nextText scope i = .ok (r, o) ↔
    (r = none ∧ BehindCommas [] i.rest ∧ o = ⟨[], i.leftover⟩) ∨
    ∃ joint p text q rest, r = some text ∧
      i.rest = .punct ',' joint p :: .literal (.text text) q :: rest ∧ o = ⟨rest, i.leftover⟩ := by
  obtain ⟨_ | ⟨t, rest⟩, leftover⟩ := i
  · constructor
    · intro h
      cases h
      exact .inl ⟨rfl, .nil, rfl⟩
    · rintro (⟨rfl, -, rfl⟩ | ⟨_, _, _, _, _, -, hrest, -⟩)
      · rfl
      · cases hrest
  · change (mark "," >>= fun _ => textOrEnd) scope _ = _ ↔ _
    rw [bind_ok_iff]
    constructor
    · rintro ⟨_, m, hcomma, htext⟩
      obtain ⟨joint, p, after, hrest, rfl⟩ := mark_comma_ok_iff.1 hcomma
      cases hrest
      rcases textOrEnd_ok_iff.1 htext with ⟨rfl, rfl, rfl⟩ | ⟨text, q, rest, rfl, rfl, rfl⟩
      · exact .inl ⟨rfl, .comma joint p, rfl⟩
      · exact .inr ⟨joint, p, text, q, rest, rfl, rfl, rfl⟩
    · rintro (⟨rfl, hend, rfl⟩ | ⟨joint, p, text, q, after, rfl, hrest, rfl⟩)
      · cases hend with
        | comma joint p => exact ⟨(), ⟨[], leftover⟩, rfl, rfl⟩
      · exact ⟨(), _, mark_comma_ok_iff.2 ⟨joint, p, _, hrest, rfl⟩, rfl⟩

/-- Texts are read behind commas to the end, where the steps are enough. -/
theorem repeatFor_nextText_ok_iff {fuel : Nat} : repeatFor nextText fuel scope i = .ok (texts, o) ↔
    texts.length < fuel ∧ BehindCommas texts i.rest ∧ o = ⟨[], i.leftover⟩ := by
  induction fuel generalizing i texts with
  | zero =>
    rw [Running.run_repeatFor_zero]
    simp
  | succ fuel ih =>
    rw [repeatFor, bind_ok_iff]
    constructor
    · rintro ⟨r, m, hnext, h⟩
      rcases nextText_ok_iff.1 hnext with ⟨rfl, hend, rfl⟩ | ⟨joint, p, text, q, rest, rfl, hrest, rfl⟩
      · cases h
        exact ⟨Nat.succ_pos fuel, hend, rfl⟩
      · obtain ⟨more, m, hmore, hpure⟩ := bind_ok_iff.1 h
        cases hpure
        obtain ⟨hlen, hbehind, rfl⟩ := ih.1 hmore
        rw [hrest]
        exact ⟨Nat.succ_lt_succ hlen, .cons joint p text q hbehind, rfl⟩
    · obtain ⟨rest, leftover⟩ := i
      rintro ⟨hlen, hbehind, rfl⟩
      rcases texts with - | ⟨text, texts⟩
      · exact ⟨none, _, nextText_ok_iff.2 (.inl ⟨rfl, hbehind, rfl⟩), rfl⟩
      · cases hbehind with | @cons _ rest joint p _ q hbehind
        have hmore := (ih (i := ⟨rest, leftover⟩)).2 ⟨Nat.lt_of_succ_lt_succ hlen, hbehind, rfl⟩
        exact ⟨some text, _, nextText_ok_iff.2 (.inr ⟨joint, p, text, q, _, rfl, rfl, rfl⟩),
          bind_ok_iff.2 ⟨texts, _, hmore, rfl⟩⟩

theorem handlesAfterCommas_ok_iff : Marker.handlesAfterCommas scope i = .ok (texts, o) ↔
    BehindCommas texts i.rest ∧ o = ⟨[], i.leftover⟩ := by
  change repeatFor nextText (i.rest.length + 2) scope i = _ ↔ _
  rw [repeatFor_nextText_ok_iff]
  exact ⟨And.right, fun h => ⟨Nat.lt_add_right 1 (Nat.lt_succ_of_le h.1.length_le), h⟩⟩

/-- Texts with commas between them are none, or a text and texts behind commas. -/
theorem commaList_text_ok_iff : commaList text scope i = .ok (texts, o) ↔
    (texts = [] ∧ i.rest = [] ∧ o = i) ∨
    ∃ first more p rest, texts = first :: more ∧ i.rest = .literal (.text first) p :: rest ∧
      BehindCommas more rest ∧ o = ⟨[], i.leftover⟩ := by
  obtain ⟨_ | ⟨t, rest⟩, leftover⟩ := i
  · constructor
    · intro h
      cases h
      exact .inl ⟨rfl, rfl, rfl⟩
    · rintro (⟨rfl, -, rfl⟩ | ⟨_, _, _, _, -, hrest, -⟩)
      · rfl
      · cases hrest
  · change (text >>= fun first => Marker.handlesAfterCommas >>= fun more =>
      pure (first :: more)) scope _ = _ ↔ _
    rw [bind_ok_iff]
    constructor
    · rintro ⟨first, m, hfirst, h⟩
      obtain ⟨p, after, hrest, rfl⟩ := text_ok_iff.1 hfirst
      obtain ⟨more, m, hmore, hpure⟩ := bind_ok_iff.1 h
      cases hpure
      obtain ⟨hbehind, rfl⟩ := handlesAfterCommas_ok_iff.1 hmore
      exact .inr ⟨first, more, p, after, rfl, hrest, hbehind, rfl⟩
    · rintro (⟨-, hrest, -⟩ | ⟨first, more, p, after, rfl, hrest, hbehind, rfl⟩)
      · cases hrest
      · exact ⟨first, _, text_ok_iff.2 ⟨p, after, hrest, rfl⟩,
          bind_ok_iff.2 ⟨more, _, handlesAfterCommas_ok_iff.2 ⟨hbehind, rfl⟩, rfl⟩⟩

/-- At the end there may be a comma. -/
theorem mark?_comma_ok_iff {leftover : Option (Position × Option Delimiter)} {u : Unit} :
    (discard (mark? ",") : Parser Unit) scope i = .ok (u, ⟨[], leftover⟩) ↔
      BehindCommas [] i.rest ∧ i.leftover = leftover := by
  rw [discard_ok_iff]
  constructor
  · rintro ⟨found, h⟩
    rw [Running.run_mark?] at h
    obtain ⟨_ | ⟨t, rest⟩, leftover⟩ := i
    · cases h
      exact ⟨.nil, rfl⟩
    · split at h
      case isFalse => cases h
      case isTrue comma =>
        have hcomma : mark "," scope ⟨t :: rest, leftover⟩ = .ok ((), ⟨rest, leftover⟩) := by
          rw [Running.run_mark, if_pos comma]
          rfl
        obtain ⟨joint, p, after, hrest, hafter⟩ := mark_comma_ok_iff.1 hcomma
        cases hrest
        cases h
        exact ⟨.comma joint p, rfl⟩
  · obtain ⟨rest, _⟩ := i
    rintro ⟨- | ⟨joint, p⟩, rfl⟩
    · exact ⟨false, rfl⟩
    · exact ⟨true, rfl⟩

end Commas

/-! ## One marker -/

namespace Marker

variable {marker : Marker} {call : MacroCall} {name : String} {close : Position} {tokens : List Token}

theorem readAll_ignoreProperty : readAll ignorePropertyArguments close tokens = .ok marker ↔
    ∃ model handles, marker = .ignoreProperties model handles ∧ marker.Written tokens := by
  rw [readAll_ok_iff, ignorePropertyArguments, bind_ok_iff]
  constructor
  · rintro ⟨model, m, hmodel, h⟩
    obtain ⟨p, rest, usable, rfl, rfl⟩ := ident_ok_iff.1 hmodel
    obtain ⟨handles, m, hhandles, h⟩ := bind_ok_iff.1 h
    obtain ⟨hbehind, rfl⟩ := handlesAfterCommas_ok_iff.1 hhandles
    rcases handles with - | ⟨handle, handles⟩
    · cases h
    · cases h
      exact ⟨model, _, rfl, .ignoreProperties p usable (List.cons_ne_nil handle handles) hbehind⟩
  · rintro ⟨model, handles, rfl, hwritten⟩
    cases hwritten with | @ignoreProperties _ _ rest p usable some_handle hbehind
    refine ⟨model, _, ident_ok_iff.2 ⟨p, rest, usable, rfl, rfl⟩, ?_⟩
    refine bind_ok_iff.2 ⟨handles, _, handlesAfterCommas_ok_iff.2 ⟨hbehind, rfl⟩, ?_⟩
    rcases handles with - | ⟨handle, handles⟩
    · exact absurd rfl some_handle
    · rfl

theorem readAll_renameProperty : readAll renamePropertyArguments close tokens = .ok marker ↔
    ∃ model handle name, marker = .renameProperty model handle name ∧ marker.Written tokens := by
  rw [readAll_ok_iff, renamePropertyArguments, bind_ok_iff]
  constructor
  · rintro ⟨model, m, hmodel, h⟩
    obtain ⟨p₁, rest, usable, rfl, rfl⟩ := ident_ok_iff.1 hmodel
    obtain ⟨_, m, hcomma, h⟩ := bind_ok_iff.1 h
    obtain ⟨joint, p₂, rest, rfl, rfl⟩ := mark_comma_ok_iff.1 hcomma
    obtain ⟨handle, m, hhandle, h⟩ := bind_ok_iff.1 h
    obtain ⟨p₃, rest, rfl, rfl⟩ := text_ok_iff.1 hhandle
    obtain ⟨_, m, hcomma, h⟩ := bind_ok_iff.1 h
    obtain ⟨joint', p₄, rest, rfl, rfl⟩ := mark_comma_ok_iff.1 hcomma
    obtain ⟨name, m, hname, h⟩ := bind_ok_iff.1 h
    obtain ⟨p₅, rest, usable', rfl, rfl⟩ := ident_ok_iff.1 hname
    obtain ⟨_, m, hend, hpure⟩ := bind_ok_iff.1 h
    cases hpure
    exact ⟨model, handle, name, rfl, .renameProperty usable usable' (mark?_comma_ok_iff.1 hend).1⟩
  · rintro ⟨model, handle, name, rfl, hwritten⟩
    cases hwritten with | renameProperty usable usable' hend
    refine ⟨model, _, ident_ok_iff.2 ⟨_, _, usable, rfl, rfl⟩, ?_⟩
    refine bind_ok_iff.2 ⟨(), _, mark_comma_ok_iff.2 ⟨_, _, _, rfl, rfl⟩, ?_⟩
    refine bind_ok_iff.2 ⟨handle, _, text_ok_iff.2 ⟨_, _, rfl, rfl⟩, ?_⟩
    refine bind_ok_iff.2 ⟨(), _, mark_comma_ok_iff.2 ⟨_, _, _, rfl, rfl⟩, ?_⟩
    refine bind_ok_iff.2 ⟨name, _, ident_ok_iff.2 ⟨_, _, usable', rfl, rfl⟩, ?_⟩
    exact bind_ok_iff.2 ⟨(), _, mark?_comma_ok_iff.2 ⟨hend, rfl⟩, rfl⟩

theorem readAll_ignoreType : readAll ignoreTypeArguments close tokens = .ok marker ↔
    (marker = .ignoreTypes [] ∧ tokens = []) ∨
      ∃ text texts, marker = .ignoreTypes (text :: texts) ∧ marker.Written tokens := by
  rw [readAll_ok_iff, ignoreTypeArguments, bind_ok_iff]
  constructor
  · rintro ⟨texts, m, htexts, hpure⟩
    cases hpure
    rcases commaList_text_ok_iff.1 htexts with
      ⟨rfl, rfl, -⟩ | ⟨text, texts, p, rest, rfl, rfl, hbehind, -⟩
    · exact .inl ⟨rfl, rfl⟩
    · exact .inr ⟨text, texts, rfl, .ignoreTypes p hbehind⟩
  · rintro (⟨rfl, rfl⟩ | ⟨text, texts, rfl, hwritten⟩)
    · exact ⟨[], _, rfl, rfl⟩
    · cases hwritten with | ignoreTypes p hbehind
      exact ⟨_, _, commaList_text_ok_iff.2 (.inr ⟨text, texts, p, _, rfl, rfl, hbehind, rfl⟩), rfl⟩

/-- The names of macros that are markers. -/
def macroNames : List String := [ignorePropertyName, renamePropertyName, ignoreTypeName]

theorem macroName_mem (marker : Marker) : marker.macroName ∈ macroNames := by
  cases marker <;> simp [macroName, macroNames]

theorem named_ignoreProperty : ignorePropertyName = marker.macroName ↔
    ∃ model handles, marker = .ignoreProperties model handles := by
  cases marker <;> simp [macroName, ignorePropertyName, renamePropertyName, ignoreTypeName]

theorem named_renameProperty : renamePropertyName = marker.macroName ↔
    ∃ model handle name, marker = .renameProperty model handle name := by
  cases marker <;> simp [macroName, ignorePropertyName, renamePropertyName, ignoreTypeName]

theorem named_ignoreType : ignoreTypeName = marker.macroName ↔
    ∃ texts, marker = .ignoreTypes texts := by
  cases marker <;> simp [macroName, ignorePropertyName, renamePropertyName, ignoreTypeName]

theorem arguments_ok_iff {p : Parser Marker} : arguments call p = .ok marker ↔
    readAll p call.close call.arguments = .ok marker := by
  rw [arguments]
  cases readAll p call.close call.arguments <;> simp

/-- The outcome of a call by the name of a marker: the markers of that name that are written in its
arguments, or an error. -/
def Outcome (call : MacroCall) (name : String) (r : Except String Marker) : Prop :=
  ofCall call = (r >>= fun marker => pure (some marker)) ∧
    ∀ marker, r = .ok marker ↔ name = marker.macroName ∧ marker.Written call.arguments

theorem outcome_ignoreProperty (h : calledName? call.path = some ignorePropertyName) :
    Outcome call ignorePropertyName (arguments call ignorePropertyArguments) := by
  refine ⟨by rw [ofCall, h]; rfl, fun marker => ?_⟩
  rw [arguments_ok_iff, readAll_ignoreProperty, named_ignoreProperty]
  simp only [exists_and_right]

theorem outcome_renameProperty (h : calledName? call.path = some renamePropertyName) :
    Outcome call renamePropertyName (arguments call renamePropertyArguments) := by
  refine ⟨by rw [ofCall, h]; rfl, fun marker => ?_⟩
  rw [arguments_ok_iff, readAll_renameProperty, named_renameProperty]
  simp only [exists_and_right]

/-- No patterns at all are read, and refused then. -/
def somePatterns : Marker → Except String Marker
  | .ignoreTypes [] => .error "expected at least one content type alias"
  | marker => .ok marker

theorem somePatterns_ok_iff {m : Marker} :
    somePatterns m = .ok marker ↔ m = marker ∧ marker ≠ .ignoreTypes [] := by
  obtain - | - | (_ | ⟨text, texts⟩) := m <;> simp [somePatterns] <;> grind

theorem Written.exists_cons {texts : List String} (h : Written (.ignoreTypes texts) tokens) :
    ∃ text more, texts = text :: more := by
  cases h
  exact ⟨_, _, rfl⟩

theorem outcome_ignoreType (h : calledName? call.path = some ignoreTypeName) :
    Outcome call ignoreTypeName (arguments call ignoreTypeArguments >>= somePatterns) := by
  constructor
  · rw [ofCall, h]
    change (arguments call ignoreTypeArguments >>= _) = _
    cases arguments call ignoreTypeArguments with
    | error e => rfl
    | ok m => obtain - | - | (_ | ⟨text, texts⟩) := m <;> rfl
  · intro marker
    rw [named_ignoreType, Except.bind_ok_iff]
    constructor
    · rintro ⟨m, hread, hsome⟩
      obtain ⟨rfl, hne⟩ := somePatterns_ok_iff.1 hsome
      rcases readAll_ignoreType.1 (arguments_ok_iff.1 hread) with ⟨rfl, -⟩ | ⟨text, texts, rfl, hwritten⟩
      · exact absurd rfl hne
      · exact ⟨⟨_, rfl⟩, hwritten⟩
    · rintro ⟨⟨texts, rfl⟩, hwritten⟩
      obtain ⟨text, more, rfl⟩ := hwritten.exists_cons
      exact ⟨_, arguments_ok_iff.2 (readAll_ignoreType.2 (.inr ⟨text, more, rfl, hwritten⟩)), rfl⟩

theorem exists_outcome (hname : name ∈ macroNames) (hcall : calledName? call.path = some name) :
    ∃ r, Outcome call name r := by
  simp only [macroNames, List.mem_cons, List.not_mem_nil, or_false] at hname
  rcases hname with rfl | rfl | rfl
  · exact ⟨_, outcome_ignoreProperty hcall⟩
  · exact ⟨_, outcome_renameProperty hcall⟩
  · exact ⟨_, outcome_ignoreType hcall⟩

theorem ofCall_unnamed (h : ∀ name ∈ macroNames, calledName? call.path ≠ some name) :
    ofCall call = .ok none := by
  rw [ofCall]
  cases hname : calledName? call.path with
  | none => rfl
  | some name =>
    rw [hname] at h
    simp only [macroNames, List.forall_mem_cons, Option.some_inj, ne_eq] at h
    obtain ⟨h₁, h₂, h₃, -⟩ := h
    dsimp only
    rw [if_neg h₁, if_neg h₂, if_neg h₃]
    rfl

/-- A macro call is the marker that has its name and is written in its arguments. -/
theorem ofCall_eq_some_iff : ofCall call = .ok (some marker) ↔
    calledName? call.path = some marker.macroName ∧ marker.Written call.arguments := by
  constructor
  · intro h
    by_cases hnames : ∃ name ∈ macroNames, calledName? call.path = some name
    · obtain ⟨name, hname, hcall⟩ := hnames
      obtain ⟨r, hr, hok⟩ := exists_outcome hname hcall
      cases r with
      | error reason => rw [hr] at h; cases h
      | ok m =>
        rw [hr] at h
        cases h
        obtain ⟨rfl, hwritten⟩ := (hok marker).1 rfl
        exact ⟨hcall, hwritten⟩
    · rw [ofCall_unnamed fun name hname hcall => hnames ⟨name, hname, hcall⟩] at h
      cases h
  · rintro ⟨hcall, hwritten⟩
    obtain ⟨r, hr, hok⟩ := exists_outcome marker.macroName_mem hcall
    rw [hr, (hok marker).2 ⟨rfl, hwritten⟩]
    rfl

/-- A macro call is no marker where it does not have the name of one. -/
theorem ofCall_eq_none_iff : ofCall call = .ok none ↔
    ∀ name ∈ macroNames, calledName? call.path ≠ some name := by
  constructor
  · intro h name hname hcall
    obtain ⟨r, hr, -⟩ := exists_outcome hname hcall
    cases r <;> cases hr.symm.trans h
  · exact ofCall_unnamed

/-- A macro call that is not refused is the same marker wherever it stands. -/
theorem ofCall_of_likes {call' : MacroCall} (path : call.path = call'.path)
    (like : Likes call.arguments call'.arguments) {found : Option Marker}
    (h : ofCall call = .ok found) : ofCall call' = .ok found := by
  cases found with
  | none => rwa [ofCall_eq_none_iff, path, ← ofCall_eq_none_iff] at h
  | some marker =>
    obtain ⟨hcall, hwritten⟩ := ofCall_eq_some_iff.1 h
    exact ofCall_eq_some_iff.2 ⟨path ▸ hcall, hwritten.of_likes like⟩

end Marker

end ContentModels
