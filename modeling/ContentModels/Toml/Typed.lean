import ContentModels.Toml.Document

/-!
# Values of a type

A document is taken apart for the types that are wanted. The entries of a table are taken in the
order of their keys, and the first one that does not fit is the error.

## Main definitions

* `Toml.text`, `Toml.choice` — values of simple types.
* `Toml.Record` — tables with known keys, which may also be written as arrays.
-/

namespace ContentModels.Toml

/-- The error that a value does not fit. -/
def unfit {α : Type} (reason : String) (span : Span) : Except Error α :=
  .error ⟨.unfit reason, span⟩

/-- The integers that are kept digit by digit. -/
def isKept (n : Int) : Bool := -0x8000000000000000 ≤ n && n < 0x10000000000000000

/-- The text of an integer of at most 128 bits that is not kept digit by digit. -/
def wideWords (n : Int) : Option String :=
  let half : Int := Nat.pow 2 127
  if -half ≤ n ∧ n < half then some s!"integer `{n}` as i128"
  else if 0 ≤ n ∧ n < 2 * half then some s!"integer `{n}` as u128"
  else none

/-- What a value without parts is, in words. -/
def scalarWords (span : Span) : Scalar → Except Error String
  | .text value => .ok (Json.Found.text value).words
  | .integer n =>
    if isKept n then .ok (Json.Found.integer n).words
    else
      match wideWords n with
      | some words => .ok words
      | none => unfit "integer number overflowed" span
  | .float (some written) => .ok (Json.Found.float written).words
  | .float none => unfit "floating-point number overflowed" span
  | .bool value => .ok (Json.Found.bool value).words
  | .moment => .ok Json.Found.object.words

/-- What a value is, in words. -/
def found (v : Located Value) : Except Error String :=
  match v.item with
  | .scalar s => scalarWords v.span s
  | .array _ | .tables _ => .ok Json.Found.array.words
  | .table .. => .ok Json.Found.object.words

/-- Fails because another type is wanted. -/
def misfit {α : Type} (expected : String) (v : Located Value) : Except Error α := do
  .error ⟨.invalidType (← found v) expected, v.span⟩

/-- A text. -/
def text (v : Located Value) (expected : String := "a string") : Except Error String :=
  match v.item with
  | .scalar (.text s) => .ok s
  | _ => misfit expected v

/-! ## Choices -/

/-- One of several names. -/
def oneOf {α : Type} (known : List (String × α)) (name : Located String) : Except Error α :=
  match known.lookup name.item with
  | some value => .ok value
  | none => .error ⟨.unknownVariant name.item (known.map (·.1)), name.span⟩

/-- Refuses a value behind a name, unless it is an empty table or array. -/
def checkEmpty (v : Located Value) : Except Error Unit :=
  match v.item with
  | .table _ [] | .array [] | .tables [] => .ok ()
  | .table .. => unfit "expected empty table" v.span
  | .array _ | .tables _ => unfit "expected empty array" v.span
  | .scalar s => unfit s!"expected table, found {(Value.scalar s).kind}" v.span

/-- One of several names, perhaps as the key of a table with nothing behind it. -/
def choice {α : Type} (known : List (String × α)) (v : Located Value) : Except Error α :=
  match v.item with
  | .scalar (.text s) => oneOf known ⟨v.span, s⟩
  | .table _ [] => unfit "wanted exactly 1 element, found 0 elements" v.span
  | .table _ [(key, inner)] => do
    let value ← oneOf known key
    checkEmpty inner
    return value
  | .table .. => unfit "wanted exactly 1 element, more than 1 element" v.span
  | _ => unfit "wanted string or table" v.span

/-! ## Tables -/

/-- The entries of a table in the order of their keys. -/
def Entries.sorted (entries : Entries) : Entries :=
  List.mergeSort entries fun a b => !decide (b.1.item < a.1.item)

mutual

/-- Refuses numbers that are too large in a value that nobody asked for. -/
def checkIgnored (span : Span) : Value → Except Error Unit
  | .scalar s => discard (scalarWords span s)
  | .array items | .tables items => checkIgnoredItems items
  | .table _ entries => checkIgnoredEntries entries

def checkIgnoredItems : List (Located Value) → Except Error Unit
  | [] => .ok ()
  | ⟨span, value⟩ :: rest => do
    checkIgnored span value
    checkIgnoredItems rest

def checkIgnoredEntries : List (Located String × Located Value) → Except Error Unit
  | [] => .ok ()
  | (_, ⟨span, value⟩) :: rest => do
    checkIgnored span value
    checkIgnoredEntries rest

end

/-- An entry of a record that is read into values of `σ`. -/
structure Field (σ : Type) where
  name : String
  /-- Reads the value of the field into what is known of the record. -/
  read : σ → Located Value → Except Error σ

/-- A kind of tables. -/
structure Record (σ : Type) where
  name : String
  fields : List (Field σ)

namespace Record

variable {σ : Type}

/-- Reads an entry of a table. -/
def readEntry (r : Record σ) (known : σ) (entry : Located String × Located Value) :
    Except Error σ :=
  match r.fields.find? fun f => f.name == entry.1.item with
  | some field => field.read known entry.2
  | none => do
    checkIgnored entry.2.span entry.2.item
    return known

/-- Reads the entries of a table. -/
def readEntries (r : Record σ) (known : σ) (entries : Entries) : Except Error σ :=
  entries.sorted.foldlM r.readEntry known

/-- Reads the items of an array into the fields in their order; further items do not count. -/
def readItems (r : Record σ) (known : σ) (items : List (Located Value)) : Except Error σ :=
  (r.fields.zip items).foldlM (fun known (field, item) => field.read known item) known

/-- Reads a record: a table, or an array of its fields. A date counts as a table without any of
them. -/
def read (r : Record σ) (known : σ) (v : Located Value) : Except Error σ :=
  match v.item with
  | .table _ entries => r.readEntries known entries
  | .array items | .tables items => r.readItems known items
  | .scalar .moment => .ok known
  | .scalar _ => misfit ("struct " ++ r.name) v

end Record

end ContentModels.Toml
