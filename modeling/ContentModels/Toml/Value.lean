import ContentModels.Toml.Scalar

/-!
# Values of TOML documents

A table remembers how it came about, since that decides whether more may be added to it: it may be
written as an inline table, it may exist only because a key leads through it, and the key that leads
through it may be that of a pair.

## Main definitions

* `Toml.Value` — a value.
* `Toml.Table` — the entries of a table, in the order in which they were added.
* `Toml.Table.extend` — adds something behind a path of keys.
-/

namespace ContentModels.Toml

/-- Something with the part of the document that it comes from. -/
structure Located (α : Type) where
  span : Span
  item : α
  deriving DecidableEq, Repr

/-- How a table came about. -/
structure Origin where
  /-- The table was not written itself: a key leads through it. -/
  implicit : Bool := false
  /-- The key that leads through it is that of a pair. -/
  dotted : Bool := false
  isInline : Bool := false
  deriving DecidableEq, Repr

/-- A value of a document. -/
inductive Value where
  | scalar (value : Scalar)
  | array (items : List (Located Value))
  /-- An array of tables that have headers of their own. -/
  | tables (items : List (Located Value))
  | table (origin : Origin) (entries : List (Located String × Located Value))

/-- The entries of a table. -/
abbrev Entries := List (Located String × Located Value)

namespace Value

/-- What kind of value it is. -/
def kind : Value → String
  | scalar (.text _) => "string"
  | scalar (.integer _) => "integer"
  | scalar (.float _) => "float"
  | scalar (.bool _) => "boolean"
  | scalar .moment => "datetime"
  | array _ | tables _ => "array"
  | table .. => "table"

end Value

namespace Entries

/-- The entry of a key. -/
def find? (entries : Entries) (key : String) : Option (Located String × Located Value) :=
  List.find? (fun e => e.1.item == key) entries

/-- The entries without that of a key. -/
def erase (entries : Entries) (key : String) : Entries :=
  List.filter (fun e => e.1.item != key) entries

/-- The entries with a new value of a key, at its old place if it has one. -/
def set (entries : Entries) (key : Located String) (value : Located Value) : Entries :=
  if (entries.find? key.item).isSome then
    List.map (fun e => if e.1.item == key.item then (e.1, value) else e) entries
  else entries ++ [(key, value)]

end Entries

/-- A table that is being filled. -/
structure Table where
  origin : Origin := {}
  entries : Entries := []

/-- The error that a key is there already. -/
def duplicateKey {α : Type} (key : Located String) : Except Error α :=
  .error ⟨.duplicateKey, key.span⟩

/-- The error that a key leads into something that is no table. -/
def notExtensible {α : Type} (key : Located String) (kind : String) : Except Error α :=
  .error ⟨.notExtensible kind, key.span⟩

namespace Table

/-- The table as a value. -/
def value (t : Table) : Value := .table t.origin t.entries

/-- Whether a key may lead through a table. -/
def checkOpen (key : Located String) (dotted withinInline : Bool) (origin : Origin) :
    Except Error Unit :=
  if origin.isInline && !withinInline then notExtensible key "inline table"
  else if dotted && !origin.implicit then duplicateKey key
  else .ok ()

/-- Changes the table that some keys lead to by `f`. Tables that are not there yet are created on
the way; of an array of tables, the last one is taken. `dotted` tells that the keys are those of a
pair, and `withinInline` that the pair is in an inline table. -/
def extend (f : Table → Except Error Table) (dotted withinInline : Bool) (t : Table) :
    List (Located String) → Except Error Table
  | [] => f t
  | key :: path => do
    match t.entries.find? key.item with
    | none =>
      let inner ← extend f dotted withinInline ⟨⟨true, dotted, withinInline⟩, []⟩ path
      return { t with entries := t.entries.set key ⟨key.span, inner.value⟩ }
    | some (_, ⟨span, .table origin entries⟩) =>
      checkOpen key dotted withinInline origin
      let inner ← extend f dotted withinInline ⟨origin, entries⟩ path
      return { t with entries := t.entries.set key ⟨span, inner.value⟩ }
    | some (_, ⟨span, .tables items⟩) =>
      match items.getLast? with
      | some ⟨last, .table origin entries⟩ =>
        let inner ← extend f dotted withinInline ⟨origin, entries⟩ path
        let items := items.dropLast ++ [⟨last, inner.value⟩]
        return { t with entries := t.entries.set key ⟨span, .tables items⟩ }
      | _ => notExtensible key "array"
    | some (_, ⟨_, other⟩) => notExtensible key other.kind

/-- Adds an entry to a table. A table that came about by the key of a pair is filled by such keys
alone, and no other table is. -/
def addEntry (behindPath : Bool) (key : Located String) (value : Located Value) (t : Table) :
    Except Error Table :=
  if t.origin.dotted != behindPath then duplicateKey key
  else if (t.entries.find? key.item).isSome then duplicateKey key
  else .ok { t with entries := t.entries.set key value }

/-- Adds a pair to a table. -/
def addPair (withinInline : Bool) (path : List (Located String)) (key : Located String)
    (value : Located Value) (t : Table) : Except Error Table :=
  t.extend (addEntry (!path.isEmpty) key value) true withinInline path

/-- Adds a table that has a header to an array of such tables. -/
def addToArray (key : Located String) (span : Span) (inner t : Table) : Except Error Table :=
  match t.entries.find? key.item with
  | none => .ok { t with entries := t.entries.set key ⟨span, .tables [⟨span, inner.value⟩]⟩ }
  | some (_, ⟨first, .tables items⟩) =>
    .ok { t with entries := t.entries.set key ⟨first, .tables (items ++ [⟨span, inner.value⟩])⟩ }
  | some _ => duplicateKey key

end Table

end ContentModels.Toml
