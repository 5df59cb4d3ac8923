import ContentModels.Toml.Value

/-!
# Reading TOML documents

The statements of a document fill tables. Pairs go into the table of the last header, and that table
is put into the document when the next header comes, or the end.

## Main definitions

* `Toml.read` — reads a document.
-/

namespace ContentModels.Toml

/-- What a part of a key stands for. -/
def locatedKey (w : Written) : Except Error (Located String) := do
  return ⟨w.span, ← keyText w⟩

/-- What a key stands for: where it leads through, and its last part. -/
def keyParts (key : KeyForm) : Except Error (List (Located String) × Located String) := do
  let path ← key.path.mapM locatedKey
  return (path, ← locatedKey key.last)

mutual

/-- What a value stands for. -/
def valueOf : ValueForm → Except Error Value
  | .scalar w => Value.scalar <$> scalar w
  | .array _ items => Value.array <$> itemsOf items
  | .inlineTable _ entries => do
    let t ← entriesOf ⟨⟨false, false, true⟩, []⟩ entries
    return t.value

def itemsOf : List ValueForm → Except Error (List (Located Value))
  | [] => .ok []
  | form :: rest => do
    let value ← valueOf form
    return ⟨form.span, value⟩ :: (← itemsOf rest)

/-- Adds the entries of an inline table. -/
def entriesOf (t : Table) : List (KeyForm × ValueForm) → Except Error Table
  | [] => .ok t
  | (key, form) :: rest => do
    let (path, key) ← keyParts key
    let value ← valueOf form
    entriesOf (← t.addPair true path key ⟨form.span, value⟩) rest

end

/-- A header that was read. -/
structure Header where
  isArray : Bool
  path : List (Located String)
  key : Located String
  span : Span

/-- A document that is being read: what was finished, and the table that pairs go into, with its
header. -/
structure Draft where
  root : Table := {}
  current : Table := {}
  header : Option Header := none

namespace Draft

/-- Puts the table that pairs went into where its header says. -/
def finish (d : Draft) : Except Error Table :=
  match d.header with
  | none => .ok d.current
  | some ⟨true, path, key, span⟩ =>
    d.root.extend (Table.addToArray key span d.current) false false path
  | some ⟨false, path, key, span⟩ =>
    d.root.extend (fun t => .ok { t with
      entries := t.entries.set key ⟨span, d.current.value⟩ }) false false path

/-- The table that a header starts: an empty one, or one that was there because keys led through
it. That one is taken out of the document. -/
def opened (header : Header) (root : Table) : Except Error (Table × Table) :=
  if header.isArray then .ok (root, {})
  else do
    let found ← root.extend (fun t => .ok t) false false header.path
    let parent := parentOf found header.path
    match parent.entries.find? header.key.item with
    | none => return (found, {})
    | some (_, ⟨_, .table ⟨true, false, _⟩ entries⟩) =>
      let root ← found.extend (fun t => .ok { t with
        entries := t.entries.erase header.key.item }) false false header.path
      return (root, ⟨{}, entries⟩)
    | some _ => duplicateKey header.key
where
  /-- The table that some keys lead to. -/
  parentOf (t : Table) : List (Located String) → Table
    | [] => t
    | key :: path =>
      match t.entries.find? key.item with
      | some (_, ⟨_, .table origin entries⟩) => parentOf ⟨origin, entries⟩ path
      | some (_, ⟨_, .tables items⟩) =>
        match items.getLast? with
        | some ⟨_, .table origin entries⟩ => parentOf ⟨origin, entries⟩ path
        | _ => t
      | _ => t

/-- Takes in a statement. -/
def add (d : Draft) : Statement → Except Error Draft
  | .pair key form => do
    let (path, key) ← keyParts key
    let value ← valueOf form
    return { d with current := ← d.current.addPair false path key ⟨form.span, value⟩ }
  | .header isArray key span => do
    let root ← d.finish
    let (path, key) ← keyParts key
    let header : Header := ⟨isArray, path, key, span⟩
    let (root, current) ← opened header root
    return ⟨root, current, some header⟩

end Draft

/-- Reads a document. -/
def read (document : String) : Except Error Table := do
  let draft ← (← statements document.toList).foldlM Draft.add {}
  draft.finish

end ContentModels.Toml
