import ContentModels.Json.Skip

/-!
# Reading values of a type

## Main definitions

* `Json.Reader.text`, `Json.Reader.bool`, `Json.Reader.optional`, `Json.Reader.list`,
  `Json.Reader.choice` — readers of values.
* `Json.Record`, `Json.Record.read` — records, which are written as objects or as lists.
-/

namespace ContentModels.Json

namespace Reader

/-- Fails because a value of another kind comes next. -/
def wrongType {α : Type} (expected : String) : Reader α := do
  let found : Found ← match ← next? with
    | some 'n' => do drop; finishWord "ull".toList; pure .null
    | some 't' => do drop; finishWord "rue".toList; pure (.bool true)
    | some 'f' => do drop; finishWord "alse".toList; pure (.bool false)
    | some '-' => do drop; number true
    | some '"' => do drop; return ← fail (.invalidType (.text (← string)) expected)
    | some '[' => pure .array
    | some '\x7b' => pure .object
    | some c => if c.isDigit then number false else failHere .expectedValue
    | none => failHere .expectedValue
  fail (.invalidType found expected)

/-- The next character, or the error that there is none. -/
def start : Reader Char := do
  match ← gap with
  | some c => return c
  | none => failHere (.endOfInput .value)

/-- Reads a string. -/
def text (expected : String := "a string") : Reader String := do
  if (← start) = '"' then do drop; string
  else wrongType expected

/-- Reads a truth value. -/
def bool : Reader Bool := do
  let c ← start
  if c = 't' then do drop; finishWord "rue".toList; return true
  else if c = 'f' then do drop; finishWord "alse".toList; return false
  else wrongType "a boolean"

/-- Reads a natural number of at most 64 bits. -/
def natural : Reader Nat := do
  match ← start with
  | '-' => do drop; unfit (← number true)
  | c => if c.isDigit then unfit (← number false) else wrongType naturalWords
where
  naturalWords : String := "usize"
  unfit : Found → Reader Nat
    | .integer (.ofNat n) => return n
    | found => fail (.invalidType found naturalWords)

/-- Reads `null`, or a value. -/
def optional {α : Type} (p : Reader α) : Reader (Option α) := do
  if (← gap) = some 'n' then do drop; finishWord "ull".toList; return none
  else return some (← p)

/-- Whether a list goes on; a comma that is needed for that is read. -/
def hasElement (first : Bool) : Reader Bool := do
  match ← gap with
  | none => failHere (.endOfInput .list)
  | some c =>
    if c = ']' then return false
    else if first then return true
    else if c = ',' then
      drop
      match ← gap with
      | some ']' => failHere .trailingComma
      | some _ => return true
      | none => failHere (.endOfInput .value)
    else failHere .expectedListEnd

/-- Reads the end of a list whose elements were read. -/
def endList : Reader Unit := do
  match ← gap with
  | some ']' => drop
  | some ',' =>
    drop
    if (← gap) = some ']' then failHere .trailingComma else failHere .trailingCharacters
  | some _ => failHere .trailingCharacters
  | none => failHere (.endOfInput .list)

/-- Reads the elements of a list. -/
def elements {α : Type} (p : Reader α) : Reader (List α) := do
  if !(← hasElement true) then return []
  let first ← p
  let more ← repeatUntil do
    if ← hasElement false then return some (← p) else return none
  return first :: more

/-- Reads a list. -/
def list {α : Type} (p : Reader α) : Reader (List α) := do
  if (← start) = '[' then
    drop
    let values ← elements p
    endList
    return values
  else wrongType "a sequence"

/-- Reads the colon behind a key. -/
def colon : Reader Unit := do
  match ← gap with
  | some ':' => drop
  | some _ => failHere .expectedColon
  | none => failHere (.endOfInput .object)

/-- Reads one of several names. -/
def oneOf {α : Type} (known : List (String × α)) : Reader α := do
  let name ← text "variant identifier"
  match known.lookup name with
  | some value => return value
  | none => fail (.unknownVariant name (known.map (·.1)))

/-- Reads one of several names, perhaps as the key of an object that holds `null`. -/
def choice {α : Type} (known : List (String × α)) : Reader α := do
  match ← gap with
  | some '\x7b' =>
    drop
    let value ← oneOf known
    colon
    if (← start) = 'n' then do drop; finishWord "ull".toList
    else wrongType "unit"
    match ← gap with
    | some '\x7d' => drop
    | some _ => fail .expectedValue
    | none => fail (.endOfInput .object)
    return value
  | some '"' => oneOf known
  | some _ => failHere .expectedValue
  | none => failHere (.endOfInput .value)

/-- Whether an object goes on; a comma that is needed for that is read. -/
def hasKey (first : Bool) : Reader Bool := do
  match ← gap with
  | none => failHere (.endOfInput .object)
  | some c =>
    if c = '\x7d' then return false
    else if first then
      if c = '"' then return true else failHere .keyNotText
    else if c = ',' then
      drop
      match ← gap with
      | some '"' => return true
      | some '\x7d' => failHere .trailingComma
      | some _ => failHere .keyNotText
      | none => failHere (.endOfInput .value)
    else failHere .expectedObjectEnd

/-- Reads the end of an object whose entries were read. -/
def endObject : Reader Unit := do
  match ← gap with
  | some '\x7d' => drop
  | some ',' => failHere .trailingComma
  | some _ => failHere .trailingCharacters
  | none => failHere (.endOfInput .object)

/-- Fails with a fault of the object that was being read; its end counts as read if it comes
next. -/
def failObject {α : Type} (fault : Fault) : Reader α := do
  if (← gap) = some '\x7d' then drop
  fail fault

/-- Fails with a fault of the list that was being read; its end, or a comma, counts as read if it
comes next. -/
def failList {α : Type} (fault : Fault) : Reader α := do
  match ← gap with
  | some ']' => drop
  | some ',' => do drop; discard gap
  | _ => pure ()
  fail fault

end Reader

/-- A field of a record that is read into values of `σ`. -/
structure Field (σ : Type) where
  name : String
  /-- Whether a record cannot do without the field. -/
  required : Bool := false
  /-- Reads the value of the field into what is known of the record. -/
  read : σ → Reader σ

/-- A kind of records. -/
structure Record (σ : Type) where
  name : String
  fields : List (Field σ)
  /-- A record whose fields have their default values. -/
  initial : σ

namespace Record

variable {σ : Type}

def words (r : Record σ) : String := "struct " ++ r.name

/-- What a list has to be to stand for a record. -/
def lengthWords (r : Record σ) : String :=
  let n := r.fields.length
  s!"{r.words} with {n} element" ++ if n = 1 then "" else "s"

/-- Reads one entry of an object, if there is one. -/
def entry? (r : Record σ) (first : Bool) (known : List String) (value : σ) :
    Reader (Option (List String × σ)) := do
  if !(← Reader.hasKey first) then return none
  Reader.drop
  let key ← Reader.string
  match r.fields.find? fun f => f.name == key with
  | some field =>
    if known.contains key then Reader.failObject (.duplicateField key)
    Reader.colon
    return some (key :: known, ← field.read value)
  | none =>
    Reader.colon
    Reader.skipValue
    return some (known, value)

/-- Reads the entries of an object, at most `fuel` of them; answers the names of the fields that
were there. -/
def entries (r : Record σ) : (fuel : Nat) → (first : Bool) → List String → σ →
    Reader (List String × σ)
  | 0, _, known, value => return (known, value)
  | fuel + 1, first, known, value => do
    match ← r.entry? first known value with
    | some (known, value) => r.entries fuel false known value
    | none => return (known, value)

/-- Reads the elements of a list into the fields, from the one with index `i` on. -/
def positional (r : Record σ) : (fields : List (Field σ)) → (i : Nat) → σ → Reader σ
  | [], _, value => return value
  | field :: more, i, value => do
    if ← Reader.hasElement (i == 0) then
      r.positional more (i + 1) (← field.read value)
    else if (field :: more).any (·.required) then
      let missing := (field :: more).takeWhile fun f => !f.required
      Reader.failList (.invalidLength (i + missing.length) r.lengthWords)
    else return value

/-- Reads a record: an object, or the list of its fields in order. -/
def read (r : Record σ) : Reader σ := do
  match ← Reader.start with
  | '[' =>
    Reader.drop
    let value ← r.positional r.fields 0 r.initial
    Reader.endList
    return value
  | '\x7b' =>
    Reader.drop
    let (known, value) ← r.entries ((← get).length + 1) true [] r.initial
    match r.fields.find? fun f => f.required && !known.contains f.name with
    | some field => Reader.failObject (.missingField field.name)
    | none => Reader.endObject
    return value
  | _ => Reader.wrongType r.words

end Record

end ContentModels.Json
