import ContentModels.Text.Quoted

/-!
# Why a JSON document is refused

An error names a fault and a place. Lines count from one. Columns count the bytes of a line that
were looked at, so that a place just behind a line break has column zero.

## Main definitions

* `Json.Fault` — what can be wrong.
* `Json.Place` — where.
* `Json.Error.message` — the text of an error.
-/

namespace ContentModels.Json

/-- A value of the wrong kind, as a message shows it. -/
inductive Found where
  | null
  | bool (value : Bool)
  | integer (value : Int)
  /-- Any other number, as a message shows it. -/
  | float (written : String)
  | text (value : String)
  | array
  | object
  deriving DecidableEq, Repr

def Found.words : Found → String
  | .null => "null"
  | .bool value => s!"boolean `{value}`"
  | .integer value => s!"integer `{value}`"
  | .float written => s!"floating point `{written}`"
  | .text value => "string " ++ Text.quoted value
  | .array => "sequence"
  | .object => "map"

/-- The container that a document ends in. -/
inductive Container where
  | value | list | object | string
  deriving DecidableEq, Repr

def Container.words : Container → String
  | .value => "a value"
  | .list => "a list"
  | .object => "an object"
  | .string => "a string"

/-- What can be wrong with a document. -/
inductive Fault where
  | endOfInput (inside : Container)
  | expectedColon
  | expectedListEnd
  | expectedObjectEnd
  /-- A word that starts like `null`, `true` or `false` and is none of them. -/
  | expectedWord
  | expectedValue
  | invalidEscape
  | invalidNumber
  | numberTooLarge
  | controlCharacter
  | keyNotText
  | loneSurrogate
  | trailingComma
  | trailingCharacters
  /-- The first half of a character that needs two escapes, on its own. -/
  | unfinishedPair
  | invalidType (found : Found) (expected : String)
  | unknownVariant (name : String) (known : List String)
  | missingField (name : String)
  | duplicateField (name : String)
  | invalidLength (count : Nat) (expected : String)
  deriving DecidableEq, Repr

def Fault.words : Fault → String
  | .endOfInput inside => "EOF while parsing " ++ inside.words
  | .expectedColon => "expected `:`"
  | .expectedListEnd => "expected `,` or `]`"
  | .expectedObjectEnd => "expected `,` or `\x7d`"
  | .expectedWord => "expected ident"
  | .expectedValue => "expected value"
  | .invalidEscape => "invalid escape"
  | .invalidNumber => "invalid number"
  | .numberTooLarge => "number out of range"
  | .controlCharacter => "control character (\\u0000-\\u001F) found while parsing a string"
  | .keyNotText => "key must be a string"
  | .loneSurrogate => "lone leading surrogate in hex escape"
  | .trailingComma => "trailing comma"
  | .trailingCharacters => "trailing characters"
  | .unfinishedPair => "unexpected end of hex escape"
  | .invalidType found expected => s!"invalid type: {found.words}, expected {expected}"
  | .unknownVariant name [] => s!"unknown variant `{name}`, there are no variants"
  | .unknownVariant name [a] => s!"unknown variant `{name}`, expected `{a}`"
  | .unknownVariant name [a, b] => s!"unknown variant `{name}`, expected `{a}` or `{b}`"
  | .unknownVariant name many =>
    s!"unknown variant `{name}`, expected one of " ++
      ", ".intercalate (many.map fun v => s!"`{v}`")
  | .missingField name => s!"missing field `{name}`"
  | .duplicateField name => s!"duplicate field `{name}`"
  | .invalidLength count expected => s!"invalid length {count}, expected {expected}"

/-- A place in a document. -/
structure Place where
  line : Nat := 1
  column : Nat := 0
  deriving DecidableEq, Repr

/-- The place behind the first `n` bytes of a text. -/
def Place.afterBytes (p : Place) : (n : Nat) → List Char → Place
  | 0, _ => p
  | _, [] => p
  | n + 1, c :: rest =>
    if c = '\n' then Place.afterBytes ⟨p.line + 1, 0⟩ n rest
    else Place.afterBytes ⟨p.line, p.column + min (n + 1) c.utf8Size⟩ (n + 1 - c.utf8Size) rest

/-- The place behind a text. -/
def Place.after (p : Place) (cs : List Char) : Place :=
  cs.foldl (fun p c => if c = '\n' then ⟨p.line + 1, 0⟩ else ⟨p.line, p.column + c.utf8Size⟩) p

/-- A refused document. -/
structure Error where
  fault : Fault
  place : Place
  deriving DecidableEq, Repr

def Error.message (e : Error) : String :=
  s!"{e.fault.words} at line {e.place.line} column {e.place.column}"

end ContentModels.Json
