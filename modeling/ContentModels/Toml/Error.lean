import ContentModels.Json.Error
import ContentModels.Text.Split
import ContentModels.Text.Utf8

/-!
# Why a TOML document is refused

An error names a fault and the part of the document that is at fault. Its text shows that part,
marked, in the line that it starts in.

## Main definitions

* `Toml.Span` — a part of a document.
* `Toml.Fault` — what can be wrong.
* `Toml.Error.message` — the text of an error.
-/

namespace ContentModels.Toml

open Text

/-- The bytes of a document from `start` up to `stop`. -/
structure Span where
  start : Nat
  stop : Nat
  deriving DecidableEq, Repr, Inhabited

namespace Span

/-- The empty part at a place. -/
def point (place : Nat) : Span := ⟨place, place⟩

/-- The empty part before another one. -/
def before (s : Span) : Span := point s.start

/-- The empty part behind another one. -/
def after (s : Span) : Span := point s.stop

/-- From the start of one part to the end of another one. -/
def through (s t : Span) : Span := ⟨s.start, t.stop⟩

end Span

/-- Something that could stand at a place. -/
inductive Wanted where
  /-- Something that is written as it is. -/
  | written (text : String)
  | newline
  /-- Anything else, in words. -/
  | described (words : String)
  deriving DecidableEq, Repr

def Wanted.words : Wanted → String
  | .written text => "`" ++ text ++ "`"
  | .newline => "newline"
  | .described words => words

/-- The kinds of strings. -/
inductive Quote where
  | literal
  | basic
  | multiLiteral
  | multiBasic
  deriving DecidableEq, Repr

namespace Quote

def name : Quote → String
  | literal => "literal string"
  | basic => "basic string"
  | multiLiteral => "multi-line literal string"
  | multiBasic => "multi-line basic string"

/-- The quote that ends a string. -/
def mark : Quote → Char
  | literal | multiLiteral => '\''
  | basic | multiBasic => '"'

/-- What a string of this kind may hold. -/
def content : Quote → List Wanted
  | literal => [.described "non-single-quote visible characters"]
  | basic => [.described "non-double-quote visible characters", .written "\\"]
  | multiLiteral => [.described "non-single-quote characters"]
  | multiBasic => [.written "\\", .described "characters"]

end Quote

/-- What an inline table goes on with. -/
inductive InlineState where
  | key
  | equals
  | value
  | comma
  deriving DecidableEq, Repr

def InlineState.wanted : InlineState → Wanted
  | .key => .described "key"
  | .equals => .written "="
  | .value => .described "value"
  | .comma => .written ","

/-- The ways to write an integer. -/
inductive Radix where
  | decimal
  | hexadecimal
  | octal
  | binary
  deriving DecidableEq, Repr

def Radix.base : Radix → Nat
  | .decimal => 10
  | .hexadecimal => 16
  | .octal => 8
  | .binary => 2

def Radix.invalid : Radix → String
  | .decimal => "invalid integer number"
  | .hexadecimal => "invalid hexadecimal number"
  | .octal => "invalid octal number"
  | .binary => "invalid binary number"

/-- The parts of a number with a point or an exponent. -/
inductive FloatPart where
  | mantissa
  | fraction
  | exponent
  deriving DecidableEq, Repr

def FloatPart.name : FloatPart → String
  | .mantissa => "mantissa"
  | .fraction => "fraction"
  | .exponent => "exponent"

/-- What can be wrong with the form of a document. -/
inductive SyntaxFault where
  | keyWithoutValue
  | missingValue
  | missingTableOpen
  | noPair
  | unclosedTable
  | unclosedArrayTable (close : String)
  | lineGoesOn
  | extraEquals
  | missingInlineTableOpen
  | missingArrayOpen
  | loneReturn
  | commentCharacter
  | unclosedArray
  | extraArrayComma
  | equalsInArray
  | missingArrayComma
  | unclosedInlineTable
  | extraInlineComma (state : InlineState)
  | extraAssignment (state : InlineState)
  | missingInlineKey (state : InlineState)
  | missingAssignment
  | missingInlineComma
  | invalidInlineElement (state : InlineState)
  | tooDeep
  deriving DecidableEq, Repr

/-- What can be wrong with a key, a string or another value without parts. -/
inductive ScalarFault where
  | emptyKey
  | invalidKey
  | multiLineKey (quote : Quote)
  | unclosedString (quote : Quote)
  | stringCharacter (quote : Quote)
  /-- A backslash at the end of a line, and something else behind it. -/
  | lineGoesOn
  | loneReturn
  | missingEscape
  | fewDigits
  | invalidCode
  /-- A quote ends the value, and none starts it. -/
  | missingOpeningQuote (quote : String)
  | unquoted
  | invalidBoolean (wanted : String)
  | invalidSymbol (wanted : String)
  | redundantSign
  | signedRadix
  | radixCase (wanted : String)
  | redundantRadix
  | leadingZero
  | signBehindRadix
  | invalidDigit (radix : Radix)
  | missingDigits (part : FloatPart)
  | invalidFloat
  | underscore
  /-- No date or time; `part` may tell what is wrong with, and `wanted` what is wrong. -/
  | invalidMoment (part : Option String) (wanted : Option String)
  deriving DecidableEq, Repr

/-- What can be wrong with a document. -/
inductive Fault where
  | form (fault : SyntaxFault)
  | scalar (fault : ScalarFault)
  | duplicateKey
  /-- A key leads into something that is no table. -/
  | notExtensible (kind : String)
  | invalidType (found expected : String)
  | unknownVariant (name : String) (known : List String)
  /-- Something else does not fit what is wanted. -/
  | unfit (reason : String)
  deriving DecidableEq, Repr

namespace SyntaxFault

/-- What is wrong. -/
def what : SyntaxFault → String
  | keyWithoutValue => "key with no value"
  | missingValue => "missing value for key"
  | missingTableOpen => "missing table open"
  | noPair => "invalid key-value pair"
  | unclosedTable => "unclosed table"
  | unclosedArrayTable _ => "unclosed array table"
  | lineGoesOn => "unexpected key or value"
  | extraEquals => "extra `=`"
  | missingInlineTableOpen => "missing inline table opening"
  | missingArrayOpen => "missing array opening"
  | loneReturn => "carriage return must be followed by newline"
  | commentCharacter => "invalid comment character"
  | unclosedArray => "unclosed array"
  | extraArrayComma => "extra comma in array"
  | equalsInArray => "unexpected `=` in array"
  | missingArrayComma => "missing comma between array elements"
  | unclosedInlineTable => "unclosed inline table"
  | extraInlineComma _ => "extra comma in inline table"
  | extraAssignment _ => "extra assignment between key-value pairs"
  | missingInlineKey _ => "missing key for inline table element"
  | missingAssignment => "missing assignment between key-value pairs"
  | missingInlineComma => "missing comma between key-value pairs"
  | invalidInlineElement _ => "invalid inline table element"
  | tooDeep => "cannot recurse further; max recursion depth met"

/-- What could stand there, if that is known. -/
def wanted : SyntaxFault → Option (List Wanted)
  | keyWithoutValue | missingValue | missingAssignment => some [.written "="]
  | missingTableOpen | missingArrayOpen => some [.written "["]
  | noPair => some [.described "key"]
  | unclosedTable | unclosedArray => some [.written "]"]
  | unclosedArrayTable close => some [.written close]
  | lineGoesOn => some [.newline, .written "#"]
  | extraEquals => some []
  | missingInlineTableOpen => some [.written "\x7b"]
  | loneReturn => some [.newline]
  | commentCharacter => some [.described "printable characters"]
  | extraArrayComma => some [.described "value"]
  | equalsInArray => some [.described "value", .written "]"]
  | missingArrayComma | missingInlineComma => some [.written ","]
  | unclosedInlineTable => some [.written "\x7d"]
  | extraInlineComma state | extraAssignment state | missingInlineKey state
  | invalidInlineElement state => some [state.wanted]
  | tooDeep => none

end SyntaxFault

namespace ScalarFault

/-- What is wrong. -/
def what : ScalarFault → String
  | emptyKey => "unquoted keys cannot be empty"
  | invalidKey => "invalid unquoted key"
  | multiLineKey quote => s!"keys cannot be {quote.name}s"
  | unclosedString quote | stringCharacter quote => s!"invalid {quote.name}"
  | lineGoesOn => s!"invalid {Quote.multiBasic.name}"
  | loneReturn => "carriage return must be followed by newline"
  | missingEscape => "missing escaped value"
  | fewDigits => "too few unicode value digits"
  | invalidCode => "invalid value"
  | missingOpeningQuote _ => "missing opening quote"
  | unquoted => "string values must be quoted"
  | invalidBoolean _ => "invalid boolean"
  | invalidSymbol _ | invalidFloat => "invalid float"
  | redundantSign => "redundant numeric sign"
  | signedRadix => "integers with a radix cannot be signed"
  | radixCase _ => "radix must be lowercase"
  | redundantRadix => "redundant integer number prefix"
  | leadingZero => "unexpected leading zero"
  | signBehindRadix => "unexpected sign"
  | invalidDigit radix => radix.invalid
  | missingDigits part => s!"invalid {part.name}"
  | underscore => "`_` may only go between digits"
  | invalidMoment part _ => s!"invalid {part.getD momentName}"
where
  momentName : String := "datetime"

/-- What could stand there, if that is known. -/
def wanted : ScalarFault → Option (List Wanted)
  | emptyKey | invalidKey =>
    some [.described "letters", .described "numbers", .written "-", .written "_"]
  | multiLineKey _ => some [.described Quote.basic.name, .described Quote.literal.name]
  | unclosedString quote => some [.written (String.singleton quote.mark)]
  | stringCharacter quote => some quote.content
  | lineGoesOn | loneReturn => some [.newline]
  | missingEscape => some <|
    ["b", "e", "f", "n", "r", "\\", "\"", "x", "u", "U"].map Wanted.written
  | fewDigits | invalidCode => some [.described "unicode hexadecimal value"]
  | missingOpeningQuote quote => some [.written quote]
  | unquoted => some [.described Quote.literal.name]
  | invalidBoolean symbol | invalidSymbol symbol | radixCase symbol => some [.written symbol]
  | redundantSign | signedRadix | redundantRadix | leadingZero | signBehindRadix | invalidFloat
  | underscore => some []
  | invalidDigit _ => none
  | missingDigits _ => some [.described "digits"]
  | invalidMoment _ wanted => wanted.map fun words => [.described words]

end ScalarFault

/-- What is wrong, with what could stand there. -/
def describe (what : String) : Option (List Wanted) → String
  | none => what
  | some [] => s!"{what}, expected nothing"
  | some many => what ++ ", expected " ++ ", ".intercalate (many.map Wanted.words)

def Fault.words : Fault → String
  | .form fault => describe fault.what fault.wanted
  | .scalar fault => describe fault.what fault.wanted
  | .duplicateKey => "duplicate key"
  | .notExtensible kind => s!"cannot extend value of type {kind} with a dotted key"
  | .invalidType found expected => s!"invalid type: {found}, expected {expected}"
  | .unknownVariant name known => (Json.Fault.unknownVariant name known).words
  | .unfit reason => reason

/-- A refused document. -/
structure Error where
  fault : Fault
  span : Span
  deriving DecidableEq, Repr

/-! ## Places in a document -/

/-- The place of a byte: its line and column, both from zero. -/
structure Place where
  line : Nat
  column : Nat
  deriving DecidableEq, Repr

/-- The column of the byte with index `byte` of a line. Columns count characters up to the last byte
of a character, and bytes up to any other one. -/
def columnOf (byte : Nat) : (line : List Char) → (chars start : Nat) → Nat
  | [], _, _ => byte
  | c :: rest, chars, start =>
    if byte + 1 = start + c.utf8Size then chars
    else if byte + 1 < start + c.utf8Size then byte
    else columnOf byte rest (chars + 1) (start + c.utf8Size)

/-- The place of the byte with index `byte` of some lines; a line feed ends the line before it. -/
def placeIn (byte : Nat) : (lines : List (List Char)) → (line : Nat) → Place
  | [], line => ⟨line, byte⟩
  | text :: rest, line =>
    let size := byteCount text
    if byte ≤ size then ⟨line, columnOf byte (text ++ ['\n']) 0 0⟩
    else placeIn (byte - size - 1) rest (line + 1)

/-- The place of the byte with index `byte`. Behind the last byte of a document columns go on. -/
def placeOf (document : List Char) (byte : Nat) : Place :=
  match byteCount document with
  | 0 => ⟨0, byte⟩
  | last + 1 =>
    let place := placeIn (min byte last) (pieces '\n' document) 0
    { place with column := place.column + (byte - last) }

/-- The text of an error in a document. -/
def Error.message (document : String) (e : Error) : String :=
  let place := placeOf document.toList e.span.start
  let content := ((pieces '\n' document.toList)[place.line]?).getD []
  let number := toString (place.line + 1)
  let gutter := String.ofList (List.replicate (number.length + 1) ' ')
  let length := min (e.span.stop - e.span.start) (byteCount content - place.column)
  let marks := String.ofList (List.replicate (max 1 length) '^')
  let indent := String.ofList (List.replicate (place.column + 1) ' ')
  s!"TOML parse error at line {number}, column {place.column + 1}\n{gutter}|\n" ++
    s!"{number} | {String.ofList content}\n{gutter}|{indent}{marks}\n{e.fault.words}\n"

end ContentModels.Toml
