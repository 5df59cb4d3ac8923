import ContentModels.Decimal.Shortest
import ContentModels.Toml.Moment

/-!
# Values without parts

What starts like a number, a date or a truth value is taken for one, and refused if it is none.
Anything else without quotes is refused as a text that should have them.

## Main definitions

* `Toml.Scalar` — a value without parts.
* `Toml.keyText`, `Toml.scalar` — what a part of a key and a value stand for.
-/

namespace ContentModels.Toml

open Text Decimal

/-- A value without parts. -/
inductive Scalar where
  | text (value : String)
  | integer (value : Int)
  /-- A number with a point or an exponent, as a message shows it; nothing if it is too large. -/
  | float (written : Option String)
  | bool (value : Bool)
  /-- A date or a time. -/
  | moment
  deriving DecidableEq, Repr

/-- What is in the document from one byte of a value to another one. -/
def Written.part (w : Written) (start stop : Nat) : Span := ⟨w.start + start, w.start + stop⟩

/-- The error of a value that is a text without quotes. -/
def unquotedError (w : Written) : Except Error Scalar :=
  match [Quote.multiLiteral, .multiBasic, .literal, .basic].find? fun q =>
      q.written.toList.isSuffixOf w.text with
  | some q => scalarError (.missingOpeningQuote q.written) (.point w.start)
  | none => scalarError .unquoted w.span

/-! ## Underscores -/

/-- Whether a character may stand beside an underscore. -/
def isDigitIn (float : Bool) (c : Char) : Bool :=
  if float then c.isDigit else isHexDigit c

/-- Refuses underscores that are not between digits, in the pieces between them; the first piece
starts `start` bytes behind the start of the value. -/
def checkPieces (w : Written) (float : Bool) : (start : Nat) → List (List Char) → Except Error Unit
  | _, [] => .ok ()
  | start, piece :: rest =>
    let stop := start + byteCount piece
    let size := byteCount w.text
    if 0 < start ∧ !(isDigitIn float (piece.head?.getD '0')) then
      scalarError .underscore (w.part (start - 1) start)
    else if 1 < piece.length ∧ stop < size ∧ !(isDigitIn float (piece.getLast?.getD '0')) then
      scalarError .underscore (w.part stop (stop + 1))
    else if piece.isEmpty ∧ start ≠ 0 ∧ stop ≠ size then
      scalarError .underscore (w.part start (start + 1))
    else checkPieces w float (stop + 1) rest

/-- The characters of a number without its underscores; the number starts `start` bytes behind the
start of the value. -/
def withoutUnderscores (w : Written) (float : Bool) (start : Nat) (cs : List Char) :
    Except Error (List Char) := do
  if cs.contains '_' then
    let stop := start + byteCount cs
    if cs.head? = some '_' then scalarError .underscore (w.part 0 1)
    if 1 < cs.length ∧ cs.getLast? = some '_' then scalarError .underscore (w.part (stop - 1) stop)
    checkPieces w float start (pieces '_' cs)
  return cs.filter (· != '_')

/-! ## Integers -/

/-- A number with the sign that its text starts with. -/
def withSign (cs : List Char) (n : Nat) : Int := if cs.head? = some '-' then -n else n

/-- Refuses a zero at the start of a number, which starts `start` bytes behind the start of the
value. -/
def checkLeadingZero (w : Written) (start : Nat) (cs : List Char) : Except Error Unit :=
  if cs.head? = some '0' then scalarError .leadingZero (w.part start (start + 1)) else .ok ()

/-- An integer in decimal digits. -/
def decimalInteger (w : Written) (start : Nat) (cs : List Char) : Except Error Scalar := do
  checkLeadingZero w start cs
  let plain ← withoutUnderscores w false 0 w.text
  return .integer (withSign plain (valueIn 10 (plain.filter Char.isDigit)))

def isDigitOf (radix : Radix) (c : Char) : Bool :=
  (hexDigit? c).any fun n => n < radix.base

/-- Refuses what is no digit of an integer. -/
def checkDigits (w : Written) (radix : Radix) (start : Nat) (cs : List Char) : Except Error Unit :=
  let good := cs.takeWhile fun c => isDigitOf radix c || c == '_'
  if good.length = cs.length ∧ !cs.isEmpty then .ok ()
  else
    let place := start + byteCount good
    match cs with
    | '+' :: _ | '-' :: _ => scalarError .signBehindRadix (w.part start (start + 1))
    | _ => scalarError (.invalidDigit radix) (w.part place place)

/-- The radixes by the letter behind the zero. -/
def radixes : List (Char × Radix) := [
  ('x', .hexadecimal), ('o', .octal), ('b', .binary), ('d', .decimal)]

/-- An integer whose radix is written. -/
def radixInteger (w : Written) (start : Nat) (letter : Char) (radix : Radix) (cs : List Char) :
    Except Error Scalar := do
  if 0 < start then scalarError .signedRadix (w.part 0 1)
  if radix = .decimal then scalarError .redundantRadix (w.part start (start + 2))
  if letter.isUpper then
    scalarError (.radixCase ("0" ++ String.singleton letter.toLower)) (w.part start (start + 2))
  checkDigits w radix (start + 2) cs
  let plain ← withoutUnderscores w false (start + 2) cs
  return .integer (valueIn radix.base plain)

/-! ## Floats -/

/-- Refuses digits that are missing, or that start with a zero. -/
def checkFloatDigits (w : Written) (part : FloatPart) (start : Nat) (cs : List Char) :
    Except Error Unit :=
  let digits := cs.filter Char.isDigit
  if digits.isEmpty then scalarError (.missingDigits part) (w.part start start)
  else if part = .mantissa ∧ 1 < digits.length ∧ cs.head? = some '0' then
    scalarError .leadingZero (w.part start (start + 1))
  else .ok ()

/-- The digits and underscores that come next, and what follows them. -/
def digitRun (cs : List Char) : List Char × List Char :=
  (cs.takeWhile fun c => c.isDigit || c == '_', cs.dropWhile fun c => c.isDigit || c == '_')

/-- The numbers with a point or an exponent that are told apart from larger and smaller ones. -/
def floatRange : Nat := 400

/-- A number with a point or an exponent, as a message shows it. -/
def floatText (negative : Bool) (digits : Nat) (exponent : Int) : Option String :=
  let size : Int := (Nat.toDigits 10 digits).length + exponent
  let sign := if negative then "-" else ""
  if digits = 0 ∨ size < -floatRange then some (sign ++ "0.0")
  else if floatRange < size then none
  else
    let power := Nat.pow 10 exponent.natAbs
    let value := if exponent < 0 then Binary.ofRatio? digits power
      else Binary.ofRatio? (digits * power) 1
    value.map fun b => sign ++ b.plainText

/-- A number with a point or an exponent; what is checked starts `start` bytes behind the start of
the value. -/
def float (w : Written) (start : Nat) (cs : List Char) : Except Error Scalar := do
  let (whole, rest) := digitRun cs
  checkFloatDigits w .mantissa start whole
  let (fraction, rest) ← match rest with
    | '.' :: more => do
      let (fraction, rest) := digitRun more
      checkFloatDigits w .fraction (w.text.length - more.length) fraction
      pure (fraction, rest)
    | _ => pure ([], rest)
  let (negative, exponent, rest) ← match rest with
    | c :: more =>
      if c = 'e' ∨ c = 'E' then do
        let (sign, more) := match more with
          | '+' :: more => (false, more)
          | '-' :: more => (true, more)
          | _ => (false, more)
        let (exponent, rest) := digitRun more
        checkFloatDigits w .exponent (w.text.length - more.length) exponent
        pure (sign, exponent, rest)
      else pure (false, [], rest)
    | [] => pure (false, [], [])
  if !rest.isEmpty then
    scalarError .invalidFloat (w.part (byteCount w.text - byteCount rest) (byteCount w.text))
  discard <| withoutUnderscores w true 0 w.text
  let digits := (whole ++ fraction).filter Char.isDigit
  let power : Int := valueIn 10 (exponent.filter Char.isDigit)
  let shift : Int := (fraction.filter Char.isDigit).length
  return .float <| floatText (w.text.head? = some '-') (valueIn 10 digits)
    ((if negative then -power else power) - shift)

/-! ## Numbers and dates -/

/-- A date or a time. -/
def momentScalar (w : Written) : Except Error Scalar :=
  match Moment.check w.text with
  | .ok () => .ok .moment
  | .error d => scalarError (.invalidMoment d.part d.wanted) w.span

/-- A value that starts like a number, `start` bytes behind its start. -/
def numeric (w : Written) (start : Nat) (cs : List Char) : Except Error Scalar :=
  match cs.dropWhile Char.isDigit with
  | [] => decimalInteger w start cs
  | c :: rest =>
    if c = '-' ∨ c = ':' then momentScalar w
    else if (c :: rest).contains ' ' then unquotedError w
    else if (c :: rest).any fun d => d == '.' || d == 'e' || d == 'E' then float w start cs
    else if c = '_' then decimalInteger w start cs
    else unquotedError w

/-- A value that starts with a zero, `start` bytes behind its start. -/
def zeroNumeric (w : Written) (start : Nat) (cs : List Char) : Except Error Scalar :=
  match cs with
  | [_] => .ok (.integer 0)
  | _ :: letter :: rest =>
    match radixes.lookup letter.toLower with
    | some radix => radixInteger w start letter radix rest
    | none => numeric w start cs
  | [] => unquotedError w

/-- A value that is one word, and nothing like it. -/
def symbol (w : Written) (word : String) (value : Scalar) (fault : String → ScalarFault) :
    Except Error Scalar :=
  if w.text = word.toList then .ok value
  else if w.text.contains ' ' then unquotedError w
  else scalarError (fault word) w.span

/-- A value behind its sign that is one word. -/
def signedSymbol (w : Written) (cs : List Char) (word : String) (value : String) :
    Except Error Scalar :=
  if cs = word.toList then .ok (.float (some value))
  else scalarError (.invalidSymbol word) (w.part 1 (byteCount w.text))

/-- A value that starts with a sign. -/
def signed (w : Written) (cs : List Char) : Except Error Scalar :=
  match cs with
  | [] => unquotedError w
  | c :: _ =>
    if c = '+' ∨ c = '-' then scalarError .redundantSign (w.part 1 2)
    else if c = '0' then zeroNumeric w 1 cs
    else if c.isDigit ∨ c = '_' then numeric w 1 cs
    else if c = '.' then float w 1 cs
    else if c.toLower = 'i' then
      signedSymbol w cs "inf" (if w.text.head? = some '-' then "-inf" else "inf")
    else if c.toLower = 'n' then signedSymbol w cs "nan" "NaN"
    else unquotedError w

/-- The value of a text without quotes. -/
def unquoted (w : Written) : Except Error Scalar :=
  match w.text with
  | [] => unquotedError w
  | c :: rest =>
    if c = '+' ∨ c = '-' then signed w rest
    else if c = '0' then zeroNumeric w 0 w.text
    else if c.isDigit ∨ c = '_' then numeric w 0 w.text
    else if c = '.' then float w 0 w.text
    else if c.toLower = 't' then symbol w "true" (.bool true) .invalidBoolean
    else if c.toLower = 'f' then symbol w "false" (.bool false) .invalidBoolean
    else if c.toLower = 'i' then symbol w "inf" (.float (some "inf")) .invalidSymbol
    else if c.toLower = 'n' then symbol w "nan" (.float (some "NaN")) .invalidSymbol
    else unquotedError w

/-- What a value without parts stands for. -/
def scalar (w : Written) : Except Error Scalar :=
  match w.quote with
  | some quote => Scalar.text <$> quotedText quote w
  | none => unquoted w

/-! ## Keys -/

/-- Characters of a key without quotes. -/
def isKeyChar (c : Char) : Bool := c.isAlphanum || c == '-' || c == '_'

/-- What a part of a key stands for. -/
def keyText (w : Written) : Except Error String :=
  match w.quote with
  | none =>
    let good := w.text.takeWhile isKeyChar
    if w.text.isEmpty then scalarError .emptyKey w.span
    else if good.length = w.text.length then .ok (String.ofList w.text)
    else scalarError .invalidKey (.point (w.start + byteCount good))
  | some quote =>
    if quoteCount quote = 1 then quotedText quote w
    else scalarError (.multiLineKey quote) w.span

end ContentModels.Toml
