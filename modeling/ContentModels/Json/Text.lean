import ContentModels.Json.Reader
import ContentModels.Text.Digits
import ContentModels.Text.Utf8

/-!
# JSON strings

A string is written between double quotes. Characters may be written as escapes, those outside the
first plane as two of them.

## Main definitions

* `Json.Reader.string` — reads a string behind its opening quote.
* `Json.Reader.skipString` — reads over one.
* `Json.written` — the text that a string is written as.
-/

namespace ContentModels.Json

open Text (hexDigit? byteCount)

/-- The character of a code. -/
def charOf (code : Nat) : Char := Char.ofNat code

/-- The simple escapes: the character behind the backslash and the one it stands for. -/
def simpleEscapes : List (Char × Char) := [
  ('"', '"'), ('\\', '\\'), ('/', '/'), ('b', '\x08'), ('f', '\x0c'), ('n', '\n'), ('r', '\r'),
  ('t', '\t')]

/-- Characters that cannot stand in a string as they are. -/
def isControl (c : Char) : Bool := c.toNat < 0x20

namespace Reader

/-- The next character of a string, which is not read. -/
def peekInString : Reader Char := do
  match ← next? with
  | some c => return c
  | none => fail (.endOfInput .string)

/-- Reads four hexadecimal digits. -/
def fourDigits : Reader Nat := do
  match ← get with
  | a :: b :: c :: d :: rest =>
    match hexDigit? a, hexDigit? b, hexDigit? c, hexDigit? d with
    | some a, some b, some c, some d => do
      set rest
      return ((a * 16 + b) * 16 + c) * 16 + d
    | _, _, _, _ => fail .invalidEscape 4
  | rest =>
    if byteCount rest < 4 then fail (.endOfInput .string) (byteCount rest)
    else fail .invalidEscape 4

/-- Reads the escape of the second half of a pair, where the first one has the code `high`. -/
def lowHalf (high : Nat) : Reader Char := do
  if (← peekInString) ≠ '\\' then fail .unfinishedPair 1
  drop
  if (← peekInString) ≠ 'u' then fail .unfinishedPair 1
  drop
  let low ← fourDigits
  if low < 0xdc00 ∨ 0xdfff < low then fail .loneSurrogate
  return charOf ((high - 0xd800) * 0x400 + (low - 0xdc00) + 0x10000)

/-- Reads an escape behind its backslash. -/
def escape : Reader Char := do
  let c ← peekInString
  if c = 'u' then
    drop
    let code ← fourDigits
    if 0xdc00 ≤ code ∧ code ≤ 0xdfff then fail .loneSurrogate
    if 0xd800 ≤ code ∧ code ≤ 0xdbff then lowHalf code
    else return charOf code
  else
    match simpleEscapes.lookup c with
    | some value => do drop; return value
    | none => fail .invalidEscape 1

/-- Reads a string behind its opening quote, the closing one included. -/
def string : Reader String := do
  let chars ← repeatUntil do
    let c ← peekInString
    if c = '"' then do drop; return none
    else if c = '\\' then do drop; return some (← escape)
    else if isControl c then fail .controlCharacter 1
    else do drop; return some c
  return String.ofList chars

/-- Reads over a string behind its opening quote. Escapes are not looked into. -/
def skipString : Reader Unit := do
  discard <| repeatUntil do
    let c ← peekInString
    if c = '"' then do drop; return none
    else if c = '\\' then
      drop
      let e ← peekInString
      if e = 'u' then do drop; discard fourDigits
      else if (simpleEscapes.lookup e).isSome then drop
      else fail .invalidEscape 1
      return some ()
    else if isControl c then fail .controlCharacter
    else do drop; return some ()

end Reader

/-- A hexadecimal digit. -/
def hexDigit (n : Nat) : Char := Nat.digitChar n

/-- What a character of a string is written as. -/
def writtenChar (c : Char) : List Char :=
  if c = '"' then ['\\', '"']
  else if c = '\\' then ['\\', '\\']
  else if c = '\x08' then ['\\', 'b']
  else if c = '\t' then ['\\', 't']
  else if c = '\n' then ['\\', 'n']
  else if c = '\x0c' then ['\\', 'f']
  else if c = '\r' then ['\\', 'r']
  else if isControl c then
    ['\\', 'u', '0', '0', hexDigit (c.toNat / 16), hexDigit (c.toNat % 16)]
  else [c]

/-- What a string is written as, quotes included. -/
def writtenChars (cs : List Char) : List Char := '"' :: cs.flatMap writtenChar ++ ['"']

end ContentModels.Json
