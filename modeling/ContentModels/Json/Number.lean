import ContentModels.Decimal.Shortest
import ContentModels.Json.Reader

/-!
# JSON numbers

Numbers that documents hold are natural ones. Any other number is read only to be reported or to be
skipped. A number that is reported tells its value; an integer beyond 64 bits is reported as a
float.

## Main definitions

* `Json.Reader.number` — reads a number, with its value if it is an integer.
* `Json.Reader.skipNumber` — reads over a number.
-/

namespace ContentModels.Json.Reader

open Decimal

/-- The greatest number that is kept digit by digit. -/
def greatest : Nat := Nat.pow 2 64 - 1

/-- The greatest exponent that is told apart from larger ones. -/
def greatestExponent : Nat := Nat.pow 2 31 - 1

/-- Reads digits. -/
def digits : Reader (List Char) := do
  let cs ← get
  set (cs.dropWhile Char.isDigit)
  return cs.takeWhile Char.isDigit

/-- The digits that fit into 64 bits, as a number, with the ones that are left over. -/
def leading (start : Nat) : List Char → Nat × List Char
  | [] => (start, [])
  | c :: rest =>
    let n := start * 10 + (c.toNat - '0'.toNat)
    if greatest < n then (start, c :: rest) else leading n rest

/-- A float, as a message shows it. -/
def float (negative : Bool) (significand : Nat) (exponent : Int) : Reader Found := do
  match Binary.ofDecimal? significand exponent with
  | some b => return .float ((if negative then "-" else "") ++ b.text)
  | none => fail .numberTooLarge

/-- Reads the digits of an exponent. One that is too large to be kept ends the reading, unless it
makes the number zero. -/
def exponentDigits (negative smaller : Bool) (significand : Nat) (start : Int) :
    Nat → List Char → Reader Found
  | e, [] =>
    float negative significand (if smaller then start - e else start + e)
  | e, c :: more => do
    drop
    let e' := e * 10 + (c.toNat - '0'.toNat)
    if greatestExponent < e' then
      if significand ≠ 0 ∧ !smaller then fail .numberTooLarge
      discard digits
      return .float (if negative then "-0.0" else "0.0")
    exponentDigits negative smaller significand start e' more

/-- Reads an exponent from its letter on. -/
def exponent (negative : Bool) (significand : Nat) (start : Int) : Reader Found := do
  drop
  let sign ← next?
  if sign = some '+' ∨ sign = some '-' then drop
  match ← next? with
  | none => fail (.endOfInput .value)
  | some c =>
    if c.isDigit then
      exponentDigits negative (sign = some '-') significand start 0 ((← get).takeWhile Char.isDigit)
    else fail .invalidNumber 1

/-- Reads an exponent if there is one. -/
def exponent? (negative : Bool) (significand : Nat) (start : Int) : Reader Found := do
  match ← next? with
  | some 'e' => exponent negative significand start
  | some 'E' => exponent negative significand start
  | _ => float negative significand start

/-- Reads a fraction from its point on. -/
def fraction (negative : Bool) (significand : Nat) (start : Int) : Reader Found := do
  drop
  let ds ← digits
  let (value, ignored) := leading significand ds
  if ds.isEmpty then
    match ← next? with
    | some _ => failHere .invalidNumber
    | none => failHere (.endOfInput .value)
  exponent? negative value (start - (ds.length - ignored.length : Nat))

/-- Reads what follows the integer part of a number. -/
def afterInteger (negative : Bool) (significand : Nat) : Reader Found := do
  match ← next? with
  | some '.' => fraction negative significand 0
  | some 'e' => exponent negative significand 0
  | some 'E' => exponent negative significand 0
  | _ =>
    if !negative then return .integer significand
    else if significand = 0 ∨ Nat.pow 2 63 < significand then float true significand 0
    else return .integer (-significand)

/-- Reads a number behind its sign. -/
def number (negative : Bool) : Reader Found := do
  match ← next? with
  | none => fail (.endOfInput .value)
  | some '0' =>
    drop
    if (← next?).any Char.isDigit then failHere .invalidNumber
    afterInteger negative 0
  | some c =>
    if !c.isDigit then fail .invalidNumber 1
    let ds ← digits
    let (value, ignored) := leading 0 ds
    if ignored.isEmpty then afterInteger negative value
    else
      match ← next? with
      | some '.' => fraction negative value ignored.length
      | _ => exponent? negative value ignored.length

/-- Reads over an exponent from its letter on. -/
def skipExponent : Reader Unit := do
  drop
  let sign ← next?
  if sign = some '+' ∨ sign = some '-' then drop
  match ← next? with
  | none => fail .invalidNumber
  | some c => if c.isDigit then discard digits else fail .invalidNumber 1

/-- Reads over an exponent if there is one. -/
def skipExponent? : Reader Unit := do
  match ← next? with
  | some 'e' => skipExponent
  | some 'E' => skipExponent
  | _ => return

/-- Reads over a number behind its sign. -/
def skipNumber : Reader Unit := do
  match ← next? with
  | none => fail .invalidNumber
  | some '0' =>
    drop
    if (← next?).any Char.isDigit then failHere .invalidNumber
  | some c => if c.isDigit then discard digits else fail .invalidNumber 1
  match ← next? with
  | some '.' =>
    drop
    if (← digits).isEmpty then failHere .invalidNumber
    skipExponent?
  | _ => skipExponent?

end ContentModels.Json.Reader
