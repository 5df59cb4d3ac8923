/-!
# Rounded binary fractions

A binary fraction has a mantissa of at most 53 bits and an exponent of at least -1074. Quotients are
rounded to the nearest one, halves to the one with an even mantissa.

## Main definitions

* `roundDiv` — a quotient rounded to the nearest number.
* `Binary.ofRatio?` — a quotient rounded to the nearest binary fraction.
* `Binary.ofDecimal?` — a decimal number rounded in two steps: first its digits, then the power of
  ten applied to them.
-/

namespace ContentModels.Decimal

/-- A quotient rounded to the nearest number, halves to the even one. -/
def roundDiv (num den : Nat) : Nat :=
  let twice := 2 * (num % den)
  if twice < den then num / den
  else if den < twice then num / den + 1
  else num / den + num / den % 2

/-- The number `mantissa * 2 ^ exponent`. -/
structure Binary where
  mantissa : Nat
  exponent : Int
  deriving DecidableEq, Repr

namespace Binary

/-- The least exponent. -/
def minExponent : Int := -1074

/-- The greatest exponent of a mantissa of 53 bits. -/
def maxExponent : Int := 971

/-- The quotient divided by a power of two, as a quotient. -/
def shifted (num den : Nat) (exponent : Int) : Nat × Nat :=
  if exponent < 0 then (num * Nat.pow 2 exponent.natAbs, den)
  else (num, den * Nat.pow 2 exponent.natAbs)

/-- The exponent at which the quotient has a mantissa of 53 bits, if that is not too small. -/
def exponentFor (num den : Nat) : Int :=
  let guess : Int := Nat.log2 num - Nat.log2 den - 52
  let (n, d) := shifted num den guess
  max minExponent (if n / d < Nat.pow 2 52 then guess - 1 else guess)

/-- The nearest binary fraction, if there is one that is not too large. -/
def ofRatio? (num den : Nat) : Option Binary :=
  if num = 0 then some ⟨0, minExponent⟩
  else
    let e := exponentFor num den
    let (n, d) := shifted num den e
    let m := roundDiv n d
    let r : Binary := if m = Nat.pow 2 53 then ⟨Nat.pow 2 52, e + 1⟩ else ⟨m, e⟩
    if r.exponent > maxExponent then none else some r

/-- The value as a quotient. -/
def ratio (b : Binary) : Nat × Nat :=
  if b.exponent < 0 then (b.mantissa, Nat.pow 2 b.exponent.natAbs)
  else (b.mantissa * Nat.pow 2 b.exponent.natAbs, 1)

/-- The greatest power of ten that is applied in one step. -/
def greatestPower : Nat := 308

/-- Divides by powers of ten, the greatest one as often as needed. -/
def divideByPower : (exponent : Nat) → (fuel : Nat) → Binary → Option Binary
  | _, 0, b => some b
  | exponent, fuel + 1, b =>
    let step := min exponent greatestPower
    match ofRatio? (Nat.pow 10 step) 1 with
    | none => none
    | some power =>
      let (n, d) := b.ratio
      let (pn, pd) := power.ratio
      match ofRatio? (n * pd) (d * pn) with
      | none => none
      | some r =>
        if exponent ≤ greatestPower || r.mantissa = 0 then some r
        else divideByPower (exponent - greatestPower) fuel r

/-- The number `digits * 10 ^ exponent`; nothing if it is too large. -/
def ofDecimal? (digits : Nat) (exponent : Int) : Option Binary :=
  match ofRatio? digits 1 with
  | none => none
  | some b =>
    if exponent < 0 then divideByPower exponent.natAbs (exponent.natAbs / greatestPower + 1) b
    else if exponent.natAbs ≤ greatestPower then
      match ofRatio? (Nat.pow 10 exponent.natAbs) 1 with
      | none => none
      | some power =>
        let (n, d) := b.ratio
        let (pn, pd) := power.ratio
        ofRatio? (n * pn) (d * pd)
    else if b.mantissa = 0 then some b
    else none

end Binary

end ContentModels.Decimal
