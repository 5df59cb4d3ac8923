import ContentModels.Decimal.Binary

/-!
# The shortest decimal text of a binary fraction

A decimal number names a binary fraction if it is nearer to it than to any other one. Of the decimal
numbers that name a binary fraction, those with the fewest digits are looked for, and of these the
nearest is taken.

## Main definitions

* `Binary.shortest` — the digits and the power of ten.
* `Binary.text` — the digits as a text: positional for moderate sizes, with an exponent otherwise.
* `Binary.plainText` — the digits as a text that is always positional.
-/

namespace ContentModels.Decimal.Binary

/-- Compares `c * 10 ^ s` with `x * 2 ^ t`. -/
def compareAt (c : Nat) (s : Int) (x : Nat) (t : Int) : Ordering :=
  let left := c * Nat.pow 10 s.toNat * Nat.pow 2 (-t).toNat
  let right := x * Nat.pow 2 t.toNat * Nat.pow 10 (-s).toNat
  compare left right

/-- Whether `c * 10 ^ s` is read as `b`. The ends of the interval of such numbers belong to it when
the mantissa is even; below a power of two the interval is half as wide. -/
def names (b : Binary) (c : Nat) (s : Int) : Bool :=
  let narrow := b.mantissa = Nat.pow 2 52 ∧ minExponent < b.exponent
  let low := 4 * b.mantissa - (if narrow then 1 else 2)
  let high := 4 * b.mantissa + 2
  let closed := b.mantissa % 2 = 0
  let t := b.exponent - 2
  (compareAt c s low t == .gt || (closed && compareAt c s low t == .eq)) &&
    (compareAt c s high t == .lt || (closed && compareAt c s high t == .eq))

/-- The greatest power of ten that is not above a positive value. -/
def magnitude (b : Binary) : Int :=
  let (n, d) := b.ratio
  if d ≤ n then (Nat.toDigits 10 (n / d)).length - 1
  else
    let rec below : Nat → Nat → Int
      | 0, j => -j
      | fuel + 1, j => if d ≤ n * Nat.pow 10 j then -j else below fuel (j + 1)
    below 330 1

/-- The neighbour of the value on the grid of `10 ^ s` that names it, the nearer one if both do. -/
def onGrid (b : Binary) (s : Int) : Option Nat :=
  let (n, d) := b.ratio
  let (n, d) := if s < 0 then (n * Nat.pow 10 s.natAbs, d) else (n, d * Nat.pow 10 s.natAbs)
  let low := n / d
  match b.names low s, b.names (low + 1) s with
  | true, true => some (roundDiv n d)
  | true, false => some low
  | false, true => some (low + 1)
  | false, false => none

/-- The digits of the shortest decimal number that names a positive value, with the power of ten
that they count. -/
def shortest (b : Binary) : Nat × Int :=
  let top := b.magnitude
  let rec search : Nat → Nat → Nat × Int
    | 0, _ => (0, 0)
    | fuel + 1, count =>
      let s := top - count + 1
      match b.onGrid s with
      | some c => (c, s)
      | none => search fuel (count + 1)
  search 17 1

/-- The least and the greatest power of ten of numbers that are written without an exponent. -/
def positionalRange : Int × Int := (-5, 15)

/-- The digits without zeros at their end. -/
def significant (digits : List Char) : List Char :=
  (digits.reverse.dropWhile (· == '0')).reverse

/-- The digits with a point among them, where the first digit counts `10 ^ top`. -/
def positional (digits : List Char) (top : Int) : List Char :=
  if top < 0 then '0' :: '.' :: List.replicate (top.natAbs - 1) '0' ++ digits
  else
    let whole := digits.take (top.toNat + 1)
    let fraction := digits.drop (top.toNat + 1)
    whole ++ List.replicate (top.toNat + 1 - whole.length) '0' ++ '.' ::
      (if fraction.isEmpty then ['0'] else fraction)

/-- The digits with an exponent behind them. -/
def scientific (digits : List Char) (top : Int) : List Char :=
  digits.take 1 ++ (if digits.length ≤ 1 then [] else '.' :: digits.drop 1) ++
    ['e', if top < 0 then '-' else '+'] ++ Nat.toDigits 10 top.natAbs

/-- The text of a binary fraction. -/
def text (b : Binary) : String :=
  if b.mantissa = 0 then "0.0"
  else
    let (c, s) := b.shortest
    let digits := Nat.toDigits 10 c
    let top := s + digits.length - 1
    let digits := significant digits
    String.ofList <|
      if positionalRange.1 ≤ top ∧ top ≤ positionalRange.2 then positional digits top
      else scientific digits top

/-- The text of a binary fraction without an exponent. -/
def plainText (b : Binary) : String :=
  if b.mantissa = 0 then "0.0"
  else
    let (c, s) := b.shortest
    let digits := Nat.toDigits 10 c
    String.ofList (positional (significant digits) (s + digits.length - 1))

end ContentModels.Decimal.Binary
