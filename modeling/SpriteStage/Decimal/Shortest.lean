import SpriteStage.Decimal.Binary
/-!
The shortest decimal that reads back as a given double. Among the decimals with the fewest digits
the one nearest to the exact value is taken, the larger one on a tie.
-/

namespace SpriteStage.Decimal

/-- Decimal digits, first one most significant, and the place of the point: the value is
`0.d₁d₂… * 10 ^ point`. -/
structure Digits where
  digits : List Nat
  point : Int
deriving DecidableEq

def digitCount (n : Nat) : Nat := if n = 0 then 0 else (Nat.toDigits 10 n).length

def digitsOf (n : Nat) : List Nat := (Nat.toDigits 10 n).map fun c => c.toNat - '0'.toNat

def pointOf (num den : Nat) : Int :=
  if den ≤ num then digitCount (num / den) else 1 - (digitCount ((den - 1) / num) : Int)

/-- The reals that round to a double, all over one denominator: `low` and `high` are the ends of the
interval around `value`, and `closed` says whether the ends belong to it. -/
structure Interval where
  low : Nat
  value : Nat
  high : Nat
  den : Nat
  closed : Bool

/-- Half the distance to the next double on each side; below a power of two the doubles lie twice as
dense. An end belongs to the interval when the mantissa is even, since ties go to even. -/
def interval (mantissa : Nat) (exponent : Int) : Interval :=
  let below := if mantissa = Nat.pow 2 52 ∧ -1074 < exponent then 1 else 2
  let scale := if 2 ≤ exponent then Nat.pow 2 (exponent - 2).toNat else 1
  { low := (4 * mantissa - below) * scale
    value := 4 * mantissa * scale
    high := (4 * mantissa + 2) * scale
    den := if 2 ≤ exponent then 1 else Nat.pow 2 (2 - exponent).toNat
    closed := mantissa % 2 = 0 }

def Interval.holds (i : Interval) (point : Nat) : Bool :=
  if i.closed then i.low ≤ point && point ≤ i.high else i.low < point && point < i.high

def Interval.inUnits (i : Interval) (exponent : Int) : Interval :=
  let up := Nat.pow 10 (-exponent).toNat
  { i with low := i.low * up, value := i.value * up, high := i.high * up
           den := i.den * Nat.pow 10 exponent.toNat }

/-- The multiple of `10 ^ exponent` that lies in the interval, if any: only the two neighbours of the
value can be nearest. -/
def Interval.nearest? (i : Interval) (exponent : Int) : Option Nat :=
  let u := i.inUnits exponent
  let lower := u.value / u.den
  let upper := lower + 1
  let lowerFits := u.holds (lower * u.den)
  let upperFits := u.holds (upper * u.den)
  if lowerFits && upperFits then
    if u.value - lower * u.den < upper * u.den - u.value then some lower else some upper
  else if lowerFits then some lower
  else if upperFits then some upper
  else none

def Interval.search (i : Interval) (point : Int) (count : Nat) : Nat → Nat × Int
  | 0 => (i.value / i.den, 0)
  | fuel + 1 =>
    let exponent := point - count
    match i.nearest? exponent with
    | some digits => (digits, exponent)
    | none => i.search point (count + 1) fuel

/-- The shortest digits of `mantissa * 2 ^ exponent`, for a positive mantissa. Seventeen digits tell
any two doubles apart. -/
def shortest (mantissa : Nat) (exponent : Int) : Digits :=
  let i := interval mantissa exponent
  let (whole, unit) := i.search (pointOf i.value i.den) 1 17
  let digits := digitsOf whole
  { digits := (digits.reverse.dropWhile (· = 0)).reverse
    point := unit + digits.length }

end SpriteStage.Decimal
