/-!
The exact value of a double: a sign, a whole mantissa and a power of two. Everything that prints,
rounds or reduces a double starts from this value and then works in whole numbers only.
-/

namespace SpriteStage.Decimal

inductive Parts where
  | notANumber
  | infinite (negative : Bool)
  | finite (negative : Bool) (mantissa : Nat) (exponent : Int)
deriving DecidableEq

/-- Reads the sign bit, the eleven exponent bits and the fraction. An exponent field of 0 marks the
subnormal numbers, which lack the leading mantissa bit; 2047 marks what is not a number. -/
def parts (x : Float) : Parts :=
  let bits : Nat := x.toBits.toNat
  let negative : Bool := Nat.pow 2 63 ≤ bits
  let field : Nat := bits / Nat.pow 2 52 % Nat.pow 2 11
  let fraction : Nat := bits % Nat.pow 2 52
  if field = 2047 then
    if fraction = 0 then .infinite negative else .notANumber
  else if field = 0 then .finite negative fraction (-1074)
  else .finite negative (Nat.pow 2 52 + fraction) ((field : Int) - 1075)

def roundHalfUp (mantissa : Nat) (exponent : Int) : Nat :=
  if 0 ≤ exponent then mantissa * Nat.pow 2 exponent.toNat
  else
    let scale := Nat.pow 2 (-exponent).toNat
    (2 * mantissa + scale) / (2 * scale)

/-- The double of exact value `mantissa * 2 ^ exponent`, nearest if there is none. A negative power
of two is a decimal fraction: `2⁻ᵏ = 5ᵏ · 10⁻ᵏ`. -/
def ofScaled (mantissa : Nat) (exponent : Int) : Float :=
  if 0 ≤ exponent then Float.ofScientific (mantissa * Nat.pow 2 exponent.toNat) false 0
  else
    let places := (-exponent).toNat
    Float.ofScientific (mantissa * Nat.pow 5 places) true places

end SpriteStage.Decimal
