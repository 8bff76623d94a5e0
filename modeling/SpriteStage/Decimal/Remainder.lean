import SpriteStage.Decimal.Binary
/-!
The remainder of a double by a whole number, brought into the range from 0 on. The truncated
remainder of two doubles is itself a double, so it is computed exactly and never rounded.
-/

namespace SpriteStage.Decimal

def remainderMagnitude (mantissa : Nat) (exponent : Int) (modulus : Nat) : Float :=
  if 0 ≤ exponent then ofScaled (mantissa * Nat.pow 2 exponent.toNat % modulus) 0
  else ofScaled (mantissa % (modulus * Nat.pow 2 (-exponent).toNat)) exponent

/-- The remainder in `[0, modulus)`. A negative multiple of the modulus leaves negative zero, and a
tiny negative number rounds up to the modulus itself. -/
def wrap (x : Float) (modulus : Nat) : Float :=
  match parts x with
  | .finite negative mantissa exponent =>
    let magnitude := remainderMagnitude mantissa exponent modulus
    let r := if negative then -magnitude else magnitude
    if r < 0 then r + Float.ofNat modulus else r
  | _ => 0 / 0

end SpriteStage.Decimal
