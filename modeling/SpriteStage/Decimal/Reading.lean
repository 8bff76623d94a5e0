/-!
Reading decimals: the double nearest to a decimal fraction. Exponents far beyond the range of
doubles are settled before any power of ten is formed.
-/

namespace SpriteStage.Decimal

/-- The double nearest to `mantissa * 10 ^ exponent`. The least positive double is above
`10 ^ (-324)` and the greatest below `10 ^ 309`. -/
def nearest (mantissa : Nat) (exponent : Int) : Float :=
  if mantissa = 0 then 0
  else
    let point := ((Nat.toDigits 10 mantissa).length : Int) + exponent
    if 400 < point then 1 / 0
    else if point < -400 then 0
    else if 0 ≤ exponent then Float.ofScientific mantissa false exponent.toNat
    else Float.ofScientific mantissa true (-exponent).toNat

def digitsValue (base : Nat) (digits : List Char) : Nat :=
  digits.foldl (fun n c => n * base + digitValue c) 0
where
  digitValue (c : Char) : Nat :=
    if c.isDigit then c.toNat - '0'.toNat
    else if 'a' ≤ c && c ≤ 'f' then c.toNat - 'a'.toNat + 10
    else if 'A' ≤ c && c ≤ 'F' then c.toNat - 'A'.toNat + 10
    else 0

end SpriteStage.Decimal
