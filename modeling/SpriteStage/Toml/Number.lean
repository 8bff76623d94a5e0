import SpriteStage.Decimal.Reading
import SpriteStage.Toml.Text
/-!
Numbers. A single underscore may stand between two digits. Whole numbers fit into 64 bits with a
sign; a floating number is the double nearest to its digits, and must not round up to infinity.
-/

namespace SpriteStage.Toml

def integerRange : Int × Int := (Int64.minValue.toInt, Int64.maxValue.toInt)

namespace Reading

def sign : Reading Bool := do
  match ← optional (satisfying fun c => c = '+' || c = '-') with
  | some c => pure (c = '-')
  | none => pure false

def laterDigits (base : Nat) : Reading (List Char) :=
  let digit := satisfying (isDigitOf base)
  many (digit <|> (char '_' *> digit))

def digits (base : Nat) : Reading (List Char) := do
  let first ← satisfying (isDigitOf base)
  let others ← laterDigits base
  pure (first :: others)

def wholeDigits : Reading (List Char) := do
  match ← satisfying Char.isDigit with
  | '0' => pure ['0']
  | first =>
    let others ← laterDigits 10
    pure (first :: others)

def inRange (n : Int) : Reading Int :=
  if integerRange.1 ≤ n && n ≤ integerRange.2 then pure n else failure

def basedInteger (mark : Char) (base : Nat) : Reading Int := do
  chars ['0', mark]
  let written ← digits base
  inRange (Decimal.digitsValue base written)

def decimalInteger : Reading Int := do
  let negative ← sign
  let written ← wholeDigits
  let magnitude : Int := Decimal.digitsValue 10 written
  inRange (if negative then -magnitude else magnitude)

def integer : Reading Int :=
  basedInteger 'x' 16 <|> basedInteger 'o' 8 <|> basedInteger 'b' 2 <|> decimalInteger

def fraction : Reading (List Char) := char '.' *> digits 10

def exponent : Reading Int := do
  let _ ← satisfying fun c => c = 'e' || c = 'E'
  let negative ← sign
  let written ← digits 10
  let magnitude : Int := Decimal.digitsValue 10 written
  pure (if negative then -magnitude else magnitude)

def floatingPart : Reading (List Char × Int) :=
  (do
    let places ← fraction
    let power ← optional exponent
    pure (places, power.getD 0)) <|>
  (do
    let power ← exponent
    pure ([], power))

def decimalFloat : Reading Float := do
  let negative ← sign
  let whole ← wholeDigits
  let (places, power) ← floatingPart
  let magnitude := Decimal.nearest (Decimal.digitsValue 10 (whole ++ places)) (power - places.length)
  if negative then pure (-magnitude)
  else if magnitude = 1 / 0 then failure
  else pure magnitude

def specialFloat : Reading Float := do
  let negative ← sign
  let magnitude : Float ← (chars ['i', 'n', 'f'] *> pure (1 / 0)) <|>
    (chars ['n', 'a', 'n'] *> pure (0 / 0))
  pure (if negative then -magnitude else magnitude)

def float : Reading Float := decimalFloat <|> specialFloat

end Reading

end SpriteStage.Toml
