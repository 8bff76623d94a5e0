import SpriteStage.Decimal.Shortest
/-!
The two written forms of a double. The plain form is always positional and writes whole numbers
without a point; the marked form always shows that the number is a floating one, by a point or by an
exponent.
-/

namespace SpriteStage.Decimal

/-- When a written form shows a whole number's `.0`, and which magnitudes it writes with an
exponent: those from `10 ^ large` and those below `10 ^ small`. -/
structure Layout where
  pointZero : Bool
  exponentRange : Option (Int × Int)

def plain : Layout := ⟨false, none⟩

def marked : Layout := ⟨true, some (-4, 16)⟩

private def digitText (digits : List Nat) : String :=
  String.ofList (digits.map Nat.digitChar)

private def zeros (n : Nat) : String := String.ofList (List.replicate n '0')

def Digits.scientific (d : Digits) : String :=
  let fraction := d.digits.drop 1
  let point := if fraction.isEmpty then "" else "."
  digitText (d.digits.take 1) ++ point ++ digitText fraction ++ "e" ++ toString (d.point - 1)

def Digits.positional (d : Digits) (pointZero : Bool) : String :=
  if d.point ≤ 0 then "0." ++ zeros (-d.point).toNat ++ digitText d.digits
  else
    let places := d.point.toNat
    let fraction := d.digits.drop places
    let whole := digitText (d.digits.take places) ++ zeros (places - d.digits.length)
    if fraction.isEmpty then (if pointZero then whole ++ ".0" else whole)
    else whole ++ "." ++ digitText fraction

def Layout.magnitude (layout : Layout) (d : Digits) : String :=
  match layout.exponentRange with
  | some (small, large) =>
    if large < d.point || d.point ≤ small then d.scientific else d.positional layout.pointZero
  | none => d.positional layout.pointZero

def Layout.write (layout : Layout) (x : Float) : String :=
  let sign (negative : Bool) : String := if negative then "-" else ""
  match parts x with
  | .notANumber => "NaN"
  | .infinite negative => sign negative ++ "inf"
  | .finite negative 0 _ => sign negative ++ (if layout.pointZero then "0.0" else "0")
  | .finite negative mantissa exponent =>
    sign negative ++ layout.magnitude (shortest mantissa exponent)

def text (x : Float) : String := plain.write x

theorem digitChar_ne_newline (n : Nat) : Nat.digitChar n ≠ '\n' := by
  grind [Nat.digitChar]

private theorem newline_not_mem_digitText (digits : List Nat) : '\n' ∉ (digitText digits).toList := by
  simp [digitText, digitChar_ne_newline]

private theorem newline_not_mem_zeros (n : Nat) : '\n' ∉ (zeros n).toList := by
  simp [zeros]

theorem newline_not_mem_positional (d : Digits) (pointZero : Bool) :
    '\n' ∉ (d.positional pointZero).toList := by
  simp only [Digits.positional]
  repeat' split
  all_goals simp [newline_not_mem_digitText, newline_not_mem_zeros]

end SpriteStage.Decimal
