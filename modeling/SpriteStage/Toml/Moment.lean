import SpriteStage.Toml.Number
/-!
Dates and times. Only their form is checked; no reader wants their value.
-/

namespace SpriteStage.Toml

def daysIn (year month : Nat) : Nat :=
  if month = 2 then
    if year % 4 = 0 && (year % 100 ≠ 0 || year % 400 = 0) then 29 else 28
  else if month = 4 || month = 6 || month = 9 || month = 11 then 30
  else 31

namespace Reading

def field (count least greatest : Nat) : Reading Nat := do
  let n := Decimal.digitsValue 10 (← exactly Char.isDigit count)
  if n < least || greatest < n then failure
  pure n

def date : Reading Unit := do
  let year ← field 4 0 9999
  char '-'
  let month ← field 2 1 12
  char '-'
  let _ ← field 2 1 (daysIn year month)

def hourAndMinute : Reading Unit := do
  let _ ← field 2 0 23
  char ':'
  let _ ← field 2 0 59

def time : Reading Unit := do
  hourAndMinute
  char ':'
  let _ ← field 2 0 60
  let _ ← optional (char '.' *> takeSome Char.isDigit)

def offset : Reading Unit := do
  match ← satisfying fun c => c = 'Z' || c = 'z' || c = '+' || c = '-' with
  | 'Z' | 'z' => pure ()
  | _ => hourAndMinute

def timeOfDate : Reading Unit := do
  let _ ← satisfying fun c => c = 'T' || c = 't' || c = ' '
  time
  let _ ← optional offset

def moment : Reading Unit :=
  (do
    date
    let _ ← optional timeOfDate) <|> time

end Reading

end SpriteStage.Toml
