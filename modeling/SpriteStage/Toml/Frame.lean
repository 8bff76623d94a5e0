import SpriteStage.Text.Lines
import SpriteStage.Toml.Fault
/-!
The picture of a fault: its line and column, the line itself, marks below what is wrong, and the
message.
-/

namespace SpriteStage.Toml

def rawLine (source : String) (line : Nat) : List Char :=
  go line source.toList
where
  go : Nat → List Char → List Char
    | 0, cs => cs.takeWhile (· ≠ '\n')
    | _ + 1, [] => []
    | line + 1, c :: cs => if c = '\n' then go line cs else go (line + 1) cs

def spaces (n : Nat) : String := String.ofList (List.replicate n ' ')

/-- How many marks there are: one for each byte, but none past the line, and at least one. -/
def markCount (s : Span) (content : List Char) (column : Nat) : Nat :=
  max 1 (min (s.stop - s.start) ((String.ofList content).utf8ByteSize - column))

def Fault.frame (source : String) (f : Fault) : List String :=
  let place := Text.Position.ofOffset source f.span.start
  let content := rawLine source place.line
  let number := toString (place.line + 1)
  let margin := spaces (number.length + 1) ++ "|"
  let marks := String.ofList (List.replicate (markCount f.span content place.column) '^')
  [s!"TOML parse error at line {number}, column {place.column + 1}",
   margin,
   number ++ " | " ++ String.ofList content,
   margin ++ spaces (place.column + 1) ++ marks,
   f.mismatch.message]

end SpriteStage.Toml
