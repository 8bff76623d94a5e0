import SpriteStage.Decimal.Reading
import SpriteStage.Toml.Space
/-!
Texts between quotes. Double quotes allow escapes, single quotes do not; three of either kind allow
line breaks. A line break right after the opening quotes is dropped, and every other one becomes a
line feed.
-/

namespace SpriteStage.Toml

def isDigitOf (base : Nat) (c : Char) : Bool :=
  if c.isDigit then c.toNat - '0'.toNat < base
  else base = 16 && (('a' ≤ c && c ≤ 'f') || ('A' ≤ c && c ≤ 'F'))

def scalar? (n : Nat) : Option Char := if n.isValidChar then some (Char.ofNat n) else none

namespace Reading

def codePoint (count : Nat) : Reading (List Char) := do
  let digits ← exactly (isDigitOf 16) count
  match scalar? (Decimal.digitsValue 16 digits) with
  | some c => pure [c]
  | none => failure

def escaped : Reading (List Char) := do
  match ← satisfying fun _ => true with
  | 'b' => pure ['\x08']
  | 't' => pure ['\t']
  | 'n' => pure ['\n']
  | 'f' => pure ['\x0c']
  | 'r' => pure ['\r']
  | '"' => pure ['"']
  | '\\' => pure ['\\']
  | 'u' => codePoint 4
  | 'U' => codePoint 8
  | _ => failure

def escape : Reading (List Char) := char '\\' *> escaped

def foldedBreak : Reading (List Char) := do
  char '\\'
  blanks
  newline
  let _ ← many (newline <|> char ' ' <|> char '\t')
  pure []

def innerBreak : Reading (List Char) := do
  newline
  pure ['\n']

def innerQuotes (quote : Char) : Reading (List Char) := do
  let quotes ← takeSome (· = quote)
  if 2 < quotes.length then failure
  pure quotes

def closingQuotes (quote : Char) : Reading (List Char) := do
  let quotes ← takeWhile (· = quote)
  if quotes.length < 3 || 5 < quotes.length then failure
  pure (quotes.drop 3)

def plainDouble : Reading (List Char) := takeSome fun c => isPlain c && c ≠ '"' && c ≠ '\\'

def plainSingle : Reading (List Char) := takeSome fun c => isPlain c && c ≠ '\''

def onOneLine (quote : Char) (piece : Reading (List Char)) : Reading String := do
  char quote
  let pieces ← many piece
  char quote
  pure (String.ofList pieces.flatten)

def onManyLines (quote : Char) (piece : Reading (List Char)) : Reading String := do
  chars [quote, quote, quote]
  let _ ← optional newline
  let pieces ← many (piece <|> innerBreak <|> innerQuotes quote)
  let ending ← closingQuotes quote
  pure (String.ofList (pieces.flatten ++ ending))

def lineText : Reading String :=
  onOneLine '"' (plainDouble <|> escape) <|> onOneLine '\'' plainSingle

def text : Reading String :=
  onManyLines '"' (plainDouble <|> foldedBreak <|> escape) <|> onManyLines '\'' plainSingle
    <|> lineText

end Reading

end SpriteStage.Toml
