import SpriteStage.Text.HiddenRanges
/-!
Quoted text: double quotes around, and every character that would not show, or would break the line
or the quotes, written by an escape. A quoted text is always one line.
-/

namespace SpriteStage.Text

/-- Whether a character has no form of its own in quoted text. The plain characters of ASCII are
settled without the table. -/
def isHidden (c : Char) : Bool :=
  let n := c.toNat
  if 32 ≤ n && n < 127 then false
  else hiddenRanges.any fun ranges => ranges.any fun (first, last) => first ≤ n && n ≤ last

def hexadecimal (n : Nat) : List Char := Nat.toDigits 16 n

def quoteChar (c : Char) : List Char :=
  if c = '"' then ['\\', '"']
  else if c = '\\' then ['\\', '\\']
  else if c = '\x00' then ['\\', '0']
  else if c = '\t' then ['\\', 't']
  else if c = '\n' then ['\\', 'n']
  else if c = '\r' then ['\\', 'r']
  else if isHidden c then ['\\', 'u', '{'] ++ hexadecimal c.toNat ++ ['}']
  else [c]

def quote (text : String) : String :=
  String.ofList ('"' :: (text.toList.flatMap quoteChar ++ ['"']))

end SpriteStage.Text
