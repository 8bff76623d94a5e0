import SpriteStage.Toml.Cursor
/-!
What stands between the parts of a document: blanks, line breaks and comments.
-/

namespace SpriteStage.Toml

def isBlank (c : Char) : Bool := c = ' ' || c = '\t'

def isPlain (c : Char) : Bool := c = '\t' || (32 ≤ c.toNat && c.toNat ≠ 127)

namespace Reading

def blanks : Reading Unit := do
  let _ ← takeWhile isBlank

def newline : Reading Unit := char '\n' <|> chars ['\r', '\n']

def comment : Reading Unit := do
  char '#'
  let _ ← takeWhile isPlain

def lineEnd : Reading Unit := newline <|> atEnd

def trailing : Reading Unit := do
  blanks
  let _ ← optional comment
  lineEnd

def layout : Reading Unit := do
  blanks
  let _ ← many (optional comment *> newline *> blanks)

end Reading

end SpriteStage.Toml
