import SpriteStage.Toml.Moment
import SpriteStage.Toml.Table
/-!
Keys and values as they are written. Arrays and tables between braces hold further values; the depth
to which they may be nested is bounded.
-/

namespace SpriteStage.Toml

def isBare (c : Char) : Bool := c.isAlphanum || c = '-' || c = '_'

/-- Keys have fewer parts than this, and values are nested less deeply. -/
def nestingLimit : Nat := 80

namespace Reading

def simpleKey : Reading Key := do
  let (name, span) ← located (lineText <|> String.ofList <$> takeSome isBare)
  pure ⟨name, span⟩

def dottedKey : Reading (List Key) := do
  let keys ← separated (char '.') (blanks *> simpleKey <* blanks)
  if nestingLimit ≤ keys.length then failure
  pure keys

def pair (value : Reading Value) : Reading Pair := do
  let keys ← dottedKey
  char '='
  blanks
  match Pair.ofKeys? keys (← value) with
  | some p => pure p
  | none => failure

def items (value : Reading Value) : Reading (List Value) := do
  let found ← optional (separated (char ',') (layout *> value <* layout))
  if found.isSome then
    let _ ← optional (char ',')
  layout
  char ']'
  pure (found.getD [])

def pairs (value : Reading Value) : Reading (List Pair) := do
  let found ← optional (separated (char ',') (pair value <* blanks))
  blanks
  char '}'
  pure (found.getD [])

def boolean : Reading Bool :=
  (chars ['t', 'r', 'u', 'e'] *> pure true) <|> (chars ['f', 'a', 'l', 's', 'e'] *> pure false)

def scalar : Reading (Span → Value) :=
  (do
    let content ← text
    pure fun span => .string span content) <|>
  (do
    let flag ← boolean
    pure fun span => .boolean span flag) <|>
  (do
    moment
    pure fun span => .moment span) <|>
  (do
    let number ← float
    pure fun span => .float span number) <|>
  (do
    let number ← integer
    pure fun span => .integer span number)

def value : Nat → Reading Value
  | 0 => do
    let (make, span) ← located scalar
    pure (make span)
  | depth + 1 => do
    match ← peek with
    | some '[' =>
      let (content, span) ← located (char '[' *> items (value depth))
      pure (.array span content)
    | some '{' =>
      let (content, span) ← located (char '{' *> pairs (value depth))
      match (⟨.inline, some span, []⟩ : Table).addAll content with
      | some t => pure t.toValue
      | none => failure
    | _ =>
      let (make, span) ← located scalar
      pure (make span)

def anyValue : Reading Value := value (nestingLimit - 1)

end Reading

end SpriteStage.Toml
