import SpriteStage.Decimal.Layout
import SpriteStage.Text.Quoted
import SpriteStage.Toml.Value
/-!
Faults: a value that is not what its reader expects. A fault says what was found and what was
expected, and where.
-/

namespace SpriteStage.Toml

inductive Expected where
  | text
  | float
  | integer
  | natural
  | size
  | boolean
  | sequence
  | record (name : String)
deriving DecidableEq

def Expected.words : Expected → String
  | text => "a string"
  | float => "f64"
  | integer => "i64"
  | natural => "u64"
  | size => "usize"
  | boolean => "a boolean"
  | sequence => "a sequence"
  | record name => "struct " ++ name

def pointed : Decimal.Layout := ⟨true, none⟩

def Value.found : Value → String
  | string _ content => "string " ++ Text.quote content
  | integer _ number => s!"integer `{number}`"
  | float _ number => s!"floating point `{pointed.write number}`"
  | boolean _ flag => s!"boolean `{flag}`"
  | array .. | tables _ => "sequence"
  | moment _ | table .. => "map"

inductive Mismatch where
  | wrongType (found : Value) (expected : Expected)
  | negative (number : Int) (expected : Expected)
  | tooShort (length : Nat) (record : String) (fields : Nat)
  | missingField (name : String)
  | unknownField (name : String) (known : List String)
  | placeless (key : String)

namespace Mismatch

def ticked (name : String) : String := s!"`{name}`"

def message : Mismatch → String
  | wrongType found expected => s!"invalid type: {found.found}, expected {expected.words}"
  | negative number expected =>
    s!"invalid value: integer `{number}`, expected {expected.words}"
  | tooShort length record fields =>
    s!"invalid length {length}, expected struct {record} with {fields} elements"
  | missingField name => s!"missing field {ticked name}"
  | unknownField name known =>
    s!"unknown field {ticked name}, expected one of " ++ ", ".intercalate (known.map ticked)
  | placeless key => s!"invalid type: string {Text.quote key}, expected a borrowed string"

end Mismatch

structure Fault where
  mismatch : Mismatch
  span : Span

end SpriteStage.Toml
