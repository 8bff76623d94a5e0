import SpriteStage.Block.Palette
import SpriteStage.Toml.Fault
/-!
Findings: what loading a file has to say about it. An error ends the loading; a warning tells of
something that was loaded in another way than its author may have meant.
-/

namespace SpriteStage

inductive Cause where
  | notADocument
  | mismatch (mismatch : Toml.Mismatch)
  | unknownType (type : String)
  | ignoredChildren (type : String)
  | unknownDirection (word : String)

namespace Cause

def isWarning : Cause → Bool
  | notADocument | mismatch _ => false
  | unknownType _ | ignoredChildren _ | unknownDirection _ => true

def message : Cause → String
  | notADocument => "not a TOML document"
  | mismatch m => m.message
  | unknownType type => s!"unknown block type `{type}`; it will be skipped when run"
  | ignoredChildren type => s!"nested blocks under a `{type}` block are ignored"
  | unknownDirection word => s!"unknown turn direction `{word}`; turning counterclockwise"

def notes : Cause → List String
  | unknownType _ => ["expected one of: " ++ ", ".intercalate (Opcode.all.map Opcode.name)]
  | unknownDirection _ => ["expected `clockwise` or `counterclockwise`"]
  | _ => []

end Cause

structure Finding where
  cause : Cause
  span : Toml.Span
  file : Nat

namespace Finding

def notADocument (file : Nat) : Finding := ⟨.notADocument, ⟨0, 0⟩, file⟩

def ofFault (file : Nat) (f : Toml.Fault) : Finding := ⟨.mismatch f.mismatch, f.span, file⟩

def isWarning (f : Finding) : Bool := f.cause.isWarning

def message (f : Finding) : String := f.cause.message

def text (f : Finding) : String := (if f.isWarning then "warning: " else "") ++ f.message

end Finding

end SpriteStage
