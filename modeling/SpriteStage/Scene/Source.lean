import SpriteStage.Scene.Finding
import SpriteStage.Toml.Decoder
import SpriteStage.Toml.Document
/-!
Loading from a source. The source is read as a document first, as a whole; then one entry at its top
is decoded, and whatever else the document holds is not looked at.
-/

namespace SpriteStage

def Toml.Document.top {α : Type} (d : Toml.Document) (name : String) (absent : α)
    (decoder : Toml.Decoder α) : Except Toml.Fault α :=
  match d.entry? name with
  | some (key, v) => decoder (v.span?.getD key.span) v
  | none => .ok absent

def loadFrom {α : Type} (source : String) (file : Nat)
    (content : Toml.Document → Except Toml.Fault α) : Except Finding α :=
  match Toml.Document.read? source with
  | some d => (content d).mapError (Finding.ofFault file)
  | none => .error (.notADocument file)

end SpriteStage
