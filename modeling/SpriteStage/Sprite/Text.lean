import SpriteStage.Block.Text
import SpriteStage.Decimal.Remainder
import SpriteStage.Sprite.Basic
/-!
The one-line text of a sprite: costume, name, place, heading within a full circle, progress, and what
it says and thinks.
-/

namespace SpriteStage

def SpriteState.heading (s : SpriteState) : Float := Decimal.wrap s.direction 360

def bubbleText (verb : String) : Option Bubble → String
  | some b => s!" {verb} {Text.quote b.text}"
  | none => ""

def Sprite.progressText (s : Sprite) : String :=
  let done := if s.complete then ", done" else ""
  s!"[{s.cursor}/{s.program.length}{done}]"

def Sprite.text (s : Sprite) : String :=
  let place := placeText s.state.x s.state.y
  let heading := Decimal.text s.state.heading
  s!"{s.costume} {s.name} at {place} heading {heading} {s.progressText}"
    ++ bubbleText "says" s.state.say ++ bubbleText "thinks" s.state.think

end SpriteStage
