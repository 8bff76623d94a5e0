import SpriteStage.Scene.Load
import SpriteStage.Scene.Settings
import SpriteStage.Stage.Headless
import SpriteStage.Trial.Failure
import SpriteStage.Trial.Header
/-!
Judging a trial: the scene is loaded, its warnings are compared, it is run in simulated time, and the
sprites are compared with what they should have come to.
-/

namespace SpriteStage

def tolerance : Float := 1e-6

/-- Whether a number is too far off. A distance that is no number is not. -/
def farOff (wanted got : Float) : Bool := tolerance < (wanted - got).abs

def shownText (b : Option Bubble) : String := (b.map Bubble.text).getD ""

namespace ExpectedState

def numberDifference (what : String) (wanted : Option Float) (got : Float) : Option Difference :=
  wanted.bind fun w => if farOff w got then some (.number what w got) else none

def bubbleDifference (what : String) (wanted : Option String) (got : Option Bubble) :
    Option Difference :=
  wanted.bind fun w => if w ≠ shownText got then some (.bubble what w (shownText got)) else none

def difference? (e : ExpectedState) (s : Sprite) : Option Difference :=
  (numberDifference "x" e.x s.state.x)
    <|> numberDifference "y" e.y s.state.y
    <|> numberDifference "direction" e.direction s.state.direction
    <|> (e.cursor.bind fun w => if w ≠ s.cursor then some (.cursor w s.cursor) else none)
    <|> (e.complete.bind fun w => if w ≠ s.complete then some (.complete w s.complete) else none)
    <|> bubbleDifference "say" e.say s.state.say
    <|> bubbleDifference "think" e.think s.state.think

end ExpectedState

def ExpectedSprite.failure? (s : Stage) (e : ExpectedSprite) : Option Failure :=
  match s.spriteNamed? e.name with
  | some p => (e.state.difference? p).map (.differs e.name)
  | none => some (.noSprite e.name)

def Finding.line (source : String) (f : Finding) : Nat :=
  (Text.Position.ofOffset source f.span.start).line + 1

def ExpectedWarning.failure? (source : String) (index : Nat) (e : ExpectedWarning) (f : Finding) :
    Option Failure :=
  if !Text.occursIn e.contains.toList f.text.toList then some (.warningText index e.contains f)
  else e.line.bind fun w =>
    if w ≠ f.line source then some (.warningLine index w (f.line source)) else none

def warningFailure? (source : String) (wanted : List ExpectedWarning) (got : List Finding) :
    Option Failure :=
  if wanted.length ≠ got.length then some (.warningCount wanted.length got)
  else ((wanted.zip got).zipIdx).findSome? fun ((e, f), index) => e.failure? source index f

namespace Trial

def sceneFailure? (t : Trial) (source : String) (scene : Scene) : Option Failure :=
  (t.warnings.bind fun wanted => warningFailure? source wanted scene.warnings) <|>
    match Config.load source 0 with
    | .error f => some (.badConfig f)
    | .ok config =>
      let (final, summary) := (Stage.populated 0 config scene.sprites scene.ids).runUntilIdle t.limit
      if summary.completed then t.sprites.findSome? (ExpectedSprite.failure? final)
      else some (.unfinished t.limit summary.ticks)

def failure? (t : Trial) (source : String) : Option Failure :=
  match t.fails, Scene.load source 0 with
  | true, .ok _ => some .loaded
  | true, .error _ => none
  | false, .ok scene => t.sceneFailure? source scene
  | false, .error f => some (.notLoaded f)

end Trial

end SpriteStage
