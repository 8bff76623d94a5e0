import SpriteStage.Block.Basic
import SpriteStage.Decimal.Layout
import SpriteStage.Text.Quoted
/-!
The one-line text of a block: its identity, what it does, and whether it has been executed. Bubble
texts are quoted; the name of an unknown block stands as it is.
-/

namespace SpriteStage

def placeText (x y : Float) : String := s!"({Decimal.text x}, {Decimal.text y})"

def Action.text : Action → String
  | .move dx dy => "move " ++ placeText dx dy
  | .turn degrees rotation => s!"turn {Decimal.text degrees} {rotation.name}"
  | .goTo x y => "goto " ++ placeText x y
  | .say text seconds => s!"say {Text.quote text} for {Decimal.text seconds}s"
  | .think text seconds => s!"think {Text.quote text} for {Decimal.text seconds}s"
  | .unknown name => s!"<unknown {name}>"

namespace Block

def kindText : Block → String
  | act _ _ action => action.text
  | loop _ _ (some n) body => s!"repeat {n} [{body.length} blocks]"
  | loop _ _ none body => s!"repeat [{body.length} blocks]"

def text (b : Block) : String :=
  s!"{b.id.text} {b.kindText}" ++ if b.executed then " (executed)" else ""

end Block

end SpriteStage
