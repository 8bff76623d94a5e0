import SpriteStage.Block.Basic
/-!
Comparing blocks by what they hold. Numbers compare as numbers do: the two zeros are the same, and
what is not a number differs from everything, itself included. So a block that holds one is not the
same as itself.
-/

namespace SpriteStage

def Action.same : Action → Action → Bool
  | .move dx dy, .move dx' dy' => dx == dx' && dy == dy'
  | .turn degrees rotation, .turn degrees' rotation' => degrees == degrees' && rotation = rotation'
  | .goTo x y, .goTo x' y' => x == x' && y == y'
  | .say text seconds, .say text' seconds' => text = text' && seconds == seconds'
  | .think text seconds, .think text' seconds' => text = text' && seconds == seconds'
  | .unknown name, .unknown name' => name = name'
  | _, _ => false

namespace Block

mutual

def same : Block → Block → Bool
  | act id executed action, act id' executed' action' =>
    id = id' && executed == executed' && action.same action'
  | loop id executed count body, loop id' executed' count' body' =>
    id = id' && executed == executed' && count == count' && sameAll body body'
  | _, _ => false

def sameAll : List Block → List Block → Bool
  | [], [] => true
  | b :: bs, c :: cs => b.same c && sameAll bs cs
  | _, _ => false

end

end Block

end SpriteStage
