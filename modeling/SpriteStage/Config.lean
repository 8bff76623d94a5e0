/-!
The knobs of a stage: how often it ticks and redraws, how often it looks for collisions, how long the
announcement of a swap is shown, and the size of the box around a sprite.
-/

namespace SpriteStage

structure Config where
  tickInterval : Nat := 1000
  frameInterval : Nat := 16
  collisionCooldown : Nat := 500
  swapMessage : Nat := 2000
  spriteWidth : Float := 48
  spriteHeight : Float := 48
deriving DecidableEq

end SpriteStage
