import SpriteStage.Sprite.Basic
/-!
The expiry of bubbles. A bubble is gone at its deadline and ever after; before it, no expiry touches
it.
-/

namespace SpriteStage

def Bubble.isExpired (now : Nat) (b : Bubble) : Bool := b.expiresAt ≤ now

namespace SpriteState

def expire (now : Nat) (s : SpriteState) : SpriteState :=
  { s with say := s.say.filter (!·.isExpired now), think := s.think.filter (!·.isExpired now) }

def hasExpired (now : Nat) (s : SpriteState) : Bool :=
  s.say.any (·.isExpired now) || s.think.any (·.isExpired now)

end SpriteState

def Sprite.expire (now : Nat) (s : Sprite) : Sprite := { s with state := s.state.expire now }

end SpriteStage
