import SpriteStage.Program.Basic
/-!
Sprites: actors with a place, a heading, up to two bubbles and a program. The cursor is the index of
the next top-level block; a sprite is complete once a tick has found its cursor past the last block.
-/

namespace SpriteStage

structure Bubble where
  text : String
  expiresAt : Nat
deriving DecidableEq

/-- The part of a sprite that blocks read and change. The heading is in degrees, 0 pointing up, and
grows without bound. -/
structure SpriteState where
  x : Float := 0
  y : Float := 0
  direction : Float := 90
  say : Option Bubble := none
  think : Option Bubble := none
deriving DecidableEq

def SpriteState.withoutBubbles (s : SpriteState) : SpriteState := { s with say := none, think := none }

structure Sprite where
  id : SpriteId
  name : String
  costume : String
  state : SpriteState := {}
  program : Program := {}
  cursor : Nat := 0
  complete : Bool := false

def costumes : List String := ["🐱", "🐶", "🐰", "🦊", "🐻"]

namespace Sprite

def defaultName (index : Nat) : String := s!"Sprite {index + 1}"

def defaultCostume (index : Nat) : String := costumes.getD (index % costumes.length) ""

def numbered (id : SpriteId) (index : Nat) : Sprite :=
  { id := id, name := defaultName index, costume := defaultCostume index }

/-- A sprite with an edited program. An edit loses the place reached in the run. -/
def edited (s : Sprite) (p : Program) : Sprite :=
  { s with program := p, cursor := 0, complete := false }

def rewound (s : Sprite) : Sprite := s.edited s.program.cleared

def isIdle (s : Sprite) : Bool := s.complete || s.program.isEmpty

end Sprite

end SpriteStage
