import SpriteStage.Config
import SpriteStage.Log
import SpriteStage.Sprite.Basic
import SpriteStage.Time
/-!
Collisions. Each sprite has a box around its place; of all pairs of sprites whose boxes overlap the
first one swaps programs. Checks are spaced by a cooldown: one that comes too soon finds nothing and
does not count.
-/

namespace SpriteStage

structure Box where
  left : Float
  top : Float
  right : Float
  bottom : Float
deriving DecidableEq

namespace Box

def centered (x y width height : Float) : Box :=
  { left := x - width / 2, top := y - height / 2, right := x + width / 2, bottom := y + height / 2 }

def overlaps (a b : Box) : Bool :=
  a.left < b.right && b.left < a.right && a.top < b.bottom && b.top < a.bottom

end Box

def Config.bounds (c : Config) (s : Sprite) : Box :=
  .centered s.state.x s.state.y c.spriteWidth c.spriteHeight

/-- The first pair of indices whose boxes overlap: the least first index, then the least second. -/
def firstOverlap? : List Box → Option (Nat × Nat)
  | [] => none
  | b :: bs =>
    match bs.findIdx? b.overlaps with
    | some j => some (0, j + 1)
    | none => (firstOverlap? bs).map fun (i, j) => (i + 1, j + 1)

structure Detector where
  lastCheck : Option Nat := none
deriving DecidableEq

namespace Detector

/-- Whether a check may be made: the cooldown since the last one is over. A clock that was set back
has spent no time. -/
def ready (d : Detector) (cooldown now : Nat) : Bool :=
  d.lastCheck.all fun last => cooldown ≤ now - last

def check (d : Detector) (c : Config) (now : Nat) (sprites : List Sprite) :
    Option (Nat × Nat) × Detector :=
  if d.ready c.collisionCooldown now then (firstOverlap? (sprites.map c.bounds), ⟨some now⟩)
  else (none, d)

end Detector

def Sprite.takeOver (s : Sprite) (p : Program) (giver : String) (expiresAt : Nat) : Sprite :=
  { s.edited p with
    state := { s.state with say := some ⟨s!"Swapped with {giver}!", expiresAt⟩ } }

/-- The sprites after two of them have swapped programs. One that swaps with itself is left with
none. -/
def swapPrograms (c : Config) (now first second : Nat) (sprites : List Sprite) : List Sprite :=
  match sprites[first]?, sprites[second]? with
  | some a, some b =>
    let expiresAt := Instant.after now c.swapMessage
    if first = second then sprites.set first (a.takeOver {} a.name expiresAt)
    else (sprites.set first (a.takeOver b.program b.name expiresAt)).set second
      (b.takeOver a.program a.name expiresAt)
  | _, _ => sprites

def swapLog (first second : Nat) (sprites : List Sprite) : List Entry :=
  match sprites[first]?, sprites[second]? with
  | some a, some b => [.event (.swapped a.id b.id)]
  | _, _ => []

end SpriteStage
