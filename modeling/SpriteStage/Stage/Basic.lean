import SpriteStage.Collision
import SpriteStage.Schedule
import SpriteStage.Sprite.Execute
/-!
The stage: sprites, the selected one, the supply of identities, the schedule of the run, the memory
of the collision detector and the counters of the latest run, under one clock.
-/

namespace SpriteStage

structure RunStats where
  ticks : Nat := 0
  swaps : Nat := 0
deriving DecidableEq

structure Stage where
  clock : Nat
  config : Config
  sprites : List Sprite
  selected : SpriteId
  ids : IdSupply
  schedule : Schedule
  detector : Detector := {}
  stats : RunStats := {}

namespace Stage

def assemble (clock : Nat) (config : Config) (first : Sprite) (rest : List Sprite)
    (ids : IdSupply) : Stage :=
  { clock := clock
    config := config
    sprites := first :: rest
    selected := first.id
    ids := ids
    schedule := ⟨config.tickInterval, config.frameInterval, none⟩ }

def populated (clock : Nat) (config : Config) (sprites : List Sprite) (ids : IdSupply) : Stage :=
  match sprites with
  | first :: rest => assemble clock config first rest ids
  | [] => assemble clock config (.numbered ids.sprite 0) [] ids.advance

def new (clock : Nat) (config : Config) : Stage := populated clock config [] {}

def sprite? (s : Stage) (id : SpriteId) : Option Sprite := s.sprites.find? fun p => p.id = id

def spriteNamed? (s : Stage) (name : String) : Option Sprite :=
  s.sprites.find? fun p => p.name = name

def isRunning (s : Stage) : Bool := s.schedule.isRunning

def setClock (s : Stage) (now : Nat) : Stage := { s with clock := now }

def advanceClock (s : Stage) (d : Nat) : Stage := s.setClock (Instant.after s.clock d)

end Stage

end SpriteStage
