import SpriteStage.Program.Remarks
import SpriteStage.Stage.Basic
/-!
What an editor does to a stage: adding, selecting and placing sprites, taking identities for new
blocks, and editing the program of the selected sprite. Each is possible at any time, also during a
run.
-/

namespace SpriteStage.Stage

def createSprite (s : Stage) : Stage :=
  let sprite := Sprite.numbered s.ids.sprite s.sprites.length
  { s with sprites := s.sprites ++ [sprite], selected := sprite.id, ids := s.ids.advance }

def createSpriteLog (s : Stage) : List Event :=
  [.spriteCreated s.ids.sprite (Sprite.defaultName s.sprites.length)]

def select (s : Stage) (id : SpriteId) : Stage :=
  if (s.sprite? id).isSome then { s with selected := id } else s

def selectLog (s : Stage) (id : SpriteId) : List Event :=
  if (s.sprite? id).isSome then [] else [.selectMissed id]

def moveSprite (s : Stage) (id : SpriteId) (x y : Float) : Stage :=
  let place (p : Sprite) : Sprite :=
    if p.id = id then { p with state := { p.state with x := x, y := y } } else p
  { s with sprites := s.sprites.map place }

def moveSpriteLog (s : Stage) (id : SpriteId) : List Event :=
  if (s.sprite? id).isSome then [] else [.moveMissed id]

def takeBlockId (s : Stage) : Stage := { s with ids := s.ids.advance }

def selectedIndex? (s : Stage) : Option Nat := s.sprites.findIdx? fun p => p.id = s.selected

def editSelected (s : Stage) (e : Edit) : Stage :=
  match s.selectedIndex? with
  | some index => { s with sprites := s.sprites.modify index fun p => p.edited (e.apply p.program) }
  | none => s

def editSelectedLog (s : Stage) (e : Edit) : List Event :=
  match s.sprite? s.selected with
  | some p => e.remarks p.program
  | none => [.selectionGone s.selected]

end SpriteStage.Stage
