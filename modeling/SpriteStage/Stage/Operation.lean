import SpriteStage.Stage.Arrange
import SpriteStage.Stage.Headless
/-!
The operations on a stage as values, so that a history of a stage is a list of operations.
-/

namespace SpriteStage

inductive Operation where
  | createSprite
  | select (sprite : SpriteId)
  | moveSprite (sprite : SpriteId) (x y : Float)
  | takeBlockId
  | edit (edit : Edit)
  | start
  | stop
  | reset
  | pump
  | expireBubbles
  | setClock (now : Nat)
  | advanceClock (d : Nat)
  | runUntilIdle (limit : Nat)

namespace Operation

def apply : Operation → Stage → Stage
  | createSprite, s => s.createSprite
  | select id, s => s.select id
  | moveSprite id x y, s => s.moveSprite id x y
  | takeBlockId, s => s.takeBlockId
  | edit e, s => s.editSelected e
  | start, s => s.start
  | stop, s => s.stop
  | reset, s => s.reset
  | pump, s => s.pump
  | expireBubbles, s => s.expireBubbles
  | setClock now, s => s.setClock now
  | advanceClock d, s => s.advanceClock d
  | runUntilIdle limit, s => (s.runUntilIdle limit).1

def log : Operation → Stage → List Entry
  | createSprite, s => s.createSpriteLog.map .event
  | select id, s => (s.selectLog id).map .event
  | moveSprite id _ _, s => (s.moveSpriteLog id).map .event
  | edit e, s => (s.editSelectedLog e).map .event
  | start, s => s.startLog
  | stop, s => s.stopLog
  | reset, s => s.resetLog
  | pump, s => s.pumpLog
  | runUntilIdle limit, s => s.runUntilIdleLog limit
  | takeBlockId, _ | expireBubbles, _ | setClock _, _ | advanceClock _, _ => []

def applyAll (operations : List Operation) (s : Stage) : Stage :=
  operations.foldl (fun s operation => operation.apply s) s

end Operation

end SpriteStage
