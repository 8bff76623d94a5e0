import SpriteStage.Decimal.Binary
import SpriteStage.Log
import SpriteStage.Sprite.Basic
import SpriteStage.Time
/-!
The execution of blocks. The run of a block is a function of the sprite's state and the instant
alone; a loop runs all its rounds at once. A step runs the top-level block under the cursor.
-/

namespace SpriteStage

/-- A positive duration rounded to whole milliseconds, a half going up; an endless one is as long as
time itself. -/
def wholeMillis (x : Float) : Nat :=
  match Decimal.parts x with
  | .finite false mantissa exponent => Decimal.roundHalfUp mantissa exponent
  | .infinite false => Instant.last
  | _ => 0

def deadline (now : Nat) (seconds : Float) : Nat :=
  let millis := seconds * 1000
  if 0 < millis then Instant.after now (wholeMillis millis) else now

def Action.apply (now : Nat) (s : SpriteState) : Action → SpriteState
  | .move dx dy => { s with x := s.x + dx, y := s.y + dy }
  | .turn degrees .clockwise => { s with direction := s.direction + degrees }
  | .turn degrees .counterclockwise => { s with direction := s.direction - degrees }
  | .goTo x y => { s with x := x, y := y }
  | .say text seconds => { s with say := some ⟨text, deadline now seconds⟩ }
  | .think text seconds => { s with think := some ⟨text, deadline now seconds⟩ }
  | .unknown _ => s

namespace Block

mutual

/-- The state after the run of a block inside `depth` loops. A loop without a body has nothing to
repeat, however large its count. -/
def run (now depth : Nat) (s : SpriteState) : Block → SpriteState
  | act _ _ action => if maxNesting < depth then s else action.apply now s
  | loop _ _ count body =>
    if maxNesting < depth then s
    else match body with
      | [] => s
      | b :: bs => Nat.repeat (fun s => runAll now (depth + 1) s (b :: bs)) (count.getD 1) s

def runAll (now depth : Nat) (s : SpriteState) : List Block → SpriteState
  | [] => s
  | b :: bs => runAll now depth (b.run now depth s) bs

end

def execute (now : Nat) (b : Block) (s : SpriteState) : SpriteState := b.run now 0 s

end Block

namespace Sprite

/-- A sprite one step on: the block under the cursor is run and flagged. When there is none left the
sprite becomes complete; an idle sprite stays as it is. -/
def step (now : Nat) (s : Sprite) : Sprite :=
  if s.isIdle then s
  else match s.program.get? s.cursor with
    | some b =>
      { s with
        state := b.execute now s.state
        program := s.program.markExecuted s.cursor
        cursor := s.cursor + 1 }
    | none => { s with complete := true }

def stepLog (s : Sprite) : List Entry :=
  if s.isIdle then []
  else match s.program.get? s.cursor with
    | some b => [.run b]
    | none => [.event (.programFinished s.id)]

end Sprite

end SpriteStage
