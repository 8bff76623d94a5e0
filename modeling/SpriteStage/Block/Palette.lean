import SpriteStage.Block.Basic
/-!
The palette: the six kinds of block that an editor offers, their names in scenes, and the parameters
a block has when it is first taken from the palette.
-/

namespace SpriteStage

inductive Opcode where
  | move
  | turn
  | goTo
  | say
  | think
  | loop
deriving DecidableEq

namespace Opcode

def all : List Opcode := [move, turn, goTo, say, think, loop]

def name : Opcode → String
  | move => "move"
  | turn => "turn"
  | goTo => "goto"
  | say => "say"
  | think => "think"
  | loop => "repeat"

def ofName? (word : String) : Option Opcode := all.find? fun op => op.name = word

def instantiate (op : Opcode) (id : BlockId) : Block :=
  match op with
  | move => .act id false (.move 10 0)
  | turn => .act id false (.turn 15 .clockwise)
  | goTo => .act id false (.goTo 0 0)
  | say => .act id false (.say "Hello!" 2)
  | think => .act id false (.think "Hmm..." 2)
  | loop => .loop id false none []

end Opcode

def Action.opcode? : Action → Option Opcode
  | .move .. => some .move
  | .turn .. => some .turn
  | .goTo .. => some .goTo
  | .say .. => some .say
  | .think .. => some .think
  | .unknown _ => none

def Block.opcode? : Block → Option Opcode
  | .act _ _ action => action.opcode?
  | .loop .. => some .loop

end SpriteStage
