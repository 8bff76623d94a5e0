import SpriteStage.Log
import SpriteStage.Program.Edit
/-!
What an edit reports: nothing when it finds its target, and otherwise one event that says which
target is missing.
-/

namespace SpriteStage

def Program.loopRemarks (p : Program) (loop : BlockId) (edit : String)
    (onBody : List Block → List Event) : List Event :=
  match p.loopBody? loop with
  | some body => onBody body
  | none => [.loopMissed loop edit]

def Edit.remarks : Edit → Program → List Event
  | append _, _ => []
  | replace target _, p => if p.contains target then [] else [.replaceMissed target]
  | delete target, p => if (p.position? target).isSome then [] else [.deleteMissed target]
  | addToLoop loop _, p => p.loopRemarks loop "add_to_repeat" fun _ => []
  | updateInLoop loop b, p => p.loopRemarks loop "update_in_repeat" fun body =>
    if body.any fun c => c.id = b.id then [] else [.updateMissed loop b.id]
  | deleteFromLoop loop target, p => p.loopRemarks loop "delete_from_repeat" fun body =>
    if body.any fun c => c.id = target then [] else [.removeMissed loop target]
  | reorder source _, p =>
    if source < p.length then [] else [.reorderMissed source p.length]

end SpriteStage
