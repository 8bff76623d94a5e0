import SpriteStage.Decimal.Layout
import SpriteStage.Scene.Load
import SpriteStage.Text.Outline
/-!
The outline of a scene: everything that loading has made of it, for people who look for a mistake in
it.
-/

namespace SpriteStage

open Text (Outline)

def numberOutline (n : Nat) : Outline := .word (toString n)

def floatOutline (x : Float) : Outline := .word (Decimal.marked.write x)

def textOutline (text : String) : Outline := .word (Text.quote text)

def flagOutline (flag : Bool) : Outline := .word (toString flag)

def Rotation.outline : Rotation → Outline
  | clockwise => .word "Clockwise"
  | counterclockwise => .word "CounterClockwise"

def Action.outline : Action → Outline
  | move dx dy => .record "Move" [("dx", floatOutline dx), ("dy", floatOutline dy)]
  | turn degrees rotation =>
    .record "Turn" [("degrees", floatOutline degrees), ("direction", rotation.outline)]
  | goTo x y => .record "GoTo" [("x", floatOutline x), ("y", floatOutline y)]
  | say text seconds =>
    .record "Say" [("text", textOutline text), ("seconds", floatOutline seconds)]
  | think text seconds =>
    .record "Think" [("text", textOutline text), ("seconds", floatOutline seconds)]
  | unknown name => .record "Unknown" [("name", textOutline name)]

def BlockId.outline (id : BlockId) : Outline := .wrapped "BlockId" (numberOutline id.number)

namespace Block

def outlineOf (id : BlockId) (executed : Bool) (kind : Outline) : Outline :=
  .record "Block" [("id", id.outline), ("kind", kind), ("executed", flagOutline executed)]

mutual

def outline : Block → Outline
  | act id executed action => outlineOf id executed action.outline
  | loop id executed count body =>
    outlineOf id executed (.record "Repeat"
      [("times", .optional (count.map numberOutline)), ("children", .sequence (outlines body))])

def outlines : List Block → List Outline
  | [] => []
  | b :: bs => b.outline :: outlines bs

end

end Block

def Bubble.outline (b : Bubble) : Outline :=
  .record "Bubble" [("text", textOutline b.text), ("expires_at", numberOutline b.expiresAt)]

def SpriteState.outline (s : SpriteState) : Outline :=
  .record "SpriteState"
    [("x", floatOutline s.x), ("y", floatOutline s.y), ("direction", floatOutline s.direction),
     ("say", .optional (s.say.map Bubble.outline)),
     ("think", .optional (s.think.map Bubble.outline))]

def Sprite.outline (s : Sprite) : Outline :=
  .record "Sprite"
    [("id", .wrapped "SpriteId" (numberOutline s.id.number)), ("name", textOutline s.name),
     ("costume", textOutline s.costume), ("state", s.state.outline),
     ("program", .record "Program" [("blocks", .sequence (Block.outlines s.program.blocks))]),
     ("cursor", numberOutline s.cursor), ("complete", flagOutline s.complete)]

def Finding.outline (f : Finding) : Outline :=
  .record "SceneError"
    [("message", textOutline f.message), ("span", .word s!"{f.span.start}..{f.span.stop}"),
     ("file_id", numberOutline f.file),
     ("severity", .word (if f.isWarning then "Warning" else "Error")),
     ("notes", .sequence (f.cause.notes.map textOutline))]

def Scene.outline (s : Scene) : Outline :=
  .record "Scene"
    [("sprites", .sequence (s.sprites.map Sprite.outline)),
     ("ids", .record "IdAllocator" [("last", numberOutline s.ids.last)]),
     ("warnings", .sequence (s.warnings.map Finding.outline))]

end SpriteStage
