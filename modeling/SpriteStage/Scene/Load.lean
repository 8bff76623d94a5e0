import SpriteStage.Scene.Entry
import SpriteStage.Scene.Source
import SpriteStage.Sprite.Basic
/-!
Loading a scene. Identities are given in the order of the document, a sprite before its blocks and a
block before the blocks below it. Loading the entries never fails: a block of an unknown type becomes
one that does nothing, and only loops keep the blocks below them. What is lost on the way is reported
as a warning.
-/

namespace SpriteStage

structure Scene where
  sprites : List Sprite
  ids : IdSupply
  warnings : List Finding

def maxCount : Nat := UInt32.size - 1

namespace BlockParameters

def rotation (p : BlockParameters) : Rotation :=
  (p.direction.bind fun word => Rotation.ofName? word.content).getD .counterclockwise

def count (p : BlockParameters) : Option Nat := p.times.map fun n => min n.toNat maxCount

def action? (p : BlockParameters) : Opcode → Option Action
  | .move => some (.move (p.dx.getD 0) (p.dy.getD 0))
  | .turn => some (.turn (p.degrees.getD 0) p.rotation)
  | .goTo => some (.goTo (p.x.getD 0) (p.y.getD 0))
  | .say => some (.say (p.text.getD "") (p.seconds.getD 0))
  | .think => some (.think (p.text.getD "") (p.seconds.getD 0))
  | .loop => none

end BlockParameters

namespace BlockEntry

def opcode? (e : BlockEntry) : Option Opcode := Opcode.ofName? e.type.content

def action? (e : BlockEntry) : Option Action :=
  match e.opcode? with
  | some op => e.parameters.action? op
  | none => some (.unknown e.type.content)

mutual

def load (ids : IdSupply) : BlockEntry → Block × IdSupply
  | ⟨type, parameters, children⟩ =>
    match action? ⟨type, parameters, children⟩ with
    | some action => (.act ids.block false action, ids.advance)
    | none =>
      let (body, rest) := loadAll ids.advance children
      (.loop ids.block false parameters.count body, rest)

def loadAll (ids : IdSupply) : List BlockEntry → List Block × IdSupply
  | [] => ([], ids)
  | e :: es =>
    let (block, afterBlock) := e.load ids
    let (blocks, rest) := loadAll afterBlock es
    (block :: blocks, rest)

end

def directionWarnings (file : Nat) (p : BlockParameters) : List Finding :=
  match p.direction with
  | some word =>
    if (Rotation.ofName? word.content).isSome then []
    else [⟨.unknownDirection word.content, word.span, file⟩]
  | none => []

mutual

def warnings (file : Nat) : BlockEntry → List Finding
  | ⟨type, parameters, children⟩ =>
    match Opcode.ofName? type.content with
    | none => [⟨.unknownType type.content, type.span, file⟩]
    | some .loop => warningsOf file children
    | some op =>
      (if children.isEmpty then [] else [⟨.ignoredChildren type.content, type.span, file⟩])
        ++ if op = .turn then directionWarnings file parameters else []

def warningsOf (file : Nat) : List BlockEntry → List Finding
  | [] => []
  | e :: es => e.warnings file ++ warningsOf file es

end

end BlockEntry

namespace SpriteEntry

def load (ids : IdSupply) (index : Nat) (e : SpriteEntry) : Sprite × IdSupply :=
  let (blocks, rest) := BlockEntry.loadAll ids.advance e.blocks
  let plain := Sprite.numbered ids.sprite index
  ({ plain with
      name := e.name.getD plain.name
      costume := e.costume.getD plain.costume
      state := { x := e.x, y := e.y, direction := e.direction.getD plain.state.direction }
      program := ⟨blocks⟩ }, rest)

def loadAll (ids : IdSupply) (index : Nat) : List SpriteEntry → List Sprite × IdSupply
  | [] => ([], ids)
  | e :: es =>
    let (sprite, afterSprite) := e.load ids index
    let (sprites, rest) := loadAll afterSprite (index + 1) es
    (sprite :: sprites, rest)

end SpriteEntry

namespace Scene

def ofEntries (file : Nat) (entries : List SpriteEntry) : Scene :=
  let (sprites, ids) := SpriteEntry.loadAll {} 0 entries
  ⟨sprites, ids, entries.flatMap fun e => BlockEntry.warningsOf file e.blocks⟩

def entriesOf (d : Toml.Document) : Except Toml.Fault (List SpriteEntry) :=
  d.top "sprite" [] SpriteEntry.record.decoder.listOf

def load (source : String) (file : Nat) : Except Finding Scene :=
  (loadFrom source file entriesOf).map (ofEntries file)

end Scene

end SpriteStage
