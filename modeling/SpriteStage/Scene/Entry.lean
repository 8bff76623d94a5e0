import SpriteStage.Toml.Decoder
/-!
The entries of a scene as a document writes them: sprites and the blocks of their programs, with
those parameters that are given. Every block has a type, and may have blocks below it whatever its
type is.
-/

namespace SpriteStage

open Toml (Decoder Field Located Record)

structure BlockParameters where
  dx : Option Float := none
  dy : Option Float := none
  degrees : Option Float := none
  direction : Option (Located String) := none
  x : Option Float := none
  y : Option Float := none
  text : Option String := none
  seconds : Option Float := none
  times : Option Int := none

structure BlockEntry where
  type : Located String
  parameters : BlockParameters
  children : List BlockEntry

structure SpriteEntry where
  name : Option String := none
  costume : Option String := none
  x : Float := 0
  y : Float := 0
  direction : Option Float := none
  blocks : List BlockEntry := []

structure BlockDraft where
  type : Option (Located String) := none
  parameters : BlockParameters := {}
  children : List BlockEntry := []

namespace BlockDraft

def adjust (change : BlockParameters → BlockParameters) (d : BlockDraft) : BlockDraft :=
  { d with parameters := change d.parameters }

def finish (d : BlockDraft) : Except String BlockEntry :=
  match d.type with
  | some type => .ok ⟨type, d.parameters, d.children⟩
  | none => .error "type"

end BlockDraft

namespace BlockEntry

open BlockDraft (adjust)

def record (child : Decoder BlockEntry) : Record BlockDraft BlockEntry where
  name := "RawBlock"
  fields :=
    [.of "type" Decoder.text.located fun v d => { d with type := some v },
     .of "dx" .float fun v => adjust fun p => { p with dx := some v },
     .of "dy" .float fun v => adjust fun p => { p with dy := some v },
     .of "degrees" .float fun v => adjust fun p => { p with degrees := some v },
     .of "direction" Decoder.text.located fun v => adjust fun p => { p with direction := some v },
     .of "x" .float fun v => adjust fun p => { p with x := some v },
     .of "y" .float fun v => adjust fun p => { p with y := some v },
     .of "text" .text fun v => adjust fun p => { p with text := some v },
     .of "seconds" .float fun v => adjust fun p => { p with seconds := some v },
     .of "times" .integer fun v => adjust fun p => { p with times := some v },
     .of "block" child.listOf (fun v d => { d with children := v }) true]
  start := {}
  finish := BlockDraft.finish

def decoderTo : Nat → Decoder BlockEntry
  | 0 => Decoder.refuse (.record "RawBlock")
  | depth + 1 => (record (decoderTo depth)).decoder

def decoder : Decoder BlockEntry := fun place v => decoderTo v.depth place v

end BlockEntry

namespace SpriteEntry

def record : Record SpriteEntry SpriteEntry where
  name := "RawSprite"
  fields :=
    [.of "name" .text fun v s => { s with name := some v },
     .of "costume" .text fun v s => { s with costume := some v },
     .of "x" .float (fun v s => { s with x := v }) true,
     .of "y" .float (fun v s => { s with y := v }) true,
     .of "direction" .float fun v s => { s with direction := some v },
     .of "block" BlockEntry.decoder.listOf (fun v s => { s with blocks := v }) true]
  start := {}
  finish := .ok

end SpriteEntry

end SpriteStage
