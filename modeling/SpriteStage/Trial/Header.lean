import SpriteStage.Toml.Decoder
import SpriteStage.Toml.Document
/-!
Trials: scenes with expectations. A trial is a scene's source with further keys at its top, which say
what loading and running the scene should come to.
-/

namespace SpriteStage

open Toml (Decoder Field Record)

structure ExpectedWarning where
  contains : String
  line : Option Nat := none

structure ExpectedState where
  x : Option Float := none
  y : Option Float := none
  direction : Option Float := none
  cursor : Option Nat := none
  complete : Option Bool := none
  say : Option String := none
  think : Option String := none

structure ExpectedSprite where
  name : String
  state : ExpectedState

structure Trial where
  description : Option String := none
  limit : Nat := 60000
  fails : Bool := false
  warnings : Option (List ExpectedWarning) := none
  sprites : List ExpectedSprite := []

namespace ExpectedWarning

def record : Record (Option String × Option Nat) ExpectedWarning where
  name := "ExpectedWarning"
  fields :=
    [.of "contains" .text fun v d => (some v, d.2),
     .of "line" .size (fun v d => (d.1, some v)) true]
  start := (none, none)
  finish
    | (some part, line) => .ok ⟨part, line⟩
    | (none, _) => .error "contains"

end ExpectedWarning

namespace ExpectedSprite

def adjust (change : ExpectedState → ExpectedState) (d : Option String × ExpectedState) :
    Option String × ExpectedState := (d.1, change d.2)

def record : Record (Option String × ExpectedState) ExpectedSprite where
  name := "ExpectedSprite"
  fields :=
    [.of "name" .text fun v d => (some v, d.2),
     .of "x" .float fun v => adjust fun s => { s with x := some v },
     .of "y" .float fun v => adjust fun s => { s with y := some v },
     .of "direction" .float fun v => adjust fun s => { s with direction := some v },
     .of "cursor" .size fun v => adjust fun s => { s with cursor := some v },
     .of "complete" .boolean fun v => adjust fun s => { s with complete := some v },
     .of "say" .text fun v => adjust fun s => { s with say := some v },
     .of "think" .text fun v => adjust fun s => { s with think := some v }]
  start := (none, {})
  finish
    | (some name, state) => .ok ⟨name, state⟩
    | (none, _) => .error "name"
  closed := true

def listRecord : Record (List ExpectedSprite) (List ExpectedSprite) where
  name := "Expectations"
  fields := [.of "sprite" record.decoder.listOf (fun v _ => v) true]
  start := []
  finish := .ok

end ExpectedSprite

namespace Trial

def record : Record Trial Trial where
  name := "TestConfig"
  fields :=
    [.of "description" .text (fun v t => { t with description := some v }) true,
     .of "limit_ms" .natural (fun v t => { t with limit := v }) true,
     .of "expect_parse_error" .boolean (fun v t => { t with fails := v }) true,
     .of "expect_warnings" ExpectedWarning.record.decoder.listOf
       (fun v t => { t with warnings := some v }) true,
     .of "expect" ExpectedSprite.listRecord.decoder (fun v t => { t with sprites := v }) true]
  start := {}
  finish := .ok

def unmarked (source : String) : String :=
  String.ofList (source.toList.dropWhile (· = '\ufeff'))

def ofSource (source : String) : Except (Option Toml.Fault) Trial :=
  match Toml.Document.read? (unmarked source) with
  | some d => (record.decoder ⟨0, 0⟩ d.root.toValue).mapError some
  | none => .error none

end Trial

end SpriteStage
