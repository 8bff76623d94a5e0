import SpriteStage.Config
import SpriteStage.Scene.Source
/-!
The configuration of a stage in a scene's source: the table `engine`, of which every field may be
absent and no other field is allowed.
-/

namespace SpriteStage

open Toml (Decoder Field Record)

namespace Config

def record : Record Config Config where
  name := "EngineConfig"
  fields :=
    [.of "tick_interval_ms" .natural (fun v c => { c with tickInterval := v }) true,
     .of "frame_interval_ms" .natural (fun v c => { c with frameInterval := v }) true,
     .of "collision_cooldown_ms" .natural (fun v c => { c with collisionCooldown := v }) true,
     .of "swap_message_ms" .natural (fun v c => { c with swapMessage := v }) true,
     .of "sprite_width" .float (fun v c => { c with spriteWidth := v }) true,
     .of "sprite_height" .float (fun v c => { c with spriteHeight := v }) true]
  start := {}
  finish := .ok
  closed := true

def ofDocument (d : Toml.Document) : Except Toml.Fault Config := d.top "engine" {} record.decoder

def load (source : String) (file : Nat) : Except Finding Config := loadFrom source file ofDocument

end Config

end SpriteStage
