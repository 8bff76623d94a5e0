import SpriteStage.Decimal.Layout
import SpriteStage.Files
import SpriteStage.Scene.Finding
import SpriteStage.Toml.Frame
/-!
Why a trial fails. The first thing that is not as expected decides.
-/

namespace SpriteStage

inductive Difference where
  | number (what : String) (wanted got : Float)
  | cursor (wanted got : Nat)
  | complete (wanted got : Bool)
  | bubble (what wanted got : String)

def Difference.message : Difference → String
  | number what wanted got =>
    s!"expected {what} = {Decimal.text wanted}, got {Decimal.text got}"
  | cursor wanted got => s!"expected cursor = {wanted}, got {got}"
  | complete wanted got => s!"expected complete = {wanted}, got {got}"
  | bubble what wanted got => s!"expected {what} = \"{wanted}\", got \"{got}\""

inductive Failure where
  | unreadable (failure : ReadFailure)
  | badHeader (source : String) (fault : Option Toml.Fault)
  | loaded
  | notLoaded (finding : Finding)
  | warningCount (wanted : Nat) (got : List Finding)
  | warningText (index : Nat) (wanted : String) (got : Finding)
  | warningLine (index wanted got : Nat)
  | badConfig (finding : Finding)
  | unfinished (limit ticks : Nat)
  | noSprite (name : String)
  | differs (name : String) (difference : Difference)

namespace Failure

def warningList (warnings : List Finding) : String :=
  if warnings.isEmpty then "    (none)"
  else "\n".intercalate (warnings.map fun w => "  - " ++ w.text)

def message : Failure → String
  | unreadable failure => "cannot read file: " ++ failure.message
  | badHeader source (some fault) =>
    "test header error: TOML parse error: " ++ "\n".intercalate (fault.frame source)
  | badHeader _ none => "test header error: TOML parse error: " ++ Cause.notADocument.message
  | loaded => "expected parse error, but loading succeeded"
  | notLoaded finding => "unexpected parse error: " ++ finding.message
  | warningCount wanted got =>
    s!"expected {wanted} warning(s), got {got.length}\n  actual warnings:\n{warningList got}"
  | warningText index wanted got =>
    s!"warning[{index}]: expected message containing \"{wanted}\", got: {got.text}"
  | warningLine index wanted got =>
    s!"warning[{index}]: expected on line {wanted}, but span is on line {got}"
  | badConfig finding => "invalid [engine] table: " ++ finding.text
  | unfinished limit ticks => s!"run did not finish within {limit} ms ({ticks} ticks)"
  | noSprite name => s!"no sprite named \"{name}\""
  | differs name difference => s!"{name}: {difference.message}"

end Failure

end SpriteStage
