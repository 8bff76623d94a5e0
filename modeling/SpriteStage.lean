import SpriteStage.Decimal.Layout
import SpriteStage.Decimal.Reading
import SpriteStage.Decimal.Remainder
import SpriteStage.Text.Quoted
import SpriteStage.Time
import SpriteStage.Block.Palette
import SpriteStage.Program.Edit
import SpriteStage.Program.Listing
import SpriteStage.Log
import SpriteStage.Program.Remarks
import SpriteStage.Sprite.Bubble
import SpriteStage.Sprite.Execute
import SpriteStage.Sprite.Text
import SpriteStage.Stage.Operation
import SpriteStage.Toml.Document
import SpriteStage.Scene.Settings
import SpriteStage.Trial.Suite
import SpriteStage.Main
import SpriteStage.Proofs.Pumping
import SpriteStage.Proofs.Timetable
import SpriteStage.Proofs.Course
import SpriteStage.Proofs.Unrolling
import SpriteStage.Proofs.Completion
import SpriteStage.Proofs.Programs
import SpriteStage.Proofs.Numbering
import SpriteStage.Proofs.Editing
import SpriteStage.Proofs.Flags
import SpriteStage.Proofs.Roster
import SpriteStage.Proofs.Allocation
import SpriteStage.Proofs.Identities
import SpriteStage.Proofs.Targets
import SpriteStage.Proofs.Draining
import SpriteStage.Proofs.Ownership
import SpriteStage.Proofs.Cooldown
import SpriteStage.Proofs.Deadlines
import SpriteStage.Proofs.LastInstant
import SpriteStage.Proofs.Ending
import SpriteStage.Proofs.Juggling
import SpriteStage.Proofs.Expiry
import SpriteStage.Proofs.Untouched
import SpriteStage.Proofs.Bare
import SpriteStage.Proofs.Utterances
import SpriteStage.Proofs.Lifetime
import SpriteStage.Proofs.Duration
import SpriteStage.Proofs.Timelessness
import SpriteStage.Proofs.TimeLimit
import SpriteStage.Proofs.Chronicle
import SpriteStage.Proofs.DocumentOrder
import SpriteStage.Proofs.Warnings
import SpriteStage.Proofs.DistinctNames
import SpriteStage.Proofs.Loaders
import SpriteStage.Proofs.Replacing
import SpriteStage.Proofs.Reordering
import SpriteStage.Proofs.InsideLoops
import SpriteStage.Proofs.Undoing
import SpriteStage.Proofs.Alike
import SpriteStage.Proofs.Verdicts
import SpriteStage.Proofs.Stepping
import SpriteStage.Proofs.Encounters
import SpriteStage.Proofs.Overlapping
import SpriteStage.Proofs.Exchange
import SpriteStage.Proofs.Restarting
import SpriteStage.Proofs.PrintedLines
import SpriteStage.Proofs.Selection
