import SpriteStage.Command.Request
import SpriteStage.Scene.Outline
import SpriteStage.Program.Listing
import SpriteStage.Sprite.Text
import SpriteStage.Trial.Report
/-!
What the program does about a request, once it is known what the request's path leads to. All of it
is settled beforehand, except for a run by the clock on the wall, which is left to whoever has one.
-/

namespace SpriteStage.Command

structure Output where
  lines : List String := []
  complaints : List String := []
  status : Nat := 0

inductive Plan where
  | finish (output : Output)
  | live (stage : Stage) (limit : Nat) (quiet : Bool) (complaints : List String)

namespace RunRequest

def findingLines (file source : String) (f : Finding) : List String :=
  let place := Text.Position.ofOffset source f.span.start
  let kind := if f.isWarning then "warning" else "error"
  [s!"{kind}: {f.message}", s!"  at {file}:{place.line + 1}:{place.column + 1}"]
    ++ f.cause.notes.map ("  = " ++ ·)

def spriteLines (s : Sprite) : List String :=
  s!"{s.costume} {s.name} ({s.id.text})" :: (Text.lines s.program.listing).map ("  " ++ ·)

def reportLines (final : Stage) (r : RunSummary) : List String :=
  let ending := if r.completed then "finished" else "stopped at time limit"
  final.sprites.map Sprite.text
    ++ [s!"{ending} after {r.ticks} ticks ({r.elapsed} ms, {r.swaps} swaps)"]

def planScene (r : RunRequest) (scene : Scene) (config : Config) (complaints : List String) :
    Plan :=
  let stage := Stage.populated 0 config scene.sprites scene.ids
  if r.check then
    .finish { complaints := complaints ++ [s!"ok: {r.file} loaded successfully"] }
  else if r.dump then .finish { lines := scene.outline.lines, complaints := complaints }
  else if r.listSprites then
    .finish { lines := scene.sprites.flatMap spriteLines, complaints := complaints }
  else if r.realtime then .live stage r.limit r.quiet complaints
  else
    let (final, summary) := stage.runUntilIdle r.limit
    .finish
      { lines := if r.quiet then [] else reportLines final summary, complaints := complaints }

def planSource (r : RunRequest) (source : String) : Plan :=
  let linesOf := findingLines r.file source
  match Scene.load source 0 with
  | .error f => .finish { complaints := linesOf f, status := 1 }
  | .ok scene =>
    let complaints := scene.warnings.flatMap linesOf
    match Config.load source 0 with
    | .error f => .finish { complaints := complaints ++ linesOf f, status := 1 }
    | .ok config => r.planScene scene config complaints

def plan (r : RunRequest) (found : Except ReadFailure Node) : Plan :=
  match found.bind Node.text with
  | .error failure =>
    .finish { complaints := [s!"error: cannot read '{r.file}': {failure.message}"], status := 1 }
  | .ok source => r.planSource source

end RunRequest

namespace TrialRequest

def categoriesOf (path : String) : Except ReadFailure Node → List Category
  | .ok node => Category.ofTrials (node.trials path [])
  | .error _ => []

def nothingFound (path : String) : String := s!"no .test.toml files found in {path}"

def listing (r : TrialRequest) (found : Except ReadFailure Node) : Output :=
  match found, categoriesOf r.path found with
  | .ok (.file _), _ => { complaints := ["(single file, no categories)"] }
  | _, [] => { complaints := [nothingFound r.path] }
  | _, c :: cs =>
    { complaints := "available categories:" ::
        (c :: cs).map fun c => s!"  {c.title} ({c.files.length} tests)" }

def unmetLine (categories : List Category) (request : String) : String :=
  let available := ", ".intercalate (categories.map Category.title)
  s!"warning: category '{request}' not found (available: {available})"

def judged (theme : Theme) (before : List String) (all : List Judged) : Output :=
  { complaints := before ++ SpriteStage.reportLines theme all
    status := if allPassed all then 0 else 1 }

def suite (r : TrialRequest) (theme : Theme) (categories : List Category) : Output :=
  let before := (Category.unmet r.categories categories).map (unmetLine categories)
  match Category.select r.categories categories with
  | [] => { complaints := before ++ ["no matching categories found"], status := 1 }
  | c :: cs => judged theme before ((c :: cs).map Category.judge)

def output (r : TrialRequest) (theme : Theme) (found : Except ReadFailure Node) : Output :=
  if r.listCategories then r.listing found
  else match found, categoriesOf r.path found with
    | .ok (.file content), _ =>
      judged theme [] [⟨none, [(⟨r.path, lastName r.path, content⟩ : TrialFile).verdict]⟩]
    | _, [] => { complaints := [nothingFound r.path], status := 1 }
    | _, c :: cs => r.suite theme (c :: cs)

end TrialRequest

namespace Request

def path (r : Request) : String :=
  match r.task with
  | .run run => run.file
  | .trials trials => trials.path

def plan (r : Request) (found : Except ReadFailure Node) : Plan :=
  match r.task with
  | .run run => run.plan found
  | .trials trials => .finish (trials.output ⟨!r.plain⟩ found)

end Request

def versionLine : String := "blockstage 0.1.0"

def usage : List String :=
  ["Usage: blockstage [--no-color] [run] FILE [OPTIONS]",
   "       blockstage [--no-color] test PATH [OPTIONS]",
   "",
   "Options of run:",
   "  --check         load the scene only",
   "  --dump          write out the loaded scene",
   "  --list-sprites  list the sprites and their programs",
   "  --limit-ms N    stop the run after so many milliseconds of stage time",
   "  --realtime      run by the clock on the wall",
   "  -q, --quiet     do not report the sprites at the end",
   "",
   "Options of test:",
   "  -c, --category NAME  judge only the trials of a category",
   "  --list-categories    list the categories"]

def Stop.output : Stop → Output
  | help => { lines := usage }
  | version => { lines := [versionLine] }
  | misuse m => { complaints := ["error: " ++ m.message, ""] ++ usage, status := 2 }

def liveOutput (quiet : Bool) (complaints : List String) (final : Stage) (r : RunSummary) :
    Output :=
  { lines := if quiet then [] else RunRequest.reportLines final r, complaints := complaints }

end SpriteStage.Command
