import SpriteStage.Command.Plan
/-!
The program. It looks up what its arguments ask for, does what the plan says, and is the only place
with a clock on the wall.
-/

namespace SpriteStage.Command

/-- What the system's answer means for a file that cannot be read. The number of an error comes
negated from some calls. -/
def failureOf : IO.Error → ReadFailure
  | .noFileOrDirectory .. => .notFound
  | .inappropriateType .. => .notADirectory
  | e@(.invalidArgument _ code _) =>
    if code = 36 || code = 0 - 36 then .nameTooLong else .other (toString e)
  | e => .other (toString e)

def contentAt (path : String) : IO Content := do
  try
    return .ok (← IO.FS.readBinFile path)
  catch e =>
    return .error (failureOf e)

partial def entriesAt (path : String) : IO (List (String × Node)) := do
  let listed ← try (System.mkFilePath [path]).readDir catch _ => pure #[]
  let mut entries : List (String × Node) := []
  for entry in listed do
    let inner := entryPath path entry.fileName
    if ← (System.mkFilePath [inner]).isDir then
      entries := (entry.fileName, .folder (← entriesAt inner)) :: entries
    else if isTrialName entry.fileName then
      entries := (entry.fileName, .file (← contentAt inner)) :: entries
  return entries

def nodeAt (request : Request) : IO (Except ReadFailure Node) := do
  if ← (System.mkFilePath [request.path]).isDir then
    match request.task with
    | .run _ => return .ok (.folder [])
    | .trials _ => return .ok (.folder (← entriesAt request.path))
  else
    let content ← contentAt request.path
    match content, ← (System.mkFilePath [request.path]).pathExists with
    | .error failure, false => return .error failure
    | content, _ => return .ok (.file content)

partial def runLive (origin limit : Nat) (stage : Stage) : IO (Stage × Bool) := do
  let stage := stage.setClock ((← IO.monoMsNow) - origin)
  if !stage.isRunning then return (stage, true)
  if stage.limitReached 0 limit then return (stage.stop, false)
  IO.sleep (UInt32.ofNat (min stage.frameStep (UInt32.size - 1)))
  let stage := stage.setClock ((← IO.monoMsNow) - origin)
  runLive origin limit stage.pump

def perform : Plan → IO Output
  | .finish output => return output
  | .live stage limit quiet complaints => do
    let origin ← IO.monoMsNow
    let (final, completed) ← runLive origin limit stage.start
    return liveOutput quiet complaints final
      ⟨final.stats.ticks, final.stats.swaps, final.clock, completed⟩

def finish (output : Output) : IO UInt32 := do
  IO.eprint (Text.unlines output.complaints)
  IO.print (Text.unlines output.lines)
  return UInt32.ofNat output.status

end SpriteStage.Command

open SpriteStage.Command in
def main (arguments : List String) : IO UInt32 := do
  match Request.read arguments with
  | .error stop => finish stop.output
  | .ok request => finish (← perform (request.plan (← nodeAt request)))
