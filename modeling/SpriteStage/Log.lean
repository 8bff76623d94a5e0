import SpriteStage.Block.Text
import SpriteStage.Text.Lines
/-!
The log: what a stage reports while it works, as values. An event belongs to one of three levels. The
run of a block is one entry of the log, whatever number of events it stands for: the events follow
from the block alone, so they are only listed when somebody reads the log.
-/

namespace SpriteStage

inductive Level where
  | info
  | debug
  | trace
deriving DecidableEq

namespace Level

def name : Level → String
  | info => "INFO"
  | debug => "DEBUG"
  | trace => "TRACE"

def detail : Level → Nat
  | info => 0
  | debug => 1
  | trace => 2

def shows (reader event : Level) : Bool := event.detail ≤ reader.detail

end Level

inductive Event where
  | executing (block : Block)
  | nestedTooDeep (block : BlockId) (depth : Nat)
  | unknownBlock (block : BlockId) (name : String)
  | programFinished (sprite : SpriteId)
  | replaceMissed (block : BlockId)
  | deleteMissed (block : BlockId)
  | updateMissed (loop block : BlockId)
  | removeMissed (loop block : BlockId)
  | reorderMissed (source length : Nat)
  | loopMissed (loop : BlockId) (edit : String)
  | swapped (first second : SpriteId)
  | ticked (instant tick : Nat)
  | allFinished (instant : Nat)
  | runStarted (instant sprites : Nat)
  | runStopped (ticks swaps : Nat)
  | stageReset
  | limitReached (limit : Nat)
  | spriteCreated (sprite : SpriteId) (name : String)
  | selectMissed (sprite : SpriteId)
  | moveMissed (sprite : SpriteId)
  | alreadyRunning
  | selectionGone (sprite : SpriteId)

namespace Event

def level : Event → Level
  | executing _ => .trace
  | runStarted .. | runStopped .. | stageReset | limitReached _ => .info
  | _ => .debug

def message : Event → String
  | executing b => s!"execute block={b.id.text} kind={b.kindText}"
  | nestedTooDeep b depth => s!"repeat nesting too deep, skipping block={b.text} depth={depth}"
  | unknownBlock b name => s!"unknown block type, skipping block={b.text} name={name}"
  | programFinished s => s!"program finished sprite={s.text}"
  | replaceMissed b => s!"replace: no such block block={b.text}"
  | deleteMissed b => s!"delete: no such top-level block block={b.text}"
  | updateMissed loop b => s!"update_in_repeat: no such child repeat={loop.text} block={b.text}"
  | removeMissed loop b => s!"delete_from_repeat: no such child repeat={loop.text} block={b.text}"
  | reorderMissed source length =>
    s!"reorder: source index out of range from={source} len={length}"
  | loopMissed loop edit =>
    s!"no repeat block with that id repeat={loop.text} op={Text.quote edit}"
  | swapped a b => s!"collision, swapping programs a={a.text} b={b.text}"
  | ticked instant tick => s!"tick at={instant} tick={tick}"
  | allFinished instant => s!"all sprites finished at={instant}"
  | runStarted instant sprites => s!"run started at={instant} sprites={sprites}"
  | runStopped ticks swaps => s!"run stopped ticks={ticks} swaps={swaps}"
  | stageReset => "stage reset"
  | limitReached limit => s!"time limit reached, stopping limit={limit}"
  | spriteCreated s name => s!"sprite created sprite={s.text} name={name}"
  | selectMissed s => s!"select: no such sprite sprite={s.text}"
  | moveMissed s => s!"move: no such sprite sprite={s.text}"
  | alreadyRunning => "start: already running"
  | selectionGone s => s!"edit: selected sprite is gone sprite={s.text}"

def lines (e : Event) : List String :=
  (Text.lines (Text.unlines [s!"{e.level.name} {e.message}"])).map Text.unindented

end Event

def maxNesting : Nat := 256

namespace Block

mutual

/-- What the run of a block inside `depth` loops reports. Below the deepest level that runs, a block
reports only that it is passed over, and nothing inside it is visited. -/
def events (depth : Nat) : Block → List Event
  | act id executed action =>
    if maxNesting < depth then [.nestedTooDeep id depth]
    else .executing (act id executed action) ::
      match action with
      | .unknown name => [.unknownBlock id name]
      | _ => []
  | loop id executed count body =>
    if maxNesting < depth then [.nestedTooDeep id depth]
    else .executing (loop id executed count body) ::
      match body with
      | [] => []
      | b :: bs => (List.replicate (count.getD 1) (eventsOf (depth + 1) (b :: bs))).flatten

def eventsOf (depth : Nat) : List Block → List Event
  | [] => []
  | b :: bs => b.events depth ++ eventsOf depth bs

end

end Block

inductive Entry where
  | event (event : Event)
  | run (block : Block)

def Entry.events : Entry → List Event
  | event e => [e]
  | run b => b.events 0

def visibleLines (reader : Level) (log : List Entry) : List String :=
  ((log.flatMap Entry.events).filter fun e => reader.shows e.level).flatMap Event.lines

end SpriteStage
