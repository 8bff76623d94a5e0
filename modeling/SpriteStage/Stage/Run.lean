import SpriteStage.Sprite.Bubble
import SpriteStage.Stage.Basic
/-!
The run of a stage. Starting rewinds every sprite and arms the schedule; pumping fires, in order,
every activation due by the clock. A tick steps all sprites and then lets one pair swap; a frame
clears expired bubbles. The run ends by itself at a tick that found every sprite idle when it began,
or at a frame that finds them idle.

Each operation comes with the log it writes; both are functions of the stage before it.
-/

namespace SpriteStage.Stage

def allIdle (s : Stage) : Bool := s.sprites.all Sprite.isIdle

/-- Begins a run: every sprite is rewound, the counters are cleared and the schedule is armed. While
a run is going on nothing happens. -/
def start (s : Stage) : Stage :=
  if s.isRunning then s
  else
    { s with
      sprites := s.sprites.map Sprite.rewound
      stats := {}
      schedule := s.schedule.start s.clock }

def startLog (s : Stage) : List Entry :=
  if s.isRunning then [.event .alreadyRunning]
  else [.event (.runStarted s.clock s.sprites.length)]

def stop (s : Stage) : Stage := { s with schedule := s.schedule.stop }

def stopLog (s : Stage) : List Entry :=
  if s.isRunning then [.event (.runStopped s.stats.ticks s.stats.swaps)] else []

def reset (s : Stage) : Stage :=
  let clear (p : Sprite) : Sprite := { p.rewound with state := p.state.withoutBubbles }
  { s.stop with sprites := s.sprites.map clear }

def resetLog (s : Stage) : List Entry := s.stopLog ++ [.event .stageReset]

def expireAt (s : Stage) (now : Nat) : Stage :=
  if s.sprites.any fun p => p.state.hasExpired now then
    { s with sprites := s.sprites.map (Sprite.expire now) }
  else s

def expireBubbles (s : Stage) : Stage := s.expireAt s.clock

def tickCheck (s : Stage) (now : Nat) : List Sprite × Detector × Option (Nat × Nat) :=
  let stepped := s.sprites.map (Sprite.step now)
  let (pair, detector) := s.detector.check s.config now stepped
  (stepped, detector, pair)

def tickWork (s : Stage) (now : Nat) : Stage :=
  match s.tickCheck now with
  | (stepped, detector, some (a, b)) =>
    { s with
      sprites := swapPrograms s.config now a b stepped
      detector := detector
      stats := ⟨s.stats.ticks + 1, s.stats.swaps + 1⟩ }
  | (stepped, detector, none) =>
    { s with
      sprites := stepped
      detector := detector
      stats := { s.stats with ticks := s.stats.ticks + 1 } }

/-- A tick: it does its work, and ends the run if every sprite was idle before. -/
def tick (s : Stage) (now : Nat) : Stage :=
  let worked := s.tickWork now
  if s.allIdle then worked.stop else worked

def tickLog (s : Stage) (now : Nat) : List Entry :=
  let (stepped, _, pair) := s.tickCheck now
  let worked := s.tickWork now
  let swap := match pair with
    | some (a, b) => swapLog a b stepped
    | none => []
  s.sprites.flatMap Sprite.stepLog ++ swap ++ [.event (.ticked now worked.stats.ticks)]
    ++ if s.allIdle then worked.stopLog else []

/-- A frame: it clears expired bubbles, and ends the run if every sprite is idle. -/
def frame (s : Stage) (now : Nat) : Stage :=
  let shown := s.expireAt now
  if shown.allIdle then shown.stop else shown

def frameLog (s : Stage) (now : Nat) : List Entry :=
  let shown := s.expireAt now
  if shown.allIdle then .event (.allFinished now) :: shown.stopLog else []

def fire (s : Stage) : Activation → Stage
  | .tick now => s.tick now
  | .frame now => s.frame now

def fireLog (s : Stage) : Activation → List Entry
  | .tick now => s.tickLog now
  | .frame now => s.frameLog now

def due? (s : Stage) (horizon : Nat) : Option (Activation × Stage) :=
  (s.schedule.next? horizon).map fun (activation, rest) => (activation, { s with schedule := rest })

def drain (horizon : Nat) : Nat → Stage → Stage
  | 0, s => s
  | count + 1, s =>
    match s.due? horizon with
    | some (activation, rest) => drain horizon count (rest.fire activation)
    | none => s

def drainLog (horizon : Nat) : Nat → Stage → Array Entry → Array Entry
  | 0, _, log => log
  | count + 1, s, log =>
    match s.due? horizon with
    | some (activation, rest) =>
      drainLog horizon count (rest.fire activation) (log ++ rest.fireLog activation)
    | none => log

/-- How many activations a pump may fire. Before the end of time that is the number of those due.
At the end of time the ticks do not move on any more, and only the sprites end the run: no bound is
known for them, so the number is one that no run reaches. -/
def pumpBound (s : Stage) : Nat :=
  s.schedule.pending s.clock + if s.clock < Instant.last then 0 else Instant.last

def pump (s : Stage) : Stage := drain s.clock s.pumpBound s

def pumpLog (s : Stage) : List Entry := (drainLog s.clock s.pumpBound s #[]).toList

end SpriteStage.Stage
