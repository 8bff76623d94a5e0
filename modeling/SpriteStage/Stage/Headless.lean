import SpriteStage.Stage.Run
/-!
Running a stage without anybody watching: time goes on by one frame interval after another until the
run ends by itself or has lasted for its limit.
-/

namespace SpriteStage

structure RunSummary where
  ticks : Nat
  swaps : Nat
  elapsed : Nat
  completed : Bool
deriving DecidableEq

namespace Stage

def frameStep (s : Stage) : Nat := max s.config.frameInterval 1

def limitReached (s : Stage) (started limit : Nat) : Bool := limit ≤ s.clock - started

def drive (started limit : Nat) : Nat → Stage → Stage × Bool
  | 0, s => (s, !s.isRunning)
  | count + 1, s =>
    if !s.isRunning then (s, true)
    else if s.limitReached started limit then (s.stop, false)
    else drive started limit count (s.advanceClock s.frameStep).pump

def driveLog (started limit : Nat) : Nat → Stage → Array Entry → Array Entry
  | 0, _, log => log
  | count + 1, s, log =>
    if !s.isRunning then log
    else if s.limitReached started limit then
      log ++ (.event (.limitReached limit) :: s.stopLog)
    else
      let later := s.advanceClock s.frameStep
      driveLog started limit count later.pump (log ++ later.pumpLog)

/-- How many frames a run can take before its limit, or the end of time, stops it. -/
def frameBound (s : Stage) (limit : Nat) : Nat := limit / s.frameStep + 2

def runUntilIdle (s : Stage) (limit : Nat) : Stage × RunSummary :=
  let (final, completed) := drive s.clock limit (s.frameBound limit) s.start
  (final,
    { ticks := final.stats.ticks
      swaps := final.stats.swaps
      elapsed := final.clock - s.clock
      completed := completed })

def runUntilIdleLog (s : Stage) (limit : Nat) : List Entry :=
  (driveLog s.clock limit (s.frameBound limit) s.start s.startLog.toArray).toList

end Stage

end SpriteStage
