import SpriteStage.Time
/-!
The schedule of a run: a tick task and a frame task, each firing at a fixed interval from the start
on. Firings come in order of their instants, a tick before a frame at the same instant, and carry the
instant they were due at, however late they are asked for.
-/

namespace SpriteStage

structure Periodic where
  interval : Nat
  due : Nat
  interval_pos : 0 < interval

namespace Periodic

/-- A task that first fires one interval after `now`; an interval of 0 counts as 1. -/
def startingAt (now interval : Nat) : Periodic where
  interval := max interval 1
  due := Instant.after now (max interval 1)
  interval_pos := by omega

def fired (p : Periodic) : Periodic := { p with due := Instant.after p.due p.interval }

def pending (p : Periodic) (horizon : Nat) : Nat :=
  if p.due ≤ horizon then (horizon - p.due) / p.interval + 1 else 0

end Periodic

inductive Activation where
  | tick (instant : Nat)
  | frame (instant : Nat)
deriving DecidableEq

def Activation.instant : Activation → Nat
  | tick t | frame t => t

structure Timers where
  tick : Periodic
  frame : Periodic

namespace Timers

def next (t : Timers) : Activation × Timers :=
  if t.frame.due < t.tick.due then (.frame t.frame.due, { t with frame := t.frame.fired })
  else (.tick t.tick.due, { t with tick := t.tick.fired })

def pending (t : Timers) (horizon : Nat) : Nat := t.tick.pending horizon + t.frame.pending horizon

end Timers

structure Schedule where
  tickInterval : Nat
  frameInterval : Nat
  timers : Option Timers := none

namespace Schedule

def isRunning (s : Schedule) : Bool := s.timers.isSome

def start (s : Schedule) (now : Nat) : Schedule :=
  if s.isRunning then s
  else
    let timers : Timers := ⟨.startingAt now s.tickInterval, .startingAt now s.frameInterval⟩
    { s with timers := some timers }

def stop (s : Schedule) : Schedule := { s with timers := none }

def next? (s : Schedule) (horizon : Nat) : Option (Activation × Schedule) :=
  match s.timers with
  | none => none
  | some timers =>
    let (activation, rest) := timers.next
    if activation.instant ≤ horizon then some (activation, { s with timers := some rest }) else none

def pending (s : Schedule) (horizon : Nat) : Nat :=
  match s.timers with
  | none => 0
  | some timers => timers.pending horizon

end Schedule

end SpriteStage
