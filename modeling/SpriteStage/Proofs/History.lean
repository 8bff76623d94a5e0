import SpriteStage.Proofs.Pumping
/-!
The history of a stage: all that is fired in its life, in the order in which it happens, whether a
pump or a run without anybody watching brings it about. Each firing is recorded with the stage it
finds, from whose schedule the activation is taken already. The history that the operations write
is the one that their logs tell of.

A relation between a stage, what is fired from it and the stage after that need only be shown for one
firing, for no firing, and for one history after another: then it holds over pumps and runs of any
length.
-/

namespace SpriteStage

structure Firing where
  stage : Stage
  activation : Activation

namespace Firing

def instant (f : Firing) : Nat := f.activation.instant

def after (f : Firing) : Stage := f.stage.fire f.activation

def log (f : Firing) : List Entry := f.stage.fireLog f.activation

end Firing

namespace Stage

def drainFirings (horizon : Nat) : Nat → Stage → List Firing
  | 0, _ => []
  | count + 1, s =>
    match s.due? horizon with
    | some (a, armed) => ⟨armed, a⟩ :: drainFirings horizon count (armed.fire a)
    | none => []

def pumpFirings (s : Stage) : List Firing := drainFirings s.clock s.pumpBound s

def driveFirings (started limit : Nat) : Nat → Stage → List Firing
  | 0, _ => []
  | count + 1, s =>
    if !s.isRunning then []
    else if s.limitReached started limit then []
    else
      let later := s.advanceClock s.frameStep
      later.pumpFirings ++ driveFirings started limit count later.pump

def runFirings (s : Stage) (limit : Nat) : List Firing :=
  driveFirings s.clock limit (s.frameBound limit) s.start

theorem drainLog_toList (horizon count : Nat) (s : Stage) (log : Array Entry) :
    (drainLog horizon count s log).toList =
      log.toList ++ (drainFirings horizon count s).flatMap Firing.log := by
  induction count generalizing s log with
  | zero => simp [drainLog, drainFirings]
  | succ count ih =>
    rw [drainLog, drainFirings]
    cases hdue : s.due? horizon with
    | none => simp
    | some found =>
      obtain ⟨a, armed⟩ := found
      simp [ih, Firing.log]

theorem pumpLog_eq_flatMap (s : Stage) : s.pumpLog = s.pumpFirings.flatMap Firing.log := by
  simp [pumpLog, pumpFirings, drainLog_toList]

end Stage

namespace Operation

def firings : Operation → Stage → List Firing
  | pump, s => s.pumpFirings
  | runUntilIdle limit, s => s.runFirings limit
  | _, _ => []

def history : List Operation → Stage → List Firing
  | [], _ => []
  | operation :: operations, s => operation.firings s ++ history operations (operation.apply s)

def begins : Operation → Bool
  | start | runUntilIdle _ => true
  | _ => false

/-- The firings of the latest run once an operation is done. If the operation begins a run, those of
the run before are not among them. -/
def continueRun (fs : List Firing) (operation : Operation) (s : Stage) : List Firing :=
  let earlier := if operation.begins && !s.isRunning then [] else fs
  earlier ++ operation.firings s

def latestRun (fs : List Firing) : List Operation → Stage → List Firing
  | [], _ => fs
  | operation :: operations, s =>
    latestRun (continueRun fs operation s) operations (operation.apply s)

end Operation

namespace Stage

/-- A relation between a stage, what is fired from it and the stage after that which holds over every
history, given that it holds over each firing of an activation that is due. -/
structure Followed (R : Stage → List Firing → Stage → Prop) : Prop where
  setClock : ∀ s now, R s [] (s.setClock now)
  stop : ∀ s, R s [] s.stop
  fire : ∀ {horizon s a armed}, s.due? horizon = some (a, armed) → R s [⟨armed, a⟩] (armed.fire a)
  append : ∀ {s t u fs gs}, R s fs t → R t gs u → R s (fs ++ gs) u

namespace Followed

variable {R : Stage → List Firing → Stage → Prop}

theorem refl (followed : Followed R) (s : Stage) : R s [] s := followed.setClock s s.clock

theorem drain (followed : Followed R) (horizon count : Nat) (s : Stage) :
    R s (drainFirings horizon count s) (Stage.drain horizon count s) := by
  induction count generalizing s with
  | zero => exact followed.refl s
  | succ count ih =>
    rw [drainFirings, Stage.drain]
    cases hdue : s.due? horizon with
    | none => exact followed.refl s
    | some found => exact followed.append (followed.fire hdue) (ih _)

theorem pump (followed : Followed R) (s : Stage) : R s s.pumpFirings s.pump := followed.drain _ _ s

theorem drive (followed : Followed R) (started limit count : Nat) (s : Stage) :
    R s (driveFirings started limit count s) (Stage.drive started limit count s).1 := by
  induction count generalizing s with
  | zero => exact followed.refl s
  | succ count ih =>
    rw [driveFirings, Stage.drive]
    split
    · exact followed.refl s
    · split
      · exact followed.stop s
      · have hlater : R s [] (s.advanceClock s.frameStep) := followed.setClock s _
        exact followed.append (followed.append hlater (followed.pump _)) (ih _)

end Followed

/-- A relation that holds over a history if it holds over each of its firings, whatever the clock and
the schedule are. -/
structure Traced (R : Stage → List Firing → Stage → Prop) : Prop where
  retimed : ∀ s clock schedule, R s [] { s with clock := clock, schedule := schedule }
  fire : ∀ s a, R s [⟨s, a⟩] (s.fire a)
  append : ∀ {s t u fs gs}, R s fs t → R t gs u → R s (fs ++ gs) u

theorem Traced.followed {R : Stage → List Firing → Stage → Prop} (traced : Traced R) :
    Followed R where
  setClock s now := traced.retimed s now s.schedule
  stop s := traced.retimed s s.clock s.schedule.stop
  fire := by
    intro horizon s a armed hdue
    obtain ⟨rest, -, rfl⟩ := due?_eq_some.1 hdue
    exact traced.append (traced.retimed s s.clock rest) (traced.fire _ a)
  append := traced.append

end Stage

end SpriteStage
