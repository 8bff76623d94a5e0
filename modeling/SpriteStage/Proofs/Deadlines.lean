import SpriteStage.Proofs.Reachable
import SpriteStage.Proofs.Ticking
/-!
What lasts of a schedule. A stage does three things with its schedule: it starts it, it stops it, and
it takes the next activation off it. So what these three keep is kept by all that is done with a
stage, and if it holds of every schedule at rest, it holds of the schedule of every stage. In this way
no task of a stage is ever due after the end of time, and the tasks of a run have the intervals that
the stage was made with.
-/

namespace SpriteStage

namespace Stage

theorem schedule_populated (clock : Nat) (config : Config) (sprites : List Sprite) (ids : IdSupply) :
    (populated clock config sprites ids).schedule =
      ⟨config.tickInterval, config.frameInterval, none⟩ := by
  cases sprites with
  | nil => rfl
  | cons first rest => rfl

theorem config_populated (clock : Nat) (config : Config) (sprites : List Sprite) (ids : IdSupply) :
    (populated clock config sprites ids).config = config := by
  cases sprites with
  | nil => rfl
  | cons first rest => rfl

end Stage

structure Schedule.Kept (Q : Schedule → Prop) : Prop where
  start : ∀ (s : Schedule) (now : Nat), Q s → Q (s.start now)
  stop : ∀ s : Schedule, Q s → Q s.stop
  next? : ∀ {s : Schedule} {horizon : Nat} {a : Activation} {later : Schedule},
    s.next? horizon = some (a, later) → Q s → Q later

namespace Schedule.Kept

variable {Q : Schedule → Prop} {s t : Stage} {horizon : Nat} {a : Activation} {as : List Activation}

theorem fire (kept : Kept Q) (h : Q s.schedule) (a : Activation) : Q (s.fire a).schedule := by
  rcases Stage.schedule_fire s a with hsame | hstopped
  · rw [hsame]
    exact h
  · rw [hstopped]
    exact kept.stop _ h

theorem fires (kept : Kept Q) (h : Q s.schedule) (hfires : Stage.Fires horizon s as t) :
    Q t.schedule := by
  induction hfires with
  | stay s => exact h
  | step hdue _ ih =>
    obtain ⟨rest, hnext, rfl⟩ := Stage.due?_eq_some.1 hdue
    exact ih (kept.fire (kept.next? hnext h) _)

theorem pump (kept : Kept Q) (h : Q s.schedule) : Q s.pump.schedule := by
  obtain ⟨as, hfires⟩ := Stage.pump_fires s
  exact kept.fires h hfires

theorem stageStart (kept : Kept Q) (h : Q s.schedule) : Q s.start.schedule := by
  unfold Stage.start
  split
  · exact h
  · exact kept.start _ _ h

theorem drive (kept : Kept Q) (started limit count : Nat) (h : Q s.schedule) :
    Q (Stage.drive started limit count s).1.schedule := by
  induction count generalizing s with
  | zero => exact h
  | succ count ih =>
    rw [Stage.drive]
    split
    · exact h
    · split
      · exact kept.stop _ h
      · have hlater : Q (s.advanceClock s.frameStep).schedule := h
        exact ih (kept.pump hlater)

theorem apply (kept : Kept Q) (h : Q s.schedule) (operation : Operation) :
    Q (operation.apply s).schedule := by
  cases operation with
  | createSprite => exact h
  | select id =>
    simp only [Operation.apply, Stage.select]
    split
    · exact h
    · exact h
  | moveSprite id x y => exact h
  | takeBlockId => exact h
  | edit e =>
    simp only [Operation.apply, Stage.editSelected]
    split
    · exact h
    · exact h
  | start => exact kept.stageStart h
  | stop => exact kept.stop _ h
  | reset => exact kept.stop _ h
  | pump => exact kept.pump h
  | expireBubbles =>
    rw [Operation.apply, Stage.expireBubbles, Stage.schedule_expireAt]
    exact h
  | setClock now => exact h
  | advanceClock d => exact h
  | runUntilIdle limit =>
    exact kept.drive s.clock limit (s.frameBound limit) (kept.stageStart h)

theorem reachable (kept : Kept Q) (rest : ∀ s : Schedule, s.timers = none → Q s)
    (h : s.Reachable) : Q s.schedule := by
  induction h with
  | new clock config => exact rest _ rfl
  | loaded clock config file entries =>
    rw [Stage.schedule_populated]
    exact rest _ rfl
  | apply operation _ ih => exact kept.apply ih operation

end Schedule.Kept

namespace Timers

theorem intervals_next (t : Timers) :
    t.next.2.tick.interval = t.tick.interval ∧ t.next.2.frame.interval = t.frame.interval := by
  rcases Nat.lt_or_ge t.frame.due t.tick.due with hfirst | hfirst
  · rw [next_of_frame hfirst]
    exact ⟨rfl, rfl⟩
  · rw [next_of_tick hfirst]
    exact ⟨rfl, rfl⟩

end Timers

namespace Schedule

def Timely (s : Schedule) : Prop :=
  ∀ t ∈ s.timers, t.tick.due ≤ Instant.last ∧ t.frame.due ≤ Instant.last

theorem kept_timely : Kept Timely where
  start s now h := by
    unfold start
    split
    · exact h
    · rintro t ⟨⟩
      exact ⟨Instant.after_le_last _ _, Instant.after_le_last _ _⟩
  stop _ _ _ ht := by cases ht
  next? := by
    intro s horizon a later hnext h
    obtain ⟨timers, htimers, -, -, rfl⟩ := next?_eq_some.1 hnext
    obtain ⟨htick, hframe⟩ := h timers htimers
    rintro t ⟨⟩
    rcases Nat.lt_or_ge timers.frame.due timers.tick.due with hfirst | hfirst
    · rw [Timers.next_of_frame hfirst]
      exact ⟨htick, Instant.after_le_last _ _⟩
    · rw [Timers.next_of_tick hfirst]
      exact ⟨Instant.after_le_last _ _, hframe⟩

structure Geared (c : Config) (s : Schedule) : Prop where
  tickInterval : s.tickInterval = c.tickInterval
  frameInterval : s.frameInterval = c.frameInterval
  timers : ∀ t ∈ s.timers, t.tick.interval = max c.tickInterval 1 ∧
    t.frame.interval = max c.frameInterval 1

theorem kept_geared (c : Config) : Kept (Geared c) where
  start s now h := by
    unfold start
    split
    · exact h
    · refine ⟨h.tickInterval, h.frameInterval, ?_⟩
      rintro t ⟨⟩
      rw [← h.tickInterval, ← h.frameInterval]
      exact ⟨rfl, rfl⟩
  stop s h := ⟨h.tickInterval, h.frameInterval, by rintro t ⟨⟩⟩
  next? := by
    intro s horizon a later hnext h
    obtain ⟨timers, htimers, -, -, rfl⟩ := next?_eq_some.1 hnext
    refine ⟨h.tickInterval, h.frameInterval, ?_⟩
    rintro t ⟨⟩
    rw [timers.intervals_next.1, timers.intervals_next.2]
    exact h.timers timers htimers

end Schedule

namespace Stage

variable {s : Stage}

theorem Reachable.timely (h : s.Reachable) : s.schedule.Timely := by
  refine Schedule.kept_timely.reachable (fun s hrest t ht => ?_) h
  rw [hrest] at ht
  cases ht

theorem steady_config : Steady fun s t => t.config = s.config where
  refl _ := rfl
  trans h h' := h'.trans h
  retimed _ _ _ := rfl
  tickWork := config_tickWork
  expireAt s now := by rw [expireAt_eq]

theorem config_start (s : Stage) : s.start.config = s.config := by
  unfold start
  split <;> rfl

theorem config_apply (s : Stage) (operation : Operation) :
    (operation.apply s).config = s.config := by
  cases operation with
  | select id =>
    simp only [Operation.apply, select]
    split <;> rfl
  | edit e =>
    simp only [Operation.apply, editSelected]
    split <;> rfl
  | start => exact s.config_start
  | pump => exact steady_config.pump s
  | expireBubbles => exact steady_config.expireAt s s.clock
  | runUntilIdle limit =>
    have hdriven := steady_config.drive s.clock limit (s.frameBound limit) s.start
    exact hdriven.trans s.config_start
  | _ => rfl

theorem Reachable.geared (h : s.Reachable) : s.schedule.Geared s.config := by
  induction h with
  | new clock config => exact ⟨rfl, rfl, by rintro t ⟨⟩⟩
  | loaded clock config file entries =>
    rw [schedule_populated, config_populated]
    exact ⟨rfl, rfl, by rintro t ⟨⟩⟩
  | @apply s operation _ ih =>
    rw [config_apply]
    exact (Schedule.kept_geared s.config).apply ih operation

end Stage

end SpriteStage
