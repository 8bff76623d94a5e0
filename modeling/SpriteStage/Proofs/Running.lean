import SpriteStage.Proofs.Pumping
/-!
What lasts over a run. A run changes a stage by the work of its ticks and by the expiry of bubbles in
its frames; all else that happens in it is done to the clock and to the schedule. So a relation that
these two changes keep, and that does not look at the clock or the schedule, holds between the stage
before a run of any length and the stage after it.
-/

namespace SpriteStage.Stage

/-- A relation of a stage to a later one that holds over each change in a run. -/
structure Steady (R : Stage → Stage → Prop) : Prop where
  refl : ∀ s, R s s
  trans : ∀ {s t u}, R s t → R t u → R s u
  retimed : ∀ s clock schedule, R s { s with clock := clock, schedule := schedule }
  tickWork : ∀ s now, R s (s.tickWork now)
  expireAt : ∀ s now, R s (s.expireAt now)

namespace Steady

variable {R : Stage → Stage → Prop} {s t armed : Stage} {horizon : Nat} {a : Activation}
  {as : List Activation}

theorem stop (steady : Steady R) (s : Stage) : R s s.stop := steady.retimed s s.clock s.schedule.stop

theorem due? (steady : Steady R) (hdue : s.due? horizon = some (a, armed)) : R s armed := by
  obtain ⟨rest, -, rfl⟩ := due?_eq_some.1 hdue
  exact steady.retimed s s.clock rest

theorem fire (steady : Steady R) (s : Stage) (a : Activation) : R s (s.fire a) := by
  cases a with
  | tick now =>
    have hworked := steady.tickWork s now
    simp only [Stage.fire, tick]
    split
    · exact steady.trans hworked (steady.stop _)
    · exact hworked
  | frame now =>
    have hshown := steady.expireAt s now
    simp only [Stage.fire, frame]
    split
    · exact steady.trans hshown (steady.stop _)
    · exact hshown

theorem fires (steady : Steady R) (hfires : Fires horizon s as t) : R s t := by
  induction hfires with
  | stay s => exact steady.refl s
  | @step s armed t a as hdue _ ih =>
    exact steady.trans (steady.due? hdue) (steady.trans (steady.fire armed a) ih)

theorem pump (steady : Steady R) (s : Stage) : R s s.pump := by
  obtain ⟨as, hfires⟩ := pump_fires s
  exact steady.fires hfires

theorem drive (steady : Steady R) (started limit count : Nat) (s : Stage) :
    R s (Stage.drive started limit count s).1 := by
  induction count generalizing s with
  | zero => exact steady.refl s
  | succ count ih =>
    rw [Stage.drive]
    split
    · exact steady.refl s
    · split
      · exact steady.stop s
      · have hlater : R s (s.advanceClock s.frameStep) := steady.retimed s _ s.schedule
        exact steady.trans hlater (steady.trans (steady.pump _) (ih _))

end Steady

end SpriteStage.Stage
