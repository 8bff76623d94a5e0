import SpriteStage.Proofs.Pumping
/-!
The end of a pump. Its loop fires what is due until nothing is. Before the end of time each firing
leaves one activation less to come, so the loop ends after at most as many firings as were pending,
and after exactly as many if the run outlives it. What is left then is a stage at rest, or one whose
tasks both wait for an instant that is still to come.
-/

namespace SpriteStage.Stage

variable {horizon : Nat} {s t u : Stage} {a : Activation} {as bs : List Activation}

/-- The loop of a pump, whatever number of firings it takes, ends in a stage. -/
def Drains (s t : Stage) : Prop := ∃ as, Fires s.clock s as t ∧ t.due? s.clock = none

theorem Drains.unique (h : s.Drains t) (h' : s.Drains u) : t = u := by
  obtain ⟨as, hfires, hend⟩ := h
  obtain ⟨bs, hfires', hend'⟩ := h'
  exact (hfires.unique hend hfires' hend').2

theorem drains_pump (early : s.clock < Instant.last) : s.Drains s.pump := by
  obtain ⟨as, hfires⟩ := pump_fires s
  exact ⟨as, hfires, due?_pump early⟩

theorem Fires.of_idle (h : Fires horizon s as t) (idle : s.isRunning = false) :
    as = [] ∧ t = s := by
  cases h with
  | stay => exact ⟨rfl, rfl⟩
  | step hdue _ =>
    rw [due?_of_idle idle] at hdue
    cases hdue

theorem Fires.exists_append (h : Fires horizon s as t) (h' : Fires horizon s bs u)
    (hend : u.due? horizon = none) : ∃ cs, bs = as ++ cs ∧ Fires horizon t cs u := by
  induction h generalizing bs with
  | stay s => exact ⟨bs, rfl, h'⟩
  | step hdue hrest ih =>
    cases h' with
    | stay => exact absurd (hdue.symm.trans hend) (by simp)
    | step hdue' hrest' =>
      obtain ⟨rfl, rfl⟩ := Prod.mk.inj (Option.some.inj (hdue.symm.trans hdue'))
      obtain ⟨cs, rfl, hcs⟩ := ih hrest'
      exact ⟨cs, rfl, hcs⟩

theorem Fires.length_add_pending_le (early : horizon < Instant.last) (h : Fires horizon s as t) :
    as.length + t.schedule.pending horizon ≤ s.schedule.pending horizon := by
  induction h with
  | stay s => simp
  | step hdue _ ih =>
    have hless := pending_fire_due early hdue
    rw [List.length_cons]
    omega

theorem Fires.length_add_pending (early : horizon < Instant.last) (h : Fires horizon s as t)
    (running : t.isRunning = true) :
    as.length + t.schedule.pending horizon = s.schedule.pending horizon := by
  induction h with
  | stay s => simp
  | @step s armed t a as hdue hrest ih =>
    obtain ⟨rest, hnext, rfl⟩ := due?_eq_some.1 hdue
    have hone := Schedule.pending_next? early hnext
    have hlater := ih running
    rcases schedule_fire { s with schedule := rest } a with hkept | hstopped
    · rw [hkept] at hlater
      simp only at hlater
      rw [List.length_cons]
      omega
    · have hidle : (fire { s with schedule := rest } a).isRunning = false := by
        rw [isRunning, hstopped, Schedule.isRunning_stop]
      obtain ⟨-, rfl⟩ := hrest.of_idle hidle
      rw [hidle] at running
      cases running

theorem due?_eq_none_iff :
    s.due? horizon = none ↔ s.isRunning = false ∨
      ∃ timers, s.schedule.timers = some timers ∧ horizon < timers.tick.due ∧
        horizon < timers.frame.due := by
  rw [due?_eq_none, Schedule.next?_eq_none]
  simp only [Timers.instant_next, Nat.lt_min]
  cases h : s.schedule.timers with
  | none => simp [isRunning, Schedule.isRunning, h]
  | some timers => simp [isRunning, Schedule.isRunning, h]

/-- Before the end of time the loop of a pump ends: it fires no more than was pending, however far it
has come it goes on to the stage that the pump yields, and there the run is over or both tasks wait
for an instant after the clock. If the run is not over, it has fired exactly what was pending. -/
theorem pump_drains (s : Stage) (early : s.clock < Instant.last) :
    (∃ as, Fires s.clock s as s.pump ∧
        (s.pump.isRunning = true → as.length = s.schedule.pending s.clock)) ∧
      (∀ as t, Fires s.clock s as t →
        as.length ≤ s.schedule.pending s.clock ∧ ∃ bs, Fires s.clock t bs s.pump) ∧
      (s.pump.isRunning = false ∨
        ∃ timers, s.pump.schedule.timers = some timers ∧ s.clock < timers.tick.due ∧
          s.clock < timers.frame.due) := by
  obtain ⟨bs, hpump, hend⟩ := drains_pump early
  refine ⟨⟨bs, hpump, fun running => ?_⟩, fun as t hfires => ⟨?_, ?_⟩, due?_eq_none_iff.1 hend⟩
  · have hcount := hpump.length_add_pending early running
    rcases due?_eq_none_iff.1 hend with hidle | ⟨timers, htimers, htick, hframe⟩
    · rw [running] at hidle
      cases hidle
    · have hnothing : s.pump.schedule.pending s.clock = 0 := by
        simp [Schedule.pending, htimers, Timers.pending, Periodic.pending_eq_zero, htick, hframe]
      omega
  · have hcount := hfires.length_add_pending_le early
    omega
  · obtain ⟨cs, -, hrest⟩ := hfires.exists_append hpump hend
    exact ⟨cs, hrest⟩

theorem pump_drains_every_instant :
    let s := (overlapping { tickInterval := 0, frameInterval := 0, collisionCooldown := 0 }).setClock 3
    s.clock < Instant.last ∧ s.pump.isRunning = true ∧
      (∃ as, Fires s.clock s as s.pump ∧ as.length = 6) ∧
      ∃ timers, s.pump.schedule.timers = some timers ∧ 3 < timers.tick.due ∧
        3 < timers.frame.due := by
  intro s
  have early : s.clock < Instant.last := by decide
  have running : s.pump.isRunning = true := by decide
  obtain ⟨⟨as, hfires, hcount⟩, -, hwaiting⟩ := pump_drains s early
  have hsix : s.schedule.pending s.clock = 6 := by decide
  refine ⟨early, running, ⟨as, hfires, (hcount running).trans hsix⟩, ?_⟩
  exact hwaiting.resolve_left (by simp [running])

end SpriteStage.Stage
