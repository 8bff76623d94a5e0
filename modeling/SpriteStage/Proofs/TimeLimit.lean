import Mathlib.Algebra.Order.Floor.Div
import SpriteStage.Proofs.Ending
import SpriteStage.Proofs.Timetable
/-!
What a run until idle reports. The clock moves by whole frames, and the limit is looked at before each
of them. So a run that is cut off has lasted for the first whole number of frames that is not below the
limit, and it has had all ticks that the timetable has up to then, whoever has swapped with whom; a run
that ends by itself has lasted for a whole number of frames too, and the one before the last was within
the limit.
-/

namespace SpriteStage

namespace Tally

variable {start tickStep frameStep n now : Nat}

theorem next_instant_le (c : Tally) : (c.next start tickStep frameStep).instant ≤
    start + (c.ticks + 1) * tickStep := by
  rw [next]
  split
  · rename_i hfirst
    simp only [frameFirst, decide_eq_true_eq] at hfirst
    exact Nat.add_le_add_left hfirst.le start
  · exact Nat.le_refl _

theorem lt_instant_next (htick : 0 < tickStep) (hframe : 0 < frameStep) (c : Tally) :
    start < (c.next start tickStep frameStep).instant := by
  rw [next]
  split
  · exact Nat.lt_add_of_pos_right (Nat.mul_pos (Nat.succ_pos _) hframe)
  · exact Nat.lt_add_of_pos_right (Nat.mul_pos (Nat.succ_pos _) htick)

end Tally

namespace Stage

variable {s t armed : Stage} {a : Activation} {as : List Activation}
  {start tickStep frameStep horizon spent limit n : Nat}

/-- A run after the first `n` entries of its timetable, none of them later than `spent` after the start.
Its ticks are those among them. -/
structure Ongoing (start tickStep frameStep n spent : Nat) (s : Stage) : Prop where
  stands : s.schedule.Stands start tickStep frameStep n
  ticks : s.stats.ticks = (Tally.reached tickStep frameStep n).ticks
  spent : (Tally.reached tickStep frameStep n).ticks * tickStep ≤ spent

theorem ongoing_start (geared : s.schedule.Geared s.config) (idle : s.isRunning = false) :
    s.start.Ongoing s.clock (max s.config.tickInterval 1) (max s.config.frameInterval 1) 0 0 := by
  have hstands := Schedule.stands_start idle s.clock
  rw [geared.tickInterval, geared.frameInterval] at hstands
  rw [Stage.start, if_neg (by simp [idle])]
  exact ⟨hstands, rfl, by simp [Tally.reached]⟩

theorem due?_start (idle : s.isRunning = false) (early : s.clock < Instant.last) :
    s.start.due? s.clock = none := by
  rw [due?_eq_none, Stage.start, if_neg (by simp [idle])]
  exact ((Schedule.stands_start idle s.clock).next?_eq_none early).2
    (Tally.lt_instant_next (Nat.le_max_right _ 1) (Nat.le_max_right _ 1) _)

theorem Ongoing.fire (h : s.Ongoing start tickStep frameStep n spent)
    (early : start + spent < Instant.last) (hdue : s.due? (start + spent) = some (a, armed))
    (going : (armed.fire a).isRunning = true) :
    (armed.fire a).Ongoing start tickStep frameStep (n + 1) spent := by
  obtain ⟨rest, hnext, rfl⟩ := due?_eq_some.1 hdue
  obtain ⟨hentry, hstands⟩ := h.stands.next early hnext
  obtain ⟨-, -, -, hinstant, -⟩ := Schedule.next?_eq_some.1 hnext
  have hkept : (Stage.fire { s with schedule := rest } a).schedule = rest := by
    rcases schedule_fire { s with schedule := rest } a with hsame | hstopped
    · exact hsame
    · rw [isRunning, hstopped, Schedule.isRunning_stop] at going
      cases going
  have hticks := h.ticks
  have hspent := h.spent
  rw [Tally.next] at hentry
  cases a with
  | tick now =>
    split at hentry
    · cases hentry
    · rename_i hfirst
      cases hentry
      have hreached : (Tally.reached tickStep frameStep (n + 1)).ticks =
          (Tally.reached tickStep frameStep n).ticks + 1 := by
        rw [Tally.ticks_reached_step, if_neg hfirst]
      refine ⟨?_, ?_, ?_⟩
      · rw [hkept]
        exact hstands
      · rw [Stage.fire, tick_eq, reschedule, stats_tickWork, hreached, ← hticks]
      · rw [hreached]
        exact Nat.le_of_add_le_add_left hinstant
  | frame now =>
    split at hentry
    · rename_i hfirst
      have hreached : (Tally.reached tickStep frameStep (n + 1)).ticks =
          (Tally.reached tickStep frameStep n).ticks := by
        rw [Tally.ticks_reached_step, if_pos hfirst, Nat.add_zero]
      refine ⟨?_, ?_, ?_⟩
      · rw [hkept]
        exact hstands
      · rw [Stage.fire, frame_eq, reschedule, expireAt_eq, hreached, ← hticks]
      · rw [hreached]
        exact hspent
    · cases hentry

theorem Ongoing.fires (h : s.Ongoing start tickStep frameStep n spent)
    (early : start + spent < Instant.last) (hfires : Fires (start + spent) s as t)
    (going : t.isRunning = true) : ∃ m, t.Ongoing start tickStep frameStep m spent := by
  generalize hhorizon : start + spent = horizon at *
  induction hfires generalizing n with
  | stay s => exact ⟨n, h⟩
  | @step s armed t a as hdue hrest ih =>
    cases hfired : (armed.fire a).isRunning with
    | true =>
      subst hhorizon
      exact ih (h.fire early hdue hfired) going
    | false =>
      obtain ⟨-, rfl⟩ := hrest.of_idle hfired
      rw [hfired] at going
      cases going

theorem Ongoing.ticks_eq_div (h : s.Ongoing start tickStep frameStep n spent)
    (early : start + spent < Instant.last) (hend : s.due? (start + spent) = none) :
    s.stats.ticks = spent / tickStep := by
  have hnext := (h.stands.next?_eq_none early).1 (due?_eq_none.1 hend)
  have hlater := Nat.lt_of_lt_of_le hnext (Tally.next_instant_le _)
  rw [h.ticks]
  exact (Nat.div_eq_of_lt_le h.spent (Nat.lt_of_add_lt_add_left hlater)).symm

theorem Ongoing.later {more : Nat} (h : s.Ongoing start tickStep frameStep n spent)
    (hle : spent ≤ more) (d : Nat) : (s.advanceClock d).Ongoing start tickStep frameStep n more :=
  ⟨h.stands, h.ticks, h.spent.trans hle⟩

/-! ### The run -/

theorem Ongoing.runs {j last : Nat} {completed : Bool} (hruns : Runs start limit s t completed)
    (h : s.Ongoing start tickStep frameStep n (j * frameStep)) (hframe : s.frameStep = frameStep)
    (hlast : ∀ k, last ≤ k ↔ limit ≤ k * frameStep) (hclock : s.clock = start + j * frameStep)
    (hend : s.due? (start + j * frameStep) = none) (hj : j ≤ last)
    (early : start + last * frameStep < Instant.last) :
    (completed = false → t.clock = start + last * frameStep ∧
        t.stats.ticks = last * frameStep / tickStep) ∧
      (completed = true → ∃ k, k < last ∧ t.clock = start + (k + 1) * frameStep) := by
  induction hruns generalizing n j with
  | ended idle =>
    rw [isRunning, h.stands.isRunning] at idle
    cases idle
  | @limited s _ hreached =>
    rw [limitReached, hclock, Nat.add_sub_cancel_left, decide_eq_true_eq, ← hlast] at hreached
    obtain rfl : j = last := Nat.le_antisymm hj hreached
    exact ⟨fun _ => ⟨hclock, h.ticks_eq_div early hend⟩, by simp⟩
  | @frame s t u completed _ hlimit hdrains hrest ih =>
    rw [limitReached, hclock, Nat.add_sub_cancel_left, decide_eq_false_iff_not, ← hlast,
      Nat.not_le] at hlimit
    have hround : (j + 1) * frameStep ≤ last * frameStep := Nat.mul_le_mul_right _ hlimit
    have hlater : (s.advanceClock s.frameStep).clock = start + (j + 1) * frameStep := by
      rw [Nat.succ_mul] at hround ⊢
      rw [clock_advanceClock, hclock, hframe, Instant.after_eq_add (by omega), Nat.add_assoc]
    have hearly : start + (j + 1) * frameStep < Instant.last := by omega
    have hclock' := hdrains.clock.trans hlater
    have hframe' := hdrains.frameStep.trans hframe
    obtain ⟨as, hfires, hend'⟩ := hdrains
    rw [hlater] at hfires hend'
    cases hgoing : t.isRunning with
    | true =>
      have hadvanced := h.later (Nat.mul_le_mul_right frameStep (Nat.le_succ j)) s.frameStep
      obtain ⟨m, hongoing⟩ := hadvanced.fires hearly hfires hgoing
      exact ih hongoing hframe' hclock' hend' hlimit
    | false =>
      obtain ⟨rfl, rfl⟩ := hrest.eq_of_idle hgoing
      exact ⟨by simp, fun _ => ⟨j, hlimit, hclock'⟩⟩

theorem runs_runUntilIdle (limit : Nat) (timely : s.start.schedule.Timely)
    (early : s.clock + limit + s.frameStep ≤ Instant.last) :
    Runs s.clock limit s.start (s.runUntilIdle limit).1 (s.runUntilIdle limit).2.completed := by
  have hbefore : ∀ u, Pumps s.clock limit s.start u → u.clock < Instant.last := fun u hpumps => by
    have hclock := hpumps.clock_lt
    rw [frameStep_start] at hclock
    exact hclock.trans_le early
  obtain ⟨t, completed, hruns⟩ :=
    exists_runs timely fun u hpumps hlast => absurd hlast (hbefore u hpumps).ne
  have hdrive : drive s.clock limit (s.frameBound limit) s.start = (t, completed) := by
    refine hruns.drive_eq timely (fun u hpumps => drains_pump (hbefore u hpumps)) s.clock_start.ge
      (k := limit / s.frameStep + 1) ?_ (Nat.lt_succ_self _)
    have hframes := s.le_frameBound_mul limit
    rw [frameStep_start]
    omega
  rw [runUntilIdle, hdrive]
  exact hruns

/-! ### What is fired -/

theorem instant_le_of_mem_drainFirings {count : Nat} {f : Firing}
    (h : f ∈ drainFirings horizon count s) : f.instant ≤ horizon := by
  induction count generalizing s with
  | zero => cases h
  | succ count ih =>
    rw [drainFirings] at h
    cases hdue : s.due? horizon with
    | none =>
      rw [hdue] at h
      cases h
    | some found =>
      rw [hdue] at h
      rcases List.mem_cons.1 h with rfl | hrest
      · obtain ⟨rest, hnext, -⟩ := due?_eq_some.1 hdue
        obtain ⟨-, -, -, hinstant, -⟩ := Schedule.next?_eq_some.1 hnext
        exact hinstant
      · exact ih hrest

theorem le_clock_drive {started count : Nat} (h : s.clock ≤ Instant.last) :
    s.clock ≤ (drive started limit count s).1.clock ∧
      ∀ f ∈ driveFirings started limit count s,
        f.instant ≤ (drive started limit count s).1.clock := by
  induction count generalizing s with
  | zero => exact ⟨Nat.le_refl _, List.forall_mem_nil _⟩
  | succ count ih =>
    rw [drive, driveFirings]
    split
    · exact ⟨Nat.le_refl _, List.forall_mem_nil _⟩
    · split
      · exact ⟨Nat.le_refl _, List.forall_mem_nil _⟩
      · have hpump : (s.advanceClock s.frameStep).pump.clock = Instant.after s.clock s.frameStep :=
          clock_pump _
        obtain ⟨hclock, hrest⟩ := ih (hpump.trans_le (Instant.after_le_last _ _))
        rw [hpump] at hclock
        refine ⟨(Nat.le_min.2 ⟨Nat.le_add_right _ _, h⟩).trans hclock, fun f hf => ?_⟩
        rcases List.mem_append.1 hf with hpumped | hlater
        · exact (instant_le_of_mem_drainFirings hpumped).trans hclock
        · exact hrest f hlater

/-- A run until idle that is cut off by its limit has lasted for the least whole number of frames that
is not below the limit, and every tick up to its end has happened. One that ends by itself has lasted
for a whole number of frames too, at least for one, and before the last one its limit was not over. -/
theorem Reachable.run_elapsed (reachable : s.Reachable) (idle : s.isRunning = false)
    (early : s.clock + limit + max s.config.frameInterval 1 < Instant.last) :
    let tickStep := max s.config.tickInterval 1
    let frameStep := max s.config.frameInterval 1
    let final := (s.runUntilIdle limit).1
    let summary := (s.runUntilIdle limit).2
    (summary.completed = false → summary.elapsed = frameStep * (limit ⌈/⌉ frameStep) ∧
        summary.ticks = summary.elapsed / tickStep) ∧
      (summary.completed = true → 0 < summary.elapsed ∧ frameStep ∣ summary.elapsed ∧
        summary.elapsed - frameStep < limit) ∧
      (∀ f ∈ s.runFirings limit, f.instant ≤ s.clock + summary.elapsed) ∧
      Runs s.clock limit s.start final summary.completed ∧ final.isRunning = false ∧
      summary.ticks = final.stats.ticks ∧ summary.swaps = final.stats.swaps := by
  intro tickStep frameStep final summary
  have hframe : 0 < frameStep := Nat.le_max_right _ 1
  have hlast : ∀ k, limit ⌈/⌉ frameStep ≤ k ↔ limit ≤ k * frameStep := fun k => by
    rw [Nat.mul_comm k]
    exact ceilDiv_le_iff_le_smul hframe
  have hwithin : (limit ⌈/⌉ frameStep) * frameStep ≤ limit + frameStep - 1 := by
    rw [Nat.ceilDiv_eq_add_pred_div]
    exact Nat.div_mul_le_self _ _
  have hruns : Runs s.clock limit s.start final summary.completed :=
    runs_runUntilIdle limit (Schedule.kept_timely.stageStart reachable.timely) early.le
  have hfired : ∀ f ∈ s.runFirings limit, f.instant ≤ final.clock :=
    (le_clock_drive (by rw [clock_start]; omega)).2
  have hongoing : s.start.Ongoing s.clock tickStep frameStep 0 (0 * frameStep) := by
    rw [Nat.zero_mul]
    exact ongoing_start reachable.geared idle
  have hstart : s.start.due? (s.clock + 0 * frameStep) = none := by
    rw [Nat.zero_mul]
    exact due?_start idle (by omega)
  obtain ⟨hcut, hended⟩ := hongoing.runs hruns s.frameStep_start hlast
    (by rw [clock_start, Nat.zero_mul]; rfl) hstart (Nat.zero_le _) (by omega)
  have helapsed : summary.elapsed = final.clock - s.clock := rfl
  have hticks : summary.ticks = final.stats.ticks := rfl
  refine ⟨fun hlimited => ?_, fun hcompleted => ?_, fun f hf => ?_, hruns, hruns.isRunning, rfl, rfl⟩
  · obtain ⟨hclock, hcount⟩ := hcut hlimited
    rw [helapsed, hticks, hclock, hcount, Nat.add_sub_cancel_left]
    exact ⟨Nat.mul_comm _ _, rfl⟩
  · obtain ⟨k, hk, hclock⟩ := hended hcompleted
    have hbefore : ¬ limit ≤ k * frameStep := fun hle => Nat.not_le.2 hk ((hlast k).2 hle)
    rw [helapsed, hclock, Nat.add_sub_cancel_left]
    refine ⟨Nat.mul_pos (Nat.succ_pos k) hframe, Nat.dvd_mul_left _ _, ?_⟩
    rw [Nat.succ_mul, Nat.add_sub_cancel]
    exact Nat.not_le.1 hbefore
  · have hinstant := hfired f hf
    omega

def restless : Stage :=
  Operation.applyAll [.stop, .setClock 7]
    (overlapping { tickInterval := 3, frameInterval := 4, collisionCooldown := 1 })

theorem run_elapsed_restless :
    restless.Reachable ∧ restless.isRunning = false ∧
      restless.clock + 9 + max restless.config.frameInterval 1 < Instant.last ∧
      (restless.runUntilIdle 9).2 = ⟨4, 4, 12, false⟩ ∧ 12 = 4 * (9 ⌈/⌉ 4) ∧ 4 = 12 / 3 ∧
      (∀ f ∈ restless.runFirings 9, f.instant ≤ 7 + 12) ∧
      (restless.runUntilIdle 9).1.isRunning = false ∧
      (restless.runUntilIdle 9).1.stats.swaps = 4 := by
  have reachable : restless.Reachable := (reachable_overlapping _).applyAll _
  have idle : restless.isRunning = false := by decide
  have early : restless.clock + 9 + max restless.config.frameInterval 1 < Instant.last := by decide
  have hsummary : (restless.runUntilIdle 9).2 = ⟨4, 4, 12, false⟩ := by decide +kernel
  obtain ⟨hcut, -, hfired, -, hidle, -, hswaps⟩ := reachable.run_elapsed idle early
  rw [hsummary] at hcut hfired hswaps
  obtain ⟨helapsed, hticks⟩ := hcut rfl
  exact ⟨reachable, idle, early, hsummary, helapsed, hticks, hfired, hidle, hswaps.symm⟩

example : (restless.runUntilIdle 8).2 = ⟨2, 2, 8, false⟩ := by decide +kernel

end Stage

end SpriteStage
