import SpriteStage.Proofs.Juggling
/-!
The end of a run without anybody watching. The clock goes on by one frame after another, and each
time the stage is pumped; before the end of time every pump ends, and sooner or later the limit is
over or the clock is at the end of time. There the limit has no say any more. The run ends then if
that one pump does: always with a cooldown of at least one, and otherwise unless its ticks swap blocks
for ever.

`Runs` and `Drains` are the loops themselves, without a bound on their rounds. The bounds that
`runUntilIdle` and `pump` put on them are never what ends a run that has a cooldown, nor one whose
limit is over before the end of time.
-/

namespace SpriteStage.Stage

/-- The loop of a run that began at `started` ends in a stage, by itself or by the limit. -/
inductive Runs (started limit : Nat) : Stage → Stage → Bool → Prop
  | ended {s : Stage} : s.isRunning = false → Runs started limit s s true
  | limited {s : Stage} : s.isRunning = true → s.limitReached started limit = true →
      Runs started limit s s.stop false
  | frame {s t u : Stage} {completed : Bool} :
      s.isRunning = true → s.limitReached started limit = false →
        (s.advanceClock s.frameStep).Drains t → Runs started limit t u completed →
          Runs started limit s u completed

inductive Pumps (started limit : Nat) : Stage → Stage → Prop
  | now {s : Stage} : s.isRunning = true → s.limitReached started limit = false →
      Pumps started limit s (s.advanceClock s.frameStep)
  | later {s t u : Stage} : s.isRunning = true → s.limitReached started limit = false →
      (s.advanceClock s.frameStep).Drains t → Pumps started limit t u → Pumps started limit s u

variable {started limit horizon count : Nat} {s t u : Stage} {completed : Bool} {a : Activation}
  {as : List Activation}

/-! ### What a pump leaves as it is -/

theorem clock_fire (s : Stage) (a : Activation) : (s.fire a).clock = s.clock := by
  cases a with
  | tick now =>
    rw [fire, tick_eq, reschedule]
    simp only [tickWork]
    split <;> rfl
  | frame now => rw [fire, frame_eq, reschedule, expireAt_eq]

theorem clock_fires (hfires : Fires horizon s as t) : t.clock = s.clock := by
  induction hfires with
  | stay s => rfl
  | step hdue _ ih =>
    obtain ⟨rest, -, rfl⟩ := due?_eq_some.1 hdue
    rw [ih, clock_fire]

theorem clock_pump (s : Stage) : s.pump.clock = s.clock := by
  obtain ⟨as, hfires⟩ := pump_fires s
  exact clock_fires hfires

theorem Drains.clock (h : s.Drains t) : t.clock = s.clock := by
  obtain ⟨as, hfires, -⟩ := h
  exact clock_fires hfires

theorem Drains.steady {R : Stage → Stage → Prop} (steady : Steady R) (h : s.Drains t) : R s t := by
  obtain ⟨as, hfires, -⟩ := h
  exact steady.fires hfires

theorem Drains.timely (h : s.Drains t) (timely : s.schedule.Timely) : t.schedule.Timely := by
  obtain ⟨as, hfires, -⟩ := h
  exact Schedule.kept_timely.fires timely hfires

theorem Drains.frameStep (h : (s.advanceClock s.frameStep).Drains t) : t.frameStep = s.frameStep := by
  have hconfig : t.config = s.config := h.steady steady_config
  rw [Stage.frameStep, hconfig]
  rfl

theorem Pumps.steady {R : Stage → Stage → Prop} (steady : Steady R) (h : Pumps started limit s u) :
    R s u := by
  induction h with
  | @now s _ _ => exact steady.retimed s _ s.schedule
  | @later s _ _ _ _ hdrains _ ih =>
    have hadvanced : R s (s.advanceClock s.frameStep) := steady.retimed s _ s.schedule
    exact steady.trans hadvanced (steady.trans (hdrains.steady steady) ih)

theorem Pumps.timely (h : Pumps started limit s u) (timely : s.schedule.Timely) :
    u.schedule.Timely := by
  induction h with
  | now => exact timely
  | later _ _ hdrains _ ih => exact ih (hdrains.timely timely)

theorem clock_advanceClock (s : Stage) (d : Nat) :
    (s.advanceClock d).clock = Instant.after s.clock d := rfl

theorem one_le_frameStep (s : Stage) : 1 ≤ s.frameStep := Nat.le_max_right _ _

theorem Drains.clock_of_running (h : (s.advanceClock s.frameStep).Drains t)
    (timely : s.schedule.Timely) (running : t.isRunning = true) :
    t.clock = s.clock + s.frameStep := by
  rcases Nat.le_total Instant.last (s.clock + s.frameStep) with hlate | hearly
  · have hlast : (s.advanceClock s.frameStep).clock = Instant.last := Nat.min_eq_right hlate
    obtain ⟨as, -, hend⟩ := id h
    rw [hlast] at hend
    rw [isRunning_eq_false_of_due? (h.timely timely) hend] at running
    cases running
  · rw [h.clock, clock_advanceClock, Instant.after_eq_add hearly]

theorem Pumps.clock_lt (h : Pumps started limit s u) : u.clock < started + limit + s.frameStep := by
  induction h with
  | @now s _ hlimit =>
    simp only [limitReached, decide_eq_false_iff_not] at hlimit
    rw [clock_advanceClock, Instant.after]
    omega
  | later _ _ hdrains _ ih =>
    rw [hdrains.frameStep] at ih
    exact ih

theorem Pumps.clock_le (h : Pumps started limit s u) : u.clock ≤ Instant.last := by
  induction h with
  | now => exact Instant.after_le_last _ _
  | later _ _ _ _ ih => exact ih

theorem Pumps.one_le_cooldown (h : Pumps started limit s u) (hlast : u.clock = Instant.last)
    (hends : 1 ≤ s.config.collisionCooldown ∨ started + limit + s.frameStep ≤ Instant.last) :
    1 ≤ u.config.collisionCooldown := by
  have hconfig : u.config = s.config := h.steady steady_config
  rw [hconfig]
  refine hends.resolve_right fun hlimit => ?_
  have hbefore := h.clock_lt
  omega

/-! ### The loop of a run -/

theorem Runs.isRunning (h : Runs started limit s t completed) : t.isRunning = false := by
  induction h with
  | ended hidle => exact hidle
  | limited => exact Schedule.isRunning_stop _
  | frame _ _ _ _ ih => exact ih

theorem Runs.eq_of_idle (h : Runs started limit s t completed) (hidle : s.isRunning = false) :
    t = s ∧ completed = true := by
  cases h with
  | ended => exact ⟨rfl, rfl⟩
  | limited running => simp [hidle] at running
  | frame running => simp [hidle] at running

theorem Runs.exists_frame (h : Runs started limit s t completed) (running : s.isRunning = true)
    (hlimit : s.limitReached started limit = false) :
    ∃ u, (s.advanceClock s.frameStep).Drains u ∧ Runs started limit u t completed := by
  cases h with
  | ended hidle => simp [running] at hidle
  | limited _ hreached => simp [hlimit] at hreached
  | frame _ _ hdrains hrest => exact ⟨_, hdrains, hrest⟩

theorem Runs.exists_drains (h : Runs started limit s t completed) (hpumps : Pumps started limit s u) :
    ∃ v, u.Drains v := by
  induction hpumps generalizing t completed with
  | now running hlimit =>
    obtain ⟨v, hdrains, -⟩ := h.exists_frame running hlimit
    exact ⟨v, hdrains⟩
  | later running hlimit hdrains _ ih =>
    obtain ⟨v, hdrains', hrest⟩ := h.exists_frame running hlimit
    rw [hdrains'.unique hdrains] at hrest
    exact ih hrest

theorem exists_runs (timely : s.schedule.Timely)
    (finite : ∀ u, Pumps started limit s u → u.clock = Instant.last → ¬ u.SwapsForever) :
    ∃ t completed, Runs started limit s t completed := by
  induction hleft : Instant.last - s.clock using Nat.strong_induction_on generalizing s with
  | h left ih =>
    cases hrunning : s.isRunning with
    | false => exact ⟨s, true, .ended hrunning⟩
    | true =>
      cases hlimit : s.limitReached started limit with
      | true => exact ⟨s.stop, false, .limited hrunning hlimit⟩
      | false =>
        have hnow : Pumps started limit s (s.advanceClock s.frameStep) := .now hrunning hlimit
        rcases Nat.lt_or_eq_of_le hnow.clock_le with early | hlast
        · have hdrains := drains_pump early
          have hstep := s.one_le_frameStep
          have hclock := hdrains.clock
          rw [clock_advanceClock, Instant.after] at early hclock
          obtain ⟨t, completed, hruns⟩ := ih _ (by omega) (hdrains.timely timely)
            (fun u hpumps => finite u (.later hrunning hlimit hdrains hpumps)) rfl
          exact ⟨t, completed, .frame hrunning hlimit hdrains hruns⟩
        -- At the end of time there is one pump, after which nothing is left to run.
        · obtain ⟨as, t, hfires, hstopped⟩ := exists_stopped_of_not_swapsForever
            (s := s.advanceClock s.frameStep) timely (finite _ hnow hlast)
          have hdrains : (s.advanceClock s.frameStep).Drains t := by
            refine ⟨as, ?_, due?_of_idle hstopped _⟩
            rw [hlast]
            exact hfires
          exact ⟨t, true, .frame hrunning hlimit hdrains (.ended hstopped)⟩

theorem exists_runs_iff (timely : s.schedule.Timely) :
    (∃ t completed, Runs started limit s t completed) ↔
      ∀ u, Pumps started limit s u → u.clock = Instant.last → ¬ u.SwapsForever := by
  constructor
  · rintro ⟨t, completed, hruns⟩ u hpumps hlast
    obtain ⟨v, as, hfires, hend⟩ := hruns.exists_drains hpumps
    rw [hlast] at hfires hend
    exact not_swapsForever_of_fires hfires hend
  · exact exists_runs timely

/-! ### The bounds on the rounds -/

theorem drain_of_fires (hfires : Fires horizon s as t) (hend : t.due? horizon = none)
    (enough : as.length ≤ count) : drain horizon count s = t := by
  induction hfires generalizing count with
  | stay s =>
    cases count with
    | zero => rfl
    | succ count => simp [drain, hend]
  | step hdue _ ih =>
    cases count with
    | zero => simp at enough
    | succ count =>
      simp only [drain, hdue]
      exact ih hend (by simpa using enough)

theorem drains_pump_of_cooldown {L : Nat} (hlast : s.clock = Instant.last)
    (timely : s.schedule.Timely) (cooldown : 1 ≤ s.config.collisionCooldown)
    (short : ∀ p ∈ s.programs, p.length ≤ L) (room : L + 3 ≤ Instant.last) : s.Drains s.pump := by
  obtain ⟨as, t, hfires, hstopped, hcount⟩ := exists_end_of_cooldown timely cooldown short
  have hend := due?_of_idle hstopped Instant.last
  have hpending := s.schedule.pending_mono (Nat.sub_le Instant.last 1)
  have enough : as.length ≤ s.pumpBound := by
    rw [pumpBound, hlast, if_neg (Nat.lt_irrefl _)]
    omega
  have hpump : s.pump = t := by
    rw [pump, hlast]
    exact drain_of_fires hfires hend enough
  rw [hpump]
  refine ⟨as, ?_, ?_⟩
  · rw [hlast]
    exact hfires
  · rw [hlast]
    exact hend

theorem Pumps.drains_pump (h : Pumps started limit s u) (timely : s.schedule.Timely)
    (hends : 1 ≤ s.config.collisionCooldown ∨ started + limit + s.frameStep ≤ Instant.last)
    (short : ∀ p ∈ s.programs, p.length + 3 ≤ Instant.last) : u.Drains u.pump := by
  rcases Nat.lt_or_eq_of_le h.clock_le with early | hlast
  · exact Stage.drains_pump early
  · have hprograms : Rearranged s.programs u.programs := h.steady steady_rearranged
    have hlengths : ∀ p ∈ s.programs, p.length ≤ Instant.last - 3 := by
      intro p hp
      have hlength := short p hp
      omega
    exact drains_pump_of_cooldown hlast (h.timely timely) (h.one_le_cooldown hlast hends)
      (hprograms.length_le hlengths) (by decide)

theorem drive_of_idle (hidle : s.isRunning = false) (count : Nat) :
    drive started limit count s = (s, true) := by
  cases count with
  | zero => simp [drive, hidle]
  | succ count => simp [drive, hidle]

theorem Runs.drive_eq {k : Nat} (h : Runs started limit s t completed) (timely : s.schedule.Timely)
    (emptied : ∀ u, Pumps started limit s u → u.Drains u.pump) (hstarted : started ≤ s.clock)
    (hframes : limit ≤ s.clock - started + k * s.frameStep) (enough : k < count) :
    drive started limit count s = (t, completed) := by
  induction h generalizing k count with
  | ended hidle => exact drive_of_idle hidle count
  | @limited s hrunning hreached =>
    obtain ⟨count, rfl⟩ := Nat.exists_eq_succ_of_ne_zero (Nat.ne_zero_of_lt enough)
    simp [drive, hrunning, hreached]
  | @frame s t u completed hrunning hlimit hdrains hruns ih =>
    obtain ⟨count, rfl⟩ := Nat.exists_eq_succ_of_ne_zero (Nat.ne_zero_of_lt enough)
    have hnow : Pumps started limit s (s.advanceClock s.frameStep) := .now hrunning hlimit
    have hpump : (s.advanceClock s.frameStep).pump = t := (emptied _ hnow).unique hdrains
    have hdrive : drive started limit (count + 1) s = drive started limit count t := by
      simp [drive, hrunning, hlimit, hpump]
    rw [Nat.succ_eq_add_one, hdrive]
    cases hgoing : t.isRunning with
    | false =>
      obtain ⟨rfl, rfl⟩ := hruns.eq_of_idle hgoing
      exact drive_of_idle hgoing count
    | true =>
      have hclock := hdrains.clock_of_running timely hgoing
      have hspent : s.clock - started < limit := by
        simpa [limitReached] using hlimit
      obtain ⟨k, rfl⟩ : ∃ j, k = j + 1 := by
        refine Nat.exists_eq_succ_of_ne_zero fun hzero => ?_
        rw [hzero, Nat.zero_mul] at hframes
        omega
      have hemptied : ∀ u, Pumps started limit t u → u.Drains u.pump :=
        fun u hpumps => emptied u (.later hrunning hlimit hdrains hpumps)
      refine ih (hdrains.timely timely) hemptied (by omega) (k := k) ?_ (by omega)
      rw [Nat.succ_mul] at hframes
      rw [hclock, hdrains.frameStep]
      omega

theorem le_frameBound_mul (s : Stage) (limit : Nat) :
    limit ≤ (limit / s.frameStep + 1) * s.frameStep := by
  rw [Nat.mul_comm]
  exact (Nat.lt_mul_div_succ limit s.one_le_frameStep).le

/-! ### A run until idle -/

theorem clock_start (s : Stage) : s.start.clock = s.clock := by
  unfold start
  split <;> rfl

theorem frameStep_start (s : Stage) : s.start.frameStep = s.frameStep := by
  rw [frameStep, config_start]
  rfl

/-- A run until idle leaves the stage idle, if it ends. It ends if and only if the pump at the end of
time, should the run come to one, does not swap blocks for ever. So with a cooldown it always ends, and
also without one if the limit is over before the end of time; then it is also the run that
`runUntilIdle` yields, unless a program is longer than time. -/
theorem Reachable.run_ends_iff (reachable : s.Reachable) (limit : Nat) :
    (∀ t completed, Runs s.clock limit s.start t completed → t.isRunning = false) ∧
      ((∃ t completed, Runs s.clock limit s.start t completed) ↔
        ∀ u, Pumps s.clock limit s.start u → u.clock = Instant.last → ¬ u.SwapsForever) ∧
      (1 ≤ s.config.collisionCooldown ∨ s.clock + limit + s.frameStep ≤ Instant.last →
        ∃ t completed, Runs s.clock limit s.start t completed ∧
          ((∀ p ∈ s.programs, p.length + 3 ≤ Instant.last) →
            s.runUntilIdle limit =
              (t, ⟨t.stats.ticks, t.stats.swaps, t.clock - s.clock, completed⟩))) := by
  have timely : s.start.schedule.Timely := Schedule.kept_timely.stageStart reachable.timely
  refine ⟨fun t completed hruns => hruns.isRunning, exists_runs_iff timely, fun hends => ?_⟩
  rw [← config_start, ← frameStep_start] at hends
  obtain ⟨t, completed, hruns⟩ := exists_runs timely fun u hpumps hlast =>
    not_swapsForever_of_cooldown (hpumps.timely timely) (hpumps.one_le_cooldown hlast hends)
  refine ⟨t, completed, hruns, fun short => ?_⟩
  have hshort : ∀ p ∈ s.start.programs, p.length + 3 ≤ Instant.last :=
    s.rearranged_start.forall_mem (fun p q hflags hp => hflags.length_eq ▸ hp) short
  have hframes := s.start.le_frameBound_mul limit
  rw [frameStep_start] at hframes
  have hdrive : drive s.clock limit (s.frameBound limit) s.start = (t, completed) := by
    refine hruns.drive_eq timely (fun u hpumps => hpumps.drains_pump timely hends hshort)
      s.clock_start.ge (k := limit / s.frameStep + 1) ?_ (Nat.lt_succ_self _)
    rw [frameStep_start]
    omega
  rw [runUntilIdle, hdrive]

def atLastInstant (cooldown : Nat) : Stage :=
  Operation.applyAll
    [.takeBlockId, .edit (.append (.act ⟨2⟩ false (.goTo 0 0))), .createSprite]
    (.new Instant.last { collisionCooldown := cooldown })

theorem reachable_atLastInstant (cooldown : Nat) : (atLastInstant cooldown).Reachable :=
  (Reachable.new _ _).applyAll _

theorem run_ends_iff_least_cooldown :
    let s := atLastInstant 1
    s.Reachable ∧ ∃ t completed, Runs s.clock 1000 s.start t completed ∧ t.isRunning = false ∧
      s.runUntilIdle 1000 =
        (t, ⟨t.stats.ticks, t.stats.swaps, t.clock - s.clock, completed⟩) := by
  intro s
  have reachable : s.Reachable := reachable_atLastInstant 1
  have short : ∀ p ∈ s.programs, p.length + 3 ≤ Instant.last := by decide
  obtain ⟨hidle, -, hends⟩ := reachable.run_ends_iff 1000
  obtain ⟨t, completed, hruns, hyields⟩ := hends (Or.inl (Nat.le_refl 1))
  exact ⟨reachable, t, completed, hruns, hidle t completed hruns, hyields short⟩

theorem run_without_end :
    let s := atLastInstant 0
    s.Reachable ∧ ¬ ∃ t completed, Runs s.clock 1000 s.start t completed := by
  intro s
  have reachable : s.Reachable := reachable_atLastInstant 0
  have timely : s.start.schedule.Timely := Schedule.kept_timely.stageStart reachable.timely
  have hpumps : Pumps s.clock 1000 s.start (s.start.advanceClock s.start.frameStep) :=
    .now (by decide) (by decide)
  have hjuggles : (s.start.advanceClock s.start.frameStep).Juggles := by
    refine ⟨⟨_, rfl, by decide, by decide⟩, rfl, by decide, ?_⟩
    exact ⟨_, _, rfl, ⟨⟨rfl, rfl, Or.inr ⟨⟨2⟩, false, rfl⟩⟩, rfl, rfl⟩,
      ⟨⟨rfl, rfl, Or.inl rfl⟩, rfl, rfl⟩, rfl⟩
  refine ⟨reachable, fun hruns => ?_⟩
  exact (exists_runs_iff timely).1 hruns _ hpumps (by decide) hjuggles.swapsForever

end SpriteStage.Stage
