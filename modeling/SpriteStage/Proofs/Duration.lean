import Mathlib.Algebra.Order.Floor.Div
import SpriteStage.Proofs.Ending
import SpriteStage.Proofs.Expiry
import SpriteStage.Proofs.Ownership
import SpriteStage.Proofs.Timetable
/-!
How long a run without swaps takes. Each tick takes a step off what is left to do, and the last step
only finds the end of a program; so the sprites are idle after one tick more than the longest program
has blocks. The next activation then ends the run: the frame that comes before the next tick, if there
is one, and otherwise that tick. Without anybody watching, the clock is read once a frame, and so the
run is found to be over at the first frame that is not before the tick which made the sprites idle.
-/

namespace SpriteStage

theorem Sprite.stepsLeft_rewound (p : Sprite) :
    p.rewound.stepsLeft = if p.program.length = 0 then 0 else p.program.length + 1 := by
  cases hblocks : p.program.blocks <;>
    simp [stepsLeft, isIdle, rewound, edited, Program.cleared, Program.isEmpty, Program.length, hblocks]

namespace Tally

variable {start tickStep frameStep n now : Nat}

theorem reached_of_next_frame
    (h : (reached tickStep frameStep n).next start tickStep frameStep = .frame now) :
    now = start + ((reached tickStep frameStep n).frames + 1) * frameStep ∧
      ((reached tickStep frameStep n).frames + 1) * frameStep <
        ((reached tickStep frameStep n).ticks + 1) * tickStep ∧
      reached tickStep frameStep (n + 1) =
        ⟨(reached tickStep frameStep n).ticks, (reached tickStep frameStep n).frames + 1⟩ := by
  rw [reached]
  generalize reached tickStep frameStep n = c at *
  rw [next] at h
  split at h
  · rename_i hfirst
    cases h
    exact ⟨rfl, by simpa [frameFirst] using hfirst, if_pos hfirst⟩
  · cases h

theorem reached_of_next_tick
    (h : (reached tickStep frameStep n).next start tickStep frameStep = .tick now) :
    now = start + ((reached tickStep frameStep n).ticks + 1) * tickStep ∧
      ((reached tickStep frameStep n).ticks + 1) * tickStep ≤
        ((reached tickStep frameStep n).frames + 1) * frameStep ∧
      reached tickStep frameStep (n + 1) =
        ⟨(reached tickStep frameStep n).ticks + 1, (reached tickStep frameStep n).frames⟩ := by
  rw [reached]
  generalize reached tickStep frameStep n = c at *
  rw [next] at h
  split at h
  · cases h
  · rename_i hfirst
    cases h
    exact ⟨rfl, by simpa [frameFirst] using hfirst, if_neg hfirst⟩

end Tally

namespace Stage

variable {s t armed : Stage} {a : Activation} {as : List Activation}
  {start tickStep frameStep horizon limit now m n : Nat}

/-! ### What is left to do -/

def greatest (f : Sprite → Nat) (s : Stage) : Nat := (s.sprites.map f).foldr max 0

theorem greatest_le_iff {f : Sprite → Nat} : s.greatest f ≤ n ↔ ∀ p ∈ s.sprites, f p ≤ n := by
  unfold greatest
  induction s.sprites with
  | nil => simp
  | cons p ps ih => simp [ih]

def longest (s : Stage) : Nat := s.greatest fun p => p.program.length

def stepsLeft (s : Stage) : Nat := s.greatest Sprite.stepsLeft

theorem stepsLeft_eq_zero_iff : s.stepsLeft = 0 ↔ s.allIdle = true := by
  rw [← within_zero_iff, ← Nat.le_zero]
  exact greatest_le_iff

theorem stepsLeft_start (idle : s.isRunning = false) (blocks : 0 < s.longest) :
    s.start.stepsLeft = s.longest + 1 := by
  refine eq_of_forall_ge_iff fun n => ?_
  have hsprites : s.start.sprites = s.sprites.map Sprite.rewound := by simp [start, idle]
  rw [stepsLeft, greatest_le_iff, hsprites, List.forall_mem_map]
  simp only [Sprite.stepsLeft_rewound]
  constructor
  · intro hleft
    have hpositive : ¬ s.longest ≤ 0 := Nat.not_le.2 blocks
    simp only [longest, greatest_le_iff, not_forall] at hpositive
    obtain ⟨p, hp, hblocks⟩ := hpositive
    have hone := hleft p hp
    rw [if_neg (by omega)] at hone
    have hlongest : s.longest ≤ n - 1 := by
      refine greatest_le_iff.2 fun q hq => ?_
      have hq := hleft q hq
      split at hq <;> omega
    omega
  · intro hn p hp
    have hlength : p.program.length ≤ s.longest := greatest_le_iff.1 (Nat.le_refl s.longest) p hp
    split <;> omega

theorem stepsLeft_expireAt (s : Stage) (now : Nat) : (s.expireAt now).stepsLeft = s.stepsLeft := by
  rw [stepsLeft, greatest, sprites_expireAt, List.map_map]
  rfl

theorem stepsLeft_tickWork (calm : (s.tickCheck now).2.2 = none) :
    (s.tickWork now).stepsLeft = s.stepsLeft - 1 := by
  refine eq_of_forall_ge_iff fun n => ?_
  rw [stepsLeft, greatest_le_iff, sprites_tickWork_of_none calm, Nat.sub_le_iff_le_add, stepsLeft,
    greatest_le_iff, tickCheck]
  simp only [List.forall_mem_map, Sprite.stepsLeft_step, Nat.sub_le_iff_le_add]

/-! ### One activation -/

/-- A run in which the longest program has `m` blocks, after the first `n` entries of its timetable.
It goes on: no frame has found the sprites idle. -/
structure Underway (start tickStep frameStep m n : Nat) (s : Stage) : Prop where
  stands : s.schedule.Stands start tickStep frameStep n
  ticks : s.stats.ticks = (Tally.reached tickStep frameStep n).ticks
  stepsLeft : s.stepsLeft = m + 1 - (Tally.reached tickStep frameStep n).ticks
  ticks_le : (Tally.reached tickStep frameStep n).ticks ≤ m + 1
  frames_lt : (Tally.reached tickStep frameStep n).frames * frameStep < (m + 1) * tickStep

/-- Whether a frame comes between the tick that makes the sprites idle and the next one. -/
def FrameBetween (tickStep frameStep m : Nat) : Prop :=
  ∃ k, (m + 1) * tickStep ≤ k * frameStep ∧ k * frameStep < (m + 2) * tickStep

structure Over (tickStep frameStep m : Nat) (s : Stage) : Prop where
  isRunning : s.isRunning = false
  allIdle : s.allIdle = true
  ticks : s.stats.ticks = m + 1 ∧ FrameBetween tickStep frameStep m ∨
    s.stats.ticks = m + 2 ∧ ¬ FrameBetween tickStep frameStep m

theorem not_frameBetween {frames : Nat} (hlast : frames * frameStep < (m + 1) * tickStep)
    (hnext : (m + 2) * tickStep ≤ (frames + 1) * frameStep) : ¬ FrameBetween tickStep frameStep m := by
  rintro ⟨k, hlow, hhigh⟩
  have hk : frames < k := Nat.lt_of_mul_lt_mul_right (Nat.lt_of_lt_of_le hlast hlow)
  have hlater : (frames + 1) * frameStep ≤ k * frameStep := Nat.mul_le_mul_right _ hk
  omega

theorem fire_frame_eq (s : Stage) (now : Nat) : s.fire (.frame now) =
    if s.stepsLeft = 0 then (s.expireAt now).stop else s.expireAt now := by
  simp only [fire, frame, ← stepsLeft_eq_zero_iff, stepsLeft_expireAt]

theorem fire_tick_eq (s : Stage) (now : Nat) : s.fire (.tick now) =
    if s.stepsLeft = 0 then (s.tickWork now).stop else s.tickWork now := by
  simp only [fire, tick, ← stepsLeft_eq_zero_iff]

theorem tickCheck_of_unswapped (unswapped : (s.fire (.tick now)).stats.swaps = 0) :
    (s.tickCheck now).2.2 = none := by
  cases hpair : (s.tickCheck now).2.2 with
  | none => rfl
  | some pair =>
    rw [fire, tick_eq, reschedule, tickWork_of_some hpair] at unswapped
    cases unswapped

theorem Underway.due? (h : s.Underway start tickStep frameStep m n) (early : horizon < Instant.last)
    (hdue : s.due? horizon = some (a, armed)) :
    (Tally.reached tickStep frameStep n).next start tickStep frameStep = a ∧ a.instant ≤ horizon ∧
      armed.schedule.Stands start tickStep frameStep (n + 1) ∧
      armed.stats.ticks = (Tally.reached tickStep frameStep n).ticks ∧
      armed.stepsLeft = m + 1 - (Tally.reached tickStep frameStep n).ticks := by
  obtain ⟨rest, hnext, rfl⟩ := due?_eq_some.1 hdue
  obtain ⟨hentry, hrest⟩ := h.stands.next early hnext
  obtain ⟨-, -, -, hinstant, -⟩ := Schedule.next?_eq_some.1 hnext
  exact ⟨hentry.symm, hinstant, hrest, h.ticks, h.stepsLeft⟩

theorem Underway.fire_frame (h : s.Underway start tickStep frameStep m n) (htick : 0 < tickStep)
    (early : horizon < Instant.last) (hdue : s.due? horizon = some (.frame now, armed)) :
    (armed.fire (.frame now)).Underway start tickStep frameStep m (n + 1) ∨
      (armed.fire (.frame now)).Over tickStep frameStep m ∧
        start + (m + 1) * tickStep ≤ horizon := by
  obtain ⟨hentry, hinstant, hstands, hcount, hsteps⟩ := h.due? early hdue
  obtain ⟨rfl, hfirst, hafter⟩ := Tally.reached_of_next_frame hentry
  obtain ⟨hbehind, -⟩ := Tally.reached_balanced frameStep htick n
  have hle := h.ticks_le
  generalize Tally.reached tickStep frameStep n = c at *
  simp only [Activation.instant] at hinstant
  have hstats : ∀ now, (armed.expireAt now).stats.ticks = c.ticks := fun now => by
    rw [expireAt_eq]
    exact hcount
  rw [fire_frame_eq]
  by_cases hdone : armed.stepsLeft = 0
  · have hreached : c.ticks = m + 1 := by omega
    rw [hreached] at hbehind hfirst hstats
    rw [if_pos hdone]
    right
    refine ⟨⟨Schedule.isRunning_stop _, ?_, Or.inl ⟨hstats _, _, hbehind, hfirst⟩⟩, by omega⟩
    exact stepsLeft_eq_zero_iff.1 ((armed.stepsLeft_expireAt _).trans hdone)
  · have hearlier : (c.ticks + 1) * tickStep ≤ (m + 1) * tickStep :=
      Nat.mul_le_mul_right _ (by omega)
    rw [if_neg hdone]
    left
    refine ⟨?_, ?_, ?_, ?_, ?_⟩
    · rw [schedule_expireAt]
      exact hstands
    · rw [hafter]
      exact hstats _
    · rw [hafter, stepsLeft_expireAt]
      exact hsteps
    · rw [hafter]
      exact hle
    · rw [hafter]
      exact Nat.lt_of_lt_of_le hfirst hearlier

theorem Underway.fire_tick (h : s.Underway start tickStep frameStep m n)
    (early : horizon < Instant.last) (hdue : s.due? horizon = some (.tick now, armed))
    (unswapped : (armed.fire (.tick now)).stats.swaps = 0) :
    (armed.fire (.tick now)).Underway start tickStep frameStep m (n + 1) ∨
      (armed.fire (.tick now)).Over tickStep frameStep m ∧
        start + (m + 1) * tickStep ≤ horizon := by
  obtain ⟨hentry, hinstant, hstands, hcount, hsteps⟩ := h.due? early hdue
  obtain ⟨rfl, hfirst, hafter⟩ := Tally.reached_of_next_tick hentry
  have calm := tickCheck_of_unswapped unswapped
  have hle := h.ticks_le
  have hlt := h.frames_lt
  generalize Tally.reached tickStep frameStep n = c at *
  simp only [Activation.instant] at hinstant
  have hstats : (armed.tickWork (start + (c.ticks + 1) * tickStep)).stats.ticks = c.ticks + 1 := by
    rw [tickWork_of_none calm, ← hcount]
  have hleft := stepsLeft_tickWork calm
  rw [fire_tick_eq]
  by_cases hdone : armed.stepsLeft = 0
  · have hreached : c.ticks = m + 1 := by omega
    have hlater : (m + 1) * tickStep ≤ (c.ticks + 1) * tickStep := Nat.mul_le_mul_right _ (by omega)
    rw [hreached] at hfirst
    rw [hdone] at hleft
    rw [if_pos hdone]
    right
    -- The last frame came before the sprites were idle, and the next one comes after this tick.
    refine ⟨⟨Schedule.isRunning_stop _, ?_, Or.inr ⟨?_, not_frameBetween hlt hfirst⟩⟩, by omega⟩
    · exact stepsLeft_eq_zero_iff.1 hleft
    · exact hstats.trans (by omega)
  · rw [if_neg hdone]
    left
    refine ⟨?_, ?_, ?_, ?_, ?_⟩
    · rw [schedule_tickWork]
      exact hstands
    · rw [hafter]
      exact hstats
    · rw [hafter, hleft, hsteps]
      rfl
    · rw [hafter]
      simp only
      omega
    · rw [hafter]
      exact hlt

/-! ### The run -/

theorem Underway.fires (h : s.Underway start tickStep frameStep m n) (htick : 0 < tickStep)
    (early : horizon < Instant.last) (hfires : Fires horizon s as t)
    (unswapped : t.stats.swaps = 0) :
    (∃ k, t.Underway start tickStep frameStep m k) ∨
      t.Over tickStep frameStep m ∧ start + (m + 1) * tickStep ≤ horizon := by
  induction hfires generalizing n with
  | stay s => exact Or.inl ⟨n, h⟩
  | @step s armed t a as hdue hrest ih =>
    have hfired : (armed.fire a).stats.swaps = 0 := by
      have hcounted := (steady_keptUnlessSwapped.fires hrest).counted
      omega
    have hone : (armed.fire a).Underway start tickStep frameStep m (n + 1) ∨
        (armed.fire a).Over tickStep frameStep m ∧ start + (m + 1) * tickStep ≤ horizon := by
      cases a with
      | tick now => exact h.fire_tick early hdue hfired
      | frame now => exact h.fire_frame htick early hdue
    rcases hone with hgoing | hover
    · exact ih hgoing unswapped
    · obtain ⟨-, rfl⟩ := hrest.of_idle hover.1.isRunning
      exact Or.inr hover

theorem Underway.lt_of_due?_eq_none {j : Nat} (h : s.Underway start tickStep frameStep m n)
    (early : start + j * frameStep < Instant.last) (hend : s.due? (start + j * frameStep) = none) :
    j * frameStep < (m + 1) * tickStep := by
  have hnext := (h.stands.next?_eq_none early).1 (due?_eq_none.1 hend)
  have hlt := h.frames_lt
  generalize Tally.reached tickStep frameStep n = c at *
  have hframe : j * frameStep < (c.frames + 1) * frameStep := by
    rw [Tally.next] at hnext
    split at hnext
    · simp only [Activation.instant] at hnext
      omega
    · rename_i hfirst
      simp only [Tally.frameFirst, decide_eq_true_eq, Nat.not_lt] at hfirst
      simp only [Activation.instant] at hnext
      omega
  have hj : j ≤ c.frames := Nat.le_of_lt_succ (Nat.lt_of_mul_lt_mul_right hframe)
  exact Nat.lt_of_le_of_lt (Nat.mul_le_mul_right _ hj) hlt

theorem Underway.drive_eq {j last count : Nat} (h : s.Underway start tickStep frameStep m n)
    (htick : 0 < tickStep) (hframe : s.frameStep = frameStep)
    (hlast : ∀ k, last ≤ k ↔ (m + 1) * tickStep ≤ k * frameStep)
    (hclock : s.clock = start + j * frameStep) (hj : j < last)
    (within : (last - 1) * frameStep < limit) (early : start + last * frameStep < Instant.last)
    (enough : last ≤ j + count) (unswapped : (drive start limit count s).1.stats.swaps = 0) :
    ∃ t, drive start limit count s = (t, true) ∧ t.Over tickStep frameStep m ∧
      t.clock = start + last * frameStep := by
  induction count generalizing s j n with
  | zero => omega
  | succ count ih =>
    have hrunning : s.isRunning = true := h.stands.isRunning
    have hlimit : s.limitReached start limit = false := by
      have hround : j * frameStep ≤ (last - 1) * frameStep := Nat.mul_le_mul_right _ (by omega)
      simp only [limitReached, decide_eq_false_iff_not]
      omega
    have hdrive : drive start limit (count + 1) s =
        drive start limit count (s.advanceClock s.frameStep).pump := by
      simp [drive, hrunning, hlimit]
    rw [hdrive] at unswapped ⊢
    have hround : (j + 1) * frameStep ≤ last * frameStep := Nat.mul_le_mul_right _ hj
    have hlater : (s.advanceClock s.frameStep).clock = start + (j + 1) * frameStep := by
      rw [Nat.succ_mul] at hround ⊢
      rw [clock_advanceClock, hclock, hframe, Instant.after_eq_add (by omega), Nat.add_assoc]
    have hearly : start + (j + 1) * frameStep < Instant.last := by omega
    have hdrains := drains_pump (hlater.trans_lt hearly)
    have hclock' := hdrains.clock.trans hlater
    have hframe' := hdrains.frameStep.trans hframe
    generalize (s.advanceClock s.frameStep).pump = t at *
    obtain ⟨as, hfires, hend⟩ := hdrains
    rw [hlater] at hfires hend
    have hpumped : t.stats.swaps = 0 := by
      have hcounted := (steady_keptUnlessSwapped.drive start limit count t).counted
      omega
    have hadvanced : (s.advanceClock s.frameStep).Underway start tickStep frameStep m n :=
      ⟨h.stands, h.ticks, h.stepsLeft, h.ticks_le, h.frames_lt⟩
    rcases hadvanced.fires htick hearly hfires hpumped with ⟨k, hgoing⟩ | ⟨hover, hreached⟩
    · have hlt := hgoing.lt_of_due?_eq_none hearly hend
      have hnot : ¬ last ≤ j + 1 := by
        rw [hlast]
        omega
      exact ih hgoing hframe' hclock' (by omega) (by omega) unswapped
    · have hends : last ≤ j + 1 := (hlast _).2 (by omega)
      obtain rfl : last = j + 1 := by omega
      exact ⟨t, drive_of_idle hover.isRunning count, hover, hclock'⟩

theorem underway_start (geared : s.schedule.Geared s.config) (idle : s.isRunning = false)
    (blocks : 0 < s.longest) :
    s.start.Underway s.clock (max s.config.tickInterval 1) (max s.config.frameInterval 1)
      s.longest 0 := by
  have hstands := Schedule.stands_start idle s.clock
  rw [geared.tickInterval, geared.frameInterval] at hstands
  have hstart : s.start.schedule = s.schedule.start s.clock ∧ s.start.stats = {} := by
    simp [start, idle]
  refine ⟨hstart.1 ▸ hstands, ?_, stepsLeft_start idle blocks, Nat.zero_le _, ?_⟩
  · rw [hstart.2]
    rfl
  · simp only [Tally.reached, Nat.zero_mul]
    exact Nat.mul_pos (Nat.succ_pos _) (by omega)

/-- A run until idle that swaps nothing and whose limit is long enough takes a whole number of frames,
the least that comes to the tick which finds the end of the longest program. That tick is the last one
if a frame comes before the next, and otherwise there is one more. In the end every sprite with a
program has run all of it. -/
theorem Reachable.run_unswapped (reachable : s.Reachable) (idle : s.isRunning = false)
    (blocks : 0 < s.longest) (unswapped : (s.runUntilIdle limit).2.swaps = 0) :
    let tickStep := max s.config.tickInterval 1
    let frameStep := max s.config.frameInterval 1
    let frames := (s.longest + 1) * tickStep ⌈/⌉ frameStep
    let final := (s.runUntilIdle limit).1
    let summary := (s.runUntilIdle limit).2
    frameStep * (frames - 1) < limit → s.clock + frameStep * frames < Instant.last →
      summary.completed = true ∧ summary.elapsed = frameStep * frames ∧
        (summary.ticks = s.longest + 1 ∧ FrameBetween tickStep frameStep s.longest ∨
          summary.ticks = s.longest + 2 ∧ ¬ FrameBetween tickStep frameStep s.longest) ∧
        final.isRunning = false ∧ final.All Sprite.Finished := by
  intro tickStep frameStep frames final summary within early
  have htick : 0 < tickStep := Nat.lt_of_lt_of_le Nat.one_pos (Nat.le_max_right _ _)
  have hframe : 0 < frameStep := Nat.lt_of_lt_of_le Nat.one_pos (Nat.le_max_right _ _)
  have hlast : ∀ k, frames ≤ k ↔ (s.longest + 1) * tickStep ≤ k * frameStep := by
    intro k
    rw [Nat.mul_comm k]
    exact ceilDiv_le_iff_le_smul hframe
  have hfirst : 0 < frames := by
    refine Nat.pos_of_ne_zero fun hzero => ?_
    have hnone : (s.longest + 1) * tickStep ≤ 0 * frameStep := (hlast 0).1 hzero.le
    have hsome : 0 < (s.longest + 1) * tickStep := Nat.mul_pos (Nat.succ_pos _) htick
    omega
  have enough : frames ≤ 0 + s.frameBound limit := by
    have hrounds : frames - 1 ≤ limit / frameStep := by
      rw [Nat.le_div_iff_mul_le hframe, Nat.mul_comm]
      exact within.le
    have hbound : s.frameBound limit = limit / frameStep + 2 := rfl
    omega
  rw [Nat.mul_comm] at within early
  have hclock : s.start.clock = s.clock + 0 * frameStep := by rw [clock_start, Nat.zero_mul]; rfl
  obtain ⟨t, hdrive, hover, hclock⟩ := (underway_start reachable.geared idle blocks).drive_eq htick
    s.frameStep_start hlast hclock hfirst within early enough unswapped
  have hcourse := (reachable.apply (.runUntilIdle limit)).all Sprite.lasting_onCourse
  rw [Operation.apply, runUntilIdle, hdrive] at hcourse
  have helapsed : t.clock - s.clock = frameStep * frames := by
    rw [hclock, Nat.add_sub_cancel_left, Nat.mul_comm]
  simp only [summary, final, runUntilIdle, hdrive]
  exact ⟨trivial, helapsed, hover.ticks, hover.isRunning, All.finished hcourse hover.allIdle⟩

def apart (frameInterval : Nat) : Stage :=
  Operation.applyAll
    [.edit (.append (.act ⟨2⟩ false (.move 1 0))), .edit (.append (.act ⟨3⟩ false (.move 1 0))),
      .createSprite, .moveSprite ⟨2⟩ 900 900, .select ⟨2⟩,
      .edit (.append (.act ⟨4⟩ false (.move 1 0)))]
    (.new 7 { tickInterval := 3, frameInterval := frameInterval })

theorem reachable_apart (frameInterval : Nat) : (apart frameInterval).Reachable :=
  (Reachable.new 7 _).applyAll _

theorem run_unswapped_apart :
    let s := apart 4
    s.Reachable ∧ s.isRunning = false ∧ s.longest = 2 ∧
      (s.runUntilIdle 9).2 = ⟨4, 0, 12, true⟩ ∧ ¬ FrameBetween 3 4 2 ∧
      (s.runUntilIdle 9).1.All Sprite.Finished := by
  have reachable : (apart 4).Reachable := reachable_apart 4
  have idle : (apart 4).isRunning = false := by decide +kernel
  have hlongest : (apart 4).longest = 2 := by decide +kernel
  have hsummary : ((apart 4).runUntilIdle 9).2 = ⟨4, 0, 12, true⟩ := by decide +kernel
  have hconfig : (apart 4).config = { tickInterval := 3, frameInterval := 4 } := by decide +kernel
  have blocks : 0 < (apart 4).longest := by rw [hlongest]; decide
  have unswapped : ((apart 4).runUntilIdle 9).2.swaps = 0 := by rw [hsummary]
  have hrun := reachable.run_unswapped idle blocks unswapped
  rw [hconfig, hlongest] at hrun
  obtain ⟨-, -, hticks, -, hfinished⟩ := hrun (by decide +kernel) (by decide +kernel)
  have hbetween : ¬ FrameBetween 3 4 2 := by
    rw [hsummary] at hticks
    exact (hticks.resolve_left fun h => by cases h.1).2
  exact ⟨reachable, idle, hlongest, hsummary, hbetween, hfinished⟩

example : ((apart 5).runUntilIdle 6).2 = ⟨3, 0, 10, true⟩ ∧
    ((apart 4).runUntilIdle 8).2.completed = false := by decide +kernel

end Stage

end SpriteStage
