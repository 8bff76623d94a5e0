import SpriteStage.Proofs.Ending
import SpriteStage.Proofs.Shifting
import SpriteStage.Proofs.Untouched
/-!
Time without an origin. It does not matter when a stage lives: one on which all instants are later by
some time, and whose clock is set later by as much, does the same things, later by as much. This goes on
as long as no instant that the later one reckons with would come after the end of time; those that the
earlier one reckons with come before them.
-/

namespace SpriteStage

/-! ### Later by some time -/

def Stage.shifted (d : Nat) (s : Stage) : Stage :=
  { s with
    clock := s.clock + d
    sprites := s.sprites.map (Sprite.shifted d)
    schedule := s.schedule.shifted d
    detector := s.detector.shifted d }

def Firing.shifted (d : Nat) (f : Firing) : Firing := ⟨f.stage.shifted d, f.activation.shifted d⟩

def Operation.shifted (d : Nat) : Operation → Operation
  | .setClock now => .setClock (now + d)
  | operation => operation

/-! ### What is reckoned with -/

namespace Firing

/-- How far ahead of its instant a firing looks: its task is due again after an interval, and at a tick
bubbles are shown by the sprites that make a step and by those that swap. -/
def lookahead (f : Firing) : List Nat :=
  (f.stage.schedule.timers.toList.map fun t => t.intervalOf f.activation) ++
    match f.activation with
    | .tick _ => f.stage.sprites.flatMap Sprite.lasts ++
        f.swapped?.toList.map fun _ => f.stage.config.swapMessage
    | .frame _ => []

def reckoned (f : Firing) : List Nat := f.lookahead.map (f.instant + ·)

end Firing

namespace Stage

def reckonedAtStart (s : Stage) : List Nat :=
  if s.isRunning then []
  else [s.clock + max s.schedule.tickInterval 1, s.clock + max s.schedule.frameInterval 1]

def reckonedByPump (s : Stage) : List Nat := s.pumpFirings.flatMap Firing.reckoned

def reckonedByDrive (started limit : Nat) : Nat → Stage → List Nat
  | 0, _ => []
  | count + 1, s =>
    if !s.isRunning then []
    else if s.limitReached started limit then []
    else
      let later := s.advanceClock s.frameStep
      (s.clock + s.frameStep) :: later.reckonedByPump ++ reckonedByDrive started limit count later.pump

end Stage

namespace Operation

def reckoned : Operation → Stage → List Nat
  | start, s => s.reckonedAtStart
  | pump, s => s.reckonedByPump
  | setClock now, _ => [now]
  | advanceClock d, s => [s.clock + d]
  | runUntilIdle limit, s =>
    s.reckonedAtStart ++ Stage.reckonedByDrive s.clock limit (s.frameBound limit) s.start
  | _, _ => []

def reckonedAll : List Operation → Stage → List Nat
  | [], _ => []
  | operation :: operations, s => operation.reckoned s ++ reckonedAll operations (operation.apply s)

end Operation

namespace Stage

variable {s armed : Stage} {d horizon now : Nat} {a : Activation}

/-! ### What is fired -/

theorem due?_shifted_of_none (h : s.due? horizon = none) : (s.shifted d).due? (horizon + d) = none := by
  rw [due?_eq_none, Schedule.next?_eq_none] at h ⊢
  intro t ht
  obtain ⟨timers, htimers, rfl⟩ := Option.map_eq_some_iff.1 ht
  rw [Timers.instant_next_shifted]
  exact Nat.add_lt_add_right (h timers htimers) d

theorem due?_shifted_of_some (h : s.due? horizon = some (a, armed))
    (room : ∀ f : Firing, (s.shifted d).due? (horizon + d) = some (f.activation, f.stage) →
      ∀ n ∈ f.reckoned, n ≤ Instant.last) :
    (s.shifted d).due? (horizon + d) = some (a.shifted d, armed.shifted d) := by
  obtain ⟨rest, hnext, rfl⟩ := due?_eq_some.1 h
  obtain ⟨timers, htimers, rfl, hle, rfl⟩ := Schedule.next?_eq_some.1 hnext
  have hshifted : (s.shifted d).schedule.timers = some (timers.shifted d) := by
    simp [shifted, Schedule.shifted, htimers]
  have hdue : (s.shifted d).due? (horizon + d) = some ((timers.shifted d).next.1,
      (s.shifted d).reschedule
        { (s.shifted d).schedule with timers := some (timers.shifted d).next.2 }) := by
    refine due?_eq_some.2 ⟨_, Schedule.next?_eq_some.2 ⟨_, hshifted, rfl, ?_, rfl⟩, rfl⟩
    rw [Timers.instant_next_shifted]
    exact Nat.add_le_add_right hle d
  have hroom : (timers.shifted d).next.1.instant + timers.intervalOf (timers.shifted d).next.1 ≤
      Instant.last := by
    refine room ⟨_, _⟩ hdue _ (List.mem_map.2 ⟨_, List.mem_append_left _ ?_, rfl⟩)
    exact List.mem_singleton.2 ((timers.shifted d).intervalOf_next _).symm
  rw [hdue, Timers.next_shifted hroom]
  rfl

theorem expireAt_shifted (s : Stage) (d now : Nat) :
    (s.shifted d).expireAt (now + d) = (s.expireAt now).shifted d := by
  have hexpire : ∀ p : Sprite, (p.shifted d).expire (now + d) = (p.expire now).shifted d :=
    fun p => by simp only [Sprite.expire, Sprite.shifted, SpriteState.expire_shifted]
  rw [expireAt_eq, expireAt_eq s, sprites_expireAt, sprites_expireAt]
  simp only [shifted, List.map_map, Function.comp_def, hexpire]

theorem tickWork_shifted
    (room : ∀ n ∈ (⟨s.shifted d, .tick (now + d)⟩ : Firing).reckoned, n ≤ Instant.last) :
    (s.shifted d).tickWork (now + d) = (s.tickWork now).shifted d := by
  have hlook : ∀ n ∈ (⟨s.shifted d, .tick (now + d)⟩ : Firing).lookahead,
      now + d + n ≤ Instant.last :=
    fun n hn => room _ (List.mem_map_of_mem hn)
  have hstep : (s.shifted d).sprites.map (Sprite.step (now + d)) =
      (s.sprites.map (Sprite.step now)).map (Sprite.shifted d) := by
    simp only [shifted, List.map_map]
    refine List.map_congr_left fun p hp => Sprite.step_shifted fun n hn => hlook n ?_
    refine List.mem_append_right _ (List.mem_append_left _ (List.mem_flatMap.2 ⟨p.shifted d, ?_, hn⟩))
    exact List.mem_map_of_mem hp
  have hcheck : (s.shifted d).tickCheck (now + d) =
      ((s.tickCheck now).1.map (Sprite.shifted d), (s.tickCheck now).2.1.shifted d,
        (s.tickCheck now).2.2) := by
    simp only [tickCheck, hstep]
    rw [shifted, Detector.check_shifted]
  cases hpair : (s.tickCheck now).2.2 with
  | none =>
    have hnone : ((s.shifted d).tickCheck (now + d)).2.2 = none := by rw [hcheck, hpair]
    rw [tickWork_of_none hpair, tickWork_of_none hnone, hcheck]
    rfl
  | some pair =>
    have hsome : ((s.shifted d).tickCheck (now + d)).2.2 = some pair := by rw [hcheck, hpair]
    have hmessage : now + d + s.config.swapMessage ≤ Instant.last := by
      refine hlook _ (List.mem_append_right _ (List.mem_append_right _ ?_))
      simp only [Firing.swapped?, hsome]
      exact List.mem_singleton.2 rfl
    rw [tickWork_of_some hpair, tickWork_of_some hsome, hcheck]
    have hswap := swapPrograms_shifted pair.1 pair.2 (s.tickCheck now).1 hmessage
    simp only [shifted, hswap]

theorem fire_shifted (room : ∀ n ∈ (⟨s.shifted d, a.shifted d⟩ : Firing).reckoned, n ≤ Instant.last) :
    (s.shifted d).fire (a.shifted d) = (s.fire a).shifted d := by
  have hidle : ∀ t : Stage, (t.shifted d).allIdle = t.allIdle := by
    intro t
    simp only [allIdle, shifted, List.all_map]
    rfl
  cases a with
  | tick now =>
    simp only [Activation.shifted, fire, tick, hidle, tickWork_shifted room]
    split
    · rfl
    · rfl
  | frame now =>
    simp only [Activation.shifted, fire, frame, hidle, expireAt_shifted]
    split
    · rfl
    · rfl

theorem drain_shifted (count : Nat)
    (room : ∀ n ∈ (drainFirings (horizon + d) count (s.shifted d)).flatMap Firing.reckoned,
      n ≤ Instant.last) :
    drain (horizon + d) count (s.shifted d) = (drain horizon count s).shifted d ∧
      drainFirings (horizon + d) count (s.shifted d) =
        (drainFirings horizon count s).map (Firing.shifted d) := by
  induction count generalizing s with
  | zero => exact ⟨rfl, rfl⟩
  | succ count ih =>
    rw [drainFirings] at room
    rw [drain, drain, drainFirings, drainFirings]
    cases hdue : s.due? horizon with
    | none =>
      rw [due?_shifted_of_none hdue]
      exact ⟨rfl, rfl⟩
    | some found =>
      obtain ⟨a, armed⟩ := found
      have hlater : (s.shifted d).due? (horizon + d) = some (a.shifted d, armed.shifted d) := by
        refine due?_shifted_of_some hdue fun f hf n hn => room n ?_
        rw [hf]
        exact List.mem_append_left _ hn
      rw [hlater] at room ⊢
      obtain ⟨hfirst, hrest⟩ := List.forall_mem_append.1 room
      have hfired := fire_shifted hfirst
      simp only [hfired] at hrest ⊢
      obtain ⟨hdrained, hfirings⟩ := ih hrest
      refine ⟨hdrained, ?_⟩
      rw [hfirings, List.map_cons]
      rfl

/-! ### Pumps and runs -/

theorem drain_add {count : Nat} (hend : (drain horizon count s).due? horizon = none) (more : Nat) :
    drain horizon (count + more) s = drain horizon count s ∧
      drainFirings horizon (count + more) s = drainFirings horizon count s := by
  induction count generalizing s with
  | zero =>
    rw [drain] at hend
    cases more with
    | zero => exact ⟨rfl, rfl⟩
    | succ more => simp [drain, drainFirings, hend]
  | succ count ih =>
    rw [drain] at hend
    rw [Nat.succ_add, drain, drain, drainFirings, drainFirings]
    cases hdue : s.due? horizon with
    | none => exact ⟨rfl, rfl⟩
    | some found =>
      rw [hdue] at hend
      obtain ⟨hdrained, hfirings⟩ := ih hend
      exact ⟨hdrained, congrArg _ hfirings⟩

theorem pump_shifted (early : s.clock + d ≤ Instant.last)
    (room : ∀ n ∈ (s.shifted d).reckonedByPump, n ≤ Instant.last) :
    (s.shifted d).pump = s.pump.shifted d ∧
      (s.shifted d).pumpFirings = s.pumpFirings.map (Firing.shifted d) := by
  have hpending := s.schedule.pending_shifted d s.clock
  obtain ⟨hdrained, hfirings⟩ := drain_shifted (s.shifted d).pumpBound room
  -- If the later clock shows the end of time, its pump might go on; but nothing is left to it.
  have hrounds : drain s.clock (s.shifted d).pumpBound s = s.pump ∧
      drainFirings s.clock (s.shifted d).pumpBound s = s.pumpFirings := by
    rcases Nat.lt_or_ge s.clock Instant.last with hbefore | hlast
    · have hbound : s.pumpBound = s.schedule.pending s.clock := by
        rw [pumpBound, if_pos hbefore, Nat.add_zero]
      have hmore : (s.shifted d).pumpBound = s.pumpBound +
          if s.clock + d < Instant.last then 0 else Instant.last := by
        rw [hbound, ← hpending]
        rfl
      rw [hmore]
      exact drain_add (due?_pump hbefore) _
    · obtain rfl : d = 0 := by omega
      have hsame : (s.shifted 0).pumpBound = s.pumpBound := by
        rw [pumpBound, pumpBound, ← hpending]
        rfl
      rw [hsame]
      exact ⟨rfl, rfl⟩
  rw [hrounds.1] at hdrained
  rw [hrounds.2] at hfirings
  exact ⟨hdrained, hfirings⟩

theorem advanceClock_shifted {e : Nat} (room : s.clock + d + e ≤ Instant.last) :
    (s.shifted d).advanceClock e = (s.advanceClock e).shifted d := by
  have hclock : Instant.after (s.shifted d).clock e = Instant.after s.clock e + d :=
    Instant.after_add room
  rw [advanceClock, advanceClock, hclock]
  rfl

theorem isRunning_shifted (s : Stage) (d : Nat) : (s.shifted d).isRunning = s.isRunning := by
  simp [isRunning, Schedule.isRunning, shifted, Schedule.shifted]

theorem start_shifted (room : ∀ n ∈ (s.shifted d).reckonedAtStart, n ≤ Instant.last) :
    (s.shifted d).start = s.start.shifted d := by
  cases h : s.isRunning with
  | true => rw [start, start, if_pos h, if_pos ((s.isRunning_shifted d).trans h)]
  | false =>
    rw [reckonedAtStart, isRunning_shifted, h] at room
    have htick : s.clock + d + max s.schedule.tickInterval 1 ≤ Instant.last :=
      room _ List.mem_cons_self
    have hframe : s.clock + d + max s.schedule.frameInterval 1 ≤ Instant.last :=
      room _ (List.mem_cons_of_mem _ List.mem_cons_self)
    have hschedule : (s.shifted d).schedule.start (s.clock + d) =
        (s.schedule.start s.clock).shifted d := by
      have hidle : s.schedule.isRunning = false := h
      have hlater : (s.shifted d).schedule.isRunning = false := (s.isRunning_shifted d).trans h
      rw [Schedule.start, Schedule.start, hidle, hlater]
      simp only [shifted, Schedule.shifted, Periodic.startingAt_shifted htick,
        Periodic.startingAt_shifted hframe]
      rfl
    have hsprites : (s.shifted d).sprites.map Sprite.rewound =
        (s.sprites.map Sprite.rewound).map (Sprite.shifted d) := by
      simp only [shifted, List.map_map]
      rfl
    let rewound : Stage :=
      { s.shifted d with
        sprites := (s.sprites.map Sprite.rewound).map (Sprite.shifted d), stats := {} }
    rw [start, start, isRunning_shifted, h, hsprites]
    exact congrArg rewound.reschedule hschedule

theorem drive_shifted (started limit count : Nat) (early : s.clock + d ≤ Instant.last)
    (room : ∀ n ∈ reckonedByDrive (started + d) limit count (s.shifted d), n ≤ Instant.last) :
    drive (started + d) limit count (s.shifted d) =
        ((drive started limit count s).1.shifted d, (drive started limit count s).2) ∧
      driveFirings (started + d) limit count (s.shifted d) =
        (driveFirings started limit count s).map (Firing.shifted d) := by
  have hlimit : ∀ t : Stage, (t.shifted d).limitReached (started + d) limit =
      t.limitReached started limit := by
    intro t
    simp [limitReached, shifted, Nat.add_sub_add_right]
  induction count generalizing s with
  | zero => exact ⟨by rw [drive, drive, isRunning_shifted], rfl⟩
  | succ count ih =>
    rw [reckonedByDrive] at room
    rw [drive, drive, driveFirings, driveFirings]
    simp only [isRunning_shifted, hlimit] at room ⊢
    split
    · exact ⟨rfl, rfl⟩
    · rename_i hrunning
      rw [if_neg hrunning] at room
      split
      · exact ⟨rfl, rfl⟩
      · rename_i hwithin
        rw [if_neg hwithin] at room
        have hframe : (s.shifted d).frameStep = s.frameStep := rfl
        have hclock : s.clock + d + s.frameStep ≤ Instant.last :=
          room _ (List.mem_append_left _ List.mem_cons_self)
        rw [hframe, advanceClock_shifted hclock] at room ⊢
        have hearly : (s.advanceClock s.frameStep).clock + d ≤ Instant.last := by
          rw [clock_advanceClock, Instant.after]
          omega
        obtain ⟨hpump, hfirings⟩ := pump_shifted hearly fun n hn =>
          room n (List.mem_append_left _ (List.mem_cons_of_mem _ hn))
        rw [hpump] at room ⊢
        rw [← clock_pump] at hearly
        obtain ⟨hdriven, hlater⟩ := ih hearly fun n hn => room n (List.mem_append_right _ hn)
        exact ⟨hdriven, by rw [hfirings, hlater, List.map_append]⟩

theorem runUntilIdle_shifted {limit : Nat} (early : s.clock + d ≤ Instant.last)
    (room : ∀ n ∈ (Operation.runUntilIdle limit).reckoned (s.shifted d), n ≤ Instant.last) :
    (s.shifted d).runUntilIdle limit =
        ((s.runUntilIdle limit).1.shifted d, (s.runUntilIdle limit).2) ∧
      (s.shifted d).runFirings limit = (s.runFirings limit).map (Firing.shifted d) := by
  obtain ⟨hstart, hdrive⟩ := List.forall_mem_append.1 room
  rw [start_shifted hstart] at hdrive
  rw [← clock_start] at early
  obtain ⟨hdriven, hfirings⟩ := drive_shifted s.clock limit (s.frameBound limit) early hdrive
  have helapsed : ∀ t : Stage, (t.shifted d).clock - (s.clock + d) = t.clock - s.clock :=
    fun t => Nat.add_sub_add_right ..
  constructor
  · have hbound : (s.shifted d).frameBound limit = s.frameBound limit := rfl
    have hclock : (s.shifted d).clock = s.clock + d := rfl
    simp only [runUntilIdle, start_shifted hstart, hbound, hclock, hdriven, helapsed]
    rfl
  · simp only [runFirings, start_shifted hstart]
    exact hfirings

theorem clock_drive_le (started limit count : Nat) (h : s.clock ≤ Instant.last) :
    (drive started limit count s).1.clock ≤ Instant.last := by
  induction count generalizing s with
  | zero => exact h
  | succ count ih =>
    rw [drive]
    split
    · exact h
    · split
      · exact h
      · refine ih ?_
        rw [clock_pump]
        exact Instant.after_le_last _ _

/-! ### Operations -/

theorem editSelected_shifted (s : Stage) (d : Nat) (e : Edit) :
    (s.shifted d).editSelected e = (s.editSelected e).shifted d := by
  have hindex : (s.shifted d).selectedIndex? = s.selectedIndex? := by
    simp only [selectedIndex?, shifted, List.findIdx?_map]
    rfl
  simp only [editSelected, hindex]
  split
  · rename_i index _
    have hedited : ∀ p : Sprite, (p.edited (e.apply p.program)).shifted d =
        (p.shifted d).edited (e.apply (p.shifted d).program) := fun _ => rfl
    have hsprites : (s.sprites.modify index fun p => p.edited (e.apply p.program)).map
        (Sprite.shifted d) =
          (s.sprites.map (Sprite.shifted d)).modify index fun p => p.edited (e.apply p.program) :=
      map_modify hedited s.sprites index
    simp only [shifted, hsprites]
  · rfl

theorem moveSprite_shifted (s : Stage) (d : Nat) (id : SpriteId) (x y : Float) :
    (s.shifted d).moveSprite id x y = (s.moveSprite id x y).shifted d := by
  simp only [moveSprite, shifted, List.map_map]
  congr 1
  refine List.map_congr_left fun p _ => ?_
  have hid : (p.shifted d).id = p.id := rfl
  simp only [Function.comp_apply, hid]
  split
  · rfl
  · rfl

theorem select_shifted (s : Stage) (d : Nat) (id : SpriteId) :
    (s.shifted d).select id = (s.select id).shifted d := by
  have hfound : (s.shifted d).sprite? id = (s.sprite? id).map (Sprite.shifted d) := List.find?_map
  simp only [select, hfound, Option.isSome_map]
  split
  · rfl
  · rfl

theorem reset_shifted (s : Stage) (d : Nat) : (s.shifted d).reset = s.reset.shifted d := by
  simp only [reset, stop, shifted, List.map_map]
  rfl

theorem createSprite_shifted (s : Stage) (d : Nat) :
    (s.shifted d).createSprite = s.createSprite.shifted d := by
  simp only [createSprite, shifted, List.map_append, List.length_map]
  rfl

theorem apply_shifted (operation : Operation) (early : s.clock + d ≤ Instant.last)
    (room : ∀ n ∈ (operation.shifted d).reckoned (s.shifted d), n ≤ Instant.last) :
    (operation.shifted d).apply (s.shifted d) = (operation.apply s).shifted d ∧
      (operation.shifted d).firings (s.shifted d) =
        (operation.firings s).map (Firing.shifted d) := by
  cases operation with
  | createSprite => exact ⟨s.createSprite_shifted d, rfl⟩
  | select id => exact ⟨s.select_shifted d id, rfl⟩
  | moveSprite id x y => exact ⟨s.moveSprite_shifted d id x y, rfl⟩
  | takeBlockId => exact ⟨rfl, rfl⟩
  | edit e => exact ⟨s.editSelected_shifted d e, rfl⟩
  | start => exact ⟨start_shifted room, rfl⟩
  | stop => exact ⟨rfl, rfl⟩
  | reset => exact ⟨s.reset_shifted d, rfl⟩
  | pump => exact pump_shifted early room
  | expireBubbles => exact ⟨s.expireAt_shifted d s.clock, rfl⟩
  | setClock now => exact ⟨rfl, rfl⟩
  | advanceClock e => exact ⟨advanceClock_shifted (room _ (List.mem_singleton.2 rfl)), rfl⟩
  | runUntilIdle limit =>
    obtain ⟨hrun, hfirings⟩ := runUntilIdle_shifted early room
    exact ⟨congrArg Prod.fst hrun, hfirings⟩

theorem clock_apply_le (operation : Operation) (h : s.clock ≤ Instant.last)
    (room : ∀ n ∈ operation.reckoned s, n ≤ Instant.last) :
    (operation.apply s).clock ≤ Instant.last := by
  cases operation with
  | select id =>
    rw [Operation.apply, select]
    split
    · exact h
    · exact h
  | edit e =>
    rw [Operation.apply, editSelected]
    split
    · exact h
    · exact h
  | start => exact s.clock_start.trans_le h
  | pump => exact s.clock_pump.trans_le h
  | expireBubbles =>
    rw [Operation.apply, expireBubbles, expireAt_eq]
    exact h
  | setClock now => exact room now (List.mem_singleton.2 rfl)
  | advanceClock d => exact Instant.after_le_last _ _
  | runUntilIdle limit =>
    exact clock_drive_le s.clock limit (s.frameBound limit) (s.clock_start.trans_le h)
  | _ => exact h

theorem history_shifted (operations : List Operation) (early : (s.shifted d).clock ≤ Instant.last)
    (room : ∀ n ∈ Operation.reckonedAll (operations.map (Operation.shifted d)) (s.shifted d),
      n ≤ Instant.last) :
    Operation.applyAll (operations.map (Operation.shifted d)) (s.shifted d) =
        (Operation.applyAll operations s).shifted d ∧
      Operation.history (operations.map (Operation.shifted d)) (s.shifted d) =
        (Operation.history operations s).map (Firing.shifted d) ∧
      ((Operation.applyAll operations s).shifted d).clock ≤ Instant.last := by
  induction operations generalizing s with
  | nil => exact ⟨rfl, rfl, early⟩
  | cons operation operations ih =>
    obtain ⟨hfirst, hrest⟩ := List.forall_mem_append.1 room
    obtain ⟨happlied, hfirings⟩ := apply_shifted operation early hfirst
    have hclock := clock_apply_le _ early hfirst
    rw [happlied] at hrest hclock
    obtain ⟨hstage, hlater, hend⟩ := ih hclock hrest
    refine ⟨?_, ?_, hend⟩
    · rw [← happlied] at hstage
      exact hstage
    · rw [List.map_cons, Operation.history, Operation.history, List.map_append, happlied, hfirings,
        hlater]

/-- It does not matter when a stage lives. Of two stages, all instants on the second later by `d`, and of
two lists of operations, all settings of the clock in the second later by `d`, one comes to the same as
the other, later by `d`, as long as no instant that the second reckons with is after the end of time. So
both run or rest together, with the same counts and programs; what is fired, and what is swapped by it,
is the same at each instant; and a run until idle would have the same summary. -/
theorem applyAll_shifted (s : Stage) (d : Nat) (operations : List Operation)
    (early : (s.shifted d).clock ≤ Instant.last) :
    let later := operations.map (Operation.shifted d)
    let t := Operation.applyAll operations s
    let u := Operation.applyAll later (s.shifted d)
    (∀ n ∈ Operation.reckonedAll later (s.shifted d), n ≤ Instant.last) →
      u = t.shifted d ∧
        u.isRunning = t.isRunning ∧ u.stats = t.stats ∧ u.programs = t.programs ∧
        Operation.history later (s.shifted d) =
          (Operation.history operations s).map (Firing.shifted d) ∧
        ∀ limit, (∀ n ∈ (Operation.runUntilIdle limit).reckoned u, n ≤ Instant.last) →
          (u.runUntilIdle limit).2 = (t.runUntilIdle limit).2 := by
  intro later t u room
  obtain ⟨hstage, hhistory, hclock⟩ := history_shifted operations early room
  have hu : u = t.shifted d := hstage
  refine ⟨hstage, ?_, ?_, ?_, hhistory, ?_⟩
  · rw [hu, isRunning_shifted]
  · rw [hu, shifted]
  · rw [hu, programs, programs, shifted, List.map_map]
    rfl
  · intro limit hlimit
    rw [hu] at hlimit ⊢
    rw [(runUntilIdle_shifted hclock hlimit).1]

theorem applyAll_shifted_bystander :
    let s := withBystander
      { tickInterval := 3, frameInterval := 10, collisionCooldown := 4, swapMessage := 5 }
    let d := Instant.last - 53
    let operations : List Operation :=
      [.start, .setClock 7, .pump, .advanceClock 6, .expireBubbles, .pump, .reset, .runUntilIdle 30]
    let later := operations.map (Operation.shifted d)
    let t := Operation.applyAll operations s
    let u := Operation.applyAll later (s.shifted d)
    (s.shifted d).clock ≤ Instant.last ∧
      (∀ n ∈ Operation.reckonedAll later (s.shifted d), n ≤ Instant.last) ∧
      Instant.last ∈ Operation.reckonedAll later (s.shifted d) ∧
      u = t.shifted d ∧ u.stats = ⟨10, 5⟩ ∧ u.isRunning = false ∧ u.programs = t.programs ∧
      Operation.history later (s.shifted d) =
        (Operation.history operations s).map (Firing.shifted d) ∧
      (u.runUntilIdle 0).2 = (t.runUntilIdle 0).2 := by
  intro s d operations later t u
  have early : (s.shifted d).clock ≤ Instant.last := by decide +kernel
  have room : ∀ n ∈ Operation.reckonedAll later (s.shifted d), n ≤ Instant.last := by decide +kernel
  have hlast : Instant.last ∈ Operation.reckonedAll later (s.shifted d) := by decide +kernel
  obtain ⟨hstage, hrunning, hstats, hprograms, hhistory, hsummary⟩ :=
    s.applyAll_shifted d operations early room
  have hcounts : t.stats = ⟨10, 5⟩ := by decide +kernel
  have hidle : t.isRunning = false := by decide +kernel
  have hagain : ∀ n ∈ (Operation.runUntilIdle 0).reckoned u, n ≤ Instant.last := by decide +kernel
  exact ⟨early, room, hlast, hstage, hstats.trans hcounts, hrunning.trans hidle, hprograms, hhistory,
    hsummary 0 hagain⟩

end Stage

end SpriteStage
