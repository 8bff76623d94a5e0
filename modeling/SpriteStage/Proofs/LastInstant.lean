import Mathlib.Algebra.Order.BigOperators.Group.List
import Mathlib.Algebra.Order.Group.Nat
import SpriteStage.Proofs.Completion
import SpriteStage.Proofs.Deadlines
import SpriteStage.Proofs.Draining
import SpriteStage.Proofs.Cooldown
/-!
A pump at the end of time. The tasks cannot move on any more there, and a tick comes before a frame,
so ticks follow each other until one of them finds all sprites idle. Every tick brings each sprite one
step nearer to that, and only a swap of blocks takes a sprite back. So the pump comes to an end unless
its ticks swap blocks again and again. With a cooldown of at least one they cannot: the detector is
spent after the first of them.
-/

namespace SpriteStage

namespace Sprite

def stepsLeft (p : Sprite) : Nat := if p.isIdle then 0 else p.program.length - p.cursor + 1

variable {p : Sprite}

theorem stepsLeft_of_idle (h : p.isIdle = true) : p.stepsLeft = 0 := if_pos h

theorem stepsLeft_eq_zero_iff : p.stepsLeft = 0 ↔ p.isIdle = true := by
  unfold stepsLeft
  split <;> simp_all

theorem stepsLeft_le (p : Sprite) : p.stepsLeft ≤ p.program.length + 1 := by
  unfold stepsLeft
  split <;> omega

theorem stepsLeft_step (now : Nat) (p : Sprite) : (p.step now).stepsLeft = p.stepsLeft - 1 := by
  by_cases hidle : p.isIdle = true
  · rw [step_of_idle hidle, stepsLeft_of_idle hidle]
  · have hactive : p.complete = false ∧ p.program.isEmpty = false := by
      simpa [isIdle] using hidle
    have hleft : p.stepsLeft = p.program.length - p.cursor + 1 := if_neg hidle
    rw [Sprite.step, if_neg hidle, hleft]
    cases hget : p.program.get? p.cursor with
    | some b =>
      have hinside : p.cursor < p.program.length := (List.getElem?_eq_some_iff.1 hget).1
      have hempty : (p.program.markExecuted p.cursor).isEmpty = false := by
        simpa [Program.isEmpty, Program.markExecuted] using hactive.2
      simp only [stepsLeft, isIdle, hactive.1, hempty, Program.length_markExecuted]
      simp only [Bool.or_self, Bool.false_eq_true, if_false]
      omega
    | none =>
      have hend : p.program.length ≤ p.cursor := List.getElem?_eq_none_iff.1 hget
      simp only [stepsLeft, isIdle, Bool.true_or, if_true]
      omega

theorem stepsLeft_takeOver {program : Program} (h : program.isEmpty = true) (p : Sprite)
    (giver : String) (expiresAt : Nat) : (p.takeOver program giver expiresAt).stepsLeft = 0 := by
  have hidle : (p.takeOver program giver expiresAt).isIdle = true := by
    simp [isIdle, takeOver, edited, h]
  exact stepsLeft_of_idle hidle

end Sprite

theorem Program.Reflagged.length_eq {p q : Program} (h : p.Reflagged q) : q.length = p.length := by
  cases h with
  | same => rfl
  | marked index => exact length_markExecuted p index
  | cleared => simp [Program.length, Program.cleared]

theorem Rearranged.length_le {ps qs : List Program} {L : Nat} (h : Rearranged ps qs)
    (short : ∀ p ∈ ps, p.length ≤ L) : ∀ q ∈ qs, q.length ≤ L :=
  h.forall_mem (fun _ _ hflags hp => hflags.length_eq.trans_le hp) short

namespace Stage

variable {s t armed : Stage} {n now : Nat} {a : Activation} {as : List Activation}

/-! ### What a tick leaves to do -/

def Within (n : Nat) (s : Stage) : Prop := s.All fun p => p.stepsLeft ≤ n

theorem exists_within (s : Stage) : ∃ n, s.Within n := by
  refine ⟨(s.sprites.map Sprite.stepsLeft).sum, fun p hp => ?_⟩
  exact List.le_sum_of_mem (List.mem_map_of_mem hp)

theorem within_zero_iff : s.Within 0 ↔ s.allIdle = true := by
  rw [allIdle, List.all_eq_true]
  exact forall₂_congr fun p _ => Nat.le_zero.trans Sprite.stepsLeft_eq_zero_iff

theorem Within.tickWork (h : s.Within n) (calm : ¬ s.SwapsBlocks (.tick now)) :
    (s.tickWork now).Within (n - 1) := by
  have hstepped : ∀ p ∈ (s.tickCheck now).1, p.stepsLeft ≤ n - 1 := by
    refine List.forall_mem_map.2 fun p hp => ?_
    rw [Sprite.stepsLeft_step]
    exact Nat.sub_le_sub_right (h p hp) 1
  cases hpair : (s.tickCheck now).2.2 with
  | none =>
    rw [Within, All, sprites_tickWork_of_none hpair]
    exact hstepped
  | some pair =>
    obtain ⟨first, second⟩ := pair
    obtain ⟨a, b, hne, ha, hb⟩ := exists_of_tickCheck hpair
    have hempty : a.program.isEmpty = true ∧ b.program.isEmpty = true := by
      rw [swapsBlocks_tick_iff hpair ha hb] at calm
      simpa using calm
    rw [Within, All, sprites_tickWork_of_some hpair, swapPrograms_eq_set ha hb hne]
    intro p hp
    rcases mem_set_set hp with hold | rfl | rfl
    · exact hstepped p hold
    · exact (Sprite.stepsLeft_takeOver hempty.2 _ _ _).le.trans (Nat.zero_le _)
    · exact (Sprite.stepsLeft_takeOver hempty.1 _ _ _).le.trans (Nat.zero_le _)

/-! ### The tasks at the end of time -/

def AtLast (s : Stage) : Prop :=
  ∃ timers, s.schedule.timers = some timers ∧ timers.tick.due = Instant.last ∧
    timers.frame.due = Instant.last

theorem AtLast.exists_due? (h : s.AtLast) :
    ∃ rest, s.due? Instant.last = some (.tick Instant.last, s.reschedule rest) ∧
      (s.reschedule rest).AtLast := by
  obtain ⟨timers, htimers, htick, hframe⟩ := h
  have hnext : timers.next = (.tick Instant.last, { timers with tick := timers.tick.fired }) := by
    rw [Timers.next_of_tick (by omega), htick]
  have hfired : timers.tick.fired.due = Instant.last := by
    simp only [Periodic.fired, htick, Instant.after]
    omega
  refine ⟨{ s.schedule with timers := some timers.next.2 }, ?_, ?_⟩
  · refine due?_eq_some.2 ⟨_, Schedule.next?_eq_some.2 ⟨timers, htimers, ?_, ?_, rfl⟩, rfl⟩
    · rw [hnext]
    · exact Nat.le_refl _
  · exact ⟨timers.next.2, rfl, by rw [hnext]; exact hfired, by rw [hnext]; exact hframe⟩

theorem AtLast.exists_tick (h : s.AtLast) :
    ∃ armed t, s.due? Instant.last = some (.tick Instant.last, armed) ∧
      armed = s.reschedule armed.schedule ∧ t = armed.fire (.tick Instant.last) ∧
      Fires Instant.last s [.tick Instant.last] t ∧
      (s.allIdle = true ∧ t.isRunning = false ∨
        s.allIdle = false ∧ t = armed.tickWork Instant.last ∧ t.AtLast) := by
  obtain ⟨rest, hdue, harmed⟩ := h.exists_due?
  refine ⟨_, _, hdue, rfl, rfl, .step hdue (.stay _), ?_⟩
  cases hidle : s.allIdle with
  | true =>
    have hfound : (s.reschedule rest).allIdle = true := hidle
    have hended : (s.reschedule rest).fire (.tick Instant.last) =
        ((s.reschedule rest).tickWork Instant.last).stop := by
      simp [fire, tick, hfound]
    rw [hended]
    exact Or.inl ⟨rfl, Schedule.isRunning_stop _⟩
  | false =>
    have hfound : (s.reschedule rest).allIdle = false := hidle
    have hworked : (s.reschedule rest).fire (.tick Instant.last) =
        (s.reschedule rest).tickWork Instant.last := by
      simp [fire, tick, hfound]
    refine Or.inr ⟨rfl, hworked, ?_⟩
    rw [hworked, AtLast, schedule_tickWork]
    exact harmed

theorem exists_fires_atLast (timely : s.schedule.Timely) :
    ∃ as t, Fires Instant.last s as t ∧ as.length ≤ s.schedule.pending (Instant.last - 1) ∧
      (t.isRunning = false ∨ t.AtLast) := by
  have early : Instant.last - 1 < Instant.last := by decide
  obtain ⟨as, hfires⟩ := drain_fires (Instant.last - 1) (s.schedule.pending (Instant.last - 1)) s
  have hend := due?_drain early (s.schedule.pending (Instant.last - 1)) s (Nat.le_refl _)
  have hcount := hfires.length_add_pending_le early
  have hmore := hfires.mono (Nat.sub_le Instant.last 1)
  refine ⟨as, _, hmore, by omega, ?_⟩
  refine (due?_eq_none_iff.1 hend).imp_right ?_
  rintro ⟨timers, htimers, htick, hframe⟩
  have hdue := Schedule.kept_timely.fires timely hmore timers htimers
  exact ⟨timers, htimers, by omega, by omega⟩

theorem isRunning_eq_false_of_due? (timely : s.schedule.Timely)
    (hend : s.due? Instant.last = none) : s.isRunning = false := by
  refine (due?_eq_none_iff.1 hend).resolve_right ?_
  rintro ⟨timers, htimers, htick, -⟩
  have hdue := (timely timers htimers).1
  omega

/-! ### A pump that ends -/

def Calm (s : Stage) : Prop :=
  ∀ as t a armed, Fires Instant.last s as t → t.due? Instant.last = some (a, armed) →
    ¬ armed.SwapsBlocks a

theorem Calm.fires (calm : s.Calm) (hfires : Fires Instant.last s as t) : t.Calm :=
  fun bs u a armed hmore hdue => calm (as ++ bs) u a armed (hfires.append hmore) hdue

theorem Calm.exists_end (calm : s.Calm) (hlast : s.AtLast) (hwithin : s.Within n) :
    ∃ as t, Fires Instant.last s as t ∧ t.isRunning = false ∧ as.length ≤ n + 1 := by
  induction n generalizing s with
  | zero =>
    obtain ⟨armed, t, -, -, -, hone, ⟨-, hstopped⟩ | ⟨hactive, -⟩⟩ := hlast.exists_tick
    · exact ⟨_, t, hone, hstopped, by simp⟩
    · rw [within_zero_iff.1 hwithin] at hactive
      cases hactive
  | succ n ih =>
    obtain ⟨armed, t, hdue, harmed, -, hone, ⟨-, hstopped⟩ | ⟨-, hworked, hnext⟩⟩ := hlast.exists_tick
    · exact ⟨_, t, hone, hstopped, by simp⟩
    · have hbefore : armed.Within (n + 1) := by
        rw [harmed]
        exact hwithin
      have hless : t.Within n := by
        rw [hworked]
        exact hbefore.tickWork (calm [] s _ _ (.stay s) hdue)
      obtain ⟨as, u, hfires, hstopped, hcount⟩ := ih (calm.fires hone) hnext hless
      exact ⟨_, u, hone.append hfires, hstopped, by simpa using hcount⟩

theorem Calm.exists_stopped (calm : s.Calm) (timely : s.schedule.Timely) :
    ∃ as t, Fires Instant.last s as t ∧ t.isRunning = false := by
  obtain ⟨as, t, hfires, -, hidle | hlast⟩ := exists_fires_atLast timely
  · exact ⟨as, t, hfires, hidle⟩
  · obtain ⟨n, hwithin⟩ := t.exists_within
    obtain ⟨bs, u, hmore, hstopped, -⟩ := (calm.fires hfires).exists_end hlast hwithin
    exact ⟨as ++ bs, u, hfires.append hmore, hstopped⟩

/-- Whether a pump at the end of time swaps blocks again and again. -/
def SwapsForever (s : Stage) : Prop :=
  ∀ n, ∃ as t a armed, n ≤ as.length ∧ Fires Instant.last s as t ∧
    t.due? Instant.last = some (a, armed) ∧ armed.SwapsBlocks a

theorem exists_fires_length (horizon count : Nat) (s : Stage) :
    ∃ as t, Fires horizon s as t ∧ (as.length = count ∨ t.due? horizon = none) := by
  induction count generalizing s with
  | zero => exact ⟨[], s, .stay s, Or.inl rfl⟩
  | succ count ih =>
    cases hdue : s.due? horizon with
    | none => exact ⟨[], s, .stay s, Or.inr hdue⟩
    | some found =>
      obtain ⟨a, armed⟩ := found
      obtain ⟨as, t, hfires, hend⟩ := ih (armed.fire a)
      exact ⟨a :: as, t, .step hdue hfires, hend.imp_left (by simp)⟩

theorem not_swapsForever_of_fires (hfires : Fires Instant.last s as t)
    (hend : t.due? Instant.last = none) : ¬ s.SwapsForever := by
  intro hforever
  obtain ⟨bs, u, a, armed, hlong, hmore, -⟩ := hforever (as.length + 1)
  obtain ⟨cs, rfl, -⟩ := hmore.exists_append hfires hend
  rw [List.length_append] at hlong
  omega

theorem exists_stopped_of_not_swapsForever (timely : s.schedule.Timely)
    (finite : ¬ s.SwapsForever) : ∃ as t, Fires Instant.last s as t ∧ t.isRunning = false := by
  simp only [SwapsForever, not_forall, not_exists] at finite
  obtain ⟨n, hlate⟩ := finite
  obtain ⟨as, t, hfires, hcount | hend⟩ := exists_fires_length Instant.last n s
  · have calm : t.Calm := by
      intro bs u a armed hmore hdue hswaps
      refine hlate (as ++ bs) u a armed ⟨?_, hfires.append hmore, hdue, hswaps⟩
      rw [List.length_append]
      omega
    obtain ⟨bs, u, hmore, hstopped⟩ :=
      calm.exists_stopped (Schedule.kept_timely.fires timely hfires)
    exact ⟨as ++ bs, u, hfires.append hmore, hstopped⟩
  · exact ⟨as, t, hfires,
      isRunning_eq_false_of_due? (Schedule.kept_timely.fires timely hfires) hend⟩

/-! ### A cooldown -/

def Spent (s : Stage) : Prop := s.detector.ready s.config.collisionCooldown Instant.last = false

theorem Spent.not_ready (spent : s.Spent) (h : now ≤ Instant.last) :
    s.detector.ready s.config.collisionCooldown now = false := by
  unfold Spent Detector.ready at spent
  unfold Detector.ready
  cases hlast : s.detector.lastCheck with
  | none => simp [hlast] at spent
  | some last =>
    simp only [hlast, Option.all_some, decide_eq_false_iff_not] at spent ⊢
    omega

theorem Spent.not_swapsBlocks (spent : s.Spent) (h : a.instant ≤ Instant.last) :
    ¬ s.SwapsBlocks a := by
  cases a with
  | tick now =>
    rintro ⟨first, second, p, q, hpair, -⟩
    have hready := Detector.ready_of_check hpair
    have hwaiting : s.detector.ready s.config.collisionCooldown now = false := spent.not_ready h
    rw [hwaiting] at hready
    cases hready
  | frame now => exact id

theorem Spent.fire (spent : s.Spent) (h : a.instant ≤ Instant.last) : (s.fire a).Spent := by
  have hdetector : (s.fire a).detector = s.detector := by
    cases a with
    | tick now =>
      rw [detector_tick]
      exact congrArg Prod.snd (Detector.check_of_not_ready (spent.not_ready h))
    | frame now => exact s.detector_frame now
  rw [Spent, hdetector, config_fire]
  exact spent

theorem spent_fire_tick (cooldown : 1 ≤ s.config.collisionCooldown) :
    (s.fire (.tick Instant.last)).Spent := by
  rw [Spent, config_fire, detector_tick]
  cases hready : s.detector.ready s.config.collisionCooldown Instant.last with
  | true =>
    have hchecked : (s.tickCheck Instant.last).2.1 = ⟨some Instant.last⟩ :=
      congrArg Prod.snd (Detector.check_of_ready hready)
    rw [hchecked]
    simp only [Detector.ready, Option.all_some, Nat.sub_self, decide_eq_false_iff_not]
    omega
  | false =>
    have hskipped : (s.tickCheck Instant.last).2.1 = s.detector :=
      congrArg Prod.snd (Detector.check_of_not_ready hready)
    rw [hskipped]
    exact hready

theorem Spent.calm (spent : s.Spent) : s.Calm := by
  intro as t a armed hfires
  induction hfires with
  | stay s =>
    intro hdue
    obtain ⟨rest, hnext, rfl⟩ := due?_eq_some.1 hdue
    obtain ⟨timers, -, -, hinstant, -⟩ := Schedule.next?_eq_some.1 hnext
    exact Spent.not_swapsBlocks spent hinstant
  | @step s first t b bs hdue _ ih =>
    obtain ⟨rest, hnext, rfl⟩ := due?_eq_some.1 hdue
    obtain ⟨timers, -, -, hinstant, -⟩ := Schedule.next?_eq_some.1 hnext
    exact ih (Spent.fire (s := { s with schedule := rest }) spent hinstant)

theorem exists_end_of_cooldown {L : Nat} (timely : s.schedule.Timely)
    (cooldown : 1 ≤ s.config.collisionCooldown) (short : ∀ p ∈ s.programs, p.length ≤ L) :
    ∃ as t, Fires Instant.last s as t ∧ t.isRunning = false ∧
      as.length ≤ s.schedule.pending (Instant.last - 1) + L + 3 := by
  obtain ⟨as, t, hfires, hcount, hidle | hlast⟩ := exists_fires_atLast timely
  · exact ⟨as, t, hfires, hidle, by omega⟩
  · obtain ⟨armed, u, -, harmed, hfired, hone, ⟨-, hstopped⟩ | ⟨-, -, hnext⟩⟩ := hlast.exists_tick
    · refine ⟨_, u, hfires.append hone, hstopped, ?_⟩
      rw [List.length_append, List.length_singleton]
      omega
    · have hcooldown : 1 ≤ armed.config.collisionCooldown := by
        rw [harmed, reschedule, steady_config.fires hfires]
        exact cooldown
      have spent : u.Spent := by
        rw [hfired]
        exact spent_fire_tick hcooldown
      have hwithin : u.Within (L + 1) := by
        have hlengths := (steady_rearranged.fires (hfires.append hone)).length_le short
        intro p hp
        have hlength := hlengths p.program (List.mem_map_of_mem hp)
        have hleft := p.stepsLeft_le
        omega
      obtain ⟨bs, v, hmore, hstopped, hrest⟩ := spent.calm.exists_end hnext hwithin
      refine ⟨_, v, (hfires.append hone).append hmore, hstopped, ?_⟩
      simp only [List.length_append, List.length_singleton]
      omega

theorem not_swapsForever_of_cooldown (timely : s.schedule.Timely)
    (cooldown : 1 ≤ s.config.collisionCooldown) : ¬ s.SwapsForever := by
  have short : ∀ p ∈ s.programs, p.length ≤ (s.programs.map Program.length).sum :=
    fun p hp => List.le_sum_of_mem (List.mem_map_of_mem hp)
  obtain ⟨as, t, hfires, hstopped, -⟩ := exists_end_of_cooldown timely cooldown short
  exact not_swapsForever_of_fires hfires (due?_of_idle hstopped _)

end Stage

end SpriteStage
