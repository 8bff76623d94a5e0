import SpriteStage.Proofs.Deadlines
import SpriteStage.Proofs.Unrolling
/-!
Sprites and schedules at a later time. Their instants are only compared with others and set some time
after others. So if they are all later by some time, whatever happens to a sprite or a task comes to the
same, later by as much; only the end of time does not move, so there must be room for the bubbles that
are shown and for the tasks that are due again.
-/

namespace SpriteStage

theorem Instant.after_add {t d e : Nat} (room : t + d + e ≤ last) :
    after (t + d) e = after t e + d := by
  unfold after
  omega

/-! ### Later by some time -/

def Bubble.shifted (d : Nat) (b : Bubble) : Bubble := { b with expiresAt := b.expiresAt + d }

def SpriteState.shifted (d : Nat) (s : SpriteState) : SpriteState :=
  { s with say := s.say.map (Bubble.shifted d), think := s.think.map (Bubble.shifted d) }

def Sprite.shifted (d : Nat) (p : Sprite) : Sprite := { p with state := p.state.shifted d }

def Periodic.shifted (d : Nat) (p : Periodic) : Periodic := { p with due := p.due + d }

def Activation.shifted (d : Nat) : Activation → Activation
  | .tick now => .tick (now + d)
  | .frame now => .frame (now + d)

def Timers.shifted (d : Nat) (t : Timers) : Timers := ⟨t.tick.shifted d, t.frame.shifted d⟩

def Schedule.shifted (d : Nat) (s : Schedule) : Schedule :=
  { s with timers := s.timers.map (Timers.shifted d) }

def Detector.shifted (d : Nat) (memory : Detector) : Detector := ⟨memory.lastCheck.map (· + d)⟩

def Action.lasts? : Action → Option Nat
  | .say _ seconds | .think _ seconds =>
    some (if 0 < seconds * 1000 then wholeMillis (seconds * 1000) else 0)
  | _ => none

def Sprite.lasts (p : Sprite) : List Nat :=
  if p.isIdle then []
  else (p.program.get? p.cursor).toList.flatMap fun b =>
    (Block.within maxNesting (b.unrolled 0)).filterMap Action.lasts?

def Timers.intervalOf (t : Timers) : Activation → Nat
  | .tick _ => t.tick.interval
  | .frame _ => t.frame.interval

/-! ### Blocks and sprites -/

section Sprites

variable {d now : Nat} {p : Sprite}

theorem deadline_shifted {seconds : Float}
    (room : now + d + (if 0 < seconds * 1000 then wholeMillis (seconds * 1000) else 0) ≤ Instant.last) :
    deadline (now + d) seconds = deadline now seconds + d := by
  unfold deadline
  simp only
  split
  · rename_i hpositive
    rw [if_pos hpositive] at room
    exact Instant.after_add room
  · rfl

theorem SpriteState.apply_shifted (s : SpriteState) {action : Action}
    (room : ∀ n ∈ action.lasts?, now + d + n ≤ Instant.last) :
    action.apply (now + d) (s.shifted d) = (action.apply now s).shifted d := by
  cases action with
  | say text seconds =>
    simp only [Action.apply, deadline_shifted (room _ rfl)]
    rfl
  | think text seconds =>
    simp only [Action.apply, deadline_shifted (room _ rfl)]
    rfl
  | turn degrees rotation => cases rotation <;> rfl
  | _ => rfl

theorem SpriteState.perform_shifted (s : SpriteState) {actions : List Action}
    (room : ∀ n ∈ actions.filterMap Action.lasts?, now + d + n ≤ Instant.last) :
    perform (now + d) (s.shifted d) actions = (perform now s actions).shifted d := by
  induction actions generalizing s with
  | nil => rfl
  | cons action actions ih =>
    have hfirst : ∀ n ∈ action.lasts?, now + d + n ≤ Instant.last :=
      fun n hn => room n (List.mem_filterMap.2 ⟨action, List.mem_cons_self, hn⟩)
    have hrest : ∀ n ∈ actions.filterMap Action.lasts?, now + d + n ≤ Instant.last := by
      intro n hn
      obtain ⟨other, hother, hlasts⟩ := List.mem_filterMap.1 hn
      exact room n (List.mem_filterMap.2 ⟨other, List.mem_cons_of_mem _ hother, hlasts⟩)
    simp only [perform, List.foldl_cons, s.apply_shifted hfirst]
    exact ih _ hrest

theorem Sprite.step_shifted (room : ∀ n ∈ p.lasts, now + d + n ≤ Instant.last) :
    (p.shifted d).step (now + d) = (p.step now).shifted d := by
  have hidle : (p.shifted d).isIdle = p.isIdle := rfl
  by_cases h : p.isIdle = true
  · rw [step, step, if_pos h, if_pos (hidle.trans h)]
  · rw [step, step, if_neg h, if_neg (hidle ▸ h)]
    have hget : (p.shifted d).program.get? (p.shifted d).cursor = p.program.get? p.cursor := rfl
    rw [hget]
    cases hb : p.program.get? p.cursor with
    | none => rfl
    | some b =>
      simp only [lasts, if_neg h, hb, Option.toList_some, List.flatMap_singleton] at room
      have hrun : b.execute (now + d) (p.state.shifted d) = (b.execute now p.state).shifted d := by
        rw [Block.execute, Block.execute, Block.run_eq_perform, Block.run_eq_perform]
        exact p.state.perform_shifted room
      simp only [shifted, hrun]

theorem SpriteState.expire_shifted (s : SpriteState) (d now : Nat) :
    (s.shifted d).expire (now + d) = (s.expire now).shifted d := by
  have hexpired : ∀ bubble : Option Bubble,
      (bubble.map (Bubble.shifted d)).filter (!·.isExpired (now + d)) =
        (bubble.filter (!·.isExpired now)).map (Bubble.shifted d) := by
    intro bubble
    cases bubble with
    | none => rfl
    | some b =>
      have hsame : (b.shifted d).isExpired (now + d) = b.isExpired now := by
        simp [Bubble.isExpired, Bubble.shifted]
      simp only [Option.map_some, Option.filter, hsame]
      split
      · rfl
      · rfl
  simp only [expire, shifted, hexpired]

theorem Detector.check_shifted (memory : Detector) (c : Config) (d now : Nat) (sprites : List Sprite) :
    (memory.shifted d).check c (now + d) (sprites.map (Sprite.shifted d)) =
      ((memory.check c now sprites).1, (memory.check c now sprites).2.shifted d) := by
  have hready : (memory.shifted d).ready c.collisionCooldown (now + d) =
      memory.ready c.collisionCooldown now := by
    cases hlast : memory.lastCheck with
    | none => simp [ready, shifted, hlast]
    | some last => simp [ready, shifted, hlast, Nat.add_sub_add_right]
  have hboxes : (sprites.map (Sprite.shifted d)).map c.bounds = sprites.map c.bounds := by
    rw [List.map_map]
    rfl
  simp only [check, hready, hboxes]
  split
  · rfl
  · rfl

theorem swapPrograms_shifted {c : Config} (first second : Nat) (sprites : List Sprite)
    (room : now + d + c.swapMessage ≤ Instant.last) :
    swapPrograms c (now + d) first second (sprites.map (Sprite.shifted d)) =
      (swapPrograms c now first second sprites).map (Sprite.shifted d) := by
  simp only [swapPrograms, List.getElem?_map, Instant.after_add room]
  cases ha : sprites[first]? with
  | none => rfl
  | some a =>
    cases hb : sprites[second]? with
    | none => rfl
    | some b =>
      simp only [Option.map_some]
      split
      · rw [List.map_set]
        rfl
      · rw [List.map_set, List.map_set]
        rfl

end Sprites

/-! ### Schedules -/

namespace Periodic

theorem startingAt_shifted {d now interval : Nat} (room : now + d + max interval 1 ≤ Instant.last) :
    startingAt (now + d) interval = (startingAt now interval).shifted d := by
  simp only [startingAt, shifted, Instant.after_add room]

theorem fired_shifted {p : Periodic} {d : Nat} (room : p.due + d + p.interval ≤ Instant.last) :
    (p.shifted d).fired = p.fired.shifted d := by
  simp only [fired, shifted, Instant.after_add room]

theorem pending_shifted (p : Periodic) (d horizon : Nat) :
    (p.shifted d).pending (horizon + d) = p.pending horizon := by
  simp [pending, shifted, Nat.add_sub_add_right]

end Periodic

theorem Timers.intervalOf_next (t : Timers) (a : Activation) :
    t.next.2.intervalOf a = t.intervalOf a := by
  cases a with
  | tick now => exact t.intervals_next.1
  | frame now => exact t.intervals_next.2

theorem Timers.next_shifted {t : Timers} {d : Nat}
    (room : (t.shifted d).next.1.instant + t.intervalOf (t.shifted d).next.1 ≤ Instant.last) :
    (t.shifted d).next = (t.next.1.shifted d, t.next.2.shifted d) := by
  by_cases hfirst : t.frame.due < t.tick.due
  · have hlater : (t.shifted d).frame.due < (t.shifted d).tick.due := Nat.add_lt_add_right hfirst d
    rw [next_of_frame hlater] at room ⊢
    rw [next_of_frame hfirst]
    have hfired : (t.frame.shifted d).fired = t.frame.fired.shifted d := Periodic.fired_shifted room
    simp only [Activation.shifted, Timers.shifted, hfired]
    rfl
  · have hle := Nat.not_lt.1 hfirst
    have hlater : (t.shifted d).tick.due ≤ (t.shifted d).frame.due := Nat.add_le_add_right hle d
    rw [next_of_tick hlater] at room ⊢
    rw [next_of_tick hle]
    have hfired : (t.tick.shifted d).fired = t.tick.fired.shifted d := Periodic.fired_shifted room
    simp only [Activation.shifted, Timers.shifted, hfired]
    rfl

theorem Timers.instant_next_shifted (t : Timers) (d : Nat) :
    (t.shifted d).next.1.instant = t.next.1.instant + d := by
  rw [instant_next, instant_next]
  exact Nat.add_min_add_right ..

theorem Schedule.pending_shifted (s : Schedule) (d horizon : Nat) :
    (s.shifted d).pending (horizon + d) = s.pending horizon := by
  cases htimers : s.timers with
  | none => simp [pending, shifted, htimers]
  | some t => simp [pending, shifted, htimers, Timers.pending, Timers.shifted, Periodic.pending_shifted]

end SpriteStage
