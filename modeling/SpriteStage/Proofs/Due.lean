import SpriteStage.Schedule
/-!
What is due. The activation that a schedule yields next does not depend on how far ahead one looks,
as long as it is within sight, and before the end of time every activation that is taken leaves one
less to come. So the number of pending activations measures the work of emptying a schedule.
-/

namespace SpriteStage

namespace Periodic

theorem due_fired {p : Periodic} {start d : Nat} (h : p.due = Instant.after start d) :
    p.fired.due = Instant.after start (d + p.interval) := by
  simp only [fired, h, Instant.after_after]

theorem pending_eq_zero {p : Periodic} {horizon : Nat} (h : horizon < p.due) :
    p.pending horizon = 0 := by
  simp [pending, Nat.not_le.2 h]

theorem pending_mono (p : Periodic) {near far : Nat} (h : near ≤ far) :
    p.pending near ≤ p.pending far := by
  by_cases hdue : p.due ≤ near
  · have hdiv : (near - p.due) / p.interval ≤ (far - p.due) / p.interval :=
      Nat.div_le_div_right (Nat.sub_le_sub_right h _)
    have hlater : p.due ≤ far := Nat.le_trans hdue h
    simp only [pending, hdue, hlater, if_true]
    omega
  · rw [pending_eq_zero (Nat.lt_of_not_le hdue)]
    exact Nat.zero_le _

theorem pending_fired {p : Periodic} {horizon : Nat} (early : horizon < Instant.last)
    (h : p.due ≤ horizon) : p.fired.pending horizon + 1 = p.pending horizon := by
  have hpos := p.interval_pos
  by_cases hnext : p.due + p.interval ≤ horizon
  · have hdue : p.fired.due = p.due + p.interval := Instant.after_eq_add (by omega)
    have hsplit : horizon - p.due = horizon - (p.due + p.interval) + p.interval := by omega
    have hdiv : (horizon - p.due) / p.interval =
        (horizon - (p.due + p.interval)) / p.interval + 1 := by
      rw [hsplit, Nat.add_div_right _ hpos]
    have hinterval : p.fired.interval = p.interval := rfl
    simp [pending, h, hdue, hnext, hdiv, hinterval]
  -- Past the horizon it does not matter whether the end of time cut the next firing off.
  · have hlate : horizon < p.fired.due := by
      simp only [fired, Instant.after]
      omega
    have hdiv : (horizon - p.due) / p.interval = 0 := Nat.div_eq_of_lt (by omega)
    rw [pending_eq_zero hlate]
    simp [pending, h, hdiv]

end Periodic

namespace Timers

theorem next_of_frame {t : Timers} (h : t.frame.due < t.tick.due) :
    t.next = (.frame t.frame.due, { t with frame := t.frame.fired }) := by
  simp [next, h]

theorem next_of_tick {t : Timers} (h : t.tick.due ≤ t.frame.due) :
    t.next = (.tick t.tick.due, { t with tick := t.tick.fired }) := by
  simp [next, Nat.not_lt.2 h]

theorem instant_next (t : Timers) : t.next.1.instant = min t.tick.due t.frame.due := by
  rcases Nat.lt_or_ge t.frame.due t.tick.due with h | h
  · rw [next_of_frame h]
    exact (Nat.min_eq_right (Nat.le_of_lt h)).symm
  · rw [next_of_tick h]
    exact (Nat.min_eq_left h).symm

theorem pending_next {t : Timers} {horizon : Nat} (early : horizon < Instant.last)
    (h : t.next.1.instant ≤ horizon) : t.next.2.pending horizon + 1 = t.pending horizon := by
  rw [instant_next] at h
  rcases Nat.lt_or_ge t.frame.due t.tick.due with hlt | hge
  · rw [next_of_frame hlt]
    have hfired := Periodic.pending_fired (p := t.frame) early (by omega)
    simp only [pending]
    omega
  · rw [next_of_tick hge]
    have hfired := Periodic.pending_fired (p := t.tick) early (by omega)
    simp only [pending]
    omega

end Timers

namespace Schedule

theorem next?_eq_some {s : Schedule} {horizon : Nat} {a : Activation} {rest : Schedule} :
    s.next? horizon = some (a, rest) ↔
      ∃ timers, s.timers = some timers ∧ a = timers.next.1 ∧ a.instant ≤ horizon ∧
        rest = { s with timers := some timers.next.2 } := by
  cases h : s.timers with
  | none => simp [next?, h]
  | some timers =>
    simp only [next?, h]
    split
    · grind
    · grind

theorem next?_eq_none {s : Schedule} {horizon : Nat} :
    s.next? horizon = none ↔
      ∀ timers, s.timers = some timers → horizon < timers.next.1.instant := by
  cases h : s.timers with
  | none => simp [next?, h]
  | some timers => simp [next?, h]

theorem next?_of_idle {s : Schedule} (h : s.isRunning = false) (horizon : Nat) :
    s.next? horizon = none := by
  have hnone : s.timers = none := by simpa [isRunning] using h
  simp [next?, hnone]

theorem next?_mono {s : Schedule} {near far : Nat} (h : near ≤ far) {found : Activation × Schedule}
    (hnear : s.next? near = some found) : s.next? far = some found := by
  obtain ⟨a, rest⟩ := found
  obtain ⟨timers, htimers, ha, hle, hrest⟩ := next?_eq_some.1 hnear
  exact next?_eq_some.2 ⟨timers, htimers, ha, Nat.le_trans hle h, hrest⟩

theorem next?_none_of_le {s : Schedule} {near far : Nat} (h : near ≤ far)
    (hfar : s.next? far = none) : s.next? near = none := by
  cases hnear : s.next? near with
  | none => rfl
  | some found =>
    rw [next?_mono h hnear] at hfar
    exact absurd hfar (by simp)

theorem isRunning_of_next? {s : Schedule} {horizon : Nat} {a : Activation} {rest : Schedule}
    (h : s.next? horizon = some (a, rest)) : s.isRunning = true ∧ rest.isRunning = true := by
  obtain ⟨timers, htimers, -, -, rfl⟩ := next?_eq_some.1 h
  simp [isRunning, htimers]

theorem pending_next? {s : Schedule} {horizon : Nat} (early : horizon < Instant.last)
    {a : Activation} {rest : Schedule} (h : s.next? horizon = some (a, rest)) :
    rest.pending horizon + 1 = s.pending horizon := by
  obtain ⟨timers, htimers, rfl, hle, rfl⟩ := next?_eq_some.1 h
  simpa [pending, htimers] using Timers.pending_next early hle

theorem pending_mono (s : Schedule) {near far : Nat} (h : near ≤ far) :
    s.pending near ≤ s.pending far := by
  unfold pending
  split
  · exact Nat.le_refl _
  · exact Nat.add_le_add (Periodic.pending_mono _ h) (Periodic.pending_mono _ h)

theorem pending_stop (s : Schedule) (horizon : Nat) : s.stop.pending horizon = 0 := rfl

theorem isRunning_stop (s : Schedule) : s.stop.isRunning = false := rfl

end Schedule

end SpriteStage
