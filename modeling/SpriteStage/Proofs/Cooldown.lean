import SpriteStage.Proofs.History
import SpriteStage.Proofs.Ownership
/-!
The spacing of swaps. What the detector remembers outlives stops, resets and edits, and the clock may
be set back at any time; but a check is made only a cooldown after the last one that was made, and
every check is remembered, whether it finds a pair or not. So over the whole life of a stage each swap
lies a cooldown or more after the one before it.
-/

namespace SpriteStage

namespace Detector

variable {d : Detector} {c : Config} {now instant : Nat} {sprites : List Sprite}

def Since (instant : Nat) (d : Detector) : Prop := ∃ last, d.lastCheck = some last ∧ instant ≤ last

theorem check_of_ready (h : d.ready c.collisionCooldown now = true) :
    d.check c now sprites = (firstOverlap? (sprites.map c.bounds), ⟨some now⟩) := by
  rw [check, if_pos h]

theorem check_of_not_ready (h : d.ready c.collisionCooldown now = false) :
    d.check c now sprites = (none, d) := by
  rw [check, if_neg (by simp [h])]

theorem ready_of_check {pair : Nat × Nat} (h : (d.check c now sprites).1 = some pair) :
    d.ready c.collisionCooldown now = true := by
  cases hready : d.ready c.collisionCooldown now with
  | true => rfl
  | false =>
    rw [check_of_not_ready hready] at h
    cases h

theorem Since.add_le_of_ready (hsince : d.Since instant) (cooldown : 1 ≤ c.collisionCooldown)
    (h : d.ready c.collisionCooldown now = true) : instant + c.collisionCooldown ≤ now := by
  obtain ⟨last, hlast, hle⟩ := hsince
  have hspent : c.collisionCooldown ≤ now - last := by simpa [ready, hlast] using h
  omega

theorem Since.check (hsince : d.Since instant) (cooldown : 1 ≤ c.collisionCooldown) (now : Nat)
    (sprites : List Sprite) : (d.check c now sprites).2.Since instant := by
  cases hready : d.ready c.collisionCooldown now with
  | true =>
    have hlater := hsince.add_le_of_ready cooldown hready
    rw [check_of_ready hready]
    exact ⟨now, rfl, by omega⟩
  | false =>
    rw [check_of_not_ready hready]
    exact hsince

theorem since_check {pair : Nat × Nat} (h : (d.check c now sprites).1 = some pair) :
    (d.check c now sprites).2.Since now := by
  rw [check_of_ready (ready_of_check h)]
  exact ⟨now, rfl, Nat.le_refl now⟩

end Detector

namespace Firing

variable {f : Firing}

def swaps (f : Firing) : Nat := f.after.stats.swaps - f.stage.stats.swaps

def SwapsNothing (f : Firing) : Prop := f.swaps = 0 ∧ f.after.belongings = f.stage.belongings

def SwapsOnce (f : Firing) : Prop :=
  f.swaps = 1 ∧ ∃ now first second, f.activation = .tick now ∧ first < second ∧
    f.after.sprites =
      swapPrograms f.stage.config now first second (f.stage.sprites.map (Sprite.step now))

end Firing

namespace Stage

variable {s t u : Stage} {now : Nat} {is js : List Nat}

/-! ### What one firing adds -/

theorem swapsNothing_tick (h : (s.tickCheck now).2.2 = none) :
    (⟨s, .tick now⟩ : Firing).SwapsNothing := by
  have hcount : (s.tick now).stats.swaps = s.stats.swaps := by
    rw [tick_eq, reschedule, tickWork_of_none h]
  have hbelongings : (s.tick now).belongings = s.belongings := by
    rw [tick_eq]
    exact belongings_tickWork h
  exact ⟨by rw [Firing.swaps, Firing.after, fire, hcount, Nat.sub_self], hbelongings⟩

theorem swapsOnce_tick {pair : Nat × Nat} (h : (s.tickCheck now).2.2 = some pair) :
    (⟨s, .tick now⟩ : Firing).SwapsOnce := by
  have hcount : (s.tick now).stats.swaps = s.stats.swaps + 1 := by
    rw [tick_eq, reschedule, tickWork_of_some h]
  have hsprites : (s.tick now).sprites =
      swapPrograms s.config now pair.1 pair.2 (s.sprites.map (Sprite.step now)) := by
    rw [tick_eq, reschedule, tickWork_of_some h]
    rfl
  refine ⟨?_, now, pair.1, pair.2, rfl, (Detector.check_lt h).1, hsprites⟩
  rw [Firing.swaps, Firing.after, fire, hcount, Nat.add_sub_cancel_left]

theorem swapsNothing_frame (s : Stage) (now : Nat) : (⟨s, .frame now⟩ : Firing).SwapsNothing := by
  have hcount : (s.frame now).stats.swaps = s.stats.swaps := by
    rw [frame_eq, reschedule, expireAt_eq]
  have hbelongings : (s.frame now).belongings = s.belongings := by
    rw [frame_eq]
    exact s.belongings_expireAt now
  exact ⟨by rw [Firing.swaps, Firing.after, fire, hcount, Nat.sub_self], hbelongings⟩

theorem detector_tick (s : Stage) (now : Nat) :
    (s.fire (.tick now)).detector = (s.tickCheck now).2.1 := by
  rw [fire, tick_eq, reschedule, detector_tickWork]

theorem detector_frame (s : Stage) (now : Nat) : (s.fire (.frame now)).detector = s.detector := by
  rw [fire, frame_eq, reschedule, expireAt_eq]

theorem config_fire (s : Stage) (a : Activation) : (s.fire a).config = s.config := by
  cases a with
  | tick now => rw [fire, tick_eq, reschedule, config_tickWork]
  | frame now => rw [fire, frame_eq, reschedule, expireAt_eq]

/-! ### From firings to histories -/

def swapInstants (fs : List Firing) : List Nat :=
  (fs.filter fun f => 0 < f.swaps).map Firing.instant

theorem swapInstants_append (fs gs : List Firing) :
    swapInstants (fs ++ gs) = swapInstants fs ++ swapInstants gs := by
  simp [swapInstants]

/-- Swaps between two stages that lie a cooldown apart, from each other and from every check before
them, and that the detector remembers. -/
structure Spaced (s : Stage) (is : List Nat) (t : Stage) : Prop where
  config : t.config = s.config
  kept : ∀ i, s.detector.Since i → t.detector.Since i
  later : ∀ i, s.detector.Since i → ∀ j ∈ is, i + s.config.collisionCooldown ≤ j
  noted : ∀ j ∈ is, t.detector.Since j
  apart : is.Pairwise fun i j => i + s.config.collisionCooldown ≤ j

theorem Spaced.of_same (hconfig : t.config = s.config) (hdetector : t.detector = s.detector) :
    Spaced s [] t where
  config := hconfig
  kept i h := hdetector ▸ h
  later _ _ j hj := by cases hj
  noted j hj := by cases hj
  apart := .nil

theorem Spaced.append (h : Spaced s is t) (h' : Spaced t js u) : Spaced s (is ++ js) u where
  config := h'.config.trans h.config
  kept i hi := h'.kept i (h.kept i hi)
  later i hi j hj := by
    rcases List.mem_append.1 hj with hfirst | hsecond
    · exact h.later i hi j hfirst
    · rw [← h.config]
      exact h'.later i (h.kept i hi) j hsecond
  noted j hj := by
    rcases List.mem_append.1 hj with hfirst | hsecond
    · exact h'.kept j (h.noted j hfirst)
    · exact h'.noted j hsecond
  apart := by
    have hsecond := h'.apart
    have hbetween : ∀ i ∈ is, ∀ j ∈ js, i + t.config.collisionCooldown ≤ j :=
      fun i hi j hj => h'.later i (h.noted i hi) j hj
    rw [h.config] at hsecond hbetween
    exact List.pairwise_append.2 ⟨h.apart, hsecond, hbetween⟩

theorem spaced_fire (cooldown : 1 ≤ s.config.collisionCooldown) (a : Activation) :
    Spaced s (swapInstants [⟨s, a⟩]) (s.fire a) := by
  cases a with
  | tick now =>
    have hkept : ∀ i, s.detector.Since i → (s.fire (.tick now)).detector.Since i := by
      intro i hi
      rw [detector_tick]
      exact hi.check cooldown now _
    cases hpair : (s.tickCheck now).2.2 with
    | none =>
      have hnone : swapInstants [⟨s, .tick now⟩] = [] := by
        simp [swapInstants, (swapsNothing_tick hpair).1]
      rw [hnone]
      exact ⟨s.config_fire _, hkept, by simp, by simp, .nil⟩
    | some pair =>
      have hone : swapInstants [⟨s, .tick now⟩] = [now] := by
        simp [swapInstants, (swapsOnce_tick hpair).1, Firing.instant, Activation.instant]
      rw [hone]
      refine ⟨s.config_fire _, hkept, ?_, ?_, List.pairwise_singleton _ _⟩
      · intro i hi j hj
        rw [List.mem_singleton.1 hj]
        exact hi.add_le_of_ready cooldown (Detector.ready_of_check hpair)
      · intro j hj
        rw [List.mem_singleton.1 hj, detector_tick]
        exact Detector.since_check hpair
  | frame now =>
    have hnone : swapInstants [⟨s, .frame now⟩] = [] := by
      simp [swapInstants, (s.swapsNothing_frame now).1]
    rw [hnone]
    exact .of_same (s.config_fire _) (s.detector_frame now)

theorem traced_spaced : Traced fun s fs t =>
    1 ≤ s.config.collisionCooldown → Spaced s (swapInstants fs) t where
  retimed _ _ _ _ := .of_same rfl rfl
  fire _ a cooldown := spaced_fire cooldown a
  append hfirst hsecond cooldown := by
    have hspaced := hfirst cooldown
    rw [swapInstants_append]
    exact hspaced.append (hsecond (by rw [hspaced.config]; exact cooldown))

theorem spaced_start (s : Stage) : Spaced s [] s.start := by
  unfold start
  split
  · exact .of_same rfl rfl
  · exact .of_same rfl rfl

theorem spaced_apply (cooldown : 1 ≤ s.config.collisionCooldown) (operation : Operation) :
    Spaced s (swapInstants (operation.firings s)) (operation.apply s) := by
  cases operation with
  | createSprite => exact .of_same rfl rfl
  | select id =>
    simp only [Operation.apply, select]
    split
    · exact .of_same rfl rfl
    · exact .of_same rfl rfl
  | moveSprite id x y => exact .of_same rfl rfl
  | takeBlockId => exact .of_same rfl rfl
  | edit e =>
    simp only [Operation.apply, editSelected]
    split
    · exact .of_same rfl rfl
    · exact .of_same rfl rfl
  | start => exact s.spaced_start
  | stop => exact .of_same rfl rfl
  | reset => exact .of_same rfl rfl
  | pump => exact traced_spaced.followed.pump s cooldown
  | expireBubbles =>
    rw [Operation.apply, expireBubbles, expireAt_eq]
    exact .of_same rfl rfl
  | setClock now => exact .of_same rfl rfl
  | advanceClock d => exact .of_same rfl rfl
  | runUntilIdle limit =>
    have hstarted := s.spaced_start
    have hcooldown : 1 ≤ s.start.config.collisionCooldown := by rw [hstarted.config]; exact cooldown
    have hdriven := traced_spaced.followed.drive s.clock limit (s.frameBound limit) s.start hcooldown
    exact hstarted.append hdriven

theorem spaced_history (cooldown : 1 ≤ s.config.collisionCooldown) (operations : List Operation) :
    Spaced s (swapInstants (Operation.history operations s)) (Operation.applyAll operations s) := by
  induction operations generalizing s with
  | nil => exact .of_same rfl rfl
  | cons operation operations ih =>
    have hfirst := spaced_apply cooldown operation
    rw [Operation.history, swapInstants_append]
    exact hfirst.append (ih (by rw [hfirst.config]; exact cooldown))

/-- With a cooldown of at least one, whatever is done with a stage and however its clock is set: every
tick swaps one pair or none, no frame swaps any, and from each swap to the next one there is at least
a cooldown. -/
theorem swaps_spaced (s : Stage) (operations : List Operation)
    (cooldown : 1 ≤ s.config.collisionCooldown) :
    (∀ f ∈ Operation.history operations s, f.SwapsNothing ∨ f.SwapsOnce) ∧
      (swapInstants (Operation.history operations s)).Pairwise fun earlier later =>
        earlier + s.config.collisionCooldown ≤ later := by
  constructor
  · rintro ⟨s, a⟩ -
    cases a with
    | tick now =>
      cases hpair : (s.tickCheck now).2.2 with
      | none => exact Or.inl (swapsNothing_tick hpair)
      | some pair => exact Or.inr (swapsOnce_tick hpair)
    | frame now => exact Or.inl (s.swapsNothing_frame now)
  · exact (spaced_history cooldown operations).apart

theorem swaps_spaced_clock_set_back :
    let s := overlapping { tickInterval := 3, frameInterval := 20, collisionCooldown := 7 }
    let operations : List Operation :=
      [.setClock 13, .pump, .stop, .setClock 2, .start, .setClock 18, .pump, .reset, .setClock 20,
        .runUntilIdle 60]
    1 ≤ s.config.collisionCooldown ∧
      swapInstants (Operation.history operations s) = [3, 12, 23, 32] ∧
      (swapInstants (Operation.history operations s)).Pairwise fun earlier later =>
        earlier + 7 ≤ later := by
  intro s operations
  have cooldown : 1 ≤ s.config.collisionCooldown := by decide
  exact ⟨cooldown, by decide +kernel, (swaps_spaced s operations cooldown).2⟩

end Stage

end SpriteStage
