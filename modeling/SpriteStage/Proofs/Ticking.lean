import SpriteStage.Proofs.Swapping
import SpriteStage.Stage.Run
/-!
What a tick and a frame do. A tick steps every sprite, checks once, and swaps the pair that the check
finds, if it finds one. The tick is counted in either case, the swap only where there is one. After
that a tick can only end the run, and so can a frame after the expiry of bubbles.
-/

namespace SpriteStage.Stage

variable {s : Stage} {now first second : Nat}

theorem tickWork_of_none (h : (s.tickCheck now).2.2 = none) :
    s.tickWork now = { s with
      sprites := (s.tickCheck now).1
      detector := (s.tickCheck now).2.1
      stats := { s.stats with ticks := s.stats.ticks + 1 } } := by
  unfold tickWork
  split
  · rename_i hcheck
    rw [hcheck] at h
    cases h
  · rename_i hcheck
    rw [hcheck]

theorem tickWork_of_some (h : (s.tickCheck now).2.2 = some (first, second)) :
    s.tickWork now = { s with
      sprites := swapPrograms s.config now first second (s.tickCheck now).1
      detector := (s.tickCheck now).2.1
      stats := ⟨s.stats.ticks + 1, s.stats.swaps + 1⟩ } := by
  unfold tickWork
  split
  · rename_i hcheck
    rw [hcheck] at h ⊢
    cases h
    rfl
  · rename_i hcheck
    rw [hcheck] at h
    cases h

theorem sprites_tickWork_of_none (h : (s.tickCheck now).2.2 = none) :
    (s.tickWork now).sprites = (s.tickCheck now).1 := by
  rw [tickWork_of_none h]

theorem sprites_tickWork_of_some (h : (s.tickCheck now).2.2 = some (first, second)) :
    (s.tickWork now).sprites = swapPrograms s.config now first second (s.tickCheck now).1 := by
  rw [tickWork_of_some h]

theorem exists_of_tickCheck (h : (s.tickCheck now).2.2 = some (first, second)) :
    ∃ a b, first ≠ second ∧ (s.tickCheck now).1[first]? = some a ∧
      (s.tickCheck now).1[second]? = some b := by
  have hlt : first < second ∧ second < (s.tickCheck now).1.length := Detector.check_lt h
  have hfirst : first < (s.tickCheck now).1.length := by omega
  exact ⟨_, _, by omega, List.getElem?_eq_getElem hfirst, List.getElem?_eq_getElem hlt.2⟩

theorem config_tickWork (s : Stage) (now : Nat) : (s.tickWork now).config = s.config := by
  unfold tickWork
  split <;> rfl

theorem detector_tickWork (s : Stage) (now : Nat) :
    (s.tickWork now).detector = (s.tickCheck now).2.1 := by
  cases hpair : (s.tickCheck now).2.2 with
  | none => rw [tickWork_of_none hpair]
  | some pair => rw [tickWork_of_some hpair]

theorem stats_tickWork (s : Stage) (now : Nat) : (s.tickWork now).stats =
    ⟨s.stats.ticks + 1, s.stats.swaps + (s.tickCheck now).2.2.toList.length⟩ := by
  cases hpair : (s.tickCheck now).2.2 with
  | none => rw [tickWork_of_none hpair]; rfl
  | some pair => rw [tickWork_of_some hpair]; rfl

def reschedule (s : Stage) (schedule : Schedule) : Stage := { s with schedule := schedule }

theorem tick_eq (s : Stage) (now : Nat) :
    s.tick now = (s.tickWork now).reschedule (s.tick now).schedule := by
  unfold tick
  simp only
  split <;> rfl

theorem expireAt_eq (s : Stage) (now : Nat) :
    s.expireAt now = { s with sprites := (s.expireAt now).sprites } := by
  unfold expireAt
  split <;> rfl

theorem frame_eq (s : Stage) (now : Nat) :
    s.frame now = (s.expireAt now).reschedule (s.frame now).schedule := by
  unfold frame
  simp only
  split <;> rfl

end SpriteStage.Stage
