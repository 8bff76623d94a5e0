/-!
Instants and durations are natural numbers: milliseconds since the origin of the clock, and
milliseconds between two instants. Time ends at the last instant a 64-bit counter can hold: a
deadline beyond it is moved back to it, and the clock stays there.
-/

namespace SpriteStage.Instant

def last : Nat := UInt64.size - 1

def after (t d : Nat) : Nat := min (t + d) last

theorem after_le_last (t d : Nat) : after t d ≤ last := Nat.min_le_right _ _

theorem le_after {t : Nat} (h : t ≤ last) (d : Nat) : t ≤ after t d :=
  Nat.le_min.2 ⟨Nat.le_add_right t d, h⟩

theorem after_after (t d e : Nat) : after (after t d) e = after t (d + e) := by
  unfold after; omega

theorem after_eq_add {t d : Nat} (h : t + d ≤ last) : after t d = t + d := Nat.min_eq_left h

end SpriteStage.Instant
