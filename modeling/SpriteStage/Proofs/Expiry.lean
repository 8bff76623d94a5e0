import Mathlib.Data.List.Basic
import SpriteStage.Stage.Run
/-!
The expiry of bubbles on a stage. A bubble outlives an expiry if and only if its deadline is still to
come. A stage first looks whether any bubble has expired, and leaves its sprites alone if none has;
since expiry does nothing to a sprite without such bubbles, it might as well be done to all of them.
Expiries at two instants, in either order, come to one at the later of the two.
-/

namespace SpriteStage

theorem Bubble.isExpired_max (now later : Nat) (b : Bubble) :
    b.isExpired (max now later) = (b.isExpired now || b.isExpired later) := by
  have hmax : b.expiresAt ≤ max now later ↔ b.expiresAt ≤ now ∨ b.expiresAt ≤ later := by omega
  simp only [isExpired, hmax, Bool.decide_or]

namespace SpriteState

variable {s : SpriteState} {now : Nat} {b : Bubble}

def bubbles (s : SpriteState) : List Bubble := s.say.toList ++ s.think.toList

theorem mem_bubbles : b ∈ s.bubbles ↔ s.say = some b ∨ s.think = some b := by
  simp [bubbles]

theorem say_expire : (s.expire now).say = some b ↔ s.say = some b ∧ now < b.expiresAt := by
  simp [expire, Bubble.isExpired, Option.filter_eq_some_iff]

theorem think_expire : (s.expire now).think = some b ↔ s.think = some b ∧ now < b.expiresAt := by
  simp [expire, Bubble.isExpired, Option.filter_eq_some_iff]

theorem mem_bubbles_expire : b ∈ (s.expire now).bubbles ↔ b ∈ s.bubbles ∧ now < b.expiresAt := by
  rw [mem_bubbles, mem_bubbles, say_expire, think_expire, or_and_right]

theorem filter_unexpired_eq_iff (bubble : Option Bubble) (now : Nat) :
    bubble.filter (!·.isExpired now) = bubble ↔ bubble.any (·.isExpired now) = false := by
  cases bubble with
  | none => simp
  | some b => simp [Option.filter_some]

theorem expire_of_not_hasExpired (h : s.hasExpired now = false) : s.expire now = s := by
  obtain ⟨hsay, hthink⟩ := Bool.or_eq_false_iff.1 h
  rw [expire, (filter_unexpired_eq_iff s.say now).2 hsay,
    (filter_unexpired_eq_iff s.think now).2 hthink]

theorem hasExpired_iff :
    s.hasExpired now = true ↔ (s.expire now).say ≠ s.say ∨ (s.expire now).think ≠ s.think := by
  have hchanged (bubble : Option Bubble) :
      bubble.any (·.isExpired now) = true ↔ bubble.filter (!·.isExpired now) ≠ bubble := by
    rw [Ne, filter_unexpired_eq_iff, Bool.not_eq_false]
  rw [hasExpired, Bool.or_eq_true, hchanged, hchanged]
  rfl

theorem expire_expire (s : SpriteState) (now later : Nat) :
    (s.expire now).expire later = s.expire (max now later) := by
  simp only [expire, Option.filter_filter, Bubble.isExpired_max, Bool.not_or]

end SpriteState

namespace Stage

variable {s : Stage} {now : Nat} {b : Bubble}

theorem sprites_expireAt (s : Stage) (now : Nat) :
    (s.expireAt now).sprites = s.sprites.map (Sprite.expire now) := by
  unfold expireAt
  split
  · rfl
  · rename_i hfresh
    have hkept : ∀ p ∈ s.sprites, p.expire now = p := by
      intro p hp
      have hstate : p.state.hasExpired now = false := by
        simp only [List.any_eq_true, not_exists, not_and, Bool.not_eq_true] at hfresh
        exact hfresh p hp
      rw [Sprite.expire, SpriteState.expire_of_not_hasExpired hstate]
    rw [List.map_congr_left hkept, List.map_id']

theorem expireAt_eq_map (s : Stage) (now : Nat) :
    s.expireAt now = { s with sprites := s.sprites.map (Sprite.expire now) } := by
  rw [← sprites_expireAt]
  unfold expireAt
  split <;> rfl

theorem expireAt_expireAt (s : Stage) (now later : Nat) :
    (s.expireAt now).expireAt later = s.expireAt (max now later) := by
  simp only [expireAt_eq_map, List.map_map]
  congr 1
  refine List.map_congr_left fun p _ => ?_
  simp only [Function.comp_apply, Sprite.expire, SpriteState.expire_expire]

def bubbles (s : Stage) : List Bubble := s.sprites.flatMap fun p => p.state.bubbles

theorem mem_bubbles : b ∈ s.bubbles ↔ ∃ p ∈ s.sprites, b ∈ p.state.bubbles := List.mem_flatMap

theorem mem_bubbles_expireAt : b ∈ (s.expireAt now).bubbles ↔ b ∈ s.bubbles ∧ now < b.expiresAt := by
  rw [mem_bubbles, mem_bubbles, sprites_expireAt]
  constructor
  · rintro ⟨q, hq, hb⟩
    obtain ⟨p, hp, rfl⟩ := List.mem_map.1 hq
    obtain ⟨hold, hlater⟩ := SpriteState.mem_bubbles_expire.1 hb
    exact ⟨⟨p, hp, hold⟩, hlater⟩
  · rintro ⟨⟨p, hp, hold⟩, hlater⟩
    exact ⟨p.expire now, List.mem_map_of_mem hp,
      SpriteState.mem_bubbles_expire.2 ⟨hold, hlater⟩⟩

/-- Expiries at two instants come to one at the later of them. A sprite has an expired bubble exactly if
expiry changes its bubbles, and it changes nothing else: it takes away those whose deadline has come. So
a stage that first looks for an expired bubble, and leaves its sprites alone if there is none, comes to
the same as one that lets the bubbles of every sprite expire. -/
theorem expiries_compose (s : Stage) (p : SpriteState) (now later : Nat) :
    (p.expire now).expire later = p.expire (max now later) ∧
      (p.hasExpired now = true ↔ (p.expire now).say ≠ p.say ∨ (p.expire now).think ≠ p.think) ∧
      (∀ b, (p.expire now).say = some b ↔ p.say = some b ∧ now < b.expiresAt) ∧
      (∀ b, (p.expire now).think = some b ↔ p.think = some b ∧ now < b.expiresAt) ∧
      p.expire now = { p with say := (p.expire now).say, think := (p.expire now).think } ∧
      s.expireAt now =
        { s with sprites := s.sprites.map fun q => { q with state := q.state.expire now } } ∧
      (s.expireAt now).expireAt later = s.expireAt (max now later) :=
  ⟨p.expire_expire now later, SpriteState.hasExpired_iff, fun _ => SpriteState.say_expire,
    fun _ => SpriteState.think_expire, rfl, s.expireAt_eq_map now, s.expireAt_expireAt now later⟩

end Stage

end SpriteStage
