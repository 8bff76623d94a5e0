import Mathlib.Data.Prod.Lex
import Mathlib.Order.Bounds.Basic
import SpriteStage.Proofs.Cooldown
/-!
What a check finds. Of two boxes either both overlap the other or neither does, whatever numbers they
are made of, so it is enough to look at each pair once, in the order of the places in the list. The
search stops at the first pair that overlaps: the least one by its first place and then by its second.
It finds nothing only if there is no such pair.
-/

namespace SpriteStage

theorem Box.overlaps_comm (a b : Box) : a.overlaps b = b.overlaps a := by
  rw [overlaps, overlaps, Bool.and_right_comm, Bool.and_comm (decide (a.left < b.right))]

def Overlap (boxes : List Box) (i j : Nat) : Prop :=
  ∃ a b, boxes[i]? = some a ∧ boxes[j]? = some b ∧ a.overlaps b = true

/-- The pairs of places that overlap, each with the earlier place first. They are ordered by that one,
and then by the other. -/
def overlapping (boxes : List Box) : Set (Nat ×ₗ Nat) :=
  {pair | (ofLex pair).1 < (ofLex pair).2 ∧ Overlap boxes (ofLex pair).1 (ofLex pair).2}

variable {boxes bs : List Box} {b : Box} {i j k : Nat}

theorem Overlap.symm (h : Overlap boxes i j) : Overlap boxes j i := by
  obtain ⟨a, b, ha, hb, hab⟩ := h
  exact ⟨b, a, hb, ha, (b.overlaps_comm a).trans hab⟩

theorem overlap_cons_zero :
    Overlap (b :: bs) 0 (j + 1) ↔ ∃ a, bs[j]? = some a ∧ b.overlaps a = true := by
  simp [Overlap]

theorem overlap_cons_succ : Overlap (b :: bs) (i + 1) (j + 1) ↔ Overlap bs i j := Iff.rfl

theorem mem_overlapping_cons {pair : Nat × Nat} : toLex pair ∈ overlapping (b :: bs) ↔
    (∃ j a, pair = (0, j + 1) ∧ bs[j]? = some a ∧ b.overlaps a = true) ∨
      ∃ i j, pair = (i + 1, j + 1) ∧ toLex (i, j) ∈ overlapping bs := by
  obtain ⟨i, j⟩ := pair
  constructor
  · rintro ⟨hlt, hoverlap⟩
    simp only [ofLex_toLex] at hlt hoverlap
    obtain _ | j := j
    · omega
    obtain _ | i := i
    · obtain ⟨a, ha, hab⟩ := overlap_cons_zero.1 hoverlap
      exact Or.inl ⟨j, a, rfl, ha, hab⟩
    · exact Or.inr ⟨i, j, rfl, Nat.lt_of_succ_lt_succ hlt, overlap_cons_succ.1 hoverlap⟩
  · rintro (⟨j, a, heq, ha, hab⟩ | ⟨i, j, heq, hlt, hoverlap⟩)
    · rw [heq]
      exact ⟨Nat.succ_pos j, overlap_cons_zero.2 ⟨a, ha, hab⟩⟩
    · rw [heq]
      exact ⟨Nat.succ_lt_succ hlt, overlap_cons_succ.2 hoverlap⟩

theorem isLeast_cons_of_findIdx? (h : bs.findIdx? b.overlaps = some k) :
    IsLeast (overlapping (b :: bs)) (toLex (0, k + 1)) := by
  obtain ⟨hk, hfound, hbefore⟩ := List.findIdx?_eq_some_iff_getElem.1 h
  constructor
  · exact mem_overlapping_cons.2 (Or.inl ⟨k, bs[k], rfl, List.getElem?_eq_getElem hk, hfound⟩)
  · intro pair hpair
    rcases mem_overlapping_cons.1 hpair with ⟨j, a, rfl, ha, hab⟩ | ⟨i, j, rfl, -⟩
    · obtain ⟨hj, rfl⟩ := List.getElem?_eq_some_iff.1 ha
      have hle : k ≤ j := Nat.le_of_not_lt fun hlt => hbefore j hlt hab
      exact Prod.Lex.toLex_le_toLex.2 (Or.inr ⟨rfl, Nat.succ_le_succ hle⟩)
    · exact Prod.Lex.toLex_le_toLex.2 (Or.inl (Nat.succ_pos i))

theorem exists_of_mem_overlapping_cons (hnone : ∀ a ∈ bs, b.overlaps a = false) {pair : Nat × Nat}
    (h : toLex pair ∈ overlapping (b :: bs)) :
    ∃ i j, pair = (i + 1, j + 1) ∧ toLex (i, j) ∈ overlapping bs := by
  rcases mem_overlapping_cons.1 h with ⟨j, a, -, ha, hab⟩ | hrest
  · rw [hnone a (List.mem_of_getElem? ha)] at hab
    cases hab
  · exact hrest

theorem isLeast_cons_of_forall (hnone : ∀ a ∈ bs, b.overlaps a = false)
    (h : IsLeast (overlapping bs) (toLex (i, j))) :
    IsLeast (overlapping (b :: bs)) (toLex (i + 1, j + 1)) := by
  constructor
  · exact mem_overlapping_cons.2 (Or.inr ⟨i, j, rfl, h.1⟩)
  · intro pair hpair
    obtain ⟨i', j', rfl, hmem⟩ := exists_of_mem_overlapping_cons hnone hpair
    have hle := Prod.Lex.toLex_le_toLex.1 (h.2 hmem)
    refine Prod.Lex.toLex_le_toLex.2 ?_
    simp only at hle ⊢
    omega

theorem overlapping_nil : overlapping [] = ∅ := by
  rw [Set.eq_empty_iff_forall_notMem]
  rintro pair ⟨-, a, b, ha, -⟩
  cases ha

theorem firstOverlap?_cases (boxes : List Box) :
    (firstOverlap? boxes = none ∧ overlapping boxes = ∅) ∨
      ∃ i j, firstOverlap? boxes = some (i, j) ∧ IsLeast (overlapping boxes) (toLex (i, j)) := by
  induction boxes with
  | nil => exact Or.inl ⟨rfl, overlapping_nil⟩
  | cons b bs ih =>
    rw [firstOverlap?]
    cases hindex : bs.findIdx? b.overlaps with
    | some k => exact Or.inr ⟨0, k + 1, rfl, isLeast_cons_of_findIdx? hindex⟩
    | none =>
      have hnone : ∀ a ∈ bs, b.overlaps a = false := List.findIdx?_eq_none_iff.1 hindex
      rcases ih with ⟨hrest, hempty⟩ | ⟨i, j, hrest, hleast⟩
      · refine Or.inl ⟨by rw [hrest, Option.map_none], ?_⟩
        rw [Set.eq_empty_iff_forall_notMem]
        intro pair hpair
        obtain ⟨i, j, -, hmem⟩ := exists_of_mem_overlapping_cons hnone hpair
        rw [hempty] at hmem
        exact hmem
      · exact Or.inr ⟨i + 1, j + 1, by rw [hrest, Option.map_some],
          isLeast_cons_of_forall hnone hleast⟩

theorem firstOverlap?_eq_some_iff :
    firstOverlap? boxes = some (i, j) ↔ IsLeast (overlapping boxes) (toLex (i, j)) := by
  rcases firstOverlap?_cases boxes with ⟨hfirst, hempty⟩ | ⟨i', j', hfirst, hleast⟩
  · rw [hfirst, hempty]
    exact iff_of_false nofun fun h => h.1
  · rw [hfirst]
    constructor
    · rintro ⟨⟩
      exact hleast
    · exact fun h => congrArg some (toLex.injective (hleast.unique h))

theorem firstOverlap?_eq_none_iff :
    firstOverlap? boxes = none ↔ ∀ i j, i ≠ j → ¬ Overlap boxes i j := by
  rcases firstOverlap?_cases boxes with ⟨hfirst, hempty⟩ | ⟨i, j, hfirst, hleast⟩
  · refine iff_of_true hfirst fun i j hne hoverlap => ?_
    -- The search has looked at each pair in one order only; by symmetry that is enough.
    have hnone : ∀ i j, i < j → ¬ Overlap boxes i j := by
      intro i j hlt hoverlap
      have hmem : toLex (i, j) ∈ overlapping boxes := ⟨hlt, hoverlap⟩
      rw [hempty] at hmem
      exact hmem
    rcases Nat.lt_or_gt_of_ne hne with hlt | hgt
    · exact hnone i j hlt hoverlap
    · exact hnone j i hgt hoverlap.symm
  · obtain ⟨hlt, hoverlap⟩ := hleast.1
    rw [hfirst]
    exact iff_of_false nofun fun hnone => hnone i j (Nat.ne_of_lt hlt) hoverlap

namespace Detector

/-- A check that comes before the cooldown since the last one is over. A clock that was set back has
spent no time since then. -/
def TooSoon (d : Detector) (cooldown now : Nat) : Prop :=
  ∃ last, d.lastCheck = some last ∧ now - last < cooldown

theorem ready_eq_false_iff {d : Detector} {cooldown now : Nat} :
    d.ready cooldown now = false ↔ d.TooSoon cooldown now := by
  cases hlast : d.lastCheck with
  | none => simp [ready, TooSoon, hlast]
  | some last => simp [ready, TooSoon, hlast]

/-- A check that comes too soon finds nothing and leaves no trace. Any other is remembered, and finds
the least pair of places with overlapping boxes, or nothing if no two boxes overlap, taken in either
order: the order makes no difference. -/
theorem check_finds_first (d : Detector) (c : Config) (now : Nat) (sprites : List Sprite) :
    (d.TooSoon c.collisionCooldown now → d.check c now sprites = (none, d)) ∧
      (¬ d.TooSoon c.collisionCooldown now →
        (d.check c now sprites).2 = ⟨some now⟩ ∧
          (∀ i j, (d.check c now sprites).1 = some (i, j) ↔
            IsLeast (overlapping (sprites.map c.bounds)) (toLex (i, j))) ∧
          ((d.check c now sprites).1 = none ↔
            ∀ i j, i ≠ j → ¬ Overlap (sprites.map c.bounds) i j)) ∧
      ∀ a b : Box, a.overlaps b = b.overlaps a := by
  refine ⟨fun hsoon => ?_, fun hready => ?_, Box.overlaps_comm⟩
  · exact check_of_not_ready (ready_eq_false_iff.2 hsoon)
  · rw [← ready_eq_false_iff, Bool.not_eq_false] at hready
    rw [check_of_ready hready]
    exact ⟨rfl, fun i j => firstOverlap?_eq_some_iff, firstOverlap?_eq_none_iff⟩

theorem check_finds_first_nowhere :
    let c : Config := {}
    let d : Detector := ⟨some 100⟩
    let sprites : List Sprite := [0, 100, 0 / 0, 110, 90].map fun x =>
      { Sprite.numbered ⟨1⟩ 0 with state := { x := x } }
    d.TooSoon c.collisionCooldown 599 ∧ ¬ d.TooSoon c.collisionCooldown 600 ∧
      d.check c 599 sprites = (none, d) ∧ d.check c 600 sprites = (some (1, 3), ⟨some 600⟩) ∧
      IsLeast (overlapping (sprites.map c.bounds)) (toLex (1, 3)) := by
  intro c d sprites
  have hsoon : d.TooSoon c.collisionCooldown 599 := ⟨100, rfl, by decide⟩
  have hready : ¬ d.TooSoon c.collisionCooldown 600 := by
    rintro ⟨last, ⟨⟩, hlt⟩
    exact absurd hlt (by decide)
  have hfound : d.check c 600 sprites = (some (1, 3), ⟨some 600⟩) := by decide +kernel
  obtain ⟨-, hleast, -⟩ := (d.check_finds_first c 600 sprites).2.1 hready
  exact ⟨hsoon, hready, (d.check_finds_first c 599 sprites).1 hsoon, hfound,
    (hleast 1 3).1 (congrArg Prod.fst hfound)⟩

end Detector

end SpriteStage
