import SpriteStage.Collision
/-!
Swaps of programs. A check names two different sprites that are there, the first one first. A swap
of these leaves all others as they are, and rewinds the two with each other's program.
-/

namespace SpriteStage

theorem firstOverlap?_lt {boxes : List Box} {first second : Nat}
    (h : firstOverlap? boxes = some (first, second)) : first < second ∧ second < boxes.length := by
  induction boxes generalizing first second with
  | nil => simp [firstOverlap?] at h
  | cons b bs ih =>
    rw [firstOverlap?] at h
    cases hindex : bs.findIdx? b.overlaps with
    | some j =>
      simp only [hindex, Option.some.injEq, Prod.mk.injEq] at h
      obtain ⟨rfl, rfl⟩ := h
      have hj : j < bs.length := (List.findIdx?_eq_some_iff_getElem.1 hindex).1
      simp only [List.length_cons]
      omega
    | none =>
      simp only [hindex, Option.map_eq_some_iff, Prod.exists, Prod.mk.injEq] at h
      obtain ⟨i, j, hrest, rfl, rfl⟩ := h
      have hbounds := ih hrest
      simp only [List.length_cons]
      omega

theorem Detector.check_lt {d : Detector} {c : Config} {now first second : Nat}
    {sprites : List Sprite} (h : (d.check c now sprites).1 = some (first, second)) :
    first < second ∧ second < sprites.length := by
  unfold Detector.check at h
  split at h
  · simpa using firstOverlap?_lt h
  · cases h

theorem swapPrograms_eq_set {c : Config} {now first second : Nat} {sprites : List Sprite}
    {a b : Sprite} (ha : sprites[first]? = some a) (hb : sprites[second]? = some b)
    (hne : first ≠ second) :
    swapPrograms c now first second sprites =
      (sprites.set first (a.takeOver b.program b.name (Instant.after now c.swapMessage))).set second
        (b.takeOver a.program a.name (Instant.after now c.swapMessage)) := by
  simp only [swapPrograms, ha, hb, if_neg hne]

theorem mem_set_set {α : Type} {xs : List α} {first second : Nat} {x y z : α}
    (h : z ∈ (xs.set first x).set second y) : z ∈ xs ∨ z = x ∨ z = y := by
  rcases List.mem_or_eq_of_mem_set h with hset | heq
  · exact (List.mem_or_eq_of_mem_set hset).imp_right Or.inl
  · exact Or.inr (Or.inr heq)

theorem mem_set_set_left {α : Type} {xs : List α} {first second : Nat} (hne : first ≠ second)
    (hfirst : first < xs.length) (x y : α) : x ∈ (xs.set first x).set second y := by
  rw [List.set_comm x y hne]
  exact List.mem_set (by simpa using hfirst) x

theorem mem_swapPrograms {c : Config} {now first second : Nat} {sprites : List Sprite} {p : Sprite}
    (h : p ∈ swapPrograms c now first second sprites) :
    p ∈ sprites ∨ p.cursor = 0 ∧ p.complete = false := by
  unfold swapPrograms at h
  split at h
  · simp only at h
    split at h
    · rcases List.mem_or_eq_of_mem_set h with hold | rfl
      · exact Or.inl hold
      · exact Or.inr ⟨rfl, rfl⟩
    · rcases mem_set_set h with hold | rfl | rfl
      · exact Or.inl hold
      · exact Or.inr ⟨rfl, rfl⟩
      · exact Or.inr ⟨rfl, rfl⟩
  · exact Or.inl h

end SpriteStage
