import SpriteStage.Proofs.Untouched
/-!
Swaps as exchanges. A swap is the same whichever of the two sprites is named first, and a second one
gives both their programs back. It touches only the two, and of these only what they run, how far they
have come in it, and what they say.
-/

namespace SpriteStage

variable {first second : Nat} {sprites : List Sprite} {a b : Sprite}

theorem length_swapPrograms (c : Config) (now first second : Nat) (sprites : List Sprite) :
    (swapPrograms c now first second sprites).length = sprites.length := by
  unfold swapPrograms
  split
  · simp only
    split
    · exact List.length_set
    · rw [List.length_set, List.length_set]
  · rfl

theorem swapPrograms_comm (hne : first ≠ second) (ha : sprites[first]? = some a)
    (hb : sprites[second]? = some b) (c : Config) (now : Nat) :
    swapPrograms c now second first sprites = swapPrograms c now first second sprites := by
  rw [swapPrograms_eq_set hb ha hne.symm, swapPrograms_eq_set ha hb hne, List.set_comm _ _ hne]

theorem getElem?_swapPrograms_second (hne : first ≠ second) (ha : sprites[first]? = some a)
    (hb : sprites[second]? = some b) (c : Config) (now : Nat) :
    (swapPrograms c now first second sprites)[second]? =
      some (b.takeOver a.program a.name (Instant.after now c.swapMessage)) := by
  have hsecond : second < sprites.length := (List.getElem?_eq_some_iff.1 hb).1
  rw [swapPrograms_eq_set ha hb hne]
  exact List.getElem?_set_self (by simpa using hsecond)

theorem getElem?_swapPrograms_first (hne : first ≠ second) (ha : sprites[first]? = some a)
    (hb : sprites[second]? = some b) (c : Config) (now : Nat) :
    (swapPrograms c now first second sprites)[first]? =
      some (a.takeOver b.program b.name (Instant.after now c.swapMessage)) := by
  rw [← swapPrograms_comm hne ha hb]
  exact getElem?_swapPrograms_second hne.symm hb ha c now

theorem programs_swapPrograms_twice (hne : first ≠ second) (ha : sprites[first]? = some a)
    (hb : sprites[second]? = some b) (c : Config) (now later : Nat) :
    (swapPrograms c later first second (swapPrograms c now first second sprites)).map Sprite.program =
      sprites.map Sprite.program := by
  have hfirst := getElem?_swapPrograms_first hne ha hb c now
  have hsecond := getElem?_swapPrograms_second hne ha hb c now
  refine List.ext_getElem? fun index => ?_
  rw [List.getElem?_map, List.getElem?_map]
  by_cases hindex : index = first
  · rw [hindex, getElem?_swapPrograms_first hne hfirst hsecond, ha]
    rfl
  · by_cases hindex' : index = second
    · rw [hindex', getElem?_swapPrograms_second hne hfirst hsecond, hb]
      rfl
    · rw [getElem?_swapPrograms_of_ne (Ne.symm hindex) (Ne.symm hindex'),
        getElem?_swapPrograms_of_ne (Ne.symm hindex) (Ne.symm hindex')]

/-- Two sprites that swap start each other's program and say whom they have it from, for as long as
announcements are shown or until the end of time; they keep all else, and so do all other sprites. It
does not matter which of the two comes first, and after a second swap the programs are where they
were. -/
theorem swap_exchanges_programs (hne : first ≠ second) (ha : sprites[first]? = some a)
    (hb : sprites[second]? = some b) (c : Config) (now later : Nat) :
    let swapped := swapPrograms c now first second sprites
    let expiresAt := min (now + c.swapMessage) (UInt64.size - 1)
    swapPrograms c now second first sprites = swapped ∧
      (swapPrograms c later first second swapped).map Sprite.program =
        sprites.map Sprite.program ∧
      swapped[first]? = some { a with
        program := b.program
        cursor := 0
        complete := false
        state := { a.state with say := some ⟨s!"Swapped with {b.name}!", expiresAt⟩ } } ∧
      swapped[second]? = some { b with
        program := a.program
        cursor := 0
        complete := false
        state := { b.state with say := some ⟨s!"Swapped with {a.name}!", expiresAt⟩ } } ∧
      (∀ index, index ≠ first → index ≠ second → swapped[index]? = sprites[index]?) ∧
      swapped.length = sprites.length := by
  intro swapped expiresAt
  refine ⟨swapPrograms_comm hne ha hb c now, programs_swapPrograms_twice hne ha hb c now later,
    getElem?_swapPrograms_first hne ha hb c now, getElem?_swapPrograms_second hne ha hb c now, ?_,
    length_swapPrograms c now first second sprites⟩
  intro index hfirst hsecond
  exact getElem?_swapPrograms_of_ne hfirst.symm hsecond.symm c now sprites

theorem swap_exchanges_programs_lastAnnouncement :
    let a : Sprite := { Sprite.numbered ⟨1⟩ 0 with
      program := ⟨[.act ⟨2⟩ true (.move 1 0)]⟩, cursor := 1, complete := true }
    let bystander : Sprite := .numbered ⟨3⟩ 1
    let b : Sprite := { Sprite.numbered ⟨4⟩ 2 with state := { think := some ⟨"hm", 9⟩ } }
    let sprites := [a, bystander, b]
    let swapped := swapPrograms {} (UInt64.size - 3) 2 0 sprites
    2 ≠ 0 ∧ sprites[2]? = some b ∧ sprites[0]? = some a ∧
      swapPrograms {} (UInt64.size - 3) 0 2 sprites = swapped ∧
      (swapPrograms {} 7 2 0 swapped).map Sprite.program = sprites.map Sprite.program ∧
      swapped[2]? = some { b with
        program := a.program
        state := { b.state with say := some ⟨"Swapped with Sprite 1!", UInt64.size - 1⟩ } } ∧
      swapped[0]? = some { a with
        program := {}
        cursor := 0
        complete := false
        state := { a.state with say := some ⟨"Swapped with Sprite 3!", UInt64.size - 1⟩ } } ∧
      swapped[1]? = some bystander ∧ swapped.length = 3 := by
  intro a bystander b sprites swapped
  have hne : 2 ≠ 0 := by decide
  have hb : sprites[2]? = some b := rfl
  have ha : sprites[0]? = some a := rfl
  obtain ⟨hcomm, htwice, hfirst, hsecond, hothers, hlength⟩ :=
    swap_exchanges_programs hne hb ha {} (UInt64.size - 3) 7
  exact ⟨hne, hb, ha, hcomm, htwice, hfirst, hsecond, hothers 1 (by decide) (by decide), hlength⟩

end SpriteStage
