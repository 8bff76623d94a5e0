import SpriteStage.Proofs.Expiry
import SpriteStage.Proofs.History
import SpriteStage.Proofs.Ticking
/-!
Sprites on their own. A tick steps every sprite and a frame clears its expired bubbles, and neither
looks at another sprite for that. All that other sprites can do to one is to swap with it, and to end
the run. So as long as nobody swaps with a sprite, it is what the activations of the run have made of
it, one after the other, whoever else is on the stage.
-/

namespace SpriteStage

def Sprite.undergo (p : Sprite) : Activation → Sprite
  | .tick now => p.step now
  | .frame now => p.expire now

namespace Firing

def swapped? (f : Firing) : Option (Nat × Nat) :=
  match f.activation with
  | .tick now => (f.stage.tickCheck now).2.2
  | .frame _ => none

def Spares (index : Nat) (f : Firing) : Prop :=
  ∀ pair ∈ f.swapped?, pair.1 ≠ index ∧ pair.2 ≠ index

instance (index : Nat) : DecidablePred (Spares index) :=
  fun f => inferInstanceAs (Decidable (∀ pair ∈ f.swapped?, pair.1 ≠ index ∧ pair.2 ≠ index))

end Firing

theorem getElem?_swapPrograms_of_ne {first second index : Nat} (hfirst : first ≠ index)
    (hsecond : second ≠ index) (c : Config) (now : Nat) (sprites : List Sprite) :
    (swapPrograms c now first second sprites)[index]? = sprites[index]? := by
  unfold swapPrograms
  split
  · simp only
    split
    · exact List.getElem?_set_ne hfirst
    · rw [List.getElem?_set_ne hsecond, List.getElem?_set_ne hfirst]
  · rfl

namespace Stage

variable {s : Stage} {index now : Nat}

theorem getElem?_tickWork (spared : (⟨s, .tick now⟩ : Firing).Spares index) :
    (s.tickWork now).sprites[index]? = s.sprites[index]?.map (Sprite.step now) := by
  have hstepped : (s.tickCheck now).1[index]? = s.sprites[index]?.map (Sprite.step now) :=
    List.getElem?_map
  cases hpair : (s.tickCheck now).2.2 with
  | none =>
    rw [sprites_tickWork_of_none hpair]
    exact hstepped
  | some pair =>
    obtain ⟨hfirst, hsecond⟩ := spared pair hpair
    rw [sprites_tickWork_of_some hpair, getElem?_swapPrograms_of_ne hfirst hsecond]
    exact hstepped

theorem getElem?_fire {a : Activation} (spared : (⟨s, a⟩ : Firing).Spares index) :
    (s.fire a).sprites[index]? = s.sprites[index]?.map fun p => p.undergo a := by
  cases a with
  | tick now =>
    rw [fire, tick_eq]
    exact getElem?_tickWork spared
  | frame now =>
    rw [fire, frame_eq, reschedule, sprites_expireAt]
    exact List.getElem?_map

def KeepsToItself (index : Nat) (s : Stage) (fs : List Firing) (t : Stage) : Prop :=
  (∀ f ∈ fs, f.Spares index) →
    t.sprites[index]? =
      s.sprites[index]?.map fun p => (fs.map Firing.activation).foldl Sprite.undergo p

theorem traced_keepsToItself (index : Nat) : Traced (KeepsToItself index) where
  retimed s clock schedule _ := by simp
  fire s a spared := getElem?_fire (spared _ (List.mem_singleton.2 rfl))
  append := by
    intro s t u fs gs hfirst hsecond spared
    obtain ⟨hfs, hgs⟩ := List.forall_mem_append.1 spared
    rw [hsecond hgs, hfirst hfs, Option.map_map]
    simp [Function.comp_def]

end Stage

def Operation.pumpsAt (readings : List Nat) : List Operation :=
  readings.flatMap fun now => [.setClock now, .pump]

namespace Stage

theorem keepsToItself_pumpsAt (index : Nat) (readings : List Nat) (s : Stage) :
    s.KeepsToItself index (Operation.history (Operation.pumpsAt readings) s)
      (Operation.applyAll (Operation.pumpsAt readings) s) := by
  have followed := (traced_keepsToItself index).followed
  induction readings generalizing s with
  | nil => exact followed.refl s
  | cons now readings ih =>
    have hreading := followed.setClock s now
    exact followed.append hreading (followed.append (followed.pump _) (ih _))

/-- A sprite with which nobody has swapped since the start of a run is what the activations so far
have made of it alone, in their order: it was rewound at the start, it has made a step at every tick,
and at every frame its bubbles have expired. -/
theorem getElem?_of_spared (s : Stage) (idle : s.isRunning = false) (readings : List Nat)
    (index : Nat) :
    let operations := .start :: Operation.pumpsAt readings
    let firings := Operation.history operations s
    (∀ f ∈ firings, f.Spares index) →
      (Operation.applyAll operations s).sprites[index]? =
        s.sprites[index]?.map fun p =>
          (firings.map Firing.activation).foldl Sprite.undergo p.rewound := by
  intro operations firings spared
  have hstarted : s.start.sprites[index]? = s.sprites[index]?.map Sprite.rewound := by
    rw [start, if_neg (by simp [idle])]
    exact List.getElem?_map
  have hpumped := keepsToItself_pumpsAt index readings s.start spared
  rw [hstarted, Option.map_map] at hpumped
  exact hpumped

def withBystander (config : Config) : Stage :=
  Operation.applyAll
    [.edit (.append (.act ⟨4⟩ false (.move 1 0))), .createSprite, .createSprite,
      .moveSprite ⟨3⟩ 500 0, .edit (.append (.act ⟨5⟩ false (.say "here" 0.005))),
      .edit (.append (.act ⟨6⟩ false (.turn 15 .clockwise)))]
    (.new 0 config)

theorem getElem?_of_spared_bystander :
    let s := withBystander { tickInterval := 3, frameInterval := 10, collisionCooldown := 4 }
    let operations := .start :: Operation.pumpsAt [7, 5, 21]
    let firings := Operation.history operations s
    let alone := [.tick 3, .tick 6, .tick 9, .frame 10, .tick 12, .tick 15, .tick 18, .frame 20, .tick 21]
    s.isRunning = false ∧ (∀ f ∈ firings, f.Spares 2) ∧
      firings.map Firing.activation = alone ∧
      (Operation.applyAll operations s).stats = ⟨7, 4⟩ ∧
      (Operation.applyAll operations s).sprites[2]? =
        s.sprites[2]?.map fun p => alone.foldl Sprite.undergo p.rewound := by
  intro s operations firings alone
  have idle : s.isRunning = false := by decide
  have spared : ∀ f ∈ firings, f.Spares 2 := by decide +kernel
  have hfired : firings.map Firing.activation = alone := by decide +kernel
  have hsprite := s.getElem?_of_spared idle [7, 5, 21] 2 spared
  rw [hfired] at hsprite
  exact ⟨idle, spared, hfired, by decide +kernel, hsprite⟩

end Stage

end SpriteStage
