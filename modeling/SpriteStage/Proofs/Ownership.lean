import SpriteStage.Proofs.Programs
import SpriteStage.Proofs.Ticking
/-!
Whose the programs are. Running flags blocks and clears flags, and swaps programs; it loses none,
doubles none and alters none. Every swap is counted, so a pump after which the count is the same has
left each program with the sprite that had it.
-/

namespace SpriteStage

def Sprite.belonging (p : Sprite) : SpriteId × Program := (p.id, p.program.cleared)

theorem Sprite.belonging_step (now : Nat) (p : Sprite) : (p.step now).belonging = p.belonging := by
  have hid : (p.step now).id = p.id := by
    unfold Sprite.step
    split
    · rfl
    · split <;> rfl
  rw [belonging, belonging, hid, (p.reflagged_step now).cleared_eq]

theorem Operation.rearranged_applyAll (s : Stage) {operations : List Operation}
    (h : ∀ operation ∈ operations, operation.composes = false) :
    Rearranged s.programs (applyAll operations s).programs := by
  induction operations generalizing s with
  | nil => exact .refl
  | cons operation operations ih =>
    obtain ⟨hfirst, hrest⟩ := List.forall_mem_cons.1 h
    exact (rearranged_apply s hfirst).trans (ih (operation.apply s) hrest)

namespace Stage

def belongings (s : Stage) : List (SpriteId × Program) := s.sprites.map Sprite.belonging

theorem belongings_map (s : Stage) {f : Sprite → Sprite} (h : ∀ p, (f p).belonging = p.belonging) :
    (s.sprites.map f).map Sprite.belonging = s.belongings := by
  rw [List.map_map]
  exact List.map_congr_left fun p _ => h p

theorem belongings_expireAt (s : Stage) (now : Nat) : (s.expireAt now).belongings = s.belongings := by
  unfold expireAt
  split
  · exact s.belongings_map fun _ => rfl
  · rfl

theorem belongings_tickWork {s : Stage} {now : Nat} (h : (s.tickCheck now).2.2 = none) :
    (s.tickWork now).belongings = s.belongings := by
  rw [tickWork_of_none h]
  exact s.belongings_map (Sprite.belonging_step now)

/-- Whether each program is still with its sprite, unless a swap has been counted in between. -/
structure KeptUnlessSwapped (s t : Stage) : Prop where
  counted : s.stats.swaps ≤ t.stats.swaps
  kept : t.stats.swaps = s.stats.swaps → t.belongings = s.belongings

theorem keptUnlessSwapped_tickWork (s : Stage) (now : Nat) :
    s.KeptUnlessSwapped (s.tickWork now) := by
  cases hpair : (s.tickCheck now).2.2 with
  | none =>
    have hsame : (s.tickWork now).stats.swaps = s.stats.swaps := by rw [tickWork_of_none hpair]
    exact ⟨Nat.le_of_eq hsame.symm, fun _ => belongings_tickWork hpair⟩
  | some pair =>
    have hcount : (s.tickWork now).stats.swaps = s.stats.swaps + 1 := by
      rw [tickWork_of_some hpair]
    exact ⟨by omega, fun hsame => by omega⟩

theorem steady_keptUnlessSwapped : Steady KeptUnlessSwapped where
  refl _ := ⟨Nat.le_refl _, fun _ => rfl⟩
  trans := by
    intro s t u hfirst hsecond
    refine ⟨Nat.le_trans hfirst.counted hsecond.counted, fun hsame => ?_⟩
    have hcounted := hfirst.counted
    have hcounted' := hsecond.counted
    rw [hsecond.kept (by omega), hfirst.kept (by omega)]
  retimed _ _ _ := ⟨Nat.le_refl _, fun _ => rfl⟩
  tickWork := keptUnlessSwapped_tickWork
  expireAt s now := by
    have hsame : (s.expireAt now).stats.swaps = s.stats.swaps := by rw [expireAt_eq]
    exact ⟨Nat.le_of_eq hsame.symm, fun _ => s.belongings_expireAt now⟩

/-- Whatever is done with a stage, except for edits and new sprites, the programs on it are in the end
the same but for their flags and places; and a pump that counts no swap leaves each of them with the
sprite that has it. -/
theorem programs_kept (s : Stage) :
    (∀ operations : List Operation, (∀ operation ∈ operations, operation.composes = false) →
        ((Operation.applyAll operations s).programs.map Program.cleared).Perm
          (s.programs.map Program.cleared)) ∧
      (s.pump.stats.swaps = s.stats.swaps → s.pump.belongings = s.belongings) := by
  constructor
  · intro operations hrun
    exact (Operation.rearranged_applyAll s hrun).cleared_perm
  · exact (steady_keptUnlessSwapped.pump s).kept

theorem programs_kept_overlapping :
    let s := (overlapping { tickInterval := 3, frameInterval := 20, collisionCooldown := 100 }).pumpAt 3
    let t := s.setClock 6
    let operations : List Operation := [.reset, .start, .setClock 200, .pump, .moveSprite ⟨1⟩ 9 9]
    s.stats = ⟨1, 1⟩ ∧ t.pump.stats = ⟨2, 1⟩ ∧ t.pump.belongings = t.belongings ∧
      (∀ operation ∈ operations, operation.composes = false) ∧
      ((Operation.applyAll operations t).programs.map Program.cleared).Perm
        (t.programs.map Program.cleared) := by
  intro s t operations
  have unswapped : t.pump.stats.swaps = t.stats.swaps := by decide
  have running : ∀ operation ∈ operations, operation.composes = false := by decide
  obtain ⟨hrun, hpump⟩ := t.programs_kept
  exact ⟨by decide, by decide, hpump unswapped, running, hrun operations running⟩

end Stage

end SpriteStage
