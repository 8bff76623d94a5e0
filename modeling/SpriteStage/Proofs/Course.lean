import SpriteStage.Proofs.Reachable
/-!
The place of a sprite in its program. A sprite on course has passed over the blocks before its
cursor and flagged them, and is complete only at the end of a program that has blocks. Every sprite
on every stage is on course, so one that is idle has either nothing to run or nothing left to run.
-/

namespace SpriteStage

namespace Program

theorem length_markExecuted (p : Program) (index : Nat) :
    (p.markExecuted index).length = p.length := by
  simp [markExecuted, length]

theorem get?_markExecuted (p : Program) (index place : Nat) :
    (p.markExecuted index).get? place =
      (p.get? place).map fun b => if index = place then b.withExecuted true else b := by
  simp [markExecuted, get?, List.getElem?_modify]

end Program

namespace Sprite

/-- The cursor is inside the program or at its end, completion is found at the end only, and the
blocks that have been passed over are flagged. -/
structure OnCourse (p : Sprite) : Prop where
  cursor_le : p.cursor ≤ p.program.length
  complete : p.complete = true → p.program.isEmpty = false ∧ p.cursor = p.program.length
  executed : ∀ index < p.cursor, ∀ b, p.program.get? index = some b → b.executed = true

def Finished (p : Sprite) : Prop :=
  p.program.isEmpty = false →
    p.complete = true ∧ p.cursor = p.program.length ∧ ∀ b ∈ p.program.blocks, b.executed = true

instance (p : Sprite) : Decidable p.Finished :=
  inferInstanceAs (Decidable (_ → _))

variable {p : Sprite}

theorem step_of_idle (h : p.isIdle = true) (now : Nat) : p.step now = p := by
  rw [step, if_pos h]

theorem OnCourse.step (h : p.OnCourse) (now : Nat) : (p.step now).OnCourse := by
  by_cases hidle : p.isIdle = true
  · rw [step_of_idle hidle]
    exact h
  · rw [Sprite.step, if_neg hidle]
    have hactive : p.complete = false ∧ p.program.isEmpty = false := by
      simpa [isIdle] using hidle
    cases hget : p.program.get? p.cursor with
    | some b =>
      have hinside : p.cursor < p.program.length := (List.getElem?_eq_some_iff.1 hget).1
      refine ⟨?_, ?_, ?_⟩
      · simp only [Program.length_markExecuted]
        exact hinside
      · intro hcomplete
        rw [hactive.1] at hcomplete
        cases hcomplete
      · intro index hindex c hc
        simp only [Program.get?_markExecuted, Option.map_eq_some_iff] at hc
        obtain ⟨d, hd, rfl⟩ := hc
        split
        · simp
        · have hbefore : index < p.cursor := by
            simp only at hindex
            omega
          exact h.executed index hbefore d hd
    | none =>
      have hend : p.program.length ≤ p.cursor := List.getElem?_eq_none_iff.1 hget
      exact ⟨h.cursor_le, fun _ => ⟨hactive.2, Nat.le_antisymm h.cursor_le hend⟩, h.executed⟩

theorem onCourse_of_start (hcursor : p.cursor = 0) (hcomplete : p.complete = false) :
    p.OnCourse := by
  constructor
  · omega
  · simp [hcomplete]
  · simp [hcursor]

theorem lasting_onCourse : Lasting OnCourse where
  start _ hcursor hcomplete := onCourse_of_start hcursor hcomplete
  state _ _ h := ⟨h.cursor_le, h.complete, h.executed⟩
  step _ now h := h.step now

theorem OnCourse.finished (h : p.OnCourse) (hidle : p.isIdle = true) : p.Finished := by
  intro hprogram
  have hcomplete : p.complete = true := by simpa [isIdle, hprogram] using hidle
  have hend := (h.complete hcomplete).2
  refine ⟨hcomplete, hend, fun b hb => ?_⟩
  obtain ⟨index, hget⟩ := List.mem_iff_getElem?.1 hb
  have hindex : index < p.program.length := (List.getElem?_eq_some_iff.1 hget).1
  exact h.executed index (by omega) b hget

end Sprite

end SpriteStage
