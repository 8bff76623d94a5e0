import Mathlib.Data.List.Perm.Basic
import SpriteStage.Program.Edit
/-!
Moving a block to another place of its program. The block is taken out and put in again, so all
other blocks keep their order whichever way it goes. A place past the end means the last one, and as
the block is out when the place is looked for, that is one less than there are blocks. Moving the
block back from where it stands now to where it stood undoes the move.
-/

namespace SpriteStage.Program

variable {p : Program} {source : Nat} {b : Block}

theorem get?_eq_getElem (h : source < p.length) : p.get? source = some p.blocks[source] :=
  List.getElem?_eq_getElem h

theorem reorder_of_length_le (h : p.length ≤ source) (target : Nat) :
    p.reorder source target = p := by
  have hblock : p.blocks[source]? = none := List.getElem?_eq_none h
  rw [reorder, hblock]

theorem reorder_of_get? (h : p.get? source = some b) (target : Nat) :
    p.reorder source target =
      ⟨(p.blocks.eraseIdx source).insertIdx (min target (p.length - 1)) b⟩ := by
  have hblock : p.blocks[source]? = some b := h
  have hsource : source < p.blocks.length := (List.getElem?_eq_some_iff.1 hblock).1
  simp only [reorder, hblock, List.length_eraseIdx_of_lt hsource, length]

theorem landing_le (h : source < p.length) (target : Nat) :
    min target (p.length - 1) ≤ (p.blocks.eraseIdx source).length := by
  rw [List.length_eraseIdx_of_lt h]
  exact Nat.min_le_right _ _

theorem reorder_perm (p : Program) (source target : Nat) :
    (p.reorder source target).blocks.Perm p.blocks := by
  by_cases h : source < p.length
  · rw [reorder_of_get? (get?_eq_getElem h)]
    exact (List.perm_insertIdx _ _ (landing_le h target)).trans (List.getElem_cons_eraseIdx_perm h)
  · rw [reorder_of_length_le (Nat.le_of_not_lt h)]

theorem length_reorder (p : Program) (source target : Nat) :
    (p.reorder source target).length = p.length :=
  (p.reorder_perm source target).length_eq

theorem get?_reorder (h : source < p.length) (target : Nat) :
    (p.reorder source target).get? (min target (p.length - 1)) = p.get? source := by
  rw [get?_eq_getElem h, reorder_of_get? (get?_eq_getElem h), get?, List.getElem?_insertIdx_self,
    if_pos (landing_le h target)]

theorem eraseIdx_reorder (h : source < p.length) (target : Nat) :
    (p.reorder source target).blocks.eraseIdx (min target (p.length - 1)) =
      p.blocks.eraseIdx source := by
  rw [reorder_of_get? (get?_eq_getElem h), List.eraseIdx_insertIdx_self]

theorem reorder_reorder (h : source < p.length) (target : Nat) :
    (p.reorder source target).reorder (min target (p.length - 1)) source = p := by
  have hlanded := (get?_reorder h target).trans (get?_eq_getElem h)
  have hplace : min source ((p.reorder source target).length - 1) = source := by
    rw [length_reorder]
    omega
  rw [reorder_of_get? hlanded, eraseIdx_reorder h, hplace, List.insertIdx_eraseIdx_getElem h]

/-- Moving a block to another place moves no other block, and moving it back undoes it. -/
theorem reorder_moves_one (p : Program) (source target : Nat) :
    (p.length ≤ source → p.reorder source target = p) ∧
      (source < p.length →
        let q := p.reorder source target
        let place := min target (p.length - 1)
        q.blocks.Perm p.blocks ∧ q.get? place = p.get? source ∧
          q.blocks.eraseIdx place = p.blocks.eraseIdx source ∧ q.reorder place source = p) := by
  refine ⟨fun h => reorder_of_length_le h target, fun h => ?_⟩
  exact ⟨p.reorder_perm source target, get?_reorder h target, eraseIdx_reorder h target,
    reorder_reorder h target⟩

theorem reorder_moves_one_pastEnd :
    let say (n : Nat) : Block := .act ⟨n⟩ false (.say "hi" 1)
    let p : Program := ⟨[say 1, say 2, .loop ⟨3⟩ true none [say 2], say 4]⟩
    let q : Program := ⟨[say 1, .loop ⟨3⟩ true none [say 2], say 4, say 2]⟩
    1 < p.length ∧ p.reorder 1 99 = q ∧ q.blocks.Perm p.blocks ∧ q.get? 3 = p.get? 1 ∧
      q.blocks.eraseIdx 3 = p.blocks.eraseIdx 1 ∧ q.reorder 3 1 = p ∧
      p.length ≤ 4 ∧ p.reorder 4 0 = p := by
  intro say p q
  have hsource : 1 < p.length := by decide
  have houtside : p.length ≤ 4 := by decide
  have hmoved : p.reorder 1 99 = q := rfl
  obtain ⟨hperm, hget, hothers, hback⟩ := (p.reorder_moves_one 1 99).2 hsource
  exact ⟨hsource, hmoved, hperm, hget, hothers, hback, houtside,
    (p.reorder_moves_one 4 0).1 houtside⟩

end SpriteStage.Program
