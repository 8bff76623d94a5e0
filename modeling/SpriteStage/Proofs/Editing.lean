import Mathlib.Data.List.Basic
import SpriteStage.Proofs.Programs
import SpriteStage.Stage.Arrange
/-!
What edits do to programs. An edit brings at most one block. Each block of the edited program is a
block of the old program, the one that was brought, or a loop of the old program with another body,
which in turn has only blocks of the old body and the one that was brought. On a stage an edit goes to
one program at most.
-/

namespace SpriteStage

theorem mem_modify {α : Type} {f : α → α} {xs : List α} {index : Nat} {x : α}
    (h : x ∈ xs.modify index f) : x ∈ xs ∨ ∃ y ∈ xs, x = f y := by
  by_cases hindex : index < xs.length
  · obtain ⟨before, y, after, rfl, -, hmodify⟩ := List.exists_of_modify f hindex
    rw [hmodify] at h
    rcases List.mem_append.1 h with hbefore | hrest
    · exact Or.inl (List.mem_append_left _ hbefore)
    · rcases List.mem_cons.1 hrest with rfl | hafter
      · exact Or.inr ⟨y, by simp, rfl⟩
      · exact Or.inl (by simp [hafter])
  · rw [List.modify_eq_self (by omega)] at h
    exact Or.inl h

namespace Edit

def block? : Edit → Option Block
  | append b | replace _ b | addToLoop _ b | updateInLoop _ b => some b
  | delete _ | deleteFromLoop .. | reorder .. => none

inductive Yields (e : Edit) (p : Program) : Block → Prop
  | kept {b : Block} : b ∈ p.blocks → Yields e p b
  | brought {b : Block} : e.block? = some b → Yields e p b
  | refilled {b : Block} {body : List Block} :
      b ∈ p.blocks → (∀ c ∈ body, c ∈ b.body ∨ e.block? = some c) → Yields e p (b.withBody body)

variable {e : Edit} {p : Program} {loop target : BlockId} {b c : Block}

theorem mem_replaceChildren {children : List Block} (h : c ∈ replaceChildren target b children) :
    c ∈ children ∨ c = b := by
  obtain ⟨d, hd, rfl⟩ := List.mem_map.1 h
  split
  · exact Or.inr rfl
  · exact Or.inl hd

theorem yields_of_mem_editLoop {edit : List Block → List Block}
    (hedit : ∀ body, ∀ d ∈ edit body, d ∈ body ∨ e.block? = some d)
    (h : c ∈ (p.editLoop loop edit).blocks) : e.Yields p c := by
  unfold Program.editLoop at h
  split at h
  · rcases mem_modify h with hold | ⟨d, hd, rfl⟩
    · exact .kept hold
    · exact .refilled hd (hedit d.body)
  · exact .kept h

theorem yields_of_mem_replace (h : c ∈ (p.replace target b).blocks) :
    (replace target b).Yields p c := by
  unfold Program.replace at h
  split at h
  · obtain ⟨d, hd, rfl⟩ := List.mem_map.1 h
    unfold Program.replaceIn
    split
    · exact .brought rfl
    · split
      · refine .refilled hd fun d hd => ?_
        exact (mem_replaceChildren hd).imp_right fun heq => by rw [heq]; rfl
      · exact .kept hd
  · exact .kept h

theorem yields_of_mem_reorder {source place : Nat} (h : c ∈ (p.reorder source place).blocks) :
    (reorder source place).Yields p c := by
  unfold Program.reorder at h
  split at h
  · rename_i d hd
    rcases (List.mem_insertIdx (Nat.min_le_right _ _)).1 h with rfl | hrest
    · exact .kept (List.mem_of_getElem? hd)
    · exact .kept (List.mem_of_mem_eraseIdx hrest)
  · exact .kept h

theorem yields_of_mem_apply (h : c ∈ (e.apply p).blocks) : e.Yields p c := by
  cases e with
  | append b =>
    rcases List.mem_append.1 h with hold | hnew
    · exact .kept hold
    · rw [List.mem_singleton.1 hnew]
      exact .brought rfl
  | replace target b => exact yields_of_mem_replace h
  | delete target => exact .kept (List.mem_filter.1 h).1
  | addToLoop loop b =>
    refine yields_of_mem_editLoop (fun body d hd => ?_) h
    rcases List.mem_append.1 hd with hold | hnew
    · exact Or.inl hold
    · exact Or.inr (congrArg some (List.mem_singleton.1 hnew).symm)
  | updateInLoop loop b =>
    refine yields_of_mem_editLoop (fun body d hd => ?_) h
    exact (mem_replaceChildren hd).imp_right fun heq => congrArg some heq.symm
  | deleteFromLoop loop target =>
    exact yields_of_mem_editLoop (fun body d hd => Or.inl (List.mem_filter.1 hd).1) h
  | reorder source place => exact yields_of_mem_reorder h

end Edit

namespace Stage

theorem programs_editSelected (s : Stage) (e : Edit) :
    ∃ index, (s.editSelected e).programs = s.programs.modify index e.apply := by
  unfold editSelected
  split
  · rename_i index _
    have hprogram : ∀ p : Sprite, (p.edited (e.apply p.program)).program = e.apply p.program :=
      fun _ => rfl
    exact ⟨index, map_modify hprogram s.sprites index⟩
  · exact ⟨s.programs.length, (List.modify_eq_self (Nat.le_refl _)).symm⟩

end Stage

end SpriteStage
