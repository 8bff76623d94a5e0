import SpriteStage.Proofs.Course
import SpriteStage.Proofs.Editing
import SpriteStage.Proofs.Numbering
/-!
The place of a run in a program, and its flags. At every moment of the life of a stage the cursor of
a sprite is inside its program or at its end, and the blocks before it are flagged. A run flags blocks
at top level only: a flag inside a loop has come there with a block that was flagged when it was
brought.
-/

namespace SpriteStage

def Block.Unflagged (b : Block) : Prop := ∀ c ∈ b.preorder, c.executed = false

def Program.UnflaggedInside (p : Program) : Prop := ∀ b ∈ p.blocks, ∀ c ∈ b.body, c.Unflagged

instance (b : Block) : Decidable b.Unflagged :=
  inferInstanceAs (Decidable (∀ c ∈ b.preorder, c.executed = false))

instance (p : Program) : Decidable p.UnflaggedInside :=
  inferInstanceAs (Decidable (∀ b ∈ p.blocks, ∀ c ∈ b.body, c.Unflagged))

namespace Block

variable {b : Block}

theorem unflagged_iff : b.Unflagged ↔ b.executed = false ∧ ∀ c ∈ b.body, c.Unflagged := by
  unfold Unflagged
  rw [preorder_eq, List.forall_mem_cons, List.forall_mem_flatMap]

theorem unflagged_cleared (b : Block) : b.cleared.Unflagged := by
  intro c hc
  rw [preorder_cleared] at hc
  obtain ⟨d, -, rfl⟩ := List.mem_map.1 hc
  exact executed_cleared d

theorem mem_body_withBody {body : List Block} {c : Block} (h : c ∈ (b.withBody body).body) :
    c ∈ body := by
  cases b with
  | act => cases h
  | loop => exact h

end Block

namespace Program

variable {p q : Program} {e : Edit}

theorem UnflaggedInside.reflagged (h : p.UnflaggedInside) (hflags : p.Reflagged q) :
    q.UnflaggedInside := by
  cases hflags with
  | same => exact h
  | marked index =>
    intro b hb c hc
    rcases mem_modify hb with hold | ⟨d, hd, rfl⟩
    · exact h b hold c hc
    · rw [Block.body_withExecuted] at hc
      exact h d hd c hc
  | cleared =>
    intro b hb c hc
    obtain ⟨d, -, rfl⟩ := List.mem_map.1 hb
    exact (Block.unflagged_iff.1 d.unflagged_cleared).2 c hc

theorem UnflaggedInside.edited (h : p.UnflaggedInside)
    (hbrought : ∀ b, e.block? = some b → b.Unflagged) : (e.apply p).UnflaggedInside := by
  intro b hb c hc
  cases Edit.yields_of_mem_apply hb with
  | kept hold => exact h b hold c hc
  | brought hnew => exact (Block.unflagged_iff.1 (hbrought b hnew)).2 c hc
  | refilled hold hbody =>
    rcases hbody c (Block.mem_body_withBody hc) with hchild | hnew
    · exact h _ hold c hchild
    · exact hbrought c hnew

end Program

/-! ### Loaded programs -/

namespace BlockEntry

mutual

theorem unflagged_load : ∀ (e : BlockEntry) (ids : IdSupply), (e.load ids).1.Unflagged
  | ⟨type, parameters, children⟩, ids => by
    rw [load]
    split
    · exact Block.unflagged_iff.2 ⟨rfl, by simp [Block.body]⟩
    · exact Block.unflagged_iff.2 ⟨rfl, unflagged_loadAll children ids.advance⟩

theorem unflagged_loadAll : ∀ (es : List BlockEntry) (ids : IdSupply),
    ∀ b ∈ (loadAll ids es).1, b.Unflagged
  | [], _ => by simp [loadAll]
  | e :: es, ids => by
    rw [loadAll]
    exact List.forall_mem_cons.2 ⟨unflagged_load e ids, unflagged_loadAll es _⟩

end

end BlockEntry

theorem SpriteEntry.unflagged_loadAll (entries : List SpriteEntry) (ids : IdSupply) (index : Nat) :
    ∀ p ∈ (loadAll ids index entries).1, ∀ b ∈ p.program.blocks, b.Unflagged := by
  induction entries generalizing ids index with
  | nil => simp [loadAll]
  | cons e es ih =>
    refine List.forall_mem_cons.2 ⟨?_, ih _ _⟩
    exact BlockEntry.unflagged_loadAll e.blocks ids.advance

namespace Stage

variable {s : Stage}

theorem Built.unflaggedInside (h : s.Built) : ∀ p ∈ s.programs, p.UnflaggedInside := by
  obtain ⟨clock, config, entries, rfl⟩ := h.exists_entries
  have hloaded := SpriteEntry.unflagged_loadAll entries {} 0
  cases hsprites : (SpriteEntry.loadAll {} 0 entries).1 with
  | nil => simp [populated, assemble, programs, Program.UnflaggedInside, Sprite.numbered]
  | cons first rest =>
    rw [hsprites] at hloaded
    refine List.forall_mem_map.2 fun p hp b hb => ?_
    exact (Block.unflagged_iff.1 (hloaded p hp b hb)).2

theorem unflaggedInside_apply (h : ∀ p ∈ s.programs, p.UnflaggedInside) {operation : Operation}
    (hbrought : ∀ e b, operation = .edit e → e.block? = some b → b.Unflagged) :
    ∀ p ∈ (operation.apply s).programs, p.UnflaggedInside := by
  cases hcomposes : operation.composes with
  | false =>
    have hrun := Operation.rearranged_apply s hcomposes
    exact hrun.forall_mem (fun _ _ hflags hp => hp.reflagged hflags) h
  | true =>
    cases operation with
    | createSprite =>
      intro p hp
      rw [Operation.apply, programs_createSprite] at hp
      rcases List.mem_append.1 hp with hold | hnew
      · exact h p hold
      · rw [List.mem_singleton.1 hnew]
        simp [Program.UnflaggedInside]
    | edit e =>
      obtain ⟨index, hprograms⟩ := s.programs_editSelected e
      intro p hp
      rw [Operation.apply, hprograms] at hp
      rcases mem_modify hp with hold | ⟨q, hq, rfl⟩
      · exact h p hold
      · exact (h q hq).edited fun b hb => hbrought e b rfl hb
    | _ => cases hcomposes

/-- Whatever is done with a stage, every sprite is on course in its program. If no block that is
brought by an edit is flagged, at any depth, then no block inside a loop is ever flagged. -/
theorem Built.onCourse_applyAll (built : s.Built) (operations : List Operation) :
    (Operation.applyAll operations s).All Sprite.OnCourse ∧
      ((∀ e b, .edit e ∈ operations → e.block? = some b → b.Unflagged) →
        ∀ p ∈ (Operation.applyAll operations s).sprites, p.program.UnflaggedInside) := by
  constructor
  · exact (built.reachable.applyAll operations).all Sprite.lasting_onCourse
  · intro hbrought
    have hinside : ∀ p ∈ (Operation.applyAll operations s).programs, p.UnflaggedInside := by
      refine List.foldlRecOn (motive := fun t : Stage => ∀ p ∈ t.programs, p.UnflaggedInside)
        operations _ built.unflaggedInside ?_
      intro t ht operation hmem
      exact unflaggedInside_apply ht fun e b he => hbrought e b (he ▸ hmem)
    exact List.forall_mem_map.1 hinside

theorem onCourse_applyAll_midway :
    let body : Block := .loop ⟨3⟩ false (some 2) [.act ⟨4⟩ false (.move 1 0)]
    let operations : List Operation :=
      [.edit (.append (.loop ⟨2⟩ false none [])), .edit (.addToLoop ⟨2⟩ body),
        .edit (.append (.act ⟨5⟩ false (.turn 15 .clockwise))), .start, .setClock 1000, .pump]
    let s := Operation.applyAll operations (.new 0 {})
    (Stage.new 0 {}).Built ∧
      (∀ e b, .edit e ∈ operations → e.block? = some b → b.Unflagged) ∧
      s.sprites.map Sprite.cursor = [1] ∧ s.All Sprite.OnCourse ∧
      ∀ p ∈ s.sprites, p.program.UnflaggedInside := by
  intro body operations s
  have built : (Stage.new 0 {}).Built := .new 0 {}
  have unflagged : ∀ e b, .edit e ∈ operations → e.block? = some b → b.Unflagged := by
    intro e b he hb
    simp only [operations, List.mem_cons, Operation.edit.injEq, reduceCtorEq, List.not_mem_nil,
      or_false] at he
    rcases he with rfl | rfl | rfl
    all_goals
      cases hb
      decide
  obtain ⟨course, inside⟩ := built.onCourse_applyAll operations
  exact ⟨built, unflagged, by decide, course, inside unflagged⟩

end Stage

end SpriteStage
