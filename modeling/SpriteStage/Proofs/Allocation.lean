import SpriteStage.Proofs.Roster
/-!
Identities over the whole history of a stage. The numbers that were given away when it was built and
those taken since are, one after the other, the numbers up to the last of its supply. So what is
taken next is new, and who has come on the stage stays there under the same identity.
-/

namespace SpriteStage

namespace Operation

def taken : List Operation → Stage → List Nat
  | [], _ => []
  | operation :: operations, s => operation.takes s.ids ++ taken operations (operation.apply s)

theorem gives_taken (operations : List Operation) (s : Stage) :
    s.ids.Gives (taken operations s) (applyAll operations s).ids := by
  induction operations generalizing s with
  | nil => exact .none s.ids
  | cons operation operations ih => exact (gives_apply s operation).append (ih (operation.apply s))

end Operation

theorem Program.selectionGone_not_mem_loopRemarks {p : Program} {loop : BlockId} {edit : String}
    {onBody : List Block → List Event} {id : SpriteId}
    (h : ∀ body, Event.selectionGone id ∉ onBody body) :
    Event.selectionGone id ∉ p.loopRemarks loop edit onBody := by
  unfold loopRemarks
  split
  · exact h _
  · simp

theorem Edit.selectionGone_not_mem_remarks (e : Edit) (p : Program) (id : SpriteId) :
    Event.selectionGone id ∉ e.remarks p := by
  cases e with
  | append b => simp [remarks]
  | replace target b =>
    rw [remarks]
    split
    · simp
    · simp
  | delete target =>
    rw [remarks]
    split
    · simp
    · simp
  | addToLoop loop b => exact Program.selectionGone_not_mem_loopRemarks fun _ => by simp
  | updateInLoop loop b =>
    refine Program.selectionGone_not_mem_loopRemarks fun body => ?_
    split
    · simp
    · simp
  | deleteFromLoop loop target =>
    refine Program.selectionGone_not_mem_loopRemarks fun body => ?_
    split
    · simp
    · simp
  | reorder source place =>
    rw [remarks]
    split
    · simp
    · simp

namespace Stage

variable {s : Stage}

theorem labels_prefix_applyAll (operations : List Operation) (s : Stage) :
    s.roster.labels <+: (Operation.applyAll operations s).roster.labels := by
  induction operations generalizing s with
  | nil => exact List.prefix_refl _
  | cons operation operations ih =>
    have hfirst := s.roster.labels_prefix_after operation
    rw [← roster_apply] at hfirst
    exact hfirst.trans (ih _)

/-- Whatever is done with a stage, there are sprites on it, no two with the same identity, and one of
them is selected. A sprite keeps its place, its identity, its name and its costume. What is taken
from the supply next is the identity of no sprite on the stage and of no block that was loaded, and
has not been taken before. -/
theorem Built.identities_applyAll (built : s.Built) (operations : List Operation) :
    let t := Operation.applyAll operations s
    t.sprites ≠ [] ∧ (t.sprites.map Sprite.id).Nodup ∧ (∃ p ∈ t.sprites, p.id = t.selected) ∧
      (∀ e id, Event.selectionGone id ∉ t.editSelectedLog e) ∧
      (∀ later, t.sprites.map Sprite.label <+:
        (Operation.applyAll later t).sprites.map Sprite.label) ∧
      ∀ operation : Operation, ∀ n ∈ operation.takes t.ids,
        (∀ p ∈ t.sprites, p.id.number ≠ n) ∧ (∀ id ∈ s.blockIds, id.number ≠ n) ∧
          n ∉ Operation.taken operations s := by
  intro t
  have reachable : t.Reachable := built.reachable.applyAll operations
  obtain ⟨p, hp, hselected, hfound⟩ := reachable.exists_selected
  refine ⟨List.ne_nil_of_mem hp, reachable.nodup_ids, ⟨p, hp, hselected⟩, ?_, ?_, ?_⟩
  · intro e id
    rw [editSelectedLog, hfound]
    exact e.selectionGone_not_mem_remarks p.program id
  · exact fun later => labels_prefix_applyAll later t
  · intro operation n hn
    have hnext : t.ids.last < n := (Operation.gives_apply t operation).lt_of_mem hn
    have hgiven := built.gives.append (Operation.gives_taken operations s)
    refine ⟨?_, ?_, ?_⟩
    · intro q hq heq
      have hmem : q.id ∈ t.roster.ofSprites := by
        rw [ofSprites_roster]
        exact List.mem_map_of_mem hq
      have hle : q.id.number ≤ t.ids.last := reachable.sound.le_last q.id hmem
      omega
    · intro id hid heq
      have hle : s.ids.last ≤ t.ids.last := by
        have hlast : t.ids.last = _ := (Operation.gives_taken operations s).last
        omega
      have hloaded := built.blockId_le_last id hid
      omega
    · intro htaken
      have hle : n ≤ t.ids.last := hgiven.le_last n (List.mem_append_right _ htaken)
      omega

theorem identities_applyAll_scene :
    let cat : Sprite :=
      { id := ⟨1⟩, name := "Cat", costume := "🐱", program := ⟨[.act ⟨2⟩ false (.move 0 0)]⟩ }
    let s := populated 0 { tickInterval := 3, frameInterval := 20 } [cat] ⟨2⟩
    let operations : List Operation :=
      [.createSprite, .takeBlockId, .select ⟨7⟩, .start, .setClock 6, .pump, .select ⟨1⟩]
    let t := Operation.applyAll operations s
    s.Built ∧ Operation.taken operations s = [3, 4] ∧
      t.sprites.map Sprite.id = [⟨1⟩, ⟨3⟩] ∧ t.stats.swaps = 1 ∧
      (t.sprites.map Sprite.id).Nodup ∧ (∃ p ∈ t.sprites, p.id = t.selected) ∧
      ∀ n ∈ Operation.createSprite.takes t.ids,
        (∀ p ∈ t.sprites, p.id.number ≠ n) ∧ (∀ id ∈ s.blockIds, id.number ≠ n) ∧
          n ∉ Operation.taken operations s := by
  intro cat s operations t
  have built : s.Built :=
    .loaded 0 _ 0 [{ name := some "Cat", blocks := [⟨⟨"move", ⟨0, 0⟩⟩, {}, []⟩] }]
  obtain ⟨-, nodup, selected, -, -, fresh⟩ := built.identities_applyAll operations
  exact ⟨built, by decide, by decide +kernel, by decide +kernel, nodup, selected, fresh .createSprite⟩

end Stage

end SpriteStage
