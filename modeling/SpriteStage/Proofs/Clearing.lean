import Mathlib.Data.List.InsertIdx
import SpriteStage.Program.Edit
import SpriteStage.Program.Nesting
/-!
Flags and edits. An edit finds its target by identities and by which blocks are loops, and it moves
blocks as they are. So flags have no say in what an edit does: clearing all flags before it, also on
the block that it brings, is the same as clearing them afterwards.
-/

namespace SpriteStage

namespace Block

theorem cleared_withBody (body : List Block) (b : Block) :
    (b.withBody body).cleared = b.cleared.withBody (body.map cleared) := by
  cases b with
  | act => rfl
  | loop => simp [withBody, cleared, clearedAll_eq_map]

theorem find?_map_cleared (id : BlockId) (blocks : List Block) :
    ((blocks.map cleared).find? fun b => b.id = id) =
      (blocks.find? fun b => b.id = id).map cleared := by
  rw [List.find?_map]
  simp only [Function.comp_def, id_cleared]

theorem any_map_cleared (id : BlockId) (blocks : List Block) :
    ((blocks.map cleared).any fun b => b.id = id) = blocks.any fun b => b.id = id := by
  simp [List.any_map, Function.comp_def]

theorem filter_map_cleared (id : BlockId) (blocks : List Block) :
    (blocks.filter fun b => b.id ≠ id).map cleared =
      (blocks.map cleared).filter fun b => b.id ≠ id := by
  simp [List.filter_map, Function.comp_def]

end Block

theorem map_cleared_replaceChildren (id : BlockId) (replacement : Block) (children : List Block) :
    (replaceChildren id replacement children).map Block.cleared =
      replaceChildren id replacement.cleared (children.map Block.cleared) := by
  simp only [replaceChildren, List.map_map]
  refine List.map_congr_left fun c _ => ?_
  simp only [Function.comp_apply, Block.id_cleared]
  split
  · rfl
  · rfl

namespace Program

variable {p : Program}

theorem findIn?_cleared (id : BlockId) (b : Block) :
    findIn? id b.cleared = (findIn? id b).map Block.cleared := by
  simp only [findIn?, Block.id_cleared, Block.body_cleared, Block.find?_map_cleared]
  split
  · rfl
  · rfl

theorem find?_cleared (p : Program) (id : BlockId) :
    p.cleared.find? id = (p.find? id).map Block.cleared := by
  simp only [find?, cleared, List.findSome?_map, List.map_findSome?]
  congr 1
  funext b
  exact findIn?_cleared id b

theorem contains_cleared (p : Program) (id : BlockId) : p.cleared.contains id = p.contains id := by
  simp [contains, find?_cleared]

theorem loopIndex?_cleared (p : Program) (loop : BlockId) :
    p.cleared.loopIndex? loop = p.loopIndex? loop := by
  simp [loopIndex?, cleared, List.findIdx?_map, Function.comp_def]

theorem cleared_replaceIn (id : BlockId) (replacement b : Block) :
    (replaceIn id replacement b).cleared = replaceIn id replacement.cleared b.cleared := by
  simp only [replaceIn, Block.id_cleared, Block.body_cleared, Block.any_map_cleared]
  split
  · rfl
  · split
    · rw [Block.cleared_withBody, map_cleared_replaceChildren]
    · rfl

theorem cleared_replace (p : Program) (id : BlockId) (replacement : Block) :
    (p.replace id replacement).cleared = p.cleared.replace id replacement.cleared := by
  simp only [replace, contains_cleared]
  split
  · simp [cleared, cleared_replaceIn]
  · rfl

theorem cleared_editLoop (p : Program) (loop : BlockId) (edit edit' : List Block → List Block)
    (h : ∀ body, (edit body).map Block.cleared = edit' (body.map Block.cleared)) :
    (p.editLoop loop edit).cleared = p.cleared.editLoop loop edit' := by
  have hblock : ∀ b : Block,
      (b.withBody (edit b.body)).cleared = b.cleared.withBody (edit' b.cleared.body) := by
    intro b
    rw [Block.cleared_withBody, h, Block.body_cleared]
  simp only [editLoop, loopIndex?_cleared]
  split
  · rename_i index _
    exact congrArg mk (map_modify hblock p.blocks index)
  · rfl

theorem cleared_reorder (p : Program) (source target : Nat) :
    (p.reorder source target).cleared = p.cleared.reorder source target := by
  simp only [reorder, cleared, List.getElem?_map]
  cases hsource : p.blocks[source]? with
  | none => rfl
  | some b => simp [List.map_insertIdx, List.eraseIdx_map]

end Program

namespace Edit

/-- An edit that brings its block without flags. -/
def cleared : Edit → Edit
  | append b => append b.cleared
  | replace target b => replace target b.cleared
  | delete target => delete target
  | addToLoop loop b => addToLoop loop b.cleared
  | updateInLoop loop b => updateInLoop loop b.cleared
  | deleteFromLoop loop target => deleteFromLoop loop target
  | reorder source target => reorder source target

theorem cleared_apply (e : Edit) (p : Program) :
    (e.apply p).cleared = e.cleared.apply p.cleared := by
  cases e with
  | append b => simp [apply, cleared, Program.append, Program.cleared]
  | replace target b => exact p.cleared_replace target b
  | delete target => exact congrArg Program.mk (Block.filter_map_cleared target p.blocks)
  | addToLoop loop b =>
    exact p.cleared_editLoop loop (fun body => body ++ [b]) (fun body => body ++ [b.cleared])
      fun body => List.map_append
  | updateInLoop loop b =>
    refine p.cleared_editLoop loop _ _ fun body => ?_
    rw [map_cleared_replaceChildren, Block.id_cleared]
  | deleteFromLoop loop target =>
    exact p.cleared_editLoop loop _ _ (Block.filter_map_cleared target)
  | reorder source target => exact p.cleared_reorder source target

end Edit

end SpriteStage
