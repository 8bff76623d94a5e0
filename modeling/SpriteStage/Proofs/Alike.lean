import Mathlib.Data.List.Forall2
import SpriteStage.Proofs.Clearing
/-!
Clearing flags and nothing else. A program with all flags cleared is the same tree of blocks as it
was: the same identities, actions and counts, in the same order at every depth. So look-ups answer as
before and loops lie as deep in one another as before, and it does not matter whether flags are
cleared before an edit or after it.
-/

namespace SpriteStage

theorem map_eq_map_of_forall₂ {α β : Type} {R : α → α → Prop} {f : α → β} {xs ys : List α}
    (h : List.Forall₂ R xs ys) (hf : ∀ x ∈ xs, ∀ y, R x y → f x = f y) : xs.map f = ys.map f := by
  induction h with
  | nil => rfl
  | @cons x y xs ys hxy _ ih =>
    obtain ⟨hx, hxs⟩ := List.forall_mem_cons.1 hf
    rw [List.map_cons, List.map_cons, hx y hxy, ih hxs]

namespace Block

/-- Two blocks that are the same at every depth but for their flags. -/
inductive Alike : Block → Block → Prop
  | act {id : BlockId} {executed executed' : Bool} {action : Action} :
    Alike (.act id executed action) (.act id executed' action)
  | loop {id : BlockId} {executed executed' : Bool} {count : Option Nat} {body body' : List Block} :
    List.Forall₂ Alike body body' →
      Alike (.loop id executed count body) (.loop id executed' count body')

theorem forall₂_map_cleared {blocks : List Block} (h : ∀ b ∈ blocks, b.Alike b.cleared) :
    List.Forall₂ Alike blocks (blocks.map cleared) :=
  List.forall₂_map_right_iff.2 (List.forall₂_same.2 h)

theorem alike_cleared (b : Block) : b.Alike b.cleared := by
  induction b using nesting_induction with
  | act id executed action => exact .act
  | loop id executed count body ih =>
    rw [cleared, clearedAll_eq_map]
    exact .loop (forall₂_map_cleared ih)

theorem Alike.cleared_eq {b c : Block} (h : b.Alike c) : b.cleared = c.cleared := by
  induction b using nesting_induction generalizing c with
  | act id executed action =>
    cases h
    rfl
  | loop id executed count body ih =>
    cases h with
    | loop hbody =>
      have hcleared := map_eq_map_of_forall₂ hbody fun d hd _ hdc => ih d hd hdc
      rw [cleared, cleared, clearedAll_eq_map, clearedAll_eq_map, hcleared]

theorem deepest_map {f : Block → Block} {blocks : List Block}
    (h : ∀ b ∈ blocks, (f b).nestingDepth = b.nestingDepth) :
    deepest (blocks.map f) = deepest blocks := by
  induction blocks with
  | nil => rfl
  | cons b bs ih =>
    obtain ⟨hb, hbs⟩ := List.forall_mem_cons.1 h
    rw [List.map_cons, deepest, deepest, hb, ih hbs]

theorem nestingDepth_cleared (b : Block) : b.cleared.nestingDepth = b.nestingDepth := by
  induction b using nesting_induction with
  | act => rfl
  | loop id executed count body ih =>
    rw [cleared, clearedAll_eq_map, nestingDepth, nestingDepth, deepest_map ih]

end Block

namespace Program

def preorder (p : Program) : List Block := p.blocks.flatMap Block.preorder

theorem preorder_cleared (p : Program) : p.cleared.preorder = p.preorder.map Block.cleared := by
  rw [preorder, preorder, cleared, List.flatMap_map, List.map_flatMap]
  exact List.flatMap_congr fun b _ => b.preorder_cleared

theorem executed_of_mem_preorder_cleared (p : Program) :
    ∀ b ∈ p.cleared.preorder, b.executed = false := by
  rw [preorder_cleared]
  exact List.forall_mem_map.2 fun b _ => b.executed_cleared

theorem nestingDepths_cleared (p : Program) :
    p.cleared.preorder.map Block.nestingDepth = p.preorder.map Block.nestingDepth := by
  rw [preorder_cleared, List.map_map]
  exact List.map_congr_left fun b _ => b.nestingDepth_cleared

theorem length_cleared (p : Program) : p.cleared.length = p.length := List.length_map _

theorem position?_cleared (p : Program) (id : BlockId) :
    p.cleared.position? id = p.position? id := by
  simp [position?, cleared, List.findIdx?_map, Function.comp_def]

theorem alike_cleared (p : Program) : List.Forall₂ Block.Alike p.blocks p.cleared.blocks :=
  Block.forall₂_map_cleared fun b _ => b.alike_cleared

theorem cleared_eq_of_alike {p q : Program} (h : List.Forall₂ Block.Alike p.blocks q.blocks) :
    p.cleared = q.cleared :=
  congrArg Program.mk (map_eq_map_of_forall₂ h fun _ _ _ halike => halike.cleared_eq)

/-- Clearing flags commutes with every edit. It takes away all flags at every depth, so it does not
matter which a run has set, and it changes nothing else. -/
theorem cleared_changes_only_flags (p : Program) :
    (∀ e : Edit, (e.apply p).cleared = e.cleared.apply p.cleared) ∧
      p.cleared.cleared = p.cleared ∧
      (∀ b ∈ p.cleared.preorder, b.executed = false) ∧
      (∀ index, (p.markExecuted index).cleared = p.cleared) ∧
      List.Forall₂ Block.Alike p.blocks p.cleared.blocks ∧
      p.cleared.length = p.length ∧
      (∀ id, p.cleared.position? id = p.position? id ∧ p.cleared.contains id = p.contains id) ∧
      p.cleared.preorder.map Block.nestingDepth = p.preorder.map Block.nestingDepth := by
  refine ⟨fun e => e.cleared_apply p, p.cleared_cleared, p.executed_of_mem_preorder_cleared,
    p.cleared_markExecuted, ?_, p.length_cleared, fun id => ?_, p.nestingDepths_cleared⟩
  · exact Block.forall₂_map_cleared fun b _ => b.alike_cleared
  · exact ⟨p.position?_cleared id, p.contains_cleared id⟩

theorem cleared_changes_only_flags_nested :
    let say (n : Nat) (flag : Bool) : Block := .act ⟨n⟩ flag (.say "hi" 1)
    let p : Program :=
      ⟨[say 1 true, .loop ⟨2⟩ true (some 3) [.loop ⟨4⟩ false none [say 3 true]]]⟩
    let q : Program :=
      ⟨[say 1 false, .loop ⟨2⟩ false (some 3) [.loop ⟨4⟩ false none [say 3 false]]]⟩
    p.cleared = q ∧ say 3 false ∈ q.preorder ∧ (∀ b ∈ q.preorder, b.executed = false) ∧
      List.Forall₂ Block.Alike p.blocks q.blocks ∧
      ((Edit.updateInLoop ⟨2⟩ (say 4 true)).apply p).cleared =
        (Edit.updateInLoop ⟨2⟩ (say 4 false)).apply q ∧
      p.preorder.map Block.nestingDepth = [0, 2, 1, 0] ∧
      q.preorder.map Block.nestingDepth = [0, 2, 1, 0] := by
  intro say p q
  have hcleared : p.cleared = q := rfl
  have hnested : q.preorder[3]? = some (say 3 false) := rfl
  obtain ⟨hedit, -, hflags, -, halike, -, -, hdepths⟩ := p.cleared_changes_only_flags
  exact ⟨hcleared, List.mem_of_getElem? hnested, hflags, halike,
    hedit (.updateInLoop ⟨2⟩ (say 4 true)), rfl, hdepths⟩

end Program

end SpriteStage
