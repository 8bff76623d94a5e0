import Mathlib.Data.List.Basic
import SpriteStage.Program.Basic
/-!
The blocks of a program at every depth: a block comes before the blocks of its body, as in the
listing. Flags are not seen in the identities that a program uses.
-/

namespace SpriteStage

theorem map_modify {α β : Type} {f : α → α} {f' : β → β} {g : α → β} (h : ∀ x, g (f x) = f' (g x))
    (xs : List α) (index : Nat) : (xs.modify index f).map g = (xs.map g).modify index f' := by
  induction xs generalizing index with
  | nil => simp
  | cons x xs ih =>
    cases index with
    | zero => simp [h]
    | succ index => simp [ih]

namespace Block

@[elab_as_elim]
theorem nesting_induction {motive : Block → Prop}
    (act : ∀ id executed action, motive (.act id executed action))
    (loop : ∀ id executed count body,
      (∀ b ∈ body, motive b) → motive (.loop id executed count body)) :
    ∀ b, motive b
  | .act id executed action => act id executed action
  | .loop id executed count body =>
    loop id executed count body fun b _ => nesting_induction act loop b

mutual

def preorder : Block → List Block
  | act id executed action => [act id executed action]
  | loop id executed count body => loop id executed count body :: preorderAll body

def preorderAll : List Block → List Block
  | [] => []
  | b :: bs => b.preorder ++ preorderAll bs

end

theorem preorderAll_eq_flatMap (bs : List Block) : preorderAll bs = bs.flatMap preorder := by
  induction bs with
  | nil => rfl
  | cons b bs ih => simp [preorderAll, ih]

theorem preorder_eq (b : Block) : b.preorder = b :: b.body.flatMap preorder := by
  cases b with
  | act => rfl
  | loop => simp [preorder, body, preorderAll_eq_flatMap]

theorem preorder_cleared (b : Block) : b.cleared.preorder = b.preorder.map cleared := by
  induction b using nesting_induction with
  | act => rfl
  | loop id executed count body ih =>
    rw [preorder_eq, preorder_eq (loop id executed count body), body_cleared, List.flatMap_map,
      List.map_cons, List.map_flatMap]
    exact congrArg _ (List.flatMap_congr ih)

def ids (b : Block) : List BlockId := b.preorder.map id

theorem ids_eq (b : Block) : b.ids = b.id :: b.body.flatMap ids := by
  rw [ids, preorder_eq, List.map_cons, List.map_flatMap]
  rfl

@[simp] theorem ids_cleared (b : Block) : b.cleared.ids = b.ids := by
  simp [ids, preorder_cleared]

@[simp] theorem body_withExecuted (flag : Bool) (b : Block) :
    (b.withExecuted flag).body = b.body := by
  cases b <;> rfl

@[simp] theorem cleared_withExecuted (flag : Bool) (b : Block) :
    (b.withExecuted flag).cleared = b.cleared := by
  cases b <;> rfl

@[simp] theorem cleared_cleared (b : Block) : b.cleared.cleared = b.cleared := by
  induction b using nesting_induction with
  | act => rfl
  | loop id executed count body ih =>
    simp only [cleared, clearedAll_eq_map, List.map_map]
    exact congrArg _ (List.map_congr_left ih)

end Block

namespace Program

def ids (p : Program) : List BlockId := p.blocks.flatMap Block.ids

@[simp] theorem ids_cleared (p : Program) : p.cleared.ids = p.ids := by
  simp [ids, cleared, List.flatMap_map]

@[simp] theorem cleared_cleared (p : Program) : p.cleared.cleared = p.cleared := by
  simp [cleared, Function.comp_def]

@[simp] theorem cleared_markExecuted (p : Program) (index : Nat) :
    (p.markExecuted index).cleared = p.cleared := by
  have hflag : ∀ b : Block, (b.withExecuted true).cleared = id b.cleared :=
    Block.cleared_withExecuted true
  rw [cleared, cleared, markExecuted, map_modify hflag, List.modify_id]

end Program

end SpriteStage
