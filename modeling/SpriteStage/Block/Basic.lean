import SpriteStage.Block.Id
/-!
Blocks: the instructions of a sprite's program. A block either acts once on the sprite or is a loop
around further blocks. Every block carries its identity and the flag that the current run has passed
over it.
-/

namespace SpriteStage

inductive Rotation where
  | clockwise
  | counterclockwise
deriving DecidableEq

namespace Rotation

def name : Rotation → String
  | clockwise => "clockwise"
  | counterclockwise => "counterclockwise"

def ofName? (word : String) : Option Rotation :=
  [clockwise, counterclockwise].find? fun r => r.name = word

end Rotation

inductive Action where
  | move (dx dy : Float)
  | turn (degrees : Float) (rotation : Rotation)
  | goTo (x y : Float)
  | say (text : String) (seconds : Float)
  | think (text : String) (seconds : Float)
  | unknown (name : String)
deriving DecidableEq

/-- An instruction. A loop without a count runs its body once. -/
inductive Block where
  | act (id : BlockId) (executed : Bool) (action : Action)
  | loop (id : BlockId) (executed : Bool) (count : Option Nat) (body : List Block)

namespace Block

def id : Block → BlockId
  | act id _ _ | loop id _ _ _ => id

def executed : Block → Bool
  | act _ executed _ | loop _ executed _ _ => executed

def isLoop : Block → Bool
  | act .. => false
  | loop .. => true

def body : Block → List Block
  | act .. => []
  | loop _ _ _ body => body

def withBody (blocks : List Block) : Block → Block
  | act id executed action => act id executed action
  | loop id executed count _ => loop id executed count blocks

@[simp] theorem id_withBody (blocks : List Block) (b : Block) : (b.withBody blocks).id = b.id := by
  cases b <;> rfl

@[simp] theorem withBody_body (b : Block) : b.withBody b.body = b := by
  cases b <;> rfl

def withExecuted (flag : Bool) : Block → Block
  | act id _ action => act id flag action
  | loop id _ count body => loop id flag count body

@[simp] theorem id_withExecuted (flag : Bool) (b : Block) : (b.withExecuted flag).id = b.id := by
  cases b <;> rfl

@[simp] theorem executed_withExecuted (flag : Bool) (b : Block) :
    (b.withExecuted flag).executed = flag := by
  cases b <;> rfl

mutual

def cleared : Block → Block
  | act id _ action => act id false action
  | loop id _ count body => loop id false count (clearedAll body)

def clearedAll : List Block → List Block
  | [] => []
  | b :: bs => b.cleared :: clearedAll bs

end

theorem clearedAll_eq_map (bs : List Block) : clearedAll bs = bs.map cleared := by
  induction bs with
  | nil => rfl
  | cons b bs ih => simp [clearedAll, ih]

@[simp] theorem id_cleared (b : Block) : b.cleared.id = b.id := by
  cases b <;> simp [cleared, id]

@[simp] theorem isLoop_cleared (b : Block) : b.cleared.isLoop = b.isLoop := by
  cases b <;> simp [cleared, isLoop]

@[simp] theorem executed_cleared (b : Block) : b.cleared.executed = false := by
  cases b <;> simp [cleared, executed]

theorem body_cleared (b : Block) : b.cleared.body = b.body.map cleared := by
  cases b <;> simp [cleared, body, clearedAll_eq_map]

mutual

/-- How many loops lie one inside the other at the deepest place, the block itself included. -/
def nestingDepth : Block → Nat
  | act .. => 0
  | loop _ _ _ body => 1 + deepest body

def deepest : List Block → Nat
  | [] => 0
  | b :: bs => max b.nestingDepth (deepest bs)

end

end Block

end SpriteStage
