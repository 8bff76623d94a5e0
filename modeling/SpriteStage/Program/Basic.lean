import SpriteStage.Block.Same
/-!
Programs: the sequence of top-level blocks that a sprite runs. Programs are values, so a program read
before an edit stays what it was. Look-ups see the top level and the bodies of top-level loops, and
take the first match; identities may repeat.
-/

namespace SpriteStage

structure Program where
  blocks : List Block := []

namespace Program

def length (p : Program) : Nat := p.blocks.length

def isEmpty (p : Program) : Bool := p.blocks.isEmpty

def get? (p : Program) (index : Nat) : Option Block := p.blocks[index]?

def position? (p : Program) (id : BlockId) : Option Nat := p.blocks.findIdx? fun b => b.id = id

/-- A block with the given identity, in a block or directly in its body. -/
def findIn? (id : BlockId) (b : Block) : Option Block :=
  if b.id = id then some b else b.body.find? fun c => c.id = id

def find? (p : Program) (id : BlockId) : Option Block := p.blocks.findSome? (findIn? id)

def contains (p : Program) (id : BlockId) : Bool := (p.find? id).isSome

def markExecuted (p : Program) (index : Nat) : Program :=
  ⟨p.blocks.modify index (Block.withExecuted true)⟩

def cleared (p : Program) : Program := ⟨p.blocks.map Block.cleared⟩

def executedCount (p : Program) : Nat := p.blocks.countP Block.executed

def same (p q : Program) : Bool := Block.sameAll p.blocks q.blocks

end Program

end SpriteStage
