/-!
Identities of blocks and sprites. Both kinds draw on one supply that only counts up, so no number is
ever handed out twice, not even once as a block and once as a sprite.
-/

namespace SpriteStage

structure BlockId where
  number : Nat
deriving DecidableEq

structure SpriteId where
  number : Nat
deriving DecidableEq

def BlockId.text (id : BlockId) : String := "b" ++ toString id.number

def SpriteId.text (id : SpriteId) : String := "s" ++ toString id.number

structure IdSupply where
  last : Nat := 0
deriving DecidableEq

namespace IdSupply

def block (ids : IdSupply) : BlockId := ⟨ids.last + 1⟩

def sprite (ids : IdSupply) : SpriteId := ⟨ids.last + 1⟩

def advance (ids : IdSupply) : IdSupply := ⟨ids.last + 1⟩

end IdSupply

end SpriteStage
