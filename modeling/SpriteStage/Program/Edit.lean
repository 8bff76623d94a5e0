import SpriteStage.Program.Basic
/-!
Edits of a program. Each yields a new program; an edit whose target cannot be found yields the
program it was given. Edits inside a loop go to the first block that has the loop's identity and is
a loop.
-/

namespace SpriteStage

def replaceChildren (id : BlockId) (replacement : Block) (children : List Block) : List Block :=
  children.map fun c => if c.id = id then replacement else c

namespace Program

def append (p : Program) (b : Block) : Program := ⟨p.blocks ++ [b]⟩

/-- Replaces a top-level block of the given identity, or else the children of a loop that have it. -/
def replaceIn (id : BlockId) (replacement b : Block) : Block :=
  if b.id = id then replacement
  else if b.body.any (fun c => c.id = id) then
    b.withBody (replaceChildren id replacement b.body)
  else b

def replace (p : Program) (id : BlockId) (replacement : Block) : Program :=
  if p.contains id then ⟨p.blocks.map (replaceIn id replacement)⟩ else p

def delete (p : Program) (id : BlockId) : Program := ⟨p.blocks.filter fun b => b.id ≠ id⟩

def loopIndex? (p : Program) (loop : BlockId) : Option Nat :=
  p.blocks.findIdx? fun b => b.id = loop && b.isLoop

def loopBody? (p : Program) (loop : BlockId) : Option (List Block) :=
  (p.blocks.find? fun b => b.id = loop && b.isLoop).map Block.body

def editLoop (p : Program) (loop : BlockId) (edit : List Block → List Block) : Program :=
  match p.loopIndex? loop with
  | some index => ⟨p.blocks.modify index fun b => b.withBody (edit b.body)⟩
  | none => p

def addToLoop (p : Program) (loop : BlockId) (b : Block) : Program :=
  p.editLoop loop fun body => body ++ [b]

def updateInLoop (p : Program) (loop : BlockId) (b : Block) : Program :=
  p.editLoop loop (replaceChildren b.id b)

def deleteFromLoop (p : Program) (loop id : BlockId) : Program :=
  p.editLoop loop fun body => body.filter fun c => c.id ≠ id

/-- Moves the top-level block at one index to another; an index past the end means the last one. -/
def reorder (p : Program) (source target : Nat) : Program :=
  match p.blocks[source]? with
  | some b =>
    let rest := p.blocks.eraseIdx source
    ⟨rest.insertIdx (min target rest.length) b⟩
  | none => p

end Program

inductive Edit where
  | append (block : Block)
  | replace (target : BlockId) (block : Block)
  | delete (target : BlockId)
  | addToLoop (loop : BlockId) (block : Block)
  | updateInLoop (loop : BlockId) (block : Block)
  | deleteFromLoop (loop target : BlockId)
  | reorder (source target : Nat)

namespace Edit

def apply : Edit → Program → Program
  | append b, p => p.append b
  | replace target b, p => p.replace target b
  | delete target, p => p.delete target
  | addToLoop loop b, p => p.addToLoop loop b
  | updateInLoop loop b, p => p.updateInLoop loop b
  | deleteFromLoop loop target, p => p.deleteFromLoop loop target
  | reorder source target, p => p.reorder source target

end Edit

end SpriteStage
