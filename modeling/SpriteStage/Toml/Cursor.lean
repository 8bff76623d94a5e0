import SpriteStage.Toml.Value
/-!
Reading a source from left to right. A reading either yields a value and the cursor behind what it
consumed, or fails; a failed reading has consumed nothing, so an alternative starts where it did.
-/

namespace SpriteStage.Toml

structure Cursor where
  rest : List Char
  offset : Nat

abbrev Reading (α : Type) := StateT Cursor Option α

namespace Cursor

def ofSource (source : String) : Cursor := ⟨source.toList, 0⟩

def skip (c : Cursor) (run rest : List Char) : Cursor :=
  ⟨rest, c.offset + (String.ofList run).utf8ByteSize⟩

end Cursor

namespace Reading

def peek : Reading (Option Char) := fun c => some (c.rest.head?, c)

def atEnd : Reading Unit := fun c => if c.rest.isEmpty then some ((), c) else none

def satisfying (test : Char → Bool) : Reading Char := fun c =>
  match c.rest with
  | first :: rest => if test first then some (first, c.skip [first] rest) else none
  | [] => none

def char (expected : Char) : Reading Unit := do
  let _ ← satisfying (· = expected)

def chars : List Char → Reading Unit
  | [] => pure ()
  | c :: cs => do
    char c
    chars cs

def takeWhile (test : Char → Bool) : Reading (List Char) := fun c =>
  let taken := c.rest.takeWhile test
  some (taken, c.skip taken (c.rest.dropWhile test))

def takeSome (test : Char → Bool) : Reading (List Char) := do
  let taken ← takeWhile test
  if taken.isEmpty then failure
  pure taken

def exactly (test : Char → Bool) : Nat → Reading (List Char)
  | 0 => pure []
  | n + 1 => do
    let first ← satisfying test
    let others ← exactly test n
    pure (first :: others)

def optional {α : Type} (p : Reading α) : Reading (Option α) := some <$> p <|> pure none

def collect {α : Type} (p : Reading α) : List Char → Reading (List α)
  | [] => pure []
  | _ :: supply => do
    match ← optional p with
    | some a =>
      let others ← collect p supply
      pure (a :: others)
    | none => pure []

/-- The values of a reading made again and again until it fails. Each must consume something, so
there are no more of them than characters left. -/
def many {α : Type} (p : Reading α) : Reading (List α) := fun c => collect p c.rest c

def separated {α : Type} (separator : Reading Unit) (p : Reading α) : Reading (List α) := do
  let first ← p
  let others ← many (separator *> p)
  pure (first :: others)

def located {α : Type} (p : Reading α) : Reading (α × Span) := do
  let before ← get
  let a ← p
  let after ← get
  pure (a, ⟨before.offset, after.offset⟩)

end Reading

end SpriteStage.Toml
