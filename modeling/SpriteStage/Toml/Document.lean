import SpriteStage.Toml.Literal
/-!
Documents. A document is a first section without a header, and then sections, each with a header
that says which table its pairs go to. The sections are read first and put together afterwards.
-/

namespace SpriteStage.Toml

structure Section where
  path : List Key
  key : Key
  repeated : Bool
  heading : Span
  pairs : List Pair

namespace Section

def span (s : Section) : Span :=
  match s.pairs.getLast?.bind fun p => p.value.span? with
  | some last => ⟨s.heading.start, last.stop⟩
  | none => s.heading

def fill (s : Section) (entries : List (Key × Value)) : Option Value :=
  ((⟨.explicit, some s.span, entries⟩ : Table).addAll s.pairs).map Table.toValue

/-- Adds a section to the table its header's path leads to. A table that longer headers have already
led through moves to the end. -/
def addTo (s : Section) (parent : Table) : Option Table :=
  match s.repeated, parent.get? s.key.name with
  | true, none => (s.fill []).map fun v => parent.push s.key (.tables [v])
  | true, some (.tables items) =>
    (s.fill []).map fun v => parent.put s.key.name (.tables (items ++ [v]))
  | false, none => (s.fill []).map (parent.push s.key)
  | false, some (.table .implicit _ entries) =>
    (s.fill entries).map ((parent.without s.key.name).push s.key)
  | _, _ => none

end Section

namespace Reading

def emptyLines : Reading Unit := do
  blanks
  let _ ← many ((newline <|> (comment *> lineEnd)) *> blanks)

def pairLine : Reading Pair := pair anyValue <* trailing <* emptyLines

def heading : Reading (List Key × Bool) :=
  (do
    chars ['[', '[']
    let keys ← dottedKey
    chars [']', ']']
    pure (keys, true)) <|>
  (do
    char '['
    let keys ← dottedKey
    char ']'
    pure (keys, false))

def sectionLines : Reading Section := do
  let ((keys, repeated), span) ← located heading
  trailing
  emptyLines
  let pairs ← many pairLine
  match keys.getLast? with
  | some key => pure ⟨keys.dropLast, key, repeated, span, pairs⟩
  | none => failure

def sections : Reading (List Pair × List Section) := do
  let _ ← optional (char '\ufeff')
  emptyLines
  let first ← many pairLine
  let others ← many sectionLines
  atEnd
  pure (first, others)

end Reading

structure Document where
  root : Table

namespace Document

def ofSections? (first : List Pair) (others : List Section) : Option Document := do
  let start ← (⟨.explicit, none, []⟩ : Table).addAll first
  let root ← others.foldlM (fun t s => Table.descend false s.addTo s.path t) start
  pure ⟨root⟩

def read? (source : String) : Option Document := do
  let ((first, others), _) ← Reading.sections (.ofSource source)
  ofSections? first others

def entry? (d : Document) (name : String) : Option (Key × Value) :=
  d.root.entries.find? fun (key, _) => key.name = name

end Document

end SpriteStage.Toml
