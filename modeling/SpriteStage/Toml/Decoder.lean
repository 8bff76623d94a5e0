import SpriteStage.Toml.Fault
/-!
Reading domain values from documents. A decoder gets a value and the place to blame for it: its own
place, or the key's or the array's if it has none. Faults are found in the order of the document, and
the first one ends the reading.
-/

namespace SpriteStage.Toml

abbrev Decoder (α : Type) := Span → Value → Except Fault α

structure Located (α : Type) where
  content : α
  span : Span

namespace Decoder

def refuse {α : Type} (expected : Expected) : Decoder α := fun place v =>
  .error ⟨.wrongType v expected, place⟩

def text : Decoder String
  | _, .string _ content => .ok content
  | place, v => refuse .text place v

def float : Decoder Float
  | _, .float _ number => .ok number
  | _, .integer _ number => .ok (Float.ofInt number)
  | place, v => refuse .float place v

def integer : Decoder Int
  | _, .integer _ number => .ok number
  | place, v => refuse .integer place v

def unsigned (expected : Expected) : Decoder Nat
  | place, .integer _ number =>
    if number < 0 then .error ⟨.negative number expected, place⟩ else .ok number.toNat
  | place, v => refuse expected place v

def natural : Decoder Nat := unsigned .natural

def size : Decoder Nat := unsigned .size

def boolean : Decoder Bool
  | _, .boolean _ flag => .ok flag
  | place, v => refuse .boolean place v

def located {α : Type} (d : Decoder α) : Decoder (Located α) := fun place v =>
  match v, v.span? with
  | v, some span => (d place v).map fun content => ⟨content, span⟩
  | .table _ _ ((key, _) :: _), none => .error ⟨.placeless key.name, key.span⟩
  | v, none => (d place v).map fun content => ⟨content, place⟩

def listOf {α : Type} (d : Decoder α) : Decoder (List α) := fun place v =>
  match v with
  | .array _ items | .tables items => items.mapM fun item => d (item.span?.getD place) item
  | v => refuse .sequence place v

end Decoder

structure Field (σ : Type) where
  name : String
  enter : Decoder (σ → σ)
  droppable : Bool := false

def Field.of {σ α : Type} (name : String) (d : Decoder α) (set : α → σ → σ)
    (droppable : Bool := false) : Field σ :=
  ⟨name, fun place v => (d place v).map set, droppable⟩

structure Record (σ α : Type) where
  name : String
  fields : List (Field σ)
  start : σ
  finish : σ → Except String α
  closed : Bool := false

namespace Record

variable {σ α : Type}

def stranger (r : Record σ α) (name : String) (span : Span) : Fault :=
  ⟨.unknownField name (r.fields.map Field.name), span⟩

def entry (r : Record σ α) (draft : σ) (key : Key) (v : Value) : Except Fault σ :=
  match r.fields.find? fun f => f.name = key.name with
  | some f => (f.enter (v.span?.getD key.span) v).map fun change => change draft
  | none => if r.closed then .error (r.stranger key.name key.span) else .ok draft

def positional (r : Record σ α) (place : Span) (items : List Value) :
    List (Field σ) → Nat → σ → Except Fault σ
  | [], _, draft => .ok draft
  | f :: fields, index, draft =>
    match items[index]? with
    | some v => do
      let change ← f.enter (v.span?.getD place) v
      positional r place items fields (index + 1) (change draft)
    | none =>
      if f.droppable then positional r place items fields (index + 1) draft
      else .error ⟨.tooShort index r.name r.fields.length, place⟩

/-- The draft of a record. Dates and times count as tables with a single field of a reserved
name. -/
def draft (r : Record σ α) : Decoder σ := fun place v =>
  match v with
  | .table _ _ entries => entries.foldlM (fun draft (key, v) => r.entry draft key v) r.start
  | .array _ items | .tables items => r.positional place items r.fields 0 r.start
  | .moment span =>
    if r.closed then .error (r.stranger "$__toml_private_datetime" span) else .ok r.start
  | v => Decoder.refuse (.record r.name) place v

def decoder (r : Record σ α) : Decoder α := fun place v => do
  match r.finish (← r.draft place v) with
  | .ok a => pure a
  | .error name => .error ⟨.missingField name, place⟩

end Record

end SpriteStage.Toml
