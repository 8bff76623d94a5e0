import SpriteStage.Toml.Value
/-!
Building tables. A dotted key or a header leads through tables that are made as they are needed; the
form of a table says who may still add to it, so that no part of a document defines again what
another one has.
-/

namespace SpriteStage.Toml

structure Table where
  form : Form
  span : Option Span := none
  entries : List (Key × Value) := []

namespace Table

def get? (t : Table) (name : String) : Option Value :=
  (t.entries.find? fun (key, _) => key.name = name).map Prod.snd

def has (t : Table) (name : String) : Bool := t.entries.any fun (key, _) => key.name = name

def push (t : Table) (key : Key) (v : Value) : Table := { t with entries := t.entries ++ [(key, v)] }

def put (t : Table) (name : String) (v : Value) : Table :=
  { t with entries := t.entries.map fun (key, old) => (key, if key.name = name then v else old) }

def without (t : Table) (name : String) : Table :=
  { t with entries := t.entries.filter fun (key, _) => key.name ≠ name }

def toValue (t : Table) : Value := .table t.form t.span t.entries

/-- Changes the table that a value is, or the last table of a repeated header. Dotted keys may not
go through a table that has its own header, and nothing goes through one between braces. -/
def within (dotted : Bool) (edit : Table → Option Table) : Value → Option Value
  | .table form span entries =>
    if form = .inline || (dotted && form = .explicit) then none
    else (edit ⟨form, span, entries⟩).map toValue
  | .tables items =>
    match items.getLast? with
    | some (.table form span entries) =>
      (edit ⟨form, span, entries⟩).map fun t => .tables (items.dropLast ++ [t.toValue])
    | _ => none
  | _ => none

def descend (dotted : Bool) (edit : Table → Option Table) : List Key → Table → Option Table
  | [], t => edit t
  | key :: path, t =>
    match t.get? key.name with
    | some v => (within dotted (descend dotted edit path) v).map (t.put key.name)
    | none =>
      let fresh : Table := ⟨if dotted then .dotted else .implicit, none, []⟩
      (descend dotted edit path fresh).map fun made => t.push key made.toValue

end Table

structure Pair where
  path : List Key
  key : Key
  value : Value

def Pair.ofKeys? (keys : List Key) (value : Value) : Option Pair :=
  keys.getLast?.map fun key => ⟨keys.dropLast, key, value⟩

namespace Table

/-- Adds a pair. Each name is defined once, and a dotted key adds only to tables that dotted keys
have made. -/
def add (t : Table) (p : Pair) : Option Table :=
  let insert (target : Table) : Option Table :=
    if target.has p.key.name || (!p.path.isEmpty && target.form ≠ .dotted) then none
    else some (target.push p.key p.value)
  descend true insert p.path t

def addAll (t : Table) (pairs : List Pair) : Option Table := pairs.foldlM add t

end Table

end SpriteStage.Toml
