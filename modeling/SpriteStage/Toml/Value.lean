/-!
Documents as data. A value knows the bytes of the source that it was written in, so that whatever is
found wrong with it later can be pointed at. Tables keep their entries in the order in which they
were written, since that order decides which of several faults is reported.
-/

namespace SpriteStage.Toml

structure Span where
  start : Nat
  stop : Nat
deriving DecidableEq

structure Key where
  name : String
  span : Span
deriving DecidableEq

/-- How a table came to be. This decides which further statements may add to it. -/
inductive Form where
  | explicit
  | implicit
  | dotted
  | inline
deriving DecidableEq

/-- A value of a document. A table that no header or braces enclose has no place of its own. -/
inductive Value where
  | string (span : Span) (text : String)
  | integer (span : Span) (number : Int)
  | float (span : Span) (number : Float)
  | boolean (span : Span) (flag : Bool)
  | moment (span : Span)
  | array (span : Span) (items : List Value)
  | tables (items : List Value)
  | table (form : Form) (span : Option Span) (entries : List (Key × Value))

namespace Value

def ownSpan? : Value → Option Span
  | string span _ | integer span _ | float span _ | boolean span _ | moment span => some span
  | array span _ => some span
  | tables _ => none
  | table _ span _ => span

/-- Where a value is written, if it has a place. The tables of a repeated header reach from the
first one's start to the last one's end. -/
def span? : Value → Option Span
  | tables items =>
    match items.head?.bind ownSpan?, items.getLast?.bind ownSpan? with
    | some first, some last => some ⟨first.start, last.stop⟩
    | _, _ => none
  | v => v.ownSpan?

mutual

def depth : Value → Nat
  | array _ items | tables items => 1 + depthOf items
  | table _ _ entries => 1 + depthOfEntries entries
  | _ => 1

def depthOf : List Value → Nat
  | [] => 0
  | v :: vs => max v.depth (depthOf vs)

def depthOfEntries : List (Key × Value) → Nat
  | [] => 0
  | (_, v) :: rest => max v.depth (depthOfEntries rest)

end

mutual

def same : Value → Value → Bool
  | string span text, string span' text' => span = span' && text = text'
  | integer span number, integer span' number' => span = span' && number = number'
  | float span number, float span' number' => span = span' && number = number'
  | boolean span flag, boolean span' flag' => span = span' && flag = flag'
  | moment span, moment span' => span = span'
  | array span items, array span' items' => span = span' && sameAll items items'
  | tables items, tables items' => sameAll items items'
  | table form span entries, table form' span' entries' =>
    form = form' && span = span' && sameEntries entries entries'
  | _, _ => false

def sameAll : List Value → List Value → Bool
  | [], [] => true
  | v :: vs, w :: ws => v.same w && sameAll vs ws
  | _, _ => false

def sameEntries : List (Key × Value) → List (Key × Value) → Bool
  | [], [] => true
  | (key, v) :: rest, (key', w) :: rest' => key = key' && v.same w && sameEntries rest rest'
  | _, _ => false

end

mutual

theorem same_iff : ∀ v w : Value, v.same w = true ↔ v = w
  | string .., w | integer .., w | float .., w | boolean .., w | moment _, w => by
    cases w <;> simp [same]
  | array _ items, w => by cases w <;> simp [same, sameAll_iff items]
  | tables items, w => by cases w <;> simp [same, sameAll_iff items]
  | table _ _ entries, w => by cases w <;> simp [same, sameEntries_iff entries, and_assoc]

theorem sameAll_iff : ∀ vs ws : List Value, sameAll vs ws = true ↔ vs = ws
  | [], ws => by cases ws <;> simp [sameAll]
  | v :: vs, ws => by cases ws <;> simp [sameAll, same_iff v, sameAll_iff vs]

theorem sameEntries_iff : ∀ entries others : List (Key × Value),
    sameEntries entries others = true ↔ entries = others
  | [], others => by cases others <;> simp [sameEntries]
  | (key, v) :: rest, others => by
    cases others <;> simp [sameEntries, same_iff v, sameEntries_iff rest, Prod.ext_iff]

end

instance : DecidableEq Value := fun v w => decidable_of_iff _ (same_iff v w)

end Value

end SpriteStage.Toml
