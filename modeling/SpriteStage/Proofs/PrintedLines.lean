import SpriteStage.Program.Listing
import SpriteStage.Proofs.Alike
/-!
The lines of a listing. Numbers, identities and quoted texts have no line breaks in them, whatever they
are, so a block takes one line, and a program as many lines as it has blocks. The one thing that stands
in a listing as it is, is the name of an unknown block: each line break in it makes one line more.
-/

namespace SpriteStage

namespace Text

def breaks (text : String) : Nat := text.toList.count '\n'

@[simp] theorem breaks_append (s t : String) : breaks (s ++ t) = breaks s + breaks t := by
  simp [breaks]

@[simp] theorem breaks_toString (s : String) : breaks (toString s) = breaks s := rfl

theorem breaks_eq_zero_iff {s : String} : breaks s = 0 ↔ '\n' ∉ s.toList := List.count_eq_zero

theorem newline_not_mem_toDigits {base : Nat} (hbase : 1 < base) (n : Nat) :
    '\n' ∉ Nat.toDigits base n := by
  induction n using Nat.strongRecOn with
  | ind n ih =>
    have hlast (k : Nat) : '\n' ≠ Nat.digitChar k := (Decimal.digitChar_ne_newline k).symm
    by_cases hsmall : n < base
    · rw [Nat.toDigits_of_lt_base hsmall, List.mem_singleton]
      exact hlast n
    · have hless : n / base < n := Nat.div_lt_self (by omega) hbase
      rw [Nat.toDigits_of_base_le hbase (by omega), List.mem_append, List.mem_singleton]
      exact not_or.2 ⟨ih (n / base) hless, hlast _⟩

@[simp] theorem breaks_repr (n : Nat) : breaks n.repr = 0 := by
  rw [breaks_eq_zero_iff, Nat.repr_eq_ofList_toDigits, String.toList_ofList]
  exact newline_not_mem_toDigits (by decide) n

theorem newline_not_mem_quoteChar (c : Char) : '\n' ∉ quoteChar c := by
  have hdigits : '\n' ∉ Nat.toDigits 16 c.toNat := newline_not_mem_toDigits (by decide) c.toNat
  grind [quoteChar, hexadecimal]

@[simp] theorem breaks_quote (text : String) : breaks (quote text) = 0 := by
  simp [breaks_eq_zero_iff, quote, newline_not_mem_quoteChar]

end Text

open Text (breaks)

@[simp] theorem Decimal.breaks_text (x : Float) : breaks (Decimal.text x) = 0 := by
  unfold Decimal.text Layout.write
  have hsign (negative : Bool) : breaks (if negative = true then "-" else "") = 0 := by
    cases negative <;> rfl
  split
  · rfl
  · rw [Text.breaks_append, hsign]
    rfl
  · rw [Text.breaks_append, hsign]
    rfl
  · rw [Text.breaks_append, hsign]
    simp [Layout.magnitude, plain, Text.breaks_eq_zero_iff, newline_not_mem_positional]

@[simp] theorem breaks_placeText (x y : Float) : breaks (placeText x y) = 0 := by
  simp [placeText]
  decide

def Action.unknownName : Action → String
  | .unknown name => name
  | _ => ""

theorem Action.breaks_text (action : Action) : breaks action.text = breaks action.unknownName := by
  cases action with
  | unknown name =>
    have hopen : breaks "<unknown " = 0 := rfl
    have hclose : breaks ">" = 0 := rfl
    simp [text, unknownName, hopen, hclose]
  | turn degrees rotation =>
    cases rotation
    all_goals
      simp [text, unknownName, Rotation.name]
      rfl
  | _ =>
    simp [text, unknownName]
    rfl

namespace Block

def unknownName : Block → String
  | act _ _ action => action.unknownName
  | loop .. => ""

theorem breaks_kindText (b : Block) : breaks b.kindText = breaks b.unknownName := by
  cases b with
  | act id executed action => exact action.breaks_text
  | loop id executed count body =>
    cases count
    all_goals
      simp [kindText, unknownName]
      rfl

theorem breaks_text (b : Block) : breaks b.text = breaks b.unknownName := by
  have hid : breaks b.id.text = 0 := by
    simp [BlockId.text]
    rfl
  have hflag : breaks (if b.executed = true then " (executed)" else "") = 0 := by
    split <;> rfl
  have hspace : breaks " " = 0 := rfl
  simp [text, hid, hflag, hspace, breaks_kindText]

mutual

def placed (loops : Nat) : Block → List (Nat × Block)
  | act id executed action => [(loops, act id executed action)]
  | loop id executed count body =>
    (loops, loop id executed count body) :: placedAll (loops + 1) body

def placedAll (loops : Nat) : List Block → List (Nat × Block)
  | [] => []
  | b :: bs => b.placed loops ++ placedAll loops bs

end

theorem placedAll_eq_flatMap (loops : Nat) (bs : List Block) :
    placedAll loops bs = bs.flatMap (placed loops) := by
  induction bs with
  | nil => rfl
  | cons b bs ih => simp [placedAll, ih]

theorem linesOf_eq_flatMap (depth : Nat) (bs : List Block) :
    linesOf depth bs = bs.flatMap (lines depth) := by
  induction bs with
  | nil => rfl
  | cons b bs ih => simp [linesOf, ih]

theorem map_snd_placed (loops : Nat) (b : Block) : (b.placed loops).map Prod.snd = b.preorder := by
  induction b using nesting_induction generalizing loops with
  | act => rfl
  | loop id executed count body ih =>
    rw [placed, preorder, placedAll_eq_flatMap, preorderAll_eq_flatMap, List.map_cons,
      List.map_flatMap]
    exact congrArg _ (List.flatMap_congr fun b hb => ih b hb (loops + 1))

theorem lines_eq_map (loops : Nat) (b : Block) :
    b.lines loops = (b.placed loops).map fun p => indentation p.1 ++ p.2.text := by
  induction b using nesting_induction generalizing loops with
  | act => rfl
  | loop id executed count body ih =>
    rw [lines, placed, linesOf_eq_flatMap, placedAll_eq_flatMap, List.map_cons, List.map_flatMap]
    exact congrArg _ (List.flatMap_congr fun b hb => ih b hb (loops + 1))

end Block

/-! ### Lines that are ended -/

theorem length_splitOn {α : Type} [BEq α] [LawfulBEq α] (a : α) (xs : List α) :
    (xs.splitOn a).length = xs.count a + 1 := by
  induction xs with
  | nil => rfl
  | cons x xs ih =>
    rw [List.splitOn_cons_eq_if_modifyHead, List.count_cons]
    split <;> simp [ih]

theorem count_flatMap_congr {α : Type} {f g : α → List Char} {c : Char} {xs : List α}
    (h : ∀ x ∈ xs, (f x).count c = (g x).count c) :
    (xs.flatMap f).count c = (xs.flatMap g).count c := by
  induction xs with
  | nil => rfl
  | cons x xs ih =>
    obtain ⟨hx, hxs⟩ := List.forall_mem_cons.1 h
    rw [List.flatMap_cons, List.flatMap_cons, List.count_append, List.count_append, hx, ih hxs]

theorem count_ended (lines : List (List Char)) :
    (lines.flatMap (· ++ ['\n'])).count '\n' = lines.length + lines.flatten.count '\n' := by
  induction lines with
  | nil => rfl
  | cons line lines ih =>
    simp only [List.flatMap_cons, List.count_append, ih, List.length_cons, List.flatten_cons,
      List.count_singleton_self]
    omega

theorem splitOn_ended (lines : List (List Char)) :
    (lines.flatMap (· ++ ['\n'])).splitOn '\n' = lines.flatMap (List.splitOn '\n') ++ [[]] := by
  induction lines with
  | nil => rfl
  | cons line lines ih =>
    rw [List.flatMap_cons, List.flatMap_cons, List.append_assoc, List.append_assoc,
      List.singleton_append, List.splitOn_append_cons_self, ih]

theorem count_ended_eq_length_iff (lines : List (List Char)) :
    (lines.flatMap (· ++ ['\n'])).count '\n' = lines.length ↔ ∀ line ∈ lines, '\n' ∉ line := by
  have hnone : lines.flatten.count '\n' = 0 ↔ ∀ line ∈ lines, '\n' ∉ line := by
    simp [List.count_eq_zero]
  rw [count_ended, ← hnone]
  omega

theorem splitOn_ended_iff (lines : List (List Char)) :
    (lines.flatMap (· ++ ['\n'])).splitOn '\n' = lines ++ [[]] ↔ ∀ line ∈ lines, '\n' ∉ line := by
  constructor
  · intro h
    have hlength := congrArg List.length h
    rw [length_splitOn, List.length_append, List.length_singleton] at hlength
    exact (count_ended_eq_length_iff lines).1 (by omega)
  · intro h
    have hpieces : lines.flatMap (List.splitOn '\n') = lines.flatMap fun line => [line] :=
      List.flatMap_congr fun line hline => List.splitOn_eq_singleton (h line hline)
    rw [splitOn_ended, hpieces, List.flatMap_singleton']

namespace Program

def placed (p : Program) : List (Nat × Block) := p.blocks.flatMap (Block.placed 0)

def Unbroken (p : Program) : Prop := ∀ b ∈ p.preorder, '\n' ∉ b.unknownName.toList

theorem map_snd_placed (p : Program) : p.placed.map Prod.snd = p.preorder := by
  rw [placed, preorder, List.map_flatMap]
  exact List.flatMap_congr fun b _ => b.map_snd_placed 0

def line (p : Nat × Block) : List Char := List.replicate (2 * p.1) ' ' ++ p.2.text.toList

theorem count_line (p : Nat × Block) : (line p).count '\n' = p.2.unknownName.toList.count '\n' := by
  have hblank : (List.replicate (2 * p.1) ' ').count '\n' = 0 := by
    simp [List.count_replicate]
  rw [line, List.count_append, hblank, Nat.zero_add]
  exact p.2.breaks_text

theorem toList_listing (p : Program) :
    p.listing.toList = (p.placed.map line).flatMap (· ++ ['\n']) := by
  have hlines : Block.linesOf 0 p.blocks = p.placed.map fun q => indentation q.1 ++ q.2.text := by
    rw [Block.linesOf_eq_flatMap, placed, List.map_flatMap]
    exact List.flatMap_congr fun b _ => b.lines_eq_map 0
  rw [listing, hlines, String.toList_join, List.map_map, List.flatMap_map, List.flatMap_map]
  refine List.flatMap_congr fun q _ => ?_
  simp [line, indentation]

theorem unbroken_iff (p : Program) : p.Unbroken ↔ ∀ l ∈ p.placed.map line, '\n' ∉ l := by
  have hname (q : Nat × Block) : '\n' ∉ line q ↔ '\n' ∉ q.2.unknownName.toList := by
    rw [← List.count_eq_zero, count_line, List.count_eq_zero]
  rw [Unbroken, ← map_snd_placed, List.forall_mem_map, List.forall_mem_map]
  exact forall₂_congr fun q _ => (hname q).symm

/-- A listing writes one block after the other, in preorder, indented by two blanks for each loop around
it, and ends it like a line. Each line break in the name of an unknown block makes one line more than
that, and nothing else does, so the lines are those of the blocks exactly if there is none. -/
theorem listing_lines (p : Program) :
    let lines := p.placed.map fun (loops, b) => List.replicate (2 * loops) ' ' ++ b.text.toList
    p.placed.map Prod.snd = p.preorder ∧
      p.listing.toList = lines.flatMap (· ++ ['\n']) ∧
      p.listing.toList.count '\n' =
        p.preorder.length + (p.preorder.flatMap fun b => b.unknownName.toList).count '\n' ∧
      (p.listing.toList.count '\n' = p.preorder.length ↔ p.Unbroken) ∧
      (p.listing.toList.splitOn '\n' = lines ++ [[]] ↔ p.Unbroken) := by
  intro lines
  have hlisting : p.listing.toList = lines.flatMap (· ++ ['\n']) := p.toList_listing
  have hlength : lines.length = p.preorder.length := by
    rw [← map_snd_placed, List.length_map, List.length_map]
  have hnames : lines.flatten.count '\n' =
      (p.preorder.flatMap fun b => b.unknownName.toList).count '\n' := by
    rw [← map_snd_placed, List.flatMap_map, ← List.flatMap_def]
    exact count_flatMap_congr fun q _ => count_line q
  refine ⟨p.map_snd_placed, hlisting, ?_, ?_, ?_⟩
  · rw [hlisting, count_ended, hlength, hnames]
  · rw [hlisting, ← hlength, unbroken_iff]
    exact count_ended_eq_length_iff lines
  · rw [hlisting, unbroken_iff]
    exact splitOn_ended_iff lines

theorem listing_of_brokenName :
    let p : Program := ⟨[.act ⟨2⟩ false (.unknown "jump\nhigh")]⟩
    p.preorder.length = 1 ∧ p.listing = "b2 <unknown jump\nhigh>\n" ∧
      p.listing.toList.count '\n' = 2 := by
  decide

end Program

end SpriteStage
