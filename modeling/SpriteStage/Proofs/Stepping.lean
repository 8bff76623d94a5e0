import Mathlib.Data.List.Induction
import SpriteStage.Proofs.Course
/-!
Sprites step by step. A sprite that starts its program runs one block more at each step, at the
instant of the step, and flags it. Only the step after the last block makes the sprite complete, and
from then on it stays as it is.
-/

namespace SpriteStage

theorem zip_concat_of_getElem? {α β : Type} {xs : List α} {ys : List β} {x : α}
    (h : xs[ys.length]? = some x) (y : β) : xs.zip (ys ++ [y]) = xs.zip ys ++ [(x, y)] := by
  induction xs generalizing ys with
  | nil => simp at h
  | cons x' xs ih =>
    cases ys with
    | nil => simpa using h
    | cons y' ys =>
      have hrest : xs[ys.length]? = some x := by simpa using h
      rw [List.cons_append, List.zip_cons_cons, List.zip_cons_cons, ih hrest, List.cons_append]

theorem zip_concat_of_length_le {α β : Type} {xs : List α} {ys : List β}
    (h : xs.length ≤ ys.length) (y : β) : xs.zip (ys ++ [y]) = xs.zip ys := by
  induction xs generalizing ys with
  | nil => simp
  | cons x xs ih =>
    cases ys with
    | nil => simp at h
    | cons y' ys =>
      have hrest : xs.length ≤ ys.length := by simpa using h
      rw [List.cons_append, List.zip_cons_cons, List.zip_cons_cons, ih hrest]

namespace Program

theorem isEmpty_eq_false_iff {p : Program} : p.isEmpty = false ↔ 1 ≤ p.length := by
  rw [isEmpty, List.isEmpty_eq_false_iff, ← List.length_pos_iff]
  rfl

def passed (p : Program) (count : Nat) : Program :=
  ⟨p.blocks.mapIdx fun index b => if index < count then b.withExecuted true else b⟩

theorem length_passed (p : Program) (count : Nat) : (p.passed count).length = p.length :=
  List.length_mapIdx

theorem get?_passed (p : Program) (count index : Nat) :
    (p.passed count).get? index =
      (p.get? index).map fun b => if index < count then b.withExecuted true else b :=
  List.getElem?_mapIdx

theorem get?_passed_self (p : Program) (count : Nat) : (p.passed count).get? count = p.get? count := by
  simp [get?_passed]

theorem ext_get? {p q : Program} (h : ∀ index, p.get? index = q.get? index) : p = q :=
  congrArg mk (List.ext_getElem? h)

theorem passed_zero (p : Program) : p.passed 0 = p :=
  ext_get? fun index => by simp [get?_passed]

theorem markExecuted_passed (p : Program) (count : Nat) :
    (p.passed count).markExecuted count = p.passed (count + 1) := by
  refine ext_get? fun index => ?_
  rw [get?_markExecuted, get?_passed, get?_passed, Option.map_map]
  congr 1
  funext b
  by_cases hbefore : index < count
  · simp [hbefore, Nat.lt_succ_of_lt hbefore, show count ≠ index by omega]
  · by_cases hhere : count = index
    · simp [hhere]
    · simp [hbefore, hhere, show ¬ index < count + 1 by omega]

/-- The state after the blocks of a program, the first of them run at the first instant, and so on
while there are both. -/
def runThrough (p : Program) (instants : List Nat) (s : SpriteState) : SpriteState :=
  (p.blocks.zip instants).foldl (fun s timed => timed.1.execute timed.2 s) s

theorem runThrough_concat_of_block {p : Program} {instants : List Nat} {b : Block}
    (h : p.get? instants.length = some b) (now : Nat) (s : SpriteState) :
    p.runThrough (instants ++ [now]) s = b.execute now (p.runThrough instants s) := by
  simp [runThrough, zip_concat_of_getElem? h]

theorem runThrough_concat_of_end {p : Program} {instants : List Nat}
    (h : p.length ≤ instants.length) (now : Nat) (s : SpriteState) :
    p.runThrough (instants ++ [now]) s = p.runThrough instants s := by
  rw [runThrough, zip_concat_of_length_le h, runThrough]

end Program

namespace Sprite

variable {p : Sprite} {instants : List Nat}

def steps (instants : List Nat) (p : Sprite) : Sprite := instants.foldl (fun p now => p.step now) p

theorem steps_concat (instants : List Nat) (now : Nat) (p : Sprite) :
    p.steps (instants ++ [now]) = (p.steps instants).step now := by
  simp [steps]

theorem step_of_block {b : Block} {now : Nat} (hactive : p.isIdle = false)
    (hget : p.program.get? p.cursor = some b) :
    p.step now = { p with
      state := b.execute now p.state
      program := p.program.markExecuted p.cursor
      cursor := p.cursor + 1 } := by
  simp [step, hactive, hget]

theorem step_of_end {now : Nat} (hactive : p.isIdle = false)
    (hget : p.program.get? p.cursor = none) : p.step now = { p with complete := true } := by
  simp [step, hactive, hget]

def stepped (p : Sprite) (instants : List Nat) : Sprite :=
  let count := min instants.length p.program.length
  { p with
    state := p.program.runThrough instants p.state
    program := p.program.passed count
    cursor := count
    complete := decide (p.program.length + 1 ≤ instants.length) }

theorem isIdle_stepped (hprogram : 1 ≤ p.program.length) (instants : List Nat) :
    (p.stepped instants).isIdle = decide (p.program.length + 1 ≤ instants.length) := by
  have hlength : 1 ≤ (p.program.passed (min instants.length p.program.length)).length := by
    rw [Program.length_passed]
    exact hprogram
  rw [isIdle, stepped, Program.isEmpty_eq_false_iff.2 hlength, Bool.or_false]

theorem get?_stepped (p : Sprite) (instants : List Nat) :
    (p.stepped instants).program.get? (p.stepped instants).cursor =
      p.program.get? instants.length := by
  rw [stepped, Program.get?_passed_self]
  by_cases inside : instants.length ≤ p.program.length
  · rw [Nat.min_eq_left inside]
  · have past : p.program.length ≤ instants.length := by omega
    have hnone : p.program.get? instants.length = none := List.getElem?_eq_none past
    rw [Nat.min_eq_right past, hnone]
    exact List.getElem?_eq_none (Nat.le_refl _)

theorem step_stepped (hprogram : 1 ≤ p.program.length) (instants : List Nat) (now : Nat) :
    (p.stepped instants).step now = p.stepped (instants ++ [now]) := by
  have hidle := isIdle_stepped hprogram instants
  have hcurrent := p.get?_stepped instants
  have hlength : (instants ++ [now]).length = instants.length + 1 := by simp
  cases hget : p.program.get? instants.length with
  | some b =>
    have inside : instants.length < p.program.length := (List.getElem?_eq_some_iff.1 hget).1
    have hcount : min instants.length p.program.length = instants.length := by omega
    have hnext : min (instants.length + 1) p.program.length = instants.length + 1 := by omega
    have hrunning : ¬ p.program.length + 1 ≤ instants.length := by omega
    have hrunning' : ¬ p.program.length + 1 ≤ instants.length + 1 := by omega
    rw [decide_eq_false hrunning] at hidle
    rw [step_of_block hidle (hcurrent.trans hget)]
    simp only [stepped, Program.runThrough_concat_of_block hget, Program.markExecuted_passed, hlength,
      hcount, hnext, hrunning, hrunning']
  | none =>
    have hend : p.program.length ≤ instants.length := List.getElem?_eq_none_iff.1 hget
    have hcount : min instants.length p.program.length = p.program.length := by omega
    have hnext : min (instants.length + 1) p.program.length = p.program.length := by omega
    have hcomplete : p.program.length + 1 ≤ instants.length + 1 := by omega
    have hafter : p.stepped (instants ++ [now]) = { p.stepped instants with complete := true } := by
      simp only [stepped, Program.runThrough_concat_of_end hend, hlength, hcount, hnext, hcomplete,
        decide_true]
    by_cases past : p.program.length + 1 ≤ instants.length
    · rw [decide_eq_true past] at hidle
      rw [step_of_idle hidle, hafter]
      simp only [stepped, past, decide_true]
    · rw [decide_eq_false past] at hidle
      rw [step_of_end hidle (hcurrent.trans hget), hafter]

theorem stepped_nil (hcursor : p.cursor = 0) (hcomplete : p.complete = false) : p.stepped [] = p := by
  cases p
  subst hcursor
  subst hcomplete
  simp [stepped, Program.passed_zero, Program.runThrough]

theorem steps_eq_stepped (hcursor : p.cursor = 0) (hcomplete : p.complete = false)
    (hprogram : 1 ≤ p.program.length) (instants : List Nat) :
    p.steps instants = p.stepped instants := by
  induction instants using List.reverseRecOn with
  | nil => exact (stepped_nil hcursor hcomplete).symm
  | append_singleton instants now ih => rw [steps_concat, ih, step_stepped hprogram]

theorem steps_of_idle (h : p.isIdle = true) (instants : List Nat) : p.steps instants = p := by
  induction instants with
  | nil => rfl
  | cons now instants ih => rw [steps, List.foldl_cons, step_of_idle h, ← steps, ih]

/-- A sprite that starts its program has, after any number of steps, run as many blocks as there were
steps, or all of them: each at the instant of its step, on the state that the one before it has left,
and as the program had it at the start. These blocks are flagged, and nothing else changes but the
cursor; the sprite is complete if there was a step more than there are blocks. One without blocks
stays as it is. -/
theorem steps_of_start (p : Sprite) (instants : List Nat) :
    (1 ≤ p.program.length → p.cursor = 0 → p.complete = false →
      p.steps instants = { p with
        state := p.program.runThrough instants p.state
        program := p.program.passed (min instants.length p.program.length)
        cursor := min instants.length p.program.length
        complete := decide (p.program.length + 1 ≤ instants.length) }) ∧
      (p.program.length = 0 → p.steps instants = p) := by
  constructor
  · intro hprogram hcursor hcomplete
    exact steps_eq_stepped hcursor hcomplete hprogram instants
  · intro hprogram
    have hempty : p.program.isEmpty = true := List.isEmpty_iff_length_eq_zero.2 hprogram
    exact steps_of_idle (by rw [isIdle, hempty, Bool.or_true]) instants

theorem steps_of_start_threeSteps :
    let walk (flag : Bool) : Block :=
      .loop ⟨2⟩ flag (some 2) [.act ⟨3⟩ false (.move 1 0), .act ⟨4⟩ false (.say "there" 2)]
    let turn (flag : Bool) : Block := .act ⟨5⟩ flag (.turn 15 .clockwise)
    let p : Sprite := { Sprite.numbered ⟨1⟩ 0 with program := ⟨[walk false, turn false]⟩ }
    let s : SpriteState := { x := 2, direction := 105, say := some ⟨"there", 2010⟩ }
    let q : Sprite := .numbered ⟨6⟩ 1
    1 ≤ p.program.length ∧ p.cursor = 0 ∧ p.complete = false ∧
      p.steps [10, 4] =
        { p with state := s, program := ⟨[walk true, turn true]⟩, cursor := 2, complete := false } ∧
      p.steps [10, 4, 9] =
        { p with state := s, program := ⟨[walk true, turn true]⟩, cursor := 2, complete := true } ∧
      q.program.length = 0 ∧ q.steps [10, 4, 9] = q := by
  intro walk turn p s q
  have hprogram : 1 ≤ p.program.length := by decide
  have hstate : ∀ instants ∈ [[10, 4], [10, 4, 9]], p.program.runThrough instants p.state = s := by
    decide +kernel
  have hsteps := fun instants => (p.steps_of_start instants).1 hprogram rfl rfl
  refine ⟨hprogram, rfl, rfl, ?_, ?_, rfl, (q.steps_of_start [10, 4, 9]).2 rfl⟩
  · rw [hsteps, hstate [10, 4] (by simp)]
    rfl
  · rw [hsteps, hstate [10, 4, 9] (by simp)]
    rfl

end Sprite

end SpriteStage
