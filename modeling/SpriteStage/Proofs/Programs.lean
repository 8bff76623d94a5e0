import Mathlib.Data.List.Perm.Basic
import SpriteStage.Program.Nesting
import SpriteStage.Proofs.Running
import SpriteStage.Proofs.Swapping
/-!
What a run does to programs. A step flags a block, a start or a reset clears all flags, and in a swap
two programs change places. So whatever is run, the programs on a stage are those that were there
before, in some order and with some flags. Only edits and new sprites change what there is to run.
-/

namespace SpriteStage

inductive Program.Reflagged (p : Program) : Program → Prop
  | same : Reflagged p p
  | marked (index : Nat) : Reflagged p (p.markExecuted index)
  | cleared : Reflagged p p.cleared

/-- What programs become in a run: they get other flags and change places. -/
inductive Rearranged (ps : List Program) : List Program → Prop
  | refl : Rearranged ps ps
  | reflag {qs rs : List Program} :
      Rearranged ps qs → List.Forall₂ Program.Reflagged qs rs → Rearranged ps rs
  | perm {qs rs : List Program} : Rearranged ps qs → qs.Perm rs → Rearranged ps rs

theorem Program.Reflagged.cleared_eq {p q : Program} (h : p.Reflagged q) : q.cleared = p.cleared := by
  cases h with
  | same => rfl
  | marked index => exact cleared_markExecuted p index
  | cleared => exact cleared_cleared p

theorem Program.map_cleared_eq {ps qs : List Program} (h : List.Forall₂ Reflagged ps qs) :
    qs.map cleared = ps.map cleared := by
  induction h with
  | nil => rfl
  | cons hfirst _ ih => rw [List.map_cons, List.map_cons, hfirst.cleared_eq, ih]

theorem Program.forall_mem_of_reflagged {Q : Program → Prop} {ps qs : List Program}
    (hflags : ∀ p q : Program, p.Reflagged q → Q p → Q q) (h : List.Forall₂ Reflagged ps qs)
    (hps : ∀ p ∈ ps, Q p) : ∀ q ∈ qs, Q q := by
  induction h with
  | nil => exact hps
  | cons hfirst _ ih =>
    obtain ⟨hp, hrest⟩ := List.forall_mem_cons.1 hps
    exact List.forall_mem_cons.2 ⟨hflags _ _ hfirst hp, ih hrest⟩

namespace Rearranged

variable {ps qs rs : List Program}

theorem trans (h : Rearranged ps qs) (h' : Rearranged qs rs) : Rearranged ps rs := by
  induction h' with
  | refl => exact h
  | reflag _ hflags ih => exact ih.reflag hflags
  | perm _ hperm ih => exact ih.perm hperm

theorem forall_mem {Q : Program → Prop} (hflags : ∀ p q : Program, p.Reflagged q → Q p → Q q)
    (h : Rearranged ps qs) (hps : ∀ p ∈ ps, Q p) : ∀ q ∈ qs, Q q := by
  induction h with
  | refl => exact hps
  | reflag _ hall ih => exact Program.forall_mem_of_reflagged hflags hall ih
  | perm _ hperm ih => exact fun q hq => ih q (hperm.mem_iff.2 hq)

theorem cleared_perm (h : Rearranged ps qs) :
    (qs.map Program.cleared).Perm (ps.map Program.cleared) := by
  induction h with
  | refl => exact .refl _
  | reflag _ hflags ih =>
    rw [Program.map_cleared_eq hflags]
    exact ih
  | perm _ hperm ih => exact (hperm.symm.map _).trans ih

theorem ids_perm (h : Rearranged ps qs) : (qs.flatMap Program.ids).Perm (ps.flatMap Program.ids) := by
  have hids : ∀ ps : List Program,
      (ps.map Program.cleared).flatMap Program.ids = ps.flatMap Program.ids := by
    intro ps
    simp [List.flatMap_map]
  rw [← hids ps, ← hids qs]
  exact h.cleared_perm.flatMap_right _

theorem of_map {sprites : List Sprite} {f : Sprite → Sprite}
    (h : ∀ p ∈ sprites, p.program.Reflagged (f p).program) :
    Rearranged (sprites.map Sprite.program) ((sprites.map f).map Sprite.program) := by
  refine .reflag .refl ?_
  simpa [List.forall₂_map_left_iff, List.forall₂_map_right_iff, List.forall₂_same] using h

end Rearranged

theorem Sprite.reflagged_step (p : Sprite) (now : Nat) :
    p.program.Reflagged (p.step now).program := by
  unfold Sprite.step
  split
  · exact .same
  · split
    · exact .marked _
    · exact .same

theorem program_swapPrograms_perm {first second : Nat} (hne : first ≠ second) (c : Config)
    (now : Nat) (sprites : List Sprite) :
    ((swapPrograms c now first second sprites).map Sprite.program).Perm
      (sprites.map Sprite.program) := by
  cases ha : sprites[first]? with
  | none => simp [swapPrograms, ha]
  | some a =>
    cases hb : sprites[second]? with
    | none => simp [swapPrograms, ha, hb]
    | some b =>
      obtain ⟨hfirst, rfl⟩ := List.getElem?_eq_some_iff.1 ha
      obtain ⟨hsecond, rfl⟩ := List.getElem?_eq_some_iff.1 hb
      rw [swapPrograms_eq_set ha hb hne, List.map_set, List.map_set]
      have hfirst' : first < (sprites.map Sprite.program).length := by simpa using hfirst
      have hsecond' : second < (sprites.map Sprite.program).length := by simpa using hsecond
      have hswap := List.set_set_perm hfirst' hsecond'
      simpa [Sprite.takeOver, Sprite.edited] using hswap

namespace Stage

def programs (s : Stage) : List Program := s.sprites.map Sprite.program

theorem programs_createSprite (s : Stage) : s.createSprite.programs = s.programs ++ [⟨[]⟩] :=
  List.map_append

theorem rearranged_start (s : Stage) : Rearranged s.programs s.start.programs := by
  unfold start
  split
  · exact .refl
  · exact .of_map fun _ _ => .cleared

theorem rearranged_reset (s : Stage) : Rearranged s.programs s.reset.programs :=
  .of_map fun _ _ => .cleared

theorem rearranged_expireAt (s : Stage) (now : Nat) :
    Rearranged s.programs (s.expireAt now).programs := by
  unfold expireAt
  split
  · exact .of_map fun _ _ => .same
  · exact .refl

theorem rearranged_tickWork (s : Stage) (now : Nat) :
    Rearranged s.programs (s.tickWork now).programs := by
  have hstepped : Rearranged s.programs ((s.tickCheck now).1.map Sprite.program) :=
    .of_map fun p _ => p.reflagged_step now
  unfold tickWork
  split
  · rename_i stepped detector first second hcheck
    have hpair : (s.tickCheck now).2.2 = some (first, second) := by rw [hcheck]
    have hlt : first < second := (Detector.check_lt hpair).1
    rw [hcheck] at hstepped
    exact hstepped.perm (program_swapPrograms_perm (by omega) s.config now stepped).symm
  · rename_i hcheck
    rw [hcheck] at hstepped
    exact hstepped

theorem steady_rearranged : Steady fun s t => Rearranged s.programs t.programs where
  refl _ := .refl
  trans := Rearranged.trans
  retimed _ _ _ := .refl
  tickWork := rearranged_tickWork
  expireAt := rearranged_expireAt

end Stage

namespace Operation

def composes : Operation → Bool
  | createSprite | edit _ => true
  | _ => false

theorem rearranged_apply (s : Stage) {operation : Operation} (h : operation.composes = false) :
    Rearranged s.programs (operation.apply s).programs := by
  cases operation with
  | createSprite => cases h
  | edit => cases h
  | select id =>
    simp only [apply, Stage.select]
    split
    · exact .refl
    · exact .refl
  | moveSprite id x y =>
    refine .of_map fun p _ => ?_
    simp only
    split
    · exact .same
    · exact .same
  | takeBlockId => exact .refl
  | start => exact s.rearranged_start
  | stop => exact .refl
  | reset => exact s.rearranged_reset
  | pump => exact Stage.steady_rearranged.pump s
  | expireBubbles => exact s.rearranged_expireAt s.clock
  | setClock => exact .refl
  | advanceClock => exact .refl
  | runUntilIdle limit =>
    have hdriven := Stage.steady_rearranged.drive s.clock limit (s.frameBound limit) s.start
    exact s.rearranged_start.trans hdriven

end Operation

end SpriteStage
