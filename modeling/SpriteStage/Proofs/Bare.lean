import SpriteStage.Proofs.Clearing
import SpriteStage.Proofs.Expiry
import SpriteStage.Proofs.Ticking
import SpriteStage.Proofs.Unrolling
import SpriteStage.Stage.Operation
/-!
What is shown and never looked at. Bubbles and flags are there for whoever watches: no step, no check
for collisions, no edit and no end of a run depends on them. So a stage that is laid bare of both does
all the same things, and two stages that are the same without them stay so, whatever is done with
both.
-/

namespace SpriteStage

namespace SpriteState

variable {s : SpriteState}

@[simp] theorem withoutBubbles_withoutBubbles (s : SpriteState) :
    s.withoutBubbles.withoutBubbles = s.withoutBubbles := rfl

theorem withoutBubbles_apply (now later : Nat) (s : SpriteState) (action : Action) :
    (action.apply now s).withoutBubbles = (action.apply later s.withoutBubbles).withoutBubbles := by
  cases action with
  | turn degrees rotation => cases rotation <;> rfl
  | _ => rfl

theorem withoutBubbles_perform (now later : Nat) (actions : List Action) {s t : SpriteState}
    (h : s.withoutBubbles = t.withoutBubbles) :
    (perform now s actions).withoutBubbles = (perform later t actions).withoutBubbles := by
  induction actions generalizing s t with
  | nil => exact h
  | cons action actions ih =>
    have hfirst : (action.apply now s).withoutBubbles = (action.apply later t).withoutBubbles := by
      rw [withoutBubbles_apply now later, h, ← withoutBubbles_apply later later]
    exact ih hfirst

end SpriteState

namespace Block

theorem unrolled_cleared (loops : Nat) (b : Block) : b.cleared.unrolled loops = b.unrolled loops := by
  have hall : ∀ (loops : Nat) (bs : List Block), unrolledAll loops bs = bs.flatMap (unrolled loops) := by
    intro loops bs
    induction bs with
    | nil => rfl
    | cons b bs ih => simp [unrolledAll, ih]
  induction b using nesting_induction generalizing loops with
  | act => rfl
  | loop id executed count body ih =>
    have hbody : (body.map cleared).flatMap (unrolled (loops + 1)) =
        body.flatMap (unrolled (loops + 1)) := by
      rw [List.flatMap_map]
      exact List.flatMap_congr fun b hb => ih b hb (loops + 1)
    simp only [cleared, unrolled, clearedAll_eq_map, hall, hbody]

theorem execute_cleared (now : Nat) (b : Block) (s : SpriteState) :
    b.cleared.execute now s = b.execute now s := by
  rw [execute, execute, run_eq_perform, run_eq_perform, unrolled_cleared]

theorem withoutBubbles_execute (now later : Nat) (b : Block) {s t : SpriteState}
    (h : s.withoutBubbles = t.withoutBubbles) :
    (b.execute now s).withoutBubbles = (b.execute later t).withoutBubbles := by
  rw [execute, execute, run_eq_perform, run_eq_perform]
  exact SpriteState.withoutBubbles_perform now later _ h

end Block

/-! ### Sprites laid bare -/

namespace Sprite

def bare (p : Sprite) : Sprite :=
  { p with state := p.state.withoutBubbles, program := p.program.cleared }

@[simp] theorem bare_bare (p : Sprite) : p.bare.bare = p.bare := by
  simp [bare]

@[simp] theorem isIdle_bare (p : Sprite) : p.bare.isIdle = p.isIdle := by
  simp [bare, isIdle, Program.isEmpty, Program.cleared]

theorem bare_edited (e : Edit) (p : Sprite) :
    (p.edited (e.apply p.program)).bare = (p.bare.edited (e.apply p.bare.program)).bare := by
  simp [bare, edited, Edit.cleared_apply]

theorem bare_rewound (p : Sprite) : p.rewound.bare = p.bare.rewound.bare := by
  simp [bare, rewound, edited]

theorem bare_takeOver (p : Sprite) (program : Program) (giver : String) (expiresAt : Nat) :
    (p.takeOver program giver expiresAt).bare =
      (p.bare.takeOver program.cleared giver expiresAt).bare := by
  simp [bare, takeOver, edited, SpriteState.withoutBubbles]

theorem bare_step (now : Nat) (p : Sprite) : (p.step now).bare = (p.bare.step now).bare := by
  have hget : p.bare.program.get? p.bare.cursor = (p.program.get? p.cursor).map Block.cleared := by
    simp [bare, Program.get?, Program.cleared]
  by_cases hidle : p.isIdle = true
  · rw [step, step, isIdle_bare, if_pos hidle, if_pos hidle, bare_bare]
  · rw [step, step, isIdle_bare, if_neg hidle, if_neg hidle, hget]
    cases p.program.get? p.cursor with
    | none => simp [bare]
    | some b =>
      simp only [Option.map_some, bare, Program.cleared_markExecuted, Program.cleared_cleared,
        Block.execute_cleared]
      rw [Block.withoutBubbles_execute now now b p.state.withoutBubbles_withoutBubbles.symm]

end Sprite

@[simp] theorem map_bare_bare (sprites : List Sprite) :
    (sprites.map Sprite.bare).map Sprite.bare = sprites.map Sprite.bare := by
  simp [Function.comp_def]

theorem map_bare_map {f : Sprite → Sprite} (h : ∀ p, (f p).bare = (f p.bare).bare)
    (sprites : List Sprite) :
    (sprites.map f).map Sprite.bare = ((sprites.map Sprite.bare).map f).map Sprite.bare := by
  simp [Function.comp_def, h]

theorem map_bare_swapPrograms (c : Config) (now first second : Nat) (sprites : List Sprite) :
    (swapPrograms c now first second sprites).map Sprite.bare =
      (swapPrograms c now first second (sprites.map Sprite.bare)).map Sprite.bare := by
  simp only [swapPrograms, List.getElem?_map]
  cases ha : sprites[first]? with
  | none => rw [Option.map_none, map_bare_bare]
  | some a =>
    cases hb : sprites[second]? with
    | none => rw [Option.map_none, Option.map_some, map_bare_bare]
    | some b =>
      simp only [Option.map_some]
      split
      · rw [List.map_set, List.map_set, map_bare_bare, Sprite.bare_takeOver]
        rfl
      · rw [List.map_set, List.map_set, List.map_set, List.map_set, map_bare_bare,
          Sprite.bare_takeOver a, Sprite.bare_takeOver b]
        rfl

theorem Detector.check_congr {d : Detector} {c : Config} {now : Nat} {first second : List Sprite}
    (h : first.map c.bounds = second.map c.bounds) : d.check c now first = d.check c now second := by
  rw [check, check, h]

namespace Stage

variable {s t armed : Stage} {horizon now : Nat} {a : Activation}

def bare (s : Stage) : Stage := { s with sprites := s.sprites.map Sprite.bare }

@[simp] theorem bare_bare (s : Stage) : s.bare.bare = s.bare := by
  simp [bare]

theorem eq_of_bare {α : Type} (f : Stage → α) (hf : ∀ u, f u.bare = f u) (h : s.bare = t.bare) :
    f s = f t := by
  rw [← hf s, h, hf t]

/-- Whether something done with a stage comes to the same if it is done with the bare stage. -/
def Blind (f : Stage → Stage) : Prop := ∀ s, (f s).bare = (f s.bare).bare

theorem Blind.congr {f : Stage → Stage} (blind : Blind f) (h : s.bare = t.bare) :
    (f s).bare = (f t).bare := by
  rw [blind s, h, ← blind t]

/-! ### Operations that run nothing -/

theorem blind_createSprite : Blind createSprite := by
  intro s
  simp [createSprite, bare]

theorem sprite?_bare (s : Stage) (id : SpriteId) : s.bare.sprite? id = (s.sprite? id).map Sprite.bare :=
  List.find?_map

theorem blind_select (id : SpriteId) : Blind fun s => s.select id := by
  intro s
  simp only [select, sprite?_bare, Option.isSome_map]
  split
  · simp [bare]
  · rw [bare_bare]

theorem blind_of_map {f : Sprite → Sprite} (h : ∀ p, (f p).bare = (f p.bare).bare) :
    Blind fun s => { s with sprites := s.sprites.map f } := by
  intro s
  simp only [bare]
  rw [map_bare_map h]

theorem blind_moveSprite (id : SpriteId) (x y : Float) : Blind fun s => s.moveSprite id x y := by
  refine blind_of_map fun p => ?_
  have hid : p.bare.id = p.id := rfl
  rw [hid]
  split
  · simp [Sprite.bare, SpriteState.withoutBubbles]
  · rw [Sprite.bare_bare]

theorem blind_takeBlockId : Blind takeBlockId := by
  intro s
  simp [takeBlockId, bare]

theorem blind_setClock (now : Nat) : Blind fun s => s.setClock now := by
  intro s
  simp [setClock, bare]

theorem blind_advanceClock (d : Stage → Nat) (hd : ∀ s, d s.bare = d s) :
    Blind fun s => s.advanceClock (d s) := by
  intro s
  simp only [hd]
  exact blind_setClock (Instant.after s.clock (d s)) s

theorem blind_reschedule (schedule : Schedule) : Blind fun s => s.reschedule schedule := by
  intro s
  simp [reschedule, bare]

theorem blind_editSelected (e : Edit) : Blind fun s => s.editSelected e := by
  intro s
  have hindex : s.bare.selectedIndex? = s.selectedIndex? := by
    simp only [selectedIndex?, bare, List.findIdx?_map]
    rfl
  simp only [editSelected, hindex]
  split
  · rename_i index _
    have hsprites : ∀ sprites : List Sprite,
        (sprites.modify index fun p => p.edited (e.apply p.program)).map Sprite.bare =
          (sprites.map Sprite.bare).modify index fun p => (p.edited (e.apply p.program)).bare :=
      fun sprites => map_modify (Sprite.bare_edited e) sprites index
    simp only [bare]
    rw [hsprites, hsprites, map_bare_bare]
  · rw [bare_bare]

/-! ### Runs -/

@[simp] theorem allIdle_bare (s : Stage) : s.bare.allIdle = s.allIdle := by
  simp [allIdle, bare, Function.comp_def]

theorem blind_stop : Blind stop := fun s => blind_reschedule s.schedule.stop s

theorem blind_start : Blind start := by
  intro s
  have hrunning : s.bare.isRunning = s.isRunning := rfl
  by_cases h : s.isRunning = true
  · rw [start, start, if_pos h, if_pos (hrunning.trans h), bare_bare]
  · rw [start, start, if_neg h, if_neg (hrunning ▸ h)]
    simp only [bare]
    rw [map_bare_map Sprite.bare_rewound]

theorem blind_reset : Blind reset := by
  intro s
  simp only [reset, bare, stop]
  rw [map_bare_map fun p => ?_]
  simp [Sprite.bare, Sprite.rewound, Sprite.edited]

theorem bare_expireAt (s : Stage) (now : Nat) : (s.expireAt now).bare = s.bare := by
  rw [expireAt_eq, sprites_expireAt, bare, List.map_map]
  rfl

theorem blind_expireAt (now : Nat) : Blind fun s => s.expireAt now := by
  intro s
  simp only [bare_expireAt, bare_bare]

theorem bounds_step_bare (c : Config) (now : Nat) (p : Sprite) :
    c.bounds (p.bare.step now) = c.bounds (p.step now) := by
  have hbounds : ∀ q : Sprite, c.bounds q.bare = c.bounds q := fun _ => rfl
  rw [← hbounds, ← Sprite.bare_step, hbounds]

theorem tickCheck_bare (s : Stage) (now : Nat) :
    (s.bare.tickCheck now).1.map Sprite.bare = (s.tickCheck now).1.map Sprite.bare ∧
      (s.bare.tickCheck now).2 = (s.tickCheck now).2 := by
  have hboxes : ((s.sprites.map Sprite.bare).map (Sprite.step now)).map s.config.bounds =
      (s.sprites.map (Sprite.step now)).map s.config.bounds := by
    simp [Function.comp_def, bounds_step_bare]
  refine ⟨(map_bare_map (Sprite.bare_step now) s.sprites).symm, ?_⟩
  simp only [tickCheck, bare]
  rw [Detector.check_congr hboxes]

theorem blind_tickWork (now : Nat) : Blind fun s => s.tickWork now := by
  intro s
  obtain ⟨hstepped, hfound⟩ := s.tickCheck_bare now
  simp only
  cases hpair : (s.tickCheck now).2.2 with
  | none =>
    have hbare : (s.bare.tickCheck now).2.2 = none := by rw [hfound, hpair]
    rw [tickWork_of_none hpair, tickWork_of_none hbare, hfound]
    simp only [bare] at hstepped ⊢
    rw [hstepped]
  | some pair =>
    have hbare : (s.bare.tickCheck now).2.2 = some pair := by rw [hfound, hpair]
    rw [tickWork_of_some hpair, tickWork_of_some hbare, hfound]
    simp only [bare] at hstepped ⊢
    rw [map_bare_swapPrograms, ← hstepped, ← map_bare_swapPrograms]

theorem blind_tick (now : Nat) : Blind fun s => s.tick now := by
  intro s
  have hworked := blind_tickWork now s
  simp only [tick, allIdle_bare]
  split
  · exact blind_stop.congr hworked
  · exact hworked

theorem blind_frame (now : Nat) : Blind fun s => s.frame now := by
  intro s
  have hshown := blind_expireAt now s
  have hidle : (s.bare.expireAt now).allIdle = (s.expireAt now).allIdle := by
    rw [← allIdle_bare, ← hshown, allIdle_bare]
  simp only [frame, hidle]
  split
  · exact blind_stop.congr hshown
  · exact hshown

theorem blind_fire (a : Activation) : Blind fun s => s.fire a := by
  cases a with
  | tick now => exact blind_tick now
  | frame now => exact blind_frame now

theorem due?_bare (s : Stage) (horizon : Nat) :
    s.bare.due? horizon = (s.due? horizon).map fun (a, armed) => (a, armed.bare) := by
  simp only [due?, Option.map_map]
  rfl

theorem blind_drain (horizon count : Nat) : Blind (drain horizon count) := by
  induction count with
  | zero => exact fun s => (bare_bare s).symm
  | succ count ih =>
    intro s
    rw [drain, drain, due?_bare]
    cases hdue : s.due? horizon with
    | none => exact (bare_bare s).symm
    | some found => exact ih.congr (blind_fire found.1 found.2)

theorem blind_pump : Blind pump := fun s => blind_drain s.clock s.pumpBound s

theorem drive_congr (started limit count : Nat) (h : s.bare = t.bare) :
    (drive started limit count s).1.bare = (drive started limit count t).1.bare ∧
      (drive started limit count s).2 = (drive started limit count t).2 := by
  induction count generalizing s t with
  | zero => exact ⟨h, eq_of_bare (fun u => !u.isRunning) (fun _ => rfl) h⟩
  | succ count ih =>
    have hrunning : s.isRunning = t.isRunning := eq_of_bare isRunning (fun _ => rfl) h
    have hlimit : s.limitReached started limit = t.limitReached started limit :=
      eq_of_bare (fun u => u.limitReached started limit) (fun _ => rfl) h
    have hlater := (blind_advanceClock frameStep fun _ => rfl).congr h
    rw [drive, drive, hrunning, hlimit]
    split
    · exact ⟨h, rfl⟩
    · split
      · exact ⟨blind_stop.congr h, rfl⟩
      · exact ih (blind_pump.congr hlater)

theorem runUntilIdle_congr (limit : Nat) (h : s.bare = t.bare) :
    (s.runUntilIdle limit).1.bare = (t.runUntilIdle limit).1.bare ∧
      (s.runUntilIdle limit).2 = (t.runUntilIdle limit).2 := by
  have hclock : s.clock = t.clock := eq_of_bare clock (fun _ => rfl) h
  have hbound : s.frameBound limit = t.frameBound limit :=
    eq_of_bare (fun u => u.frameBound limit) (fun _ => rfl) h
  obtain ⟨hfinal, hcompleted⟩ :=
    drive_congr t.clock limit (t.frameBound limit) (blind_start.congr h)
  simp only [runUntilIdle, hclock, hbound]
  refine ⟨hfinal, ?_⟩
  rw [hcompleted, eq_of_bare stats (fun _ => rfl) hfinal, eq_of_bare clock (fun _ => rfl) hfinal]

theorem blind_apply (operation : Operation) : Blind operation.apply := by
  cases operation with
  | createSprite => exact blind_createSprite
  | select id => exact blind_select id
  | moveSprite id x y => exact blind_moveSprite id x y
  | takeBlockId => exact blind_takeBlockId
  | edit e => exact blind_editSelected e
  | start => exact blind_start
  | stop => exact blind_stop
  | reset => exact blind_reset
  | pump => exact blind_pump
  | expireBubbles => exact fun s => blind_expireAt s.clock s
  | setClock now => exact blind_setClock now
  | advanceClock d => exact blind_advanceClock (fun _ => d) fun _ => rfl
  | runUntilIdle limit => exact fun s => (runUntilIdle_congr limit (bare_bare s).symm).1

/-- Two stages that differ in bubbles and flags only, whatever their histories are, differ in nothing
else after the same operations; and a run of both until they are idle would have the same summary. -/
theorem bare_applyAll (h : s.bare = t.bare) (operations : List Operation) :
    (Operation.applyAll operations s).bare = (Operation.applyAll operations t).bare ∧
      ∀ limit, ((Operation.applyAll operations s).runUntilIdle limit).2 =
        ((Operation.applyAll operations t).runUntilIdle limit).2 := by
  have hfinal : (Operation.applyAll operations s).bare = (Operation.applyAll operations t).bare := by
    induction operations generalizing s t with
    | nil => exact h
    | cons operation operations ih => exact ih ((blind_apply operation).congr h)
  exact ⟨hfinal, fun limit => (runUntilIdle_congr limit hfinal).2⟩

def afterSpeech (operations : List Operation) (flag : Bool) : Stage :=
  Operation.applyAll
    ([.edit (.append (.act ⟨2⟩ false (.say "hello" 0))), .start, .setClock 3, .pump, .stop]
      ++ operations ++
      [.edit (.append (.loop ⟨3⟩ flag (some 2) [.act ⟨4⟩ flag (.move 1 0)]))])
    (.new 0 { tickInterval := 3 })

theorem bare_applyAll_afterSpeech :
    let s := afterSpeech [] true
    let t := afterSpeech [.expireBubbles] false
    let operations : List Operation := [.createSprite, .start, .setClock 9, .pump, .select ⟨1⟩]
    s.sprites.map (fun p => p.state.bubbles.length) = [1] ∧
      t.sprites.map (fun p => p.state.bubbles.length) = [0] ∧
      s.sprites.map (fun p => p.program.executedCount) = [2] ∧
      t.sprites.map (fun p => p.program.executedCount) = [1] ∧ s.bare = t.bare ∧
      (Operation.applyAll operations s).bare = (Operation.applyAll operations t).bare ∧
      ((Operation.applyAll operations s).runUntilIdle 9000).2 =
        ((Operation.applyAll operations t).runUntilIdle 9000).2 := by
  intro s t operations
  have alike : s.bare = t.bare := by rfl
  obtain ⟨hbare, hsummary⟩ := bare_applyAll alike operations
  exact ⟨by decide, by decide, by decide, by decide, alike, hbare, hsummary 9000⟩

end Stage

end SpriteStage
