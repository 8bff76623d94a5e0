import SpriteStage.Proofs.Alike
import SpriteStage.Proofs.Bare
import SpriteStage.Proofs.Deadlines
/-!
Starting over. What a run leaves behind on a stage is in the cursors, the completions, the flags, the
bubbles, the counters and the armed tasks. A start takes none of it over but the bubbles: it comes to
the same for any two stages that are set up alike, whatever they have been through. A reset clears all
of it but the counters, and leaves the setup as it is, so a start does the same after a reset as after
a mere stop.
-/

namespace SpriteStage

/-! ### Sprites -/

namespace Sprite

def withoutBubbles (p : Sprite) : Sprite := { p with state := p.state.withoutBubbles }

structure SetUpAlike (p q : Sprite) : Prop where
  id : p.id = q.id
  name : p.name = q.name
  costume : p.costume = q.costume
  x : p.state.x = q.state.x
  y : p.state.y = q.state.y
  direction : p.state.direction = q.state.direction
  program : List.Forall₂ Block.Alike p.program.blocks q.program.blocks

structure Pristine (p : Sprite) : Prop where
  cursor : p.cursor = 0
  complete : p.complete = false
  unflagged : ∀ b ∈ p.program.preorder, b.executed = false
  say : p.state.say = none
  think : p.state.think = none

def renewed (p : Sprite) : Sprite := p.rewound.withoutBubbles

variable {p q : Sprite}

theorem SetUpAlike.renewed_eq (h : p.SetUpAlike q) : p.renewed = q.renewed := by
  simp only [renewed, rewound, edited, withoutBubbles, SpriteState.withoutBubbles, h.id, h.name,
    h.costume, h.x, h.y, h.direction, Program.cleared_eq_of_alike h.program]

theorem setUpAlike_renewed (p : Sprite) : p.SetUpAlike p.renewed :=
  ⟨rfl, rfl, rfl, rfl, rfl, rfl, p.program.alike_cleared⟩

theorem setUpAlike_rewound (p : Sprite) : p.SetUpAlike p.rewound :=
  ⟨rfl, rfl, rfl, rfl, rfl, rfl, p.program.alike_cleared⟩

theorem pristine_renewed (p : Sprite) : p.renewed.Pristine :=
  ⟨rfl, rfl, p.program.executed_of_mem_preorder_cleared, rfl, rfl⟩

@[simp] theorem renewed_renewed (p : Sprite) : p.renewed.renewed = p.renewed :=
  p.setUpAlike_renewed.renewed_eq.symm

end Sprite

/-! ### Stages -/

theorem Schedule.Geared.eq_of_idle {c : Config} {s : Schedule} (geared : s.Geared c)
    (idle : s.isRunning = false) : s = ⟨c.tickInterval, c.frameInterval, none⟩ := by
  obtain ⟨tickInterval, frameInterval, timers⟩ := s
  have hrest : timers = none := Option.isNone_iff_eq_none.1 (by simpa [isRunning] using idle)
  rw [hrest, ← geared.tickInterval, ← geared.frameInterval]

namespace Stage

def withoutBubbles (s : Stage) : Stage := { s with sprites := s.sprites.map Sprite.withoutBubbles }

/-- Two stages that differ at most in what runs have left behind. -/
structure SetUpAlike (s t : Stage) : Prop where
  clock : s.clock = t.clock
  config : s.config = t.config
  selected : s.selected = t.selected
  ids : s.ids = t.ids
  detector : s.detector = t.detector
  sprites : List.Forall₂ Sprite.SetUpAlike s.sprites t.sprites

variable {s t : Stage}

theorem withoutBubbles_start (geared : s.schedule.Geared s.config) (idle : s.isRunning = false) :
    s.start.withoutBubbles =
      { clock := s.clock
        config := s.config
        sprites := s.sprites.map Sprite.renewed
        selected := s.selected
        ids := s.ids
        schedule := (⟨s.config.tickInterval, s.config.frameInterval, none⟩ : Schedule).start s.clock
        detector := s.detector } := by
  rw [start, if_neg (by simp [idle]), ← geared.eq_of_idle idle, withoutBubbles, List.map_map]
  rfl

theorem SetUpAlike.withoutBubbles_start_eq (alike : s.SetUpAlike t)
    (geared : s.schedule.Geared s.config) (geared' : t.schedule.Geared t.config)
    (idle : s.isRunning = false) (idle' : t.isRunning = false) :
    s.start.withoutBubbles = t.start.withoutBubbles := by
  have hsprites : s.sprites.map Sprite.renewed = t.sprites.map Sprite.renewed :=
    map_eq_map_of_forall₂ alike.sprites fun _ _ _ h => h.renewed_eq
  rw [withoutBubbles_start geared idle, withoutBubbles_start geared' idle', hsprites, alike.clock,
    alike.config, alike.selected, alike.ids, alike.detector]

theorem setUpAlike_start (idle : s.isRunning = false) : s.SetUpAlike s.start := by
  rw [start, if_neg (by simp [idle])]
  exact
    { clock := rfl
      config := rfl
      selected := rfl
      ids := rfl
      detector := rfl
      sprites := List.forall₂_map_right_iff.2 (List.forall₂_same.2 fun p _ => p.setUpAlike_rewound) }

theorem reset_eq (s : Stage) : s.reset =
    { s with sprites := s.sprites.map Sprite.renewed, schedule := s.schedule.stop } := rfl

theorem setUpAlike_reset (s : Stage) : s.SetUpAlike s.reset where
  clock := rfl
  config := rfl
  selected := rfl
  ids := rfl
  detector := rfl
  sprites := List.forall₂_map_right_iff.2 (List.forall₂_same.2 fun p _ => p.setUpAlike_renewed)

theorem all_pristine_reset (s : Stage) : s.reset.All Sprite.Pristine :=
  List.forall_mem_map.2 fun p _ => p.pristine_renewed

theorem reset_reset (s : Stage) : s.reset.reset = s.reset := by
  simp only [reset_eq, List.map_map, Function.comp_def, Sprite.renewed_renewed]
  rfl

/-- Two idle stages that are set up alike differ in nothing but bubbles once they are started, whatever
they have been through before. A reset ends the run and clears all that runs have left on the sprites;
the setup and the counters stay, and there is nothing more to do for a second reset. Apart from bubbles,
a start comes to the same after a reset and after a stop. -/
theorem Reachable.history_forgotten (reachable : s.Reachable) :
    (∀ t : Stage, t.Reachable → s.isRunning = false → t.isRunning = false → s.SetUpAlike t →
        s.start.withoutBubbles = t.start.withoutBubbles) ∧
      (s.isRunning = false → s.SetUpAlike s.start) ∧
      s.reset.isRunning = false ∧ s.reset.All Sprite.Pristine ∧
      s.SetUpAlike s.reset ∧ s.reset.stats = s.stats ∧ s.reset.reset = s.reset ∧
      s.reset.start.withoutBubbles = s.stop.start.withoutBubbles := by
  refine ⟨fun t reachable' idle idle' alike => ?_, setUpAlike_start, rfl, s.all_pristine_reset,
    s.setUpAlike_reset, rfl, s.reset_reset, ?_⟩
  · exact alike.withoutBubbles_start_eq reachable.geared reachable'.geared idle idle'
  · -- A stage that is stopped is reset to the same stage as before it was stopped.
    have halike : s.stop.SetUpAlike s.reset := s.stop.setUpAlike_reset
    have stopped : s.stop.Reachable := reachable.apply .stop
    have renewed : s.reset.Reachable := reachable.apply .reset
    exact (halike.withoutBubbles_start_eq stopped.geared renewed.geared rfl rfl).symm

def spokenThen (operations : List Operation) : Stage :=
  Operation.applyAll
    ([.edit (.append (.act ⟨2⟩ false (.say "hello" 0))), .start, .setClock 6, .pump, .stop]
      ++ operations)
    (.new 0 { tickInterval := 3 })

theorem history_forgotten_spokenThen :
    let s := spokenThen []
    let t := spokenThen [.start, .stop, .expireBubbles]
    s.Reachable ∧ t.Reachable ∧ s.isRunning = false ∧ t.isRunning = false ∧ s.SetUpAlike t ∧
      s.sprites.map Sprite.complete = [true] ∧ t.sprites.map Sprite.complete = [false] ∧
      s.stats = ⟨2, 0⟩ ∧ t.stats = ⟨0, 0⟩ ∧
      s.bubbles.map Bubble.expiresAt = [3] ∧ t.bubbles.map Bubble.expiresAt = [] ∧
      s.start.withoutBubbles = t.start.withoutBubbles ∧ s.reset.reset = s.reset ∧
      s.reset.start.withoutBubbles = s.stop.start.withoutBubbles := by
  intro s t
  have reachable : s.Reachable := (Reachable.new 0 _).applyAll _
  have reachable' : t.Reachable := (Reachable.new 0 _).applyAll _
  have alike : s.SetUpAlike t :=
    { clock := rfl
      config := rfl
      selected := rfl
      ids := rfl
      detector := rfl
      sprites := .cons ⟨rfl, rfl, rfl, rfl, rfl, rfl, .cons .act .nil⟩ .nil }
  obtain ⟨hstart, -, -, -, -, -, hagain, hstopped⟩ := reachable.history_forgotten
  exact ⟨reachable, reachable', rfl, rfl, alike, by decide, by decide, by decide, by decide, by decide,
    by decide, hstart t reachable' rfl rfl alike, hagain, hstopped⟩

end Stage

end SpriteStage
