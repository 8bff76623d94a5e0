import SpriteStage.Proofs.LastInstant
/-!
Swaps without an end. Without a cooldown two sprites in one place swap at every tick. Each swap sends
both back to the start of what they have got, so if the blocks leave them where they are, neither is
ever done with a program. Before the end of time their run goes on until somebody stops it; at the end
of time the pump does not come back to anybody who could.
-/

namespace SpriteStage

def Program.StaysAtOrigin (p : Program) : Prop :=
  p = ⟨[]⟩ ∨ ∃ id executed, p = ⟨[.act id executed (.goTo 0 0)]⟩

structure Sprite.AtOrigin (p : Sprite) : Prop where
  x : p.state.x = 0
  y : p.state.y = 0
  program : p.program.StaysAtOrigin

structure Sprite.Poised (p : Sprite) : Prop extends p.AtOrigin where
  cursor : p.cursor = 0
  incomplete : p.complete = false

namespace Sprite

variable {p q : Sprite}

theorem AtOrigin.bounds (h : p.AtOrigin) (c : Config) :
    c.bounds p = .centered 0 0 c.spriteWidth c.spriteHeight := by
  rw [Config.bounds, h.x, h.y]

theorem AtOrigin.poised_takeOver (h : p.AtOrigin) (hq : q.AtOrigin) (giver : String)
    (expiresAt : Nat) : (p.takeOver q.program giver expiresAt).Poised :=
  { x := h.x, y := h.y, program := hq.program, cursor := rfl, incomplete := rfl }

theorem Poised.step (h : p.Poised) (now : Nat) :
    (p.step now).AtOrigin ∧ (p.step now).program.isEmpty = p.program.isEmpty := by
  rcases h.program with hempty | ⟨id, executed, hone⟩
  · have hidle : p.isIdle = true := by simp [isIdle, hempty, Program.isEmpty]
    rw [step_of_idle hidle]
    exact ⟨h.toAtOrigin, rfl⟩
  · have hactive : p.isIdle = false := by simp [isIdle, hone, h.incomplete, Program.isEmpty]
    have hstep : p.step now = { p with
        state := { p.state with x := 0, y := 0 }
        program := ⟨[.act id true (.goTo 0 0)]⟩
        cursor := 1 } := by
      rw [Sprite.step, hactive, h.cursor, hone]
      rfl
    rw [hstep, hone]
    exact ⟨⟨rfl, rfl, Or.inr ⟨id, true, rfl⟩⟩, rfl⟩

end Sprite

namespace Stage

/-- Whether at the end of time a stage without a cooldown has two sprites only, both at the origin and
about to start, and one of them at least with a block. -/
structure Juggles (s : Stage) : Prop where
  atLast : s.AtLast
  cooldown : s.config.collisionCooldown = 0
  box : (Box.centered 0 0 s.config.spriteWidth s.config.spriteHeight).overlaps
    (Box.centered 0 0 s.config.spriteWidth s.config.spriteHeight) = true
  sprites : ∃ a b, s.sprites = [a, b] ∧ a.Poised ∧ b.Poised ∧
    (a.program.isEmpty && b.program.isEmpty) = false

variable {s : Stage}

theorem tickCheck_of_atOrigin {now : Nat} {p q : Sprite} (cooldown : s.config.collisionCooldown = 0)
    (box : (Box.centered 0 0 s.config.spriteWidth s.config.spriteHeight).overlaps
      (Box.centered 0 0 s.config.spriteWidth s.config.spriteHeight) = true)
    (hstepped : s.sprites.map (Sprite.step now) = [p, q]) (hp : p.AtOrigin) (hq : q.AtOrigin) :
    (s.tickCheck now).1 = [p, q] ∧ (s.tickCheck now).2.2 = some (0, 1) := by
  have hready : s.detector.ready s.config.collisionCooldown now = true := by
    rw [cooldown, Detector.ready, Option.all_eq_true]
    exact fun last _ => decide_eq_true (Nat.zero_le _)
  have hpair : (s.tickCheck now).2.2 = firstOverlap? ([p, q].map s.config.bounds) := by
    rw [← hstepped]
    exact congrArg Prod.fst (Detector.check_of_ready hready)
  refine ⟨hstepped, ?_⟩
  rw [hpair]
  simp [firstOverlap?, hp.bounds, hq.bounds, List.findIdx?_cons, box]

theorem Juggles.exists_tick (h : s.Juggles) :
    ∃ armed t, s.due? Instant.last = some (.tick Instant.last, armed) ∧
      armed.SwapsBlocks (.tick Instant.last) ∧ Fires Instant.last s [.tick Instant.last] t ∧
      t.Juggles := by
  obtain ⟨a, b, hsprites, ha, hb, hblocks⟩ := h.sprites
  obtain ⟨armed, t, hdue, harmed, -, hone, hend⟩ := h.atLast.exists_tick
  have hactive : s.allIdle = false := by
    simpa [allIdle, hsprites, Sprite.isIdle, ha.incomplete, hb.incomplete] using hblocks
  obtain ⟨-, hworked, hnext⟩ := hend.resolve_left (by simp [hactive])
  have hconfig : armed.config = s.config := by rw [harmed, reschedule]
  have hstepped : armed.sprites.map (Sprite.step Instant.last) =
      [a.step Instant.last, b.step Instant.last] := by
    rw [harmed, reschedule, hsprites]
    rfl
  obtain ⟨hastep, haempty⟩ := ha.step Instant.last
  obtain ⟨hbstep, hbempty⟩ := hb.step Instant.last
  obtain ⟨hchecked, hpair⟩ := tickCheck_of_atOrigin (by rw [hconfig]; exact h.cooldown)
    (by rw [hconfig]; exact h.box) hstepped hastep hbstep
  have hfirst : (armed.tickCheck Instant.last).1[0]? = some (a.step Instant.last) := by
    rw [hchecked]
    rfl
  have hsecond : (armed.tickCheck Instant.last).1[1]? = some (b.step Instant.last) := by
    rw [hchecked]
    rfl
  have hswaps : armed.SwapsBlocks (.tick Instant.last) := by
    rw [swapsBlocks_tick_iff hpair hfirst hsecond, haempty, hbempty]
    exact hblocks
  have hlater : t.config = s.config := by rw [hworked, config_tickWork, hconfig]
  refine ⟨armed, t, hdue, hswaps, hone, hnext, ?_, ?_, ?_⟩
  · rw [hlater]
    exact h.cooldown
  · rw [hlater]
    exact h.box
  · have hswapped : ((b.step Instant.last).program.isEmpty &&
        (a.step Instant.last).program.isEmpty) = false := by
      rw [haempty, hbempty, Bool.and_comm]
      exact hblocks
    rw [hworked, sprites_tickWork_of_some hpair, swapPrograms_eq_set hfirst hsecond Nat.zero_ne_one,
      hchecked]
    exact ⟨_, _, rfl, hastep.poised_takeOver hbstep _ _, hbstep.poised_takeOver hastep _ _, hswapped⟩

theorem Juggles.swapsForever (h : s.Juggles) : s.SwapsForever := by
  intro n
  have hgoes : ∃ as t, as.length = n ∧ Fires Instant.last s as t ∧ t.Juggles := by
    induction n generalizing s with
    | zero => exact ⟨[], s, rfl, .stay s, h⟩
    | succ n ih =>
      obtain ⟨armed, t, -, -, hone, hnext⟩ := h.exists_tick
      obtain ⟨as, u, hlength, hfires, hmore⟩ := ih hnext
      exact ⟨_, u, by simpa using hlength, hone.append hfires, hmore⟩
  obtain ⟨as, t, hlength, hfires, hjuggles⟩ := hgoes
  obtain ⟨armed, u, hdue, hswaps, -, -⟩ := hjuggles.exists_tick
  exact ⟨as, t, _, armed, hlength.ge, hfires, hdue, hswaps⟩

end Stage

end SpriteStage
