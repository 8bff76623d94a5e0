import SpriteStage.Proofs.Course
import SpriteStage.Proofs.Ticking
/-!
The end of a run. A run ends by itself at an activation that finds all sprites idle. A frame looks at
the sprites as it leaves them, and so leaves them finished. A tick looks at them as it begins, and
may swap two programs after that: what it swaps then is not run any more. So a run that ends by
itself leaves all sprites finished unless its last activation swaps blocks.
-/

namespace SpriteStage

namespace Sprite

theorem finished_takeOver {q : Sprite} {program : Program} {giver : String} {expiresAt : Nat} :
    (q.takeOver program giver expiresAt).Finished ↔ program.isEmpty = true := by
  constructor
  · intro h
    cases hempty : program.isEmpty with
    | true => rfl
    | false =>
      have hcomplete : false = true := (h hempty).1
      cases hcomplete
  · intro hempty hprogram
    have hblocks : program.isEmpty = false := hprogram
    rw [hempty] at hblocks
    cases hblocks

theorem finished_swapPrograms_iff {c : Config} {now first second : Nat} {sprites : List Sprite}
    {a b : Sprite} (h : ∀ p ∈ sprites, p.Finished) (ha : sprites[first]? = some a)
    (hb : sprites[second]? = some b) (hne : first ≠ second) :
    (∀ p ∈ swapPrograms c now first second sprites, p.Finished) ↔
      a.program.isEmpty = true ∧ b.program.isEmpty = true := by
  have hfirst : first < sprites.length := (List.getElem?_eq_some_iff.1 ha).1
  have hsecond : second < sprites.length := (List.getElem?_eq_some_iff.1 hb).1
  rw [swapPrograms_eq_set ha hb hne]
  constructor
  · intro hall
    have hbempty := hall _ (mem_set_set_left hne hfirst _ _)
    have haempty := hall _ (List.mem_set (by simpa using hsecond) _)
    exact ⟨finished_takeOver.1 haempty, finished_takeOver.1 hbempty⟩
  · rintro ⟨haempty, hbempty⟩ p hp
    rcases mem_set_set hp with hold | rfl | rfl
    · exact h p hold
    · exact finished_takeOver.2 hbempty
    · exact finished_takeOver.2 haempty

end Sprite

namespace Stage

/-- Whether an activation is a tick that makes two sprites swap programs with blocks in one of them
at least. -/
def SwapsBlocks (s : Stage) : Activation → Prop
  | .tick now => ∃ first second a b, (s.tickCheck now).2.2 = some (first, second) ∧
      (s.tickCheck now).1[first]? = some a ∧ (s.tickCheck now).1[second]? = some b ∧
      (a.program.isEmpty && b.program.isEmpty) = false
  | .frame _ => False

variable {s t u armed : Stage} {horizon now : Nat} {a : Activation} {as : List Activation}

/-! ### A tick and a frame that end the run -/

theorem All.finished (h : s.All Sprite.OnCourse) (hidle : s.allIdle = true) :
    s.All Sprite.Finished := by
  have hsprites : ∀ p ∈ s.sprites, p.isIdle = true := List.all_eq_true.1 hidle
  exact fun p hp => (h p hp).finished (hsprites p hp)

theorem stepped_of_allIdle (hidle : s.allIdle = true) (now : Nat) :
    (s.tickCheck now).1 = s.sprites := by
  have hsprites : ∀ p ∈ s.sprites, p.isIdle = true := List.all_eq_true.1 hidle
  have hstay : ∀ p ∈ s.sprites, Sprite.step now p = id p :=
    fun p hp => Sprite.step_of_idle (hsprites p hp) now
  exact (List.map_congr_left hstay).trans (List.map_id _)

theorem swapsBlocks_tick_iff {first second : Nat} {a b : Sprite}
    (hpair : (s.tickCheck now).2.2 = some (first, second))
    (ha : (s.tickCheck now).1[first]? = some a) (hb : (s.tickCheck now).1[second]? = some b) :
    s.SwapsBlocks (.tick now) ↔ (a.program.isEmpty && b.program.isEmpty) = false := by
  constructor
  · rintro ⟨i, j, c, d, hsome, hc, hd, hblocks⟩
    obtain ⟨rfl, rfl⟩ := Prod.mk.inj (Option.some.inj (hpair.symm.trans hsome))
    obtain rfl : a = c := Option.some.inj (ha.symm.trans hc)
    obtain rfl : b = d := Option.some.inj (hb.symm.trans hd)
    exact hblocks
  · exact fun hblocks => ⟨first, second, a, b, hpair, ha, hb, hblocks⟩

theorem finished_tickWork_iff (hidle : s.allIdle = true) (h : s.All Sprite.Finished) :
    (s.tickWork now).All Sprite.Finished ↔ ¬ s.SwapsBlocks (.tick now) := by
  -- Idle sprites do not step, so the check is about the sprites as they were.
  have hstepped : ∀ p ∈ (s.tickCheck now).1, p.Finished := by
    rw [stepped_of_allIdle hidle]
    exact h
  cases hpair : (s.tickCheck now).2.2 with
  | none =>
    have hstay : (s.tickWork now).All Sprite.Finished := by
      rw [All, sprites_tickWork_of_none hpair]
      exact hstepped
    have hnone : ¬ s.SwapsBlocks (.tick now) := by
      rintro ⟨first, second, a, b, hsome, -⟩
      rw [hpair] at hsome
      cases hsome
    exact iff_of_true hstay hnone
  | some pair =>
    obtain ⟨first, second⟩ := pair
    obtain ⟨a, b, hne, ha, hb⟩ := exists_of_tickCheck hpair
    rw [swapsBlocks_tick_iff hpair ha hb, All, sprites_tickWork_of_some hpair,
      Sprite.finished_swapPrograms_iff hstepped ha hb hne, Bool.not_eq_false, Bool.and_eq_true]

theorem finished_fire_iff (h : s.All Sprite.OnCourse) (running : s.isRunning = true)
    (ended : (s.fire a).isRunning = false) :
    (s.fire a).All Sprite.Finished ↔ ¬ s.SwapsBlocks a := by
  cases a with
  | tick now =>
    by_cases hidle : s.allIdle = true
    · have hfire : (s.fire (.tick now)).sprites = (s.tickWork now).sprites := by
        simp [fire, tick, hidle, stop]
      rw [All, hfire]
      exact finished_tickWork_iff hidle (h.finished hidle)
    · have hgoing : (s.fire (.tick now)).isRunning = s.isRunning := by
        simp [fire, tick, hidle, isRunning]
      rw [hgoing, running] at ended
      cases ended
  | frame now =>
    by_cases hidle : (s.expireAt now).allIdle = true
    · have hfire : (s.fire (.frame now)).sprites = (s.expireAt now).sprites := by
        simp [fire, frame, hidle, stop]
      rw [All, hfire]
      exact iff_of_true ((h.expireAt Sprite.lasting_onCourse now).finished hidle) not_false
    · have hgoing : (s.fire (.frame now)).isRunning = s.isRunning := by
        simp [fire, frame, hidle, isRunning]
      rw [hgoing, running] at ended
      cases ended

/-! ### The last activation -/

theorem Fires.exists_last (h : Fires horizon s as t) (running : s.isRunning = true)
    (ended : t.isRunning = false) :
    ∃ bs u a armed, Fires horizon s bs u ∧ u.due? horizon = some (a, armed) ∧ t = armed.fire a := by
  induction h with
  | stay s =>
    rw [running] at ended
    cases ended
  | @step s armed t a as hdue hrest ih =>
    cases hfired : (armed.fire a).isRunning with
    | true =>
      obtain ⟨bs, u, b, later, hfires, hnext, hlast⟩ := ih hfired ended
      exact ⟨a :: bs, u, b, later, .step hdue hfires, hnext, hlast⟩
    | false =>
      cases hrest with
      | stay => exact ⟨[], s, a, armed, .stay s, hdue, rfl⟩
      | step hmore _ =>
        rw [due?_of_idle hfired] at hmore
        cases hmore

/-- A pump that ends the run leaves every sprite with a program complete, its cursor at the end and
all its blocks flagged, unless the last activation is a tick that swaps blocks, and only then not. -/
theorem finished_pump_iff (reachable : s.Reachable) (running : s.isRunning = true)
    (ended : s.pump.isRunning = false) :
    ∃ as t a armed, Fires s.clock s as t ∧ t.due? s.clock = some (a, armed) ∧
      s.pump = armed.fire a ∧
      (s.pump.All Sprite.Finished ↔ ¬ armed.SwapsBlocks a) := by
  obtain ⟨as, hfires⟩ := pump_fires s
  obtain ⟨bs, t, a, armed, hbefore, hdue, hlast⟩ := hfires.exists_last running ended
  have hcourse : armed.All Sprite.OnCourse :=
    ((reachable.all Sprite.lasting_onCourse).fires Sprite.lasting_onCourse hbefore).due? hdue
  refine ⟨bs, t, a, armed, hbefore, hdue, hlast, ?_⟩
  rw [hlast] at ended ⊢
  exact finished_fire_iff hcourse (isRunning_of_due? hdue).2 ended

theorem finished_pump_iff_overlapping :
    let config : Config := { tickInterval := 3, frameInterval := 20, collisionCooldown := 100 }
    let s := (overlapping config).setClock 20
    s.Reachable ∧ s.isRunning = true ∧ s.pump.isRunning = false ∧ s.pump.All Sprite.Finished ∧
      ∃ as t a armed, Fires s.clock s as t ∧ t.due? s.clock = some (a, armed) ∧
        s.pump = armed.fire a ∧
        (s.pump.All Sprite.Finished ↔ ¬ armed.SwapsBlocks a) := by
  intro config s
  have reachable : s.Reachable := (reachable_overlapping config).apply (.setClock 20)
  have running : s.isRunning = true := by decide
  have ended : s.pump.isRunning = false := by decide
  have finished : s.pump.All Sprite.Finished := by decide
  exact ⟨reachable, running, ended, finished, finished_pump_iff reachable running ended⟩

theorem last_tick_swaps_blocks :
    let config : Config := { tickInterval := 1, frameInterval := 10, collisionCooldown := 3 }
    let s := (overlapping config).setClock 10
    s.Reachable ∧ s.isRunning = true ∧ s.pump.isRunning = false ∧
      ¬ s.pump.All Sprite.Finished := by
  intro config s
  have reachable : s.Reachable := (reachable_overlapping config).apply (.setClock 10)
  exact ⟨reachable, by decide, by decide, by decide⟩

end Stage

end SpriteStage
