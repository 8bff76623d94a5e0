import SpriteStage.Proofs.Deadlines
import SpriteStage.Proofs.Draining
import SpriteStage.Proofs.Expiry
import SpriteStage.Proofs.History
import SpriteStage.Proofs.Numbering
import SpriteStage.Proofs.Utterances
/-!
How long bubbles are shown. A frame takes away whatever has expired by its instant. What a tick shows
anew has its deadline at the tick or after it, and a tick that comes after a frame has a later instant,
since at one instant the tick is first. So from the first frame of a run on all bubbles have deadlines
after the last frame, and none is overdue by as much as a frame interval when a pump is done. Bubbles
whose deadline is still to come are never taken away by a frame.
-/

namespace SpriteStage

/-! ### What a tick shows -/

theorem Sprite.mem_bubbles_step {p : Sprite} {now : Nat} {b : Bubble} (early : now ≤ Instant.last)
    (h : b ∈ (p.step now).state.bubbles) : b ∈ p.state.bubbles ∨ now ≤ b.expiresAt := by
  unfold Sprite.step at h
  split at h
  · exact Or.inl h
  · split at h
    · rw [Block.execute, Block.run_eq_perform] at h
      exact SpriteState.mem_bubbles_perform early h
    · exact Or.inl h

namespace Stage

variable {s t armed : Stage} {horizon now L : Nat} {a : Activation} {b : Bubble} {fs : List Firing}

theorem mem_bubbles_tickWork (early : now ≤ Instant.last) (h : b ∈ (s.tickWork now).bubbles) :
    b ∈ s.bubbles ∨ now ≤ b.expiresAt := by
  have hstepped : ∀ p ∈ (s.tickCheck now).1, b ∈ p.state.bubbles →
      b ∈ s.bubbles ∨ now ≤ b.expiresAt := by
    refine List.forall_mem_map.2 fun p hp hb => ?_
    exact (Sprite.mem_bubbles_step early hb).imp_left fun hold => mem_bubbles.2 ⟨p, hp, hold⟩
  -- Whoever takes over a program speaks until a later instant, and thinks what it thought.
  have htakeOver : ∀ p ∈ (s.tickCheck now).1, ∀ program giver,
      b ∈ (p.takeOver program giver (Instant.after now s.config.swapMessage)).state.bubbles →
        b ∈ s.bubbles ∨ now ≤ b.expiresAt := by
    intro p hp program giver hb
    rcases SpriteState.mem_bubbles.1 hb with hsay | hthink
    · cases hsay
      exact Or.inr (Instant.le_after early _)
    · exact hstepped p hp (SpriteState.mem_bubbles.2 (Or.inr hthink))
  obtain ⟨p, hp, hb⟩ := mem_bubbles.1 h
  cases hpair : (s.tickCheck now).2.2 with
  | none =>
    rw [sprites_tickWork_of_none hpair] at hp
    exact hstepped p hp hb
  | some pair =>
    obtain ⟨q, r, hne, hq, hr⟩ := exists_of_tickCheck hpair
    rw [sprites_tickWork_of_some hpair, swapPrograms_eq_set hq hr hne] at hp
    rcases mem_set_set hp with hold | rfl | rfl
    · exact hstepped p hold hb
    · exact htakeOver q (List.mem_of_getElem? hq) _ _ hb
    · exact htakeOver r (List.mem_of_getElem? hr) _ _ hb

/-! ### What is left after a frame -/

def lastFrame? (fs : List Firing) : Option Nat :=
  (fs.filterMap fun f => match f.activation with
    | .tick _ => none
    | .frame now => some now).getLast?

theorem lastFrame?_append (fs gs : List Firing) :
    lastFrame? (fs ++ gs) = (lastFrame? gs).or (lastFrame? fs) := by
  simp [lastFrame?]

structure ClearOf (L : Nat) (s : Stage) : Prop where
  bubbles : ∀ b ∈ s.bubbles, L < b.expiresAt
  timers : ∀ t ∈ s.schedule.timers,
    L < t.tick.due ∧ t.frame.due = Instant.after L t.frame.interval

theorem mem_timers_fire {timers : Timers} (h : timers ∈ (s.fire a).schedule.timers) :
    timers ∈ s.schedule.timers := by
  rcases s.schedule_fire a with hkept | hstopped
  · rw [hkept] at h
    exact h
  · rw [hstopped] at h
    cases h

theorem clearOf_frame (hdue : s.due? horizon = some (.frame L, armed)) :
    (armed.fire (.frame L)).ClearOf L := by
  obtain ⟨rest, hnext, rfl⟩ := due?_eq_some.1 hdue
  obtain ⟨timers, -, hfirst, -, rfl⟩ := Schedule.next?_eq_some.1 hnext
  constructor
  · intro b hb
    rw [fire, frame_eq] at hb
    exact (mem_bubbles_expireAt.1 hb).2
  · intro t ht
    cases mem_timers_fire ht
    rcases Nat.lt_or_ge timers.frame.due timers.tick.due with hlt | hge
    · rw [Timers.next_of_frame hlt] at hfirst ⊢
      cases hfirst
      exact ⟨hlt, rfl⟩
    · rw [Timers.next_of_tick hge] at hfirst
      cases hfirst

theorem ClearOf.tick (h : s.ClearOf L) (timely : s.schedule.Timely)
    (hdue : s.due? horizon = some (.tick now, armed)) : (armed.fire (.tick now)).ClearOf L := by
  obtain ⟨rest, hnext, rfl⟩ := due?_eq_some.1 hdue
  obtain ⟨timers, htimers, hfirst, -, rfl⟩ := Schedule.next?_eq_some.1 hnext
  obtain ⟨hlater, hframe⟩ := h.timers timers htimers
  have hlast := (timely timers htimers).1
  rcases Nat.lt_or_ge timers.frame.due timers.tick.due with hlt | hge
  · rw [Timers.next_of_frame hlt] at hfirst
    cases hfirst
  · rw [Timers.next_of_tick hge] at hfirst ⊢
    cases hfirst
    constructor
    · intro b hb
      rw [fire, tick_eq] at hb
      rcases mem_bubbles_tickWork hlast hb with hold | hnew
      · exact h.bubbles b hold
      · exact Nat.lt_of_lt_of_le hlater hnew
    · intro t ht
      cases mem_timers_fire ht
      exact ⟨Nat.lt_of_lt_of_le hlater (Instant.le_after hlast _), hframe⟩

/-- A stage after the firings of a run so far: it is clear of the last frame, if there was one. -/
structure Swept (fs : List Firing) (s : Stage) : Prop where
  timely : s.schedule.Timely
  clearOf : ∀ L, lastFrame? fs = some L → s.ClearOf L

theorem Swept.fire (h : s.Swept fs) (hdue : s.due? horizon = some (a, armed)) :
    (armed.fire a).Swept (fs ++ [⟨armed, a⟩]) := by
  obtain ⟨rest, hnext, harmed⟩ := due?_eq_some.1 hdue
  have hkept : armed.schedule.Timely := by
    rw [harmed]
    exact Schedule.kept_timely.next? hnext h.timely
  refine ⟨Schedule.kept_timely.fire hkept a, fun L hL => ?_⟩
  rw [lastFrame?_append] at hL
  cases a with
  | tick now => exact (h.clearOf L hL).tick h.timely hdue
  | frame now =>
    cases hL
    exact clearOf_frame hdue

theorem Swept.of_shown (h : s.Swept fs) (hbubbles : ∀ b ∈ t.bubbles, b ∈ s.bubbles)
    (hschedule : t.schedule = s.schedule) : t.Swept (fs ++ []) := by
  rw [List.append_nil]
  refine ⟨hschedule ▸ h.timely, fun L hL => ?_⟩
  have hclear := h.clearOf L hL
  exact ⟨fun b hb => hclear.bubbles b (hbubbles b hb), hschedule ▸ hclear.timers⟩

theorem Swept.stop (h : s.Swept fs) : s.stop.Swept (fs ++ []) := by
  rw [List.append_nil]
  refine ⟨Schedule.kept_timely.stop _ h.timely, fun L hL => ?_⟩
  exact ⟨(h.clearOf L hL).bubbles, fun t ht => by cases ht⟩

theorem followed_swept : Followed fun s fs t => ∀ before, s.Swept before → t.Swept (before ++ fs) where
  setClock _ _ _ h := h.of_shown (fun _ hb => hb) rfl
  stop _ _ h := h.stop
  fire hdue _ h := h.fire hdue
  append hfirst hsecond before h := by
    rw [← List.append_assoc]
    exact hsecond _ (hfirst before h)

/-! ### Operations in between -/

theorem bubbles_of_map {f : Sprite → Sprite} (hsprites : t.sprites = s.sprites.map f)
    (h : ∀ p, ∀ b ∈ (f p).state.bubbles, b ∈ p.state.bubbles) : ∀ b ∈ t.bubbles, b ∈ s.bubbles := by
  intro b hb
  obtain ⟨q, hq, hshown⟩ := mem_bubbles.1 hb
  rw [hsprites] at hq
  obtain ⟨p, hp, rfl⟩ := List.mem_map.1 hq
  exact mem_bubbles.2 ⟨p, hp, h p b hshown⟩

theorem bubbles_createSprite (s : Stage) : s.createSprite.bubbles = s.bubbles := by
  simp [bubbles, createSprite, Sprite.numbered, SpriteState.bubbles]

theorem bubbles_editSelected (s : Stage) (e : Edit) : (s.editSelected e).bubbles = s.bubbles := by
  unfold editSelected
  split
  · rename_i index _
    have hstate : ∀ p : Sprite, (p.edited (e.apply p.program)).state.bubbles = id p.state.bubbles :=
      fun _ => rfl
    simp only [bubbles, List.flatMap_def]
    rw [map_modify hstate, List.modify_id]
  · rfl

theorem bubbles_reset (s : Stage) : s.reset.bubbles = [] := by
  simp [bubbles, reset, SpriteState.withoutBubbles, SpriteState.bubbles, List.flatMap_map]

theorem schedule_editSelected (s : Stage) (e : Edit) :
    (s.editSelected e).schedule = s.schedule := by
  unfold editSelected
  split <;> rfl

theorem Swept.start (h : s.Swept fs) {operation : Operation} (begins : operation.begins = true) :
    s.start.Swept (if operation.begins && !s.isRunning then [] else fs) := by
  cases hrunning : s.isRunning with
  | true =>
    rw [Stage.start, if_pos hrunning]
    simpa using h
  | false =>
    rw [begins]
    exact ⟨Schedule.kept_timely.stageStart h.timely, fun L hL => by cases hL⟩

theorem Swept.apply (h : s.Swept fs) (operation : Operation) :
    (operation.apply s).Swept (Operation.continueRun fs operation s) := by
  cases operation with
  | createSprite => exact h.of_shown (fun b hb => s.bubbles_createSprite ▸ hb) rfl
  | select id =>
    simp only [Operation.apply, select]
    split
    · exact h.of_shown (fun _ hb => hb) rfl
    · exact h.of_shown (fun _ hb => hb) rfl
  | moveSprite id x y =>
    refine h.of_shown (bubbles_of_map rfl fun p b hb => ?_) rfl
    simp only at hb
    split at hb
    · exact hb
    · exact hb
  | takeBlockId => exact h.of_shown (fun _ hb => hb) rfl
  | edit e =>
    exact h.of_shown (fun b hb => s.bubbles_editSelected e ▸ hb) (s.schedule_editSelected e)
  | start => exact (h.start rfl).of_shown (fun _ hb => hb) rfl
  | stop => exact h.stop
  | reset =>
    have hstopped := h.stop
    rw [List.append_nil] at hstopped
    refine hstopped.of_shown (fun b hb => ?_) rfl
    rw [Operation.apply, bubbles_reset] at hb
    cases hb
  | pump => exact followed_swept.pump s fs h
  | expireBubbles =>
    exact h.of_shown (fun b hb => (mem_bubbles_expireAt.1 hb).1) (s.schedule_expireAt s.clock)
  | setClock now => exact h.of_shown (fun _ hb => hb) rfl
  | advanceClock d => exact h.of_shown (fun _ hb => hb) rfl
  | runUntilIdle limit =>
    exact followed_swept.drive s.clock limit (s.frameBound limit) s.start _ (h.start rfl)

theorem Swept.applyAll (h : s.Swept fs) (operations : List Operation) :
    (Operation.applyAll operations s).Swept (Operation.latestRun fs operations s) := by
  induction operations generalizing s fs with
  | nil => exact h
  | cons operation operations ih => exact ih (h.apply operation)

theorem Swept.lt_of_pump (h : s.pump.Swept fs) (geared : s.pump.schedule.Geared s.config)
    (early : s.clock < Instant.last) (running : s.pump.isRunning = true) (hL : lastFrame? fs = some L) :
    ∀ b ∈ s.pump.bubbles, s.clock < b.expiresAt + max s.config.frameInterval 1 := by
  intro b hb
  obtain ⟨hbubbles, htimers⟩ := h.clearOf L hL
  have hdeadline := hbubbles b hb
  rcases due?_eq_none_iff.1 (due?_pump early) with hidle | ⟨timers, ht, -, hframe⟩
  · rw [running] at hidle
    cases hidle
  · have hdue := (htimers timers ht).2
    rw [(geared.timers timers ht).2] at hdue
    simp only [Instant.after] at hdue
    omega

/-- In a run that has had a frame, the last one at `L`, every bubble has its deadline after `L`; so
when a pump is done and the run goes on, no bubble is overdue by a frame interval or more. A frame and
an expiry keep exactly those bubbles whose deadline is still to come. -/
theorem Built.bubbles_outlast_frames (built : s.Built) :
    (∀ operations L,
        let t := Operation.applyAll operations s
        t.isRunning = true → lastFrame? (Operation.latestRun [] operations s) = some L →
          ∀ b ∈ t.bubbles, L < b.expiresAt) ∧
      (∀ operations L,
        let t := Operation.applyAll operations s
        t.clock < Instant.last → t.pump.isRunning = true →
          lastFrame? (Operation.latestRun [] operations s ++ t.pumpFirings) = some L →
            ∀ b ∈ t.pump.bubbles, t.clock < b.expiresAt + max t.config.frameInterval 1) ∧
      ∀ (t : Stage) (now index : Nat) (p : Sprite), t.sprites[index]? = some p →
        ∃ q, (t.frame now).sprites[index]? = some q ∧
          (t.setClock now).expireBubbles.sprites[index]? = some q ∧
          ∀ b, (q.state.say = some b ↔ p.state.say = some b ∧ now < b.expiresAt) ∧
            (q.state.think = some b ↔ p.state.think = some b ∧ now < b.expiresAt) := by
  have hswept : s.Swept [] := ⟨built.reachable.timely, fun L hL => by cases hL⟩
  refine ⟨?_, ?_, ?_⟩
  · intro operations L t running hL
    exact ((hswept.applyAll operations).clearOf L hL).bubbles
  · intro operations L t early running hL
    have hpumped := followed_swept.pump t _ (hswept.applyAll operations)
    have reachable : t.Reachable := built.reachable.applyAll operations
    have geared : t.pump.schedule.Geared t.config := by
      rw [← t.config_apply .pump]
      exact (reachable.apply .pump).geared
    exact hpumped.lt_of_pump geared early running hL
  · intro t now index p hp
    refine ⟨p.expire now, ?_, ?_, fun b => ⟨SpriteState.say_expire, SpriteState.think_expire⟩⟩
    · rw [frame_eq, reschedule, sprites_expireAt, List.getElem?_map, hp]
      rfl
    · rw [expireBubbles, sprites_expireAt, List.getElem?_map, setClock, hp]
      rfl

def thoughtAndSpeech : List Operation :=
  [.edit (.append (.act ⟨2⟩ false (.think "soon" 0))), .edit (.append (.act ⟨3⟩ false (.move 1 0))),
    .edit (.append (.act ⟨4⟩ false (.say "now" 0))), .start, .setClock 11]

theorem bubbles_outlast_frames_speech :
    let s := Stage.new 0 { tickInterval := 3, frameInterval := 4 }
    let t := Operation.applyAll thoughtAndSpeech s
    let u := Operation.applyAll (thoughtAndSpeech ++ [.pump]) s
    u.isRunning = true ∧ u.bubbles.map Bubble.expiresAt = [9] ∧
      lastFrame? (Operation.latestRun [] (thoughtAndSpeech ++ [.pump]) s) = some 8 ∧
      (∀ b ∈ u.bubbles, 8 < b.expiresAt) ∧
      (∀ b ∈ t.pump.bubbles, t.clock < b.expiresAt + max t.config.frameInterval 1) ∧
      ∃ p q, u.sprites[0]? = some p ∧ (u.frame 12).sprites[0]? = some q ∧
        ∀ b, q.state.say = some b ↔ p.state.say = some b ∧ 12 < b.expiresAt := by
  intro s t u
  obtain ⟨houtlast, hpumped, hframe⟩ := Built.bubbles_outlast_frames (.new 0 _ : s.Built)
  have early : t.clock < Instant.last := by decide +kernel
  have running : t.pump.isRunning = true := by decide +kernel
  have running' : u.isRunning = true := by decide +kernel
  have hshown : u.bubbles.map Bubble.expiresAt = [9] := by decide +kernel
  have hlast : lastFrame? (Operation.latestRun [] thoughtAndSpeech s ++ t.pumpFirings) = some 8 := by
    decide +kernel
  have hlast' : lastFrame? (Operation.latestRun [] (thoughtAndSpeech ++ [.pump]) s) = some 8 := by
    decide +kernel
  obtain ⟨p, hp⟩ := Option.isSome_iff_exists.1 (by decide +kernel : u.sprites[0]?.isSome = true)
  obtain ⟨q, hq, -, hkept⟩ := hframe u 12 0 p hp
  exact ⟨running', hshown, hlast', houtlast _ 8 running' hlast',
    hpumped thoughtAndSpeech 8 early running hlast, p, q, hp, hq, fun b => (hkept b).1⟩

end Stage

end SpriteStage
