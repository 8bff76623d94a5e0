import SpriteStage.Proofs.Due
import SpriteStage.Stage.Operation
/-!
What a pump does: it fires the activations due by the clock in their order, and before the end of
time it fires them all. Firings carry their instants with them and never look at the clock, so a
stage that is pumped often is in the end the same as one that is pumped once.
-/

namespace SpriteStage.Stage

variable {horizon near far : Nat} {s t u armed : Stage} {a : Activation} {as bs : List Activation}

/-- A stage fires activations that are due by an instant, one after the other. -/
inductive Fires (horizon : Nat) : Stage → List Activation → Stage → Prop
  | stay (s : Stage) : Fires horizon s [] s
  | step {s armed t : Stage} {a : Activation} {as : List Activation} :
      s.due? horizon = some (a, armed) → Fires horizon (armed.fire a) as t →
        Fires horizon s (a :: as) t

/-! ### What is due -/

theorem due?_eq_some :
    s.due? horizon = some (a, armed) ↔
      ∃ rest, s.schedule.next? horizon = some (a, rest) ∧ armed = { s with schedule := rest } := by
  simp only [due?, Option.map_eq_some_iff, Prod.exists, Prod.mk.injEq]
  constructor
  · rintro ⟨b, rest, h, rfl, rfl⟩
    exact ⟨rest, h, rfl⟩
  · rintro ⟨rest, h, rfl⟩
    exact ⟨a, rest, h, rfl, rfl⟩

theorem due?_eq_none : s.due? horizon = none ↔ s.schedule.next? horizon = none := by
  simp [due?]

theorem due?_of_idle (h : s.isRunning = false) (horizon : Nat) : s.due? horizon = none :=
  due?_eq_none.2 (Schedule.next?_of_idle h horizon)

theorem due?_mono (h : near ≤ far) (hnear : s.due? near = some (a, armed)) :
    s.due? far = some (a, armed) := by
  obtain ⟨rest, hnext, harmed⟩ := due?_eq_some.1 hnear
  exact due?_eq_some.2 ⟨rest, Schedule.next?_mono h hnext, harmed⟩

theorem due?_none_of_le (h : near ≤ far) (hfar : s.due? far = none) : s.due? near = none :=
  due?_eq_none.2 (Schedule.next?_none_of_le h (due?_eq_none.1 hfar))

theorem isRunning_of_due? (h : s.due? horizon = some (a, armed)) :
    s.isRunning = true ∧ armed.isRunning = true := by
  obtain ⟨rest, hnext, rfl⟩ := due?_eq_some.1 h
  exact Schedule.isRunning_of_next? hnext

/-! ### The schedule after a firing -/

@[simp] theorem schedule_tickWork (s : Stage) (now : Nat) : (s.tickWork now).schedule = s.schedule := by
  unfold tickWork
  split <;> rfl

@[simp] theorem schedule_expireAt (s : Stage) (now : Nat) : (s.expireAt now).schedule = s.schedule := by
  unfold expireAt
  split <;> rfl

theorem schedule_fire (s : Stage) (a : Activation) :
    (s.fire a).schedule = s.schedule ∨ (s.fire a).schedule = s.schedule.stop := by
  cases a with
  | tick now =>
    by_cases h : s.allIdle
    · exact Or.inr (by simp [fire, tick, h, stop])
    · exact Or.inl (by simp [fire, tick, h])
  | frame now =>
    by_cases h : (s.expireAt now).allIdle
    · exact Or.inr (by simp [fire, frame, h, stop])
    · exact Or.inl (by simp [fire, frame, h])

theorem pending_fire_le (s : Stage) (a : Activation) (horizon : Nat) :
    (s.fire a).schedule.pending horizon ≤ s.schedule.pending horizon := by
  rcases schedule_fire s a with h | h
  · exact Nat.le_of_eq (by rw [h])
  · rw [h, Schedule.pending_stop]
    exact Nat.zero_le _

theorem pending_fire_due (early : horizon < Instant.last) (h : s.due? horizon = some (a, armed)) :
    (armed.fire a).schedule.pending horizon < s.schedule.pending horizon := by
  obtain ⟨rest, hnext, rfl⟩ := due?_eq_some.1 h
  have hle := pending_fire_le { s with schedule := rest } a horizon
  have hone := Schedule.pending_next? early hnext
  simp only at hle
  omega

/-! ### Firing in a row -/

theorem Fires.append (h : Fires horizon s as t) (h' : Fires horizon t bs u) :
    Fires horizon s (as ++ bs) u := by
  induction h with
  | stay s => exact h'
  | step hdue hrest ih => exact .step hdue (ih h')

theorem Fires.mono (h : near ≤ far) (hfires : Fires near s as t) : Fires far s as t := by
  induction hfires with
  | stay s => exact .stay s
  | step hdue hrest ih => exact .step (due?_mono h hdue) ih

theorem Fires.unique (h : Fires horizon s as t) (hend : t.due? horizon = none)
    (h' : Fires horizon s bs u) (hend' : u.due? horizon = none) : as = bs ∧ t = u := by
  induction h generalizing bs with
  | stay s =>
    cases h' with
    | stay => exact ⟨rfl, rfl⟩
    | step hdue _ => exact absurd (hdue.symm.trans hend) (by simp)
  | step hdue hrest ih =>
    cases h' with
    | stay => exact absurd (hdue.symm.trans hend') (by simp)
    | step hdue' hrest' =>
      obtain ⟨rfl, rfl⟩ := Prod.mk.inj (Option.some.inj (hdue.symm.trans hdue'))
      obtain ⟨rfl, rfl⟩ := ih hend hrest'
      exact ⟨rfl, rfl⟩

theorem drain_fires (horizon count : Nat) (s : Stage) :
    ∃ as, Fires horizon s as (drain horizon count s) := by
  induction count generalizing s with
  | zero => exact ⟨[], .stay s⟩
  | succ count ih =>
    simp only [drain]
    cases h : s.due? horizon with
    | none => exact ⟨[], .stay s⟩
    | some found =>
      obtain ⟨a, armed⟩ := found
      obtain ⟨as, has⟩ := ih (armed.fire a)
      exact ⟨a :: as, .step h has⟩

theorem due?_drain (early : horizon < Instant.last) (count : Nat) (s : Stage)
    (enough : s.schedule.pending horizon ≤ count) : (drain horizon count s).due? horizon = none := by
  induction count generalizing s with
  | zero =>
    cases h : s.due? horizon with
    | none => exact h
    | some found =>
      have hless := pending_fire_due early h
      omega
  | succ count ih =>
    simp only [drain]
    cases h : s.due? horizon with
    | none => exact h
    | some found =>
      have hless := pending_fire_due early h
      exact ih _ (by omega)

theorem pump_fires (s : Stage) : ∃ as, Fires s.clock s as s.pump := drain_fires _ _ s

theorem due?_pump (early : s.clock < Instant.last) : s.pump.due? s.clock = none :=
  due?_drain early _ s (by simp [pumpBound])

/-! ### The clock -/

theorem due?_setClock (s : Stage) (now horizon : Nat) :
    (s.setClock now).due? horizon =
      (s.due? horizon).map fun (a, armed) => (a, armed.setClock now) := by
  simp only [due?, setClock, Option.map_map]
  rfl

theorem expireAt_setClock (s : Stage) (now instant : Nat) :
    (s.setClock now).expireAt instant = (s.expireAt instant).setClock now := by
  have hsprites : (s.setClock now).sprites = s.sprites := rfl
  unfold expireAt
  rw [hsprites]
  split <;> rfl

theorem tickWork_setClock (s : Stage) (now instant : Nat) :
    (s.setClock now).tickWork instant = (s.tickWork instant).setClock now := by
  have hcheck : (s.setClock now).tickCheck instant = s.tickCheck instant := rfl
  unfold tickWork
  rw [hcheck]
  split <;> rfl

theorem fire_setClock (s : Stage) (now : Nat) (a : Activation) :
    (s.setClock now).fire a = (s.fire a).setClock now := by
  have hidle : ∀ r : Stage, (r.setClock now).allIdle = r.allIdle := fun r => rfl
  cases a with
  | tick instant =>
    simp only [fire, tick, tickWork_setClock, hidle]
    split <;> rfl
  | frame instant =>
    simp only [fire, frame, expireAt_setClock, hidle]
    split <;> rfl

theorem Fires.setClock (now : Nat) (h : Fires horizon s as t) :
    Fires horizon (s.setClock now) as (t.setClock now) := by
  induction h with
  | stay s => exact .stay _
  | step hdue hrest ih =>
    refine .step (by rw [due?_setClock, hdue]; rfl) ?_
    rw [fire_setClock]
    exact ih

/-! ### Sampling the clock -/

def pumpAt (s : Stage) (now : Nat) : Stage := (s.setClock now).pump

theorem pumpAt_eq {now : Nat} (early : now < Instant.last) (h : Fires now s as t)
    (hend : t.due? now = none) : s.pumpAt now = t.setClock now := by
  obtain ⟨bs, hpump⟩ := pump_fires (s.setClock now)
  have hdone := due?_pump (s := s.setClock now) early
  have hclock : (t.setClock now).due? now = none := by rw [due?_setClock, hend]; rfl
  exact (hpump.unique hdone (h.setClock now) hclock).2

theorem exists_fires_pumpAt {now : Nat} (early : now < Instant.last) (s : Stage) :
    ∃ as t, Fires now s as t ∧ t.due? now = none ∧ s.pumpAt now = t.setClock now := by
  obtain ⟨as, hpump⟩ := pump_fires (s.setClock now)
  have hend : (s.pumpAt now).due? now = none := due?_pump (s := s.setClock now) early
  have hdone : ((s.pumpAt now).setClock s.clock).due? now = none := by
    rw [due?_setClock, hend]
    rfl
  have hfires : Fires now s as ((s.pumpAt now).setClock s.clock) := hpump.setClock s.clock
  exact ⟨as, _, hfires, hdone, pumpAt_eq early hfires hdone⟩

/-- A pump at an earlier reading is made up for by a later one, and one at a later reading leaves
nothing to an earlier one. -/
theorem pumpAt_pumpAt {first second : Nat} (hfirst : first < Instant.last)
    (hsecond : second < Instant.last) (s : Stage) :
    (s.pumpAt first).pumpAt second = (s.pumpAt (max first second)).setClock second := by
  obtain ⟨as, t, hfires, hdone, ht⟩ := exists_fires_pumpAt hfirst s
  have hreset : (s.pumpAt first).pumpAt second = t.pumpAt second := by rw [ht]; rfl
  rcases Nat.le_total first second with h | h
  · obtain ⟨bs, u, hmore, hrest, hu⟩ := exists_fires_pumpAt hsecond t
    -- The first pump has done the beginning of what the second would have done.
    have hboth : s.pumpAt second = u.setClock second :=
      pumpAt_eq hsecond ((hfires.mono h).append hmore) hrest
    rw [hreset, Nat.max_eq_right h, hboth, hu]
    rfl
  · have hnothing : t.pumpAt second = t.setClock second :=
      pumpAt_eq hsecond (.stay t) (due?_none_of_le h hdone)
    rw [hreset, Nat.max_eq_left h, ht, hnothing]
    rfl

/-- Readings of the clock may come in any number, order and distance: in the end the stage is the one
that a single pump at the latest of them gives, except that its clock shows the last one. -/
theorem foldl_pumpAt (s : Stage) (readings : List Nat) (nonempty : readings ≠ [])
    (early : ∀ now ∈ readings, now < Instant.last) :
    readings.foldl pumpAt s =
      (s.pumpAt (readings.max nonempty)).setClock (readings.getLast nonempty) := by
  obtain ⟨first, rest, rfl⟩ := List.exists_cons_of_ne_nil nonempty
  induction rest generalizing first with
  | nil =>
    obtain ⟨as, t, -, -, ht⟩ := exists_fires_pumpAt (early first (by simp)) s
    simp only [List.foldl_cons, List.foldl_nil, List.max_singleton, List.getLast_singleton]
    rw [ht]
    rfl
  | cons second rest ih =>
    have hfirst := early first (by simp)
    have hsecond := early second (by simp)
    have hpair := pumpAt_pumpAt hfirst hsecond s
    cases rest with
    | nil => simpa [List.max_cons_cons_nil] using hpair
    | cons third rest =>
      have hearly : ∀ now ∈ max first second :: third :: rest, now < Instant.last := by
        intro now hnow
        rcases List.mem_cons.1 hnow with rfl | h
        · omega
        · exact early now (List.mem_cons_of_mem _ (List.mem_cons_of_mem _ h))
      have hfold := ih (max first second) (by simp) hearly
      simp only [List.foldl_cons, List.max_cons_cons, List.getLast_cons_cons] at hfold ⊢
      rw [hpair]
      exact hfold

def overlapping (config : Config) : Stage :=
  Operation.applyAll [.edit (.append (.act ⟨2⟩ false (.move 1 0))), .createSprite, .start]
    (.new 0 config)

theorem foldl_pumpAt_overlapping :
    let s := overlapping { tickInterval := 3, frameInterval := 20, collisionCooldown := 7 }
    let readings := [10, 3, 14, 40, 5]
    readings ≠ [] ∧ (∀ now ∈ readings, now < Instant.last) ∧
      readings.foldl pumpAt s = (s.pumpAt 40).setClock 5 := by
  intro s readings
  have nonempty : readings ≠ [] := by decide
  have early : ∀ now ∈ readings, now < Instant.last := by decide
  exact ⟨nonempty, early, foldl_pumpAt s readings nonempty early⟩

example :
    let s := overlapping { tickInterval := 3, frameInterval := 20, collisionCooldown := 7 }
    (s.pumpAt 10).isRunning = true ∧ (s.pumpAt 14).isRunning = false ∧
      (s.pumpAt 40).stats = ⟨4, 2⟩ := by decide

end SpriteStage.Stage
