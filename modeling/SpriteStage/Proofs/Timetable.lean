import Mathlib.Data.Nat.Order.Lemmas
import SpriteStage.Proofs.Due
/-!
The timetable of a run: all ticks and all frames that the intervals call for, in the order of their
instants, a tick before a frame at the same one. A schedule yields this list from its beginning, an
entry at a time and none out of turn, whatever horizons it is asked for and in whatever order.

The list is made by counting how many ticks and frames have been, and taking whichever comes next.
A schedule counts nothing; its tasks know only when they are due, and that is capped at the end of
time. Up to there the two agree.
-/

namespace SpriteStage

namespace Activation

def Before : Activation → Activation → Prop
  | .tick t, .frame u => t ≤ u
  | a, b => a.instant < b.instant

theorem Before.trans {a b c : Activation} (h : a.Before b) (h' : b.Before c) : a.Before c := by
  cases a <;> cases b <;> cases c <;> simp only [Before, instant] at h h' ⊢ <;> omega

end Activation

/-- What a run calls for: a tick and a frame at every multiple of their steps from the start on. -/
inductive Planned (start tickStep frameStep : Nat) : Activation → Prop
  | tick (k : Nat) : Planned start tickStep frameStep (.tick (start + (k + 1) * tickStep))
  | frame (k : Nat) : Planned start tickStep frameStep (.frame (start + (k + 1) * frameStep))

/-- A list without end of all that a run calls for, each once and in order. -/
structure Timetable (start tickStep frameStep : Nat) (entry : Nat → Activation) : Prop where
  ordered : ∀ m n, m < n → (entry m).Before (entry n)
  listed : ∀ a, (∃ n, entry n = a) ↔ Planned start tickStep frameStep a

structure Tally where
  ticks : Nat
  frames : Nat

namespace Tally

def frameFirst (tickStep frameStep : Nat) (c : Tally) : Bool :=
  (c.frames + 1) * frameStep < (c.ticks + 1) * tickStep

def reached (tickStep frameStep : Nat) : Nat → Tally
  | 0 => ⟨0, 0⟩
  | n + 1 =>
    let c := reached tickStep frameStep n
    if c.frameFirst tickStep frameStep then ⟨c.ticks, c.frames + 1⟩ else ⟨c.ticks + 1, c.frames⟩

def next (start tickStep frameStep : Nat) (c : Tally) : Activation :=
  if c.frameFirst tickStep frameStep then .frame (start + (c.frames + 1) * frameStep)
  else .tick (start + (c.ticks + 1) * tickStep)

variable {start tickStep frameStep : Nat}

theorem reached_sum (tickStep frameStep n : Nat) :
    (reached tickStep frameStep n).ticks + (reached tickStep frameStep n).frames = n := by
  induction n with
  | zero => rfl
  | succ n ih =>
    simp only [reached]
    split <;> simp only <;> omega

/-- Neither task runs ahead: the last tick is not after the next frame, and the last frame is before
the next tick. -/
theorem reached_balanced (frameStep : Nat) (htick : 0 < tickStep) (n : Nat) :
    (reached tickStep frameStep n).ticks * tickStep ≤
        ((reached tickStep frameStep n).frames + 1) * frameStep ∧
      (reached tickStep frameStep n).frames * frameStep <
        ((reached tickStep frameStep n).ticks + 1) * tickStep := by
  induction n with
  | zero => simpa [reached] using htick
  | succ n ih =>
    simp only [reached]
    generalize reached tickStep frameStep n = c at ih
    have htick' : (c.ticks + 1 + 1) * tickStep = (c.ticks + 1) * tickStep + tickStep :=
      Nat.succ_mul _ _
    have hframe' : (c.frames + 1 + 1) * frameStep = (c.frames + 1) * frameStep + frameStep :=
      Nat.succ_mul _ _
    by_cases h : c.frameFirst tickStep frameStep
    · rw [if_pos h]
      simp only [frameFirst, decide_eq_true_eq] at h ⊢
      omega
    · rw [if_neg h]
      simp only [frameFirst, decide_eq_true_eq] at h ⊢
      omega

theorem next_before_next (htick : 0 < tickStep) (hframe : 0 < frameStep) (n : Nat) :
    ((reached tickStep frameStep n).next start tickStep frameStep).Before
      ((reached tickStep frameStep (n + 1)).next start tickStep frameStep) := by
  simp only [reached]
  generalize reached tickStep frameStep n = c
  have htick' : (c.ticks + 1 + 1) * tickStep = (c.ticks + 1) * tickStep + tickStep :=
    Nat.succ_mul _ _
  have hframe' : (c.frames + 1 + 1) * frameStep = (c.frames + 1) * frameStep + frameStep :=
    Nat.succ_mul _ _
  by_cases h : c.frameFirst tickStep frameStep
  · rw [if_pos h, next, if_pos h, next]
    simp only [frameFirst, decide_eq_true_eq] at h ⊢
    split <;> simp only [Activation.Before, Activation.instant] <;> omega
  · rw [if_neg h, next, if_neg h, next]
    simp only [frameFirst, decide_eq_true_eq] at h ⊢
    split <;> simp only [Activation.Before, Activation.instant] <;> omega

theorem exists_turn {f : Nat → Nat} (hzero : f 0 = 0) (hstep : ∀ n, f (n + 1) ≤ f n + 1) {k m : Nat}
    (h : k < f m) : ∃ n, f n = k ∧ f (n + 1) = k + 1 := by
  have hstart : ¬ k < f 0 := by omega
  obtain ⟨n, hbefore, hafter⟩ :=
    Nat.exists_not_and_succ_of_not_zero_of_exists (p := fun n => k < f n) hstart ⟨m, h⟩
  have hn := hstep n
  exact ⟨n, by omega, by omega⟩

theorem ticks_reached_step (tickStep frameStep n : Nat) :
    (reached tickStep frameStep (n + 1)).ticks =
      (reached tickStep frameStep n).ticks +
        if (reached tickStep frameStep n).frameFirst tickStep frameStep then 0 else 1 := by
  simp only [reached]
  split <;> rfl

theorem frames_reached_step (tickStep frameStep n : Nat) :
    (reached tickStep frameStep (n + 1)).frames =
      (reached tickStep frameStep n).frames +
        if (reached tickStep frameStep n).frameFirst tickStep frameStep then 1 else 0 := by
  simp only [reached]
  split <;> rfl

theorem lt_ticks_reached (htick : 0 < tickStep) (hframe : 0 < frameStep) (k : Nat) :
    k < (reached tickStep frameStep (k + (k + 1) * tickStep)).ticks := by
  have hsum := reached_sum tickStep frameStep (k + (k + 1) * tickStep)
  have hbalanced := (reached_balanced frameStep htick (k + (k + 1) * tickStep)).2
  generalize reached tickStep frameStep (k + (k + 1) * tickStep) = c at hsum hbalanced
  refine Nat.lt_of_not_le fun hle => ?_
  have hframes : c.frames ≤ c.frames * frameStep := Nat.le_mul_of_pos_right _ hframe
  have hticks : (c.ticks + 1) * tickStep ≤ (k + 1) * tickStep :=
    Nat.mul_le_mul_right _ (Nat.succ_le_succ hle)
  omega

theorem lt_frames_reached (htick : 0 < tickStep) (frameStep k : Nat) :
    k < (reached tickStep frameStep (k + (k + 1) * frameStep + 1)).frames := by
  have hsum := reached_sum tickStep frameStep (k + (k + 1) * frameStep + 1)
  have hbalanced := (reached_balanced frameStep htick (k + (k + 1) * frameStep + 1)).1
  generalize reached tickStep frameStep (k + (k + 1) * frameStep + 1) = c at hsum hbalanced
  refine Nat.lt_of_not_le fun hle => ?_
  have hticks : c.ticks ≤ c.ticks * tickStep := Nat.le_mul_of_pos_right _ htick
  have hframes : (c.frames + 1) * frameStep ≤ (k + 1) * frameStep :=
    Nat.mul_le_mul_right _ (Nat.succ_le_succ hle)
  omega

theorem exists_next_tick (htick : 0 < tickStep) (hframe : 0 < frameStep) (k : Nat) :
    ∃ n, (reached tickStep frameStep n).next start tickStep frameStep =
      .tick (start + (k + 1) * tickStep) := by
  have hstep : ∀ n, (reached tickStep frameStep (n + 1)).ticks ≤
      (reached tickStep frameStep n).ticks + 1 := by
    intro n
    rw [ticks_reached_step]
    split <;> omega
  obtain ⟨n, hn, hafter⟩ := exists_turn (f := fun n => (reached tickStep frameStep n).ticks) rfl
    hstep (lt_ticks_reached htick hframe k)
  refine ⟨n, ?_⟩
  rw [ticks_reached_step, hn] at hafter
  have hturn : ¬ (reached tickStep frameStep n).frameFirst tickStep frameStep := by
    intro h
    simp [h] at hafter
  rw [next, if_neg hturn, hn]

theorem exists_next_frame (htick : 0 < tickStep) (k : Nat) :
    ∃ n, (reached tickStep frameStep n).next start tickStep frameStep =
      .frame (start + (k + 1) * frameStep) := by
  have hstep : ∀ n, (reached tickStep frameStep (n + 1)).frames ≤
      (reached tickStep frameStep n).frames + 1 := by
    intro n
    rw [frames_reached_step]
    split <;> omega
  obtain ⟨n, hn, hafter⟩ := exists_turn (f := fun n => (reached tickStep frameStep n).frames) rfl
    hstep (lt_frames_reached htick frameStep k)
  refine ⟨n, ?_⟩
  rw [frames_reached_step, hn] at hafter
  have hturn : (reached tickStep frameStep n).frameFirst tickStep frameStep := by
    by_contra h
    simp [h] at hafter
  rw [next, if_pos hturn, hn]

theorem timetable (start : Nat) (htick : 0 < tickStep) (hframe : 0 < frameStep) :
    Timetable start tickStep frameStep
      fun n => (reached tickStep frameStep n).next start tickStep frameStep := by
  constructor
  · intro m n hmn
    induction hmn with
    | refl => exact next_before_next htick hframe m
    | step _ ih => exact ih.trans (next_before_next htick hframe _)
  · intro a
    constructor
    · rintro ⟨n, rfl⟩
      simp only [next]
      split
      · exact .frame _
      · exact .tick _
    · rintro (k | k)
      · exact exists_next_tick htick hframe k
      · exact exists_next_frame htick k

end Tally

namespace Timers

structure Stands (start tickStep frameStep n : Nat) (t : Timers) : Prop where
  tickInterval : t.tick.interval = tickStep
  frameInterval : t.frame.interval = frameStep
  tickDue : t.tick.due =
    Instant.after start (((Tally.reached tickStep frameStep n).ticks + 1) * tickStep)
  frameDue : t.frame.due =
    Instant.after start (((Tally.reached tickStep frameStep n).frames + 1) * frameStep)

variable {start tickStep frameStep n horizon : Nat} {t : Timers}

theorem stands_start (start tickInterval frameInterval : Nat) :
    Stands start (max tickInterval 1) (max frameInterval 1) 0
      ⟨.startingAt start tickInterval, .startingAt start frameInterval⟩ := by
  constructor <;> simp [Periodic.startingAt, Tally.reached]

theorem Stands.next (h : t.Stands start tickStep frameStep n) (early : horizon < Instant.last)
    (hdue : t.next.1.instant ≤ horizon) :
    t.next.1 = (Tally.reached tickStep frameStep n).next start tickStep frameStep ∧
      t.next.2.Stands start tickStep frameStep (n + 1) := by
  obtain ⟨htickInterval, hframeInterval, htickDue, hframeDue⟩ := h
  have hticked := Periodic.due_fired htickDue
  have hframed := Periodic.due_fired hframeDue
  rw [htickInterval, ← Nat.succ_mul] at hticked
  rw [hframeInterval, ← Nat.succ_mul] at hframed
  have hmin : min t.tick.due t.frame.due ≤ horizon := instant_next t ▸ hdue
  by_cases hfirst : (Tally.reached tickStep frameStep n).frameFirst tickStep frameStep
  · have hcompare := hfirst
    simp only [Tally.frameFirst, decide_eq_true_eq] at hcompare
    have hlt : t.frame.due < t.tick.due ∧
        t.frame.due = start + ((Tally.reached tickStep frameStep n).frames + 1) * frameStep := by
      simp only [Instant.after] at htickDue hframeDue
      omega
    rw [next_of_frame hlt.1]
    refine ⟨?_, htickInterval, hframeInterval, ?_, ?_⟩
    · rw [Tally.next, if_pos hfirst, hlt.2]
    · simpa [Tally.reached, hfirst] using htickDue
    · simpa [Tally.reached, hfirst] using hframed
  · have hcompare := hfirst
    simp only [Tally.frameFirst, decide_eq_true_eq] at hcompare
    have hle : t.tick.due ≤ t.frame.due ∧
        t.tick.due = start + ((Tally.reached tickStep frameStep n).ticks + 1) * tickStep := by
      simp only [Instant.after] at htickDue hframeDue
      omega
    rw [next_of_tick hle.1]
    refine ⟨?_, htickInterval, hframeInterval, ?_, ?_⟩
    · rw [Tally.next, if_neg hfirst, hle.2]
    · simpa [Tally.reached, hfirst] using hticked
    · simpa [Tally.reached, hfirst] using hframeDue

theorem Stands.lt_instant_next (h : t.Stands start tickStep frameStep n)
    (early : horizon < Instant.last) :
    horizon < t.next.1.instant ↔
      horizon < ((Tally.reached tickStep frameStep n).next start tickStep frameStep).instant := by
  have htickDue := h.tickDue
  have hframeDue := h.frameDue
  simp only [Instant.after] at htickDue hframeDue
  rw [instant_next, Tally.next]
  split
  · rename_i hfirst
    simp only [Tally.frameFirst, decide_eq_true_eq] at hfirst
    simp only [Activation.instant]
    omega
  · rename_i hfirst
    simp only [Tally.frameFirst, decide_eq_true_eq] at hfirst
    simp only [Activation.instant]
    omega

end Timers

namespace Schedule

def poll : List Nat → Schedule → List Activation × Schedule
  | [], s => ([], s)
  | horizon :: horizons, s =>
    match s.next? horizon with
    | some (a, rest) =>
      let (as, later) := poll horizons rest
      (a :: as, later)
    | none => poll horizons s

def Stands (start tickStep frameStep n : Nat) (s : Schedule) : Prop :=
  ∃ t, s.timers = some t ∧ t.Stands start tickStep frameStep n

variable {start tickStep frameStep n horizon : Nat} {s rest : Schedule} {a : Activation}

theorem poll_of_idle (h : s.isRunning = false) (horizons : List Nat) :
    poll horizons s = ([], s) := by
  induction horizons with
  | nil => rfl
  | cons horizon horizons ih => simp [poll, next?_of_idle h, ih]

theorem poll_append_none (horizons : List Nat) (s : Schedule)
    (h : (poll horizons s).2.next? horizon = none) :
    poll (horizons ++ [horizon]) s = poll horizons s := by
  induction horizons generalizing s with
  | nil =>
    rw [poll] at h
    simp [poll, h]
  | cons first horizons ih =>
    rw [List.cons_append, poll]
    rw [poll] at h ⊢
    cases hnext : s.next? first with
    | none =>
      rw [hnext] at h
      exact ih s h
    | some found =>
      obtain ⟨a, rest⟩ := found
      rw [hnext] at h
      simp only [ih rest h]

theorem stands_start (h : s.isRunning = false) (start : Nat) :
    (s.start start).Stands start (max s.tickInterval 1) (max s.frameInterval 1) 0 := by
  refine ⟨_, ?_, Timers.stands_start start s.tickInterval s.frameInterval⟩
  simp [Schedule.start, h]

theorem Stands.isRunning (h : s.Stands start tickStep frameStep n) : s.isRunning = true := by
  obtain ⟨t, ht, -⟩ := h
  simp [Schedule.isRunning, ht]

theorem Stands.next (h : s.Stands start tickStep frameStep n) (early : horizon < Instant.last)
    (hnext : s.next? horizon = some (a, rest)) :
    a = (Tally.reached tickStep frameStep n).next start tickStep frameStep ∧
      rest.Stands start tickStep frameStep (n + 1) := by
  obtain ⟨t, ht, hstands⟩ := h
  obtain ⟨u, hu, rfl, hdue, rfl⟩ := next?_eq_some.1 hnext
  obtain rfl : t = u := Option.some.inj (ht.symm.trans hu)
  obtain ⟨hentry, hafter⟩ := hstands.next early hdue
  exact ⟨hentry, _, rfl, hafter⟩

theorem Stands.next?_eq_none (h : s.Stands start tickStep frameStep n)
    (early : horizon < Instant.last) :
    s.next? horizon = none ↔
      horizon < ((Tally.reached tickStep frameStep n).next start tickStep frameStep).instant := by
  obtain ⟨t, ht, hstands⟩ := h
  rw [Schedule.next?_eq_none, ht, ← hstands.lt_instant_next early]
  simp

theorem Stands.poll (h : s.Stands start tickStep frameStep n) (horizons : List Nat)
    (early : ∀ horizon ∈ horizons, horizon < Instant.last) :
    (poll horizons s).1 = (List.range' n (poll horizons s).1.length).map
        (fun m => (Tally.reached tickStep frameStep m).next start tickStep frameStep) ∧
      (poll horizons s).2.Stands start tickStep frameStep (n + (poll horizons s).1.length) := by
  induction horizons generalizing s n with
  | nil => exact ⟨rfl, h⟩
  | cons horizon horizons ih =>
    have hearly := early horizon (by simp)
    have hlater : ∀ later ∈ horizons, later < Instant.last :=
      fun later hmem => early later (List.mem_cons_of_mem _ hmem)
    rw [Schedule.poll]
    cases hnext : s.next? horizon with
    | none => exact ih h hlater
    | some found =>
      obtain ⟨a, rest⟩ := found
      obtain ⟨hentry, hafter⟩ := h.next hearly hnext
      obtain ⟨hyield, hstands⟩ := ih hafter hlater
      refine ⟨?_, ?_⟩
      · simp only [List.length_cons, List.range'_succ, List.map_cons, ← hyield, ← hentry]
      · simpa only [List.length_cons, Nat.add_assoc, Nat.add_comm 1] using hstands

/-- From a start on, what a schedule yields is the beginning of the timetable, whatever horizons it
is asked for: it declines when the next entry lies beyond the horizon and only then, and is not
changed by that, nor by another start. At rest, before a start or after a stop, it yields nothing. -/
theorem poll_follows_timetable (s : Schedule) (idle : s.isRunning = false) (start : Nat) :
    (∀ horizons, poll horizons s = ([], s)) ∧
      ∃ entry, Timetable start (max s.tickInterval 1) (max s.frameInterval 1) entry ∧
        ∀ horizons, (∀ horizon ∈ horizons, horizon < Instant.last) →
          let (yielded, later) := poll horizons (s.start start)
          yielded = (List.range yielded.length).map entry ∧
            (∀ horizon < Instant.last,
              later.next? horizon = none ↔ horizon < (entry yielded.length).instant) ∧
            (∀ horizon, later.next? horizon = none →
              poll (horizons ++ [horizon]) (s.start start) = (yielded, later)) ∧
            (∀ again, later.start again = later) ∧
            ∀ horizons, poll horizons later.stop = ([], later.stop) := by
  refine ⟨poll_of_idle idle, _, Tally.timetable start (by omega) (by omega), ?_⟩
  intro horizons early
  obtain ⟨hyield, hstands⟩ := (stands_start idle start).poll horizons early
  rw [Nat.zero_add] at hstands
  rw [← List.range_eq_range'] at hyield
  refine ⟨hyield, fun horizon h => hstands.next?_eq_none h, ?_, ?_, ?_⟩
  · intro horizon h
    exact poll_append_none horizons _ h
  · intro again
    rw [Schedule.start, if_pos hstands.isRunning]
  · exact poll_of_idle (isRunning_stop _)

theorem poll_follows_timetable_from_ten :
    let s : Schedule := ⟨3, 2, none⟩
    let horizons := [16, 3, 16, 13, 16, 16]
    s.isRunning = false ∧ (∀ horizon ∈ horizons, horizon < Instant.last) ∧
      ∃ entry, Timetable 10 3 2 entry ∧
        (poll horizons (s.start 10)).1 = [.frame 12, .tick 13, .frame 14, .tick 16] ∧
        (List.range 4).map entry = [.frame 12, .tick 13, .frame 14, .tick 16] := by
  intro s horizons
  have idle : s.isRunning = false := by decide
  have early : ∀ horizon ∈ horizons, horizon < Instant.last := by decide
  obtain ⟨-, entry, htimetable, hpoll⟩ := poll_follows_timetable s idle 10
  have hyield : [.frame 12, .tick 13, .frame 14, .tick 16] = (List.range 4).map entry :=
    (hpoll horizons early).1
  exact ⟨idle, early, entry, htimetable, by decide, hyield.symm⟩

end Schedule

end SpriteStage
