import SpriteStage.Proofs.Unrolling
/-!
What the run of a block reports. The run goes through the unrolled text and comes upon its blocks in
their order, on a loop before its body and on the body once for every round. Each encounter makes a
report of its own, so the log of the run is these reports, one after the other; the state and the
instant have no part in it.
-/

namespace SpriteStage

theorem flatMap_flatten_replicate {α β : Type} (f : α → List β) (n : Nat) (xs : List α) :
    (List.replicate n xs).flatten.flatMap f = (List.replicate n (xs.flatMap f)).flatten := by
  rw [List.flatMap_def, List.map_flatten, List.map_replicate, List.flatten_flatten,
    List.map_replicate, ← List.flatMap_def]

structure Encounter where
  block : Block
  loops : Nat

def Event.withLevel (e : Event) : Level × Event := (e.level, e)

namespace Encounter

/-- The report of an encounter: events with their levels. A block that runs says that it does, and
after that, if nobody knows it, that as well. A block one level too deep says that it is passed over,
and one further down says nothing. -/
def report (e : Encounter) : List (Level × Event) :=
  if e.loops ≤ 256 then
    (.trace, .executing e.block) ::
      match e.block with
      | .act id _ (.unknown name) => [(.debug, .unknownBlock id name)]
      | _ => []
  else if e.loops = 257 then [(.debug, .nestedTooDeep e.block.id 257)]
  else []

def occurrence? (e : Encounter) : Option Occurrence :=
  match e.block with
  | .act _ _ action => some ⟨action, e.loops⟩
  | .loop .. => none

theorem report_of_deep {e : Encounter} (h : 257 < e.loops) : e.report = [] := by
  rw [report, if_neg (by omega), if_neg (by omega)]

end Encounter

namespace Block

mutual

/-- What a run comes upon in a block inside some loops, with all rounds written out: the block itself
and then, if it is a loop, what is in its body, once more for each round. -/
def encounters (loops : Nat) : Block → List Encounter
  | act id executed action => [⟨act id executed action, loops⟩]
  | loop id executed count body =>
    ⟨loop id executed count body, loops⟩ ::
      (List.replicate (count.getD 1) (encountersAll (loops + 1) body)).flatten

def encountersAll (loops : Nat) : List Block → List Encounter
  | [] => []
  | b :: bs => b.encounters loops ++ encountersAll loops bs

end

mutual

theorem occurrences_encounters : ∀ (b : Block) (loops : Nat),
    (b.encounters loops).filterMap Encounter.occurrence? = b.unrolled loops
  | act _ _ _, _ => rfl
  | loop id executed count body, loops => by
    rw [encounters, unrolled, List.filterMap_cons_none rfl, List.filterMap_flatten, List.map_replicate,
      occurrences_encountersAll body]

theorem occurrences_encountersAll : ∀ (bs : List Block) (loops : Nat),
    (encountersAll loops bs).filterMap Encounter.occurrence? = unrolledAll loops bs
  | [], _ => rfl
  | b :: bs, loops => by
    rw [encountersAll, unrolledAll, List.filterMap_append, occurrences_encounters b,
      occurrences_encountersAll bs]

end

mutual

theorem le_loops_of_mem_encounters : ∀ (b : Block) (loops : Nat), ∀ e ∈ b.encounters loops,
    loops ≤ e.loops
  | act id executed action, loops => by
    rw [encounters]
    exact List.forall_mem_singleton.2 (Nat.le_refl loops)
  | loop id executed count body, loops => by
    rw [encounters, List.forall_mem_cons]
    refine ⟨Nat.le_refl loops, fun e he => ?_⟩
    obtain ⟨round, hround, hmem⟩ := List.mem_flatten.1 he
    rw [List.eq_of_mem_replicate hround] at hmem
    have hinside := le_loops_of_mem_encountersAll body (loops + 1) e hmem
    omega

theorem le_loops_of_mem_encountersAll : ∀ (bs : List Block) (loops : Nat),
    ∀ e ∈ encountersAll loops bs, loops ≤ e.loops
  | [], _ => nofun
  | b :: bs, loops => by
    rw [encountersAll]
    exact List.forall_mem_append.2
      ⟨le_loops_of_mem_encounters b loops, le_loops_of_mem_encountersAll bs loops⟩

end

theorem events_of_deep {depth : Nat} (h : maxNesting < depth) (b : Block) :
    b.events depth = [.nestedTooDeep b.id depth] := by
  unfold events
  cases b with
  | act => exact if_pos h
  | loop => exact if_pos h

theorem events_loop {depth : Nat} (h : depth ≤ maxNesting) (id : BlockId) (executed : Bool)
    (count : Option Nat) (body : List Block) :
    (loop id executed count body).events depth =
      .executing (loop id executed count body) ::
        (List.replicate (count.getD 1) (eventsOf (depth + 1) body)).flatten := by
  unfold events
  rw [if_neg (Nat.not_lt.2 h)]
  cases body with
  | nil => simp [eventsOf]
  | cons b bs => rfl

theorem report_eq_nil_of_mem_rounds {n : Nat} {body : List Block} :
    ∀ e ∈ (List.replicate n (encountersAll 258 body)).flatten, e.report = [] := by
  intro e he
  obtain ⟨round, hround, hmem⟩ := List.mem_flatten.1 he
  rw [List.eq_of_mem_replicate hround] at hmem
  exact Encounter.report_of_deep (le_loops_of_mem_encountersAll body 258 e hmem)

mutual

-- The bound is part of the induction: inside more loops than this a block would still have an event,
-- but the loop around it is passed over already, so a run never asks for it.
theorem withLevel_events : ∀ (b : Block) {depth : Nat}, depth ≤ 257 →
    (b.events depth).map Event.withLevel = (b.encounters depth).flatMap Encounter.report
  | act id executed action, depth, hdepth => by
    rw [encounters, List.flatMap_singleton]
    by_cases hruns : depth ≤ 256
    · have hrun : ¬ maxNesting < depth := Nat.not_lt.2 hruns
      unfold events Encounter.report
      rw [if_neg hrun, if_pos hruns]
      cases action <;> rfl
    · obtain rfl : depth = 257 := by omega
      rfl
  | loop id executed count body, depth, hdepth => by
    rw [encounters, List.flatMap_cons]
    by_cases hruns : depth ≤ 256
    · rw [events_loop hruns, List.map_cons, List.map_flatten, List.map_replicate,
        withLevel_eventsOf body (Nat.succ_le_succ hruns), flatMap_flatten_replicate,
        Encounter.report, if_pos hruns]
      rfl
    · obtain rfl : depth = 257 := by omega
      rw [List.flatMap_eq_nil_iff.2 report_eq_nil_of_mem_rounds]
      rfl

theorem withLevel_eventsOf : ∀ (bs : List Block) {depth : Nat}, depth ≤ 257 →
    (eventsOf depth bs).map Event.withLevel = (encountersAll depth bs).flatMap Encounter.report
  | [], _, _ => rfl
  | b :: bs, depth, hdepth => by
    rw [eventsOf, encountersAll, List.map_append, List.flatMap_append, withLevel_events b hdepth,
      withLevel_eventsOf bs hdepth]

end

end Block

structure Narration where
  state : SpriteState
  log : List Event

def Narration.tell (n : Narration) (e : Event) : Narration := { n with log := n.log ++ [e] }

namespace Block

mutual

def narrate (now depth : Nat) (n : Narration) : Block → Narration
  | act id executed action =>
    if maxNesting < depth then n.tell (.nestedTooDeep id depth)
    else
      let begun := n.tell (.executing (act id executed action))
      match action with
      | .unknown name => begun.tell (.unknownBlock id name)
      | _ => { begun with state := action.apply now begun.state }
  | loop id executed count body =>
    if maxNesting < depth then n.tell (.nestedTooDeep id depth)
    else
      let begun := n.tell (.executing (loop id executed count body))
      Nat.repeat (fun n => narrateAll now (depth + 1) n body) (count.getD 1) begun

def narrateAll (now depth : Nat) (n : Narration) : List Block → Narration
  | [] => n
  | b :: bs => narrateAll now depth (b.narrate now depth n) bs

end

theorem repeat_narration {f : Narration → Narration} {g : SpriteState → SpriteState}
    {round : List Event} (h : ∀ n, f n = ⟨g n.state, n.log ++ round⟩) (count : Nat) (n : Narration) :
    Nat.repeat f count n =
      ⟨Nat.repeat g count n.state, n.log ++ (List.replicate count round).flatten⟩ := by
  induction count with
  | zero => simp [Nat.repeat]
  | succ count ih =>
    rw [Nat.repeat, ih, h, Nat.repeat, List.replicate_succ', List.flatten_append]
    simp

mutual

theorem narrate_eq (now : Nat) : ∀ (b : Block) (depth : Nat) (n : Narration),
    b.narrate now depth n = ⟨b.run now depth n.state, n.log ++ b.events depth⟩
  | act id executed action, depth, n => by
    unfold narrate run events
    split
    · rfl
    · cases action <;> simp [Narration.tell, Action.apply]
  | loop id executed count body, depth, n => by
    rw [run_loop]
    by_cases hdeep : maxNesting < depth
    · rw [if_pos hdeep, events_of_deep hdeep, narrate, if_pos hdeep]
      rfl
    · have hround : ∀ n, narrateAll now (depth + 1) n body =
          ⟨runAll now (depth + 1) n.state body, n.log ++ eventsOf (depth + 1) body⟩ :=
        narrateAll_eq now body (depth + 1)
      rw [if_neg hdeep, events_loop (Nat.not_lt.1 hdeep), narrate, if_neg hdeep,
        repeat_narration (g := fun s => runAll now (depth + 1) s body) hround]
      simp [Narration.tell]

theorem narrateAll_eq (now : Nat) : ∀ (bs : List Block) (depth : Nat) (n : Narration),
    narrateAll now depth n bs = ⟨runAll now depth n.state bs, n.log ++ eventsOf depth bs⟩
  | [], _, _ => by simp [narrateAll, runAll, eventsOf]
  | b :: bs, depth, n => by
    rw [narrateAll, narrateAll_eq now bs, narrate_eq now b, runAll, eventsOf, List.append_assoc]

end

/-- The log of a run is made of the reports of its encounters, in their order, and these come upon the
actions of the unrolled text. A run that is told while it goes on, from whatever state and at whatever
instant, does to the state what the run does and tells this log. -/
theorem log_mirrors_encounters (b : Block) :
    (Entry.events (.run b)).map Event.withLevel = (b.encounters 0).flatMap Encounter.report ∧
      (b.encounters 0).filterMap Encounter.occurrence? = b.unrolled 0 ∧
      ∀ (now : Nat) (s : SpriteState),
        b.narrate now 0 ⟨s, []⟩ = ⟨b.execute now s, Entry.events (.run b)⟩ := by
  refine ⟨withLevel_events b (Nat.zero_le _), occurrences_encounters b 0, fun now s => ?_⟩
  rw [narrate_eq, List.nil_append]
  rfl

example :
    let jump : Block := .act ⟨2⟩ false (.unknown "jump")
    let twice : Block := .loop ⟨1⟩ false (some 2) [jump]
    Entry.events (.run twice) = [.executing twice, .executing jump, .unknownBlock ⟨2⟩ "jump",
      .executing jump, .unknownBlock ⟨2⟩ "jump"] :=
  rfl

end Block

end SpriteStage
