import SpriteStage.Sprite.Execute
/-!
The meaning of a block. Written out with all its rounds, a block is a plain sequence of actions, each
of them inside some number of loops. Running the block performs this sequence from left to right,
without the actions that lie inside too many loops.
-/

namespace SpriteStage

structure Occurrence where
  action : Action
  loops : Nat
deriving DecidableEq

def perform (now : Nat) (s : SpriteState) (actions : List Action) : SpriteState :=
  actions.foldl (Action.apply now) s

theorem perform_append (now : Nat) (s : SpriteState) (first second : List Action) :
    perform now s (first ++ second) = perform now (perform now s first) second :=
  List.foldl_append

theorem perform_replicate (now n : Nat) (s : SpriteState) (actions : List Action) :
    perform now s (List.replicate n actions).flatten =
      Nat.repeat (fun s => perform now s actions) n s := by
  induction n with
  | zero => rfl
  | succ n ih =>
    rw [List.replicate_succ', List.flatten_append, perform_append, ih]
    simp [Nat.repeat]

namespace Block

mutual

/-- A block inside some loops, with all its rounds written out. A loop without a count has one
round. -/
def unrolled (loops : Nat) : Block → List Occurrence
  | act _ _ action => [⟨action, loops⟩]
  | loop _ _ count body =>
    (List.replicate (count.getD 1) (unrolledAll (loops + 1) body)).flatten

def unrolledAll (loops : Nat) : List Block → List Occurrence
  | [] => []
  | b :: bs => b.unrolled loops ++ unrolledAll loops bs

end

def actions (b : Block) : List Action := (b.unrolled 0).map Occurrence.action

def within (limit : Nat) (occurrences : List Occurrence) : List Action :=
  (occurrences.filter fun o => o.loops ≤ limit).map Occurrence.action

theorem within_append (limit : Nat) (first second : List Occurrence) :
    within limit (first ++ second) = within limit first ++ within limit second := by
  simp [within]

theorem within_replicate (limit n : Nat) (occurrences : List Occurrence) :
    within limit (List.replicate n occurrences).flatten =
      (List.replicate n (within limit occurrences)).flatten := by
  induction n with
  | zero => rfl
  | succ n ih => rw [List.replicate_succ, List.flatten_cons, within_append, ih,
      List.replicate_succ, List.flatten_cons]

theorem within_eq_nil {limit : Nat} {occurrences : List Occurrence}
    (h : ∀ o ∈ occurrences, limit < o.loops) : within limit occurrences = [] := by
  rw [within, List.filter_eq_nil_iff.2, List.map_nil]
  intro o ho
  simpa using h o ho

theorem within_eq_map {limit : Nat} {occurrences : List Occurrence}
    (h : ∀ o ∈ occurrences, o.loops ≤ limit) :
    within limit occurrences = occurrences.map Occurrence.action := by
  rw [within, List.filter_eq_self.2]
  intro o ho
  simpa using h o ho

mutual

theorem loops_of_mem_unrolled : ∀ (b : Block) (loops : Nat), ∀ o ∈ b.unrolled loops,
    loops ≤ o.loops ∧ o.loops ≤ loops + b.nestingDepth
  | act _ _ action, loops, o, ho => by
    rw [unrolled, List.mem_singleton] at ho
    simp [ho, nestingDepth]
  | loop _ _ count body, loops, o, ho => by
    rw [unrolled, List.mem_flatten] at ho
    obtain ⟨round, hround, hmem⟩ := ho
    rw [List.eq_of_mem_replicate hround] at hmem
    have hbody := loops_of_mem_unrolledAll body (loops + 1) o hmem
    rw [nestingDepth]
    omega

theorem loops_of_mem_unrolledAll : ∀ (bs : List Block) (loops : Nat), ∀ o ∈ unrolledAll loops bs,
    loops ≤ o.loops ∧ o.loops ≤ loops + deepest bs
  | [], _, _, ho => by simp [unrolledAll] at ho
  | b :: bs, loops, o, ho => by
    rw [unrolledAll, List.mem_append] at ho
    rw [deepest]
    rcases ho with h | h
    · have hfirst := loops_of_mem_unrolled b loops o h
      omega
    · have hrest := loops_of_mem_unrolledAll bs loops o h
      omega

end

theorem run_loop (now depth : Nat) (s : SpriteState) (id : BlockId) (executed : Bool)
    (count : Option Nat) (body : List Block) :
    (loop id executed count body).run now depth s =
      if maxNesting < depth then s
      else Nat.repeat (fun s => runAll now (depth + 1) s body) (count.getD 1) s := by
  cases body with
  | nil =>
    have hnothing : ∀ n, Nat.repeat (fun s => runAll now (depth + 1) s []) n s = s := by
      intro n
      induction n with
      | zero => rfl
      | succ n ih => rw [Nat.repeat, ih, runAll]
    rw [run, hnothing]
  | cons b bs => rw [run]

mutual

theorem run_eq_perform (now : Nat) : ∀ (b : Block) (depth : Nat) (s : SpriteState),
    b.run now depth s = perform now s (within maxNesting (b.unrolled depth))
  | act id executed action, depth, s => by
    rw [run]
    split
    · rename_i h
      have hnil : within maxNesting ((act id executed action).unrolled depth) = [] :=
        within_eq_nil fun o ho => Nat.lt_of_lt_of_le h (loops_of_mem_unrolled _ _ o ho).1
      rw [hnil]
      rfl
    · rename_i h
      simp [unrolled, within, Nat.not_lt.1 h, perform]
  | loop id executed count body, depth, s => by
    rw [run_loop]
    split
    · rename_i h
      -- Whatever is inside a loop that lies too deep lies too deep as well.
      have hnil : within maxNesting ((loop id executed count body).unrolled depth) = [] :=
        within_eq_nil fun o ho => Nat.lt_of_lt_of_le h (loops_of_mem_unrolled _ _ o ho).1
      rw [hnil]
      rfl
    · have hround : (fun s => runAll now (depth + 1) s body) =
          fun s => perform now s (within maxNesting (unrolledAll (depth + 1) body)) :=
        funext fun s => runAll_eq_perform now body (depth + 1) s
      rw [unrolled, within_replicate, perform_replicate, hround]

theorem runAll_eq_perform (now : Nat) : ∀ (bs : List Block) (depth : Nat) (s : SpriteState),
    runAll now depth s bs = perform now s (within maxNesting (unrolledAll depth bs))
  | [], _, _ => rfl
  | b :: bs, depth, s => by
    rw [runAll, runAll_eq_perform now bs, run_eq_perform now b, unrolledAll, within_append,
      perform_append]

end

/-- The run of a block is its unrolled text, performed from left to right: the actions inside more
loops than the limit are left out, and where the block is not nested as deep as that there are
none. -/
theorem execute_eq_perform (now : Nat) (b : Block) (s : SpriteState) :
    b.execute now s = perform now s (within maxNesting (b.unrolled 0)) ∧
      (b.nestingDepth ≤ maxNesting → b.execute now s = perform now s b.actions) := by
  have hrun : b.execute now s = perform now s (within maxNesting (b.unrolled 0)) :=
    run_eq_perform now b 0 s
  refine ⟨hrun, fun hdepth => ?_⟩
  rw [hrun, actions, within_eq_map]
  intro o ho
  have hloops := (loops_of_mem_unrolled b 0 o ho).2
  omega

theorem execute_eq_perform_rounds :
    let b : Block := .loop ⟨1⟩ false (some 2)
      [.act ⟨2⟩ false (.move 1 0), .loop ⟨3⟩ false none [.act ⟨4⟩ false (.turn 15 .clockwise)],
        .loop ⟨5⟩ false (some 0) [.act ⟨6⟩ false (.goTo 7 7)]]
    b.nestingDepth ≤ maxNesting ∧
      ∀ s, b.execute 0 s =
        perform 0 s [.move 1 0, .turn 15 .clockwise, .move 1 0, .turn 15 .clockwise] := by
  intro b
  have shallow : b.nestingDepth ≤ maxNesting := by decide
  exact ⟨shallow, fun s => (execute_eq_perform 0 b s).2 shallow⟩

end Block

end SpriteStage
