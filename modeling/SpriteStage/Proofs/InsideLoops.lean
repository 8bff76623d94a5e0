import SpriteStage.Proofs.Targets
/-!
Edits inside a loop. Such an edit goes to the first block that has the identity and is a loop. Blocks
before it that have the identity but are no loops are passed over, and loops after it are not
reached. Of this one block the edit changes nothing but the body, and of the body only the children
that it addresses. An edit that adds no child has done all it can the first time.
-/

namespace SpriteStage

theorem modify_append_cons {α : Type} (before after : List α) (x : α) (f : α → α) :
    (before ++ x :: after).modify before.length f = before ++ f x :: after :=
  List.modifyTailIdx_add (List.modifyHead f) 0 before (x :: after)

def Block.NoLoop (loop : BlockId) (blocks : List Block) : Prop :=
  ∀ b ∈ blocks, b.id = loop → b.isLoop = false

namespace Program

/-- The first loop of a program with an identity, and the blocks that stand before and after it. -/
structure FirstLoop (p : Program) (loop : BlockId) (before : List Block) (executed : Bool)
    (count : Option Nat) (body after : List Block) : Prop where
  blocks_eq : p.blocks = before ++ .loop loop executed count body :: after
  none_before : Block.NoLoop loop before

variable {p : Program} {loop : BlockId} {before body after : List Block} {executed : Bool}
  {count : Option Nat}

theorem noLoop_or_firstLoop (p : Program) (loop : BlockId) :
    Block.NoLoop loop p.blocks ∨
      ∃ before executed count body after, p.FirstLoop loop before executed count body after := by
  cases hfound : p.blocks.find? fun b => b.id = loop && b.isLoop with
  | none =>
    refine Or.inl fun b hb hid => ?_
    have hno := List.find?_eq_none.1 hfound b hb
    simpa [hid] using hno
  | some b =>
    obtain ⟨hb, before, after, hblocks, hbefore⟩ := List.find?_eq_some_iff_append.1 hfound
    cases b with
    | act => simp [Block.isLoop] at hb
    | loop id executed count body =>
      obtain rfl : id = loop := of_decide_eq_true (Bool.and_eq_true_iff.1 hb).1
      refine Or.inr ⟨before, executed, count, body, after, hblocks, fun c hc hid => ?_⟩
      have hno := hbefore c hc
      simpa [hid] using hno

theorem FirstLoop.loopIndex? (h : p.FirstLoop loop before executed count body after) :
    p.loopIndex? loop = some before.length := by
  have hbefore : (before.findIdx? fun b => b.id = loop && b.isLoop) = none := by
    refine List.findIdx?_eq_none_iff.2 fun b hb => ?_
    by_cases hid : b.id = loop
    · simp [h.none_before b hb hid]
    · simp [hid]
  rw [Program.loopIndex?, h.blocks_eq, List.findIdx?_append, hbefore, List.findIdx?_cons]
  simp [Block.id, Block.isLoop]

theorem FirstLoop.editLoop (h : p.FirstLoop loop before executed count body after)
    (edit : List Block → List Block) :
    p.editLoop loop edit = ⟨before ++ .loop loop executed count (edit body) :: after⟩ := by
  simp only [Program.editLoop, h.loopIndex?, h.blocks_eq, modify_append_cons]
  rfl

theorem FirstLoop.refilled (h : p.FirstLoop loop before executed count body after)
    (body' : List Block) :
    FirstLoop ⟨before ++ .loop loop executed count body' :: after⟩ loop before executed count body'
      after :=
  ⟨rfl, h.none_before⟩

end Program

namespace Edit

def loop? : Edit → Option BlockId
  | addToLoop loop _ | updateInLoop loop _ | deleteFromLoop loop _ => some loop
  | append _ | replace .. | delete _ | reorder .. => none

def child? : Edit → Option BlockId
  | updateInLoop _ b => some b.id
  | deleteFromLoop _ target => some target
  | append _ | replace .. | delete _ | addToLoop .. | reorder .. => none

/-- What an edit inside a loop makes of a body. The children that it does not address stay as they
are, in their order. In the place of each one that it addresses comes the block it brings, or none.
An edit that addresses no identity adds what it brings at the end. -/
def refill (e : Edit) (body : List Block) : List Block :=
  (body.filterMap fun c => if e.child? = some c.id then e.block? else some c) ++
    if e.child? = none then e.block?.toList else []

variable {e : Edit} {p : Program} {loop id : BlockId} {before body after : List Block}
  {executed : Bool} {count : Option Nat}

theorem refill_of_child (h : e.child? = some id) (body : List Block) :
    e.refill body = body.filterMap fun c => if c.id = id then e.block? else some c := by
  simp [refill, h, eq_comm]

theorem refill_addToLoop (loop : BlockId) (b : Block) (body : List Block) :
    (addToLoop loop b).refill body = body ++ [b] := by
  simp [refill, child?, block?]

theorem refill_updateInLoop (loop : BlockId) (b : Block) (body : List Block) :
    (updateInLoop loop b).refill body = replaceChildren b.id b body := by
  rw [refill_of_child rfl, replaceChildren, ← List.filterMap_eq_map']
  refine List.filterMap_congr fun c _ => ?_
  rw [apply_ite some]
  rfl

theorem refill_deleteFromLoop (loop target : BlockId) (body : List Block) :
    (deleteFromLoop loop target).refill body = body.filter fun c => c.id ≠ target := by
  rw [refill_of_child rfl, ← List.filterMap_eq_filter]
  refine List.filterMap_congr fun c _ => ?_
  by_cases hc : c.id = target
  · simp [Option.guard, hc, block?]
  · simp [Option.guard, hc]

theorem refill_of_absent (h : e.child? = some id) (absent : Block.Absent id body) :
    e.refill body = body := by
  have hkept : ∀ c ∈ body, (if c.id = id then e.block? else some c) = some c :=
    fun c hc => if_neg (absent c hc)
  rw [refill_of_child h, List.filterMap_congr hkept, List.filterMap_some]

theorem refill_refill (h : e.child? = some id) (body : List Block) :
    e.refill (e.refill body) = e.refill body := by
  rw [refill_of_child h, refill_of_child h, List.filterMap_filterMap]
  refine List.filterMap_congr fun c _ => ?_
  by_cases hc : c.id = id
  · rw [if_pos hc]
    cases e.block? with
    | none => rfl
    | some b => simp
  · simp [hc]

theorem apply_eq_editLoop (inside : e.loop? = some loop) (p : Program) :
    e.apply p = p.editLoop loop e.refill := by
  cases e with
  | addToLoop loop b =>
    cases inside
    exact congrArg (p.editLoop loop) (funext (refill_addToLoop loop b)).symm
  | updateInLoop loop b =>
    cases inside
    exact congrArg (p.editLoop loop) (funext (refill_updateInLoop loop b)).symm
  | deleteFromLoop loop target =>
    cases inside
    exact congrArg (p.editLoop loop) (funext (refill_deleteFromLoop loop target)).symm
  | append | replace | delete | reorder => cases inside

theorem apply_of_noLoop (inside : e.loop? = some loop) (h : Block.NoLoop loop p.blocks) :
    e.apply p = p :=
  (apply_eq_editLoop inside p).trans (Program.editLoop_of_loopless h e.refill)

theorem apply_of_firstLoop (inside : e.loop? = some loop)
    (h : p.FirstLoop loop before executed count body after) :
    e.apply p = ⟨before ++ .loop loop executed count (e.refill body) :: after⟩ :=
  (apply_eq_editLoop inside p).trans (h.editLoop e.refill)

theorem apply_apply (inside : e.loop? = some loop) (h : e.child? = some id) :
    e.apply (e.apply p) = e.apply p := by
  rcases p.noLoop_or_firstLoop loop with hnone | ⟨before, executed, count, body, after, hfirst⟩
  · rw [apply_of_noLoop inside hnone, apply_of_noLoop inside hnone]
  · rw [apply_of_firstLoop inside hfirst, apply_of_firstLoop inside (hfirst.refilled _),
      refill_refill h]

/-- An edit inside a loop changes the body of one block at most, the first that is a loop with the
identity, and there only the children that it addresses. Without such a loop or such children it
changes nothing, and an edit that addresses children does no more when it is made again. -/
theorem stays_inside_loop (inside : e.loop? = some loop) (p : Program) :
    (Block.NoLoop loop p.blocks ∧ e.apply p = p ∨
        ∃ before executed count body after, p.FirstLoop loop before executed count body after ∧
          e.apply p = ⟨before ++ .loop loop executed count (e.refill body) :: after⟩ ∧
          ∀ id, e.child? = some id → Block.Absent id body → e.apply p = p) ∧
      ∀ id, e.child? = some id → e.apply (e.apply p) = e.apply p := by
  refine ⟨?_, fun id => apply_apply inside⟩
  rcases p.noLoop_or_firstLoop loop with hnone | ⟨before, executed, count, body, after, hfirst⟩
  · exact Or.inl ⟨hnone, apply_of_noLoop inside hnone⟩
  · have happly := apply_of_firstLoop inside hfirst
    refine Or.inr ⟨before, executed, count, body, after, hfirst, happly, fun id hid absent => ?_⟩
    rw [happly, refill_of_absent hid absent, ← hfirst.blocks_eq]

theorem stays_inside_loop_passedOver :
    let say (n : Nat) : Block := .act ⟨n⟩ false (.say "hi" 1)
    let inner : Block := .loop ⟨9⟩ false none [say 7]
    let new : Block := .act ⟨7⟩ true (.move 1 0)
    let p : Program := ⟨[say 1,
      .loop ⟨1⟩ true (some 3) [say 7, inner, .loop ⟨7⟩ true none [], say 8],
      .loop ⟨1⟩ false none [say 7]]⟩
    let q : Program := ⟨[say 1,
      .loop ⟨1⟩ true (some 3) [new, inner, new, say 8],
      .loop ⟨1⟩ false none [say 7]]⟩
    let e : Edit := .updateInLoop ⟨1⟩ new
    e.loop? = some ⟨1⟩ ∧ e.child? = some ⟨7⟩ ∧ e.apply p = q ∧ e.apply q = q ∧
      ∃ before executed count body after, p.FirstLoop ⟨1⟩ before executed count body after ∧
        q = ⟨before ++ .loop ⟨1⟩ executed count (e.refill body) :: after⟩ := by
  intro say inner new p q e
  have inside : e.loop? = some ⟨1⟩ := rfl
  have child : e.child? = some ⟨7⟩ := rfl
  have happly : e.apply p = q := rfl
  have hloop : ¬ Block.NoLoop ⟨1⟩ p.blocks := by
    intro hnone
    have hno := hnone (.loop ⟨1⟩ false none [say 7]) (by simp [p]) rfl
    cases hno
  obtain ⟨hplace, htwice⟩ := stays_inside_loop inside p
  obtain ⟨hnone, -⟩ | ⟨before, executed, count, body, after, hfirst, hrefill, -⟩ := hplace
  · exact absurd hnone hloop
  · exact ⟨inside, child, happly, htwice ⟨7⟩ child, before, executed, count, body, after, hfirst,
      hrefill⟩

end Edit

end SpriteStage
