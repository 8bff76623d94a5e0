import SpriteStage.Proofs.Running
import SpriteStage.Proofs.Swapping
import SpriteStage.Scene.Load
/-!
The stages that there are, and what can be said of all their sprites. A property of sprites that
holds wherever a program stands at its beginning, that does not look at the state the blocks change,
and that a step keeps, holds of every sprite on every stage: what a sprite takes over in a swap or
an edit, it runs from the start.
-/

namespace SpriteStage

/-- A property of sprites that holds at the start of every program and that lasts from there on. -/
structure Sprite.Lasting (Q : Sprite → Prop) : Prop where
  start : ∀ p : Sprite, p.cursor = 0 → p.complete = false → Q p
  state : ∀ (p : Sprite) (state : SpriteState), Q p → Q { p with state := state }
  step : ∀ (p : Sprite) (now : Nat), Q p → Q (p.step now)

theorem forall_mem_modify {α : Type} {Q : α → Prop} {f : α → α} (hf : ∀ x, Q (f x)) {xs : List α}
    (h : ∀ x ∈ xs, Q x) (index : Nat) : ∀ x ∈ xs.modify index f, Q x := by
  induction xs generalizing index with
  | nil => simp
  | cons x xs ih =>
    obtain ⟨hx, hxs⟩ := List.forall_mem_cons.1 h
    cases index with
    | zero => exact List.forall_mem_cons.2 ⟨hf x, hxs⟩
    | succ index => exact List.forall_mem_cons.2 ⟨hx, ih hxs index⟩

theorem SpriteEntry.load_starts (ids : IdSupply) (index : Nat) (e : SpriteEntry) :
    (e.load ids index).1.cursor = 0 ∧ (e.load ids index).1.complete = false := ⟨rfl, rfl⟩

theorem SpriteEntry.loadAll_starts (entries : List SpriteEntry) (ids : IdSupply) (index : Nat) :
    ∀ p ∈ (loadAll ids index entries).1, p.cursor = 0 ∧ p.complete = false := by
  induction entries generalizing ids index with
  | nil => simp [loadAll]
  | cons e es ih => exact List.forall_mem_cons.2 ⟨load_starts ids index e, ih _ _⟩

namespace Stage

/-- A new stage, or one with the sprites of a loaded scene, and whatever becomes of these. -/
inductive Reachable : Stage → Prop
  | new (clock : Nat) (config : Config) : Reachable (.new clock config)
  | loaded (clock : Nat) (config : Config) (file : Nat) (entries : List SpriteEntry) :
      Reachable (.populated clock config (Scene.ofEntries file entries).sprites
        (Scene.ofEntries file entries).ids)
  | apply {s : Stage} (operation : Operation) : Reachable s → Reachable (operation.apply s)

theorem Reachable.applyAll {s : Stage} (h : s.Reachable) (operations : List Operation) :
    (Operation.applyAll operations s).Reachable := by
  induction operations generalizing s with
  | nil => exact h
  | cons operation operations ih => exact ih (h.apply operation)

theorem reachable_overlapping (config : Config) : (overlapping config).Reachable :=
  (Reachable.new 0 config).applyAll _

def All (Q : Sprite → Prop) (s : Stage) : Prop := ∀ p ∈ s.sprites, Q p

instance {Q : Sprite → Prop} [DecidablePred Q] (s : Stage) : Decidable (s.All Q) :=
  inferInstanceAs (Decidable (∀ p ∈ s.sprites, Q p))

variable {Q : Sprite → Prop} {s t armed : Stage} {horizon : Nat} {a : Activation}
  {as : List Activation}

theorem All.createSprite (lasting : Sprite.Lasting Q) (h : s.All Q) : s.createSprite.All Q :=
  List.forall_mem_append.2 ⟨h, List.forall_mem_singleton.2 (lasting.start _ rfl rfl)⟩

theorem All.select (h : s.All Q) (id : SpriteId) : (s.select id).All Q := by
  unfold Stage.select
  split
  · exact h
  · exact h

theorem All.moveSprite (lasting : Sprite.Lasting Q) (h : s.All Q) (id : SpriteId) (x y : Float) :
    (s.moveSprite id x y).All Q := by
  refine List.forall_mem_map.2 fun p hp => ?_
  simp only
  split
  · exact lasting.state p _ (h p hp)
  · exact h p hp

theorem All.editSelected (lasting : Sprite.Lasting Q) (h : s.All Q) (e : Edit) :
    (s.editSelected e).All Q := by
  unfold Stage.editSelected
  split
  · exact forall_mem_modify (fun p => lasting.start _ rfl rfl) h _
  · exact h

theorem All.start (lasting : Sprite.Lasting Q) (h : s.All Q) : s.start.All Q := by
  unfold Stage.start
  split
  · exact h
  · exact List.forall_mem_map.2 fun p _ => lasting.start _ rfl rfl

theorem All.reset (lasting : Sprite.Lasting Q) (s : Stage) : s.reset.All Q :=
  List.forall_mem_map.2 fun _ _ => lasting.start _ rfl rfl

theorem All.expireAt (lasting : Sprite.Lasting Q) (h : s.All Q) (now : Nat) :
    (s.expireAt now).All Q := by
  unfold Stage.expireAt
  split
  · exact List.forall_mem_map.2 fun p hp => lasting.state p _ (h p hp)
  · exact h

theorem All.tickWork (lasting : Sprite.Lasting Q) (h : s.All Q) (now : Nat) :
    (s.tickWork now).All Q := by
  have hstepped : ∀ p ∈ (s.tickCheck now).1, Q p :=
    List.forall_mem_map.2 fun p hp => lasting.step p now (h p hp)
  unfold Stage.tickWork
  split
  · rename_i hcheck
    rw [hcheck] at hstepped
    intro p hp
    rcases mem_swapPrograms hp with hold | hstart
    · exact hstepped p hold
    · exact lasting.start p hstart.1 hstart.2
  · rename_i hcheck
    rw [hcheck] at hstepped
    exact hstepped

theorem steady_all (lasting : Sprite.Lasting Q) : Steady fun s t => s.All Q → t.All Q where
  refl _ h := h
  trans hfirst hsecond h := hsecond (hfirst h)
  retimed _ _ _ h := h
  tickWork _ now h := h.tickWork lasting now
  expireAt _ now h := h.expireAt lasting now

theorem All.due? (h : s.All Q) (hdue : s.due? horizon = some (a, armed)) : armed.All Q := by
  obtain ⟨rest, -, rfl⟩ := due?_eq_some.1 hdue
  exact h

theorem All.fires (lasting : Sprite.Lasting Q) (h : s.All Q) (hfires : Fires horizon s as t) :
    t.All Q :=
  (steady_all lasting).fires hfires h

theorem All.apply (lasting : Sprite.Lasting Q) (h : s.All Q) (operation : Operation) :
    (operation.apply s).All Q := by
  cases operation with
  | createSprite => exact h.createSprite lasting
  | select id => exact h.select id
  | moveSprite id x y => exact h.moveSprite lasting id x y
  | takeBlockId => exact h
  | edit e => exact h.editSelected lasting e
  | start => exact h.start lasting
  | stop => exact h
  | reset => exact All.reset lasting s
  | pump => exact (steady_all lasting).pump s h
  | expireBubbles => exact h.expireAt lasting s.clock
  | setClock now => exact h
  | advanceClock d => exact h
  | runUntilIdle limit =>
    exact (steady_all lasting).drive s.clock limit (s.frameBound limit) s.start (h.start lasting)

theorem All.populated (clock : Nat) (config : Config) (ids : IdSupply) (lasting : Sprite.Lasting Q)
    {sprites : List Sprite} (h : ∀ p ∈ sprites, Q p) : (populated clock config sprites ids).All Q := by
  cases sprites with
  | nil => exact List.forall_mem_singleton.2 (lasting.start _ rfl rfl)
  | cons first rest => exact h

theorem Reachable.all (h : s.Reachable) (lasting : Sprite.Lasting Q) : s.All Q := by
  induction h with
  | new clock config => exact .populated clock config {} lasting (by simp)
  | loaded clock config file entries =>
    refine .populated clock config _ lasting fun p hp => ?_
    have hstarts := SpriteEntry.loadAll_starts entries {} 0 p hp
    exact lasting.start p hstarts.1 hstarts.2
  | apply operation _ ih => exact ih.apply lasting operation

end Stage

end SpriteStage
