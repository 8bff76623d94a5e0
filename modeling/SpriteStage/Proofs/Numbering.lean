import Mathlib.Data.List.Nodup
import SpriteStage.Proofs.Programs
import SpriteStage.Proofs.Reachable
/-!
The identities on a stage that has just been built. Loading a scene gives out the numbers from one on
without a gap: a sprite's before those of its blocks, a block's before those of its body. So the
sprites and blocks of such a stage, taken together in the order of the scene, have exactly the numbers
that its supply has given away.
-/

namespace SpriteStage

namespace IdSupply

/-- A supply gives out numbers, one after the other, and is `rest` after that. -/
structure Gives (ids : IdSupply) (numbers : List Nat) (rest : IdSupply) : Prop where
  consecutive : numbers = List.range' (ids.last + 1) numbers.length
  last : rest.last = ids.last + numbers.length

variable {ids middle rest : IdSupply} {first second : List Nat}

theorem Gives.none (ids : IdSupply) : ids.Gives [] ids := ⟨rfl, rfl⟩

theorem Gives.one (ids : IdSupply) : ids.Gives [ids.last + 1] ids.advance := ⟨rfl, rfl⟩

theorem Gives.append (h : ids.Gives first middle) (h' : middle.Gives second rest) :
    ids.Gives (first ++ second) rest := by
  constructor
  · have hsecond := h'.consecutive
    rw [h.last] at hsecond
    rw [List.length_append, ← List.range'_append_1, ← h.consecutive, Nat.add_right_comm, ← hsecond]
  · rw [h'.last, h.last, List.length_append, Nat.add_assoc]

theorem Gives.nodup (h : ids.Gives first rest) : first.Nodup := by
  rw [h.consecutive]
  exact List.nodup_range'

theorem Gives.lt_of_mem (h : ids.Gives first rest) {n : Nat} (hn : n ∈ first) : ids.last < n := by
  rw [h.consecutive, List.mem_range'_1] at hn
  omega

theorem Gives.le_last (h : ids.Gives first rest) : ∀ n ∈ first, n ≤ rest.last := by
  intro n hn
  rw [h.consecutive, List.mem_range'_1] at hn
  rw [h.last]
  omega

end IdSupply

namespace BlockEntry

mutual

theorem gives_load : ∀ (e : BlockEntry) (ids : IdSupply),
    ids.Gives ((e.load ids).1.ids.map BlockId.number) (e.load ids).2
  | ⟨type, parameters, children⟩, ids => by
    rw [load]
    split
    · exact .one ids
    · have hbody := gives_loadAll children ids.advance
      rw [Block.ids_eq]
      exact (IdSupply.Gives.one ids).append hbody

theorem gives_loadAll : ∀ (es : List BlockEntry) (ids : IdSupply),
    ids.Gives (((loadAll ids es).1.flatMap Block.ids).map BlockId.number) (loadAll ids es).2
  | [], ids => .none ids
  | e :: es, ids => by
    have hfirst := gives_load e ids
    have hrest := gives_loadAll es (e.load ids).2
    rw [loadAll, List.flatMap_cons, List.map_append]
    exact hfirst.append hrest

end

end BlockEntry

def Sprite.numbers (p : Sprite) : List Nat := p.id.number :: p.program.ids.map BlockId.number

namespace SpriteEntry

theorem gives_load (ids : IdSupply) (index : Nat) (e : SpriteEntry) :
    ids.Gives (e.load ids index).1.numbers (e.load ids index).2 :=
  (IdSupply.Gives.one ids).append (BlockEntry.gives_loadAll e.blocks ids.advance)

theorem gives_loadAll (entries : List SpriteEntry) (ids : IdSupply) (index : Nat) :
    ids.Gives ((loadAll ids index entries).1.flatMap Sprite.numbers)
      (loadAll ids index entries).2 := by
  induction entries generalizing ids index with
  | nil => exact .none ids
  | cons e es ih => exact (gives_load ids index e).append (ih _ _)

end SpriteEntry

theorem ids_sublist_numbers (sprites : List Sprite) :
    (sprites.map fun p => p.id.number).Sublist (sprites.flatMap Sprite.numbers) := by
  induction sprites with
  | nil => exact .slnil
  | cons p ps ih =>
    rw [List.map_cons, List.flatMap_cons, Sprite.numbers, List.cons_append]
    exact (ih.trans (List.sublist_append_right _ _)).cons_cons _

theorem blockIds_sublist_numbers (sprites : List Sprite) :
    (((sprites.map Sprite.program).flatMap Program.ids).map BlockId.number).Sublist
      (sprites.flatMap Sprite.numbers) := by
  induction sprites with
  | nil => exact .slnil
  | cons p ps ih =>
    rw [List.map_cons, List.flatMap_cons, List.map_append, List.flatMap_cons, Sprite.numbers]
    exact (List.sublist_cons_self _ _).append ih

namespace Stage

/-- A stage on which nothing has been done: a new one, or one with the sprites of a loaded scene. -/
inductive Built : Stage → Prop
  | new (clock : Nat) (config : Config) : Built (.new clock config)
  | loaded (clock : Nat) (config : Config) (file : Nat) (entries : List SpriteEntry) :
      Built (.populated clock config (Scene.ofEntries file entries).sprites
        (Scene.ofEntries file entries).ids)

variable {s : Stage}

theorem Built.reachable (h : s.Built) : s.Reachable := by
  cases h with
  | new clock config => exact .new clock config
  | loaded clock config file entries => exact .loaded clock config file entries

def numbers (s : Stage) : List Nat := s.sprites.flatMap Sprite.numbers

def blockIds (s : Stage) : List BlockId := s.programs.flatMap Program.ids

theorem Built.exists_entries (h : s.Built) :
    ∃ clock config entries, s = populated clock config (SpriteEntry.loadAll {} 0 entries).1
      (SpriteEntry.loadAll {} 0 entries).2 := by
  cases h with
  | new clock config => exact ⟨clock, config, [], rfl⟩
  | loaded clock config file entries => exact ⟨clock, config, entries, rfl⟩

theorem gives_populated (clock : Nat) (config : Config) {sprites : List Sprite} {ids : IdSupply}
    (h : ({} : IdSupply).Gives (sprites.flatMap Sprite.numbers) ids) :
    ({} : IdSupply).Gives (populated clock config sprites ids).numbers
      (populated clock config sprites ids).ids := by
  cases sprites with
  | nil => exact h.append (.one ids)
  | cons first rest => exact h

theorem Built.gives (h : s.Built) : ({} : IdSupply).Gives s.numbers s.ids := by
  obtain ⟨clock, config, entries, rfl⟩ := h.exists_entries
  exact gives_populated clock config (SpriteEntry.gives_loadAll entries {} 0)

theorem Built.nodup_ids (h : s.Built) : (s.sprites.map Sprite.id).Nodup := by
  have hnumbers : (s.sprites.map fun p => p.id.number).Nodup :=
    (ids_sublist_numbers s.sprites).nodup h.gives.nodup
  refine List.Nodup.of_map SpriteId.number ?_
  rwa [List.map_map]

theorem Built.nodup_blockIds (h : s.Built) : s.blockIds.Nodup :=
  .of_map BlockId.number ((blockIds_sublist_numbers s.sprites).nodup h.gives.nodup)

theorem Built.id_le_last (h : s.Built) : ∀ p ∈ s.sprites, p.id.number ≤ s.ids.last :=
  fun _ hp => h.gives.le_last _ ((ids_sublist_numbers s.sprites).subset (List.mem_map_of_mem hp))

theorem Built.blockId_le_last (h : s.Built) : ∀ id ∈ s.blockIds, id.number ≤ s.ids.last :=
  fun _ hid =>
    h.gives.le_last _ ((blockIds_sublist_numbers s.sprites).subset (List.mem_map_of_mem hid))

end Stage

end SpriteStage
