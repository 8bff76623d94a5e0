import SpriteStage.Proofs.Numbering
/-!
Identities follow the document. The entries that become blocks are those at the top of a sprite and,
further down, those below loops; what stands below any other entry is passed over and takes no
identity. In the order of the document, a sprite before its blocks and a block before those of its
body, the sprites and blocks of a scene are numbered from one on without a gap, and the supply goes on
behind the last of them.
-/

namespace SpriteStage

def Block.action? : Block → Option Action
  | act _ _ action => some action
  | loop .. => none

namespace BlockEntry

mutual

/-- An entry and all below it that become blocks with it, in the order of the document. -/
def loaded : BlockEntry → List BlockEntry
  | ⟨type, parameters, children⟩ =>
    ⟨type, parameters, children⟩ ::
      match action? ⟨type, parameters, children⟩ with
      | some _ => []
      | none => loadedAll children

def loadedAll : List BlockEntry → List BlockEntry
  | [] => []
  | e :: es => e.loaded ++ loadedAll es

end

mutual

def pruned : BlockEntry → BlockEntry
  | ⟨type, parameters, children⟩ =>
    ⟨type, parameters,
      match action? ⟨type, parameters, children⟩ with
      | some _ => []
      | none => prunedAll children⟩

def prunedAll : List BlockEntry → List BlockEntry
  | [] => []
  | e :: es => e.pruned :: prunedAll es

end

variable {e : BlockEntry} {action : Action}

theorem load_of_action (h : e.action? = some action) (ids : IdSupply) :
    e.load ids = (.act ids.block false action, ids.advance) := by
  cases e
  rw [load, h]

theorem load_of_loop (h : e.action? = none) (ids : IdSupply) :
    e.load ids = (.loop ids.block false e.parameters.count (loadAll ids.advance e.children).1,
      (loadAll ids.advance e.children).2) := by
  cases e
  rw [load, h]

theorem loadAll_cons (e : BlockEntry) (es : List BlockEntry) (ids : IdSupply) :
    loadAll ids (e :: es) =
      ((e.load ids).1 :: (loadAll (e.load ids).2 es).1, (loadAll (e.load ids).2 es).2) := by
  rw [loadAll]

theorem loaded_of_action (h : e.action? = some action) : e.loaded = [e] := by
  cases e
  rw [loaded, h]

theorem loaded_of_loop (h : e.action? = none) : e.loaded = e :: loadedAll e.children := by
  cases e
  rw [loaded, h]

theorem action?_pruned (e : BlockEntry) : e.pruned.action? = e.action? := by
  cases e
  rw [pruned]
  rfl

theorem parameters_pruned (e : BlockEntry) : e.pruned.parameters = e.parameters := by
  cases e
  rw [pruned]

theorem children_pruned (h : e.action? = none) : e.pruned.children = prunedAll e.children := by
  cases e
  rw [pruned, h]

theorem loadedAll_eq_flatMap (es : List BlockEntry) : loadedAll es = es.flatMap loaded := by
  induction es with
  | nil => rfl
  | cons e es ih => rw [loadedAll, List.flatMap_cons, ih]

theorem prunedAll_eq_map (es : List BlockEntry) : prunedAll es = es.map pruned := by
  induction es with
  | nil => rfl
  | cons e es ih => rw [prunedAll, List.map_cons, ih]

mutual

theorem actions_load : ∀ (e : BlockEntry) (ids : IdSupply),
    (e.load ids).1.preorder.map Block.action? = e.loaded.map action?
  | ⟨type, parameters, children⟩, ids => by
    cases haction : action? ⟨type, parameters, children⟩ with
    | some action =>
      rw [load_of_action haction, loaded_of_action haction, List.map_singleton, haction]
      rfl
    | none =>
      rw [load_of_loop haction, loaded_of_loop haction, Block.preorder_eq, List.map_cons,
        List.map_cons, haction]
      exact congrArg _ (actions_loadAll children ids.advance)

theorem actions_loadAll : ∀ (es : List BlockEntry) (ids : IdSupply),
    ((loadAll ids es).1.flatMap Block.preorder).map Block.action? = (loadedAll es).map action?
  | [], _ => rfl
  | e :: es, ids => by
    rw [loadAll_cons, loadedAll, List.flatMap_cons, List.map_append, List.map_append, actions_load e,
      actions_loadAll es]

end

mutual

theorem load_pruned : ∀ (e : BlockEntry) (ids : IdSupply), e.pruned.load ids = e.load ids
  | ⟨type, parameters, children⟩, ids => by
    have hpruned := action?_pruned ⟨type, parameters, children⟩
    cases haction : action? ⟨type, parameters, children⟩ with
    | some action =>
      rw [load_of_action (hpruned.trans haction), load_of_action haction]
    | none =>
      rw [load_of_loop (hpruned.trans haction), load_of_loop haction, parameters_pruned,
        children_pruned haction, loadAll_prunedAll children]

theorem loadAll_prunedAll : ∀ (es : List BlockEntry) (ids : IdSupply),
    loadAll ids (prunedAll es) = loadAll ids es
  | [], _ => rfl
  | e :: es, ids => by
    rw [prunedAll, loadAll_cons, loadAll_cons, load_pruned e, loadAll_prunedAll es]

end

end BlockEntry

namespace SpriteEntry

def loaded (e : SpriteEntry) : List BlockEntry := e.blocks.flatMap BlockEntry.loaded

def pruned (e : SpriteEntry) : SpriteEntry := { e with blocks := e.blocks.map BlockEntry.pruned }

end SpriteEntry

def Program.actions (p : Program) : List (Option Action) :=
  (p.blocks.flatMap Block.preorder).map Block.action?

theorem Sprite.length_numbers (p : Sprite) : p.numbers.length = p.program.actions.length + 1 := by
  simp [numbers, Program.actions, Program.ids, Block.ids, List.map_flatMap]

namespace SpriteEntry

theorem actions_load (e : SpriteEntry) (ids : IdSupply) (index : Nat) :
    (e.load ids index).1.program.actions = e.loaded.map BlockEntry.action? := by
  rw [loaded, ← BlockEntry.loadedAll_eq_flatMap]
  exact BlockEntry.actions_loadAll e.blocks ids.advance

theorem actions_loadAll (entries : List SpriteEntry) (ids : IdSupply) (index : Nat) :
    (loadAll ids index entries).1.map (fun p => p.program.actions) =
      entries.map fun e => e.loaded.map BlockEntry.action? := by
  induction entries generalizing ids index with
  | nil => rfl
  | cons e es ih =>
    rw [loadAll, List.map_cons, List.map_cons, actions_load, ih]

theorem loadAll_cons (e : SpriteEntry) (es : List SpriteEntry) (ids : IdSupply) (index : Nat) :
    loadAll ids index (e :: es) = ((e.load ids index).1 :: (loadAll (e.load ids index).2 (index + 1) es).1,
      (loadAll (e.load ids index).2 (index + 1) es).2) := by
  rw [loadAll]

theorem load_pruned (e : SpriteEntry) (ids : IdSupply) (index : Nat) :
    e.pruned.load ids index = e.load ids index := by
  rw [load, load, pruned, ← BlockEntry.prunedAll_eq_map, BlockEntry.loadAll_prunedAll]

theorem loadAll_pruned (entries : List SpriteEntry) (ids : IdSupply) (index : Nat) :
    loadAll ids index (entries.map pruned) = loadAll ids index entries := by
  induction entries generalizing ids index with
  | nil => rfl
  | cons e es ih => rw [List.map_cons, loadAll_cons, loadAll_cons, load_pruned, ih]

theorem length_numbers_loadAll (entries : List SpriteEntry) (ids : IdSupply) (index : Nat) :
    ((loadAll ids index entries).1.flatMap Sprite.numbers).length =
      entries.length + (entries.flatMap loaded).length := by
  induction entries generalizing ids index with
  | nil => rfl
  | cons e es ih =>
    rw [loadAll_cons, List.flatMap_cons, List.length_append, Sprite.length_numbers, actions_load, ih,
      List.length_map, List.length_cons, List.flatMap_cons, List.length_append]
    omega

end SpriteEntry

/-- The sprites and blocks of a scene, each sprite before its blocks and each block before those of its
body, are numbered from one on without a gap, and the supply goes on with the next number. Only sprites
and entries that become blocks take one: without the entries that are passed over, the scene is the
same. -/
theorem Scene.numbers_ofEntries (file : Nat) (entries : List SpriteEntry) :
    let scene := Scene.ofEntries file entries
    let pruned := Scene.ofEntries file (entries.map SpriteEntry.pruned)
    let taken := entries.length + (entries.flatMap SpriteEntry.loaded).length
    scene.sprites.flatMap Sprite.numbers = List.range' 1 taken ∧
      scene.ids.block = ⟨taken + 1⟩ ∧ scene.ids.sprite = ⟨taken + 1⟩ ∧
      (scene.sprites.map fun p => p.program.actions) =
        (entries.map fun e => e.loaded.map BlockEntry.action?) ∧
      pruned.sprites = scene.sprites ∧ pruned.ids = scene.ids := by
  intro scene pruned taken
  obtain ⟨hnumbers, hlast⟩ := SpriteEntry.gives_loadAll entries {} 0
  rw [SpriteEntry.length_numbers_loadAll] at hnumbers hlast
  have hnext : scene.ids.last = taken := hlast.trans (Nat.zero_add _)
  have hpruned := SpriteEntry.loadAll_pruned entries {} 0
  refine ⟨hnumbers, ?_, ?_, SpriteEntry.actions_loadAll entries {} 0, ?_, ?_⟩
  · rw [IdSupply.block, hnext]
  · rw [IdSupply.sprite, hnext]
  · exact congrArg Prod.fst hpruned
  · exact congrArg Prod.snd hpruned

example :
    let entry (type : String) (children : List BlockEntry) : BlockEntry := ⟨⟨type, 0, 0⟩, {}, children⟩
    let scene := Scene.ofEntries 0
      [{ blocks := [entry "repeat" [entry "move" [entry "say" []], entry "jump" []]] }, {}]
    scene.sprites.map Sprite.numbers = [[1, 2, 3, 4], [5]] ∧ scene.ids.block = ⟨6⟩ := by
  decide +kernel

end SpriteStage
