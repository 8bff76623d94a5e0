import SpriteStage.Proofs.DocumentOrder
/-!
The warnings of a scene say exactly what loading has lost. Every entry that becomes a block has warnings
of its own: about its type, about the blocks below it, about its direction. The warnings of a scene are
those of its entries in the order of the document, and nothing else is warned of. So if all that there
is to warn of are directions, the blocks are a tree of the same shape as the entries, and of the same
types.
-/

namespace SpriteStage

namespace Opcode

theorem ofName?_name (op : Opcode) : ofName? op.name = some op := by
  cases op <;> rfl

theorem ofName?_eq_some_iff {word : String} {op : Opcode} :
    ofName? word = some op ↔ op.name = word := by
  constructor
  · intro h
    simpa using List.find?_some h
  · intro h
    rw [← h, ofName?_name]

theorem ofName?_eq_none_iff {word : String} : ofName? word = none ↔ word ∉ all.map name := by
  simp [ofName?]

end Opcode

theorem Rotation.isSome_ofName? {word : String} :
    (ofName? word).isSome = true ↔ word ∈ ["clockwise", "counterclockwise"] := by
  constructor
  · intro h
    obtain ⟨r, hr⟩ := Option.isSome_iff_exists.1 h
    have hname : r.name = word := by simpa using List.find?_some hr
    rw [← hname]
    cases r <;> decide
  · intro h
    simp only [List.mem_cons, List.not_mem_nil, or_false] at h
    rcases h with rfl | rfl <;> rfl

theorem BlockParameters.action?_eq_none_iff {p : BlockParameters} {op : Opcode} :
    p.action? op = none ↔ op = .loop := by
  cases op <;> simp [action?]

theorem BlockParameters.opcode?_of_action? {p : BlockParameters} {op : Opcode} {action : Action}
    (h : p.action? op = some action) : action.opcode? = some op := by
  cases op <;> simp [action?] at h <;> subst h <;> rfl

/-- Whether a finding is about a word that is no direction: of the blocks nothing is lost then. -/
def Finding.IsAboutDirection (f : Finding) : Prop := ∃ word, f.cause = .unknownDirection word

inductive Shape where
  | node (name : Option String) (below : List Shape)

mutual

def Block.shape : Block → Shape
  | .act _ _ action => .node (action.opcode?.map Opcode.name) []
  | .loop _ _ _ body => .node (some Opcode.loop.name) (Block.shapes body)

def Block.shapes : List Block → List Shape
  | [] => []
  | b :: bs => b.shape :: Block.shapes bs

end

namespace BlockEntry

mutual

def shape : BlockEntry → Shape
  | ⟨type, _, children⟩ => .node (some type.content) (shapes children)

def shapes : List BlockEntry → List Shape
  | [] => []
  | e :: es => e.shape :: shapes es

end

def types : List String := ["move", "turn", "goto", "say", "think", "repeat"]

/-- What there is to warn of in an entry itself, whatever is to be said about those below it. -/
def ownWarnings (file : Nat) (e : BlockEntry) : List Finding :=
  if e.type.content ∈ types then
    (if e.type.content ≠ "repeat" ∧ e.children ≠ [] then
      [⟨.ignoredChildren e.type.content, e.type.span, file⟩] else []) ++
    (e.parameters.direction.toList.filter fun word =>
      e.type.content = "turn" ∧ word.content ∉ ["clockwise", "counterclockwise"]).map
        fun word => ⟨.unknownDirection word.content, word.span, file⟩
  else [⟨.unknownType e.type.content, e.type.span, file⟩]

variable {e : BlockEntry} {action : Action}

theorem action?_eq_none_iff : e.action? = none ↔ e.opcode? = some .loop := by
  rw [action?]
  split
  · rename_i op hop
    rw [hop, BlockParameters.action?_eq_none_iff, Option.some.injEq]
  · rename_i hop
    simp [hop]

theorem type_of_loop (h : e.action? = none) : e.type.content = "repeat" :=
  (Opcode.ofName?_eq_some_iff.1 (action?_eq_none_iff.1 h)).symm

theorem opcode?_ne_loop (h : e.action? = some action) : e.opcode? ≠ some .loop := by
  rw [ne_eq, ← action?_eq_none_iff, h]
  simp

theorem opcode?_of_action (h : e.action? = some action) : action.opcode? = e.opcode? := by
  rw [action?] at h
  split at h
  · rename_i op hop
    rw [hop, BlockParameters.opcode?_of_action? h]
  · rename_i hop
    rw [hop, ← Option.some.inj h]
    rfl

/-! ### Each entry by itself -/

theorem warnings_of_loop (h : e.action? = none) (file : Nat) :
    e.warnings file = warningsOf file e.children := by
  have hop : Opcode.ofName? e.type.content = some .loop := action?_eq_none_iff.1 h
  cases e
  rw [warnings, hop]

theorem ownWarnings_of_loop (h : e.action? = none) (file : Nat) : e.ownWarnings file = [] := by
  simp [ownWarnings, type_of_loop h, types]

theorem directionWarnings_eq (file : Nat) (p : BlockParameters) :
    directionWarnings file p =
      (p.direction.toList.filter fun word =>
        word.content ∉ ["clockwise", "counterclockwise"]).map
          fun word => ⟨.unknownDirection word.content, word.span, file⟩ := by
  rw [directionWarnings]
  cases p.direction with
  | none => rfl
  | some word =>
    simp only [Rotation.isSome_ofName?, Option.toList_some]
    by_cases hword : word.content ∈ ["clockwise", "counterclockwise"]
    · rw [if_pos hword, List.filter_cons_of_neg (by simp [hword])]
      rfl
    · rw [if_neg hword, List.filter_cons_of_pos (by simp [hword])]
      rfl

theorem warnings_of_action (h : e.action? = some action) (file : Nat) :
    e.warnings file = e.ownWarnings file := by
  have hloop := opcode?_ne_loop h
  obtain ⟨⟨content, span⟩, parameters, children⟩ := e
  cases hop : Opcode.ofName? content with
  | none =>
    have htype : content ∉ types := Opcode.ofName?_eq_none_iff.1 hop
    rw [warnings, hop, ownWarnings, if_neg htype]
  | some op =>
    obtain rfl := Opcode.ofName?_eq_some_iff.1 hop
    rw [warnings, hop, ownWarnings, directionWarnings_eq]
    cases op with
    | loop => exact absurd hop hloop
    | move | turn | goTo | say | think => simp [types, Opcode.name]

/-! ### All entries -/

mutual

theorem warnings_eq_flatMap : ∀ (e : BlockEntry) (file : Nat),
    e.warnings file = e.loaded.flatMap (ownWarnings file)
  | ⟨type, parameters, children⟩, file => by
    cases haction : action? ⟨type, parameters, children⟩ with
    | some action =>
      rw [warnings_of_action haction, loaded_of_action haction, List.flatMap_singleton]
    | none =>
      rw [warnings_of_loop haction, loaded_of_loop haction, List.flatMap_cons,
        ownWarnings_of_loop haction, List.nil_append]
      exact warningsOf_eq_flatMap children file

theorem warningsOf_eq_flatMap : ∀ (es : List BlockEntry) (file : Nat),
    warningsOf file es = (loadedAll es).flatMap (ownWarnings file)
  | [], _ => rfl
  | e :: es, file => by
    rw [warningsOf, loadedAll, List.flatMap_append, warnings_eq_flatMap e, warningsOf_eq_flatMap es]

end

theorem ownWarnings_about_direction_iff (file : Nat) (e : BlockEntry) :
    (∀ f ∈ e.ownWarnings file, f.IsAboutDirection) ↔
      e.type.content ∈ types ∧ (e.type.content = "repeat" ∨ e.children = []) := by
  rw [ownWarnings]
  by_cases htype : e.type.content ∈ types
  · have hdirection : ∀ f ∈ (e.parameters.direction.toList.filter fun word =>
        e.type.content = "turn" ∧ word.content ∉ ["clockwise", "counterclockwise"]).map
          fun word => (⟨.unknownDirection word.content, word.span, file⟩ : Finding),
        f.IsAboutDirection := by
      intro f hf
      obtain ⟨word, -, rfl⟩ := List.mem_map.1 hf
      exact ⟨word.content, rfl⟩
    rw [if_pos htype, List.forall_mem_append]
    refine ⟨fun h => ⟨htype, ?_⟩, fun h => ⟨?_, hdirection⟩⟩
    · by_contra hignored
      rw [not_or] at hignored
      rw [if_pos hignored] at h
      obtain ⟨word, hword⟩ := List.forall_mem_singleton.1 h.1
      cases hword
    · rw [if_neg (not_and_or.2 (h.2.imp not_not_intro not_not_intro))]
      exact fun f hf => absurd hf List.not_mem_nil
  · simp [htype, Finding.IsAboutDirection]

theorem name_opcode?_iff (e : BlockEntry) :
    e.opcode?.map Opcode.name = some e.type.content ↔ e.type.content ∈ types := by
  rw [Option.map_eq_some_iff]
  constructor
  · rintro ⟨op, -, hname⟩
    rw [← hname]
    cases op <;> decide
  · intro htype
    obtain ⟨op, -, hname⟩ := List.mem_map.1 (show e.type.content ∈ Opcode.all.map Opcode.name from htype)
    exact ⟨op, Opcode.ofName?_eq_some_iff.2 hname, hname⟩

theorem shapes_eq_nil_iff {es : List BlockEntry} : shapes es = [] ↔ es = [] := by
  cases es <;> simp [shapes]

theorem shape_of_action (h : e.action? = some action) (file : Nat) (ids : IdSupply) :
    (e.load ids).1.shape = e.shape ↔ ∀ f ∈ e.warnings file, f.IsAboutDirection := by
  rw [load_of_action h, warnings_of_action h, ownWarnings_about_direction_iff, Block.shape,
    opcode?_of_action h]
  obtain ⟨type, parameters, children⟩ := e
  have hrepeat : type.content ≠ "repeat" := fun hcontent =>
    opcode?_ne_loop h (Opcode.ofName?_eq_some_iff.2 hcontent.symm)
  rw [shape, Shape.node.injEq, eq_comm (a := []), shapes_eq_nil_iff, name_opcode?_iff,
    or_iff_right hrepeat]

mutual

theorem shape_load_iff : ∀ (e : BlockEntry) (ids : IdSupply) (file : Nat),
    (e.load ids).1.shape = e.shape ↔ ∀ f ∈ e.warnings file, f.IsAboutDirection
  | ⟨type, parameters, children⟩, ids, file => by
    cases haction : action? ⟨type, parameters, children⟩ with
    | some action => exact shape_of_action haction file ids
    | none =>
      have htype : type.content = "repeat" := type_of_loop haction
      rw [warnings_of_loop haction, load_of_loop haction, Block.shape, shape, htype,
        Shape.node.injEq, ← shapes_loadAll_iff children ids.advance]
      exact and_iff_right rfl

theorem shapes_loadAll_iff : ∀ (es : List BlockEntry) (ids : IdSupply) (file : Nat),
    Block.shapes (loadAll ids es).1 = shapes es ↔ ∀ f ∈ warningsOf file es, f.IsAboutDirection
  | [], _, _ => by simp [loadAll, Block.shapes, shapes, warningsOf]
  | e :: es, ids, file => by
    rw [loadAll_cons, Block.shapes, shapes, warningsOf, List.forall_mem_append, List.cons_eq_cons,
      shape_load_iff e, shapes_loadAll_iff es]

end

end BlockEntry

def Program.shapes (p : Program) : List Shape := Block.shapes p.blocks

namespace SpriteEntry

def shapes (e : SpriteEntry) : List Shape := BlockEntry.shapes e.blocks

def warnings (file : Nat) (e : SpriteEntry) : List Finding := BlockEntry.warningsOf file e.blocks

theorem warnings_eq_flatMap (file : Nat) (e : SpriteEntry) :
    e.warnings file = e.loaded.flatMap (BlockEntry.ownWarnings file) := by
  rw [warnings, BlockEntry.warningsOf_eq_flatMap, loaded, BlockEntry.loadedAll_eq_flatMap]

theorem shapes_loadAll_iff (entries : List SpriteEntry) (ids : IdSupply) (index file : Nat) :
    (loadAll ids index entries).1.map (fun p => p.program.shapes) = entries.map shapes ↔
      ∀ f ∈ entries.flatMap (warnings file), f.IsAboutDirection := by
  induction entries generalizing ids index with
  | nil => simp [loadAll]
  | cons e es ih =>
    have hfirst : (e.load ids index).1.program.shapes = e.shapes ↔
        ∀ f ∈ e.warnings file, f.IsAboutDirection :=
      BlockEntry.shapes_loadAll_iff e.blocks ids.advance file
    rw [loadAll_cons, List.map_cons, List.map_cons, List.flatMap_cons, List.forall_mem_append,
      List.cons_eq_cons, hfirst, ih]

end SpriteEntry

/-- The warnings of a scene are those of the entries that become its blocks, one after the other in the
order of the document. Nothing that loading drops goes without one: the blocks are a tree of the same
shape as the entries and of the same types exactly if all warnings are about directions, and so in
particular if there are none. -/
theorem Scene.warnings_ofEntries (file : Nat) (entries : List SpriteEntry) :
    let scene := Scene.ofEntries file entries
    scene.warnings = (entries.flatMap SpriteEntry.loaded).flatMap (BlockEntry.ownWarnings file) ∧
      (scene.sprites.map fun p => p.program.actions) =
        (entries.map fun e => e.loaded.map BlockEntry.action?) ∧
      (scene.sprites.map (fun p => p.program.shapes) = entries.map SpriteEntry.shapes ↔
        ∀ f ∈ scene.warnings, f.IsAboutDirection) := by
  intro scene
  refine ⟨?_, SpriteEntry.actions_loadAll entries {} 0, ?_⟩
  · rw [List.flatMap_assoc]
    exact List.flatMap_congr fun e _ => e.warnings_eq_flatMap file
  · exact SpriteEntry.shapes_loadAll_iff entries {} 0 file

example :
    let entry (type : String) (children : List BlockEntry) : BlockEntry :=
      ⟨⟨type, 0, 0⟩, { direction := some ⟨"left", 7, 11⟩ }, children⟩
    let scene := Scene.ofEntries 0
      [{ blocks := [entry "repeat" [entry "turn" [entry "say" []], entry "jump" [entry "fly" []]]] }]
    scene.warnings.map Finding.text =
      ["warning: nested blocks under a `turn` block are ignored",
        "warning: unknown turn direction `left`; turning counterclockwise",
        "warning: unknown block type `jump`; it will be skipped when run"] := by
  decide +kernel

end SpriteStage
