import SpriteStage.Proofs.Roster
/-!
Edits that find no target. Such an edit leaves the program as it is, and it is reported; one that
finds its target is not. On a stage, though, every edit sends the selected sprite back to the start
of its program, also one without a target. So it changes nothing only if the sprite is there already.
-/

namespace SpriteStage

def Block.Absent (id : BlockId) (blocks : List Block) : Prop := ∀ b ∈ blocks, b.id ≠ id

def Edit.Misses : Edit → Program → Prop
  | append _, _ => False
  | replace target _, p => Block.Absent target p.blocks ∧ ∀ b ∈ p.blocks, Block.Absent target b.body
  | delete target, p => Block.Absent target p.blocks
  | addToLoop loop _, p => ∀ b ∈ p.blocks, b.id = loop → b.isLoop = false
  | updateInLoop loop b, p => ∀ body ∈ p.loopBody? loop, Block.Absent b.id body
  | deleteFromLoop loop target, p => ∀ body ∈ p.loopBody? loop, Block.Absent target body
  | reorder source _, p => p.length ≤ source

/-! ### Changes that change nothing -/

theorem modify_of_fixed {α : Type} {f : α → α} {xs : List α} {index : Nat}
    (h : ∀ x ∈ xs[index]?, f x = x) : xs.modify index f = xs := by
  refine List.ext_getElem? fun i => ?_
  rw [List.getElem?_modify]
  by_cases hi : index = i
  · subst hi
    cases hx : xs[index]? with
    | none => rfl
    | some x => simp [h x hx]
  · simp [hi]

namespace Block

variable {id : BlockId} {blocks : List Block}

theorem any_eq_false_iff_absent :
    (blocks.any fun b => b.id = id) = false ↔ Absent id blocks := by
  simp [Absent]

theorem filter_eq_self_of_absent (h : Absent id blocks) :
    (blocks.filter fun b => b.id ≠ id) = blocks := by
  refine List.filter_eq_self.2 fun b hb => ?_
  exact decide_eq_true (h b hb)

end Block

theorem replaceChildren_eq_self {id : BlockId} {replacement : Block} {children : List Block}
    (h : Block.Absent id children) : replaceChildren id replacement children = children := by
  have hkept : ∀ c ∈ children, (if c.id = id then replacement else c) = c :=
    fun c hc => if_neg (h c hc)
  rw [replaceChildren, List.map_congr_left hkept, List.map_id']

namespace Program

variable {p : Program} {loop target : BlockId}

theorem contains_eq_false_iff :
    p.contains target = false ↔
      Block.Absent target p.blocks ∧ ∀ b ∈ p.blocks, Block.Absent target b.body := by
  have hfind : ∀ b : Block,
      findIn? target b = none ↔ b.id ≠ target ∧ Block.Absent target b.body := by
    intro b
    rw [findIn?]
    by_cases hid : b.id = target
    · simp [hid]
    · simp [hid, Block.Absent]
  rw [contains, Option.isSome_eq_false_iff, Option.isNone_iff_eq_none, find?,
    List.findSome?_eq_none_iff]
  constructor
  · intro h
    exact ⟨fun b hb => ((hfind b).1 (h b hb)).1, fun b hb => ((hfind b).1 (h b hb)).2⟩
  · intro h b hb
    exact (hfind b).2 ⟨h.1 b hb, h.2 b hb⟩

theorem loopBody?_eq_none_iff :
    p.loopBody? loop = none ↔ ∀ b ∈ p.blocks, b.id = loop → b.isLoop = false := by
  simp [loopBody?, List.find?_eq_none]

theorem loopBody?_of_loopIndex? {index : Nat} (h : p.loopIndex? loop = some index) :
    ∃ b, p.blocks[index]? = some b ∧ p.loopBody? loop = some b.body := by
  obtain ⟨hindex, hloop, hfirst⟩ := List.findIdx?_eq_some_iff_getElem.1 h
  have hfound : (p.blocks.find? fun b => b.id = loop && b.isLoop) = some p.blocks[index] := by
    refine List.find?_eq_some_iff_getElem.2 ⟨hloop, index, hindex, rfl, fun j hj => ?_⟩
    rw [Bool.not_eq_true']
    exact Bool.eq_false_iff.2 (hfirst j hj)
  refine ⟨p.blocks[index], List.getElem?_eq_getElem hindex, ?_⟩
  rw [loopBody?, hfound, Option.map_some]

theorem editLoop_eq_self {edit : List Block → List Block}
    (h : ∀ body ∈ p.loopBody? loop, edit body = body) : p.editLoop loop edit = p := by
  unfold editLoop
  split
  · rename_i index hindex
    obtain ⟨b, hb, hbody⟩ := loopBody?_of_loopIndex? hindex
    have hkept : p.blocks.modify index (fun b => b.withBody (edit b.body)) = p.blocks := by
      refine modify_of_fixed fun c hc => ?_
      obtain rfl : b = c := Option.some.inj (hb.symm.trans hc)
      rw [h _ hbody, Block.withBody_body]
    rw [hkept]
  · rfl

theorem editLoop_of_loopless (h : ∀ b ∈ p.blocks, b.id = loop → b.isLoop = false)
    (edit : List Block → List Block) : p.editLoop loop edit = p := by
  refine editLoop_eq_self fun body hbody => ?_
  rw [loopBody?_eq_none_iff.2 h] at hbody
  cases hbody

theorem loopRemarks_eq_nil_iff {edit : String} {onBody : List Block → List Event} :
    p.loopRemarks loop edit onBody = [] ↔ ∃ body ∈ p.loopBody? loop, onBody body = [] := by
  unfold loopRemarks
  split
  · rename_i body hbody
    simp [hbody]
  · rename_i hbody
    simp [hbody]

theorem loopRemarks_child_eq_nil_iff {edit : String} {event : Event} :
    (p.loopRemarks loop edit fun body => if body.any fun c => c.id = target then [] else [event]) = []
      ↔ ¬ ∀ body ∈ p.loopBody? loop, Block.Absent target body := by
  rw [loopRemarks_eq_nil_iff, not_forall]
  refine exists_congr fun body => ?_
  rw [Classical.not_imp, ← Block.any_eq_false_iff_absent]
  simp

end Program

namespace Edit

variable {e : Edit} {p : Program}

theorem apply_of_misses (h : e.Misses p) : e.apply p = p := by
  cases e with
  | append b => exact h.elim
  | replace target b =>
    have hcontains : p.contains target = false := Program.contains_eq_false_iff.2 h
    simp [apply, Program.replace, hcontains]
  | delete target => exact congrArg Program.mk (Block.filter_eq_self_of_absent h)
  | addToLoop loop b => exact Program.editLoop_of_loopless h fun body => body ++ [b]
  | updateInLoop loop b =>
    exact Program.editLoop_eq_self fun body hbody => replaceChildren_eq_self (h body hbody)
  | deleteFromLoop loop target =>
    exact Program.editLoop_eq_self fun body hbody =>
      Block.filter_eq_self_of_absent (h body hbody)
  | reorder source place =>
    have hblock : p.blocks[source]? = none := List.getElem?_eq_none h
    simp [apply, Program.reorder, hblock]

theorem remarks_eq_nil_iff : e.remarks p = [] ↔ ¬ e.Misses p := by
  cases e with
  | append b => simp [remarks, Misses]
  | replace target b =>
    rw [remarks, Misses, ← Program.contains_eq_false_iff]
    simp
  | delete target =>
    rw [remarks, Misses, ← Block.any_eq_false_iff_absent]
    simp [Program.position?]
  | addToLoop loop b =>
    rw [remarks, Misses, Program.loopRemarks_eq_nil_iff, ← Program.loopBody?_eq_none_iff]
    simp [Option.eq_none_iff_forall_not_mem]
  | updateInLoop loop b => exact Program.loopRemarks_child_eq_nil_iff
  | deleteFromLoop loop target => exact Program.loopRemarks_child_eq_nil_iff
  | reorder source place => simp [remarks, Misses]

end Edit

def Sprite.sentBack (p : Sprite) : Sprite := { p with cursor := 0, complete := false }

theorem Sprite.sentBack_eq_self_iff (p : Sprite) :
    p.sentBack = p ↔ p.cursor = 0 ∧ p.complete = false := by
  cases p
  simp [sentBack, eq_comm]

namespace Stage

variable {s : Stage}

def sendSelectedBack (s : Stage) : Stage :=
  { s with sprites := s.sprites.map fun p => if p.id = s.selected then p.sentBack else p }

theorem Reachable.editSelected_eq_map (reachable : s.Reachable) (e : Edit) :
    s.editSelected e = { s with
      sprites := s.sprites.map fun q =>
        if q.id = s.selected then q.edited (e.apply q.program) else q } := by
  obtain ⟨p, hp, hselected, -⟩ := reachable.exists_selected
  cases hfound : s.selectedIndex? with
  | none =>
    have habsent := List.findIdx?_eq_none_iff.1 hfound p hp
    simp [hselected] at habsent
  | some index =>
    obtain ⟨hindex, hid, -⟩ := List.findIdx?_eq_some_iff_getElem.1 hfound
    have hselected : s.sprites[index].id = s.selected := of_decide_eq_true hid
    simp only [editSelected, hfound]
    congr 1
    refine List.ext_getElem (by simp) fun j hj _ => ?_
    have hj' : j < s.sprites.length := by simpa using hj
    have hplace : s.sprites[j].id = s.selected ↔ index = j := by
      rw [← hselected, eq_comm, ← List.getElem_map Sprite.id (h := by simpa using hindex),
        ← List.getElem_map Sprite.id (h := by simpa using hj')]
      exact reachable.nodup_ids.getElem_inj_iff
    rw [List.getElem_modify, List.getElem_map]
    simp only [hplace]

theorem Reachable.map_selected_congr (reachable : s.Reachable) {p : Sprite}
    (found : s.sprite? s.selected = some p) {f g : Sprite → Sprite} (h : f p = g p) :
    s.sprites.map (fun q => if q.id = s.selected then f q else q) =
      s.sprites.map fun q => if q.id = s.selected then g q else q := by
  refine List.map_congr_left fun q hq => ?_
  by_cases hid : q.id = s.selected
  · have hfound : s.sprite? s.selected = some q := reachable.sprite?_eq_some_iff.2 ⟨hq, hid⟩
    obtain rfl : q = p := Option.some.inj (hfound.symm.trans found)
    rw [if_pos hid, if_pos hid, h]
  · rw [if_neg hid, if_neg hid]

theorem Reachable.editSelected_eq_sendSelectedBack (reachable : s.Reachable) {p : Sprite} {e : Edit}
    (found : s.sprite? s.selected = some p) (misses : e.Misses p.program) :
    s.editSelected e = s.sendSelectedBack := by
  have hback : p.edited (e.apply p.program) = p.sentBack := by
    rw [Edit.apply_of_misses misses]
    rfl
  have hsprites :=
    reachable.map_selected_congr found (f := fun q => q.edited (e.apply q.program)) hback
  rw [reachable.editSelected_eq_map, hsprites, sendSelectedBack]

theorem Reachable.sendSelectedBack_eq_self_iff (reachable : s.Reachable) {p : Sprite}
    (found : s.sprite? s.selected = some p) :
    s.sendSelectedBack = s ↔ p.cursor = 0 ∧ p.complete = false := by
  rw [← p.sentBack_eq_self_iff]
  constructor
  · intro hsame
    obtain ⟨hp, hselected⟩ := reachable.sprite?_eq_some_iff.1 found
    have hmoved : p.sentBack ∈ s.sendSelectedBack.sprites :=
      List.mem_map.2 ⟨p, hp, if_pos hselected⟩
    rw [hsame] at hmoved
    have hfound : s.sprite? s.selected = some p.sentBack :=
      reachable.sprite?_eq_some_iff.2 ⟨hmoved, hselected⟩
    exact Option.some.inj (hfound.symm.trans found)
  · intro hstart
    have hsprites := reachable.map_selected_congr found (f := Sprite.sentBack) (g := id) hstart
    rw [sendSelectedBack, hsprites]
    simp

/-- An edit that finds no target in the program of the selected sprite is reported, and all it does
is to send that sprite back to the start. So the stage stays as it was exactly if the sprite is at the
start and not complete. -/
theorem Reachable.editSelected_of_misses (reachable : s.Reachable) :
    ∃ p, s.sprite? s.selected = some p ∧
      ∀ e : Edit, (s.editSelectedLog e ≠ [] ↔ e.Misses p.program) ∧
        (e.Misses p.program →
          s.editSelected e = s.sendSelectedBack ∧
            (s.editSelected e = s ↔ p.cursor = 0 ∧ p.complete = false)) := by
  obtain ⟨p, -, -, found⟩ := reachable.exists_selected
  refine ⟨p, found, fun e => ⟨?_, fun misses => ?_⟩⟩
  · rw [editSelectedLog, found, ne_eq, Edit.remarks_eq_nil_iff, not_not]
  · have hback := reachable.editSelected_eq_sendSelectedBack found misses
    refine ⟨hback, ?_⟩
    rw [hback]
    exact reachable.sendSelectedBack_eq_self_iff found

def halfway : Stage :=
  Operation.applyAll
    [.takeBlockId, .edit (.append (.act ⟨2⟩ false (.move 10 0))),
      .takeBlockId, .edit (.append (.act ⟨3⟩ false (.move 10 0))),
      .start, .setClock 1000, .pump] (.new 0 {})

theorem editSelected_of_misses_halfway :
    halfway.Reachable ∧ ∃ p, halfway.sprite? halfway.selected = some p ∧
      (Edit.delete ⟨99⟩).Misses p.program ∧
      halfway.editSelectedLog (.delete ⟨99⟩) ≠ [] ∧
      halfway.editSelected (.delete ⟨99⟩) = halfway.sendSelectedBack := by
  have reachable : halfway.Reachable := (Reachable.new 0 {}).applyAll _
  obtain ⟨p, found, hedit⟩ := reachable.editSelected_of_misses
  have misses : (Edit.delete ⟨99⟩).Misses p.program := by
    refine (hedit (.delete ⟨99⟩)).1.1 ?_
    decide
  exact ⟨reachable, p, found, misses, (hedit _).1.2 misses, ((hedit _).2 misses).1⟩

theorem missed_delete_sends_back :
    halfway.Reachable ∧ halfway.isRunning = true ∧
      (∀ p ∈ halfway.sprites, (Edit.delete ⟨99⟩).Misses p.program) ∧
      halfway.sprites.map Sprite.cursor = [1] ∧
      (halfway.editSelected (.delete ⟨99⟩)).sprites.map Sprite.cursor = [0] ∧
      halfway.editSelected (.delete ⟨99⟩) ≠ halfway := by
  have reachable : halfway.Reachable := (Reachable.new 0 {}).applyAll _
  have hbefore : halfway.sprites.map Sprite.cursor = [1] := by decide
  have hafter : (halfway.editSelected (.delete ⟨99⟩)).sprites.map Sprite.cursor = [0] := by
    decide
  refine ⟨reachable, by decide, ?_, hbefore, hafter, fun hsame => ?_⟩
  · show ∀ p ∈ halfway.sprites, ∀ b ∈ p.program.blocks, b.id ≠ ⟨99⟩
    decide
  · rw [hsame, hbefore] at hafter
    cases hafter

end Stage

end SpriteStage
