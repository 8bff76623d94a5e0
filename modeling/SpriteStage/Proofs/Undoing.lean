import SpriteStage.Proofs.InsideLoops
import SpriteStage.Proofs.Replacing
/-!
Edits that come to the same and edits that take each other back. A replacement goes to every block of
an identity that a look-up can see, an update inside a loop only to children of one loop. If no
identity can be seen twice, both reach the same child. What was added at the end is taken away again
by its identity, unless a block that was there before has it as well.
-/

namespace SpriteStage

/-- The identities that a look-up sees in a block: its own and those directly in its body. -/
def Block.seenIds (b : Block) : List BlockId := b.id :: b.body.map Block.id

def Program.seenIds (p : Program) : List BlockId := p.blocks.flatMap Block.seenIds

variable {id loop : BlockId} {b r u : Block} {p : Program} {before body after : List Block}
  {executed : Bool} {count : Option Nat}

theorem not_mem_seenIds_iff : id ∉ b.seenIds ↔ b.id ≠ id ∧ Block.Absent id b.body := by
  simp [Block.seenIds, Block.Absent, eq_comm]

theorem not_mem_seenIds_of_nodup
    (nodup : ((before ++ b :: after).flatMap Block.seenIds).Nodup) (hid : id ∈ b.seenIds) :
    ∀ c ∈ before ++ after, id ∉ c.seenIds := by
  have hfirst : ((b :: (before ++ after)).flatMap Block.seenIds).Nodup :=
    (List.perm_middle.flatMap_right _).nodup_iff.1 nodup
  rw [List.flatMap_cons, List.nodup_append] at hfirst
  obtain ⟨-, -, apart⟩ := hfirst
  intro c hc hmem
  exact apart id hid id (List.mem_flatMap_of_mem hc hmem) rfl

namespace Program

theorem contains_iff : p.contains id = true ↔ id ∈ p.seenIds := by
  rw [← not_iff_not, Bool.not_eq_true, contains_eq_false_iff, seenIds, List.mem_flatMap]
  constructor
  · rintro ⟨htop, hbodies⟩ ⟨b, hb, hid⟩
    exact not_mem_seenIds_iff.2 ⟨htop b hb, hbodies b hb⟩ hid
  · intro h
    have hunseen : ∀ b ∈ p.blocks, b.id ≠ id ∧ Block.Absent id b.body :=
      fun b hb => not_mem_seenIds_iff.1 fun hid => h ⟨b, hb, hid⟩
    exact ⟨fun b hb => (hunseen b hb).1, fun b hb => (hunseen b hb).2⟩

theorem replaceIn_of_not_mem_seenIds (h : id ∉ b.seenIds) : replaceIn id r b = b := by
  obtain ⟨hb, hbody⟩ := not_mem_seenIds_iff.1 h
  have hchild := Block.any_eq_false_iff_absent.2 hbody
  exact replaceIn_of_absent hb (by simp [hchild])

theorem replace_of_seen_once (hblocks : p.blocks = before ++ b :: after) (nodup : p.seenIds.Nodup)
    (hid : id ∈ b.seenIds) : p.replace id r = ⟨before ++ replaceIn id r b :: after⟩ := by
  have hcontains : p.contains id = true := by
    refine contains_iff.2 (List.mem_flatMap_of_mem ?_ hid)
    simp [hblocks]
  rw [seenIds, hblocks] at nodup
  have hothers := not_mem_seenIds_of_nodup nodup hid
  have hsame : ∀ c ∈ before ++ after, replaceIn id r c = c :=
    fun c hc => replaceIn_of_not_mem_seenIds (hothers c hc)
  have hbefore : before.map (replaceIn id r) = before :=
    (List.map_congr_left fun c hc => hsame c (List.mem_append_left _ hc)).trans (List.map_id _)
  have hafter : after.map (replaceIn id r) = after :=
    (List.map_congr_left fun c hc => hsame c (List.mem_append_right _ hc)).trans (List.map_id _)
  rw [replace_of_contains hcontains, hblocks, List.map_append, List.map_cons, hbefore, hafter]

theorem replaceIn_loop (nodup : (Block.loop loop executed count body).seenIds.Nodup)
    (child : id ∈ body.map Block.id) :
    replaceIn id r (.loop loop executed count body) =
      .loop loop executed count (replaceChildren id r body) := by
  have hself : loop ≠ id := by
    rintro rfl
    exact (List.nodup_cons.1 nodup).1 child
  obtain ⟨c, hc, hid⟩ := List.mem_map.1 child
  have hchild : body.any fun c => c.id = id := List.any_eq_true.2 ⟨c, hc, by simpa using hid⟩
  exact replaceIn_of_child hself hchild

theorem firstLoop_of_nodup (hblocks : p.blocks = before ++ .loop loop executed count body :: after)
    (nodup : p.seenIds.Nodup) : p.FirstLoop loop before executed count body after := by
  have hseen : loop ∈ (Block.loop loop executed count body).seenIds := List.mem_cons_self
  rw [seenIds, hblocks] at nodup
  have hothers := not_mem_seenIds_of_nodup nodup hseen
  refine ⟨hblocks, fun c hc hid => ?_⟩
  exact absurd hid (not_mem_seenIds_iff.1 (hothers c (List.mem_append_left _ hc))).1

theorem updateInLoop_eq_replace (nodup : p.seenIds.Nodup)
    (hloop : .loop loop executed count body ∈ p.blocks) (child : u.id ∈ body.map Block.id) :
    p.updateInLoop loop u = p.replace u.id u := by
  obtain ⟨before, after, hblocks⟩ := List.append_of_mem hloop
  have hseen : u.id ∈ (Block.loop loop executed count body).seenIds := List.mem_cons_of_mem _ child
  have hown : (Block.loop loop executed count body).seenIds.Nodup :=
    (List.nodup_flatMap.1 nodup).1 _ hloop
  rw [updateInLoop, (firstLoop_of_nodup hblocks nodup).editLoop,
    replace_of_seen_once hblocks nodup hseen, replaceIn_loop hown child]

theorem delete_append (absent : Block.Absent b.id p.blocks) : (p.append b).delete b.id = p := by
  simp only [append, delete, List.filter_append, Block.filter_eq_self_of_absent absent]
  simp

theorem deleteFromLoop_addToLoop
    (absent : ∀ before executed count body after,
      p.FirstLoop loop before executed count body after → Block.Absent b.id body) :
    (p.addToLoop loop b).deleteFromLoop loop b.id = p := by
  rcases p.noLoop_or_firstLoop loop with hnone | ⟨before, executed, count, body, after, hfirst⟩
  · rw [addToLoop, editLoop_of_loopless hnone, deleteFromLoop, editLoop_of_loopless hnone]
  · have hbody := Block.filter_eq_self_of_absent (absent _ _ _ _ _ hfirst)
    rw [addToLoop, hfirst.editLoop, deleteFromLoop, (hfirst.refilled _).editLoop,
      List.filter_append, hbody]
    simp [← hfirst.blocks_eq]

/-- Where no identity is seen twice, updating a child of a loop is replacing the block. In every
program, what was added at the end of the program or of a loop can be deleted there again, and the
program is as before, unless a block with its identity was there already. -/
theorem edits_agree_and_undo (p : Program) :
    (p.seenIds.Nodup → ∀ loop executed count body u, .loop loop executed count body ∈ p.blocks →
        u.id ∈ body.map Block.id → p.updateInLoop loop u = p.replace u.id u) ∧
      (∀ b, Block.Absent b.id p.blocks → (p.append b).delete b.id = p) ∧
      ∀ loop b, (∀ before executed count body after,
        p.FirstLoop loop before executed count body after → Block.Absent b.id body) →
          (p.addToLoop loop b).deleteFromLoop loop b.id = p :=
  ⟨fun nodup _ _ _ _ _ => updateInLoop_eq_replace nodup, fun _ => delete_append,
    fun _ _ => deleteFromLoop_addToLoop⟩

theorem edits_agree_and_undo_nested :
    let say (n : Nat) : Block := .act ⟨n⟩ false (.say "hi" 1)
    let body : List Block := [say 3, .loop ⟨4⟩ true none [say 1, say 3]]
    let p : Program := ⟨[say 1, .loop ⟨2⟩ true (some 3) body, say 5]⟩
    let u : Block := .loop ⟨4⟩ false (some 2) [say 4]
    p.seenIds.Nodup ∧ .loop ⟨2⟩ true (some 3) body ∈ p.blocks ∧ u.id ∈ body.map Block.id ∧
      p.updateInLoop ⟨2⟩ u = p.replace ⟨4⟩ u ∧
      Block.Absent ⟨3⟩ p.blocks ∧ (p.append (say 3)).delete ⟨3⟩ = p ∧
      (p.addToLoop ⟨2⟩ (say 1)).deleteFromLoop ⟨2⟩ ⟨1⟩ = p := by
  intro say body p u
  have nodup : p.seenIds.Nodup := by decide
  have hloop : .loop ⟨2⟩ true (some 3) body ∈ p.blocks := by simp [p]
  have child : u.id ∈ body.map Block.id := by decide
  have absent : Block.Absent ⟨3⟩ p.blocks := by
    show ∀ b ∈ p.blocks, b.id ≠ ⟨3⟩
    decide
  have absentChild : ∀ before executed count body' after,
      p.FirstLoop ⟨2⟩ before executed count body' after → Block.Absent ⟨1⟩ body' := by
    intro before executed count body' after hfirst
    have hmem : Block.loop ⟨2⟩ executed count body' ∈ p.blocks := by simp [hfirst.blocks_eq]
    obtain ⟨-, -, rfl⟩ : executed = true ∧ count = some 3 ∧ body' = body := by
      simpa [p, say] using hmem
    show ∀ c ∈ body, c.id ≠ ⟨1⟩
    decide
  obtain ⟨hagree, hdelete, hundo⟩ := p.edits_agree_and_undo
  exact ⟨nodup, hloop, child, hagree nodup ⟨2⟩ true (some 3) body u hloop child, absent,
    hdelete (say 3) absent, hundo ⟨2⟩ (say 1) absentChild⟩

end Program

end SpriteStage
