import SpriteStage.Program.Edit
/-!
Replacing a block and looking it up. A look-up stops at the first match, at top level or directly in a
body, while a replacement goes to all of them. A block that keeps the identity it replaces is found
where the old one was, hides it from any later replacement, and moves no identity to another place.
-/

namespace SpriteStage

theorem Block.withBody_withBody (blocks others : List Block) (b : Block) :
    (b.withBody blocks).withBody others = b.withBody others := by
  cases b <;> rfl

variable {id : BlockId} {r other : Block}

theorem find?_replaceChildren (own : r.id = id) (children : List Block) :
    ((replaceChildren id r children).find? fun c => c.id = id) =
      (children.find? fun c => c.id = id).map fun _ => r := by
  induction children with
  | nil => rfl
  | cons c cs ih =>
    rw [replaceChildren, List.map_cons]
    by_cases hc : c.id = id
    · rw [if_pos hc, List.find?_cons_of_pos (by simpa using own),
        List.find?_cons_of_pos (by simpa using hc), Option.map_some]
    · rw [if_neg hc, List.find?_cons_of_neg (by simpa using hc),
        List.find?_cons_of_neg (by simpa using hc)]
      exact ih

theorem any_replaceChildren (own : r.id = id) (children : List Block) :
    ((replaceChildren id r children).any fun c => c.id = id) =
      children.any fun c => c.id = id := by
  rw [← List.isSome_find?, find?_replaceChildren own, Option.isSome_map, List.isSome_find?]

theorem replaceChildren_replaceChildren (own : r.id = id) (children : List Block) :
    replaceChildren id other (replaceChildren id r children) = replaceChildren id other children := by
  rw [replaceChildren, replaceChildren, replaceChildren, List.map_map]
  refine List.map_congr_left fun c _ => ?_
  rw [Function.comp_apply]
  by_cases hc : c.id = id
  · rw [if_pos hc, if_pos own, if_pos hc]
  · rw [if_neg hc]

namespace Program

variable {b : Block}

/-! ### One block of a program -/

theorem replaceIn_of_id (hb : b.id = id) : replaceIn id r b = r := if_pos hb

theorem replaceIn_of_child (hb : b.id ≠ id) (hchild : b.body.any fun c => c.id = id) :
    replaceIn id r b = b.withBody (replaceChildren id r b.body) := by
  rw [replaceIn, if_neg hb, if_pos hchild]

theorem replaceIn_of_absent (hb : b.id ≠ id) (hchild : ¬ b.body.any fun c => c.id = id) :
    replaceIn id r b = b := by
  rw [replaceIn, if_neg hb, if_neg hchild]

theorem body_withBody_of_child (hchild : b.body.any fun c => c.id = id) (blocks : List Block) :
    (b.withBody blocks).body = blocks := by
  cases b with
  | act => simp [Block.body] at hchild
  | loop => rfl

theorem id_replaceIn (own : r.id = id) (b : Block) : (replaceIn id r b).id = b.id := by
  by_cases hb : b.id = id
  · rw [replaceIn_of_id hb, own, hb]
  · by_cases hchild : b.body.any fun c => c.id = id
    · rw [replaceIn_of_child hb hchild, Block.id_withBody]
    · rw [replaceIn_of_absent hb hchild]

theorem findIn?_replaceIn (own : r.id = id) (b : Block) :
    findIn? id (replaceIn id r b) = (findIn? id b).map fun _ => r := by
  by_cases hb : b.id = id
  · rw [replaceIn_of_id hb, findIn?, findIn?, if_pos own, if_pos hb, Option.map_some]
  · rw [findIn?, findIn?, id_replaceIn own, if_neg hb, if_neg hb]
    by_cases hchild : b.body.any fun c => c.id = id
    · rw [replaceIn_of_child hb hchild, body_withBody_of_child hchild, find?_replaceChildren own]
    · have hnone : (b.body.find? fun c => c.id = id) = none := by
        rw [← Option.isNone_iff_eq_none, ← Option.isSome_eq_false_iff, List.isSome_find?]
        exact Bool.eq_false_iff.2 hchild
      rw [replaceIn_of_absent hb hchild, hnone, Option.map_none]

theorem replaceIn_replaceIn (own : r.id = id) (b : Block) :
    replaceIn id other (replaceIn id r b) = replaceIn id other b := by
  by_cases hb : b.id = id
  · rw [replaceIn_of_id hb, replaceIn_of_id own, replaceIn_of_id hb]
  · by_cases hchild : b.body.any fun c => c.id = id
    · have hbody := body_withBody_of_child hchild (replaceChildren id r b.body)
      have hid : (b.withBody (replaceChildren id r b.body)).id ≠ id := by rwa [Block.id_withBody]
      have hstill : (b.withBody (replaceChildren id r b.body)).body.any fun c => c.id = id := by
        rwa [hbody, any_replaceChildren own]
      rw [replaceIn_of_child hb hchild, replaceIn_of_child hid hstill, hbody,
        replaceChildren_replaceChildren own, Block.withBody_withBody, replaceIn_of_child hb hchild]
    · rw [replaceIn_of_absent hb hchild]

/-! ### Whole programs -/

theorem replace_of_contains {p : Program} (h : p.contains id = true) :
    p.replace id r = ⟨p.blocks.map (replaceIn id r)⟩ := if_pos h

theorem replace_of_not_contains {p : Program} (h : p.contains id = false) :
    p.replace id r = p := by
  rw [replace, h]
  rfl

theorem find?_replace (own : r.id = id) (p : Program) :
    (p.replace id r).find? id = (p.find? id).map fun _ => r := by
  cases h : p.contains id with
  | true =>
    rw [replace_of_contains h, find?, find?, List.findSome?_map, List.map_findSome?]
    exact congrArg (List.findSome? · p.blocks) (funext (findIn?_replaceIn own))
  | false =>
    have hnone : p.find? id = none := by rwa [contains, Option.isSome_eq_false_iff,
      Option.isNone_iff_eq_none] at h
    rw [replace_of_not_contains h, hnone, Option.map_none]

theorem contains_replace (own : r.id = id) (p : Program) :
    (p.replace id r).contains id = p.contains id := by
  rw [contains, find?_replace own, Option.isSome_map, contains]

theorem replace_replace (own : r.id = id) (p : Program) :
    (p.replace id r).replace id other = p.replace id other := by
  cases h : p.contains id with
  | true =>
    have hstill : (p.replace id r).contains id = true := (contains_replace own p).trans h
    rw [replace_of_contains hstill, replace_of_contains h, replace_of_contains h, List.map_map]
    exact congrArg _ (List.map_congr_left fun b _ => replaceIn_replaceIn own b)
  | false => rw [replace_of_not_contains h]

theorem position?_replace (own : r.id = id) (p : Program) (k : BlockId) :
    (p.replace id r).position? k = p.position? k := by
  cases h : p.contains id with
  | true =>
    rw [replace_of_contains h, position?, position?, List.findIdx?_map]
    refine congrArg (List.findIdx? · p.blocks) (funext fun b => ?_)
    rw [Function.comp_apply, id_replaceIn own]
  | false => rw [replace_of_not_contains h]

/-- Replacing and looking up obey the laws of a lens, also where an identity is there several times, at
top level and in bodies, and where the new block is a loop that holds the same identity again. -/
theorem replace_lens (p : Program) (id : BlockId) (r other : Block) :
    (p.contains id = false → p.replace id other = p) ∧
      (r.id = id →
        (p.contains id = true → (p.replace id r).find? id = some r) ∧
          (p.replace id r).replace id other = p.replace id other ∧
          ∀ k, (p.replace id r).position? k = p.position? k) := by
  refine ⟨replace_of_not_contains, fun own => ⟨fun h => ?_, replace_replace own p, ?_⟩⟩
  · obtain ⟨b, hb⟩ := Option.isSome_iff_exists.1 h
    rw [find?_replace own, hb, Option.map_some]
  · exact position?_replace own p

theorem replace_lens_repeated :
    let say (n : Nat) : Block := .act ⟨n⟩ false (.say "hi" 1)
    let p : Program := ⟨[say 1, .loop ⟨2⟩ true (some 3) [say 7, say 1, say 7], say 7, say 2]⟩
    let r : Block := .loop ⟨7⟩ false none [say 7, .loop ⟨7⟩ true none []]
    r.id = ⟨7⟩ ∧ p.contains ⟨7⟩ = true ∧ (p.replace ⟨7⟩ r).find? ⟨7⟩ = some r ∧
      (p.replace ⟨7⟩ r).replace ⟨7⟩ (say 9) = p.replace ⟨7⟩ (say 9) ∧
      (p.replace ⟨7⟩ r).position? ⟨2⟩ = p.position? ⟨2⟩ ∧
      p.contains ⟨8⟩ = false ∧ p.replace ⟨8⟩ (say 9) = p := by
  intro say p r
  have hcontains : p.contains ⟨7⟩ = true := by decide
  have habsent : p.contains ⟨8⟩ = false := by decide
  obtain ⟨-, hlens⟩ := p.replace_lens ⟨7⟩ r (say 9)
  obtain ⟨hfind, htwice, hposition⟩ := hlens rfl
  exact ⟨rfl, hcontains, hfind hcontains, htwice, hposition ⟨2⟩, habsent,
    (p.replace_lens ⟨8⟩ r (say 9)).1 habsent⟩

end Program

end SpriteStage
