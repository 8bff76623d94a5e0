import SpriteStage.Proofs.Reordering
import SpriteStage.Proofs.Roster
/-!
Unique blocks. If every block that an edit brings has only identities that the stage has given out and
that are in no program yet, then no two blocks on the stage ever have the same identity, in whatever
programs and at whatever depth. A block that is brought for another one may also have the identity of
that one. The proofs count how often an identity occurs: an edit adds no occurrences but those it
brings, and whatever else is done adds none.
-/

namespace SpriteStage

section Counting

variable {α β : Type} [BEq β] {g : α → List β} {f : α → α} {xs : List α} {x : β} {n : Nat}

theorem count_flatMap_modify (h : ∀ a ∈ xs, (g (f a)).count x ≤ (g a).count x + n) (index : Nat) :
    ((xs.modify index f).flatMap g).count x ≤ (xs.flatMap g).count x + n := by
  by_cases hindex : index < xs.length
  · obtain ⟨before, a, after, rfl, -, hmodify⟩ := List.exists_of_modify f hindex
    have ha := h a (by simp)
    rw [hmodify]
    simp only [List.flatMap_append, List.flatMap_cons, List.count_append]
    omega
  · rw [List.modify_eq_self (by omega)]
    omega

theorem count_flatMap_filter (p : α → Bool) (xs : List α) (x : β) :
    ((xs.filter p).flatMap g).count x ≤ (xs.flatMap g).count x := by
  induction xs with
  | nil => exact Nat.le_refl _
  | cons a as ih =>
    rw [List.filter_cons]
    split
    · simp only [List.flatMap_cons, List.count_append]
      omega
    · simp only [List.flatMap_cons, List.count_append]
      omega

end Counting

namespace Edit

def ids (e : Edit) : List BlockId := (e.block?.map Block.ids).getD []

def replaced? : Edit → Option BlockId
  | replace target _ => some target
  | updateInLoop _ b => some b.id
  | _ => none

def newIds (e : Edit) : List BlockId := e.ids.filter fun id => some id ≠ e.replaced?

variable {e : Edit} {p : Program} {target loop : BlockId} {b c : Block} {x : BlockId} {n : Nat}

/-! ### Replacing a block -/

theorem count_ids_replacement (hb : b.ids.Nodup) (hc : target ∈ c.ids) :
    b.ids.count x ≤ c.ids.count x + (b.ids.filter fun id => some id ≠ some target).count x := by
  by_cases hx : x = target
  · rw [hx]
    have hone : b.ids.count target ≤ 1 := List.nodup_iff_count.1 hb target
    have hpos : 0 < c.ids.count target := List.count_pos_iff.2 hc
    omega
  · rw [List.count_filter (by simpa using hx)]
    omega

theorem count_ids_map {f : Block → Block} {bs : List Block}
    (keeps : ∀ c, target ∉ c.ids → f c = c)
    (grows : ∀ c ∈ bs, target ∈ c.ids → (f c).ids.count x ≤ c.ids.count x + n)
    (distinct : (bs.flatMap Block.ids).Nodup) :
    ((bs.map f).flatMap Block.ids).count x ≤ (bs.flatMap Block.ids).count x + n := by
  induction bs with
  | nil => simp
  | cons c cs ih =>
    rw [List.flatMap_cons, List.nodup_append] at distinct
    obtain ⟨-, hrest, hapart⟩ := distinct
    simp only [List.map_cons, List.flatMap_cons, List.count_append]
    by_cases hc : target ∈ c.ids
    · have hothers : cs.map f = cs := by
        refine (List.map_congr_left fun d hd => keeps d fun hmem => ?_).trans (List.map_id cs)
        exact hapart target hc target (List.mem_flatMap_of_mem hd hmem) rfl
      have hchanged := grows c List.mem_cons_self hc
      rw [hothers]
      omega
    · have hlater := ih (fun d hd => grows d (List.mem_cons_of_mem c hd)) hrest
      rw [keeps c hc]
      omega

theorem count_ids_replaceChildren {children : List Block} (hb : b.ids.Nodup)
    (distinct : (children.flatMap Block.ids).Nodup) :
    ((replaceChildren target b children).flatMap Block.ids).count x ≤
      (children.flatMap Block.ids).count x +
        (b.ids.filter fun id => some id ≠ some target).count x := by
  have hkeeps : ∀ c : Block, target ∉ c.ids → (if c.id = target then b else c) = c := by
    intro c hc
    have hne : c.id ≠ target := by
      rintro rfl
      exact hc (by rw [Block.ids_eq]; exact List.mem_cons_self)
    exact if_neg hne
  refine count_ids_map hkeeps (fun c _ hc => ?_) distinct
  split
  · exact count_ids_replacement hb hc
  · omega

theorem count_ids_withBody {body : List Block}
    (h : (body.flatMap Block.ids).count x ≤ (b.body.flatMap Block.ids).count x + n) :
    (b.withBody body).ids.count x ≤ b.ids.count x + n := by
  cases b with
  | act => exact Nat.le_add_right _ _
  | loop id executed count old =>
    have hbody : (body.flatMap Block.ids).count x ≤ (old.flatMap Block.ids).count x + n := h
    have hnew : ((Block.loop id executed count old).withBody body).ids =
        id :: body.flatMap Block.ids := Block.ids_eq _
    have hold : (Block.loop id executed count old).ids = id :: old.flatMap Block.ids :=
      Block.ids_eq _
    rw [hnew, hold, List.count_cons, List.count_cons]
    omega

theorem replaceIn_of_not_mem (h : target ∉ c.ids) (b : Block) : Program.replaceIn target b c = c := by
  rw [Block.ids_eq, List.mem_cons, not_or] at h
  have hchild : ¬ c.body.any (fun d => d.id = target) = true := by
    intro hany
    obtain ⟨d, hd, heq⟩ := List.any_eq_true.1 hany
    refine h.2 (List.mem_flatMap_of_mem hd ?_)
    rw [Block.ids_eq, of_decide_eq_true heq]
    exact List.mem_cons_self
  rw [Program.replaceIn, if_neg (Ne.symm h.1), if_neg hchild]

theorem count_ids_replace (hb : b.ids.Nodup) (distinct : p.ids.Nodup) :
    (p.replace target b).ids.count x ≤
      p.ids.count x + (b.ids.filter fun id => some id ≠ some target).count x := by
  unfold Program.replace
  split
  · refine count_ids_map (fun c (hc : target ∉ c.ids) => replaceIn_of_not_mem hc b)
      (fun c hc hmem => ?_) distinct
    unfold Program.replaceIn
    split
    · exact count_ids_replacement hb hmem
    · split
      · have hdistinct : c.ids.Nodup := (List.nodup_flatMap.1 distinct).1 c hc
        rw [Block.ids_eq, List.nodup_cons] at hdistinct
        exact count_ids_withBody (count_ids_replaceChildren hb hdistinct.2)
      · omega
  · omega

/-! ### All edits -/

theorem count_ids_editLoop {edit : List Block → List Block}
    (h : ∀ body : List Block, (body.flatMap Block.ids).Nodup →
      ((edit body).flatMap Block.ids).count x ≤ (body.flatMap Block.ids).count x + n)
    (distinct : p.ids.Nodup) : (p.editLoop loop edit).ids.count x ≤ p.ids.count x + n := by
  unfold Program.editLoop
  split
  · refine count_flatMap_modify (fun c hc => ?_) _
    have hdistinct : c.ids.Nodup := (List.nodup_flatMap.1 distinct).1 c hc
    rw [Block.ids_eq, List.nodup_cons] at hdistinct
    exact count_ids_withBody (h c.body hdistinct.2)
  · omega

theorem ids_reorder_perm (p : Program) (source place : Nat) :
    (p.reorder source place).ids.Perm p.ids :=
  (p.reorder_perm source place).flatMap_right Block.ids

theorem count_ids_apply (hbrought : e.ids.Nodup) (distinct : p.ids.Nodup) (x : BlockId) :
    (e.apply p).ids.count x ≤ p.ids.count x + e.newIds.count x := by
  cases e with
  | append b =>
    have hids : (p.append b).ids = p.ids ++ b.ids := by simp [Program.append, Program.ids]
    rw [apply, hids, List.count_append]
    simp [newIds, ids, block?, replaced?]
  | replace target b => exact count_ids_replace hbrought distinct
  | delete target => exact Nat.le_add_right_of_le (count_flatMap_filter _ p.blocks x)
  | addToLoop loop b =>
    refine count_ids_editLoop (fun body _ => ?_) distinct
    rw [List.flatMap_append, List.count_append]
    simp [newIds, ids, block?, replaced?]
  | updateInLoop loop b =>
    exact count_ids_editLoop (fun body hbody => count_ids_replaceChildren hbrought hbody) distinct
  | deleteFromLoop loop target =>
    refine count_ids_editLoop (fun body _ => ?_) distinct
    exact Nat.le_add_right_of_le (count_flatMap_filter _ body x)
  | reorder source place =>
    have hcount := (ids_reorder_perm p source place).count_eq x
    rw [apply, hcount]
    exact Nat.le_add_right _ _

end Edit

namespace Operation

def MayUse (free : List BlockId) : Operation → Prop
  | edit e => e.ids.Nodup ∧ ∀ id ∈ e.newIds, id ∈ free
  | _ => True

/-- The identities that are given out for blocks and have come into no program, after an operation. -/
def stillFree (s : Stage) (free : List BlockId) : Operation → List BlockId
  | takeBlockId => s.ids.block :: free
  | edit e => free.filter fun id => id ∉ (s.editSelected e).blockIds
  | _ => free

/-- Whether a history uses no identity twice, and none that is not given out by the stage. -/
def UseOnce (free : List BlockId) : List Operation → Stage → Prop
  | [], _ => True
  | operation :: operations, s =>
    operation.MayUse free ∧ UseOnce (operation.stillFree s free) operations (operation.apply s)

instance (free : List BlockId) (operation : Operation) : Decidable (operation.MayUse free) :=
  match operation with
  | edit e => inferInstanceAs (Decidable (e.ids.Nodup ∧ ∀ id ∈ e.newIds, id ∈ free))
  | createSprite | select _ | moveSprite .. | takeBlockId | start | stop | reset | pump
  | expireBubbles | setClock _ | advanceClock _ | runUntilIdle _ => .isTrue trivial

instance decidableUseOnce : ∀ (free : List BlockId) (operations : List Operation) (s : Stage),
    Decidable (UseOnce free operations s)
  | _, [], _ => .isTrue trivial
  | free, operation :: operations, s =>
    have := decidableUseOnce (operation.stillFree s free) operations (operation.apply s)
    inferInstanceAs (Decidable (_ ∧ _))

end Operation

namespace Stage

structure Unique (free : List BlockId) (s : Stage) : Prop where
  nodup : s.blockIds.Nodup
  known : ∀ id ∈ s.blockIds, id.number ≤ s.ids.last
  given : ∀ id ∈ free, id.number ≤ s.ids.last
  unused : ∀ id ∈ free, id ∉ s.blockIds

variable {s t : Stage} {free : List BlockId} {e : Edit}

theorem ids_last_le_apply (s : Stage) (operation : Operation) :
    s.ids.last ≤ (operation.apply s).ids.last := by
  rw [(Operation.gives_apply s operation).last]
  exact Nat.le_add_right _ _

theorem Unique.of_perm (h : s.Unique free) (hids : t.blockIds.Perm s.blockIds)
    (hlast : s.ids.last ≤ t.ids.last) : t.Unique free where
  nodup := hids.nodup_iff.2 h.nodup
  known id hid := Nat.le_trans (h.known id (hids.mem_iff.1 hid)) hlast
  given id hid := Nat.le_trans (h.given id hid) hlast
  unused id hid hmem := h.unused id hid (hids.mem_iff.1 hmem)

theorem Unique.takeBlockId (h : s.Unique free) : s.takeBlockId.Unique (s.ids.block :: free) := by
  have hstay : s.takeBlockId.Unique free := h.of_perm (.refl _) (Nat.le_succ _)
  refine ⟨hstay.nodup, hstay.known, ?_, ?_⟩
  · exact List.forall_mem_cons.2 ⟨Nat.le_refl _, hstay.given⟩
  · refine List.forall_mem_cons.2 ⟨fun hmem => ?_, hstay.unused⟩
    have hle : s.ids.last + 1 ≤ s.ids.last := h.known _ hmem
    omega

theorem blockIds_createSprite (s : Stage) : s.createSprite.blockIds = s.blockIds := by
  simp [blockIds, programs_createSprite, Program.ids]

theorem count_blockIds_editSelected (hbrought : e.ids.Nodup) (distinct : s.blockIds.Nodup)
    (x : BlockId) : (s.editSelected e).blockIds.count x ≤ s.blockIds.count x + e.newIds.count x := by
  obtain ⟨index, hprograms⟩ := s.programs_editSelected e
  rw [blockIds, hprograms]
  refine count_flatMap_modify (fun p hp => ?_) index
  have hp : p.ids.Nodup := (List.nodup_flatMap.1 distinct).1 p hp
  exact Edit.count_ids_apply hbrought hp x

theorem Unique.editSelected (h : s.Unique free) (hbrought : e.ids.Nodup)
    (hnew : ∀ id ∈ e.newIds, id ∈ free) :
    (s.editSelected e).Unique (free.filter fun id => id ∉ (s.editSelected e).blockIds) := by
  have hcount := count_blockIds_editSelected hbrought h.nodup
  have hids : (s.editSelected e).ids = s.ids := congrArg Roster.ids (s.roster_editSelected e)
  have hmem : ∀ id ∈ (s.editSelected e).blockIds, id ∈ s.blockIds ∨ id ∈ e.newIds := by
    intro id hid
    have hpos := List.count_pos_iff.2 hid
    have hle := hcount id
    rcases Nat.eq_zero_or_pos (s.blockIds.count id) with hzero | hold
    · exact Or.inr (List.count_pos_iff.1 (by omega))
    · exact Or.inl (List.count_pos_iff.1 hold)
  refine ⟨List.nodup_iff_count.2 fun id => ?_, fun id hid => ?_, fun id hid => ?_, fun id hid => ?_⟩
  · have hle := hcount id
    have hone : s.blockIds.count id ≤ 1 := List.nodup_iff_count.1 h.nodup id
    by_cases hfresh : id ∈ e.newIds
    · have hzero : s.blockIds.count id = 0 := List.count_eq_zero.2 (h.unused id (hnew id hfresh))
      have hbroughtOne : e.newIds.count id ≤ 1 := List.nodup_iff_count.1 (hbrought.filter _) id
      omega
    · have hzero : e.newIds.count id = 0 := List.count_eq_zero.2 hfresh
      omega
  · rw [hids]
    rcases hmem id hid with hold | hfresh
    · exact h.known id hold
    · exact h.given id (hnew id hfresh)
  · rw [hids]
    exact h.given id (List.mem_filter.1 hid).1
  · simpa using (List.mem_filter.1 hid).2

theorem Unique.apply (h : s.Unique free) {operation : Operation} (huse : operation.MayUse free) :
    (operation.apply s).Unique (operation.stillFree s free) := by
  cases hcomposes : operation.composes with
  | false =>
    have hrun : (operation.apply s).Unique free :=
      h.of_perm (Operation.rearranged_apply s hcomposes).ids_perm (s.ids_last_le_apply operation)
    cases operation with
    | createSprite => cases hcomposes
    | edit => cases hcomposes
    | takeBlockId => exact h.takeBlockId
    | _ => exact hrun
  | true =>
    cases operation with
    | createSprite =>
      refine h.of_perm ?_ (s.ids_last_le_apply .createSprite)
      rw [Operation.apply, blockIds_createSprite]
    | edit e => exact h.editSelected huse.1 huse.2
    | _ => cases hcomposes

theorem Unique.nodup_applyAll {operations : List Operation} (h : s.Unique free)
    (huse : Operation.UseOnce free operations s) :
    (Operation.applyAll operations s).blockIds.Nodup := by
  induction operations generalizing s free with
  | nil => exact h.nodup
  | cons operation operations ih => exact ih (h.apply huse.1) huse.2

/-- No two blocks on a stage ever have the same identity, at any depth of any programs, as long as
edits bring identities that the stage has given out and that they have not brought before. -/
theorem Built.nodup_blockIds_applyAll (built : s.Built) (operations : List Operation)
    (once : Operation.UseOnce [] operations s) :
    (Operation.applyAll operations s).blockIds.Nodup := by
  have hunique : s.Unique [] :=
    ⟨built.nodup_blockIds, built.blockId_le_last, by simp, by simp⟩
  exact hunique.nodup_applyAll once

theorem nodup_blockIds_applyAll_swapped :
    let act (n : Nat) : Block := .act ⟨n⟩ false (.move 1 0)
    let s := Stage.new 0 { tickInterval := 3, frameInterval := 20 }
    let operations : List Operation :=
      [.takeBlockId, .takeBlockId, .takeBlockId, .edit (.append (.loop ⟨2⟩ false (some 2) [act 3])),
        .edit (.replace ⟨3⟩ (.loop ⟨4⟩ false none [])), .takeBlockId, .edit (.append (act 5)),
        .edit (.replace ⟨5⟩ (.act ⟨5⟩ false (.say "Hello!" 2))), .edit (.reorder 1 0),
        .createSprite, .start, .setClock 3, .pump, .takeBlockId,
        .edit (.addToLoop ⟨9⟩ (act 7)), .edit (.addToLoop ⟨2⟩ (act 7)), .edit (.delete ⟨5⟩)]
    s.Built ∧ Operation.UseOnce [] operations s ∧
      (Operation.applyAll operations s).blockIds = [⟨2⟩, ⟨4⟩, ⟨7⟩] ∧
      (Operation.applyAll operations s).blockIds.Nodup := by
  intro act s operations
  have built : s.Built := .new 0 _
  have once : Operation.UseOnce [] operations s := by decide +kernel
  exact ⟨built, once, by decide +kernel, built.nodup_blockIds_applyAll operations once⟩

end Stage

end SpriteStage
