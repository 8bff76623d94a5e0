import SpriteStage.Proofs.Editing
import SpriteStage.Proofs.Numbering
/-!
Who is on a stage. The roster of a stage has what a sprite is known by for each sprite in turn, the
selected sprite and the supply of identities. Every operation does to the roster of a stage what its
entry in `Roster.after` says, whatever the rest of the stage is: a run never touches it. From this
follows who is there at any time and who is selected.
-/

namespace SpriteStage

structure Label where
  id : SpriteId
  name : String
  costume : String
deriving DecidableEq

def Sprite.label (p : Sprite) : Label := ⟨p.id, p.name, p.costume⟩

structure Roster where
  labels : List Label
  selected : SpriteId
  ids : IdSupply

def Stage.roster (s : Stage) : Roster := ⟨s.sprites.map Sprite.label, s.selected, s.ids⟩

namespace Roster

def ofSprites (r : Roster) : List SpriteId := r.labels.map Label.id

def enlist (r : Roster) : Roster :=
  ⟨r.labels ++ [(Sprite.numbered r.ids.sprite r.labels.length).label], r.ids.sprite, r.ids.advance⟩

def after (r : Roster) : Operation → Roster
  | .createSprite => r.enlist
  | .select id => if id ∈ r.ofSprites then { r with selected := id } else r
  | .takeBlockId => { r with ids := r.ids.advance }
  | _ => r

end Roster

/-! ### Runs and edits leave the roster alone -/

theorem labels_map {f : Sprite → Sprite} (h : ∀ p, (f p).label = p.label) (sprites : List Sprite) :
    (sprites.map f).map Sprite.label = sprites.map Sprite.label := by
  rw [List.map_map]
  exact List.map_congr_left fun p _ => h p

theorem labels_set {sprites : List Sprite} {index : Nat} {p q : Sprite}
    (hp : sprites[index]? = some p) (hq : q.label = p.label) :
    (sprites.set index q).map Sprite.label = sprites.map Sprite.label := by
  obtain ⟨hindex, rfl⟩ := List.getElem?_eq_some_iff.1 hp
  rw [List.map_set, hq, ← List.getElem_map Sprite.label (h := by simpa using hindex)]
  exact List.set_getElem_self _

theorem Sprite.label_step (now : Nat) (p : Sprite) : (p.step now).label = p.label := by
  unfold Sprite.step
  split
  · rfl
  · split
    · rfl
    · rfl

theorem labels_swapPrograms (c : Config) (now first second : Nat) (sprites : List Sprite) :
    (swapPrograms c now first second sprites).map Sprite.label = sprites.map Sprite.label := by
  unfold swapPrograms
  split
  · rename_i a b ha hb
    split
    · exact labels_set ha rfl
    · rename_i hne
      have hkept : (sprites.set first (a.takeOver b.program b.name
          (Instant.after now c.swapMessage)))[second]? = some b := by
        rw [List.getElem?_set_ne hne]
        exact hb
      refine Eq.trans (labels_set hkept ?_) (labels_set ha rfl)
      rfl
  · rfl

namespace Stage

variable {s t : Stage}

theorem roster_of_labels (hlabels : t.sprites.map Sprite.label = s.sprites.map Sprite.label)
    (hselected : t.selected = s.selected) (hids : t.ids = s.ids) : t.roster = s.roster := by
  rw [roster, roster, hlabels, hselected, hids]

theorem roster_of_map {f : Sprite → Sprite} (hsprites : t.sprites = s.sprites.map f)
    (hlabel : ∀ p, (f p).label = p.label) (hselected : t.selected = s.selected)
    (hids : t.ids = s.ids) : t.roster = s.roster := by
  refine roster_of_labels ?_ hselected hids
  rw [hsprites]
  exact labels_map hlabel s.sprites

theorem roster_start (s : Stage) : s.start.roster = s.roster := by
  unfold start
  split
  · rfl
  · exact roster_of_map rfl (fun _ => rfl) rfl rfl

theorem roster_reset (s : Stage) : s.reset.roster = s.roster :=
  roster_of_map rfl (fun _ => rfl) rfl rfl

theorem roster_expireAt (s : Stage) (now : Nat) : (s.expireAt now).roster = s.roster := by
  unfold expireAt
  split
  · exact roster_of_map rfl (fun _ => rfl) rfl rfl
  · rfl

theorem roster_tickWork (s : Stage) (now : Nat) : (s.tickWork now).roster = s.roster := by
  have hstepped : (s.tickCheck now).1.map Sprite.label = s.sprites.map Sprite.label :=
    labels_map (Sprite.label_step now) s.sprites
  unfold tickWork
  split
  · rename_i hcheck
    rw [hcheck] at hstepped
    exact roster_of_labels ((labels_swapPrograms _ _ _ _ _).trans hstepped) rfl rfl
  · rename_i hcheck
    rw [hcheck] at hstepped
    exact roster_of_labels hstepped rfl rfl

theorem steady_roster : Steady fun s t => t.roster = s.roster where
  refl _ := rfl
  trans hfirst hsecond := hsecond.trans hfirst
  retimed _ _ _ := rfl
  tickWork := roster_tickWork
  expireAt := roster_expireAt

theorem roster_moveSprite (s : Stage) (id : SpriteId) (x y : Float) :
    (s.moveSprite id x y).roster = s.roster := by
  refine roster_of_map rfl (fun p => ?_) rfl rfl
  simp only
  split
  · rfl
  · rfl

theorem roster_editSelected (s : Stage) (e : Edit) : (s.editSelected e).roster = s.roster := by
  unfold editSelected
  split
  · rename_i index _
    have hlabel : ∀ p : Sprite, (p.edited (e.apply p.program)).label = id p.label := fun _ => rfl
    refine roster_of_labels ?_ rfl rfl
    exact (map_modify hlabel s.sprites index).trans (List.modify_id _ _)
  · rfl

/-! ### The other operations -/

theorem roster_createSprite (s : Stage) : s.createSprite.roster = s.roster.enlist := by
  simp [createSprite, roster, Roster.enlist, Sprite.label, Sprite.numbered]

theorem ofSprites_roster (s : Stage) : s.roster.ofSprites = s.sprites.map Sprite.id := by
  simp [roster, Roster.ofSprites, Sprite.label]

theorem sprite?_isSome_iff (s : Stage) (id : SpriteId) :
    (s.sprite? id).isSome = true ↔ id ∈ s.roster.ofSprites := by
  simp [sprite?, roster, Roster.ofSprites, Sprite.label, List.find?_isSome]

theorem roster_select (s : Stage) (id : SpriteId) :
    (s.select id).roster = s.roster.after (.select id) := by
  unfold select
  rw [Roster.after]
  by_cases h : (s.sprite? id).isSome = true
  · rw [if_pos h, if_pos ((s.sprite?_isSome_iff id).1 h)]
    rfl
  · rw [if_neg h, if_neg fun hmem => h ((s.sprite?_isSome_iff id).2 hmem)]

theorem roster_apply (s : Stage) (operation : Operation) :
    (operation.apply s).roster = s.roster.after operation := by
  cases operation with
  | createSprite => exact s.roster_createSprite
  | select id => exact s.roster_select id
  | moveSprite id x y => exact s.roster_moveSprite id x y
  | takeBlockId => rfl
  | edit e => exact s.roster_editSelected e
  | start => exact s.roster_start
  | stop => rfl
  | reset => exact s.roster_reset
  | pump => exact steady_roster.pump s
  | expireBubbles => exact s.roster_expireAt s.clock
  | setClock now => rfl
  | advanceClock d => rfl
  | runUntilIdle limit =>
    have hdriven := steady_roster.drive s.clock limit (s.frameBound limit) s.start
    exact hdriven.trans s.roster_start

end Stage

/-! ### Sound rosters -/

structure Roster.Sound (r : Roster) : Prop where
  nodup : r.ofSprites.Nodup
  selected : r.selected ∈ r.ofSprites
  le_last : ∀ id ∈ r.ofSprites, id.number ≤ r.ids.last

namespace Roster

variable {r : Roster}

theorem ofSprites_enlist (r : Roster) : r.enlist.ofSprites = r.ofSprites ++ [r.ids.sprite] := by
  simp [enlist, ofSprites, Sprite.label, Sprite.numbered]

theorem Sound.enlist (h : r.Sound) : r.enlist.Sound := by
  have hfresh : r.ids.sprite ∉ r.ofSprites := by
    intro hmem
    have hle : r.ids.last + 1 ≤ r.ids.last := h.le_last _ hmem
    omega
  constructor
  · rw [ofSprites_enlist, ← List.concat_eq_append]
    exact h.nodup.concat hfresh
  · rw [ofSprites_enlist]
    exact List.mem_append_right _ (List.mem_singleton.2 rfl)
  · intro id hid
    rw [ofSprites_enlist] at hid
    rcases List.mem_append.1 hid with hold | hnew
    · exact Nat.le_succ_of_le (h.le_last id hold)
    · rw [List.mem_singleton.1 hnew]
      exact Nat.le_refl _

theorem Sound.after (h : r.Sound) (operation : Operation) : (r.after operation).Sound := by
  cases operation with
  | createSprite => exact h.enlist
  | select id =>
    rw [Roster.after]
    split
    · rename_i hmem
      exact ⟨h.nodup, hmem, h.le_last⟩
    · exact h
  | takeBlockId =>
    exact ⟨h.nodup, h.selected, fun id hid => Nat.le_succ_of_le (h.le_last id hid)⟩
  | _ => exact h

theorem labels_prefix_after (r : Roster) (operation : Operation) :
    r.labels <+: (r.after operation).labels := by
  cases operation with
  | createSprite => exact List.prefix_append _ _
  | select id =>
    rw [after]
    split
    · exact List.prefix_refl _
    · exact List.prefix_refl _
  | _ => exact List.prefix_refl _

end Roster

/-! ### Identities given out -/

namespace Operation

def takes (ids : IdSupply) : Operation → List Nat
  | createSprite => [ids.sprite.number]
  | takeBlockId => [ids.block.number]
  | _ => []

theorem gives_takes (r : Roster) (operation : Operation) :
    r.ids.Gives (operation.takes r.ids) (r.after operation).ids := by
  cases operation with
  | createSprite => exact .one r.ids
  | takeBlockId => exact .one r.ids
  | select id =>
    rw [Roster.after]
    split
    · exact .none r.ids
    · exact .none r.ids
  | _ => exact .none r.ids

theorem gives_apply (s : Stage) (operation : Operation) :
    s.ids.Gives (operation.takes s.ids) (operation.apply s).ids := by
  have hids : (operation.apply s).ids = (s.roster.after operation).ids :=
    congrArg Roster.ids (s.roster_apply operation)
  rw [hids]
  exact gives_takes s.roster operation

end Operation

namespace Stage

variable {s : Stage}

theorem Built.sound (h : s.Built) : s.roster.Sound := by
  have hlabels := s.ofSprites_roster
  refine ⟨?_, ?_, ?_⟩
  · rw [hlabels]
    exact h.nodup_ids
  · obtain ⟨clock, config, entries, rfl⟩ := h.exists_entries
    rw [hlabels]
    cases (SpriteEntry.loadAll {} 0 entries).1 with
    | nil => exact List.mem_cons_self
    | cons first rest => exact List.mem_cons_self
  · rw [hlabels]
    exact List.forall_mem_map.2 h.id_le_last

theorem Reachable.sound (h : s.Reachable) : s.roster.Sound := by
  induction h with
  | new clock config => exact (Built.new clock config).sound
  | loaded clock config file entries => exact (Built.loaded clock config file entries).sound
  | @apply s operation _ ih =>
    rw [roster_apply]
    exact ih.after operation

theorem Reachable.nodup_ids (reachable : s.Reachable) : (s.sprites.map Sprite.id).Nodup := by
  rw [← ofSprites_roster]
  exact reachable.sound.nodup

theorem Reachable.sprite?_eq_some_iff (reachable : s.Reachable) {id : SpriteId} {p : Sprite} :
    s.sprite? id = some p ↔ p ∈ s.sprites ∧ p.id = id := by
  constructor
  · intro hfound
    exact ⟨List.mem_of_find?_eq_some hfound, by simpa using List.find?_some hfound⟩
  · rintro ⟨hp, rfl⟩
    have hsome : (s.sprite? p.id).isSome = true := List.find?_isSome.2 ⟨p, hp, decide_eq_true rfl⟩
    obtain ⟨q, hq⟩ := Option.isSome_iff_exists.1 hsome
    have hid : q.id = p.id := by simpa using List.find?_some hq
    obtain rfl : q = p :=
      List.inj_on_of_nodup_map reachable.nodup_ids (List.mem_of_find?_eq_some hq) hp hid
    exact hq

theorem Reachable.exists_selected (h : s.Reachable) :
    ∃ p ∈ s.sprites, p.id = s.selected ∧ s.sprite? s.selected = some p := by
  have hsome := (s.sprite?_isSome_iff s.selected).2 h.sound.selected
  obtain ⟨p, hp⟩ := Option.isSome_iff_exists.1 hsome
  obtain ⟨hmem, hid⟩ := h.sprite?_eq_some_iff.1 hp
  exact ⟨p, hmem, hid, hp⟩

end Stage

end SpriteStage
