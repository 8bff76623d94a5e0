import Mathlib.Data.List.Induction
import SpriteStage.Proofs.Bare
import SpriteStage.Proofs.Shifting
/-!
What blocks make a sprite say and think. Of all that a run utters in one voice only the last is shown
when it is done; a run that utters nothing leaves what was shown before. How long an utterance lasts
depends on the block alone. So its bubble is never overdue when it appears, and a run that comes later
shows the same texts, later by as much, unless time ends before.
-/

namespace SpriteStage

inductive Voice where
  | speech
  | thought
deriving DecidableEq

structure Utterance where
  text : String
  seconds : Float

namespace Utterance

variable {now d : Nat}

def lasts (u : Utterance) : Nat :=
  if 0 < u.seconds * 1000 then wholeMillis (u.seconds * 1000) else 0

def bubble (now : Nat) (u : Utterance) : Bubble := ⟨u.text, deadline now u.seconds⟩

theorem bubble_eq_after (early : now ≤ Instant.last) (u : Utterance) :
    u.bubble now = ⟨u.text, Instant.after now u.lasts⟩ := by
  simp only [bubble, deadline, lasts]
  split
  · rfl
  · rw [Instant.after_eq_add early, Nat.add_zero]

example : (⟨"Hi", 0 / 0⟩ : Utterance).bubble 1000 = ⟨"Hi", 1000⟩ ∧
    (⟨"Hi", -3⟩ : Utterance).bubble 1000 = ⟨"Hi", 1000⟩ ∧
    (⟨"Hi", 1 / 0⟩ : Utterance).bubble 1000 = ⟨"Hi", Instant.last⟩ := by decide

theorem bubble_in_time (early : now ≤ Instant.last) (u : Utterance) :
    now ≤ (u.bubble now).expiresAt ∧ (u.bubble now).expiresAt ≤ Instant.last := by
  rw [u.bubble_eq_after early]
  exact ⟨Instant.le_after early _, Instant.after_le_last _ _⟩

theorem bubble_shifted {u : Utterance} (room : now + d + u.lasts ≤ Instant.last) :
    u.bubble (now + d) = (u.bubble now).shifted d := by
  simp only [bubble, Bubble.shifted, deadline_shifted room]

theorem expiresAt_bubble_le (early : now + d ≤ Instant.last) (u : Utterance) :
    (u.bubble now).expiresAt ≤ (u.bubble (now + d)).expiresAt := by
  rw [u.bubble_eq_after early, u.bubble_eq_after (by omega)]
  simp only [Instant.after]
  omega

end Utterance

def Action.utters? : Voice → Action → Option Utterance
  | .speech, .say text seconds => some ⟨text, seconds⟩
  | .thought, .think text seconds => some ⟨text, seconds⟩
  | _, _ => none

def Block.utterances (v : Voice) (b : Block) : List Utterance :=
  (within maxNesting (b.unrolled 0)).filterMap (Action.utters? v)

namespace SpriteState

variable {s : SpriteState} {now : Nat} {b : Bubble}

def shown? (s : SpriteState) : Voice → Option Bubble
  | .speech => s.say
  | .thought => s.think

theorem mem_bubbles_iff_shown? : b ∈ s.bubbles ↔ ∃ v, s.shown? v = some b := by
  rw [mem_bubbles]
  constructor
  · rintro (hsay | hthink)
    · exact ⟨.speech, hsay⟩
    · exact ⟨.thought, hthink⟩
  · rintro ⟨v, hv⟩
    cases v with
    | speech => exact Or.inl hv
    | thought => exact Or.inr hv

theorem shown?_apply (now : Nat) (s : SpriteState) (action : Action) (v : Voice) :
    (action.apply now s).shown? v = ((action.utters? v).map (Utterance.bubble now)).or (s.shown? v) := by
  cases v with
  | speech =>
    cases action with
    | turn degrees rotation => cases rotation <;> rfl
    | _ => rfl
  | thought =>
    cases action with
    | turn degrees rotation => cases rotation <;> rfl
    | _ => rfl

theorem shown?_perform (now : Nat) (s : SpriteState) (actions : List Action) (v : Voice) :
    (perform now s actions).shown? v =
      ((actions.filterMap (Action.utters? v)).getLast?.map (Utterance.bubble now)).or (s.shown? v) := by
  -- From the right: what the last action utters hides all that comes before it.
  induction actions using List.reverseRecOn with
  | nil => rfl
  | append_singleton actions action ih =>
    have hlast : (perform now s (actions ++ [action])).shown? v =
        ((action.utters? v).map (Utterance.bubble now)).or ((perform now s actions).shown? v) := by
      rw [perform_append]
      exact shown?_apply now _ action v
    rw [hlast, ih, List.filterMap_append, List.getLast?_append]
    cases hutters : action.utters? v with
    | none => simp [hutters]
    | some u => simp [hutters]

theorem mem_bubbles_perform (early : now ≤ Instant.last) {actions : List Action}
    (h : b ∈ (perform now s actions).bubbles) : b ∈ s.bubbles ∨ now ≤ b.expiresAt := by
  obtain ⟨v, hv⟩ := mem_bubbles_iff_shown?.1 h
  rw [shown?_perform, Option.or_eq_some_iff] at hv
  rcases hv with hnew | ⟨-, hold⟩
  · obtain ⟨u, -, rfl⟩ := Option.map_eq_some_iff.1 hnew
    exact Or.inr (u.bubble_in_time early).1
  · exact Or.inl (mem_bubbles_iff_shown?.2 ⟨v, hold⟩)

end SpriteState

namespace Block

variable {b : Block} {v : Voice}

theorem shown?_execute (now : Nat) (b : Block) (s : SpriteState) (v : Voice) :
    (b.execute now s).shown? v =
      ((b.utterances v).getLast?.map (Utterance.bubble now)).or (s.shown? v) := by
  rw [execute, run_eq_perform]
  exact SpriteState.shown?_perform now s _ v

theorem shown?_execute_of_silent (h : b.utterances v = []) (now : Nat) (s : SpriteState) :
    (b.execute now s).shown? v = s.shown? v := by
  rw [shown?_execute, h]
  rfl

theorem shown?_execute_of_last {u : Utterance} (h : (b.utterances v).getLast? = some u) (now : Nat)
    (s : SpriteState) : (b.execute now s).shown? v = some (u.bubble now) := by
  rw [shown?_execute, h]
  rfl

/-- A run that comes `d` later leaves the sprite at the same place and heading. In each voice, what is
shown after a run was shown before it, or has its deadline between the instant of the run and the end of
time; the later run shows the same text, and its deadline is no earlier. If the block utters nothing,
both runs leave what was shown before. Otherwise the last utterance is shown for as long as it lasts or
as there is time, and if there is time enough for the later run, its bubble is that of the earlier one,
later by `d`. -/
theorem bubbles_execute_later (b : Block) (s : SpriteState) {now d : Nat}
    (early : now + d ≤ Instant.last) :
    (b.execute (now + d) s).withoutBubbles = (b.execute now s).withoutBubbles ∧
      ∀ v,
        ((b.execute now s).shown? v = s.shown? v ∨ ∃ bubble,
          (b.execute now s).shown? v = some bubble ∧
            now ≤ bubble.expiresAt ∧ bubble.expiresAt ≤ Instant.last) ∧
        Option.Rel (fun first second => second.text = first.text ∧ first.expiresAt ≤ second.expiresAt)
          ((b.execute now s).shown? v) ((b.execute (now + d) s).shown? v) ∧
        (b.utterances v = [] →
          (b.execute now s).shown? v = s.shown? v ∧ (b.execute (now + d) s).shown? v = s.shown? v) ∧
        ∀ u, (b.utterances v).getLast? = some u →
          (b.execute now s).shown? v = some ⟨u.text, Instant.after now u.lasts⟩ ∧
            (now + d + u.lasts ≤ Instant.last →
              (b.execute (now + d) s).shown? v =
                ((b.execute now s).shown? v).map (Bubble.shifted d)) := by
  have hnow : now ≤ Instant.last := Nat.le_of_add_right_le early
  refine ⟨withoutBubbles_execute _ _ b rfl, fun v => ?_⟩
  cases hlast : (b.utterances v).getLast? with
  | none =>
    have hsilent : b.utterances v = [] := List.getLast?_eq_none_iff.1 hlast
    have hearlier := shown?_execute_of_silent hsilent now s
    have hlater := shown?_execute_of_silent hsilent (now + d) s
    refine ⟨Or.inl hearlier, ?_, fun _ => ⟨hearlier, hlater⟩, by simp⟩
    rw [hearlier, hlater]
    cases s.shown? v with
    | none => exact .none
    | some bubble => exact .some ⟨rfl, Nat.le_refl _⟩
  | some u =>
    have hearlier := shown?_execute_of_last hlast now s
    have hlater := shown?_execute_of_last hlast (now + d) s
    rw [hearlier, hlater]
    refine ⟨Or.inr ⟨_, rfl, u.bubble_in_time hnow⟩, .some ⟨rfl, u.expiresAt_bubble_le early⟩, ?_, ?_⟩
    · intro hsilent
      rw [hsilent] at hlast
      cases hlast
    · rintro _ ⟨⟩
      exact ⟨congrArg some (u.bubble_eq_after hnow),
        fun room => congrArg some (Utterance.bubble_shifted room)⟩

theorem bubbles_execute_later_rounds :
    let b : Block := .loop ⟨1⟩ false (some 2)
      [.act ⟨2⟩ false (.say "for ever" (1 / 0)),
        .loop ⟨3⟩ false (some 0) [.act ⟨4⟩ false (.think "never" 1)],
        .act ⟨5⟩ false (.say "soon" 1.5)]
    let s : SpriteState := { think := some ⟨"before", 7⟩ }
    let now := Instant.last - 3000
    now + 1000 ≤ Instant.last ∧
      (b.execute (now + 1000) s).withoutBubbles = (b.execute now s).withoutBubbles ∧
      (b.execute (now + 1000) s).shown? .thought = some ⟨"before", 7⟩ ∧
      (b.execute now s).shown? .speech = some ⟨"soon", now + 1500⟩ ∧
      (b.execute (now + 1000) s).shown? .speech = some ⟨"soon", now + 2500⟩ := by
  intro b s now
  have early : now + 1000 ≤ Instant.last := by decide
  have hsilent : b.utterances .thought = [] := rfl
  have hlast : (b.utterances .speech).getLast? = some ⟨"soon", 1.5⟩ := rfl
  obtain ⟨hplace, hshown⟩ := bubbles_execute_later b s early
  obtain ⟨-, -, hcarried, -⟩ := hshown .thought
  obtain ⟨-, -, -, huttered⟩ := hshown .speech
  obtain ⟨hearlier, hlater⟩ := huttered _ hlast
  have hsoon : Instant.after now (⟨"soon", 1.5⟩ : Utterance).lasts = now + 1500 := by decide
  rw [hsoon] at hearlier
  refine ⟨early, hplace, (hcarried hsilent).2, hearlier, ?_⟩
  rw [hlater (by decide), hearlier]
  rfl

end Block

end SpriteStage
