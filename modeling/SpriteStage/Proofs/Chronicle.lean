import Mathlib.Data.List.Chain
import Mathlib.Data.List.DropRight
import SpriteStage.Proofs.History
import SpriteStage.Proofs.Numbering
import SpriteStage.Proofs.Ticking
/-!
What the log says about runs, and that it is true. An account of the runs is kept from the events
alone: a start opens one with empty counters, ticks and swaps are counted, and a stop closes it with
the counters that the events before have given. Every operation writes events that such an account can
take, and the account after them is that of the stage. So starts and stops alternate whoever begins
and ends the runs, and the counters are those of the events since the latest start.
-/

namespace SpriteStage

namespace Event

def isStart : Event → Bool
  | runStarted .. => true
  | _ => false

def isStop : Event → Bool
  | runStopped .. => true
  | _ => false

def isTick : Event → Bool
  | ticked .. => true
  | _ => false

def isSwap : Event → Bool
  | swapped .. => true
  | _ => false

def quiet (e : Event) : Bool := !e.isStart && !e.isStop && !e.isTick && !e.isSwap

def marks (es : List Event) : List Event := es.filter fun e => e.isStart || e.isStop

def sinceStart (es : List Event) : List Event := es.rtakeWhile fun e => !e.isStart

def tally (es : List Event) : RunStats := ⟨es.countP isTick, es.countP isSwap⟩

/-- Starts and stops by turns, the first of them a start, and the last one a start if a run is going
on and only then. -/
structure Alternate (running : Bool) (marks : List Event) : Prop where
  turns : marks.IsChain fun d e => d.isStart = !e.isStart
  first : ∀ e ∈ marks.head?, e.isStart = true
  last : marks.getLast?.any isStart = running

theorem Alternate.concat {ms : List Event} {e : Event} (h : Alternate (!e.isStart) ms) :
    Alternate e.isStart (ms ++ [e]) where
  turns := by
    refine h.turns.append (List.isChain_singleton e) fun d hd e' he' => ?_
    obtain rfl : e = e' := Option.some.inj he'
    have hlast := h.last
    rw [Option.mem_def.1 hd] at hlast
    exact hlast
  first := by
    cases ms with
    | nil =>
      have hlast := h.last
      simpa using hlast
    | cons d ds => exact h.first
  last := by simp

theorem marks_concat (es : List Event) (e : Event) :
    marks (es ++ [e]) = marks es ++ if e.isStart || e.isStop then [e] else [] := by
  rw [marks, List.filter_append, List.filter_singleton, Bool.cond_eq_ite]
  rfl

theorem level_of_mem_marks {es : List Event} : ∀ e ∈ marks es, e.level = .info := by
  intro e he
  have hmark := (List.mem_filter.1 he).2
  cases e <;> first | rfl | cases hmark

theorem sinceStart_concat (es : List Event) (e : Event) :
    sinceStart (es ++ [e]) = if e.isStart then [] else sinceStart es ++ [e] := by
  rw [sinceStart, List.rtakeWhile_concat]
  cases e.isStart <;> rfl

theorem tally_concat (es : List Event) (e : Event) : tally (es ++ [e]) =
    ⟨(tally es).ticks + e.isTick.toNat, (tally es).swaps + e.isSwap.toNat⟩ := by
  cases htick : e.isTick <;> cases hswap : e.isSwap <;>
    simp [tally, List.countP_append, htick, hswap]

theorem forall_stopped_concat {P : List Event → Nat → Nat → Prop} {es : List Event} {e : Event}
    (h : ∀ before ticks swaps after, es = before ++ runStopped ticks swaps :: after →
      P before ticks swaps)
    (hlast : ∀ ticks swaps, e = runStopped ticks swaps → P es ticks swaps) :
    ∀ before ticks swaps after, es ++ [e] = before ++ runStopped ticks swaps :: after →
      P before ticks swaps := by
  intro before ticks swaps after heq
  rcases after.eq_nil_or_concat with rfl | ⟨after, d, rfl⟩
  · obtain ⟨rfl, he⟩ := List.append_inj' heq rfl
    exact hlast ticks swaps (List.singleton_inj.1 he)
  · rw [List.concat_eq_append, ← List.cons_append, ← List.append_assoc] at heq
    exact h before ticks swaps after (List.append_inj' heq rfl).1

end Event

structure Account where
  running : Bool
  stats : RunStats
deriving DecidableEq

namespace Account

/-- An account takes an event that agrees with it. Only a start or a stop can disagree. -/
inductive Takes : Account → Event → Account → Prop
  | start (stats : RunStats) (instant sprites : Nat) :
      Takes ⟨false, stats⟩ (.runStarted instant sprites) ⟨true, {}⟩
  | stop (stats : RunStats) :
      Takes ⟨true, stats⟩ (.runStopped stats.ticks stats.swaps) ⟨false, stats⟩
  | count (a : Account) {e : Event} : e.isStart = false → e.isStop = false →
      Takes a e ⟨a.running, a.stats.ticks + e.isTick.toNat, a.stats.swaps + e.isSwap.toNat⟩

inductive TakesAll : Account → List Event → Account → Prop
  | nil (a : Account) : TakesAll a [] a
  | cons {a b c : Account} {e : Event} {es : List Event} :
      Takes a e b → TakesAll b es c → TakesAll a (e :: es) c

variable {a b c : Account} {e : Event} {es fs : List Event}

theorem TakesAll.one (h : a.Takes e b) : a.TakesAll [e] b := .cons h (.nil b)

theorem TakesAll.append (h : a.TakesAll es b) (h' : b.TakesAll fs c) : a.TakesAll (es ++ fs) c := by
  induction h with
  | nil a => exact h'
  | cons hone _ ih => exact .cons hone (ih h')

theorem takes_of_quiet (h : e.quiet = true) (a : Account) : a.Takes e a := by
  simp only [Event.quiet, Bool.and_eq_true, Bool.not_eq_true'] at h
  obtain ⟨⟨⟨hstart, hstop⟩, htick⟩, hswap⟩ := h
  have hcount := Takes.count a hstart hstop
  rw [htick, hswap] at hcount
  exact hcount

theorem takesAll_of_quiet (h : ∀ e ∈ es, e.quiet = true) (a : Account) : a.TakesAll es a := by
  induction es with
  | nil => exact .nil a
  | cons e es ih =>
    obtain ⟨he, hes⟩ := List.forall_mem_cons.1 h
    exact .cons (takes_of_quiet he a) (ih hes)

end Account

structure Truthful (es : List Event) (a : Account) : Prop where
  marks : Event.Alternate a.running (Event.marks es)
  stops : ∀ before ticks swaps after, es = before ++ .runStopped ticks swaps :: after →
    Event.tally (Event.sinceStart before) = ⟨ticks, swaps⟩
  stats : Event.tally (Event.sinceStart es) = a.stats

namespace Truthful

variable {a b : Account} {e : Event} {es fs : List Event}

theorem nil : Truthful [] ⟨false, {}⟩ where
  marks := ⟨.nil, nofun, rfl⟩
  stops := by
    intro before ticks swaps after h
    simp at h
  stats := rfl

theorem concat (h : Truthful es a) (htakes : a.Takes e b) : Truthful (es ++ [e]) b := by
  cases htakes with
  | start stats instant sprites =>
    refine ⟨?_, Event.forall_stopped_concat h.stops nofun, ?_⟩
    · rw [Event.marks_concat]
      exact h.marks.concat (e := .runStarted instant sprites)
    · rw [Event.sinceStart_concat]
      rfl
  | stop stats =>
    refine ⟨?_, Event.forall_stopped_concat h.stops ?_, ?_⟩
    · rw [Event.marks_concat]
      exact h.marks.concat (e := .runStopped stats.ticks stats.swaps)
    · rintro ticks swaps ⟨⟩
      exact h.stats
    · rw [Event.sinceStart_concat, if_neg nofun, Event.tally_concat, h.stats]
      rfl
  | count a hstart hstop =>
    refine ⟨?_, Event.forall_stopped_concat h.stops ?_, ?_⟩
    · rw [Event.marks_concat, hstart, hstop, if_neg nofun, List.append_nil]
      exact h.marks
    · rintro ticks swaps rfl
      cases hstop
    · rw [Event.sinceStart_concat, hstart, if_neg nofun, Event.tally_concat, h.stats]

theorem append (h : Truthful es a) (htakes : a.TakesAll fs b) : Truthful (es ++ fs) b := by
  induction htakes generalizing es with
  | nil a =>
    rw [List.append_nil]
    exact h
  | cons hone _ ih =>
    rw [List.append_cons]
    exact ih (h.concat hone)

end Truthful

/-! ### Events of no account -/

theorem Event.quiet_unless {c : Prop} [Decidable c] {e : Event} (he : e.quiet = true) :
    ∀ d ∈ if c then [] else [e], d.quiet = true := by
  split
  · nofun
  · exact List.forall_mem_singleton.2 he

namespace Block

mutual

theorem quiet_events : ∀ (b : Block) (depth : Nat), ∀ e ∈ b.events depth, e.quiet = true
  | act id executed action, depth => by
    unfold events
    split
    · exact List.forall_mem_singleton.2 rfl
    · refine List.forall_mem_cons.2 ⟨rfl, ?_⟩
      split
      · exact List.forall_mem_singleton.2 rfl
      · nofun
  | loop id executed count body, depth => by
    unfold events
    split
    · exact List.forall_mem_singleton.2 rfl
    · refine List.forall_mem_cons.2 ⟨rfl, ?_⟩
      split
      · nofun
      · rename_i b bs
        intro e he
        obtain ⟨round, hround, hmem⟩ := List.mem_flatten.1 he
        rw [List.eq_of_mem_replicate hround] at hmem
        exact quiet_eventsOf (b :: bs) (depth + 1) e hmem

theorem quiet_eventsOf : ∀ (bs : List Block) (depth : Nat), ∀ e ∈ eventsOf depth bs, e.quiet = true
  | [], _ => nofun
  | b :: bs, depth => by
    rw [eventsOf]
    exact List.forall_mem_append.2 ⟨quiet_events b depth, quiet_eventsOf bs depth⟩

end

end Block

theorem Sprite.quiet_stepLog (p : Sprite) :
    ∀ e ∈ p.stepLog.flatMap Entry.events, e.quiet = true := by
  rw [stepLog]
  split
  · nofun
  · split
    · rename_i b _
      rw [List.flatMap_singleton]
      exact b.quiet_events 0
    · exact List.forall_mem_singleton.2 rfl

theorem Program.quiet_loopRemarks {p : Program} {loop : BlockId} {edit : String}
    {onBody : List Block → List Event} (h : ∀ body, ∀ e ∈ onBody body, e.quiet = true) :
    ∀ e ∈ p.loopRemarks loop edit onBody, e.quiet = true := by
  rw [loopRemarks]
  split
  · exact h _
  · exact List.forall_mem_singleton.2 rfl

theorem Edit.quiet_remarks (edit : Edit) (p : Program) : ∀ e ∈ edit.remarks p, e.quiet = true := by
  cases edit with
  | append b => exact nofun
  | replace target b => exact Event.quiet_unless rfl
  | delete target => exact Event.quiet_unless rfl
  | addToLoop loop b => exact Program.quiet_loopRemarks fun _ => nofun
  | updateInLoop loop b => exact Program.quiet_loopRemarks fun _ => Event.quiet_unless rfl
  | deleteFromLoop loop target => exact Program.quiet_loopRemarks fun _ => Event.quiet_unless rfl
  | reorder source target => exact Event.quiet_unless rfl

/-! ### What a stage logs -/

def Operation.logs : List Operation → Stage → List Entry
  | [], _ => []
  | operation :: operations, s => operation.log s ++ logs operations (operation.apply s)

namespace Stage

variable {s t u armed : Stage} {a : Activation} {horizon : Nat} {log more : List Entry}

def account (s : Stage) : Account := ⟨s.isRunning, s.stats⟩

def Accounts (s : Stage) (log : List Entry) (t : Stage) : Prop :=
  s.account.TakesAll (log.flatMap Entry.events) t.account

theorem Accounts.append (h : s.Accounts log t) (h' : t.Accounts more u) :
    s.Accounts (log ++ more) u := by
  rw [Accounts, List.flatMap_append]
  exact Account.TakesAll.append h h'

theorem accounts_nil (hkept : t.account = s.account) : s.Accounts [] t := by
  rw [Accounts, hkept]
  exact .nil _

theorem accounts_of_quiet (h : ∀ e ∈ log.flatMap Entry.events, e.quiet = true)
    (hkept : t.account = s.account) : s.Accounts log t := by
  rw [Accounts, hkept]
  exact Account.takesAll_of_quiet h _

theorem accounts_of_events {es : List Event} (h : ∀ e ∈ es, e.quiet = true)
    (hkept : t.account = s.account) : s.Accounts (es.map .event) t := by
  refine accounts_of_quiet ?_ hkept
  rw [List.flatMap_map]
  intro e he
  obtain ⟨d, hd, hmem⟩ := List.mem_flatMap.1 he
  rw [List.mem_singleton.1 hmem]
  exact h d hd

theorem accounts_start (s : Stage) : s.Accounts s.startLog s.start := by
  rw [startLog, start]
  cases hrunning : s.isRunning with
  | true => exact accounts_of_quiet (List.forall_mem_singleton.2 rfl) rfl
  | false =>
    have hidle : s.account = ⟨false, s.stats⟩ := by rw [account, hrunning]
    have hstarted : (s.schedule.start s.clock).isRunning = true := by
      rw [isRunning] at hrunning
      rw [Schedule.start, if_neg (by simp [hrunning])]
      rfl
    rw [Accounts, hidle]
    simp only [account, isRunning, Bool.false_eq_true, if_false, hstarted]
    exact .one (.start s.stats s.clock s.sprites.length)

theorem accounts_stop (s : Stage) : s.Accounts s.stopLog s.stop := by
  have hstopped : s.stop.account = ⟨false, s.stats⟩ := by
    rw [account, isRunning, stop, Schedule.isRunning_stop]
  rw [stopLog]
  cases hrunning : s.isRunning with
  | true =>
    have hgoing : s.account = ⟨true, s.stats⟩ := by rw [account, hrunning]
    rw [Accounts, hgoing, hstopped]
    exact .one (.stop s.stats)
  | false =>
    refine accounts_nil ?_
    rw [hstopped, account, hrunning]

def tickSwapLog (s : Stage) (now : Nat) : List Entry :=
  match (s.tickCheck now).2.2 with
  | some (first, second) => swapLog first second (s.tickCheck now).1
  | none => []

theorem tickLog_eq (s : Stage) (now : Nat) : s.tickLog now =
    s.sprites.flatMap Sprite.stepLog ++ s.tickSwapLog now ++
      [.event (.ticked now (s.tickWork now).stats.ticks)] ++
        if s.allIdle then (s.tickWork now).stopLog else [] := rfl

theorem takesAll_tickSwapLog (s : Stage) (now : Nat) :
    s.account.TakesAll ((s.tickSwapLog now).flatMap Entry.events)
      ⟨s.isRunning, s.stats.ticks, s.stats.swaps + (s.tickCheck now).2.2.toList.length⟩ := by
  rw [tickSwapLog]
  cases hpair : (s.tickCheck now).2.2 with
  | none => exact .nil _
  | some pair =>
    obtain ⟨p, q, -, hp, hq⟩ := exists_of_tickCheck hpair
    have hlog : swapLog pair.1 pair.2 (s.tickCheck now).1 = [.event (.swapped p.id q.id)] := by
      rw [swapLog, hp, hq]
    simp only [hlog]
    exact .one (.count s.account rfl rfl)

theorem accounts_tickWork (s : Stage) (now : Nat) :
    s.Accounts (s.sprites.flatMap Sprite.stepLog ++ s.tickSwapLog now ++
      [.event (.ticked now (s.tickWork now).stats.ticks)]) (s.tickWork now) := by
  have hsteps : ∀ e ∈ (s.sprites.flatMap Sprite.stepLog).flatMap Entry.events, e.quiet = true := by
    rw [List.flatMap_assoc]
    intro e he
    obtain ⟨p, -, hp⟩ := List.mem_flatMap.1 he
    exact p.quiet_stepLog e hp
  have hworked : (s.tickWork now).account = ⟨s.isRunning, s.stats.ticks + 1,
      s.stats.swaps + (s.tickCheck now).2.2.toList.length⟩ := by
    rw [account, stats_tickWork, isRunning, schedule_tickWork]
    rfl
  rw [Accounts, hworked, List.flatMap_append, List.flatMap_append]
  exact ((Account.takesAll_of_quiet hsteps _).append (s.takesAll_tickSwapLog now)).append
    (.one (.count _ rfl rfl))

theorem accounts_expireAt (s : Stage) (now : Nat) : s.Accounts [] (s.expireAt now) := by
  refine accounts_nil ?_
  rw [expireAt_eq]
  rfl

theorem Accounts.whenever (h : s.Accounts log t) (c : Bool) :
    s.Accounts (if c then log else []) (if c then t else s) := by
  cases c with
  | true => exact h
  | false => exact .nil _

theorem accounts_fire (s : Stage) (a : Activation) : s.Accounts (s.fireLog a) (s.fire a) := by
  cases a with
  | tick now =>
    rw [fireLog, fire, tickLog_eq, tick]
    exact (s.accounts_tickWork now).append ((accounts_stop _).whenever s.allIdle)
  | frame now =>
    have hfinished : (s.expireAt now).Accounts [.event (.allFinished now)] (s.expireAt now) :=
      accounts_of_quiet (List.forall_mem_singleton.2 rfl) rfl
    rw [fireLog, fire, frameLog, frame]
    exact (s.accounts_expireAt now).append ((hfinished.append (accounts_stop _)).whenever _)

theorem accounts_due (hdue : s.due? horizon = some (a, armed)) : s.Accounts [] armed := by
  obtain ⟨hrunning, harmed⟩ := isRunning_of_due? hdue
  obtain ⟨rest, -, rfl⟩ := due?_eq_some.1 hdue
  refine accounts_nil ?_
  rw [account, harmed, account, hrunning]

theorem accounts_drain (horizon count : Nat) (s : Stage) :
    s.Accounts ((drainFirings horizon count s).flatMap Firing.log) (drain horizon count s) := by
  induction count generalizing s with
  | zero => exact .nil _
  | succ count ih =>
    rw [drainFirings, drain]
    cases hdue : s.due? horizon with
    | none => exact .nil _
    | some found =>
      obtain ⟨a, armed⟩ := found
      exact ((accounts_due hdue).append (armed.accounts_fire a)).append (ih _)

theorem accounts_pump (s : Stage) : s.Accounts s.pumpLog s.pump := by
  rw [pumpLog_eq_flatMap]
  exact accounts_drain _ _ s

theorem accounts_drive (started limit count : Nat) {earlier : Stage} {written : Array Entry}
    (h : earlier.Accounts written.toList s) :
    earlier.Accounts (driveLog started limit count s written).toList
      (drive started limit count s).1 := by
  induction count generalizing s written with
  | zero => exact h
  | succ count ih =>
    rw [driveLog, drive]
    split
    · exact h
    · split
      · have hreached : s.Accounts [.event (.limitReached limit)] s :=
          accounts_of_quiet (List.forall_mem_singleton.2 rfl) rfl
        rw [Array.toList_appendList]
        exact h.append (hreached.append s.accounts_stop)
      · have hlater : s.Accounts [] (s.advanceClock s.frameStep) := accounts_nil rfl
        refine ih ?_
        rw [Array.toList_appendList]
        exact h.append (hlater.append (accounts_pump _))

theorem accounts_runUntilIdle (s : Stage) (limit : Nat) :
    s.Accounts (s.runUntilIdleLog limit) (s.runUntilIdle limit).1 :=
  accounts_drive _ _ _ s.accounts_start

theorem accounts_apply (operation : Operation) (s : Stage) :
    s.Accounts (operation.log s) (operation.apply s) := by
  cases operation with
  | createSprite => exact accounts_of_events (List.forall_mem_singleton.2 rfl) rfl
  | select id =>
    refine accounts_of_events (Event.quiet_unless rfl) ?_
    rw [Operation.apply, select]
    split <;> rfl
  | moveSprite id x y => exact accounts_of_events (Event.quiet_unless rfl) rfl
  | takeBlockId => exact .nil _
  | edit e =>
    refine accounts_of_events ?_ ?_
    · rw [editSelectedLog]
      split
      · exact e.quiet_remarks _
      · exact List.forall_mem_singleton.2 rfl
    · rw [Operation.apply, editSelected]
      split <;> rfl
  | start => exact s.accounts_start
  | stop => exact s.accounts_stop
  | reset =>
    have hreset : s.stop.Accounts [.event .stageReset] s.reset :=
      accounts_of_quiet (List.forall_mem_singleton.2 rfl) rfl
    exact s.accounts_stop.append hreset
  | pump => exact s.accounts_pump
  | expireBubbles => exact s.accounts_expireAt s.clock
  | setClock now => exact .nil _
  | advanceClock d => exact .nil _
  | runUntilIdle limit => exact s.accounts_runUntilIdle limit

theorem accounts_applyAll (operations : List Operation) (s : Stage) :
    s.Accounts (Operation.logs operations s) (Operation.applyAll operations s) := by
  induction operations generalizing s with
  | nil => exact .nil _
  | cons operation operations ih => exact (s.accounts_apply operation).append (ih _)

theorem Built.account_eq (built : s.Built) : s.account = ⟨false, {}⟩ := by
  cases built with
  | new clock config => rfl
  | loaded clock config file entries => cases (Scene.ofEntries file entries).sprites <;> rfl

/-- The log of a stage tells the truth about its runs, whatever is done with the stage. -/
theorem Built.truthful_logs (built : s.Built) (operations : List Operation) :
    let t := Operation.applyAll operations s
    let es := (Operation.logs operations s).flatMap Entry.events
    Truthful es ⟨t.isRunning, t.stats⟩ ∧ ∀ e ∈ Event.marks es, e.level = .info := by
  intro t es
  have hlogs := accounts_applyAll operations s
  rw [Accounts, built.account_eq] at hlogs
  exact ⟨Truthful.nil.append hlogs, Event.level_of_mem_marks⟩

def fourRuns : List Operation :=
  [.edit (.append (.act ⟨2⟩ false (.move 1 0))), .createSprite, .stop, .start, .start,
    .advanceClock 10, .pump, .reset, .runUntilIdle 9, .runUntilIdle 40, .start, .advanceClock 7, .pump]

theorem truthful_logs_four_runs :
    let s := Stage.new 0 { tickInterval := 3, frameInterval := 4, collisionCooldown := 7 }
    let es := (Operation.logs fourRuns s).flatMap Entry.events
    s.Built ∧ Truthful es ⟨true, 2, 1⟩ ∧ (Event.marks es).length = 7 := by
  intro s es
  have built : s.Built := .new 0 _
  have haccount : (Operation.applyAll fourRuns s).account = ⟨true, 2, 1⟩ := by decide +kernel
  have hcount : (Event.marks es).length = 7 := by decide +kernel
  obtain ⟨htruthful, -⟩ := built.truthful_logs fourRuns
  exact ⟨built, haccount ▸ htruthful, hcount⟩

end Stage

end SpriteStage
