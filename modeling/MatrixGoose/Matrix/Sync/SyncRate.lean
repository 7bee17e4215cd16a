import MatrixGoose.Foundation.Pacing
import MatrixGoose.Foundation.Timed
import MatrixGoose.Matrix.Sync.SyncForever
import Mathlib.Algebra.Order.Group.Nat

/-!
# The rate of a sync loop

Both sync loops in time: a sync, the callback and the scheduler take as long as they
like, and a sleep lasts at least as long as asked for.  The loops are run with their
operations labelled, since a callback may read the clock or sync as well.
-/

namespace MatrixGoose

open Foundation
open Program (Labelled Round Timed TimedRun Timing)

namespace Sync

open Lib

variable {Filter Body Error Value : Type}

/-- The clock is read while `Instant::now` lasts. -/
def ReadsClock (now began ended : Nat) : Prop :=
  began <= now ∧ now <= ended

def syncTiming : Timing (SyncOp Filter) (SyncReply Body Error) Nat
  | SyncOp.send _ _, _, _, _ => True
  | SyncOp.now, now, began, ended => ReadsClock now began ended
  | SyncOp.sleep duration, _, began, ended => began + duration <= ended
  | SyncOp.readCanceled, _, _, _ => True

inductive SyncPart
  | syncOnce
  /-- The callback, or the look at `CANCELED` in its place. -/
  | control
  | delaySync

abbrev LabelledSync (Filter Body Error Value : Type) :=
  Labelled SyncPart (SyncOp Filter) (SyncReply Body Error) Value

abbrev SyncEvent (Filter Body Error : Type) :=
  Timed (SyncPart × SyncOp Filter) (fun o => SyncReply Body Error o.2) Nat

def completedSync : SyncEvent Filter Body Error -> Option Nat
  | { op := (SyncPart.syncOnce, SyncOp.send _ _), ended, .. } => some ended
  | _ => none

def delaySyncCall : SyncEvent Filter Body Error -> Option Nat
  | { op := (SyncPart.delaySync, SyncOp.now), reply, .. } => some reply
  | _ => none

def completedSyncs (events : List (SyncEvent Filter Body Error)) : List Nat :=
  events.filterMap completedSync

def delaySyncCalls (events : List (SyncEvent Filter Body Error)) : List Nat :=
  events.filterMap delaySyncCall

/-!
# Rounds
-/

def nextSettings (settings : SyncSettings Filter) :
    Except Error (SyncResponse Body) -> SyncSettings Filter
  | .ok r => settings.withToken r.nextBatch
  | .error _ => settings

def finishRound (s : LoopState Filter) :
    Round (SyncSettings Filter) Value ->
      LabelledSync Filter Body Error (Round (LoopState Filter) Value)
  | Round.leave value => Program.done (Round.leave value)
  | Round.again syncSettings =>
      ((delaySync s.lastSyncTime).label SyncPart.delaySync).bind fun lastSyncTime =>
        Program.done (Round.again { syncSettings, lastSyncTime })

/-- A round of a loop that goes on as it is told after the sync. -/
def pacedRound
    (control : SyncSettings Filter -> Except Error (SyncResponse Body) ->
      SyncProgram Filter Body Error (Round (SyncSettings Filter) Value))
    (s : LoopState Filter) :
    LabelledSync Filter Body Error (Round (LoopState Filter) Value) :=
  ((syncOnce s.syncSettings).label SyncPart.syncOnce).bind fun response =>
    ((control s.syncSettings response).label SyncPart.control).bind (finishRound s)

def callbackControl
    (callback : Except Error (SyncResponse Body) ->
      SyncProgram Filter Body Error (Except Error LoopCtrl))
    (settings : SyncSettings Filter) (response : Except Error (SyncResponse Body)) :
    SyncProgram Filter Body Error (Round (SyncSettings Filter) (Except Error Unit)) :=
  (callback response).bind fun ctrl =>
    match ctrl with
    | .error e => Program.done (Round.leave (.error e))
    | .ok LoopCtrl.break => Program.done (Round.leave (.ok ()))
    | .ok LoopCtrl.continue => Program.done (Round.again (nextSettings settings response))

def canceledControl (settings : SyncSettings Filter)
    (response : Except Error (SyncResponse Body)) :
    SyncProgram Filter Body Error (Round (SyncSettings Filter) Unit) :=
  (Program.call SyncOp.readCanceled).bind fun canceled : Bool =>
    if canceled then Program.done (Round.leave ())
    else Program.done (Round.again (nextSettings settings response))

theorem erase_pacedRound
    (control : SyncSettings Filter -> Except Error (SyncResponse Body) ->
      SyncProgram Filter Body Error (Round (SyncSettings Filter) Value))
    (s : LoopState Filter) :
    (pacedRound control s).erase =
      (syncOnce s.syncSettings).bind fun response =>
        (control s.syncSettings response).bind fun round =>
          match round with
          | Round.leave value => Program.done (Round.leave value)
          | Round.again syncSettings =>
              (delaySync s.lastSyncTime).bind fun lastSyncTime =>
                Program.done (Round.again { syncSettings, lastSyncTime }) := by
  rw [pacedRound, Program.erase_bind, Program.erase_label]
  congr 1
  funext response
  rw [Program.erase_bind, Program.erase_label]
  congr 1
  funext round
  cases round with
  | leave value => rfl
  | again syncSettings =>
      show Program.erase (Program.bind _ _) = _
      rw [Program.erase_bind, Program.erase_label]
      rfl

theorem syncRound_eq
    (callback : Except Error (SyncResponse Body) ->
      SyncProgram Filter Body Error (Except Error LoopCtrl)) (s : LoopState Filter) :
    syncRound callback s =
      (syncOnce s.syncSettings).bind fun response =>
        (callback response).bind fun ctrl =>
          match ctrl with
          | .error e => Program.done (Round.leave (.error e))
          | .ok LoopCtrl.break => Program.done (Round.leave (.ok ()))
          | .ok LoopCtrl.continue =>
              (delaySync s.lastSyncTime).bind fun lastSyncTime =>
                Program.done (Round.again
                  { syncSettings := nextSettings s.syncSettings response, lastSyncTime }) := by
  show Program.perform _ _ = Program.perform _ _
  congr 1
  funext response
  cases response <;> rfl

theorem erase_callback
    (callback : Except Error (SyncResponse Body) ->
      SyncProgram Filter Body Error (Except Error LoopCtrl)) (s : LoopState Filter) :
    (pacedRound (callbackControl callback) s).erase = syncRound callback s := by
  rw [erase_pacedRound, syncRound_eq]
  congr 1
  funext response
  rw [callbackControl, Program.bind_assoc]
  congr 1
  funext ctrl
  cases ctrl with
  | error e => rfl
  | ok ctrl => cases ctrl <;> rfl

theorem erase_canceled (s : LoopState Filter) :
    (pacedRound canceledControl s : LabelledSync Filter Body Error _).erase =
      chatSyncRound s := by
  rw [erase_pacedRound]
  show Program.perform _ _ = Program.perform _ _
  congr 1
  funext response
  show Program.perform _ _ = Program.perform _ _
  congr 1
  funext canceled
  cases canceled with
  | true => rfl
  | false => cases response <;> rfl

/-!
# One round in time
-/

@[simp] theorem completedSyncs_append (first rest : List (SyncEvent Filter Body Error)) :
    completedSyncs (first ++ rest) = completedSyncs first ++ completedSyncs rest :=
  List.filterMap_append

@[simp] theorem delaySyncCalls_append (first rest : List (SyncEvent Filter Body Error)) :
    delaySyncCalls (first ++ rest) = delaySyncCalls first ++ delaySyncCalls rest :=
  List.filterMap_append

theorem completedSync_eq_none {event : SyncEvent Filter Body Error}
    (hlabel : event.op.1 ≠ SyncPart.syncOnce) : completedSync event = none := by
  unfold completedSync
  split
  · exact absurd rfl hlabel
  · rfl

theorem delaySyncCall_eq_none {event : SyncEvent Filter Body Error}
    (hlabel : event.op.1 ≠ SyncPart.delaySync) : delaySyncCall event = none := by
  unfold delaySyncCall
  split
  · exact absurd rfl hlabel
  · rfl

theorem completedSyncs_eq_nil {l : SyncPart}
    {events : List (SyncEvent Filter Body Error)}
    (hevents : forall event, event ∈ events -> event.op.1 = l)
    (hl : l ≠ SyncPart.syncOnce) :
    completedSyncs events = [] :=
  List.filterMap_eq_nil_iff.mpr fun event hevent =>
    completedSync_eq_none (by rw [hevents event hevent]; exact hl)

theorem delaySyncCalls_eq_nil {l : SyncPart}
    {events : List (SyncEvent Filter Body Error)}
    (hevents : forall event, event ∈ events -> event.op.1 = l)
    (hl : l ≠ SyncPart.delaySync) :
    delaySyncCalls events = [] :=
  List.filterMap_eq_nil_iff.mpr fun event hevent =>
    delaySyncCall_eq_none (by rw [hevents event hevent]; exact hl)

theorem syncOnce_times {settings : SyncSettings Filter} {t t' : Nat}
    {events : List (SyncEvent Filter Body Error)}
    {value : Option (Except Error (SyncResponse Body))}
    (hrun : TimedRun syncTiming.labelled ((syncOnce settings).label SyncPart.syncOnce) t
      events value t') :
    delaySyncCalls events = [] ∧
      ((completedSyncs events = [] ∧ value = none) ∨
        (completedSyncs events = [t'] ∧ t <= t')) := by
  refine ⟨delaySyncCalls_eq_nil hrun.label_of_mem nofun, ?_⟩
  cases hrun.call_inv with
  | inl hstopped =>
      rcases hstopped with ⟨rfl, hvalue⟩
      exact Or.inl ⟨rfl, hvalue⟩
  | inr hreplied =>
      rcases hreplied with ⟨reply, began, rfl, _, hwait, hlasts, _⟩
      exact Or.inr ⟨rfl, hwait.trans hlasts⟩

/-- Whatever a callback does counts neither as a sync of the loop nor as a call of
`delay_sync`. -/
theorem control_times {A : Type} {program : SyncProgram Filter Body Error A} {t t' : Nat}
    {events : List (SyncEvent Filter Body Error)} {value : Option A}
    (hrun : TimedRun syncTiming.labelled (program.label SyncPart.control) t events value
      t') :
    completedSyncs events = [] ∧ delaySyncCalls events = [] :=
  ⟨completedSyncs_eq_nil hrun.label_of_mem nofun,
    delaySyncCalls_eq_nil hrun.label_of_mem nofun⟩

def afterNow (before now : Nat) : SyncProgram Filter Body Error (Option Nat) :=
  if now - before <= second then
    (Program.call (SyncOp.sleep second)).bind fun _ => Program.done (some now)
  else Program.done (some now)

theorem afterNow_times {before now t t' : Nat} {events : List (SyncEvent Filter Body Error)}
    {value : Option (Option Nat)} (hnow : now <= t)
    (hrun : TimedRun syncTiming.labelled ((afterNow before now).label SyncPart.delaySync) t
      events value t') :
    delaySyncCalls events = [] ∧
      forall last, value = some last ->
        last = some now ∧ resumeAt second (some before) now <= t' := by
  unfold afterNow at hrun
  by_cases hshort : now - before <= second
  · rw [if_pos hshort] at hrun
    cases hrun with
    | stopped => exact ⟨rfl, nofun⟩
    | perform hwait hlasts htiming hrest =>
        rcases hrest.done_inv with ⟨rfl, rfl, rfl⟩
        refine ⟨rfl, ?_⟩
        intro last hlast
        cases hlast
        refine ⟨rfl, ?_⟩
        rw [resumeAt, if_pos (by omega)]
        calc now + second <= _ := Nat.add_le_add_right (hnow.trans hwait) second
          _ <= t' := htiming
  · rw [if_neg hshort] at hrun
    rcases hrun.done_inv with ⟨rfl, rfl, rfl⟩
    refine ⟨rfl, ?_⟩
    intro last hlast
    cases hlast
    refine ⟨rfl, ?_⟩
    rw [resumeAt, if_neg (by omega)]
    exact hnow

theorem delaySync_times {lastSyncTime : Option Nat} {t t' : Nat}
    {events : List (SyncEvent Filter Body Error)} {value : Option (Option Nat)}
    (hrun : TimedRun syncTiming.labelled
      ((delaySync lastSyncTime).label SyncPart.delaySync) t events value t') :
    completedSyncs events = [] ∧
      ((delaySyncCalls events = [] ∧ value = none) ∨
        exists now, t <= now ∧ delaySyncCalls events = [now] ∧
          forall last, value = some last ->
            last = some now ∧ resumeAt second lastSyncTime now <= t') := by
  refine ⟨completedSyncs_eq_nil hrun.label_of_mem nofun, ?_⟩
  cases hrun with
  | stopped => exact Or.inl ⟨rfl, rfl⟩
  | @perform _ _ now _ began ended _ rest _ hwait hlasts htiming hrest =>
      refine Or.inr ⟨now, hwait.trans htiming.1, ?_⟩
      cases lastSyncTime with
      | none =>
          rcases TimedRun.done_inv hrest with ⟨rfl, rfl, rfl⟩
          refine ⟨rfl, ?_⟩
          intro last hlast
          cases hlast
          exact ⟨rfl, htiming.2⟩
      | some before =>
          rcases afterNow_times htiming.2 hrest with ⟨hcalls, hlast⟩
          exact ⟨congrArg (List.cons now) hcalls, hlast⟩

/-- What a round from this state and time on completed, when it looked at the clock, how it
went out and when. -/
inductive RoundTimes (s : LoopState Filter) (t : Nat) :
    List Nat -> List Nat -> Option (Round (LoopState Filter) Value) -> Nat -> Prop
  | idle {t' : Nat} : RoundTimes s t [] [] none t'
  | left {completed t' : Nat} {outcome : Option (Round (LoopState Filter) Value)}
      (hcompleted : t <= completed) (hleft : forall s', outcome ≠ some (Round.again s')) :
      RoundTimes s t [completed] [] outcome t'
  | waiting {completed now t' : Nat} (hcompleted : t <= completed)
      (hnow : completed <= now) : RoundTimes s t [completed] [now] none t'
  | again {completed now t' : Nat} {syncSettings : SyncSettings Filter}
      (hcompleted : t <= completed) (hnow : completed <= now)
      (hresume : resumeAt second s.lastSyncTime now <= t') :
      RoundTimes s t [completed] [now]
        (some (Round.again { syncSettings, lastSyncTime := some now })) t'

theorem finishRound_times {s : LoopState Filter} {round : Round (SyncSettings Filter) Value}
    {t completed mid t' : Nat} {events : List (SyncEvent Filter Body Error)}
    {outcome : Option (Round (LoopState Filter) Value)}
    (hcompleted : t <= completed) (hmid : completed <= mid)
    (hrun : TimedRun syncTiming.labelled (finishRound s round) mid events outcome t') :
    completedSyncs events = [] ∧
      RoundTimes s t [completed] (delaySyncCalls events) outcome t' := by
  cases round with
  | leave value =>
      rcases hrun.done_inv with ⟨rfl, rfl, _⟩
      exact ⟨rfl, RoundTimes.left hcompleted nofun⟩
  | again syncSettings =>
      cases hrun.bind_inv with
      | inl hstopped =>
          rcases hstopped with ⟨rfl, hdelay⟩
          rcases delaySync_times hdelay with ⟨hsyncs, hnone | hread⟩
          · rw [hnone.1]
            exact ⟨hsyncs, RoundTimes.left hcompleted nofun⟩
          · rcases hread with ⟨now, hnow, hcalls, _⟩
            rw [hcalls]
            exact ⟨hsyncs, RoundTimes.waiting hcompleted (hmid.trans hnow)⟩
      | inr hdelayed =>
          rcases hdelayed with ⟨last, _, delayed, rest, rfl, hdelay, hrest⟩
          rcases hrest.done_inv with ⟨rfl, rfl, rfl⟩
          rw [List.append_nil]
          rcases delaySync_times hdelay with ⟨hsyncs, hnone | hread⟩
          · cases hnone.2
          · rcases hread with ⟨now, hnow, hcalls, hlast⟩
            rcases hlast last rfl with ⟨rfl, hresume⟩
            rw [hcalls]
            exact ⟨hsyncs, RoundTimes.again hcompleted (hmid.trans hnow) hresume⟩

theorem afterSync_times {s : LoopState Filter}
    {control : SyncProgram Filter Body Error (Round (SyncSettings Filter) Value)}
    {t completed t' : Nat} {events : List (SyncEvent Filter Body Error)}
    {outcome : Option (Round (LoopState Filter) Value)} (hcompleted : t <= completed)
    (hrun : TimedRun syncTiming.labelled
      ((control.label SyncPart.control).bind (finishRound s)) completed events outcome t') :
    completedSyncs events = [] ∧
      RoundTimes s t [completed] (delaySyncCalls events) outcome t' := by
  cases hrun.bind_inv with
  | inl hstopped =>
      rcases hstopped with ⟨rfl, hcontrol⟩
      rcases control_times hcontrol with ⟨hsyncs, hcalls⟩
      rw [hcalls]
      exact ⟨hsyncs, RoundTimes.left hcompleted nofun⟩
  | inr hsettled =>
      rcases hsettled with ⟨round, mid, controlled, rest, rfl, hcontrol, hrest⟩
      rcases control_times hcontrol with ⟨hsyncs, hcalls⟩
      rw [completedSyncs_append, delaySyncCalls_append, hsyncs, hcalls]
      exact finishRound_times hcompleted hcontrol.time_le hrest

theorem pacedRound_times
    {control : SyncSettings Filter -> Except Error (SyncResponse Body) ->
      SyncProgram Filter Body Error (Round (SyncSettings Filter) Value)}
    {s : LoopState Filter} {t t' : Nat} {events : List (SyncEvent Filter Body Error)}
    {outcome : Option (Round (LoopState Filter) Value)}
    (hrun : TimedRun syncTiming.labelled (pacedRound control s) t events outcome t') :
    RoundTimes s t (completedSyncs events) (delaySyncCalls events) outcome t' := by
  cases hrun.bind_inv with
  | inl hstopped =>
      rcases hstopped with ⟨rfl, hsync⟩
      rcases syncOnce_times hsync with ⟨hcalls, hnone | hcompleted⟩
      · rw [hcalls, hnone.1]
        exact RoundTimes.idle
      · rw [hcalls, hcompleted.1]
        exact RoundTimes.left hcompleted.2 nofun
  | inr hsynced =>
      rcases hsynced with ⟨response, mid, first, rest, rfl, hsync, hrest⟩
      rcases syncOnce_times hsync with ⟨hcalls, hnone | hcompleted⟩
      · cases hnone.2
      · rcases afterSync_times hcompleted.2 hrest with ⟨hsyncs, hround⟩
        rw [completedSyncs_append, delaySyncCalls_append, hcompleted.1, hcalls, hsyncs]
        exact hround

/-!
# Runs
-/

theorem RoundTimes.paced {s : LoopState Filter} {t t' : Nat} {works looks : List Nat}
    {outcome : Option (Round (LoopState Filter) Value)}
    (hround : RoundTimes s t works looks outcome t') {works' looks' : List Nat}
    (hagain : forall s', outcome = some (Round.again s') ->
      Paced second s'.lastSyncTime t' works' looks')
    (hleft : (forall s', outcome ≠ some (Round.again s')) -> works' = [] ∧ looks' = []) :
    Paced second s.lastSyncTime t (works ++ works') (looks ++ looks') := by
  cases hround with
  | idle =>
      rcases hleft nofun with ⟨rfl, rfl⟩
      exact Paced.idle
  | left hcompleted hnot =>
      rcases hleft hnot with ⟨rfl, rfl⟩
      exact Paced.working hcompleted
  | waiting hcompleted hnow =>
      rcases hleft nofun with ⟨rfl, rfl⟩
      exact Paced.round hcompleted hnow Paced.idle
  | again hcompleted hnow hresume =>
      exact Paced.round hcompleted hnow ((hagain _ rfl).mono hresume)

/-- The rounds of a loop are paced by `delay_sync`. -/
theorem loop_paced
    {control : SyncSettings Filter -> Except Error (SyncResponse Body) ->
      SyncProgram Filter Body Error (Round (SyncSettings Filter) Value)}
    {rounds : Nat} {s : LoopState Filter} {t t' : Nat}
    {events : List (SyncEvent Filter Body Error)} {value : Option Value}
    (hrun : TimedRun syncTiming.labelled (Program.loop (pacedRound control) rounds s) t
      events value t') :
    Paced second s.lastSyncTime t (completedSyncs events) (delaySyncCalls events) := by
  induction rounds generalizing s t events with
  | zero =>
      cases hrun with
      | cut => exact Paced.idle
  | succ rounds ih =>
      cases hrun.bind_inv with
      | inl hstopped =>
          have hpaced : Paced second s.lastSyncTime t (completedSyncs events ++ [])
              (delaySyncCalls events ++ []) :=
            (pacedRound_times hstopped.2).paced nofun fun _ => ⟨rfl, rfl⟩
          rw [List.append_nil, List.append_nil] at hpaced
          exact hpaced
      | inr hround =>
          rcases hround with ⟨round, mid, first, rest, rfl, hfirst, hrest⟩
          rw [completedSyncs_append, delaySyncCalls_append]
          apply (pacedRound_times hfirst).paced
          · intro s' hs'
            cases hs'
            exact ih hrest
          · intro hleft
            cases round with
            | again s' => exact absurd rfl (hleft s')
            | leave a =>
                rcases hrest.done_inv with ⟨rfl, _, _⟩
                exact ⟨rfl, rfl⟩

def labelledSyncWithResultCallback (syncToken : Option String)
    (settings : SyncSettings Filter)
    (callback : Except Error (SyncResponse Body) ->
      SyncProgram Filter Body Error (Except Error LoopCtrl)) (rounds : Nat) :
    LabelledSync Filter Body Error (Except Error Unit) :=
  let syncSettings :=
    if settings.token.isNone then { settings with token := syncToken } else settings
  Program.loop (pacedRound (callbackControl callback)) rounds
    { syncSettings, lastSyncTime := none }

def labelledChatSyncForever (rounds : Nat) : LabelledSync Filter Body Error Unit :=
  Program.loop (pacedRound canceledControl) rounds
    { syncSettings := SyncSettings.new, lastSyncTime := none }

/-- A sync loop that is labelled like this keeps to the rate in every run. -/
structure RateBounded (loop : SyncProgram Filter Body Error Value)
    (labelled : LabelledSync Filter Body Error Value) : Prop where
  same : labelled.erase = loop
  calls : forall {t t' : Nat} {events : List (SyncEvent Filter Body Error)}
    {value : Option Value}, TimedRun syncTiming.labelled labelled t events value t' ->
      ThirdsApart second (delaySyncCalls events)
  syncs : forall {t t' : Nat} {events : List (SyncEvent Filter Body Error)}
    {value : Option Value}, TimedRun syncTiming.labelled labelled t events value t' ->
      forall start T, countIn (completedSyncs events) start (T * second) <= 2 * T

theorem rateBounded_loop
    {control : SyncSettings Filter -> Except Error (SyncResponse Body) ->
      SyncProgram Filter Body Error (Round (SyncSettings Filter) Value)}
    {round : LoopState Filter ->
      SyncProgram Filter Body Error (Round (LoopState Filter) Value)}
    (hround : forall s, (pacedRound control s).erase = round s) (rounds : Nat)
    (s : LoopState Filter) :
    RateBounded (Program.loop round rounds s)
      (Program.loop (pacedRound control) rounds s) where
  same := Program.erase_loop hround rounds s
  calls := fun hrun => (loop_paced hrun).looks_apart (Nat.zero_le second)
  syncs := fun hrun start T => by
    have hpaced := loop_paced hrun
    have happart := hpaced.works_apart (Nat.zero_le second)
    have hascending := hpaced.ascending (Nat.zero_le second)
    exact countIn_nsmul_le hascending happart start T

/-- However long the syncs, the callback and the scheduler take, three calls of
`delay_sync` in a row span a second, and no window of so many seconds holds more than
twice as many completed syncs. -/
theorem syncs_rateBounded :
    (forall (syncToken : Option String) (settings : SyncSettings Filter)
      (callback : Except Error (SyncResponse Body) ->
        SyncProgram Filter Body Error (Except Error LoopCtrl)) (rounds : Nat),
      RateBounded (syncWithResultCallback syncToken settings callback rounds)
        (labelledSyncWithResultCallback syncToken settings callback rounds)) ∧
    forall rounds : Nat,
      RateBounded (chatSyncForever rounds : SyncProgram Filter Body Error Unit)
        (labelledChatSyncForever rounds) := by
  constructor
  · intro syncToken settings callback rounds
    exact rateBounded_loop (erase_callback callback) rounds _
  · intro rounds
    exact rateBounded_loop erase_canceled rounds _

/-- The same of a run of the loop itself, whose operations can be labelled. -/
theorem RateBounded.of_run {loop : SyncProgram Filter Body Error Value}
    {labelled : LabelledSync Filter Body Error Value} (hloop : RateBounded loop labelled)
    {t t' : Nat} {events : List (Timed (SyncOp Filter) (SyncReply Body Error) Nat)}
    {value : Option Value} (hrun : TimedRun syncTiming loop t events value t') :
    exists labels, events = labels.map Timed.erase ∧
      TimedRun syncTiming.labelled labelled t labels value t' ∧
      ThirdsApart second (delaySyncCalls labels) ∧
      forall start T, countIn (completedSyncs labels) start (T * second) <= 2 * T := by
  rw [← hloop.same] at hrun
  rcases Program.timedRun_erase_iff.mp hrun with ⟨labels, hlabels, hevents⟩
  exact ⟨labels, hevents, hlabels, hloop.calls hlabels, hloop.syncs hlabels⟩

/-- A server that refuses every sync at once, and a scheduler that never delays. -/
def refuseAtOnce : (o : SyncPart × SyncOp Unit) -> Nat -> SyncReply Unit Unit o.2 × Nat
  | (_, SyncOp.send _ _), t => (.error (), t)
  | (_, SyncOp.now), t => (t, t)
  | (_, SyncOp.sleep duration), t => ((), t + duration)
  | (_, SyncOp.readCanceled), t => (false, t)

theorem refuseAtOnce_timing (o : SyncPart × SyncOp Unit) (t : Nat) :
    t <= (refuseAtOnce o t).2 ∧
      syncTiming.labelled o (refuseAtOnce o t).1 t (refuseAtOnce o t).2 := by
  rcases o with ⟨part, op⟩
  cases op with
  | send => exact ⟨le_rfl, True.intro⟩
  | now => exact ⟨le_rfl, le_rfl, le_rfl⟩
  | sleep duration => exact ⟨Nat.le_add_right t duration, le_rfl⟩
  | readCanceled => exact ⟨le_rfl, True.intro⟩

/-- The bound is reached: the second round follows on the first one at once. -/
example :
    exists (events : List (SyncEvent Unit Unit Unit)) (t' : Nat),
      TimedRun syncTiming.labelled (labelledChatSyncForever 3) 0 events none t' ∧
      delaySyncCalls events = [0, 0, second] ∧ countIn (completedSyncs events) 0 second = 2 :=
  ⟨_, _, Program.timedRun_answered refuseAtOnce_timing (labelledChatSyncForever 3) 0, rfl,
    rfl⟩

end Sync
end MatrixGoose
