import MatrixGoose.Bin.Chat.Steps

/-!
# Stopping users

`on_stop` of a user that holds session data sets the flag of the whole process, so
it stops every user.  Without Ctrl-C and within the run time nothing else makes a
scheduler or a sync task return.
-/

namespace MatrixGoose

open Foundation
open Foundation.Components

namespace Chat

open Lib

variable {Message : Type}

def NoCtrlC (before : List (ChatEvent Message)) : Prop :=
  forall u, ChatEvent.main u (MainAction.sleep SleepAction.ctrlC) ∉ before

def RunTimeLeft (config : Config) (w : ChatWorld Message) (e : ChatEvent Message) :
    Prop :=
  forall u between, e = ChatEvent.main u (MainAction.checkCanceled between) ->
    runTimeElapsed config w.shared between = false

/-- Some user has gone through `on_stop` and found the flag unset. -/
def StoppedSome (before : List (ChatEvent Message)) : Prop :=
  exists u, ChatEvent.main u MainAction.stopWriteCanceled ∈ before

def Phase.InScheduler : Phase Message -> Prop
  | Phase.schedulerEntry => True
  | Phase.schedulerLoop => True
  | Phase.draw => True
  | Phase.call _ _ => True
  | Phase.sleep _ (Continuation.task _) => True
  | _ => False

def SchedulerReturns (v : Nat) (w w' : ChatWorld Message) : Prop :=
  (w.memory v).phase.InScheduler ∧ (w'.memory v).phase = Phase.betweenTransactions

def SyncReturns (v : Nat) (w w' : ChatWorld Message) : Prop :=
  (w.memory v).syncPhase ≠ SyncPhase.finished ∧
    (w'.memory v).syncPhase = SyncPhase.finished

/-!
# Interrupted sleeps
-/

theorem pc_of_proceed {now : Nat} {pending : List (Pending Message)}
    {sleep : TaskSleep} {continuation : Continuation Message}
    (h : proceed now pending = Phase.sleep sleep continuation) :
    sleep.pc = SleepPc.test := by
  rcases proceed_cases now pending with hloop | ⟨request, rest, hcall⟩ | ⟨delay, rest, hnew⟩
  · rw [hloop] at h
    cases h
  · rw [hcall] at h
    cases h
  · rw [hnew] at h
    cases h
    rfl

theorem MainStep.eq_ctrlC {config : Config} {u : Nat}
    {shared shared' : Shared Message} {user user' : ChatUser Message} {a : MainAction}
    (hstep : MainStep config u shared user a shared' user')
    {sleep : TaskSleep} {continuation : Continuation Message}
    (hsleep : user'.phase = Phase.sleep sleep continuation)
    (hpc : sleep.pc = SleepPc.interrupted) :
    a = MainAction.sleep SleepAction.ctrlC := by
  cases hstep with
  | sleep before continuation' a canceled outcome hphase hsleepStep =>
      cases outcome with
      | running after =>
          cases hsleep
          rw [hsleepStep.eq_ctrlC rfl hpc]
      | panicked => cases hsleep
      | returned =>
          cases continuation' with
          | stopLoop => cases hsleep
          | task pending =>
              rw [pc_of_proceed hsleep] at hpc
              cases hpc
  | startTask draw start hphase hstart =>
      rw [pc_of_proceed hsleep] at hpc
      cases hpc
  | callDone request pending token hphase =>
      rw [pc_of_proceed hsleep] at hpc
      cases hpc
  | request owner hphase howner =>
      rcases hphase with ⟨_, hphase⟩ | ⟨_, _, hphase⟩ <;> rw [hphase] at hsleep <;>
        cases hsleep
  | newClient hphase =>
      simp only at hsleep
      split at hsleep <;> cases hsleep
  | loginFailed retries hphase =>
      simp only at hsleep
      split at hsleep <;> cases hsleep
  | enterScheduler phase hphase hnext =>
      rcases hnext with rfl | rfl <;> cases hsleep
  | checkStays phase hphase hstay =>
      rcases hphase with ⟨_, rfl⟩ | ⟨_, rfl⟩ <;> cases hsleep
  | enterOnStop hphase =>
      simp only at hsleep
      split at hsleep <;> cases hsleep
  | stopReadCanceled hphase =>
      simp only at hsleep
      split at hsleep <;> cases hsleep
  | stopPoll hphase =>
      simp only at hsleep
      split at hsleep
      · cases hsleep
      · cases hsleep
        cases hpc
  | _ => cases hsleep

theorem proceed_not_stopping (now : Nat) (pending : List (Pending Message)) :
    ¬ (proceed now pending = Phase.stopRead ∨ proceed now pending = Phase.stopWrite) := by
  rcases proceed_cases now pending with h | ⟨_, _, h⟩ | ⟨_, _, h⟩ <;> simp [h]

/-- `on_stop` reads and writes the flag only for a user with session data. -/
theorem MainStep.stopping {config : Config} {u : Nat}
    {shared shared' : Shared Message} {user user' : ChatUser Message} {a : MainAction}
    (hstep : MainStep config u shared user a shared' user')
    (hstop : user'.phase = Phase.stopRead ∨ user'.phase = Phase.stopWrite) :
    (shared.sessions u).isSome = true ∨ user.phase = Phase.stopRead := by
  cases hstep with
  | enterOnStop hphase =>
      left
      simp only at hstop
      split at hstop
      · next hsession => exact hsession
      · rcases hstop with hstop | hstop <;> cases hstop
  | stopReadCanceled hphase => exact Or.inr hphase
  | newClient hphase =>
      simp only at hstop
      split at hstop <;> rcases hstop with hstop | hstop <;> cases hstop
  | loginFailed retries hphase =>
      simp only at hstop
      split at hstop <;> rcases hstop with hstop | hstop <;> cases hstop
  | enterScheduler phase hphase hnext =>
      rcases hnext with rfl | rfl <;> rcases hstop with hstop | hstop <;> cases hstop
  | checkStays phase hphase hstay =>
      rcases hphase with ⟨_, rfl⟩ | ⟨_, rfl⟩ <;> rcases hstop with hstop | hstop <;>
        cases hstop
  | startTask draw start hphase hstart =>
      exact absurd hstop (proceed_not_stopping _ _)
  | request owner hphase howner =>
      rcases hphase with ⟨_, hphase⟩ | ⟨_, _, hphase⟩ <;> rw [hphase] at hstop <;>
        rcases hstop with hstop | hstop <;> cases hstop
  | callDone request pending token hphase =>
      exact absurd hstop (proceed_not_stopping _ _)
  | sleep sleep continuation a canceled outcome hphase hsleep =>
      cases outcome with
      | running sleep => rcases hstop with hstop | hstop <;> cases hstop
      | panicked => rcases hstop with hstop | hstop <;> cases hstop
      | returned =>
          cases continuation with
          | stopLoop => rcases hstop with hstop | hstop <;> cases hstop
          | task pending => exact absurd hstop (proceed_not_stopping _ _)
  | stopPoll hphase =>
      simp only at hstop
      split at hstop <;> rcases hstop with hstop | hstop <;> cases hstop
  | _ => rcases hstop with hstop | hstop <;> cases hstop

theorem proceed_ne_betweenTransactions (now : Nat) (pending : List (Pending Message)) :
    proceed now pending ≠ Phase.betweenTransactions := by
  rcases proceed_cases now pending with h | ⟨_, _, h⟩ | ⟨_, _, h⟩ <;> simp [h]

theorem MainStep.returns {config : Config} {u : Nat}
    {shared shared' : Shared Message} {user user' : ChatUser Message} {a : MainAction}
    (hstep : MainStep config u shared user a shared' user')
    (hscheduler : user.phase.InScheduler)
    (hreturned : user'.phase = Phase.betweenTransactions) :
    exists between, a = MainAction.checkCanceled between ∧
      (shared.canceled || runTimeElapsed config shared between) = true := by
  cases hstep with
  | checkLeaves hphase hleave => exact ⟨_, rfl, hleave⟩
  | loginFailed retries hphase => exact absurd hscheduler (by rw [hphase]; exact id)
  | setSessionData hphase => exact absurd hscheduler (by rw [hphase]; exact id)
  | newClient hphase => exact absurd hscheduler (by rw [hphase]; exact id)
  | enterScheduler phase hphase hnext =>
      exact absurd hscheduler (by rw [hphase]; exact id)
  | checkStays phase hphase hstay =>
      rcases hphase with ⟨_, rfl⟩ | ⟨_, rfl⟩ <;> cases hreturned
  | startTask draw start hphase hstart =>
      exact absurd hreturned (proceed_ne_betweenTransactions _ _)
  | request owner hphase howner =>
      rcases hphase with ⟨_, hphase⟩ | ⟨_, _, hphase⟩ <;> rw [hphase] at hreturned <;>
        cases hreturned
  | callDone request pending token hphase =>
      exact absurd hreturned (proceed_ne_betweenTransactions _ _)
  | sleep sleep continuation a canceled outcome hphase hsleep =>
      cases outcome with
      | running sleep => cases hreturned
      | panicked => cases hreturned
      | returned =>
          cases continuation with
          | stopLoop => cases hreturned
          | task pending =>
              exact absurd hreturned (proceed_ne_betweenTransactions _ _)
  | enterOnStop hphase => exact absurd hscheduler (by rw [hphase]; exact id)
  | stopReadCanceled hphase => exact absurd hscheduler (by rw [hphase]; exact id)
  | stopPoll hphase => exact absurd hscheduler (by rw [hphase]; exact id)
  | _ => cases hreturned

theorem SyncStep.finishes {u : Nat} {shared shared' : Shared Message}
    {user user' : ChatUser Message} {a : SyncTaskAction Message}
    (hstep : SyncStep u shared user a shared' user')
    (hbefore : user.syncPhase ≠ SyncPhase.finished)
    (hfinished : user'.syncPhase = SyncPhase.finished) :
    a = SyncTaskAction.readCanceled ∧ shared.canceled = true := by
  cases hstep with
  | readCanceled hphase =>
      simp only at hfinished
      split at hfinished
      · next hcanceled => exact ⟨rfl, hcanceled⟩
      · cases hfinished
  | delaySync syncPhase hphase hnext => rcases hnext with rfl | rfl <;> cases hfinished
  | request owner hphase howner => exact absurd hfinished hbefore
  | receiveRooms joinedRooms hphase => exact absurd hfinished hbefore
  | onRoomMessage roomId event owner clientData hphase howner hsession =>
      exact absurd hfinished hbefore
  | _ => cases hfinished

/-!
# The flag along a run
-/

structure StopsWithData (u : Nat) (shared : Shared Message) (user : ChatUser Message) :
    Prop where
  interrupted : forall sleep continuation, user.phase = Phase.sleep sleep continuation ->
    sleep.pc ≠ SleepPc.interrupted
  stopping : user.phase = Phase.stopRead ∨ user.phase = Phase.stopWrite ->
    (shared.sessions u).isSome = true

structure FlagTracked (before : List (ChatEvent Message)) (w : ChatWorld Message) :
    Prop where
  users : Everywhere StopsWithData w
  canceled : w.shared.canceled = true <-> StoppedSome before

theorem stoppedSome_append {before : List (ChatEvent Message)} {e : ChatEvent Message}
    (he : forall u, e ≠ ChatEvent.main u MainAction.stopWriteCanceled) :
    StoppedSome (before ++ [e]) <-> StoppedSome before := by
  constructor
  · intro h
    rcases h with ⟨u, hu⟩
    rcases List.mem_append.mp hu with h | h
    · exact ⟨u, h⟩
    · exact absurd (List.mem_singleton.mp h).symm (he u)
  · intro h
    rcases h with ⟨u, hu⟩
    exact ⟨u, List.mem_append_left _ hu⟩

theorem SyncStep.stopsWithData {u j : Nat} {shared shared' : Shared Message}
    {user user' other : ChatUser Message} {a : SyncTaskAction Message}
    (hstep : SyncStep u shared user a shared' user')
    (hother : StopsWithData j shared other) : StopsWithData j shared' other := by
  constructor
  · exact hother.interrupted
  · rw [hstep.isSome_sessions]
    exact hother.stopping

theorem MainStep.stopsWithData {config : Config} {u : Nat}
    {shared shared' : Shared Message} {user user' : ChatUser Message} {a : MainAction}
    (hstep : MainStep config u shared user a shared' user')
    (hctrlC : a ≠ MainAction.sleep SleepAction.ctrlC) (hu : StopsWithData u shared user) :
    StopsWithData u shared' user' := by
  constructor
  · intro sleep continuation hsleep hpc
    exact hctrlC (hstep.eq_ctrlC hsleep hpc)
  · intro hstop
    have hbefore : (shared.sessions u).isSome = true := by
      rcases hstep.stopping hstop with h | h
      · exact h
      · exact hu.stopping (Or.inl h)
    rcases hstep.isSome_sessions u with h | ⟨_, _, h⟩
    · rw [h]
      exact hbefore
    · exact h

theorem MainStep.stopsWithData_other {config : Config} {u j : Nat}
    {shared shared' : Shared Message} {user user' other : ChatUser Message}
    {a : MainAction} (hstep : MainStep config u shared user a shared' user')
    (hj : j ≠ u) (hother : StopsWithData j shared other) :
    StopsWithData j shared' other := by
  constructor
  · exact hother.interrupted
  · rcases hstep.isSome_sessions j with h | ⟨_, h, _⟩
    · rw [h]
      exact hother.stopping
    · exact absurd h hj

theorem flagTracked_step {config : Config} {before : List (ChatEvent Message)}
    {w w' : ChatWorld Message} {e : ChatEvent Message} (hw : FlagTracked before w)
    (hctrlC : forall u, e ≠ ChatEvent.main u (MainAction.sleep SleepAction.ctrlC))
    (hstep : (chat Message config).worldStep w e = some w') :
    FlagTracked (before ++ [e]) w' := by
  cases e with
  | environment duration =>
      constructor
      · refine everywhere_environment hw.users hstep ?_
        intro shared i hshared hi
        cases hshared
        exact ⟨hi.interrupted, hi.stopping⟩
      · rcases worldStep_environment_eq_some.mp hstep with ⟨shared, hshared, rfl⟩
        cases hshared
        rw [stoppedSome_append (fun u h => by cases h)]
        exact hw.canceled
  | component u a =>
      cases a with
      | sync a =>
          constructor
          · refine everywhere_component hw.users hstep ?_ ?_
            · intro shared user hlocal hu
              have hsync := syncStep_of_eq_some hlocal
              have hkept := hsync.stopsWithData hu
              constructor
              · rw [hsync.phase_eq]
                exact hkept.interrupted
              · rw [hsync.phase_eq]
                exact hkept.stopping
            · intro shared user j hlocal hj hother
              exact (syncStep_of_eq_some hlocal).stopsWithData hother
          · rcases worldStep_component_eq_some.mp hstep with ⟨shared, user, hlocal, rfl⟩
            rw [stoppedSome_append (fun u h => by cases h)]
            show shared.canceled = true <-> _
            rw [(syncStep_of_eq_some hlocal).canceled_eq]
            exact hw.canceled
      | main a =>
          have hnotCtrlC : a ≠ MainAction.sleep SleepAction.ctrlC := by
            intro h
            exact hctrlC u (by rw [h]; rfl)
          constructor
          · refine everywhere_component hw.users hstep ?_ ?_
            · intro shared user hlocal hu
              exact (mainStep_of_eq_some hlocal).stopsWithData hnotCtrlC hu
            · intro shared user j hlocal hj hother
              exact (mainStep_of_eq_some hlocal).stopsWithData_other hj hother
          · rcases worldStep_component_eq_some.mp hstep with ⟨shared, user, hlocal, rfl⟩
            show shared.canceled = true <-> _
            rcases (mainStep_of_eq_some hlocal).canceled_cases with
              ⟨hnot, hsame⟩ | ⟨hwrite, _, htrue⟩ | ⟨_, _, hphase, hpc, _⟩
            · rw [stoppedSome_append, hsame]
              · exact hw.canceled
              · intro v h
                cases h
                exact hnot rfl
            · rw [htrue, hwrite]
              exact ⟨fun _ => ⟨u, List.mem_append_right _ (List.mem_singleton.mpr rfl)⟩,
                fun _ => rfl⟩
            · exact absurd hpc ((hw.users u).interrupted _ _ hphase)

theorem flagTracked_run {config : Config} {before : List (ChatEvent Message)}
    {w : ChatWorld Message} (hrun : (chat Message config).system.run before = some w)
    (hctrlC : NoCtrlC before) : FlagTracked before w := by
  have htracked : NoCtrlC before -> FlagTracked before w := by
    refine @TransitionSystem.invariant_run_history _ _ (chat Message config).system
      (fun before w => NoCtrlC before -> FlagTracked before w) ?_ ?_ before w hrun
    · intro _
      refine ⟨fun u => ⟨nofun, fun h => ?_⟩, ?_⟩
      · rcases h with h | h <;> cases h
      · constructor
        · intro h
          cases h
        · intro h
          rcases h with ⟨u, hu⟩
          cases hu
    · intro before w e w' hw hstep hctrlC
      apply flagTracked_step (hw fun u hu => hctrlC u (List.mem_append_left _ hu)) _ hstep
      intro u he
      exact hctrlC u (List.mem_append_right _ (List.mem_singleton.mpr he.symm))
  exact htracked hctrlC

theorem MainStep.returns_of_canceled {config : Config} {u : Nat}
    {shared shared' : Shared Message} {user user' : ChatUser Message}
    {between : Nat}
    (hstep : MainStep config u shared user (MainAction.checkCanceled between) shared' user')
    (hcanceled : shared.canceled = true) :
    user.phase.InScheduler ∧ user'.phase = Phase.betweenTransactions := by
  cases hstep with
  | checkLeaves hphase hleave =>
      rcases hphase with hphase | hphase <;> rw [hphase] <;> exact ⟨True.intro, rfl⟩
  | checkStays phase hphase hstay =>
      rw [hcanceled] at hstay
      cases hstay

theorem MainStep.phase_of_stopWrite {config : Config} {u : Nat}
    {shared shared' : Shared Message} {user user' : ChatUser Message}
    (hstep : MainStep config u shared user MainAction.stopWriteCanceled shared' user') :
    user.phase = Phase.stopWrite := by
  cases hstep with
  | stopWriteCanceled hphase => exact hphase

theorem MainStep.stopped_of_no_data {config : Config} {u : Nat}
    {shared shared' : Shared Message} {user user' : ChatUser Message}
    (hstep : MainStep config u shared user MainAction.enterOnStop shared' user')
    (hnone : (shared.sessions u).isSome = false) :
    user'.phase = Phase.stopped ∧ shared' = shared := by
  cases hstep with
  | enterOnStop hphase => exact ⟨by rw [hnone]; rfl, rfl⟩

theorem SyncStep.finishes_of_canceled {u : Nat} {shared shared' : Shared Message}
    {user user' : ChatUser Message}
    (hstep : SyncStep u shared user SyncTaskAction.readCanceled shared' user')
    (hcanceled : shared.canceled = true) :
    user.syncPhase ≠ SyncPhase.finished ∧ user'.syncPhase = SyncPhase.finished := by
  cases hstep with
  | readCanceled hphase =>
      rw [hphase]
      exact ⟨nofun, by rw [hcanceled]; rfl⟩

/-- Without Ctrl-C and within the run time, a scheduler or sync task returns at
exactly those of its checks that come after some user with session data was
stopped; stopping a user without session data changes nothing. -/
theorem returns_iff_stopped {config : Config} {before : List (ChatEvent Message)}
    {w w' : ChatWorld Message} {e : ChatEvent Message}
    (hrun : (chat Message config).system.run before = some w)
    (hstep : (chat Message config).worldStep w e = some w')
    (hctrlC : NoCtrlC before) (htime : RunTimeLeft config w e) :
    (forall v, SchedulerReturns v w w' <->
      (exists between, e = ChatEvent.main v (MainAction.checkCanceled between)) ∧
        StoppedSome before) ∧
    (forall v, SyncReturns v w w' <->
      e = ChatEvent.sync v SyncTaskAction.readCanceled ∧ StoppedSome before) ∧
    (forall u, e = ChatEvent.main u MainAction.stopWriteCanceled ->
      (w.shared.sessions u).isSome = true) ∧
    (forall u, e = ChatEvent.main u MainAction.enterOnStop ->
      (w.shared.sessions u).isSome = false ->
      (w'.memory u).phase = Phase.stopped ∧ w'.shared = w.shared) := by
  have htracked := flagTracked_run hrun hctrlC
  refine ⟨?_, ?_, ?_, ?_⟩
  · intro v
    constructor
    · intro h
      rcases h with ⟨hscheduler, hreturned⟩
      rcases memory_eq_or hstep v with hsame | ⟨a, he, hlocal⟩
      · rw [← hsame, hreturned] at hscheduler
        cases hscheduler
      · cases a with
        | sync a =>
            rw [(syncStep_of_eq_some hlocal).phase_eq] at hreturned
            rw [hreturned] at hscheduler
            cases hscheduler
        | main a =>
            rcases (mainStep_of_eq_some hlocal).returns hscheduler hreturned with
              ⟨between, ha, hleave⟩
            subst ha
            rw [htime v between he, Bool.or_false] at hleave
            exact ⟨⟨between, he⟩, htracked.canceled.mp hleave⟩
    · intro h
      rcases h with ⟨⟨between, he⟩, hstopped⟩
      subst he
      exact (mainStep_of_worldStep hstep).returns_of_canceled
        (htracked.canceled.mpr hstopped)
  · intro v
    constructor
    · intro h
      rcases h with ⟨hrunning, hfinished⟩
      rcases memory_eq_or hstep v with hsame | ⟨a, he, hlocal⟩
      · rw [hsame] at hfinished
        exact absurd hfinished hrunning
      · cases a with
        | sync a =>
            rcases (syncStep_of_eq_some hlocal).finishes hrunning hfinished with
              ⟨ha, hcanceled⟩
            subst ha
            exact ⟨he, htracked.canceled.mp hcanceled⟩
        | main a =>
            rcases (mainStep_of_eq_some hlocal).syncPhase_eq_or with hsame | ⟨_, hloop⟩
            · rw [hsame] at hfinished
              exact absurd hfinished hrunning
            · rw [hloop] at hfinished
              cases hfinished
    · intro h
      rcases h with ⟨he, hstopped⟩
      subst he
      exact (syncStep_of_worldStep hstep).finishes_of_canceled
        (htracked.canceled.mpr hstopped)
  · intro u he
    subst he
    exact (htracked.users u).stopping
      (Or.inr (mainStep_of_worldStep hstep).phase_of_stopWrite)
  · intro u he hnone
    subst he
    exact (mainStep_of_worldStep hstep).stopped_of_no_data hnone

/-- Both loops of user 1 are about to read the flag when user 0 is stopped. -/
def stopOtherRun : List (ChatEvent String) :=
  sampleStart 0 ++ sampleStart 1 ++
    [ChatEvent.sync 1 SyncTaskAction.startSyncOnce,
      ChatEvent.sync 1 SyncTaskAction.syncOnceDone,
      ChatEvent.main 1 MainAction.enterScheduler,
      ChatEvent.main 1 (MainAction.checkCanceled 0)] ++
    sampleStop 0

def stopOtherWorld : ChatWorld String :=
  ((chat String sampleConfig).system.run stopOtherRun).getD
    (chat String sampleConfig).system.init

theorem run_stopOtherRun :
    (chat String sampleConfig).system.run stopOtherRun = some stopOtherWorld := rfl

theorem noCtrlC_stopOtherRun : NoCtrlC stopOtherRun := by
  intro u hu
  simp [stopOtherRun, sampleStart, sampleLogin, sampleStop, ChatEvent.main,
    ChatEvent.sync] at hu

theorem runTimeElapsed_stopOtherWorld :
    runTimeElapsed sampleConfig stopOtherWorld.shared 0 = false := by
  decide +kernel

theorem returns_iff_stopped_other_user :
    exists w', (chat String sampleConfig).worldStep stopOtherWorld
        (ChatEvent.main 1 (MainAction.checkCanceled 0)) = some w' ∧
      SchedulerReturns 1 stopOtherWorld w' := by
  have htime : RunTimeLeft sampleConfig stopOtherWorld
      (ChatEvent.main 1 (MainAction.checkCanceled 0)) := by
    intro u between he
    cases he
    exact runTimeElapsed_stopOtherWorld
  refine ⟨_, rfl, ((returns_iff_stopped run_stopOtherRun rfl noCtrlC_stopOtherRun
    htime).1 1).mpr ⟨⟨0, rfl⟩, 0, ?_⟩⟩
  simp [stopOtherRun, sampleStop]

/-- Stopping user 0 makes both loops of user 1 return, although nobody stops user
1, nobody presses Ctrl-C and no time has passed. -/
theorem stopping_one_user_stops_another :
    (chat String sampleConfig).system.run stopOtherRun = some stopOtherWorld ∧
      NoCtrlC stopOtherRun ∧
      runTimeElapsed sampleConfig stopOtherWorld.shared 0 = false ∧
      ChatEvent.main 1 MainAction.enterOnStop ∉ stopOtherRun ∧
      exists w', (chat String sampleConfig).system.runFrom stopOtherWorld
          [ChatEvent.main 1 (MainAction.checkCanceled 0),
            ChatEvent.sync 1 SyncTaskAction.readCanceled] = some w' ∧
        SchedulerReturns 1 stopOtherWorld w' ∧ SyncReturns 1 stopOtherWorld w' := by
  refine ⟨run_stopOtherRun, noCtrlC_stopOtherRun, runTimeElapsed_stopOtherWorld, ?_,
    _, rfl, ⟨True.intro, rfl⟩, ⟨nofun, rfl⟩⟩
  simp [stopOtherRun, sampleStart, sampleLogin, sampleStop, ChatEvent.main,
    ChatEvent.sync]

end Chat
end MatrixGoose
