import MatrixGoose.Bin.Chat.TaskOutcomes
import MatrixGoose.Bin.Chat.Users

/-!
# What a step of a chat user can do

One constructor for each way in which a thread or a sync task gets to its next
await point.
-/

namespace MatrixGoose

open Foundation

namespace Chat

open EventHandler
open Lib

variable {Message : Type}

/-!
# The thread
-/

def viewOf (config : Config) (u : Nat) (shared : Shared Message)
    (user : ChatUser Message) : View Message where
  usersIndex := u
  csvUsers := config.csvUsers
  client := user.client
  session := shared.sessions u

def phaseAfterSleep (now : Nat) (continuation : Continuation Message) :
    SleepOutcome -> Phase Message
  | SleepOutcome.running sleep => Phase.sleep sleep continuation
  | SleepOutcome.returned => resume now continuation
  | SleepOutcome.panicked => Phase.panicked Panic.durationSubtraction

/-- A thread sends requests while it logs in and during the calls of a task. -/
def Phase.Requesting (phase : Phase Message) : Prop :=
  (exists retries, phase = Phase.login retries) ∨
    exists request pending, phase = Phase.call request pending

inductive MainStep (config : Config) (u : Nat) (shared : Shared Message)
    (user : ChatUser Message) :
    MainAction -> Shared Message -> ChatUser Message -> Prop
  | onStart (hphase : user.phase = Phase.notStarted) :
      MainStep config u shared user MainAction.onStart
        { shared with gooseUsers := shared.gooseUsers ++ [u] }
        { user with phase := Phase.newClient }
  | newClient (hphase : user.phase = Phase.newClient) :
      MainStep config u shared user (MainAction.newClient true) shared
        { user with
          client := some { userId := none, joinedRooms := [] }
          phase :=
            if u < config.csvUsers then Phase.login 3
            else Phase.panicked Panic.usersIndex }
  | newClientFailed (hphase : user.phase = Phase.newClient) :
      MainStep config u shared user (MainAction.newClient false) shared
        { user with phase := Phase.panicked Panic.clientBuild }
  | loggedIn (retries : Nat) (id : String) (hphase : user.phase = Phase.login retries) :
      MainStep config u shared user (MainAction.loginResponse (some id)) shared
        { user with
          client := user.client.map fun client => { client with userId := some id }
          syncPhase := SyncPhase.loop
          phase := Phase.syncSpawned }
  | loginFailed (retries : Nat) (hphase : user.phase = Phase.login retries) :
      MainStep config u shared user (MainAction.loginResponse none) shared
        { user with
          phase :=
            if retries - 1 > 0 then Phase.login (retries - 1)
            else Phase.betweenTransactions }
  | setSessionData (hphase : user.phase = Phase.syncSpawned) :
      MainStep config u shared user MainAction.setSessionData
        { shared with
          sessions := Function.update shared.sessions u (some ClientData.new) }
        { user with phase := Phase.betweenTransactions }
  | enterScheduler (phase : Phase Message)
      (hphase : user.phase = Phase.betweenTransactions)
      (hnext : phase = Phase.schedulerEntry ∨ phase = Phase.panicked Panic.runTimeParse) :
      MainStep config u shared user MainAction.enterScheduler shared
        { user with phase }
  | checkLeaves {between : Nat}
      (hphase : user.phase = Phase.schedulerEntry ∨ user.phase = Phase.schedulerLoop)
      (hleave : (shared.canceled || runTimeElapsed config shared between) = true) :
      MainStep config u shared user (MainAction.checkCanceled between)
        (afterCheck shared between)
        { user with phase := Phase.betweenTransactions }
  | checkStays {between : Nat} (phase : Phase Message)
      (hphase : (user.phase = Phase.schedulerEntry ∧ phase = Phase.schedulerLoop) ∨
        (user.phase = Phase.schedulerLoop ∧ phase = Phase.draw))
      (hstay : (shared.canceled || runTimeElapsed config shared between) = false) :
      MainStep config u shared user (MainAction.checkCanceled between)
        (afterCheck shared between)
        { user with phase }
  | startTask (draw : Draw) (start : TaskStart Message)
      (hphase : user.phase = Phase.draw)
      (hstart : runTask (viewOf config u shared user) draw = .ok start) :
      MainStep config u shared user (MainAction.startTask draw)
        { shared with sessions := Function.update shared.sessions u start.session }
        { user with phase := proceed shared.now (start.pending ++ [roundEnd]) }
  | taskPanics (draw : Draw) (panic : Panic) (hphase : user.phase = Phase.draw)
      (hstart : runTask (viewOf config u shared user) draw = .error panic) :
      MainStep config u shared user (MainAction.startTask draw) shared
        { user with phase := Phase.panicked panic }
  | request (owner : Nat)
      (hphase : user.phase.Requesting)
      (howner : shared.gooseUsers[u]? = some owner) :
      MainStep config u shared user MainAction.request
        { shared with requests := shared.requests ++ [(u, owner)] } user
  | requestPanics
      (hphase : user.phase.Requesting)
      (howner : shared.gooseUsers[u]? = none) :
      MainStep config u shared user MainAction.request shared
        { user with phase := Phase.panicked Panic.gooseUsersIndex }
  | callDone (request : Request Message) (pending : List (Pending Message))
      (token : Option String) (hphase : user.phase = Phase.call request pending) :
      MainStep config u shared user (MainAction.callDone token)
        { shared with
          sessions := Function.update shared.sessions u
            (callDone (shared.sessions u) request token) }
        { user with phase := proceed shared.now pending }
  | sleep (sleep : TaskSleep) (continuation : Continuation Message) (a : SleepAction)
      (canceled : Bool) (outcome : SleepOutcome)
      (hphase : user.phase = Phase.sleep sleep continuation)
      (hsleep : TaskSleep.Step shared.now shared.canceled sleep a canceled outcome) :
      MainStep config u shared user (MainAction.sleep a) { shared with canceled }
        { user with phase := phaseAfterSleep shared.now continuation outcome }
  | enterOnStop (hphase : user.phase = Phase.betweenTransactions) :
      MainStep config u shared user MainAction.enterOnStop shared
        { user with
          phase :=
            if (shared.sessions u).isSome then Phase.stopRead else Phase.stopped }
  | stopReadCanceled (hphase : user.phase = Phase.stopRead) :
      MainStep config u shared user MainAction.stopReadCanceled shared
        { user with
          phase := if shared.canceled then Phase.stopLoop else Phase.stopWrite }
  | stopWriteCanceled (hphase : user.phase = Phase.stopWrite) :
      MainStep config u shared user MainAction.stopWriteCanceled
        { shared with canceled := true } { user with phase := Phase.stopLoop }
  | stopPoll (hphase : user.phase = Phase.stopLoop) :
      MainStep config u shared user MainAction.stopPoll shared
        { user with
          phase :=
            if user.syncPhase.isFinished then Phase.stopped
            else Phase.sleep (TaskSleep.new shared.now second false)
              Continuation.stopLoop }

theorem mainStep_of_eq_some {config : Config} {u : Nat}
    {shared shared' : Shared Message} {user user' : ChatUser Message} {a : MainAction}
    (hstep : mainStep config u shared user a = some (shared', user')) :
    MainStep config u shared user a shared' user' := by
  cases a with
  | onStart =>
      cases hphase : user.phase <;>
        simp only [mainStep, onStart, hphase, reduceCtorEq] at hstep
      cases hstep
      exact MainStep.onStart hphase
  | newClient built =>
      cases hphase : user.phase <;>
        simp only [mainStep, newClient, hphase, reduceCtorEq] at hstep
      cases built with
      | false =>
          cases hstep
          exact MainStep.newClientFailed hphase
      | true =>
          cases hstep
          exact MainStep.newClient hphase
  | loginResponse userId =>
      cases hphase : user.phase <;>
        simp only [mainStep, loginResponse, hphase, reduceCtorEq] at hstep
      cases userId with
      | none =>
          cases hstep
          exact MainStep.loginFailed _ hphase
      | some id =>
          cases hstep
          exact MainStep.loggedIn _ id hphase
  | setSessionData =>
      cases hphase : user.phase <;>
        simp only [mainStep, setSessionData, hphase, reduceCtorEq] at hstep
      cases hstep
      exact MainStep.setSessionData hphase
  | enterScheduler =>
      cases hphase : user.phase <;>
        simp only [mainStep, enterScheduler, hphase, reduceCtorEq] at hstep
      split at hstep
      · cases hstep
        exact MainStep.enterScheduler _ hphase (Or.inl rfl)
      · cases hstep
        exact MainStep.enterScheduler _ hphase (Or.inr rfl)
  | checkCanceled between =>
      cases hphase : user.phase <;>
        simp only [mainStep, checkCanceled, hphase, reduceCtorEq] at hstep
      · cases hleave : shared.canceled || runTimeElapsed config shared between with
        | true =>
            rw [hleave] at hstep
            cases hstep
            exact MainStep.checkLeaves (Or.inl hphase) hleave
        | false =>
            rw [hleave] at hstep
            cases hstep
            exact MainStep.checkStays _ (Or.inl ⟨hphase, rfl⟩) hleave
      · cases hleave : shared.canceled || runTimeElapsed config shared between with
        | true =>
            rw [hleave] at hstep
            cases hstep
            exact MainStep.checkLeaves (Or.inr hphase) hleave
        | false =>
            rw [hleave] at hstep
            cases hstep
            exact MainStep.checkStays _ (Or.inr ⟨hphase, rfl⟩) hleave
  | startTask draw =>
      cases hphase : user.phase <;>
        simp only [mainStep, startTask, hphase, reduceCtorEq] at hstep
      split at hstep
      · split at hstep
        · next panic hstart =>
            cases hstep
            exact MainStep.taskPanics draw panic hphase hstart
        · next start hstart =>
            cases hstep
            exact MainStep.startTask draw start hphase hstart
      · cases hstep
  | request =>
      cases hphase : user.phase <;>
        simp only [mainStep, mainRequest, hphase, reduceCtorEq, sendRequest] at hstep
      all_goals
        have hrequesting : user.phase.Requesting := by
          rw [hphase]
          first
            | exact Or.inl ⟨_, rfl⟩
            | exact Or.inr ⟨_, _, rfl⟩
        cases howner : shared.gooseUsers[u]? with
        | none =>
            rw [howner] at hstep
            cases hstep
            exact MainStep.requestPanics hrequesting howner
        | some owner =>
            rw [howner] at hstep
            cases hstep
            exact MainStep.request owner hrequesting howner
  | callDone token =>
      cases hphase : user.phase <;>
        simp only [mainStep, mainCallDone, hphase, reduceCtorEq] at hstep
      cases hstep
      exact MainStep.callDone _ _ token hphase
  | sleep a =>
      cases hphase : user.phase <;>
        simp only [mainStep, mainSleep, hphase, reduceCtorEq] at hstep
      rcases Option.map_eq_some_iff.mp hstep with ⟨⟨canceled, outcome⟩, hsleep, heq⟩
      cases heq
      exact MainStep.sleep _ _ a canceled outcome hphase
        (TaskSleep.step_of_eq_some hsleep)
  | enterOnStop =>
      cases hphase : user.phase <;>
        simp only [mainStep, enterOnStop, hphase, reduceCtorEq] at hstep
      cases hstep
      exact MainStep.enterOnStop hphase
  | stopReadCanceled =>
      cases hphase : user.phase <;>
        simp only [mainStep, stopReadCanceled, hphase, reduceCtorEq] at hstep
      cases hstep
      exact MainStep.stopReadCanceled hphase
  | stopWriteCanceled =>
      cases hphase : user.phase <;>
        simp only [mainStep, stopWriteCanceled, hphase, reduceCtorEq] at hstep
      cases hstep
      exact MainStep.stopWriteCanceled hphase
  | stopPoll =>
      cases hphase : user.phase <;>
        simp only [mainStep, stopPoll, hphase, reduceCtorEq] at hstep
      cases hstep
      exact MainStep.stopPoll hphase

/-!
# The sync task
-/

inductive SyncStep (u : Nat) (shared : Shared Message) (user : ChatUser Message) :
    SyncTaskAction Message -> Shared Message -> ChatUser Message -> Prop
  | startSyncOnce (hphase : user.syncPhase = SyncPhase.loop) :
      SyncStep u shared user SyncTaskAction.startSyncOnce shared
        { user with syncPhase := SyncPhase.syncOnce }
  | request (owner : Nat) (hphase : user.syncPhase = SyncPhase.syncOnce)
      (howner : shared.gooseUsers[u]? = some owner) :
      SyncStep u shared user SyncTaskAction.request
        { shared with requests := shared.requests ++ [(u, owner)] } user
  | requestPanics (hphase : user.syncPhase = SyncPhase.syncOnce)
      (howner : shared.gooseUsers[u]? = none) :
      SyncStep u shared user SyncTaskAction.request shared
        { user with syncPhase := SyncPhase.panicked Panic.gooseUsersIndex }
  | receiveRooms (joinedRooms : List RoomId)
      (hphase : user.syncPhase = SyncPhase.syncOnce) :
      SyncStep u shared user (SyncTaskAction.receiveRooms joinedRooms) shared
        { user with client := user.client.map fun client => { client with joinedRooms } }
  | onRoomMessage (roomId : RoomId) (event : Message) (owner : Nat)
      (clientData : ClientData Message)
      (hphase : user.syncPhase = SyncPhase.syncOnce)
      (howner : shared.gooseUsers[u]? = some owner)
      (hsession : shared.sessions owner = some clientData) :
      SyncStep u shared user (SyncTaskAction.onRoomMessage roomId event)
        { shared with
          sessions := Function.update shared.sessions owner
            (some
              { clientData with
                roomMessages := onRoomMessage clientData.roomMessages roomId event })
          deliveries := shared.deliveries ++ [(u, owner)] }
        user
  | onRoomMessagePanics (roomId : RoomId) (event : Message) (panic : Panic)
      (hphase : user.syncPhase = SyncPhase.syncOnce)
      (hpanic : panic = Panic.gooseUsersIndex -> shared.gooseUsers[u]? = none) :
      SyncStep u shared user (SyncTaskAction.onRoomMessage roomId event) shared
        { user with syncPhase := SyncPhase.panicked panic }
  | syncOnceDone (hphase : user.syncPhase = SyncPhase.syncOnce) :
      SyncStep u shared user SyncTaskAction.syncOnceDone shared
        { user with syncPhase := SyncPhase.readCanceled }
  | readCanceled (hphase : user.syncPhase = SyncPhase.readCanceled) :
      SyncStep u shared user SyncTaskAction.readCanceled shared
        { user with
          syncPhase :=
            if shared.canceled then SyncPhase.finished else SyncPhase.delaySync }
  | delaySync (syncPhase : SyncPhase) (hphase : user.syncPhase = SyncPhase.delaySync)
      (hnext : syncPhase = SyncPhase.sleep (shared.now + second) ∨
        syncPhase = SyncPhase.loop) :
      SyncStep u shared user SyncTaskAction.delaySync shared
        { user with lastSyncTime := some shared.now, syncPhase }
  | slept (wake : Nat) (hphase : user.syncPhase = SyncPhase.sleep wake)
      (hwake : wake <= shared.now) :
      SyncStep u shared user SyncTaskAction.slept shared
        { user with syncPhase := SyncPhase.loop }

theorem syncStep_of_eq_some {u : Nat} {shared shared' : Shared Message}
    {user user' : ChatUser Message} {a : SyncTaskAction Message}
    (hstep : syncStep u shared user a = some (shared', user')) :
    SyncStep u shared user a shared' user' := by
  cases a with
  | startSyncOnce =>
      cases hphase : user.syncPhase <;>
        simp only [syncStep, hphase, reduceCtorEq] at hstep
      cases hstep
      exact SyncStep.startSyncOnce hphase
  | request =>
      cases hphase : user.syncPhase <;>
        simp only [syncStep, hphase, reduceCtorEq, syncRequest, sendRequest] at hstep
      cases howner : shared.gooseUsers[u]? with
      | none =>
          rw [howner] at hstep
          cases hstep
          exact SyncStep.requestPanics hphase howner
      | some owner =>
          rw [howner] at hstep
          cases hstep
          exact SyncStep.request owner hphase howner
  | receiveRooms joinedRooms =>
      cases hphase : user.syncPhase <;>
        simp only [syncStep, hphase, reduceCtorEq] at hstep
      cases hstep
      rw [← hphase]
      exact SyncStep.receiveRooms joinedRooms hphase
  | onRoomMessage roomId event =>
      cases hphase : user.syncPhase <;>
        simp only [syncStep, hphase, reduceCtorEq, deliver] at hstep
      cases howner : shared.gooseUsers[u]? with
      | none =>
          rw [howner, unwrap_none, bind_error] at hstep
          cases hstep
          exact SyncStep.onRoomMessagePanics roomId event _ hphase fun _ => howner
      | some owner =>
          rw [howner, unwrap_some, bind_ok] at hstep
          cases hsession : shared.sessions owner with
          | none =>
              rw [hsession, unwrap_none, bind_error] at hstep
              cases hstep
              exact SyncStep.onRoomMessagePanics roomId event _ hphase nofun
          | some clientData =>
              rw [hsession, unwrap_some, bind_ok] at hstep
              cases hstep
              exact SyncStep.onRoomMessage roomId event owner clientData hphase howner
                hsession
  | syncOnceDone =>
      cases hphase : user.syncPhase <;>
        simp only [syncStep, hphase, reduceCtorEq] at hstep
      cases hstep
      exact SyncStep.syncOnceDone hphase
  | readCanceled =>
      cases hphase : user.syncPhase <;>
        simp only [syncStep, hphase, reduceCtorEq] at hstep
      cases hstep
      exact SyncStep.readCanceled hphase
  | delaySync =>
      cases hphase : user.syncPhase <;>
        simp only [syncStep, hphase, reduceCtorEq, delaySync] at hstep
      cases hstep
      apply SyncStep.delaySync _ hphase
      cases user.lastSyncTime with
      | none => exact Or.inr rfl
      | some t =>
          by_cases hrecent : shared.now - t <= second <;> simp [hrecent]
  | slept =>
      cases hphase : user.syncPhase <;>
        simp only [syncStep, hphase, reduceCtorEq] at hstep
      split at hstep
      · next hwake =>
          cases hstep
          exact SyncStep.slept _ hphase hwake
      · cases hstep

theorem mainStep_of_worldStep {config : Config} {w w' : ChatWorld Message} {u : Nat}
    {a : MainAction}
    (hstep : (chat Message config).worldStep w (ChatEvent.main u a) = some w') :
    MainStep config u w.shared (w.memory u) a w'.shared (w'.memory u) :=
  mainStep_of_eq_some (Components.step_of_worldStep hstep)

theorem syncStep_of_worldStep {config : Config} {w w' : ChatWorld Message} {u : Nat}
    {a : SyncTaskAction Message}
    (hstep : (chat Message config).worldStep w (ChatEvent.sync u a) = some w') :
    SyncStep u w.shared (w.memory u) a w'.shared (w'.memory u) :=
  syncStep_of_eq_some (Components.step_of_worldStep hstep)

/-!
# Every user at once
-/

/-- A property of every user is kept by a step of the system if the acting user
keeps it and what the step does to the shared memory keeps it for the others. -/
theorem everywhere_chatStep {config : Config}
    {P Q : Nat -> Shared Message -> ChatUser Message -> Prop}
    {w w' : ChatWorld Message} {e : ChatEvent Message}
    (hw : Components.Everywhere P w)
    (hstep : (chat Message config).worldStep w e = some w')
    (htime : forall duration u, e = Components.Event.environment duration ->
      P u w.shared (w.memory u) ->
      Q u { w.shared with now := w.shared.now + duration } (w.memory u))
    (hmain : forall u a shared user, e = ChatEvent.main u a ->
      MainStep config u w.shared (w.memory u) a shared user ->
      P u w.shared (w.memory u) -> Q u shared user)
    (hmainOther : forall u a shared user v, e = ChatEvent.main u a ->
      MainStep config u w.shared (w.memory u) a shared user -> v ≠ u ->
      P v w.shared (w.memory v) -> Q v shared (w.memory v))
    (hsync : forall u a shared user, e = ChatEvent.sync u a ->
      SyncStep u w.shared (w.memory u) a shared user ->
      P u w.shared (w.memory u) -> Q u shared user)
    (hsyncOther : forall u a shared user v, e = ChatEvent.sync u a ->
      SyncStep u w.shared (w.memory u) a shared user -> v ≠ u ->
      P v w.shared (w.memory v) -> Q v shared (w.memory v)) :
    Components.Everywhere Q w' := by
  cases e with
  | environment duration =>
      refine Components.everywhere_environment hw hstep ?_
      intro shared u hshared hu
      cases hshared
      exact htime duration u rfl hu
  | component u a =>
      cases a with
      | main a =>
          refine Components.everywhere_component hw hstep ?_ ?_
          · intro shared user hlocal hu
            exact hmain u a shared user rfl (mainStep_of_eq_some hlocal) hu
          · intro shared user v hlocal hv hother
            exact hmainOther u a shared user v rfl (mainStep_of_eq_some hlocal) hv hother
      | sync a =>
          refine Components.everywhere_component hw hstep ?_ ?_
          · intro shared user hlocal hu
            exact hsync u a shared user rfl (syncStep_of_eq_some hlocal) hu
          · intro shared user v hlocal hv hother
            exact hsyncOther u a shared user v rfl (syncStep_of_eq_some hlocal) hv hother

/-!
# Stages of a thread

`on_start` goes through four stages before the transactions run.
-/

inductive Stage
  | notStarted
  | newClient
  | login
  | syncSpawned
  | transactions
  | panicked
  deriving DecidableEq

def Phase.stage : Phase Message -> Stage
  | Phase.notStarted => Stage.notStarted
  | Phase.newClient => Stage.newClient
  | Phase.login _ => Stage.login
  | Phase.syncSpawned => Stage.syncSpawned
  | Phase.panicked _ => Stage.panicked
  | _ => Stage.transactions

theorem proceed_cases (now : Nat) (pending : List (Pending Message)) :
    proceed now pending = Phase.schedulerLoop ∨
      (exists request rest, proceed now pending = Phase.call request rest) ∨
      exists delay rest,
        proceed now pending =
          Phase.sleep (TaskSleep.new now delay true) (Continuation.task rest) := by
  cases pending with
  | nil => exact Or.inl rfl
  | cons first rest =>
      cases first with
      | call request => exact Or.inr (Or.inl ⟨request, rest, rfl⟩)
      | sleep delay => exact Or.inr (Or.inr ⟨delay, rest, rfl⟩)

@[simp] theorem stage_proceed (now : Nat) (pending : List (Pending Message)) :
    (proceed now pending).stage = Stage.transactions := by
  rcases proceed_cases now pending with h | ⟨_, _, h⟩ | ⟨_, _, h⟩ <;> rw [h] <;> rfl

@[simp] theorem stage_resume (now : Nat) (continuation : Continuation Message) :
    (resume now continuation).stage = Stage.transactions := by
  cases continuation with
  | task pending => exact stage_proceed now pending
  | stopLoop => rfl

inductive StageStep : Stage -> MainAction -> Stage -> Prop
  | onStart : StageStep Stage.notStarted MainAction.onStart Stage.newClient
  | newClient (built : Bool) (next : Stage)
      (hnext : next = Stage.login ∨ next = Stage.panicked) :
      StageStep Stage.newClient (MainAction.newClient built) next
  | loggedIn (id : String) :
      StageStep Stage.login (MainAction.loginResponse (some id)) Stage.syncSpawned
  | loginFailed (next : Stage)
      (hnext : next = Stage.login ∨ next = Stage.transactions) :
      StageStep Stage.login (MainAction.loginResponse none) next
  | loginRequest (next : Stage)
      (hnext : next = Stage.login ∨ next = Stage.panicked) :
      StageStep Stage.login MainAction.request next
  | setSessionData :
      StageStep Stage.syncSpawned MainAction.setSessionData Stage.transactions
  | transaction (a : MainAction) (next : Stage) (hstart : a ≠ MainAction.onStart)
      (hlogin : forall userId, a ≠ MainAction.loginResponse userId)
      (hnext : next = Stage.transactions ∨ next = Stage.panicked) :
      StageStep Stage.transactions a next

theorem MainStep.stageStep {config : Config} {u : Nat}
    {shared shared' : Shared Message} {user user' : ChatUser Message} {a : MainAction}
    (hstep : MainStep config u shared user a shared' user') :
    StageStep user.phase.stage a user'.phase.stage := by
  have htransaction : forall phase phase' : Phase Message,
      user.phase = phase -> phase.stage = Stage.transactions ->
      a ≠ MainAction.onStart -> (forall userId, a ≠ MainAction.loginResponse userId) ->
      phase'.stage = Stage.transactions ∨ phase'.stage = Stage.panicked ->
      StageStep user.phase.stage a phase'.stage := by
    intro phase phase' hphase hstage hstart hlogin hnext
    rw [hphase, hstage]
    exact StageStep.transaction a _ hstart hlogin hnext
  cases hstep with
  | onStart hphase =>
      rw [hphase]
      exact StageStep.onStart
  | newClient hphase =>
      rw [hphase]
      apply StageStep.newClient
      simp only
      split
      · exact Or.inl rfl
      · exact Or.inr rfl
  | newClientFailed hphase =>
      rw [hphase]
      exact StageStep.newClient false _ (Or.inr rfl)
  | loggedIn retries id hphase =>
      rw [hphase]
      exact StageStep.loggedIn id
  | loginFailed retries hphase =>
      rw [hphase]
      apply StageStep.loginFailed
      simp only
      split
      · exact Or.inl rfl
      · exact Or.inr rfl
  | setSessionData hphase =>
      rw [hphase]
      exact StageStep.setSessionData
  | enterScheduler phase hphase hnext =>
      apply htransaction _ _ hphase rfl nofun nofun
      rcases hnext with hnext | hnext
      · exact Or.inl (by rw [hnext]; rfl)
      · exact Or.inr (by rw [hnext]; rfl)
  | checkLeaves hphase hleave =>
      rcases hphase with hphase | hphase
      · exact htransaction _ _ hphase rfl nofun nofun (Or.inl rfl)
      · exact htransaction _ _ hphase rfl nofun nofun (Or.inl rfl)
  | checkStays phase hphase hstay =>
      rcases hphase with ⟨hphase, hnext⟩ | ⟨hphase, hnext⟩
      · exact htransaction _ _ hphase rfl nofun nofun (Or.inl (by rw [hnext]; rfl))
      · exact htransaction _ _ hphase rfl nofun nofun (Or.inl (by rw [hnext]; rfl))
  | startTask draw start hphase hstart =>
      exact htransaction _ _ hphase rfl nofun nofun (Or.inl (stage_proceed _ _))
  | taskPanics draw panic hphase hstart =>
      exact htransaction _ _ hphase rfl nofun nofun (Or.inr rfl)
  | request owner hphase howner =>
      rcases hphase with ⟨retries, hphase⟩ | ⟨request, pending, hphase⟩
      · rw [hphase]
        exact StageStep.loginRequest _ (Or.inl rfl)
      · exact htransaction _ _ hphase rfl nofun nofun (Or.inl (by rw [hphase]; rfl))
  | requestPanics hphase howner =>
      rcases hphase with ⟨retries, hphase⟩ | ⟨request, pending, hphase⟩
      · rw [hphase]
        exact StageStep.loginRequest _ (Or.inr rfl)
      · exact htransaction _ _ hphase rfl nofun nofun (Or.inr rfl)
  | callDone request pending token hphase =>
      exact htransaction _ _ hphase rfl nofun nofun (Or.inl (stage_proceed _ _))
  | sleep sleep continuation a canceled outcome hphase hsleep =>
      apply htransaction _ _ hphase rfl nofun nofun
      cases outcome with
      | running sleep => exact Or.inl rfl
      | returned => exact Or.inl (stage_resume _ _)
      | panicked => exact Or.inr rfl
  | enterOnStop hphase =>
      apply htransaction _ _ hphase rfl nofun nofun
      simp only
      split <;> exact Or.inl rfl
  | stopReadCanceled hphase =>
      apply htransaction _ _ hphase rfl nofun nofun
      simp only
      split <;> exact Or.inl rfl
  | stopWriteCanceled hphase =>
      exact htransaction _ _ hphase rfl nofun nofun (Or.inl rfl)
  | stopPoll hphase =>
      apply htransaction _ _ hphase rfl nofun nofun
      simp only
      split <;> exact Or.inl rfl

theorem StageStep.ne_notStarted {stage next : Stage} {a : MainAction}
    (hstep : StageStep stage a next) : next ≠ Stage.notStarted := by
  cases hstep with
  | onStart => nofun
  | newClient built next hnext => rcases hnext with rfl | rfl <;> nofun
  | loggedIn id => nofun
  | loginFailed next hnext => rcases hnext with rfl | rfl <;> nofun
  | loginRequest next hnext => rcases hnext with rfl | rfl <;> nofun
  | setSessionData => nofun
  | transaction a next hstart hlogin hnext => rcases hnext with rfl | rfl <;> nofun

theorem StageStep.eq_notStarted_iff {stage next : Stage} {a : MainAction}
    (hstep : StageStep stage a next) :
    stage = Stage.notStarted <-> a = MainAction.onStart := by
  cases hstep with
  | onStart => exact ⟨fun _ => rfl, fun _ => rfl⟩
  | transaction a next hstart hlogin hnext => exact ⟨nofun, fun h => absurd h hstart⟩
  | _ => exact ⟨nofun, nofun⟩

def Stage.BeforeLogin (stage : Stage) : Prop :=
  stage = Stage.notStarted ∨ stage = Stage.newClient ∨ stage = Stage.login

theorem StageStep.beforeLogin {stage next : Stage} {a : MainAction}
    (hstep : StageStep stage a next) (hnext : next.BeforeLogin) :
    stage.BeforeLogin ∧ forall id, a ≠ MainAction.loginResponse (some id) := by
  cases hstep with
  | onStart => exact ⟨Or.inl rfl, nofun⟩
  | newClient built => exact ⟨Or.inr (Or.inl rfl), nofun⟩
  | loginFailed => exact ⟨Or.inr (Or.inr rfl), nofun⟩
  | loginRequest => exact ⟨Or.inr (Or.inr rfl), nofun⟩
  | loggedIn id => simp [Stage.BeforeLogin] at hnext
  | setSessionData => simp [Stage.BeforeLogin] at hnext
  | transaction a next hstart hlogin htransactions =>
      rcases htransactions with rfl | rfl <;> simp [Stage.BeforeLogin] at hnext

theorem MainStep.syncPhase_eq_or {config : Config} {u : Nat}
    {shared shared' : Shared Message} {user user' : ChatUser Message} {a : MainAction}
    (hstep : MainStep config u shared user a shared' user') :
    user'.syncPhase = user.syncPhase ∨
      (user.phase.stage = Stage.login ∧ user'.syncPhase = SyncPhase.loop) := by
  cases hstep with
  | loggedIn retries id hphase => exact Or.inr ⟨by rw [hphase]; rfl, rfl⟩
  | _ => exact Or.inl rfl

theorem MainStep.syncPhase_eq {config : Config} {u : Nat}
    {shared shared' : Shared Message} {user user' : ChatUser Message} {a : MainAction}
    (hstep : MainStep config u shared user a shared' user')
    (hlogin : forall id, a ≠ MainAction.loginResponse (some id)) :
    user'.syncPhase = user.syncPhase := by
  cases hstep with
  | loggedIn retries id hphase => exact absurd rfl (hlogin id)
  | _ => rfl

/-!
# The flag and the session data
-/

/-- The flag is set by `on_stop` and by a sleep that a Ctrl-C interrupted. -/
theorem MainStep.canceled_cases {config : Config} {u : Nat}
    {shared shared' : Shared Message} {user user' : ChatUser Message} {a : MainAction}
    (hstep : MainStep config u shared user a shared' user') :
    (a ≠ MainAction.stopWriteCanceled ∧ shared'.canceled = shared.canceled) ∨
      (a = MainAction.stopWriteCanceled ∧ user.phase = Phase.stopWrite ∧
        shared'.canceled = true) ∨
      (exists sleep continuation, user.phase = Phase.sleep sleep continuation ∧
        sleep.pc = SleepPc.interrupted ∧ shared'.canceled = true) := by
  cases hstep with
  | stopWriteCanceled hphase => exact Or.inr (Or.inl ⟨rfl, hphase, rfl⟩)
  | sleep sleep continuation a canceled outcome hphase hsleep =>
      rcases hsleep.canceled_eq with hsame | ⟨hpc, htrue⟩
      · exact Or.inl ⟨nofun, hsame⟩
      · exact Or.inr (Or.inr ⟨sleep, continuation, hphase, hpc, htrue⟩)
  | checkLeaves hphase hleave =>
      left
      rw [afterCheck_eq]
      exact ⟨nofun, rfl⟩
  | checkStays phase hphase hstay =>
      left
      rw [afterCheck_eq]
      exact ⟨nofun, rfl⟩
  | _ => exact Or.inl ⟨nofun, rfl⟩

theorem apply_update_sessions {Value : Type} (f : Option (ClientData Message) -> Value)
    {sessions : Nat -> Option (ClientData Message)} {u : Nat}
    {session : Option (ClientData Message)} (hsession : f session = f (sessions u))
    (v : Nat) : f (Function.update sessions u session v) = f (sessions v) := by
  by_cases hv : v = u
  · subst hv
    rw [Function.update_self, hsession]
  · rw [Function.update_of_ne hv]

theorem isSome_callDone (session : Option (ClientData Message))
    (request : Request Message) (token : Option String) :
    (callDone session request token).isSome = session.isSome := by
  unfold callDone
  split
  · rw [Option.isSome_map]
  · rfl

inductive SessionStep (config : Config) (u : Nat) (shared : Shared Message)
    (user : ChatUser Message) :
    MainAction -> (Nat -> Option (ClientData Message)) -> Prop
  | unchanged (a : MainAction) : SessionStep config u shared user a shared.sessions
  | install (hphase : user.phase = Phase.syncSpawned) :
      SessionStep config u shared user MainAction.setSessionData
        (Function.update shared.sessions u (some ClientData.new))
  | startTask (draw : Draw) (start : TaskStart Message)
      (hstart : runTask (viewOf config u shared user) draw = .ok start) :
      SessionStep config u shared user (MainAction.startTask draw)
        (Function.update shared.sessions u start.session)
  | callDone (request : Request Message) (token : Option String) :
      SessionStep config u shared user (MainAction.callDone token)
        (Function.update shared.sessions u (callDone (shared.sessions u) request token))

theorem MainStep.sessionStep {config : Config} {u : Nat}
    {shared shared' : Shared Message} {user user' : ChatUser Message} {a : MainAction}
    (hstep : MainStep config u shared user a shared' user') :
    SessionStep config u shared user a shared'.sessions := by
  cases hstep with
  | setSessionData hphase => exact SessionStep.install hphase
  | startTask draw start hphase hstart => exact SessionStep.startTask draw start hstart
  | callDone request pending token hphase => exact SessionStep.callDone request token
  | checkLeaves hphase hleave =>
      rw [afterCheck_eq]
      exact SessionStep.unchanged _
  | checkStays phase hphase hstay =>
      rw [afterCheck_eq]
      exact SessionStep.unchanged _
  | _ => exact SessionStep.unchanged _

theorem MainStep.isSome_sessions {config : Config} {u : Nat}
    {shared shared' : Shared Message} {user user' : ChatUser Message} {a : MainAction}
    (hstep : MainStep config u shared user a shared' user') (v : Nat) :
    (shared'.sessions v).isSome = (shared.sessions v).isSome ∨
      (user.phase.stage = Stage.syncSpawned ∧ v = u ∧
        (shared'.sessions v).isSome = true) := by
  have hsessions := hstep.sessionStep
  generalize shared'.sessions = sessions at hsessions ⊢
  cases hsessions with
  | unchanged => exact Or.inl rfl
  | install hphase =>
      by_cases hv : v = u
      · subst hv
        refine Or.inr ⟨by rw [hphase]; rfl, rfl, ?_⟩
        rw [Function.update_self]
        rfl
      · left
        rw [Function.update_of_ne hv]
  | startTask draw start hstart =>
      left
      have hkeeps := keepsSession_runTask (viewOf config u shared user) draw
      rw [hstart] at hkeeps
      exact apply_update_sessions Option.isSome hkeeps v
  | callDone request token =>
      exact Or.inl (apply_update_sessions Option.isSome (isSome_callDone _ request token) v)

theorem SyncStep.phase_eq {u : Nat} {shared shared' : Shared Message}
    {user user' : ChatUser Message} {a : SyncTaskAction Message}
    (hstep : SyncStep u shared user a shared' user') : user'.phase = user.phase := by
  cases hstep <;> rfl

theorem SyncStep.ne_notSpawned {u : Nat} {shared shared' : Shared Message}
    {user user' : ChatUser Message} {a : SyncTaskAction Message}
    (hstep : SyncStep u shared user a shared' user') :
    user.syncPhase ≠ SyncPhase.notSpawned := by
  intro hspawned
  cases hstep <;> simp_all

theorem SyncStep.canceled_eq {u : Nat} {shared shared' : Shared Message}
    {user user' : ChatUser Message} {a : SyncTaskAction Message}
    (hstep : SyncStep u shared user a shared' user') :
    shared'.canceled = shared.canceled := by
  cases hstep <;> rfl

theorem SyncStep.isSome_sessions {u : Nat} {shared shared' : Shared Message}
    {user user' : ChatUser Message} {a : SyncTaskAction Message}
    (hstep : SyncStep u shared user a shared' user') (v : Nat) :
    (shared'.sessions v).isSome = (shared.sessions v).isSome := by
  cases hstep with
  | onRoomMessage roomId event owner clientData hphase howner hsession =>
      exact apply_update_sessions Option.isSome (by rw [hsession]; rfl) v
  | _ => rfl

/-!
# Panics of a thread
-/

inductive PanicCause (config : Config) (u : Nat) (shared : Shared Message)
    (user : ChatUser Message) : MainAction -> Panic -> Prop
  | task (draw : Draw) (panic : Panic) (hphase : user.phase = Phase.draw)
      (hstart : runTask (viewOf config u shared user) draw = .error panic) :
      PanicCause config u shared user (MainAction.startTask draw) panic
  | table (howner : shared.gooseUsers[u]? = none) :
      PanicCause config u shared user MainAction.request Panic.gooseUsersIndex
  | other (a : MainAction) (panic : Panic)
      (hpanic : panic = Panic.usersIndex ∨ panic = Panic.clientBuild ∨
        panic = Panic.runTimeParse ∨ panic = Panic.durationSubtraction) :
      PanicCause config u shared user a panic

theorem proceed_ne_panicked (now : Nat) (pending : List (Pending Message))
    (panic : Panic) : proceed now pending ≠ Phase.panicked panic := by
  intro hpanic
  have hstage := stage_proceed now pending
  rw [hpanic] at hstage
  cases hstage

theorem MainStep.panicCause {config : Config} {u : Nat}
    {shared shared' : Shared Message} {user user' : ChatUser Message} {a : MainAction}
    {panic : Panic} (hstep : MainStep config u shared user a shared' user')
    (hpanic : user'.phase = Phase.panicked panic) :
    PanicCause config u shared user a panic := by
  cases hstep with
  | newClient hphase =>
      simp only at hpanic
      split at hpanic
      · cases hpanic
      · cases hpanic
        exact PanicCause.other _ _ (by simp)
  | newClientFailed hphase =>
      cases hpanic
      exact PanicCause.other _ _ (by simp)
  | loginFailed retries hphase =>
      simp only at hpanic
      split at hpanic <;> cases hpanic
  | enterScheduler phase hphase hnext =>
      rcases hnext with rfl | rfl
      · cases hpanic
      · cases hpanic
        exact PanicCause.other _ _ (by simp)
  | checkStays phase hphase hstay =>
      rcases hphase with ⟨_, rfl⟩ | ⟨_, rfl⟩ <;> cases hpanic
  | startTask draw start hphase hstart => exact absurd hpanic (proceed_ne_panicked _ _ _)
  | taskPanics draw panic hphase hstart =>
      cases hpanic
      exact PanicCause.task draw _ hphase hstart
  | request owner hphase howner =>
      rcases hphase with ⟨_, hphase⟩ | ⟨_, _, hphase⟩ <;> rw [hphase] at hpanic <;>
        cases hpanic
  | requestPanics hphase howner =>
      cases hpanic
      exact PanicCause.table howner
  | callDone request pending token hphase =>
      exact absurd hpanic (proceed_ne_panicked _ _ _)
  | sleep sleep continuation a canceled outcome hphase hsleep =>
      cases outcome with
      | running sleep => cases hpanic
      | panicked =>
          cases hpanic
          exact PanicCause.other _ _ (by simp)
      | returned =>
          cases continuation with
          | stopLoop => cases hpanic
          | task pending => exact absurd hpanic (proceed_ne_panicked _ _ _)
  | enterOnStop hphase =>
      simp only at hpanic
      split at hpanic <;> cases hpanic
  | stopReadCanceled hphase =>
      simp only at hpanic
      split at hpanic <;> cases hpanic
  | stopPoll hphase =>
      simp only at hpanic
      split at hpanic <;> cases hpanic
  | _ => cases hpanic

end Chat
end MatrixGoose
