import MatrixGoose.Foundation.Components
import MatrixGoose.Lib.TaskSleep
import MatrixGoose.Bin.Chat.Tasks

/-!
# Chat users

The users of the chat load test over what they share: the cancellation flag, the
start of the attack, the table `GOOSE_USERS`, and the session data, which a sync
task reaches through that table.  A step takes the thread of a user, or its sync
task, from one await point to the next.
-/

namespace MatrixGoose

open Foundation

namespace Chat

open EventHandler
open Lib

structure Config where
  /-- `user.config.run_time`, in seconds. -/
  runTime : String
  /-- The number of users read from `users.csv`. -/
  csvUsers : Nat

/-- `str::parse::<u64>`. -/
def parseU64 (text : String) : Option Nat :=
  let digits :=
    match text.toList with
    | '+' :: rest => rest
    | chars => chars
  if digits ≠ [] ∧ digits.all Char.isDigit then
    let value := digits.foldl (fun value c => 10 * value + (c.toNat - '0'.toNat)) 0
    if value < UInt64.size then some value else none
  else none

/-!
# State
-/

/-- What a `task_sleep` returns to: the rest of a task, or the loop of `on_stop`. -/
inductive Continuation (Message : Type)
  | task (pending : List (Pending Message))
  | stopLoop

inductive Phase (Message : Type)
  | notStarted
  | newClient
  | login (retries : Nat)
  | syncSpawned
  | betweenTransactions
  | schedulerEntry
  | schedulerLoop
  | draw
  | call (request : Request Message) (pending : List (Pending Message))
  | sleep (sleep : TaskSleep) (continuation : Continuation Message)
  | stopRead
  | stopWrite
  | stopLoop
  | stopped
  | panicked (panic : Panic)

inductive SyncPhase
  | notSpawned
  | loop
  | syncOnce
  | readCanceled
  | delaySync
  | sleep (wake : Nat)
  | finished
  | panicked (panic : Panic)
  deriving DecidableEq

structure ChatUser (Message : Type) where
  phase : Phase Message
  client : Option Client
  syncPhase : SyncPhase
  lastSyncTime : Option Nat

structure Shared (Message : Type) where
  now : Nat
  canceled : Bool
  attackStart : Option Nat
  /-- `GOOSE_USERS`, a pointer being the index of the user it points to. -/
  gooseUsers : List Nat
  sessions : Nat -> Option (ClientData Message)
  /-- HTTP requests, as a client and the user they were performed on. -/
  requests : List (Nat × Nat)
  /-- Calls of `on_room_message`, as a client and the user whose data they got. -/
  deliveries : List (Nat × Nat)

inductive MainAction
  | onStart
  | newClient (built : Bool)
  | loginResponse (userId : Option String)
  | setSessionData
  | enterScheduler
  /-- `between` is the time from the access to `ATTACK_START` to the reading of the
  clock in `elapsed`. -/
  | checkCanceled (between : Nat)
  | startTask (draw : Draw)
  | request
  | callDone (token : Option String)
  | sleep (a : SleepAction)
  | enterOnStop
  | stopReadCanceled
  | stopWriteCanceled
  | stopPoll

inductive SyncTaskAction (Message : Type)
  | startSyncOnce
  | request
  | receiveRooms (joinedRooms : List RoomId)
  | onRoomMessage (roomId : RoomId) (event : Message)
  | syncOnceDone
  | readCanceled
  | delaySync
  | slept

inductive UserAction (Message : Type)
  | main (a : MainAction)
  | sync (a : SyncTaskAction Message)

section Steps

variable {Message : Type}

/-!
# Steps of the thread
-/

def goto (shared : Shared Message) (user : ChatUser Message)
    (phase : Phase Message) : Option (Shared Message × ChatUser Message) :=
  some (shared, { user with phase })

/-- What follows the first part of a task, or a call or sleep in it.  Each round
of the scheduler loop ends in a sleep of 0.1 s. -/
def proceed (now : Nat) : List (Pending Message) -> Phase Message
  | [] => Phase.schedulerLoop
  | Pending.call request :: rest => Phase.call request rest
  | Pending.sleep delay :: rest =>
      Phase.sleep (TaskSleep.new now delay true) (Continuation.task rest)

def roundEnd : Pending Message :=
  Pending.sleep (second / 10)

def resume (now : Nat) : Continuation Message -> Phase Message
  | Continuation.task pending => proceed now pending
  | Continuation.stopLoop => Phase.stopLoop

/-- `GOOSE_USERS.push(user)`, before the first await of `on_start`. -/
def onStart (u : Nat) (shared : Shared Message) (user : ChatUser Message) :
    Option (Shared Message × ChatUser Message) :=
  match user.phase with
  | Phase.notStarted =>
      some ({ shared with gooseUsers := shared.gooseUsers ++ [u] },
        { user with phase := Phase.newClient })
  | _ => none

/-- `CLIENTS.insert`, and then the credentials of the user. -/
def newClient (config : Config) (u : Nat) (shared : Shared Message)
    (user : ChatUser Message) (built : Bool) :
    Option (Shared Message × ChatUser Message) :=
  match user.phase with
  | Phase.newClient =>
      if built then
        some (shared,
          { user with
            client := some { userId := none, joinedRooms := [] }
            phase :=
              if u < config.csvUsers then Phase.login 3
              else Phase.panicked Panic.usersIndex })
      else goto shared user (Phase.panicked Panic.clientBuild)
  | _ => none

/-- A successful login spawns the sync task, a failed one is tried again while
there are retries. -/
def loginResponse (shared : Shared Message) (user : ChatUser Message)
    (userId : Option String) : Option (Shared Message × ChatUser Message) :=
  match user.phase with
  | Phase.login retries =>
      match userId with
      | some id =>
          some (shared,
            { user with
              client := user.client.map fun client => { client with userId := some id }
              syncPhase := SyncPhase.loop
              phase := Phase.syncSpawned })
      | none =>
          goto shared user
            (if retries - 1 > 0 then Phase.login (retries - 1)
            else Phase.betweenTransactions)
  | _ => none

def setSessionData (u : Nat) (shared : Shared Message) (user : ChatUser Message) :
    Option (Shared Message × ChatUser Message) :=
  match user.phase with
  | Phase.syncSpawned =>
      some ({ shared with
          sessions := Function.update shared.sessions u (some ClientData.new) },
        { user with phase := Phase.betweenTransactions })
  | _ => none

def enterScheduler (config : Config) (shared : Shared Message)
    (user : ChatUser Message) : Option (Shared Message × ChatUser Message) :=
  match user.phase with
  | Phase.betweenTransactions =>
      match parseU64 config.runTime with
      | some _ => goto shared user Phase.schedulerEntry
      | none => goto shared user (Phase.panicked Panic.runTimeParse)
  | _ => none

def Config.runtime (config : Config) : Nat :=
  (parseU64 config.runTime).getD 0 * second

/-- `ATTACK_START.elapsed()`.  The first access reads the clock for the start, and
`elapsed` reads it again. -/
def attackElapsed (shared : Shared Message) (between : Nat) : Nat :=
  shared.now + between - shared.attackStart.getD shared.now

def runTimeElapsed (config : Config) (shared : Shared Message) (between : Nat) : Bool :=
  decide (attackElapsed shared between > config.runtime)

/-- The shared memory after `*CANCELED.read().await || ATTACK_START.elapsed() >
runtime`. -/
def afterCheck (shared : Shared Message) (between : Nat) : Shared Message :=
  if shared.canceled then shared
  else
    { shared with
      now := shared.now + between
      attackStart := some (shared.attackStart.getD shared.now) }

theorem afterCheck_eq (shared : Shared Message) (between : Nat) :
    afterCheck shared between =
      { shared with
        now := (afterCheck shared between).now
        attackStart := (afterCheck shared between).attackStart } := by
  unfold afterCheck
  split <;> rfl

def checkCanceled (config : Config) (shared : Shared Message)
    (user : ChatUser Message) (between : Nat) :
    Option (Shared Message × ChatUser Message) :=
  let leave := shared.canceled || runTimeElapsed config shared between
  match user.phase with
  | Phase.schedulerEntry =>
      goto (afterCheck shared between) user
        (if leave then Phase.betweenTransactions else Phase.schedulerLoop)
  | Phase.schedulerLoop =>
      goto (afterCheck shared between) user
        (if leave then Phase.betweenTransactions else Phase.draw)
  | _ => none

def startTask (config : Config) (u : Nat) (shared : Shared Message)
    (user : ChatUser Message) (draw : Draw) :
    Option (Shared Message × ChatUser Message) :=
  match user.phase with
  | Phase.draw =>
      if 0 < indexWeights.getD draw.index 0 then
        let view : View Message :=
          { usersIndex := u, csvUsers := config.csvUsers
            client := user.client, session := shared.sessions u }
        match runTask view draw with
        | .error panic => goto shared user (Phase.panicked panic)
        | .ok start =>
            goto { shared with
                sessions := Function.update shared.sessions u start.session }
              user (proceed shared.now (start.pending ++ [roundEnd]))
      else none
  | _ => none

/-- `HttpSend::send_request` of client `u`: the user is looked up in
`GOOSE_USERS`. -/
def sendRequest (u : Nat) (shared : Shared Message) :
    Except Panic (Shared Message) :=
  match shared.gooseUsers[u]? with
  | some user => .ok { shared with requests := shared.requests ++ [(u, user)] }
  | none => .error Panic.gooseUsersIndex

def mainRequest (u : Nat) (shared : Shared Message) (user : ChatUser Message) :
    Option (Shared Message × ChatUser Message) :=
  match user.phase with
  | Phase.login _ | Phase.call _ _ =>
      match sendRequest u shared with
      | .ok shared => some (shared, user)
      | .error panic => goto shared user (Phase.panicked panic)
  | _ => none

def mainCallDone (u : Nat) (shared : Shared Message) (user : ChatUser Message)
    (token : Option String) : Option (Shared Message × ChatUser Message) :=
  match user.phase with
  | Phase.call request pending =>
      let session := callDone (shared.sessions u) request token
      goto { shared with sessions := Function.update shared.sessions u session }
        user (proceed shared.now pending)
  | _ => none

def mainSleep (shared : Shared Message) (user : ChatUser Message) (a : SleepAction) :
    Option (Shared Message × ChatUser Message) :=
  match user.phase with
  | Phase.sleep sleep continuation =>
      (sleep.step shared.now shared.canceled a).map fun (canceled, outcome) =>
        ({ shared with canceled },
          { user with
            phase :=
              match outcome with
              | SleepOutcome.running sleep => Phase.sleep sleep continuation
              | SleepOutcome.returned => resume shared.now continuation
              | SleepOutcome.panicked => Phase.panicked Panic.durationSubtraction })
  | _ => none

/-- `on_stop` does nothing for a user without session data. -/
def enterOnStop (u : Nat) (shared : Shared Message) (user : ChatUser Message) :
    Option (Shared Message × ChatUser Message) :=
  match user.phase with
  | Phase.betweenTransactions =>
      goto shared user
        (if (shared.sessions u).isSome then Phase.stopRead else Phase.stopped)
  | _ => none

def stopReadCanceled (shared : Shared Message) (user : ChatUser Message) :
    Option (Shared Message × ChatUser Message) :=
  match user.phase with
  | Phase.stopRead =>
      goto shared user (if shared.canceled then Phase.stopLoop else Phase.stopWrite)
  | _ => none

def stopWriteCanceled (shared : Shared Message) (user : ChatUser Message) :
    Option (Shared Message × ChatUser Message) :=
  match user.phase with
  | Phase.stopWrite =>
      goto { shared with canceled := true } user Phase.stopLoop
  | _ => none

/-- `sync_forever_handle.is_finished()`. -/
def SyncPhase.isFinished : SyncPhase -> Bool
  | SyncPhase.finished => true
  | SyncPhase.panicked _ => true
  | _ => false

def stopPoll (shared : Shared Message) (user : ChatUser Message) :
    Option (Shared Message × ChatUser Message) :=
  match user.phase with
  | Phase.stopLoop =>
      goto shared user
        (if user.syncPhase.isFinished then Phase.stopped
        else Phase.sleep (TaskSleep.new shared.now second false) Continuation.stopLoop)
  | _ => none

def mainStep (config : Config) (u : Nat) (shared : Shared Message)
    (user : ChatUser Message) :
    MainAction -> Option (Shared Message × ChatUser Message)
  | MainAction.onStart => onStart u shared user
  | MainAction.newClient built => newClient config u shared user built
  | MainAction.loginResponse userId => loginResponse shared user userId
  | MainAction.setSessionData => setSessionData u shared user
  | MainAction.enterScheduler => enterScheduler config shared user
  | MainAction.checkCanceled between => checkCanceled config shared user between
  | MainAction.startTask draw => startTask config u shared user draw
  | MainAction.request => mainRequest u shared user
  | MainAction.callDone token => mainCallDone u shared user token
  | MainAction.sleep a => mainSleep shared user a
  | MainAction.enterOnStop => enterOnStop u shared user
  | MainAction.stopReadCanceled => stopReadCanceled shared user
  | MainAction.stopWriteCanceled => stopWriteCanceled shared user
  | MainAction.stopPoll => stopPoll shared user

/-!
# Steps of the sync task
-/

def gotoSync (shared : Shared Message) (user : ChatUser Message)
    (syncPhase : SyncPhase) : Option (Shared Message × ChatUser Message) :=
  some (shared, { user with syncPhase })

def syncRequest (u : Nat) (shared : Shared Message) (user : ChatUser Message) :
    Option (Shared Message × ChatUser Message) :=
  match sendRequest u shared with
  | .ok shared => some (shared, user)
  | .error panic => gotoSync shared user (SyncPhase.panicked panic)

/-- `on_room_message` of client `u`: the session data is that of the user found
in `GOOSE_USERS`. -/
def deliver (u : Nat) (shared : Shared Message) (roomId : RoomId) (event : Message) :
    Except Panic (Shared Message) := do
  let user ← unwrap shared.gooseUsers[u]? Panic.gooseUsersIndex
  let clientData ← unwrap (shared.sessions user) Panic.sessionDataMissing
  let clientData :=
    { clientData with
      roomMessages := onRoomMessage clientData.roomMessages roomId event }
  .ok
    { shared with
      sessions := Function.update shared.sessions user (some clientData)
      deliveries := shared.deliveries ++ [(u, user)] }

def delaySync (shared : Shared Message) (user : ChatUser Message) :
    Option (Shared Message × ChatUser Message) :=
  let recent :=
    match user.lastSyncTime with
    | some t => decide (shared.now - t <= second)
    | none => false
  some (shared,
    { user with
      lastSyncTime := some shared.now
      syncPhase :=
        if recent then SyncPhase.sleep (shared.now + second) else SyncPhase.loop })

def syncStep (u : Nat) (shared : Shared Message) (user : ChatUser Message)
    (a : SyncTaskAction Message) : Option (Shared Message × ChatUser Message) :=
  match a, user.syncPhase with
  | SyncTaskAction.startSyncOnce, SyncPhase.loop =>
      gotoSync shared user SyncPhase.syncOnce
  | SyncTaskAction.request, SyncPhase.syncOnce => syncRequest u shared user
  | SyncTaskAction.receiveRooms joinedRooms, SyncPhase.syncOnce =>
      some (shared,
        { user with client := user.client.map fun client => { client with joinedRooms } })
  | SyncTaskAction.onRoomMessage roomId event, SyncPhase.syncOnce =>
      match deliver u shared roomId event with
      | .ok shared => some (shared, user)
      | .error panic => gotoSync shared user (SyncPhase.panicked panic)
  | SyncTaskAction.syncOnceDone, SyncPhase.syncOnce =>
      gotoSync shared user SyncPhase.readCanceled
  | SyncTaskAction.readCanceled, SyncPhase.readCanceled =>
      gotoSync shared user
        (if shared.canceled then SyncPhase.finished else SyncPhase.delaySync)
  | SyncTaskAction.delaySync, SyncPhase.delaySync => delaySync shared user
  | SyncTaskAction.slept, SyncPhase.sleep wake =>
      if wake <= shared.now then gotoSync shared user SyncPhase.loop else none
  | _, _ => none

/-!
# The system
-/

def userStep (config : Config) (u : Nat) (shared : Shared Message)
    (user : ChatUser Message) :
    UserAction Message -> Option (Shared Message × ChatUser Message)
  | UserAction.main a => mainStep config u shared user a
  | UserAction.sync a => syncStep u shared user a

/-- Users are numbered by their `weighted_users_index`; the environment lets time
pass. -/
def chat (Message : Type) (config : Config) :
    Components Nat (Shared Message) (ChatUser Message) Nat (UserAction Message) where
  initShared :=
    { now := 0
      canceled := false
      attackStart := none
      gooseUsers := []
      sessions := fun _ => none
      requests := []
      deliveries := [] }
  initMemory := fun _ =>
    { phase := Phase.notStarted
      client := none
      syncPhase := SyncPhase.notSpawned
      lastSyncTime := none }
  environment := fun shared duration => some { shared with now := shared.now + duration }
  step := userStep config

abbrev ChatWorld (Message : Type) :=
  Components.World Nat (Shared Message) (ChatUser Message)

abbrev ChatEvent (Message : Type) :=
  Components.Event Nat Nat (UserAction Message)

def ChatEvent.main (u : Nat) (a : MainAction) : ChatEvent Message :=
  Components.Event.component u (UserAction.main a)

def ChatEvent.sync (u : Nat) (a : SyncTaskAction Message) : ChatEvent Message :=
  Components.Event.component u (UserAction.sync a)

end Steps

/-!
# A sample user
-/

def sampleConfig : Config where
  runTime := "60"
  csvUsers := 2

def sampleLogin (u : Nat) : List (ChatEvent String) :=
  [ChatEvent.main u (MainAction.newClient true),
    ChatEvent.main u MainAction.request,
    ChatEvent.main u (MainAction.loginResponse (some "@a:x")),
    ChatEvent.main u MainAction.setSessionData]

def sampleStart (u : Nat) : List (ChatEvent String) :=
  ChatEvent.main u MainAction.onStart :: sampleLogin u

def sampleStop (u : Nat) : List (ChatEvent String) :=
  [ChatEvent.main u MainAction.enterOnStop,
    ChatEvent.main u MainAction.stopReadCanceled,
    ChatEvent.main u MainAction.stopWriteCanceled]

end Chat
end MatrixGoose
