import MatrixGoose.Foundation.Interaction
import MatrixGoose.Lib.TaskSleep

/-!
# Syncing forever

The sync loop of the client, and the loop that the chat load test spawns in its place.
Both ask for a sync, look whether to stop, and wait if the last sync was less than a
second ago.
-/

namespace MatrixGoose

open Foundation

namespace Sync

open Lib

inductive PresenceState
  | online
  | offline
  | unavailable
  deriving DecidableEq

structure SyncSettings (Filter : Type) where
  filter : Option Filter
  /-- How long the server may wait before it answers. -/
  timeout : Option Nat
  token : Option String
  fullState : Bool
  setPresence : PresenceState

def defaultSyncTimeout : Nat := 30 * second

variable {Filter : Type}

def SyncSettings.new : SyncSettings Filter where
  filter := none
  timeout := some defaultSyncTimeout
  token := none
  fullState := false
  setPresence := PresenceState.online

def SyncSettings.withToken (settings : SyncSettings Filter) (token : String) :
    SyncSettings Filter :=
  { settings with token := some token }

structure SyncRequest (Filter : Type) where
  filter : Option Filter
  since : Option String
  fullState : Bool
  setPresence : PresenceState
  timeout : Option Nat

structure SyncResponse (Body : Type) where
  nextBatch : String
  body : Body

inductive LoopCtrl
  | continue
  | break
  deriving DecidableEq

/-!
# Operations
-/

inductive SyncOp (Filter : Type)
  /-- Send a sync request, with a timeout beyond that of the client, and process its
  response. -/
  | send (request : SyncRequest Filter) (extraTimeout : Nat)
  | now
  | sleep (duration : Nat)
  | readCanceled

def SyncReply (Body Error : Type) : SyncOp Filter -> Type
  | SyncOp.send _ _ => Except Error (SyncResponse Body)
  | SyncOp.now => Nat
  | SyncOp.sleep _ => Unit
  | SyncOp.readCanceled => Bool

section Loops

variable {Body Error Value : Type}

abbrev SyncProgram (Filter Body Error : Type) :=
  Program (SyncOp Filter) (SyncReply Body Error)

def syncOnce (settings : SyncSettings Filter) :
    SyncProgram Filter Body Error (Except Error (SyncResponse Body)) :=
  let request : SyncRequest Filter :=
    { filter := settings.filter
      since := settings.token
      fullState := settings.fullState
      setPresence := settings.setPresence
      timeout := settings.timeout }
  Program.call (SyncOp.send request (settings.timeout.getD 0))

def delaySync (lastSyncTime : Option Nat) :
    SyncProgram Filter Body Error (Option Nat) := do
  let now : Nat ← Program.call SyncOp.now
  match lastSyncTime with
  | some t =>
      if now - t <= second then
        let _ : Unit ← Program.call (SyncOp.sleep second)
        pure (some now)
      else pure (some now)
  | none => pure (some now)

/-- What both loops keep from round to round. -/
structure LoopState (Filter : Type) where
  syncSettings : SyncSettings Filter
  lastSyncTime : Option Nat

/-!
# The loop of the client
-/

/-- The result of the sync, with the settings for the next one. -/
def syncLoopHelper (settings : SyncSettings Filter) :
    SyncProgram Filter Body Error
      (Except Error (SyncResponse Body) × SyncSettings Filter) := do
  let response ← syncOnce settings
  match response with
  | .ok r => pure (.ok r, { settings with token := some r.nextBatch })
  | .error e => pure (.error e, settings)

def syncRound
    (callback : Except Error (SyncResponse Body) ->
      SyncProgram Filter Body Error (Except Error LoopCtrl))
    (s : LoopState Filter) :
    SyncProgram Filter Body Error (Program.Round (LoopState Filter) (Except Error Unit)) := do
  let (result, syncSettings) ← syncLoopHelper s.syncSettings
  let ctrl ← callback result
  match ctrl with
  | .error e => pure (Program.Round.leave (.error e))
  | .ok LoopCtrl.break => pure (Program.Round.leave (.ok ()))
  | .ok LoopCtrl.continue => do
      let lastSyncTime ← delaySync s.lastSyncTime
      pure (Program.Round.again { syncSettings, lastSyncTime })

/-- `sync_with_result_callback` of a client that has stored this sync token. -/
def syncWithResultCallback (syncToken : Option String) (settings : SyncSettings Filter)
    (callback : Except Error (SyncResponse Body) ->
      SyncProgram Filter Body Error (Except Error LoopCtrl)) (rounds : Nat) :
    SyncProgram Filter Body Error (Except Error Unit) :=
  let syncSettings :=
    if settings.token.isNone then { settings with token := syncToken } else settings
  Program.loop (syncRound callback) rounds { syncSettings, lastSyncTime := none }

/-!
# The loop of the chat load test
-/

/-- A round of the task that `on_start` spawns. -/
def chatSyncRound (s : LoopState Filter) :
    SyncProgram Filter Body Error (Program.Round (LoopState Filter) Unit) := do
  let result : Except Error (SyncResponse Body) ← syncOnce s.syncSettings
  let syncSettings :=
    match result with
    | .ok response => s.syncSettings.withToken response.nextBatch
    | .error _ => s.syncSettings
  let canceled : Bool ← Program.call SyncOp.readCanceled
  if canceled then pure (Program.Round.leave ())
  else do
    let lastSyncTime ← delaySync s.lastSyncTime
    pure (Program.Round.again { syncSettings, lastSyncTime })

def chatSyncForever (rounds : Nat) : SyncProgram Filter Body Error Unit :=
  Program.loop chatSyncRound rounds
    { syncSettings := SyncSettings.new, lastSyncTime := none }

/-- The callback that leaves the loop once the flag `CANCELED` is set. -/
def stopIfCanceled (_ : Except Error (SyncResponse Body)) :
    SyncProgram Filter Body Error (Except Error LoopCtrl) := do
  let canceled : Bool ← Program.call SyncOp.readCanceled
  pure (.ok (if canceled then LoopCtrl.break else LoopCtrl.continue))

/-!
# The two loops agree
-/

theorem syncRound_stopIfCanceled (s : LoopState Filter) :
    (syncRound stopIfCanceled s : SyncProgram Filter Body Error _) =
      (chatSyncRound s).map (Program.Round.mapLeave Except.ok) := by
  show Program.perform _ _ = Program.perform _ _
  congr 1
  funext result
  cases result with
  | ok response =>
      show Program.perform _ _ = Program.perform _ _
      congr 1
      funext canceled
      cases canceled with
      | true => rfl
      | false => exact Program.bind_again_eq_map Except.ok (delaySync s.lastSyncTime) _
  | error e =>
      show Program.perform _ _ = Program.perform _ _
      congr 1
      funext canceled
      cases canceled with
      | true => rfl
      | false => exact Program.bind_again_eq_map Except.ok (delaySync s.lastSyncTime) _

/-- A round of the one loop is a round of the other one. -/
theorem syncWithResultCallback_eq (rounds : Nat) :
    (syncWithResultCallback none SyncSettings.new stopIfCanceled rounds :
        SyncProgram Filter Body Error _) =
      (chatSyncForever rounds).map Except.ok :=
  Program.loop_map Except.ok syncRound_stopIfCanceled rounds _

/-- With a client that has stored no sync token the two loops exchange the same in every
environment: they send the same requests, sleep alike and read the clock and the flag at
the same points, and both of them stop or none. -/
theorem chatSyncForever_run (rounds : Nat)
    (environment : Program.Environment (SyncOp Filter) (SyncReply Body Error)) :
    (syncWithResultCallback none SyncSettings.new stopIfCanceled rounds).run environment
        [] =
      (((chatSyncForever rounds).run environment []).1,
        ((chatSyncForever rounds).run environment []).2.map Except.ok) := by
  rw [syncWithResultCallback_eq]
  exact Program.run_map environment Except.ok (chatSyncForever rounds) []

end Loops

end Sync
end MatrixGoose
