import MatrixGoose.Foundation.Traced
import MatrixGoose.Matrix.EventHandler.RawEvent
import MatrixGoose.Matrix.EventHandler.StoreRuns

/-!
# Dispatching events

The three loops that route the raw events of a section to the handlers.  An
event that fails to deserialize ends its loop with an error, after the handlers
of the earlier events have been called.
-/

namespace MatrixGoose

open Foundation

namespace EventHandler

/-- A timeline event with what decryption and the push rules say about it. -/
structure SyncTimelineEvent where
  event : Json
  encryptionInfo : Option Json
  pushActions : List Json

structure EventHandlerData where
  room : Option RoomId
  raw : Json
  encryptionInfo : Option Json
  pushActions : List Json
  handle : EventHandlerHandle

inductive Effect (Fn : Type)
  | callEventHandler (handlerFn : Fn) (data : EventHandlerData)
  | notifySyncGap (roomId : RoomId)
  | callNotificationHandler (handlerFn : Fn) (notification : Json) (room : RoomId)

structure GooseMatrixClient (Fn : Type) where
  eventHandlers : EventHandlerStore Fn
  notificationHandlers : List Fn
  knowsRoom : RoomId -> Bool

abbrev Dispatch (Fn : Type) := Traced (Effect Fn) SerdeError

namespace GooseMatrixClient

variable {Fn : Type} (client : GooseMatrixClient Fn)

def getRoom (roomId : RoomId) : Option RoomId :=
  if client.knowsRoom roomId then some roomId else none

def callEventHandlers (room : Option RoomId) (raw : Json)
    (eventKind : HandlerKind) (eventType : String) (encryptionInfo : Option Json)
    (pushActions : List Json) : Dispatch Fn Unit :=
  let handlers := client.eventHandlers.handlers.getHandlers eventKind eventType room
  Traced.emit (handlers.map fun (handle, handlerFn) =>
    Effect.callEventHandler handlerFn
      { room, raw, encryptionInfo, pushActions, handle })

end GooseMatrixClient

/-- A client as processing a sync response uses it; `Event` is what its operations leave
in the trace. -/
class SyncClient (Client : Type) (Event : outParam Type) where
  getRoom : Client -> RoomId -> Option RoomId
  callEventHandlers : Client -> Option RoomId -> Json -> HandlerKind -> String ->
    Option Json -> List Json -> Traced Event SerdeError Unit
  notifySyncGap : Client -> RoomId -> List Event
  callNotificationHandlers : Client -> List (RoomId × List Json) -> List Event

/-- The notification handlers run last, one after the other. -/
instance (Fn : Type) : SyncClient (GooseMatrixClient Fn) (Effect Fn) where
  getRoom := GooseMatrixClient.getRoom
  callEventHandlers := GooseMatrixClient.callEventHandlers
  notifySyncGap := fun _ roomId => [Effect.notifySyncGap roomId]
  callNotificationHandlers := fun client notifications =>
    client.notificationHandlers.flatMap fun handler =>
      notifications.flatMap fun (roomId, roomNotifications) =>
        match client.getRoom roomId with
        | none => []
        | some room => roomNotifications.map fun notification =>
            Effect.callNotificationHandler handler notification room

theorem SyncClient.getRoom_eq {Fn : Type} (client : GooseMatrixClient Fn)
    (roomId : RoomId) :
    SyncClient.getRoom client roomId =
      if client.knowsRoom roomId then some roomId else none := rfl

section Loops

open SyncClient

variable {Client Event : Type} [SyncClient Client Event] (client : Client)

def handleSyncEvents (kind : HandlerKind) (room : Option RoomId)
    (events : List Json) : Traced Event SerdeError Unit :=
  Traced.forEach events fun rawEvent => do
    let eventType <- Traced.ofExcept (ExtractType.deserialize rawEvent)
    callEventHandlers client room rawEvent kind eventType none []

def handleSyncStateEvents (room : Option RoomId) (stateEvents : List Json) :
    Traced Event SerdeError Unit := do
  -- Event handlers for possibly-redacted state events
  handleSyncEvents client HandlerKind.state room stateEvents
  -- Event handlers specifically for redacted OR unredacted state events
  Traced.forEach stateEvents fun rawEvent => do
    let details <- Traced.ofExcept (StateEventDetails.deserialize rawEvent)
    let handlerKind := HandlerKind.stateRedacted details.redacted
    callEventHandlers client room rawEvent handlerKind details.eventType none []

/-- The two kinds a timeline event is dispatched under before `timeline`. -/
def timelineKinds (details : TimelineEventDetails) : HandlerKind × HandlerKind :=
  match details.stateKey with
  | some _ => (HandlerKind.state, HandlerKind.stateRedacted details.redacted)
  | none =>
      (HandlerKind.messageLike, HandlerKind.messageLikeRedacted details.redacted)

def handleSyncTimelineEvents (room : Option RoomId)
    (timelineEvents : List SyncTimelineEvent) : Traced Event SerdeError Unit :=
  Traced.forEach timelineEvents fun item => do
    let details <- Traced.ofExcept (TimelineEventDetails.deserialize item.event)
    let (handlerKindG, handlerKindR) := timelineKinds details
    callEventHandlers client room item.event handlerKindG details.eventType
      item.encryptionInfo item.pushActions
    callEventHandlers client room item.event handlerKindR details.eventType
      item.encryptionInfo item.pushActions
    callEventHandlers client room item.event HandlerKind.timeline details.eventType
      item.encryptionInfo item.pushActions

end Loops

end EventHandler
end MatrixGoose
