import MatrixGoose.Matrix.EventHandler.Dispatch

/-!
# Processing a sync response

The response as the base client hands it over, and the function that walks its
sections in order.  The room maps are ordered by room id, so they are lists here.
-/

namespace MatrixGoose

open Foundation

namespace Sync

open EventHandler

structure Timeline where
  limited : Bool
  events : List SyncTimelineEvent

structure JoinedRoom where
  timeline : Timeline
  state : List Json
  accountData : List Json
  ephemeral : List Json

structure LeftRoom where
  timeline : Timeline
  state : List Json
  accountData : List Json

structure InvitedRoom where
  inviteState : List Json

structure Rooms where
  join : List (RoomId × JoinedRoom)
  leave : List (RoomId × LeftRoom)
  invite : List (RoomId × InvitedRoom)

structure BaseSyncResponse where
  rooms : Rooms
  presence : List Json
  accountData : List Json
  toDeviceEvents : List Json
  notifications : List (RoomId × List Json)

def BaseSyncResponse.empty : BaseSyncResponse where
  rooms := { join := [], leave := [], invite := [] }
  presence := []
  accountData := []
  toDeviceEvents := []
  notifications := []

section

variable {Client Event : Type} [SyncClient Client Event] (client : Client)

def notifySyncGapIf (limited : Bool) (roomId : RoomId) : Traced Event SerdeError Unit :=
  Traced.emit (if limited then SyncClient.notifySyncGap client roomId else [])

def handleJoinedRoom (roomId : RoomId) (roomInfo : JoinedRoom) :
    Traced Event SerdeError Unit := do
  notifySyncGapIf client roomInfo.timeline.limited roomId
  match SyncClient.getRoom client roomId with
  | none => return
  | some room =>
      handleSyncEvents client HandlerKind.roomAccountData room roomInfo.accountData
      handleSyncStateEvents client room roomInfo.state
      handleSyncTimelineEvents client room roomInfo.timeline.events
      handleSyncEvents client HandlerKind.ephemeralRoomData room roomInfo.ephemeral

def handleLeftRoom (roomId : RoomId) (roomInfo : LeftRoom) :
    Traced Event SerdeError Unit := do
  notifySyncGapIf client roomInfo.timeline.limited roomId
  match SyncClient.getRoom client roomId with
  | none => return
  | some room =>
      handleSyncEvents client HandlerKind.roomAccountData room roomInfo.accountData
      handleSyncStateEvents client room roomInfo.state
      handleSyncTimelineEvents client room roomInfo.timeline.events

def handleInvitedRoom (roomId : RoomId) (roomInfo : InvitedRoom) :
    Traced Event SerdeError Unit :=
  match SyncClient.getRoom client roomId with
  | none => return
  | some room =>
      handleSyncEvents client HandlerKind.strippedState room roomInfo.inviteState

def callNotificationHandlers (notifications : List (RoomId × List Json)) :
    Traced Event SerdeError Unit :=
  Traced.emit (SyncClient.callNotificationHandlers client notifications)

def handleSyncResponse (response : BaseSyncResponse) : Traced Event SerdeError Unit := do
  handleSyncEvents client HandlerKind.globalAccountData none response.accountData
  handleSyncEvents client HandlerKind.presence none response.presence
  handleSyncEvents client HandlerKind.toDevice none response.toDeviceEvents
  Traced.forEach response.rooms.join fun (roomId, roomInfo) =>
    handleJoinedRoom client roomId roomInfo
  Traced.forEach response.rooms.leave fun (roomId, roomInfo) =>
    handleLeftRoom client roomId roomInfo
  Traced.forEach response.rooms.invite fun (roomId, roomInfo) =>
    handleInvitedRoom client roomId roomInfo
  callNotificationHandlers client response.notifications

end

end Sync
end MatrixGoose
