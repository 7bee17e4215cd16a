import MatrixGoose.Matrix.Sync.Occurrences

/-!
# Sync gaps

A limited timeline tells those who subscribe to the gaps of its room that events are
missing.  The rooms of a response are walked one after the other, and an event that does
not parse ends the walk, so the gaps of the rooms behind it are not told to anyone.
-/

namespace MatrixGoose

open Foundation

namespace SyncGap

open EventHandler
open Sync

/-!
# The rooms of a response
-/

inductive RoomEntry
  | joined (roomId : RoomId) (room : JoinedRoom)
  | left (roomId : RoomId) (room : LeftRoom)

namespace RoomEntry

def roomId : RoomEntry -> RoomId
  | joined roomId _ => roomId
  | left roomId _ => roomId

def limited : RoomEntry -> Bool
  | joined _ room => room.timeline.limited
  | left _ room => room.timeline.limited

def occurrences : RoomEntry -> List Occurrence
  | joined roomId room => joinedOccurrences roomId room
  | left roomId room => leftOccurrences roomId room

def handle {Fn : Type} (client : GooseMatrixClient Fn) : RoomEntry -> Dispatch Fn Unit
  | joined roomId room => handleJoinedRoom client roomId room
  | left roomId room => handleLeftRoom client roomId room

def Parses {Fn : Type} (client : GooseMatrixClient Fn) (entry : RoomEntry) : Prop :=
  client.knowsRoom entry.roomId = true ->
    forall occ, occ ∈ entry.occurrences -> occ.Parses

end RoomEntry

/-- The joined and the left rooms, in the order in which they are walked. -/
def roomEntries (response : BaseSyncResponse) : List RoomEntry :=
  response.rooms.join.map (fun entry => RoomEntry.joined entry.1 entry.2) ++
    response.rooms.leave.map (fun entry => RoomEntry.left entry.1 entry.2)

def globalOccurrences (response : BaseSyncResponse) : List Occurrence :=
  response.accountData.map (Occurrence.plain Section.globalAccountData none) ++
    (response.presence.map (Occurrence.plain Section.presence none) ++
      response.toDeviceEvents.map (Occurrence.plain Section.toDevice none))

section Walk

variable {Fn : Type} (client : GooseMatrixClient Fn)

/-!
# What ends the walk
-/

def SucceedsOn (x : Dispatch Fn Unit) (occs : List Occurrence) : Prop :=
  x.result = .ok () <-> forall occ, occ ∈ occs -> occ.Parses

theorem SucceedsOn.bind {x y : Dispatch Fn Unit} {occs occs' : List Occurrence}
    (hx : SucceedsOn x occs) (hy : SucceedsOn y occs') :
    SucceedsOn (x >>= fun _ => y) (occs ++ occs') := by
  unfold SucceedsOn at *
  rw [Traced.result_bind_eq_ok_iff, List.forall_mem_append, ← hx, ← hy]
  constructor
  · intro h
    rcases h with ⟨_, hfirst, hsecond⟩
    exact ⟨hfirst, hsecond⟩
  · intro h
    exact ⟨(), h.1, h.2⟩

theorem result_forEach_iff {α β : Type} {xs : List α} {deserialize : α -> Except SerdeError β}
    {calls : α -> β -> Dispatch Fn Unit} (hcalls : forall x b, (calls x b).result = .ok ()) :
    (Traced.forEach xs fun x => Traced.ofExcept (deserialize x) >>= calls x).result = .ok () <->
      forall x, x ∈ xs -> exists b, deserialize x = .ok b := by
  rw [Traced.result_forEach_eq_ok_iff]
  apply forall₂_congr
  intro x _
  rw [Traced.result_bind_eq_ok_iff]
  constructor
  · intro h
    rcases h with ⟨b, hb, _⟩
    exact ⟨b, hb⟩
  · intro h
    rcases h with ⟨b, hb⟩
    exact ⟨b, hb, hcalls x b⟩

theorem result_handleSyncEvents_iff (kind : HandlerKind) (room : Option RoomId)
    (events : List Json) :
    (handleSyncEvents client kind room events).result = .ok () <->
      forall raw, raw ∈ events -> exists type, ExtractType.deserialize raw = .ok type :=
  result_forEach_iff fun _ _ => rfl

theorem succeedsOn_handleSyncEvents (source : Section) (hstate : source ≠ Section.state)
    (htimeline : source ≠ Section.timeline) (kind : HandlerKind) (room : Option RoomId)
    (events : List Json) :
    SucceedsOn (handleSyncEvents client kind room events)
      (events.map (Occurrence.plain source room)) := by
  unfold SucceedsOn
  rw [result_handleSyncEvents_iff, List.forall_mem_map]
  apply forall₂_congr
  intro raw _
  cases source with
  | state => exact absurd rfl hstate
  | timeline => exact absurd rfl htimeline
  | _ => exact Iff.rfl

theorem succeedsOn_handleSyncStateEvents (room : Option RoomId) (events : List Json) :
    SucceedsOn (handleSyncStateEvents client room events)
      (events.map (Occurrence.plain Section.state room)) := by
  unfold SucceedsOn handleSyncStateEvents
  rw [Traced.result_bind_eq_ok_iff, List.forall_mem_map]
  constructor
  · intro h raw hmem
    rcases h with ⟨_, htypes, hdetails⟩
    exact ⟨(result_handleSyncEvents_iff client _ _ _).mp htypes raw hmem,
      (result_forEach_iff fun _ _ => rfl).mp hdetails raw hmem⟩
  · intro h
    refine ⟨(), (result_handleSyncEvents_iff client _ _ _).mpr ?_,
      (result_forEach_iff fun _ _ => rfl).mpr ?_⟩
    · exact fun raw hmem => (h raw hmem).1
    · exact fun raw hmem => (h raw hmem).2

theorem succeedsOn_handleSyncTimelineEvents (room : Option RoomId)
    (events : List SyncTimelineEvent) :
    SucceedsOn (handleSyncTimelineEvents client room events)
      (events.map (Occurrence.ofTimeline room)) := by
  unfold SucceedsOn
  rw [List.forall_mem_map]
  exact result_forEach_iff fun _ _ => rfl

theorem result_handle_iff (entry : RoomEntry) :
    (entry.handle client).result = .ok () <-> entry.Parses client := by
  unfold RoomEntry.Parses
  cases entry with
  | joined roomId room =>
      show (handleJoinedRoom client roomId room).result = .ok () <->
        (client.knowsRoom roomId = true -> _)
      unfold handleJoinedRoom
      rw [Traced.result_bind_of_ok (a := ()) _ rfl, SyncClient.getRoom_eq]
      cases client.knowsRoom roomId with
      | false => exact iff_of_true rfl nofun
      | true =>
          rw [forall_prop_of_true rfl]
          exact (succeedsOn_handleSyncEvents client Section.roomAccountData nofun nofun
              HandlerKind.roomAccountData (some roomId) room.accountData).bind
            ((succeedsOn_handleSyncStateEvents client (some roomId) room.state).bind
              ((succeedsOn_handleSyncTimelineEvents client (some roomId)
                room.timeline.events).bind
                (succeedsOn_handleSyncEvents client Section.ephemeral nofun nofun
                  HandlerKind.ephemeralRoomData (some roomId) room.ephemeral)))
  | left roomId room =>
      show (handleLeftRoom client roomId room).result = .ok () <->
        (client.knowsRoom roomId = true -> _)
      unfold handleLeftRoom
      rw [Traced.result_bind_of_ok (a := ()) _ rfl, SyncClient.getRoom_eq]
      cases client.knowsRoom roomId with
      | false => exact iff_of_true rfl nofun
      | true =>
          rw [forall_prop_of_true rfl]
          exact (succeedsOn_handleSyncEvents client Section.roomAccountData nofun nofun
              HandlerKind.roomAccountData (some roomId) room.accountData).bind
            ((succeedsOn_handleSyncStateEvents client (some roomId) room.state).bind
              (succeedsOn_handleSyncTimelineEvents client (some roomId) room.timeline.events))

/-!
# Which gaps are notified
-/

variable {client}

def NoGap {α : Type} (x : Dispatch Fn α) : Prop :=
  x.AllEvents fun effect => forall roomId, effect ≠ Effect.notifySyncGap roomId

theorem NoGap.not_mem {α : Type} {x : Dispatch Fn α} (hx : NoGap x) (roomId : RoomId) :
    Effect.notifySyncGap roomId ∉ x.trace :=
  fun hmem => hx _ hmem roomId rfl

open Traced.AllEvents (bind forEach ofExcept)

theorem noGap_callEventHandlers (room : Option RoomId) (raw : Json) (kind : HandlerKind)
    (type : String) (encryptionInfo : Option Json) (pushActions : List Json) :
    NoGap (client.callEventHandlers room raw kind type encryptionInfo pushActions) := by
  intro effect hmem roomId heq
  subst heq
  rcases List.mem_map.mp hmem with ⟨_, _, heq⟩
  cases heq

theorem noGap_handleSyncEvents (kind : HandlerKind) (room : Option RoomId)
    (events : List Json) : NoGap (handleSyncEvents client kind room events) :=
  forEach fun _ => bind (ofExcept _) fun _ => noGap_callEventHandlers _ _ _ _ _ _

theorem noGap_handleSyncStateEvents (room : Option RoomId) (events : List Json) :
    NoGap (handleSyncStateEvents client room events) :=
  bind (noGap_handleSyncEvents _ _ _) fun _ =>
    forEach fun _ => bind (ofExcept _) fun _ => noGap_callEventHandlers _ _ _ _ _ _

theorem noGap_handleSyncTimelineEvents (room : Option RoomId)
    (events : List SyncTimelineEvent) :
    NoGap (handleSyncTimelineEvents client room events) :=
  forEach fun _ => bind (ofExcept _) fun _ =>
    bind (noGap_callEventHandlers _ _ _ _ _ _) fun _ =>
      bind (noGap_callEventHandlers _ _ _ _ _ _) fun _ =>
        noGap_callEventHandlers _ _ _ _ _ _

theorem noGap_handleInvitedRoom (roomId : RoomId) (room : InvitedRoom) :
    NoGap (handleInvitedRoom client roomId room) := by
  unfold handleInvitedRoom
  split
  · exact ofExcept (.ok ())
  · exact noGap_handleSyncEvents _ _ _

theorem noGap_callNotificationHandlers (notifications : List (RoomId × List Json)) :
    NoGap (callNotificationHandlers client notifications) := by
  intro effect hmem roomId heq
  subst heq
  rcases List.mem_flatMap.mp hmem with ⟨handler, _, hmem⟩
  rcases List.mem_flatMap.mp hmem with ⟨⟨other, events⟩, _, hmem⟩
  dsimp only at hmem
  split at hmem
  · cases hmem
  · rcases List.mem_map.mp hmem with ⟨_, _, heq⟩
    cases heq

theorem mem_gap_notifySyncGapIf (limited : Bool) (roomId other : RoomId) :
    Effect.notifySyncGap other ∈ (notifySyncGapIf client limited roomId).trace <->
      roomId = other ∧ limited = true := by
  cases limited with
  | false => exact iff_of_false (fun hmem => nomatch hmem) (fun h => nomatch h.2)
  | true =>
      show _ ∈ [Effect.notifySyncGap roomId] <-> _
      rw [List.mem_singleton, Effect.notifySyncGap.injEq, eq_comm, and_iff_left rfl]

/-- A room tells its own gap, and this comes before anything that can fail. -/
theorem mem_gap_handle (entry : RoomEntry) (roomId : RoomId) :
    Effect.notifySyncGap roomId ∈ (entry.handle client).trace <->
      entry.roomId = roomId ∧ entry.limited = true := by
  cases entry with
  | joined other room =>
      show _ ∈ (handleJoinedRoom client other room).trace <-> _
      unfold handleJoinedRoom
      rw [Traced.mem_trace_bind, mem_gap_notifySyncGapIf, or_iff_left]
      · rfl
      · rintro ⟨_, _, hmem⟩
        split at hmem
        · cases hmem
        · refine NoGap.not_mem ?_ roomId hmem
          exact bind (noGap_handleSyncEvents _ _ _) fun _ =>
            bind (noGap_handleSyncStateEvents _ _) fun _ =>
              bind (noGap_handleSyncTimelineEvents _ _) fun _ =>
                noGap_handleSyncEvents _ _ _
  | left other room =>
      show _ ∈ (handleLeftRoom client other room).trace <-> _
      unfold handleLeftRoom
      rw [Traced.mem_trace_bind, mem_gap_notifySyncGapIf, or_iff_left]
      · rfl
      · rintro ⟨_, _, hmem⟩
        split at hmem
        · cases hmem
        · refine NoGap.not_mem ?_ roomId hmem
          exact bind (noGap_handleSyncEvents _ _ _) fun _ =>
            bind (noGap_handleSyncStateEvents _ _) fun _ =>
              noGap_handleSyncTimelineEvents _ _

def walkRooms (client : GooseMatrixClient Fn) (response : BaseSyncResponse) :
    Dispatch Fn Unit :=
  Traced.forEach (roomEntries response) fun entry => entry.handle client

theorem mem_gap_walkRooms (client : GooseMatrixClient Fn) (response : BaseSyncResponse)
    (roomId : RoomId) :
    Effect.notifySyncGap roomId ∈ (walkRooms client response).trace <->
      exists before entry after, roomEntries response = before ++ entry :: after ∧
        (forall other, other ∈ before -> other.Parses client) ∧
        entry.roomId = roomId ∧ entry.limited = true := by
  unfold walkRooms
  simp only [Traced.mem_trace_forEach_iff, result_handle_iff, mem_gap_handle]

theorem mem_gap_handleRooms (client : GooseMatrixClient Fn) (response : BaseSyncResponse)
    {rest : Dispatch Fn Unit} (hrest : NoGap rest) (roomId : RoomId) :
    Effect.notifySyncGap roomId ∈
        (Traced.forEach response.rooms.join
            (fun entry => handleJoinedRoom client entry.1 entry.2) >>= fun _ =>
          Traced.forEach response.rooms.leave
            (fun entry => handleLeftRoom client entry.1 entry.2) >>= fun _ => rest).trace <->
      Effect.notifySyncGap roomId ∈ (walkRooms client response).trace := by
  have hwalk : walkRooms client response =
      (Traced.forEach response.rooms.join
          (fun entry => handleJoinedRoom client entry.1 entry.2) >>= fun _ =>
        Traced.forEach response.rooms.leave
          (fun entry => handleLeftRoom client entry.1 entry.2)) := by
    unfold walkRooms roomEntries
    rw [Traced.forEach_append, Traced.forEach_map, Traced.forEach_map]
    rfl
  rw [hwalk, ← Traced.bind_assoc, Traced.mem_trace_bind, or_iff_left]
  rintro ⟨_, _, hmem⟩
  exact hrest.not_mem roomId hmem

def handleGlobals (client : GooseMatrixClient Fn) (response : BaseSyncResponse) :
    Dispatch Fn Unit := do
  handleSyncEvents client HandlerKind.globalAccountData none response.accountData
  handleSyncEvents client HandlerKind.presence none response.presence
  handleSyncEvents client HandlerKind.toDevice none response.toDeviceEvents

theorem succeedsOn_handleGlobals (response : BaseSyncResponse) :
    SucceedsOn (handleGlobals client response) (globalOccurrences response) :=
  (succeedsOn_handleSyncEvents client Section.globalAccountData nofun nofun
      HandlerKind.globalAccountData none response.accountData).bind
    ((succeedsOn_handleSyncEvents client Section.presence nofun nofun
      HandlerKind.presence none response.presence).bind
      (succeedsOn_handleSyncEvents client Section.toDevice nofun nofun
        HandlerKind.toDevice none response.toDeviceEvents))

theorem noGap_handleGlobals (response : BaseSyncResponse) :
    NoGap (handleGlobals client response) :=
  bind (noGap_handleSyncEvents _ _ _) fun _ =>
    bind (noGap_handleSyncEvents _ _ _) fun _ => noGap_handleSyncEvents _ _ _

/-- The gap of a room is notified exactly if the walk gets to a limited timeline of the
room: all events before it parse, but for those in rooms that the client does not know. -/
theorem gap_notified_iff (client : GooseMatrixClient Fn) (response : BaseSyncResponse)
    (roomId : RoomId) :
    Effect.notifySyncGap roomId ∈ (handleSyncResponse client response).trace <->
      (forall occ, occ ∈ globalOccurrences response -> occ.Parses) ∧
        exists before entry after, roomEntries response = before ++ entry :: after ∧
          (forall other, other ∈ before -> other.Parses client) ∧
          entry.roomId = roomId ∧ entry.limited = true := by
  have hrest : NoGap (Traced.forEach response.rooms.invite
      (fun entry => handleInvitedRoom client entry.1 entry.2) >>= fun _ =>
      callNotificationHandlers client response.notifications) :=
    bind (forEach fun _ => noGap_handleInvitedRoom _ _) fun _ =>
      noGap_callNotificationHandlers _
  have heq : handleSyncResponse client response =
      (handleGlobals client response >>= fun _ =>
        Traced.forEach response.rooms.join
          (fun entry => handleJoinedRoom client entry.1 entry.2) >>= fun _ =>
        Traced.forEach response.rooms.leave
          (fun entry => handleLeftRoom client entry.1 entry.2) >>= fun _ =>
        Traced.forEach response.rooms.invite
          (fun entry => handleInvitedRoom client entry.1 entry.2) >>= fun _ =>
        callNotificationHandlers client response.notifications) := by
    simp only [handleGlobals, Traced.bind_assoc]
    rfl
  rw [heq, Traced.mem_trace_bind, or_iff_right ((noGap_handleGlobals response).not_mem roomId),
    Unique.exists_iff, mem_gap_handleRooms client response hrest, mem_gap_walkRooms]
  exact and_congr_left' (succeedsOn_handleGlobals response)

end Walk

end SyncGap
end MatrixGoose
