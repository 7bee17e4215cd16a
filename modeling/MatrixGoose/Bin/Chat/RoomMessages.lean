import MatrixGoose.Matrix.Sync.DispatchContract

/-!
# Recording room messages

A logged in chat user registers one handler, `on_room_message`, which appends
each unredacted message to the messages of its room.  Deserializing the message
itself is left to a parameter.
-/

namespace MatrixGoose

open Foundation

namespace Chat

open EventHandler
open Sync

section Handler

variable {Message : Type} (deserializeMessage : Json -> Option Message)

abbrev RoomMessages (Message : Type) := MultiMap RoomId Message

def onRoomMessage (roomMessages : RoomMessages Message) (roomId : RoomId)
    (event : Message) : RoomMessages Message :=
  match roomMessages roomId with
  | some messages => Function.update roomMessages roomId (some (messages ++ [event]))
  | none => Function.update roomMessages roomId (some [event])

theorem onRoomMessage_eq_push (roomMessages : RoomMessages Message)
    (roomId : RoomId) (event : Message) :
    onRoomMessage roomMessages roomId event = roomMessages.push roomId event := by
  unfold onRoomMessage MultiMap.push MultiMap.values
  cases roomMessages roomId <;> rfl

/-- The boxed handler: the event must deserialize and have a room, otherwise the
handler is skipped with a warning. -/
def runHandler (roomMessages : RoomMessages Message) :
    Effect Nat -> RoomMessages Message
  | Effect.callEventHandler _ data =>
      match deserializeMessage data.raw, data.room with
      | some event, some roomId => onRoomMessage roomMessages roomId event
      | _, _ => roomMessages
  | _ => roomMessages

def runHandlers (roomMessages : RoomMessages Message)
    (effects : List (Effect Nat)) : RoomMessages Message :=
  effects.foldl (runHandler deserializeMessage) roomMessages

/-- `client.add_event_handler(on_room_message)` registers for
`OriginalSyncRoomMessageEvent`, in any room. -/
def chatRegistrations : List (StoreOp Unit) :=
  [StoreOp.add HandlerKind.originalMessageLike (some "m.room.message") () none]

/-- A logged in user's client.  The base client has stored every room of a
response before its handlers run. -/
def chatClient : GooseMatrixClient Nat where
  eventHandlers := EventHandlerStore.run (StoreOp.number chatRegistrations)
  notificationHandlers := []
  knowsRoom := fun _ => true

/-!
# Messages of a response
-/

def isMessage (item : SyncTimelineEvent) : Bool :=
  match TimelineEventDetails.deserialize item.event with
  | .error _ => false
  | .ok details =>
      details.eventType == "m.room.message" && details.stateKey.isNone &&
        !details.redacted

def messageOf (item : SyncTimelineEvent) : Option Message :=
  if isMessage item then deserializeMessage item.event else none

def timelineItems (roomId : RoomId) (response : BaseSyncResponse) :
    List SyncTimelineEvent :=
  response.rooms.join.flatMap (fun (id, room) =>
      if id = roomId then room.timeline.events else []) ++
    response.rooms.leave.flatMap fun (id, room) =>
      if id = roomId then room.timeline.events else []

def HasMessage (response : BaseSyncResponse) : Prop :=
  exists roomId item, item ∈ timelineItems roomId response ∧ isMessage item = true

def AllParse (response : BaseSyncResponse) : Prop :=
  forall occ, occ ∈ occurrences response -> occ.Parses

/-!
# What a processed response records
-/

def chatHandler : Registration Nat :=
  registrationAt 0 HandlerKind.originalMessageLike (some "m.room.message") 0 none

theorem chatClient_registers : Registers chatClient [chatHandler] where
  represents := (Ledger.simulates_run (StoreOp.number chatRegistrations)).represents
  increasing := List.pairwise_singleton ..

theorem wants_ofTimeline (room : Option RoomId) (item : SyncTimelineEvent) :
    Wants chatHandler (Occurrence.ofTimeline room item) <-> isMessage item = true := by
  unfold Wants isMessage
  cases hdetails : TimelineEventDetails.deserialize item.event with
  | error e =>
      simp [Occurrence.kinds, Occurrence.ofTimeline, hdetails]
  | ok details =>
      have htype := eventTypeOf_of_timelineEventDetails hdetails
      have hkind : HandlerKind.originalMessageLike ∈
          (Occurrence.ofTimeline room item).kinds <->
            details.stateKey = none ∧ details.redacted = false := by
        simp only [Occurrence.kinds, Occurrence.ofTimeline, hdetails]
        cases details.stateKey <;> cases details.redacted <;> simp
      have htypeEq : eventTypeOf (Occurrence.ofTimeline room item).raw =
          some details.eventType := htype
      simp only [chatHandler, registrationAt, hkind, htypeEq, Bool.and_eq_true,
        beq_iff_eq, Option.isNone_iff_eq_none, Bool.not_eq_true']
      constructor
      · intro h
        rcases h with ⟨⟨hkey, hredacted⟩, hname | hname, _⟩
        · cases hname
        · exact ⟨⟨(Option.some.inj hname).symm, hkey⟩, hredacted⟩
      · intro h
        rcases h with ⟨⟨hname, hkey⟩, hredacted⟩
        exact ⟨⟨hkey, hredacted⟩, Or.inr (congrArg some hname.symm),
          Or.inl True.intro⟩

theorem not_wants_plain {source : Section} (hsource : source ≠ Section.timeline)
    (room : Option RoomId) (raw : Json) :
    ¬ Wants chatHandler (Occurrence.plain source room raw) := by
  intro h
  rcases h with ⟨hkind, _⟩
  have hkind : HandlerKind.originalMessageLike ∈
      (Occurrence.plain source room raw).kinds := hkind
  unfold Occurrence.kinds at hkind
  cases source with
  | timeline => exact hsource rfl
  | state =>
      simp only [Occurrence.plain] at hkind
      split at hkind
      · cases List.mem_singleton.mp hkind
      · next details _ => cases hredacted : details.redacted <;> simp [hredacted] at hkind
  | _ => cases List.mem_singleton.mp hkind

def recordedIn (roomId : RoomId) : Effect Nat -> Option Message
  | Effect.callEventHandler _ data =>
      if data.room = some roomId then deserializeMessage data.raw else none
  | _ => none

theorem values_runHandler (roomMessages : RoomMessages Message)
    (effect : Effect Nat) (roomId : RoomId) :
    (runHandler deserializeMessage roomMessages effect).values roomId =
      roomMessages.values roomId ++
        (recordedIn deserializeMessage roomId effect).toList := by
  cases effect with
  | notifySyncGap room => simp [runHandler, recordedIn]
  | callNotificationHandler handlerFn notification room =>
      simp [runHandler, recordedIn]
  | callEventHandler handlerFn data =>
      cases hevent : deserializeMessage data.raw with
      | none => simp [runHandler, recordedIn, hevent]
      | some event =>
          cases hroom : data.room with
          | none => simp [runHandler, recordedIn, hevent, hroom]
          | some room =>
              by_cases hsame : room = roomId
              · subst hsame
                simp [runHandler, recordedIn, hevent, hroom, onRoomMessage_eq_push]
              · simp [runHandler, recordedIn, hevent, hroom, onRoomMessage_eq_push,
                  MultiMap.values_push, hsame, Ne.symm hsame]

theorem values_runHandlers (roomMessages : RoomMessages Message)
    (effects : List (Effect Nat)) (roomId : RoomId) :
    (runHandlers deserializeMessage roomMessages effects).values roomId =
      roomMessages.values roomId ++
        effects.filterMap (recordedIn deserializeMessage roomId) := by
  induction effects generalizing roomMessages with
  | nil => simp [runHandlers]
  | cons effect rest ih =>
      have hfold : runHandlers deserializeMessage roomMessages (effect :: rest) =
          runHandlers deserializeMessage
            (runHandler deserializeMessage roomMessages effect) rest := rfl
      rw [hfold, ih, values_runHandler, List.append_assoc]
      cases hrecorded : recordedIn deserializeMessage roomId effect <;>
        simp [hrecorded]

theorem filterMap_recordedIn (response : BaseSyncResponse) (roomId : RoomId) :
    (handleSyncResponse chatClient response).trace.filterMap
        (recordedIn deserializeMessage roomId) =
      ((handleSyncResponse chatClient response).trace.filter
        (isCallOf chatHandler)).filterMap (recordedIn deserializeMessage roomId) := by
  rw [List.filterMap_filter]
  apply List.filterMap_congr
  intro effect heffect
  cases hcall : isHandlerCall effect with
  | false =>
      cases effect with
      | callEventHandler handlerFn data => cases hcall
      | notifySyncGap room => rfl
      | callNotificationHandler handlerFn notification room => rfl
  | true =>
      rcases within_handleSyncResponse chatClient_registers.represents response effect
        heffect hcall with ⟨h, occ, hmem, _, _, heq⟩
      rw [List.mem_singleton.mp hmem] at heq
      rw [heq]
      rfl

def recordedFor (roomId : RoomId) (occ : Occurrence) : Option Message :=
  if Wants chatHandler occ ∧ occ.room = some roomId then deserializeMessage occ.raw
  else none

theorem filterMap_callsFor (roomId : RoomId) (occs : List Occurrence) :
    (callsFor chatHandler occs).filterMap (recordedIn deserializeMessage roomId) =
      occs.filterMap (recordedFor deserializeMessage roomId) := by
  rw [callsFor, List.filterMap_map, List.filterMap_filter]
  apply List.filterMap_congr
  intro occ _
  by_cases hwants : Wants chatHandler occ
  · simp [recordedFor, recordedIn, callOn, hwants]
  · simp [recordedFor, hwants]

theorem filterMap_plain {source : Section} (hsource : source ≠ Section.timeline)
    (room : Option RoomId) (roomId : RoomId) (events : List Json) :
    (events.map (Occurrence.plain source room)).filterMap
      (recordedFor deserializeMessage roomId) = [] := by
  rw [List.filterMap_map, List.filterMap_eq_nil_iff]
  intro raw _
  simp [recordedFor, not_wants_plain hsource room raw]

theorem filterMap_ofTimeline (room roomId : RoomId)
    (items : List SyncTimelineEvent) :
    (items.map (Occurrence.ofTimeline (some room))).filterMap
        (recordedFor deserializeMessage roomId) =
      (if room = roomId then items else []).filterMap
        (messageOf deserializeMessage) := by
  rw [List.filterMap_map]
  by_cases hroom : room = roomId
  · rw [if_pos hroom]
    apply List.filterMap_congr
    intro item _
    simp only [Function.comp_apply, recordedFor, wants_ofTimeline]
    simp [messageOf, Occurrence.ofTimeline, hroom]
  · rw [if_neg hroom, List.filterMap_nil, List.filterMap_eq_nil_iff]
    intro item _
    simp [recordedFor, Occurrence.ofTimeline, hroom]

theorem filterMap_joinedOccurrences (room roomId : RoomId) (info : JoinedRoom) :
    (joinedOccurrences room info).filterMap (recordedFor deserializeMessage roomId) =
      (if room = roomId then info.timeline.events else []).filterMap
        (messageOf deserializeMessage) := by
  rw [joinedOccurrences, List.filterMap_append, List.filterMap_append,
    List.filterMap_append, filterMap_plain deserializeMessage (by simp),
    filterMap_plain deserializeMessage (by simp),
    filterMap_plain deserializeMessage (by simp), filterMap_ofTimeline]
  simp

theorem filterMap_leftOccurrences (room roomId : RoomId) (info : LeftRoom) :
    (leftOccurrences room info).filterMap (recordedFor deserializeMessage roomId) =
      (if room = roomId then info.timeline.events else []).filterMap
        (messageOf deserializeMessage) := by
  rw [leftOccurrences, List.filterMap_append, List.filterMap_append,
    filterMap_plain deserializeMessage (by simp),
    filterMap_plain deserializeMessage (by simp), filterMap_ofTimeline]
  simp

theorem filterMap_occurrences (response : BaseSyncResponse) (roomId : RoomId) :
    (occurrences response).filterMap (recordedFor deserializeMessage roomId) =
      (timelineItems roomId response).filterMap (messageOf deserializeMessage) := by
  have hinvite : (response.rooms.invite.flatMap fun entry =>
      entry.2.inviteState.map (Occurrence.plain Section.strippedState entry.1)).filterMap
        (recordedFor deserializeMessage roomId) = [] := by
    rw [List.filterMap_flatMap, List.flatMap_eq_nil_iff]
    intro entry _
    exact filterMap_plain deserializeMessage (by simp) _ _ _
  have hjoin : (response.rooms.join.flatMap fun entry =>
      joinedOccurrences entry.1 entry.2).filterMap
        (recordedFor deserializeMessage roomId) =
        (response.rooms.join.flatMap fun entry =>
          if entry.1 = roomId then entry.2.timeline.events else []).filterMap
            (messageOf deserializeMessage) := by
    rw [List.filterMap_flatMap, List.filterMap_flatMap]
    apply List.flatMap_congr
    intro entry _
    exact filterMap_joinedOccurrences deserializeMessage _ _ _
  have hleave : (response.rooms.leave.flatMap fun entry =>
      leftOccurrences entry.1 entry.2).filterMap
        (recordedFor deserializeMessage roomId) =
        (response.rooms.leave.flatMap fun entry =>
          if entry.1 = roomId then entry.2.timeline.events else []).filterMap
            (messageOf deserializeMessage) := by
    rw [List.filterMap_flatMap, List.filterMap_flatMap]
    apply List.flatMap_congr
    intro entry _
    exact filterMap_leftOccurrences deserializeMessage _ _ _
  simp only [occurrences, timelineItems, List.filterMap_append]
  rw [filterMap_plain deserializeMessage (by simp),
    filterMap_plain deserializeMessage (by simp),
    filterMap_plain deserializeMessage (by simp), hjoin, hleave, hinvite]
  simp

/-!
# The two outcomes that keep recording exact
-/

theorem result_of_allParse {response : BaseSyncResponse} (hparse : AllParse response) :
    (handleSyncResponse chatClient response).result = .ok () :=
  (delivers_handleSyncResponse chatClient_registers response
    ⟨fun _ _ => rfl, fun _ _ => rfl, fun _ _ => rfl⟩ hparse).result_ok

theorem record_of_allParse {response : BaseSyncResponse} (hparse : AllParse response)
    (roomMessages : RoomMessages Message) (roomId : RoomId) :
    (runHandlers deserializeMessage roomMessages
        (handleSyncResponse chatClient response).trace).values roomId =
      roomMessages.values roomId ++
        (timelineItems roomId response).filterMap (messageOf deserializeMessage) := by
  have hdelivers := delivers_handleSyncResponse chatClient_registers response
    ⟨fun _ _ => rfl, fun _ _ => rfl, fun _ _ => rfl⟩ hparse
  rw [values_runHandlers, filterMap_recordedIn,
    hdelivers.calls_eq chatHandler (List.mem_singleton_self _), filterMap_callsFor,
    filterMap_occurrences]

theorem not_wants_of_mem_map {source : Section} {room : Option RoomId}
    {events : List Json} {occ : Occurrence} (hsource : source ≠ Section.timeline)
    (hocc : occ ∈ events.map (Occurrence.plain source room)) :
    ¬ Wants chatHandler occ := by
  rcases List.mem_map.mp hocc with ⟨raw, _, heq⟩
  rw [← heq]
  exact not_wants_plain hsource room raw

theorem hasMessage_of_wants {response : BaseSyncResponse} {occ : Occurrence}
    (hocc : occ ∈ occurrences response) (hwants : Wants chatHandler occ) :
    HasMessage response := by
  have hplain : forall {source : Section} {room : Option RoomId} {events : List Json},
      source ≠ Section.timeline ->
        occ ∉ events.map (Occurrence.plain source room) :=
    fun hsource hmem => not_wants_of_mem_map hsource hmem hwants
  have htimeline : forall {roomId : RoomId} {items : List SyncTimelineEvent},
      occ ∈ items.map (Occurrence.ofTimeline roomId) ->
        exists item, item ∈ items ∧ isMessage item = true := by
    intro roomId items hmem
    rcases List.mem_map.mp hmem with ⟨item, hitem, heq⟩
    rw [← heq] at hwants
    exact ⟨item, hitem, (wants_ofTimeline _ item).mp hwants⟩
  simp only [occurrences, List.mem_append] at hocc
  rcases hocc with haccount | hpresence | htoDevice | hjoin | hleave | hinvite
  · exact absurd haccount (hplain (by simp))
  · exact absurd hpresence (hplain (by simp))
  · exact absurd htoDevice (hplain (by simp))
  · rcases List.mem_flatMap.mp hjoin with ⟨⟨roomId, info⟩, hmem, hocc⟩
    simp only [joinedOccurrences, List.mem_append] at hocc
    rcases hocc with haccount | hstate | hitems | hephemeral
    · exact absurd haccount (hplain (by simp))
    · exact absurd hstate (hplain (by simp))
    · rcases htimeline hitems with ⟨item, hitem, hmessage⟩
      refine ⟨roomId, item, ?_, hmessage⟩
      apply List.mem_append_left
      exact List.mem_flatMap.mpr ⟨_, hmem, by simpa using hitem⟩
    · exact absurd hephemeral (hplain (by simp))
  · rcases List.mem_flatMap.mp hleave with ⟨⟨roomId, info⟩, hmem, hocc⟩
    simp only [leftOccurrences, List.mem_append] at hocc
    rcases hocc with haccount | hstate | hitems
    · exact absurd haccount (hplain (by simp))
    · exact absurd hstate (hplain (by simp))
    · rcases htimeline hitems with ⟨item, hitem, hmessage⟩
      refine ⟨roomId, item, ?_, hmessage⟩
      apply List.mem_append_right
      exact List.mem_flatMap.mpr ⟨_, hmem, by simpa using hitem⟩
  · rcases List.mem_flatMap.mp hinvite with ⟨entry, _, hocc⟩
    exact absurd hocc (hplain (by simp))

/-- A response without messages calls no handler, whatever the outcome. -/
theorem isHandlerCall_eq_false_of_not_hasMessage {response : BaseSyncResponse}
    (hnone : ¬ HasMessage response) {effect : Effect Nat}
    (heffect : effect ∈ (handleSyncResponse chatClient response).trace) :
    isHandlerCall effect = false := by
  rw [← Bool.not_eq_true]
  intro hcall
  rcases within_handleSyncResponse chatClient_registers.represents response effect
    heffect hcall with ⟨h, occ, hmem, hocc, hwants, _⟩
  rw [List.mem_singleton.mp hmem] at hwants
  exact hnone (hasMessage_of_wants hocc hwants)

theorem record_of_not_hasMessage {response : BaseSyncResponse}
    (hnone : ¬ HasMessage response) (roomMessages : RoomMessages Message)
    (roomId : RoomId) :
    (runHandlers deserializeMessage roomMessages
        (handleSyncResponse chatClient response).trace).values roomId =
      roomMessages.values roomId := by
  rw [values_runHandlers, List.filterMap_eq_nil_iff.mpr, List.append_nil]
  intro effect heffect
  have hcall := isHandlerCall_eq_false_of_not_hasMessage hnone heffect
  cases effect with
  | callEventHandler handlerFn data => cases hcall
  | notifySyncGap room => rfl
  | callNotificationHandler handlerFn notification room => rfl

end Handler

end Chat
end MatrixGoose
