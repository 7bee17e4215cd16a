import MatrixGoose.Matrix.Sync.OnlyWanted

/-!
# The dispatch contract

Processing a response whose events all parse succeeds, and calls a registered
handler once for every occurrence it wants, in the order of the response.
-/

namespace MatrixGoose

open Foundation

namespace Sync

open EventHandler

/-!
# Deliveries

A computation delivers a family of calls to the registered handlers if it
succeeds and calls each of them exactly that way.
-/

structure Registers (client : GooseMatrixClient Nat)
    (hs : List (Registration Nat)) : Prop where
  represents : client.eventHandlers.handlers.Represents hs
  increasing : hs.Pairwise fun a b => a.handlerFn < b.handlerFn

structure Delivers (hs : List (Registration Nat))
    (x : Dispatch Nat Unit) (calls : Registration Nat -> List (Effect Nat)) : Prop where
  result_ok : x.result = .ok ()
  calls_eq : forall h, h ∈ hs -> x.trace.filter (isCallOf h) = calls h

namespace Delivers

variable {hs : List (Registration Nat)}

theorem congr {x : Dispatch Nat Unit}
    {calls calls' : Registration Nat -> List (Effect Nat)}
    (hx : Delivers hs x calls) (hcalls : forall h, calls h = calls' h) :
    Delivers hs x calls' where
  result_ok := hx.result_ok
  calls_eq := by
    intro h hmem
    rw [hx.calls_eq h hmem, hcalls h]

theorem bind {x y : Dispatch Nat Unit}
    {first second : Registration Nat -> List (Effect Nat)}
    (hx : Delivers hs x first) (hy : Delivers hs y second) :
    Delivers hs (x >>= fun _ => y) fun h => first h ++ second h where
  result_ok := by
    rw [Traced.result_bind_of_ok _ hx.result_ok]
    exact hy.result_ok
  calls_eq := by
    intro h hmem
    rw [Traced.trace_bind_of_ok _ hx.result_ok, List.filter_append,
      hx.calls_eq h hmem, hy.calls_eq h hmem]

theorem forEach {α : Type} {xs : List α} {body : α -> Dispatch Nat Unit}
    {calls : α -> Registration Nat -> List (Effect Nat)}
    (hbody : forall x, x ∈ xs -> Delivers hs (body x) (calls x)) :
    Delivers hs (Traced.forEach xs body) fun h => xs.flatMap fun x => calls x h where
  result_ok := by
    rw [Traced.forEach_of_ok fun x hx => (hbody x hx).result_ok]
  calls_eq := by
    intro h hmem
    rw [Traced.forEach_of_ok fun x hx => (hbody x hx).result_ok]
    show (xs.flatMap _).filter _ = _
    rw [List.filter_flatMap]
    apply List.flatMap_congr
    intro x hx
    exact (hbody x hx).calls_eq h hmem

theorem emit_of_not_call {effects : List (Effect Nat)}
    (hnone : forall effect, effect ∈ effects -> isHandlerCall effect = false) :
    Delivers hs (Traced.emit effects) fun _ => [] where
  result_ok := rfl
  calls_eq := by
    intro h _
    rw [Traced.trace_emit, List.filter_eq_nil_iff]
    intro effect heffect hcall
    have hfalse := hnone effect heffect
    cases effect with
    | callEventHandler handlerFn data => cases hfalse
    | notifySyncGap roomId => cases hcall
    | callNotificationHandler handlerFn notification room => cases hcall

end Delivers

section Loops

variable {client : GooseMatrixClient Nat} {hs : List (Registration Nat)}

theorem filter_name_of_mem {l : List (Registration Nat)} {h : Registration Nat}
    (hnodup : (l.map Registration.handlerFn).Nodup) (hmem : h ∈ l) :
    l.filter (fun g => g.handlerFn == h.handlerFn) = [h] := by
  induction l with
  | nil => cases hmem
  | cons g rest ih =>
      rw [List.map_cons, List.nodup_cons] at hnodup
      rcases List.mem_cons.mp hmem with hhead | htail
      · subst hhead
        rw [List.filter_cons_of_pos (by simp), List.filter_eq_nil_iff.mpr]
        intro g hg hname
        exact hnodup.1 (List.mem_map.mpr ⟨g, hg, by simpa using hname⟩)
      · rw [List.filter_cons_of_neg, ih hnodup.2 htail]
        intro hname
        have hgh : g.handlerFn = h.handlerFn := by simpa using hname
        exact hnodup.1 (List.mem_map.mpr ⟨h, htail, hgh.symm⟩)

theorem delivers_callEventHandlers (hclient : Registers client hs)
    (occ : Occurrence) (kind : HandlerKind) {type : String}
    (htype : eventTypeOf occ.raw = some type) :
    Delivers hs
      (client.callEventHandlers occ.room occ.raw kind type occ.encryptionInfo
        occ.pushActions)
      fun h => callsUnder h kind occ where
  result_ok := rfl
  calls_eq := by
    intro h hmem
    have htrace : (client.callEventHandlers occ.room occ.raw kind type
        occ.encryptionInfo occ.pushActions).trace =
          (lookup hs kind type occ.room).map fun g => callOn g occ := by
      show (client.eventHandlers.handlers.getHandlers kind type occ.room).map _ = _
      rw [EventHandlerMaps.getHandlers_of_represents hclient.represents,
        List.map_map]
      rfl
    have hfilter : isCallOf h ∘ (fun g => callOn g occ) =
        fun g => g.handlerFn == h.handlerFn := rfl
    rw [htrace, List.filter_map, hfilter]
    by_cases hmatch : h.Matches kind type occ.room
    · have hcalls : callsUnder h kind occ = [callOn h occ] := by
        rw [callsUnder, htype]
        exact if_pos hmatch
      rw [hcalls, filter_name_of_mem
        (Ledger.nodup_map_lookup hclient.increasing kind type occ.room)
        (mem_lookup.mpr ⟨hmem, hmatch⟩)]
      rfl
    · have hcalls : callsUnder h kind occ = [] := by
        rw [callsUnder, htype]
        exact if_neg hmatch
      rw [hcalls, List.filter_eq_nil_iff.mpr]
      · rfl
      · intro g hg hname
        rcases mem_lookup.mp hg with ⟨hgMem, hgMatch⟩
        have hgh := Ledger.eq_of_label_eq hclient.increasing hgMem hmem
          (by simpa using hname)
        exact hmatch (hgh ▸ hgMatch)

theorem ofExcept_bind_of_ok {α : Type} {result : Except SerdeError α} {a : α}
    (hresult : result = .ok a) (f : α -> Dispatch Nat Unit) :
    (Traced.ofExcept result >>= f) = f a := by
  rw [hresult]
  rfl

theorem delivers_handleSyncEvents (hclient : Registers client hs)
    (kind : HandlerKind) (source : Section) (room : Option RoomId)
    (events : List Json)
    (hparses : forall raw, raw ∈ events ->
      exists type, ExtractType.deserialize raw = .ok type) :
    Delivers hs (handleSyncEvents client kind room events) fun h =>
      events.flatMap fun raw => callsUnder h kind (Occurrence.plain source room raw) := by
  apply Delivers.forEach
  intro raw hraw
  rcases hparses raw hraw with ⟨type, htype⟩
  rw [ofExcept_bind_of_ok htype]
  exact delivers_callEventHandlers hclient (Occurrence.plain source room raw) kind
    (eventTypeOf_of_extractType htype)

theorem delivers_plain (hclient : Registers client hs) (kind : HandlerKind)
    (source : Section) (room : Option RoomId) (events : List Json)
    (hkinds : forall raw, (Occurrence.plain source room raw).kinds = [kind])
    (hparses : forall raw, raw ∈ events ->
      exists type, ExtractType.deserialize raw = .ok type) :
    Delivers hs (handleSyncEvents client kind room events) fun h =>
      callsFor h (events.map (Occurrence.plain source room)) := by
  apply (delivers_handleSyncEvents hclient kind source room events hparses).congr
  intro h
  rw [callsFor_map]
  apply List.flatMap_congr
  intro raw _
  rw [← flatMap_callsUnder_kinds h _ (nodup_kinds _), hkinds raw]
  simp

theorem flatMap_append_flatMap {α β : Type} {xs : List α} {f g : α -> List β}
    (hnone : (forall x, x ∈ xs -> f x = []) ∨ forall x, x ∈ xs -> g x = []) :
    xs.flatMap f ++ xs.flatMap g = xs.flatMap fun x => f x ++ g x := by
  rcases hnone with hf | hg
  · rw [List.flatMap_eq_nil_iff.mpr hf, List.nil_append]
    apply List.flatMap_congr
    intro x hx
    rw [hf x hx, List.nil_append]
  · rw [List.flatMap_eq_nil_iff.mpr hg, List.append_nil]
    apply List.flatMap_congr
    intro x hx
    rw [hg x hx, List.append_nil]

def redactedCalls (h : Registration Nat) (room : Option RoomId) (raw : Json) :
    List (Effect Nat) :=
  match StateEventDetails.deserialize raw with
  | .error _ => []
  | .ok details => callsUnder h (HandlerKind.stateRedacted details.redacted)
      (Occurrence.plain Section.state room raw)

theorem redactedCalls_of_ok (h : Registration Nat) (room : Option RoomId) {raw : Json}
    {details : StateEventDetails}
    (hdetails : StateEventDetails.deserialize raw = .ok details) :
    redactedCalls h room raw =
      callsUnder h (HandlerKind.stateRedacted details.redacted)
        (Occurrence.plain Section.state room raw) := by
  rw [redactedCalls, hdetails]

theorem redactedCalls_of_state {h : Registration Nat}
    (hkind : h.handle.evKind = HandlerKind.state) (room : Option RoomId)
    (raw : Json) : redactedCalls h room raw = [] := by
  cases hdetails : StateEventDetails.deserialize raw with
  | error e => rw [redactedCalls, hdetails]
  | ok details =>
      rw [redactedCalls_of_ok h room hdetails]
      apply callsUnder_of_ne
      rw [hkind]
      cases details.redacted <;> decide

theorem callsFor_state (h : Registration Nat) (room : Option RoomId) {raw : Json}
    {details : StateEventDetails}
    (hdetails : StateEventDetails.deserialize raw = .ok details) :
    callsFor h [Occurrence.plain Section.state room raw] =
      callsUnder h HandlerKind.state (Occurrence.plain Section.state room raw) ++
        redactedCalls h room raw := by
  rw [← flatMap_callsUnder_kinds h _ (nodup_kinds _), redactedCalls_of_ok h room hdetails]
  simp only [Occurrence.kinds, Occurrence.plain, hdetails]
  simp [HandlerKind.stateRedacted]

theorem delivers_handleSyncStateEvents (hclient : Registers client hs)
    (room : Option RoomId) (events : List Json)
    (hparses : forall raw, raw ∈ events ->
      (Occurrence.plain Section.state room raw).Parses) :
    Delivers hs (handleSyncStateEvents client room events) fun h =>
      callsFor h (events.map (Occurrence.plain Section.state room)) := by
  have hfirst := delivers_handleSyncEvents hclient HandlerKind.state Section.state
    room events fun raw hraw => (hparses raw hraw).1
  have hsecond : Delivers hs
      (Traced.forEach events fun rawEvent => do
        let details <- Traced.ofExcept (StateEventDetails.deserialize rawEvent)
        client.callEventHandlers room rawEvent
          (HandlerKind.stateRedacted details.redacted) details.eventType none [])
      fun h => events.flatMap fun raw => redactedCalls h room raw := by
    apply Delivers.forEach
    intro raw hraw
    rcases (hparses raw hraw).2 with ⟨details, hdetails⟩
    have hok : StateEventDetails.deserialize raw = .ok details := hdetails
    rw [ofExcept_bind_of_ok hok]
    simp only [redactedCalls_of_ok _ room hok]
    exact delivers_callEventHandlers hclient (Occurrence.plain Section.state room raw)
      _ (eventTypeOf_of_stateEventDetails hdetails)
  apply (hfirst.bind hsecond).congr
  intro h
  -- A handler of kind `state` is called in the first pass only, any other in the
  -- second pass only, so the two passes do not interleave for one handler.
  have hnone : (forall raw, raw ∈ events ->
      callsUnder h HandlerKind.state (Occurrence.plain Section.state room raw) = []) ∨
        forall raw, raw ∈ events -> redactedCalls h room raw = [] := by
    by_cases hkind : h.handle.evKind = HandlerKind.state
    · exact Or.inr fun raw _ => redactedCalls_of_state hkind room raw
    · exact Or.inl fun raw _ => callsUnder_of_ne hkind _
  rw [flatMap_append_flatMap hnone, callsFor_map]
  apply List.flatMap_congr
  intro raw hraw
  rcases (hparses raw hraw).2 with ⟨details, hdetails⟩
  exact (callsFor_state h room hdetails).symm

theorem delivers_handleSyncTimelineEvents (hclient : Registers client hs)
    (room : Option RoomId) (events : List SyncTimelineEvent)
    (hparses : forall item, item ∈ events ->
      (Occurrence.ofTimeline room item).Parses) :
    Delivers hs (handleSyncTimelineEvents client room events) fun h =>
      callsFor h (events.map (Occurrence.ofTimeline room)) := by
  have hloop : Delivers hs (handleSyncTimelineEvents client room events) fun h =>
      events.flatMap fun item => callsFor h [Occurrence.ofTimeline room item] := by
    apply Delivers.forEach
    intro item hitem
    rcases hparses item hitem with ⟨details, hdetails⟩
    have hdetails' : TimelineEventDetails.deserialize item.event = .ok details :=
      hdetails
    have htype := eventTypeOf_of_timelineEventDetails hdetails
    rw [ofExcept_bind_of_ok hdetails']
    have hcall := fun kind => delivers_callEventHandlers hclient
      (Occurrence.ofTimeline room item) kind htype
    apply ((hcall _).bind ((hcall _).bind (hcall _))).congr
    intro h
    rw [← flatMap_callsUnder_kinds h _ (nodup_kinds _)]
    simp only [Occurrence.kinds, Occurrence.ofTimeline, hdetails']
    cases details.stateKey <;>
      simp [HandlerKind.stateRedacted, HandlerKind.messageLikeRedacted]
  apply hloop.congr
  intro h
  rw [callsFor_map]

/-!
# The whole response
-/

theorem delivers_notifySyncGapIf (limited : Bool) (roomId : RoomId) :
    Delivers hs (notifySyncGapIf client limited roomId) fun _ => [] := by
  apply Delivers.emit_of_not_call
  intro effect heffect
  cases limited with
  | false => cases heffect
  | true =>
      rw [List.mem_singleton.mp heffect]
      rfl

theorem delivers_callNotificationHandlers
    (notifications : List (RoomId × List Json)) :
    Delivers hs (callNotificationHandlers client notifications) fun _ => [] := by
  apply Delivers.emit_of_not_call
  intro effect heffect
  exact isHandlerCall_of_mem_callNotificationHandlers client heffect

theorem getRoom_of_known {roomId : RoomId} (hknown : client.knowsRoom roomId = true) :
    SyncClient.getRoom client roomId = some roomId := by
  rw [SyncClient.getRoom_eq, if_pos hknown]

theorem delivers_handleJoinedRoom (hclient : Registers client hs) (roomId : RoomId)
    (room : JoinedRoom) (hknown : client.knowsRoom roomId = true)
    (hparses : forall occ, occ ∈ joinedOccurrences roomId room -> occ.Parses) :
    Delivers hs (handleJoinedRoom client roomId room) fun h =>
      callsFor h (joinedOccurrences roomId room) := by
  unfold handleJoinedRoom
  rw [getRoom_of_known hknown]
  simp only [joinedOccurrences, List.mem_append, List.mem_map] at hparses
  have haccount := delivers_plain hclient HandlerKind.roomAccountData
    Section.roomAccountData roomId room.accountData (fun _ => rfl)
    fun raw hraw => hparses _ (Or.inl ⟨raw, hraw, rfl⟩)
  have hstate := delivers_handleSyncStateEvents hclient roomId room.state
    fun raw hraw => hparses _ (Or.inr (Or.inl ⟨raw, hraw, rfl⟩))
  have htimeline := delivers_handleSyncTimelineEvents hclient roomId
    room.timeline.events
    fun item hitem => hparses _ (Or.inr (Or.inr (Or.inl ⟨item, hitem, rfl⟩)))
  have hephemeral := delivers_plain hclient HandlerKind.ephemeralRoomData
    Section.ephemeral roomId room.ephemeral (fun _ => rfl)
    fun raw hraw => hparses _ (Or.inr (Or.inr (Or.inr ⟨raw, hraw, rfl⟩)))
  apply ((delivers_notifySyncGapIf room.timeline.limited roomId).bind
    (haccount.bind (hstate.bind (htimeline.bind hephemeral)))).congr
  intro h
  simp only [joinedOccurrences, callsFor_append, List.nil_append]

theorem delivers_handleLeftRoom (hclient : Registers client hs) (roomId : RoomId)
    (room : LeftRoom) (hknown : client.knowsRoom roomId = true)
    (hparses : forall occ, occ ∈ leftOccurrences roomId room -> occ.Parses) :
    Delivers hs (handleLeftRoom client roomId room) fun h =>
      callsFor h (leftOccurrences roomId room) := by
  unfold handleLeftRoom
  rw [getRoom_of_known hknown]
  simp only [leftOccurrences, List.mem_append, List.mem_map] at hparses
  have haccount := delivers_plain hclient HandlerKind.roomAccountData
    Section.roomAccountData roomId room.accountData (fun _ => rfl)
    fun raw hraw => hparses _ (Or.inl ⟨raw, hraw, rfl⟩)
  have hstate := delivers_handleSyncStateEvents hclient roomId room.state
    fun raw hraw => hparses _ (Or.inr (Or.inl ⟨raw, hraw, rfl⟩))
  have htimeline := delivers_handleSyncTimelineEvents hclient roomId
    room.timeline.events
    fun item hitem => hparses _ (Or.inr (Or.inr ⟨item, hitem, rfl⟩))
  apply ((delivers_notifySyncGapIf room.timeline.limited roomId).bind
    (haccount.bind (hstate.bind htimeline))).congr
  intro h
  simp only [leftOccurrences, callsFor_append, List.nil_append]

theorem delivers_handleInvitedRoom (hclient : Registers client hs)
    (roomId : RoomId) (room : InvitedRoom)
    (hknown : client.knowsRoom roomId = true)
    (hparses : forall raw, raw ∈ room.inviteState ->
      exists type, ExtractType.deserialize raw = .ok type) :
    Delivers hs (handleInvitedRoom client roomId room) fun h =>
      callsFor h
        (room.inviteState.map (Occurrence.plain Section.strippedState roomId)) := by
  unfold handleInvitedRoom
  rw [getRoom_of_known hknown]
  exact delivers_plain hclient HandlerKind.strippedState Section.strippedState roomId
    room.inviteState (fun _ => rfl) hparses

theorem delivers_handleSyncResponse (hclient : Registers client hs)
    (response : BaseSyncResponse) (hknown : RoomsKnown client response)
    (hparses : forall occ, occ ∈ occurrences response -> occ.Parses) :
    Delivers hs (handleSyncResponse client response) fun h =>
      callsFor h (occurrences response) := by
  rcases hknown with ⟨hjoin, hleave, hinvite⟩
  simp only [occurrences, List.mem_append] at hparses
  have haccount := delivers_plain hclient HandlerKind.globalAccountData
    Section.globalAccountData none response.accountData (fun _ => rfl)
    fun raw hraw => hparses _ (Or.inl (List.mem_map_of_mem hraw))
  have hpresence := delivers_plain hclient HandlerKind.presence Section.presence none
    response.presence (fun _ => rfl)
    fun raw hraw => hparses _ (Or.inr (Or.inl (List.mem_map_of_mem hraw)))
  have htoDevice := delivers_plain hclient HandlerKind.toDevice Section.toDevice none
    response.toDeviceEvents (fun _ => rfl)
    fun raw hraw => hparses _ (Or.inr (Or.inr (Or.inl (List.mem_map_of_mem hraw))))
  have hjoined : Delivers hs (Traced.forEach response.rooms.join
      fun entry => handleJoinedRoom client entry.1 entry.2)
      fun h => response.rooms.join.flatMap fun entry =>
        callsFor h (joinedOccurrences entry.1 entry.2) := by
    apply Delivers.forEach
    intro entry hmem
    rcases entry with ⟨roomId, room⟩
    apply delivers_handleJoinedRoom hclient roomId room (hjoin _ hmem)
    intro occ hocc
    exact hparses occ (Or.inr (Or.inr (Or.inr (Or.inl
      (List.mem_flatMap.mpr ⟨_, hmem, hocc⟩)))))
  have hleft : Delivers hs (Traced.forEach response.rooms.leave
      fun entry => handleLeftRoom client entry.1 entry.2)
      fun h => response.rooms.leave.flatMap fun entry =>
        callsFor h (leftOccurrences entry.1 entry.2) := by
    apply Delivers.forEach
    intro entry hmem
    rcases entry with ⟨roomId, room⟩
    apply delivers_handleLeftRoom hclient roomId room (hleave _ hmem)
    intro occ hocc
    exact hparses occ (Or.inr (Or.inr (Or.inr (Or.inr (Or.inl
      (List.mem_flatMap.mpr ⟨_, hmem, hocc⟩))))))
  have hinvited : Delivers hs (Traced.forEach response.rooms.invite
      fun entry => handleInvitedRoom client entry.1 entry.2)
      fun h => response.rooms.invite.flatMap fun entry =>
        callsFor h (entry.2.inviteState.map
          (Occurrence.plain Section.strippedState entry.1)) := by
    apply Delivers.forEach
    intro entry hmem
    rcases entry with ⟨roomId, room⟩
    apply delivers_handleInvitedRoom hclient roomId room (hinvite _ hmem)
    intro raw hraw
    exact hparses _ (Or.inr (Or.inr (Or.inr (Or.inr (Or.inr
      (List.mem_flatMap.mpr ⟨_, hmem, List.mem_map_of_mem hraw⟩))))))
  apply (haccount.bind (hpresence.bind (htoDevice.bind (hjoined.bind
    (hleft.bind (hinvited.bind
      (delivers_callNotificationHandlers response.notifications))))))).congr
  intro h
  simp only [occurrences, callsFor_append, callsFor_flatMap, List.append_nil]

end Loops

def sampleResponse : BaseSyncResponse :=
  let event := fun eventType : String =>
    SyncTimelineEvent.mk (Json.obj [("type", Json.str eventType)]) none []
  let room := fun events =>
    JoinedRoom.mk { limited := false, events } [] [] []
  { BaseSyncResponse.empty with
    rooms :=
      { join :=
          [("!a:x", room [event "m.room.message", event "m.reaction"]),
            ("!b:x", room [event "m.room.message"])],
        leave := [], invite := [] } }

end Sync
end MatrixGoose
