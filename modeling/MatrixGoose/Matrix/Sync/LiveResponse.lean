import MatrixGoose.Matrix.EventHandler.OneShot
import MatrixGoose.Matrix.Sync.DispatchContract

/-!
# Processing a response while the handlers change

The calls of `call_event_handlers` that processing a response makes do not depend on the
handlers.  With handlers that stay the same they are what the dispatch contract is about.
When handlers come and go, a handler that is registered all the time still gets every event
that it wants.
-/

namespace MatrixGoose

open Foundation
open Foundation.Components

namespace Sync

open EventHandler

/-!
# The calls of a response
-/

/-- A client whose operations only leave the calls of `call_event_handlers`. -/
structure CallRecorder where
  knowsRoom : RoomId -> Bool

abbrev Calls := Traced Call SerdeError

instance : SyncClient CallRecorder Call where
  getRoom := fun recorder roomId => if recorder.knowsRoom roomId then some roomId else none
  callEventHandlers := fun _ room raw eventKind eventType encryptionInfo pushActions =>
    Traced.emit [{ room, raw, eventKind, eventType, encryptionInfo, pushActions }]
  notifySyncGap := fun _ _ => []
  callNotificationHandlers := fun _ _ => []

theorem SyncClient.getRoom_recorder (knowsRoom : RoomId -> Bool) (roomId : RoomId) :
    SyncClient.getRoom (CallRecorder.mk knowsRoom) roomId =
      if knowsRoom roomId then some roomId else none := rfl

def callsOfResponse (knowsRoom : RoomId -> Bool) (response : BaseSyncResponse) :
    Calls Unit :=
  handleSyncResponse (CallRecorder.mk knowsRoom) response

/-!
# With handlers that stay the same
-/

/-- The handler calls of the first computation are those of the calls of the second. -/
structure Expands (client : GooseMatrixClient Nat) {α : Type} (x : Dispatch Nat α)
    (y : Calls α) : Prop where
  result_eq : x.result = y.result
  calls_eq : x.trace.filter isHandlerCall = y.trace.flatMap fun call =>
    (client.callEventHandlers call.room call.raw call.eventKind call.eventType
      call.encryptionInfo call.pushActions).trace

namespace Expands

variable {client : GooseMatrixClient Nat} {α β : Type}

theorem bind {x : Dispatch Nat α} {y : Calls α} {f : α -> Dispatch Nat β}
    {g : α -> Calls β} (hx : Expands client x y)
    (hf : forall a, Expands client (f a) (g a)) : Expands client (x >>= f) (y >>= g) := by
  cases hresult : x.result with
  | error e =>
      have hy : y.result = .error e := hx.result_eq.symm.trans hresult
      rw [Traced.bind_of_error f hresult, Traced.bind_of_error g hy]
      exact ⟨rfl, hx.calls_eq⟩
  | ok a =>
      have hy : y.result = .ok a := hx.result_eq.symm.trans hresult
      rw [Traced.bind_of_ok f hresult, Traced.bind_of_ok g hy]
      refine ⟨(hf a).result_eq, ?_⟩
      rw [List.filter_append, List.flatMap_append, hx.calls_eq, (hf a).calls_eq]

theorem ofExcept (result : Except SerdeError α) :
    Expands client (Traced.ofExcept result) (Traced.ofExcept result) :=
  ⟨rfl, rfl⟩

theorem forEach {xs : List β} {body : β -> Dispatch Nat Unit} {body' : β -> Calls Unit}
    (hbody : forall x, Expands client (body x) (body' x)) :
    Expands client (Traced.forEach xs body) (Traced.forEach xs body') := by
  induction xs with
  | nil => exact ⟨rfl, rfl⟩
  | cons x rest ih => exact (hbody x).bind fun _ => ih

theorem emit_of_not_call {effects : List (Effect Nat)}
    (hnone : forall effect, effect ∈ effects -> isHandlerCall effect = false) :
    Expands client (Traced.emit effects) (Traced.emit []) where
  result_eq := rfl
  calls_eq := by
    show effects.filter isHandlerCall = []
    rw [List.filter_eq_nil_iff]
    intro effect hmem
    simp [hnone effect hmem]

end Expands

section Expansion

variable (client : GooseMatrixClient Nat)

theorem expands_callEventHandlers (room : Option RoomId) (raw : Json) (kind : HandlerKind)
    (type : String) (encryptionInfo : Option Json) (pushActions : List Json) :
    Expands client (client.callEventHandlers room raw kind type encryptionInfo pushActions)
      (SyncClient.callEventHandlers (CallRecorder.mk client.knowsRoom) room raw kind type
        encryptionInfo pushActions) where
  result_eq := rfl
  calls_eq := by
    show List.filter _ (List.map _ _) = List.flatMap _ [_]
    rw [List.flatMap_singleton, List.filter_eq_self.mpr]
    · rfl
    · intro effect hmem
      rcases List.mem_map.mp hmem with ⟨entry, _, rfl⟩
      rfl

theorem expands_handleSyncEvents (kind : HandlerKind) (room : Option RoomId)
    (events : List Json) :
    Expands client (handleSyncEvents client kind room events)
      (handleSyncEvents (CallRecorder.mk client.knowsRoom) kind room events) :=
  Expands.forEach fun _ => (Expands.ofExcept _).bind fun _ =>
    expands_callEventHandlers client _ _ _ _ _ _

theorem expands_handleSyncStateEvents (room : Option RoomId) (events : List Json) :
    Expands client (handleSyncStateEvents client room events)
      (handleSyncStateEvents (CallRecorder.mk client.knowsRoom) room events) :=
  (expands_handleSyncEvents client _ _ _).bind fun _ =>
    Expands.forEach fun _ => (Expands.ofExcept _).bind fun _ =>
      expands_callEventHandlers client _ _ _ _ _ _

theorem expands_handleSyncTimelineEvents (room : Option RoomId)
    (events : List SyncTimelineEvent) :
    Expands client (handleSyncTimelineEvents client room events)
      (handleSyncTimelineEvents (CallRecorder.mk client.knowsRoom) room events) :=
  Expands.forEach fun _ => (Expands.ofExcept _).bind fun _ =>
    (expands_callEventHandlers client _ _ _ _ _ _).bind fun _ =>
      (expands_callEventHandlers client _ _ _ _ _ _).bind fun _ =>
        expands_callEventHandlers client _ _ _ _ _ _

theorem expands_notifySyncGapIf (limited : Bool) (roomId : RoomId) :
    Expands client (notifySyncGapIf client limited roomId)
      (notifySyncGapIf (CallRecorder.mk client.knowsRoom) limited roomId) := by
  cases limited with
  | false => exact ⟨rfl, rfl⟩
  | true =>
      apply Expands.emit_of_not_call
      intro effect hmem
      rw [List.mem_singleton.mp hmem]
      rfl

theorem expands_handleJoinedRoom (roomId : RoomId) (roomInfo : JoinedRoom) :
    Expands client (handleJoinedRoom client roomId roomInfo)
      (handleJoinedRoom (CallRecorder.mk client.knowsRoom) roomId roomInfo) := by
  refine (expands_notifySyncGapIf client _ _).bind fun _ => ?_
  rw [SyncClient.getRoom_eq, SyncClient.getRoom_recorder]
  cases client.knowsRoom roomId with
  | false => exact ⟨rfl, rfl⟩
  | true =>
      exact (expands_handleSyncEvents client _ _ _).bind fun _ =>
        (expands_handleSyncStateEvents client _ _).bind fun _ =>
          (expands_handleSyncTimelineEvents client _ _).bind fun _ =>
            expands_handleSyncEvents client _ _ _

theorem expands_handleLeftRoom (roomId : RoomId) (roomInfo : LeftRoom) :
    Expands client (handleLeftRoom client roomId roomInfo)
      (handleLeftRoom (CallRecorder.mk client.knowsRoom) roomId roomInfo) := by
  refine (expands_notifySyncGapIf client _ _).bind fun _ => ?_
  rw [SyncClient.getRoom_eq, SyncClient.getRoom_recorder]
  cases client.knowsRoom roomId with
  | false => exact ⟨rfl, rfl⟩
  | true =>
      exact (expands_handleSyncEvents client _ _ _).bind fun _ =>
        (expands_handleSyncStateEvents client _ _).bind fun _ =>
          expands_handleSyncTimelineEvents client _ _

theorem expands_handleInvitedRoom (roomId : RoomId) (roomInfo : InvitedRoom) :
    Expands client (handleInvitedRoom client roomId roomInfo)
      (handleInvitedRoom (CallRecorder.mk client.knowsRoom) roomId roomInfo) := by
  unfold handleInvitedRoom
  rw [SyncClient.getRoom_eq, SyncClient.getRoom_recorder]
  cases client.knowsRoom roomId with
  | false => exact ⟨rfl, rfl⟩
  | true => exact expands_handleSyncEvents client _ _ _

theorem expands_callNotificationHandlers (notifications : List (RoomId × List Json)) :
    Expands client (callNotificationHandlers client notifications)
      (callNotificationHandlers (CallRecorder.mk client.knowsRoom) notifications) :=
  Expands.emit_of_not_call fun _ hmem =>
    isHandlerCall_of_mem_callNotificationHandlers client hmem

/-- Processing a response makes the handler calls of its calls. -/
theorem expands_handleSyncResponse (response : BaseSyncResponse) :
    Expands client (handleSyncResponse client response)
      (callsOfResponse client.knowsRoom response) :=
  (expands_handleSyncEvents client _ _ _).bind fun _ =>
    (expands_handleSyncEvents client _ _ _).bind fun _ =>
      (expands_handleSyncEvents client _ _ _).bind fun _ =>
        (Expands.forEach fun _ => expands_handleJoinedRoom client _ _).bind fun _ =>
          (Expands.forEach fun _ => expands_handleLeftRoom client _ _).bind fun _ =>
            (Expands.forEach fun _ => expands_handleInvitedRoom client _ _).bind fun _ =>
              expands_callNotificationHandlers client _

end Expansion

/-!
# The calls that a handler wants
-/

section Wanted

theorem filter_label_eq {α β : Type} [DecidableEq β] {label : α -> β} {l : List α} {a : α}
    (hnodup : (l.map label).Nodup) (hmem : a ∈ l) :
    l.filter (fun b => label b = label a) = [a] := by
  induction l with
  | nil => cases hmem
  | cons b rest ih =>
      rw [List.map_cons, List.nodup_cons] at hnodup
      rcases List.mem_cons.mp hmem with hhead | htail
      · subst hhead
        rw [List.filter_cons_of_pos (by simp), List.filter_eq_nil_iff.mpr]
        intro c hc hlabel
        exact hnodup.1 (List.mem_map.mpr ⟨c, hc, of_decide_eq_true hlabel⟩)
      · rw [List.filter_cons_of_neg, ih hnodup.2 htail]
        intro hlabel
        exact hnodup.1 (List.mem_map.mpr ⟨a, htail, (of_decide_eq_true hlabel).symm⟩)

variable {hs : List (Registration Nat)} {h : Registration Nat}

theorem filter_wanted (hnodup : (hs.map Registration.id).Nodup) (hmem : h ∈ hs)
    (call : Call) :
    ((call.wanted hs).filter fun entry => entry.2.handle.handlerId = h.id) =
      if h.Matches call.eventKind call.eventType call.room then
        [(h.handlerFn, call.data (h.calledWith call.room))]
      else [] := by
  have hlookup : (lookup hs call.eventKind call.eventType call.room).filter
      (fun g => g.id = h.id) =
      if h.Matches call.eventKind call.eventType call.room then [h] else [] := by
    split
    · next hmatches =>
        exact filter_label_eq (Ledger.nodup_map_lookup_of_nodup hnodup _ _ _)
          (mem_lookup.mpr ⟨hmem, hmatches⟩)
    · next hnot =>
        rw [List.filter_eq_nil_iff]
        intro g hg hid
        rcases mem_lookup.mp hg with ⟨hgmem, hgmatches⟩
        have hgh : g = h :=
          List.inj_on_of_nodup_map hnodup hgmem hmem (of_decide_eq_true hid)
        exact hnot (hgh ▸ hgmatches)
  unfold Call.wanted
  rw [List.filter_map]
  show List.map _ (List.filter (fun g : Registration Nat => g.id = h.id) _) = _
  rw [hlookup]
  split <;> rfl

def dataOn (h : Registration Nat) (occ : Occurrence) : EventHandlerData where
  room := occ.room
  raw := occ.raw
  encryptionInfo := occ.encryptionInfo
  pushActions := occ.pushActions
  handle := h.calledWith occ.room

def onlyHandler (knowsRoom : RoomId -> Bool) (h : Registration Nat) :
    GooseMatrixClient Nat where
  eventHandlers :=
    { handlers := EventHandlerMaps.empty.add h.handle h.handlerFn, counter := 0 }
  notificationHandlers := []
  knowsRoom := knowsRoom

theorem registers_onlyHandler (knowsRoom : RoomId -> Bool) (h : Registration Nat) :
    Registers (onlyHandler knowsRoom h) [h] where
  represents := EventHandlerMaps.represents_add EventHandlerMaps.represents_empty _ _
  increasing := List.pairwise_singleton _ _

theorem trace_onlyHandler (knowsRoom : RoomId -> Bool) (h : Registration Nat) (call : Call) :
    ((onlyHandler knowsRoom h).callEventHandlers call.room call.raw call.eventKind
        call.eventType call.encryptionInfo call.pushActions).trace =
      if h.Matches call.eventKind call.eventType call.room then
        [Effect.callEventHandler h.handlerFn (call.data (h.calledWith call.room))]
      else [] := by
  have hwanted : call.wanted [h] =
      if h.Matches call.eventKind call.eventType call.room then
        [(h.handlerFn, call.data (h.calledWith call.room))]
      else [] := by
    have hnodup : ([h].map Registration.id).Nodup := List.nodup_singleton _
    rw [← filter_wanted hnodup (List.mem_singleton_self h) call]
    symm
    rw [List.filter_eq_self]
    intro entry hentry
    rcases List.mem_map.mp hentry with ⟨g, hg, rfl⟩
    rw [List.mem_singleton.mp (mem_lookup.mp hg).1]
    exact decide_eq_true rfl
  rw [trace_callEventHandlers (registers_onlyHandler knowsRoom h).represents, hwanted]
  split <;> rfl

theorem calls_wanted {knowsRoom : RoomId -> Bool} {response : BaseSyncResponse}
    (hknown : RoomsKnown (onlyHandler knowsRoom h) response)
    (hparses : forall occ, occ ∈ occurrences response -> occ.Parses) :
    ((callsOfResponse knowsRoom response).trace.flatMap fun call =>
      if h.Matches call.eventKind call.eventType call.room then
        [(h.handlerFn, call.data (h.calledWith call.room))]
      else []) =
      ((occurrences response).filter fun occ => Wants h occ).map fun occ =>
        (h.handlerFn, dataOn h occ) := by
  have hdelivers := (delivers_handleSyncResponse (registers_onlyHandler knowsRoom h) response
    hknown hparses).calls_eq h (List.mem_singleton_self h)
  have hexpands := (expands_handleSyncResponse (onlyHandler knowsRoom h) response).calls_eq
  have hcalls : (handleSyncResponse (onlyHandler knowsRoom h) response).trace.filter
      (isCallOf h) =
      ((handleSyncResponse (onlyHandler knowsRoom h) response).trace.filter
        isHandlerCall).filter (isCallOf h) := by
    rw [List.filter_filter]
    apply List.filter_congr
    intro effect _
    cases effect <;> simp [isCallOf, isHandlerCall]
  have hinjective : Function.Injective fun entry : Nat × EventHandlerData =>
      Effect.callEventHandler entry.1 entry.2 := by
    intro a b hab
    rcases a with ⟨handlerFn, data⟩
    rcases b with ⟨handlerFn', data'⟩
    simp only [Effect.callEventHandler.injEq] at hab
    exact Prod.ext hab.1 hab.2
  apply List.map_injective_iff.mpr hinjective
  rw [List.map_flatMap, List.map_map]
  refine Eq.trans ?_ hdelivers
  rw [hcalls, hexpands, List.filter_flatMap]
  apply List.flatMap_congr
  intro call _
  rw [trace_onlyHandler]
  split
  · simp [isCallOf]
  · rfl

end Wanted

/-!
# Handlers that stay
-/

section Live

variable {T Ev : Type} {Value : T -> Type} [DecidableEq T]
variable {handlers : Nat -> HandlerArgs T Ev}

/-- A task has processed a response between two worlds: it made the calls of the response,
and was between two calls before and after. -/
structure Processed (knowsRoom : RoomId -> Bool) (response : BaseSyncResponse) (i : Nat)
    (w w' : LiveWorld Nat Ev Value) (entries : List (LiveEntry Nat Ev Value)) : Prop where
  idle : w.memory i = LivePhase.idle
  idle' : w'.memory i = LivePhase.idle
  log_eq : w'.shared.log = w.shared.log ++ entries
  calls_eq : (callsFrom i (registrations w.shared.log) entries).map Prod.fst =
    (callsOfResponse knowsRoom response).trace

def StaysRegistered (h : Registration Nat) (i : Nat) (w : LiveWorld Nat Ev Value)
    (entries : List (LiveEntry Nat Ev Value)) : Prop :=
  forall call hs, (call, hs) ∈ callsFrom i (registrations w.shared.log) entries -> h ∈ hs

theorem settled_of_idle {w : LiveWorld Nat Ev Value} {i : Nat}
    (hw : (liveDispatch handlers).system.Reachable w) (hidle : w.memory i = LivePhase.idle) :
    Settled i w.shared.log := by
  have hphase := (liveInvariant_reachable hw).phases i
  rw [hidle] at hphase
  exact hphase

/-- While a response is processed, handlers may be added and removed by other handlers and
other tasks.  A handler that stays registered gets a future for each occurrence that it
wants, once and in the order of the response. -/
theorem response_reaches_handler {w w' : LiveWorld Nat Ev Value}
    (hw : (liveDispatch handlers).system.Reachable w)
    (hw' : (liveDispatch handlers).system.Reachable w')
    {knowsRoom : RoomId -> Bool} {response : BaseSyncResponse} {i : Nat}
    {entries : List (LiveEntry Nat Ev Value)}
    (hprocessed : Processed knowsRoom response i w w' entries)
    (hdrawn : (drawnIds w'.shared.log).length <= counterBound)
    {h : Registration Nat} (hstays : StaysRegistered h i w entries)
    (hknown : RoomsKnown (onlyHandler knowsRoom h) response)
    (hparses : forall occ, occ ∈ occurrences response -> occ.Parses) :
    ((createdBy i entries).map CreatedFuture.called).filter
        (fun called => called.2.handle.handlerId = h.id) =
      ((occurrences response).filter fun occ => Wants h occ).map fun occ =>
        (h.handlerFn, dataOn h occ) := by
  have hsettled := settled_of_idle hw hprocessed.idle
  have hsettled' := settled_of_idle hw' hprocessed.idle'
  have hnodup := (idsDrawn_reachable hw').nodup hdrawn
  rw [hprocessed.log_eq] at hsettled' hnodup
  rw [hsettled.created_between hsettled', List.filter_flatMap,
    ← calls_wanted hknown hparses, ← hprocessed.calls_eq, List.flatMap_map]
  apply List.flatMap_congr
  intro entry hmem
  rcases entry with ⟨call, hs⟩
  have hids : (hs.map Registration.id).Nodup := by
    rcases mem_callsFrom hmem with ⟨before, after, hentries, hhs⟩
    have hsub : (registeredIds (w.shared.log ++ before)).Sublist
        (addedIds (w.shared.log ++ before)) := registeredIds_sublist _
    rw [hentries, ← List.append_assoc, addedIds_append, List.nodup_append'] at hnodup
    have hhere := hnodup.1.sublist hsub
    rw [hhs]
    unfold registeredIds registrations at hhere
    rwa [List.foldl_append] at hhere
  exact filter_wanted hids (hstays call hs hmem) call

end Live

/-!
# A message

The handler with id 1 removes itself while the message is processed; the one with id 0
stays.
-/

section Message

def plainArgs (_ : Nat) : HandlerArgs Unit Json where
  deserialize := some
  context := []

def message : Json :=
  Json.obj [("type", Json.str "m.room.message")]

def messageResponse : BaseSyncResponse :=
  { BaseSyncResponse.empty with
    rooms :=
      { join :=
          [("!room",
            { timeline := { limited := false, events := [⟨message, none, []⟩] }
              state := [], accountData := [], ephemeral := [] })]
        leave := [], invite := [] } }

def messageCall (eventKind : HandlerKind) : Call where
  room := some "!room"
  raw := message
  eventKind := eventKind
  eventType := "m.room.message"
  encryptionInfo := none
  pushActions := []

def stayingHandler : Registration Nat where
  handle :=
    { evKind := HandlerKind.originalMessageLike, evType := some "m.room.message",
      roomId := none, handlerId := 0 }
  handlerFn := 0

def leavingHandler : Registration Nat where
  handle :=
    { evKind := HandlerKind.messageLike, evType := none, roomId := none, handlerId := 1 }
  handlerFn := 1

abbrev MessageEvent :=
  Event Nat (ClientOp Nat (fun _ : Unit => Nat)) LiveAction

def registerEvents : List MessageEvent :=
  [Event.environment
      (ClientOp.fetchAdd HandlerKind.originalMessageLike (some "m.room.message") 0 none),
    Event.environment (ClientOp.addHandler 0),
    Event.environment (ClientOp.fetchAdd HandlerKind.messageLike none 1 none),
    Event.environment (ClientOp.addHandler 0)]

def messageEvents : List MessageEvent :=
  ([LiveAction.call (messageCall HandlerKind.messageLike), LiveAction.collect,
      LiveAction.collect].map fun a => Event.component 0 a) ++
    [Event.environment (ClientOp.removeHandler leavingHandler.handle)] ++
    [LiveAction.finish 0, LiveAction.return,
      LiveAction.call (messageCall HandlerKind.originalMessageLike), LiveAction.collect,
      LiveAction.collect, LiveAction.finish 0, LiveAction.return,
      LiveAction.call (messageCall HandlerKind.timeline), LiveAction.collect,
      LiveAction.return].map fun a => Event.component 0 a

abbrev messageSystem : TransitionSystem (LiveWorld Nat Json (fun _ : Unit => Nat))
    MessageEvent :=
  (liveDispatch plainArgs).system

theorem response_reaches_handler_message :
    exists w w', messageSystem.run registerEvents = some w ∧
      messageSystem.run (registerEvents ++ messageEvents) = some w' ∧
      ((createdBy 0 (w'.shared.log.drop w.shared.log.length)).map
          CreatedFuture.called).filter (fun called => called.2.handle.handlerId = 0) =
        ((occurrences messageResponse).filter fun occ => Wants stayingHandler occ).map
          fun occ => (0, dataOn stayingHandler occ) := by
  have hrun : exists w w', messageSystem.run registerEvents = some w ∧
      messageSystem.run (registerEvents ++ messageEvents) = some w' ∧
      Processed (fun _ => true) messageResponse 0 w w'
        (w'.shared.log.drop w.shared.log.length) ∧
      callsFrom 0 (registrations w.shared.log) (w'.shared.log.drop w.shared.log.length) =
        [(messageCall HandlerKind.messageLike, [stayingHandler, leavingHandler]),
          (messageCall HandlerKind.originalMessageLike, [stayingHandler]),
          (messageCall HandlerKind.timeline, [stayingHandler])] ∧
      (drawnIds w'.shared.log).length = 2 :=
    ⟨_, _, rfl, rfl, ⟨rfl, rfl, rfl, rfl⟩, rfl, rfl⟩
  rcases hrun with ⟨w, w', hw, hw', hprocessed, hcalls, hdrawn⟩
  refine ⟨w, w', hw, hw', ?_⟩
  refine response_reaches_handler (h := stayingHandler) ⟨_, hw⟩ ⟨_, hw'⟩ hprocessed ?_ ?_ ?_ ?_
  · rw [hdrawn]
    decide
  · intro call hs hmem
    rw [hcalls] at hmem
    simp only [List.mem_cons, Prod.mk.injEq, List.not_mem_nil, or_false] at hmem
    rcases hmem with ⟨_, rfl⟩ | ⟨_, rfl⟩ | ⟨_, rfl⟩ <;> simp
  · exact ⟨fun _ _ => rfl, fun _ _ => rfl, fun _ _ => rfl⟩
  · intro occ hocc
    have heq : occ = Occurrence.ofTimeline (some "!room") ⟨message, none, []⟩ :=
      List.mem_singleton.mp hocc
    rw [heq]
    exact ⟨{ eventType := "m.room.message", stateKey := none, unsigned := none }, rfl⟩

end Message

end Sync
end MatrixGoose
