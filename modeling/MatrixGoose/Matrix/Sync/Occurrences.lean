import MatrixGoose.Matrix.Sync.Response

/-!
# Occurrences and calls

An occurrence is an event in a section of a response.  Each occurrence is covered
by a few handler kinds, which depend on the section and on the details of the
event.  A handler wants an occurrence that its kind covers and its type and room
admit.
-/

namespace MatrixGoose

open Foundation

namespace Sync

open EventHandler

inductive Section
  | globalAccountData
  | presence
  | toDevice
  | roomAccountData
  | state
  | timeline
  | ephemeral
  | strippedState
deriving DecidableEq, Repr

structure Occurrence where
  source : Section
  room : Option RoomId
  raw : Json
  encryptionInfo : Option Json
  pushActions : List Json

namespace Occurrence

def plain (source : Section) (room : Option RoomId) (raw : Json) : Occurrence where
  source := source
  room := room
  raw := raw
  encryptionInfo := none
  pushActions := []

def ofTimeline (room : Option RoomId) (item : SyncTimelineEvent) : Occurrence where
  source := Section.timeline
  room := room
  raw := item.event
  encryptionInfo := item.encryptionInfo
  pushActions := item.pushActions

def kinds (occ : Occurrence) : List HandlerKind :=
  match occ.source with
  | Section.globalAccountData => [HandlerKind.globalAccountData]
  | Section.presence => [HandlerKind.presence]
  | Section.toDevice => [HandlerKind.toDevice]
  | Section.roomAccountData => [HandlerKind.roomAccountData]
  | Section.ephemeral => [HandlerKind.ephemeralRoomData]
  | Section.strippedState => [HandlerKind.strippedState]
  | Section.state =>
      match StateEventDetails.deserialize occ.raw with
      | .error _ => [HandlerKind.state]
      | .ok details =>
          [HandlerKind.state,
            if details.redacted then HandlerKind.redactedState
            else HandlerKind.originalState]
  | Section.timeline =>
      match TimelineEventDetails.deserialize occ.raw with
      | .error _ => []
      | .ok details =>
          match details.stateKey with
          | some _ =>
              [HandlerKind.state,
                if details.redacted then HandlerKind.redactedState
                else HandlerKind.originalState,
                HandlerKind.timeline]
          | none =>
              [HandlerKind.messageLike,
                if details.redacted then HandlerKind.redactedMessageLike
                else HandlerKind.originalMessageLike,
                HandlerKind.timeline]

/-- The event parses to the details that its section's loop reads. -/
def Parses (occ : Occurrence) : Prop :=
  match occ.source with
  | Section.state =>
      (exists type, ExtractType.deserialize occ.raw = .ok type) ∧
        exists details, StateEventDetails.deserialize occ.raw = .ok details
  | Section.timeline =>
      exists details, TimelineEventDetails.deserialize occ.raw = .ok details
  | _ => exists type, ExtractType.deserialize occ.raw = .ok type

end Occurrence

def joinedOccurrences (roomId : RoomId) (room : JoinedRoom) : List Occurrence :=
  room.accountData.map (Occurrence.plain Section.roomAccountData roomId) ++
    (room.state.map (Occurrence.plain Section.state roomId) ++
      (room.timeline.events.map (Occurrence.ofTimeline roomId) ++
        room.ephemeral.map (Occurrence.plain Section.ephemeral roomId)))

def leftOccurrences (roomId : RoomId) (room : LeftRoom) : List Occurrence :=
  room.accountData.map (Occurrence.plain Section.roomAccountData roomId) ++
    (room.state.map (Occurrence.plain Section.state roomId) ++
      room.timeline.events.map (Occurrence.ofTimeline roomId))

/-- All occurrences of a response, in the order the sections are walked. -/
def occurrences (response : BaseSyncResponse) : List Occurrence :=
  response.accountData.map (Occurrence.plain Section.globalAccountData none) ++
    (response.presence.map (Occurrence.plain Section.presence none) ++
      (response.toDeviceEvents.map (Occurrence.plain Section.toDevice none) ++
        (response.rooms.join.flatMap (fun (roomId, room) =>
            joinedOccurrences roomId room) ++
          (response.rooms.leave.flatMap (fun (roomId, room) =>
              leftOccurrences roomId room) ++
            response.rooms.invite.flatMap fun (roomId, room) =>
              room.inviteState.map
                (Occurrence.plain Section.strippedState roomId)))))

def RoomsKnown (client : GooseMatrixClient Nat)
    (response : BaseSyncResponse) : Prop :=
  (forall entry, entry ∈ response.rooms.join -> client.knowsRoom entry.1) ∧
    (forall entry, entry ∈ response.rooms.leave -> client.knowsRoom entry.1) ∧
    (forall entry, entry ∈ response.rooms.invite -> client.knowsRoom entry.1)

/-!
# Calls

Handlers are named by the number of their registration.
-/

/-- The handler's kind covers the occurrence, and its type and room, when set,
are those of the occurrence. -/
def Wants (h : Registration Nat) (occ : Occurrence) : Prop :=
  h.handle.evKind ∈ occ.kinds ∧
    (h.handle.evType = none ∨ h.handle.evType = eventTypeOf occ.raw) ∧
    (h.handle.roomId = none ∨ h.handle.roomId = occ.room)

instance (h : Registration Nat) (occ : Occurrence) : Decidable (Wants h occ) :=
  inferInstanceAs (Decidable (_ ∧ (_ ∨ _) ∧ (_ ∨ _)))

def callOn (h : Registration Nat) (occ : Occurrence) : Effect Nat :=
  Effect.callEventHandler h.handlerFn
    { room := occ.room, raw := occ.raw, encryptionInfo := occ.encryptionInfo,
      pushActions := occ.pushActions, handle := h.calledWith occ.room }

def isCallOf (h : Registration Nat) : Effect Nat -> Bool
  | Effect.callEventHandler handlerFn _ => handlerFn == h.handlerFn
  | _ => false

def isHandlerCall : Effect Nat -> Bool
  | Effect.callEventHandler .. => true
  | _ => false

def callsUnder (h : Registration Nat) (kind : HandlerKind) (occ : Occurrence) :
    List (Effect Nat) :=
  if h.handle.evKind = kind ∧
      (h.handle.evType = none ∨ h.handle.evType = eventTypeOf occ.raw) ∧
      (h.handle.roomId = none ∨ h.handle.roomId = occ.room) then
    [callOn h occ]
  else []

def callsFor (h : Registration Nat) (occs : List Occurrence) : List (Effect Nat) :=
  (occs.filter fun occ => Wants h occ).map (callOn h)

theorem callsFor_append (h : Registration Nat) (first second : List Occurrence) :
    callsFor h (first ++ second) = callsFor h first ++ callsFor h second := by
  simp [callsFor]

theorem callsFor_flatMap {α : Type} (h : Registration Nat) (xs : List α)
    (f : α -> List Occurrence) :
    callsFor h (xs.flatMap f) = xs.flatMap fun x => callsFor h (f x) := by
  induction xs with
  | nil => rfl
  | cons x rest ih =>
      rw [List.flatMap_cons, callsFor_append, ih, List.flatMap_cons]

theorem callsFor_map {α : Type} (h : Registration Nat) (xs : List α)
    (f : α -> Occurrence) :
    callsFor h (xs.map f) = xs.flatMap fun x => callsFor h [f x] := by
  induction xs with
  | nil => rfl
  | cons x rest ih =>
      rw [List.map_cons, ← List.singleton_append, callsFor_append, ih,
        List.flatMap_cons]

theorem callsUnder_of_ne {h : Registration Nat} {kind : HandlerKind}
    (hne : h.handle.evKind ≠ kind) (occ : Occurrence) :
    callsUnder h kind occ = [] := by
  rw [callsUnder, if_neg]
  intro hall
  exact hne hall.1

/-- A handler has one kind, so at most one of the kinds that cover an occurrence
calls it. -/
theorem flatMap_callsUnder_kinds (h : Registration Nat) (occ : Occurrence)
    (hnodup : occ.kinds.Nodup) :
    (occ.kinds.flatMap fun kind => callsUnder h kind occ) = callsFor h [occ] := by
  have hgeneral : forall kinds : List HandlerKind, kinds.Nodup ->
      (kinds.flatMap fun kind => callsUnder h kind occ) =
        if h.handle.evKind ∈ kinds then callsUnder h h.handle.evKind occ else [] := by
    intro kinds
    induction kinds with
    | nil =>
        intro _
        rfl
    | cons kind rest ih =>
        intro hnodup
        rw [List.nodup_cons] at hnodup
        rw [List.flatMap_cons, ih hnodup.2]
        by_cases hkind : h.handle.evKind = kind
        · subst hkind
          simp [hnodup.1]
        · rw [callsUnder_of_ne hkind, List.nil_append]
          simp [hkind]
  rw [hgeneral occ.kinds hnodup]
  by_cases hmem : h.handle.evKind ∈ occ.kinds
  · simp only [callsUnder, callsFor, Wants, hmem, if_true, true_and,
      List.filter_cons, List.filter_nil]
    split <;> simp_all
  · simp [callsFor, Wants, hmem]

theorem nodup_kinds (occ : Occurrence) : occ.kinds.Nodup := by
  unfold Occurrence.kinds
  split <;> try simp
  · split
    · simp
    · split <;> simp
  · split
    · simp
    · split <;> split <;> simp

end Sync
end MatrixGoose
