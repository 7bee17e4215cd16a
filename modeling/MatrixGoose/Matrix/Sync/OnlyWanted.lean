import MatrixGoose.Matrix.Sync.Occurrences

/-!
# No other calls

Whether or not processing a response succeeds, every call is made by a registered
handler on an occurrence it wants.
-/

namespace MatrixGoose

open Foundation

namespace Sync

open EventHandler

def Within {α : Type} (hs : List (Registration Nat)) (x : Dispatch Nat α)
    (occs : List Occurrence) : Prop :=
  forall effect, effect ∈ x.trace -> isHandlerCall effect = true ->
    exists h occ, h ∈ hs ∧ occ ∈ occs ∧ Wants h occ ∧ effect = callOn h occ

namespace Within

variable {α : Type} {hs : List (Registration Nat)} {occs : List Occurrence}

theorem mono {x : Dispatch Nat α} {occs' : List Occurrence} (hx : Within hs x occs)
    (hsubset : occs ⊆ occs') : Within hs x occs' := by
  intro effect heffect hcall
  rcases hx effect heffect hcall with ⟨h, occ, hh, hocc, hrest⟩
  exact ⟨h, occ, hh, hsubset hocc, hrest⟩

theorem bind {β : Type} {x : Dispatch Nat α} {f : α -> Dispatch Nat β}
    (hx : Within hs x occs)
    (hf : forall a, x.result = .ok a -> Within hs (f a) occs) :
    Within hs (x >>= f) occs := by
  intro effect heffect hcall
  cases hresult : x.result with
  | error e =>
      rw [Traced.bind_of_error f hresult] at heffect
      exact hx effect heffect hcall
  | ok a =>
      rw [Traced.trace_bind_of_ok f hresult] at heffect
      rcases List.mem_append.mp heffect with hleft | hright
      · exact hx effect hleft hcall
      · exact hf a hresult effect hright hcall

theorem forEach {xs : List α} {body : α -> Dispatch Nat Unit}
    (hbody : forall x, x ∈ xs -> Within hs (body x) occs) :
    Within hs (Traced.forEach xs body) occs := by
  intro effect heffect hcall
  rcases Traced.mem_trace_forEach heffect with ⟨x, hx, htrace⟩
  exact hbody x hx effect htrace hcall

theorem ofExcept (result : Except SerdeError α) :
    Within hs (Traced.ofExcept result) occs := by
  intro effect heffect
  cases heffect

theorem done (a : α) : Within hs (Pure.pure a) occs :=
  ofExcept (Except.ok a)

theorem emit_of_not_call {effects : List (Effect Nat)}
    (hnone : forall effect, effect ∈ effects -> isHandlerCall effect = false) :
    Within hs (Traced.emit effects) occs := by
  intro effect heffect hcall
  rw [hnone effect heffect] at hcall
  cases hcall

end Within

section Calls

variable {client : GooseMatrixClient Nat} {hs : List (Registration Nat)}
  {occs : List Occurrence}

theorem within_callEventHandlers
    (hclient : client.eventHandlers.handlers.Represents hs) (occ : Occurrence)
    {kind : HandlerKind} {type : String} (hocc : occ ∈ occs)
    (hkind : kind ∈ occ.kinds) (htype : eventTypeOf occ.raw = some type) :
    Within hs (client.callEventHandlers occ.room occ.raw kind type
      occ.encryptionInfo occ.pushActions) occs := by
  intro effect heffect _
  rcases List.mem_map.mp heffect with ⟨⟨handle, handlerFn⟩, hyield, heq⟩
  rw [EventHandlerMaps.getHandlers_of_represents hclient] at hyield
  rcases List.mem_map.mp hyield with ⟨h, hlookup, hpair⟩
  rcases mem_lookup.mp hlookup with ⟨hmem, hmatchKind, hmatchType, hmatchRoom⟩
  cases hpair
  refine ⟨h, occ, hmem, hocc, ⟨?_, ?_, hmatchRoom⟩, heq.symm⟩
  · rw [hmatchKind]
    exact hkind
  · rw [htype]
    exact hmatchType

theorem within_handleSyncEvents
    (hclient : client.eventHandlers.handlers.Represents hs) (kind : HandlerKind)
    (source : Section) (room : Option RoomId) (events : List Json)
    (hkind : forall raw, kind ∈ (Occurrence.plain source room raw).kinds)
    (hoccs : events.map (Occurrence.plain source room) ⊆ occs) :
    Within hs (handleSyncEvents client kind room events) occs := by
  apply Within.forEach
  intro raw hraw
  apply Within.bind (Within.ofExcept _)
  intro type htype
  exact within_callEventHandlers hclient (Occurrence.plain source room raw)
    (hoccs (List.mem_map_of_mem hraw)) (hkind raw) (eventTypeOf_of_extractType htype)

theorem within_handleSyncStateEvents
    (hclient : client.eventHandlers.handlers.Represents hs) (room : Option RoomId)
    (events : List Json)
    (hoccs : events.map (Occurrence.plain Section.state room) ⊆ occs) :
    Within hs (handleSyncStateEvents client room events) occs := by
  apply Within.bind
  · apply within_handleSyncEvents hclient _ Section.state room events _ hoccs
    intro raw
    unfold Occurrence.kinds
    dsimp only [Occurrence.plain]
    split <;> simp
  · intro _ _
    apply Within.forEach
    intro raw hraw
    apply Within.bind (Within.ofExcept _)
    intro details hdetails
    have hok : StateEventDetails.deserialize raw = .ok details := hdetails
    apply within_callEventHandlers hclient
      (Occurrence.plain Section.state room raw)
      (hoccs (List.mem_map_of_mem hraw)) _ (eventTypeOf_of_stateEventDetails hok)
    simp [Occurrence.kinds, Occurrence.plain, hok, HandlerKind.stateRedacted]

theorem within_handleSyncTimelineEvents
    (hclient : client.eventHandlers.handlers.Represents hs) (room : Option RoomId)
    (events : List SyncTimelineEvent)
    (hoccs : events.map (Occurrence.ofTimeline room) ⊆ occs) :
    Within hs (handleSyncTimelineEvents client room events) occs := by
  apply Within.forEach
  intro item hitem
  apply Within.bind (Within.ofExcept _)
  intro details hdetails
  have hok : TimelineEventDetails.deserialize item.event = .ok details := hdetails
  have hkinds : (Occurrence.ofTimeline room item).kinds =
      [(timelineKinds details).1,
        (timelineKinds details).2, HandlerKind.timeline] := by
    simp only [Occurrence.kinds, Occurrence.ofTimeline, hok,
      timelineKinds]
    cases details.stateKey <;> rfl
  have hcall : forall kind, kind ∈ (Occurrence.ofTimeline room item).kinds ->
      Within hs (client.callEventHandlers room item.event kind details.eventType
        item.encryptionInfo item.pushActions) occs := by
    intro kind hkind
    exact within_callEventHandlers hclient (Occurrence.ofTimeline room item)
      (hoccs (List.mem_map_of_mem hitem)) hkind
      (eventTypeOf_of_timelineEventDetails hok)
  have hkindG : (timelineKinds details).1 ∈
      (Occurrence.ofTimeline room item).kinds := by
    simp [hkinds]
  have hkindR : (timelineKinds details).2 ∈
      (Occurrence.ofTimeline room item).kinds := by
    simp [hkinds]
  apply Within.bind (hcall (timelineKinds details).1 hkindG)
  intro _ _
  apply Within.bind (hcall (timelineKinds details).2 hkindR)
  intro _ _
  exact hcall HandlerKind.timeline (by simp [hkinds])

theorem within_notifySyncGapIf (limited : Bool) (roomId : RoomId) :
    Within hs (notifySyncGapIf client limited roomId) occs := by
  apply Within.emit_of_not_call
  intro effect heffect
  cases limited with
  | false => cases heffect
  | true =>
      rw [List.mem_singleton.mp heffect]
      rfl

theorem isHandlerCall_of_mem_callNotificationHandlers
    (client : GooseMatrixClient Nat) {notifications : List (RoomId × List Json)}
    {effect : Effect Nat}
    (heffect : effect ∈ (callNotificationHandlers client notifications).trace) :
    isHandlerCall effect = false := by
  rcases List.mem_flatMap.mp heffect with ⟨handler, _, hhandler⟩
  rcases List.mem_flatMap.mp hhandler with ⟨⟨roomId, roomNotifications⟩, _, hroom⟩
  dsimp only at hroom
  cases hknown : client.getRoom roomId with
  | none =>
      rw [hknown] at hroom
      cases hroom
  | some room =>
      rw [hknown] at hroom
      rcases List.mem_map.mp hroom with ⟨notification, _, heq⟩
      rw [← heq]
      rfl

theorem getRoom_cases (client : GooseMatrixClient Nat) (roomId : RoomId) :
    SyncClient.getRoom client roomId = none ∨
      SyncClient.getRoom client roomId = some roomId := by
  rw [SyncClient.getRoom_eq]
  split
  · exact Or.inr rfl
  · exact Or.inl rfl

theorem within_handleJoinedRoom
    (hclient : client.eventHandlers.handlers.Represents hs) (roomId : RoomId)
    (roomInfo : JoinedRoom) (hoccs : joinedOccurrences roomId roomInfo ⊆ occs) :
    Within hs (handleJoinedRoom client roomId roomInfo) occs := by
  rcases List.append_subset.mp hoccs with ⟨haccount, hrest⟩
  rcases List.append_subset.mp hrest with ⟨hstate, hrest⟩
  rcases List.append_subset.mp hrest with ⟨htimeline, hephemeral⟩
  apply Within.bind (within_notifySyncGapIf _ _)
  intro _ _
  cases getRoom_cases client roomId with
  | inl hunknown =>
      rw [hunknown]
      exact Within.done ()
  | inr hknown =>
      rw [hknown]
      apply Within.bind
      · exact within_handleSyncEvents hclient _ Section.roomAccountData roomId _
          (fun raw => List.mem_singleton_self _) haccount
      intro _ _
      apply Within.bind (within_handleSyncStateEvents hclient _ _ hstate)
      intro _ _
      apply Within.bind (within_handleSyncTimelineEvents hclient _ _ htimeline)
      intro _ _
      exact within_handleSyncEvents hclient _ Section.ephemeral roomId _
        (fun raw => List.mem_singleton_self _) hephemeral

theorem within_handleLeftRoom
    (hclient : client.eventHandlers.handlers.Represents hs) (roomId : RoomId)
    (roomInfo : LeftRoom) (hoccs : leftOccurrences roomId roomInfo ⊆ occs) :
    Within hs (handleLeftRoom client roomId roomInfo) occs := by
  rcases List.append_subset.mp hoccs with ⟨haccount, hrest⟩
  rcases List.append_subset.mp hrest with ⟨hstate, htimeline⟩
  apply Within.bind (within_notifySyncGapIf _ _)
  intro _ _
  cases getRoom_cases client roomId with
  | inl hunknown =>
      rw [hunknown]
      exact Within.done ()
  | inr hknown =>
      rw [hknown]
      apply Within.bind
      · exact within_handleSyncEvents hclient _ Section.roomAccountData roomId _
          (fun raw => List.mem_singleton_self _) haccount
      intro _ _
      apply Within.bind (within_handleSyncStateEvents hclient _ _ hstate)
      intro _ _
      exact within_handleSyncTimelineEvents hclient _ _ htimeline

theorem within_handleInvitedRoom
    (hclient : client.eventHandlers.handlers.Represents hs) (roomId : RoomId)
    (roomInfo : InvitedRoom)
    (hoccs : roomInfo.inviteState.map (Occurrence.plain Section.strippedState roomId) ⊆
      occs) :
    Within hs (handleInvitedRoom client roomId roomInfo) occs := by
  unfold handleInvitedRoom
  cases getRoom_cases client roomId with
  | inl hunknown =>
      rw [hunknown]
      exact Within.done ()
  | inr hknown =>
      rw [hknown]
      exact within_handleSyncEvents hclient _ Section.strippedState roomId _
        (fun raw => List.mem_singleton_self _) hoccs

theorem subset_flatMap {α β : Type} {xs : List α} {f : α -> List β} {x : α}
    (hx : x ∈ xs) : f x ⊆ xs.flatMap f :=
  fun _ hy => List.mem_flatMap.mpr ⟨x, hx, hy⟩

/-- Whatever the response and the outcome, handlers are only called on
occurrences they want. -/
theorem within_handleSyncResponse
    (hclient : client.eventHandlers.handlers.Represents hs)
    (response : BaseSyncResponse) :
    Within hs (handleSyncResponse client response) (occurrences response) := by
  have hall : occurrences response ⊆ occurrences response := fun _ hocc => hocc
  rcases List.append_subset.mp hall with ⟨haccount, hrest⟩
  rcases List.append_subset.mp hrest with ⟨hpresence, hrest⟩
  rcases List.append_subset.mp hrest with ⟨htoDevice, hrest⟩
  rcases List.append_subset.mp hrest with ⟨hjoin, hrest⟩
  rcases List.append_subset.mp hrest with ⟨hleave, hinvite⟩
  apply Within.bind
  · exact within_handleSyncEvents hclient _ Section.globalAccountData none _
      (fun raw => List.mem_singleton_self _) haccount
  intro _ _
  apply Within.bind
  · exact within_handleSyncEvents hclient _ Section.presence none _
      (fun raw => List.mem_singleton_self _) hpresence
  intro _ _
  apply Within.bind
  · exact within_handleSyncEvents hclient _ Section.toDevice none _
      (fun raw => List.mem_singleton_self _) htoDevice
  intro _ _
  apply Within.bind
  · apply Within.forEach
    intro entry hmem
    rcases entry with ⟨roomId, roomInfo⟩
    exact within_handleJoinedRoom hclient roomId roomInfo
      (fun occ hocc => hjoin (subset_flatMap hmem hocc))
  intro _ _
  apply Within.bind
  · apply Within.forEach
    intro entry hmem
    rcases entry with ⟨roomId, roomInfo⟩
    exact within_handleLeftRoom hclient roomId roomInfo
      (fun occ hocc => hleave (subset_flatMap hmem hocc))
  intro _ _
  apply Within.bind
  · apply Within.forEach
    intro entry hmem
    rcases entry with ⟨roomId, roomInfo⟩
    exact within_handleInvitedRoom hclient roomId roomInfo
      (fun occ hocc => hinvite (subset_flatMap hmem hocc))
  intro _ _
  exact Within.emit_of_not_call fun effect heffect =>
    isHandlerCall_of_mem_callNotificationHandlers client heffect

end Calls

end Sync
end MatrixGoose
