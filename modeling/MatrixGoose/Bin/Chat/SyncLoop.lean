import MatrixGoose.Foundation.TransitionSystem
import MatrixGoose.Bin.Chat.RoomMessages

/-!
# The sync loop

One chat user's `sync_forever` task against a server.  The loop asks for the
events after its token, hands the response to the handlers, and takes over the
next token only if that succeeds.  The base client remembers the last token it
was given, whether or not the handlers succeeded.
-/

namespace MatrixGoose

open Foundation

namespace Chat

open EventHandler
open Sync

structure SyncEventsResponse where
  nextBatch : String
  body : BaseSyncResponse

structure SyncLoop (Message : Type) where
  /-- The timeline events the server has accepted, in server order. -/
  sent : List (RoomId × SyncTimelineEvent)
  /-- `sync_settings.token`. -/
  token : Option String
  /-- The sync token of the base client. -/
  lastNextBatch : Option String
  roomMessages : RoomMessages Message

inductive SyncAction
  | serverEvent (roomId : RoomId) (event : SyncTimelineEvent)
  | transportError
  | response (response : SyncEventsResponse)

namespace SyncLoop

variable {Message : Type} (deserializeMessage : Json -> Option Message)

def start : SyncLoop Message where
  sent := []
  token := none
  lastNextBatch := none
  roomMessages := MultiMap.empty

/-- `receive_sync_response` of the base client: a response that ends where the
last one ended is taken for a repetition. -/
def receiveSyncResponse (s : SyncLoop Message) (response : SyncEventsResponse) :
    BaseSyncResponse :=
  if s.lastNextBatch = some response.nextBatch then BaseSyncResponse.empty
  else response.body

def processSync (s : SyncLoop Message) (response : SyncEventsResponse) :
    Dispatch Nat Unit :=
  handleSyncResponse chatClient (s.receiveSyncResponse response)

/-- One round of the loop: the outcome of `sync_once` decides about the token,
the handlers have run in either case. -/
def syncOnce (s : SyncLoop Message) (response : SyncEventsResponse) :
    SyncLoop Message :=
  let processed := s.processSync response
  { s with
    lastNextBatch := some response.nextBatch
    roomMessages := runHandlers deserializeMessage s.roomMessages processed.trace
    token :=
      match processed.result with
      | .ok () => some response.nextBatch
      | .error _ => s.token }

def step (s : SyncLoop Message) : SyncAction -> Option (SyncLoop Message)
  | SyncAction.serverEvent roomId event =>
      some { s with sent := s.sent ++ [(roomId, event)] }
  | SyncAction.transportError => some s
  | SyncAction.response response => some (s.syncOnce deserializeMessage response)

def system : TransitionSystem (SyncLoop Message) SyncAction where
  init := start
  step := step deserializeMessage

/-!
# The server

The server names the positions of its log by tokens and answers with the events
after the position of the token it is given.
-/

def TokenAt (tokenAt : Nat -> String) (token : Option String) (position : Nat) : Prop :=
  (token = none ∧ position = 0) ∨ token = some (tokenAt position)

def itemsIn (roomId : RoomId) (entries : List (RoomId × SyncTimelineEvent)) :
    List SyncTimelineEvent :=
  (entries.filter fun entry => entry.1 = roomId).map Prod.snd

def ServerAnswers (tokenAt : Nat -> String) (s : SyncLoop Message) :
    SyncAction -> Prop
  | SyncAction.response response =>
      response.nextBatch = tokenAt s.sent.length ∧
        exists since, TokenAt tokenAt s.token since ∧
          forall roomId, timelineItems roomId response.body =
            itemsIn roomId (s.sent.drop since)
  | _ => True

def ParsesOrNoMessage : SyncAction -> Prop
  | SyncAction.response response =>
      AllParse response.body ∨ ¬ HasMessage response.body
  | _ => True

def FailedRoundIsSilent (s : SyncLoop Message) : SyncAction -> Prop
  | SyncAction.response response =>
      forall e, (s.processSync response).result = .error e ->
        forall effect, effect ∈ (s.processSync response).trace ->
          isHandlerCall effect = false
  | _ => True

def messagesIn (roomId : RoomId) (entries : List (RoomId × SyncTimelineEvent)) :
    List Message :=
  (itemsIn roomId entries).filterMap (messageOf deserializeMessage)

/-!
# Exactly-once recording

Between the accepted position and the position the base client has processed
there are no messages, so it does no harm that the base client takes the retried
batch for a repetition.
-/

structure RecordedUpTo (tokenAt : Nat -> String) (s : SyncLoop Message)
    (accepted processed : Nat) : Prop where
  token : TokenAt tokenAt s.token accepted
  accepted_le : accepted <= processed
  processed_le : processed <= s.sent.length
  last : s.lastNextBatch = none ∨ s.lastNextBatch = some (tokenAt processed)
  gap : forall entry, entry ∈ (s.sent.take processed).drop accepted ->
    isMessage entry.2 = false
  recorded : forall roomId, s.roomMessages.values roomId =
    messagesIn deserializeMessage roomId (s.sent.take accepted)

theorem messagesIn_append (roomId : RoomId)
    (first second : List (RoomId × SyncTimelineEvent)) :
    messagesIn deserializeMessage roomId (first ++ second) =
      messagesIn deserializeMessage roomId first ++
        messagesIn deserializeMessage roomId second := by
  simp [messagesIn, itemsIn]

theorem messagesIn_eq_nil (roomId : RoomId)
    {entries : List (RoomId × SyncTimelineEvent)}
    (hnone : forall entry, entry ∈ entries -> isMessage entry.2 = false) :
    messagesIn deserializeMessage roomId entries = [] := by
  rw [messagesIn, List.filterMap_eq_nil_iff]
  intro item hitem
  rcases List.mem_map.mp hitem with ⟨entry, hentry, heq⟩
  have hfalse := hnone entry (List.mem_filter.mp hentry).1
  rw [heq] at hfalse
  rw [messageOf, hfalse]
  rfl

theorem tokenAt_unique {tokenAt : Nat -> String} (hinj : Function.Injective tokenAt)
    {token : Option String} {a b : Nat} (ha : TokenAt tokenAt token a)
    (hb : TokenAt tokenAt token b) : a = b := by
  rcases ha with ⟨hnone, hzero⟩ | hsome
  · rcases hb with ⟨_, hzero'⟩ | hsome'
    · rw [hzero, hzero']
    · rw [hnone] at hsome'
      cases hsome'
  · rcases hb with ⟨hnone, _⟩ | hsome'
    · rw [hnone] at hsome
      cases hsome
    · rw [hsome] at hsome'
      exact hinj (Option.some.inj hsome')

theorem allParse_empty : AllParse BaseSyncResponse.empty := by
  intro occ hocc
  cases hocc

theorem not_hasMessage_of_gap {s : SyncLoop Message} {response : BaseSyncResponse}
    {since : Nat} (hitems : forall roomId, timelineItems roomId response =
      itemsIn roomId (s.sent.drop since))
    (hnone : ¬ HasMessage response) (entry : RoomId × SyncTimelineEvent)
    (hentry : entry ∈ s.sent.drop since) : isMessage entry.2 = false := by
  rw [← Bool.not_eq_true]
  intro hmessage
  apply hnone
  refine ⟨entry.1, entry.2, ?_, hmessage⟩
  rw [hitems]
  exact List.mem_map.mpr ⟨entry, List.mem_filter.mpr ⟨hentry, by simp⟩, rfl⟩

theorem recordedUpTo_of_ok {tokenAt : Nat -> String} {s : SyncLoop Message}
    {accepted processed : Nat} (h : RecordedUpTo deserializeMessage tokenAt s accepted processed)
    {response : SyncEventsResponse}
    (hnext : response.nextBatch = tokenAt s.sent.length)
    (hok : (s.processSync response).result = .ok ())
    (hrecorded : forall roomId,
      (runHandlers deserializeMessage s.roomMessages
          (s.processSync response).trace).values roomId =
        s.roomMessages.values roomId ++
          messagesIn deserializeMessage roomId (s.sent.drop accepted)) :
    RecordedUpTo deserializeMessage tokenAt (s.syncOnce deserializeMessage response)
      s.sent.length s.sent.length where
  token := by
    right
    show (match (s.processSync response).result with
      | .ok () => some response.nextBatch
      | .error _ => s.token) = _
    rw [hok, hnext]
  accepted_le := Nat.le_refl _
  processed_le := Nat.le_refl _
  last := Or.inr (congrArg some hnext)
  gap := by
    intro entry hentry
    have hempty : (s.sent.take s.sent.length).drop s.sent.length = [] := by simp
    have hentry : entry ∈ (s.sent.take s.sent.length).drop s.sent.length := hentry
    rw [hempty] at hentry
    cases hentry
  recorded := by
    intro roomId
    show (runHandlers deserializeMessage s.roomMessages
      (s.processSync response).trace).values roomId = _
    rw [hrecorded, h.recorded, ← messagesIn_append, List.take_append_drop]
    show _ = messagesIn deserializeMessage roomId (s.sent.take s.sent.length)
    rw [List.take_length]

theorem recordedUpTo_syncOnce {tokenAt : Nat -> String}
    (hinj : Function.Injective tokenAt) {s : SyncLoop Message}
    {accepted processed : Nat} (h : RecordedUpTo deserializeMessage tokenAt s accepted processed)
    {response : SyncEventsResponse}
    (hserver : ServerAnswers tokenAt s (SyncAction.response response))
    (hbatch : ParsesOrNoMessage (SyncAction.response response)) :
    exists accepted' processed',
      RecordedUpTo deserializeMessage tokenAt (s.syncOnce deserializeMessage response)
        accepted' processed' := by
  rcases hserver with ⟨hnext, since, hsince, hitems⟩
  have hsinceEq : since = accepted := tokenAt_unique hinj hsince h.token
  subst hsinceEq
  by_cases hrepeated : s.lastNextBatch = some response.nextBatch
  · -- The base client drops the response, but there is no message left in it.
    have hbase : s.processSync response =
        handleSyncResponse chatClient BaseSyncResponse.empty := by
      rw [processSync, receiveSyncResponse, if_pos hrepeated]
    have hprocessed : processed = s.sent.length := by
      rcases h.last with hlast | hlast
      · rw [hlast] at hrepeated
        cases hrepeated
      · rw [hlast, hnext] at hrepeated
        exact hinj (Option.some.inj hrepeated)
    have hgap : forall roomId,
        messagesIn deserializeMessage roomId (s.sent.drop since) = [] := by
      intro roomId
      apply messagesIn_eq_nil
      have hentries := h.gap
      rw [hprocessed, List.take_length] at hentries
      exact hentries
    have hok : (s.processSync response).result = .ok () := by
      rw [hbase, result_of_allParse allParse_empty]
    refine ⟨_, _, recordedUpTo_of_ok deserializeMessage h hnext hok ?_⟩
    intro roomId
    rw [hbase, record_of_allParse deserializeMessage allParse_empty, hgap]
    rfl
  have hbase : s.processSync response =
      handleSyncResponse chatClient response.body := by
    rw [processSync, receiveSyncResponse, if_neg hrepeated]
  rcases hbatch with hparse | hnone
  · have hok : (s.processSync response).result = .ok () := by
      rw [hbase, result_of_allParse hparse]
    refine ⟨_, _, recordedUpTo_of_ok deserializeMessage h hnext hok ?_⟩
    intro roomId
    rw [hbase, record_of_allParse deserializeMessage hparse, hitems]
    rfl
  have hdrop := not_hasMessage_of_gap hitems hnone
  have hvalues := record_of_not_hasMessage deserializeMessage hnone s.roomMessages
  cases hresult : (s.processSync response).result with
  | ok u =>
      refine ⟨_, _, recordedUpTo_of_ok deserializeMessage h hnext hresult ?_⟩
      intro roomId
      rw [hbase, hvalues, messagesIn_eq_nil deserializeMessage roomId hdrop,
        List.append_nil]
  | error e =>
      refine ⟨since, s.sent.length, ?_⟩
      exact {
        token := by
          show TokenAt tokenAt (match (s.processSync response).result with
            | .ok () => some response.nextBatch
            | .error _ => s.token) since
          rw [hresult]
          exact h.token
        accepted_le := Nat.le_trans h.accepted_le h.processed_le
        processed_le := Nat.le_refl _
        last := Or.inr (congrArg some hnext)
        gap := by
          show forall entry, entry ∈ (s.sent.take s.sent.length).drop since -> _
          rw [List.take_length]
          exact hdrop
        recorded := by
          intro roomId
          show (runHandlers deserializeMessage s.roomMessages
            (s.processSync response).trace).values roomId = _
          rw [hbase, hvalues]
          exact h.recorded roomId }

theorem recordedUpTo_step {tokenAt : Nat -> String}
    (hinj : Function.Injective tokenAt) {s s' : SyncLoop Message} {a : SyncAction}
    (h : exists accepted processed,
      RecordedUpTo deserializeMessage tokenAt s accepted processed)
    (hserver : ServerAnswers tokenAt s a) (hbatch : ParsesOrNoMessage a)
    (hstep : step deserializeMessage s a = some s') :
    exists accepted processed,
      RecordedUpTo deserializeMessage tokenAt s' accepted processed := by
  rcases h with ⟨accepted, processed, h⟩
  cases a with
  | transportError =>
      cases hstep
      exact ⟨accepted, processed, h⟩
  | serverEvent roomId event =>
      cases hstep
      have haccepted := Nat.le_trans h.accepted_le h.processed_le
      exact ⟨accepted, processed, {
        token := h.token
        accepted_le := h.accepted_le
        processed_le := by
          show processed <= (s.sent ++ [(roomId, event)]).length
          rw [List.length_append]
          exact Nat.le_add_right_of_le h.processed_le
        last := h.last
        gap := by
          intro entry hentry
          have hentry : entry ∈
            ((s.sent ++ [(roomId, event)]).take processed).drop accepted := hentry
          rw [List.take_append_of_le_length h.processed_le] at hentry
          exact h.gap entry hentry
        recorded := by
          intro room
          show _ = messagesIn deserializeMessage room ((s.sent ++ [_]).take accepted)
          rw [List.take_append_of_le_length haccepted]
          exact h.recorded room }⟩
  | response response =>
      cases hstep
      exact recordedUpTo_syncOnce deserializeMessage hinj h hserver hbatch

theorem failedRoundIsSilent {s : SyncLoop Message} {a : SyncAction}
    (hbatch : ParsesOrNoMessage a) : FailedRoundIsSilent s a := by
  cases a with
  | transportError => exact True.intro
  | serverEvent roomId event => exact True.intro
  | response response =>
      intro e herror effect heffect
      rw [processSync] at herror heffect
      have hparse : AllParse (s.receiveSyncResponse response) ∨
          ¬ HasMessage (s.receiveSyncResponse response) := by
        unfold receiveSyncResponse
        split
        · exact Or.inl allParse_empty
        · exact hbatch
      rcases hparse with hparse | hnone
      · rw [result_of_allParse hparse] at herror
        cases herror
      · exact isHandlerCall_eq_false_of_not_hasMessage hnone heffect

theorem recordedUpTo_start (tokenAt : Nat -> String) :
    RecordedUpTo deserializeMessage tokenAt (start : SyncLoop Message) 0 0 where
  token := Or.inl ⟨rfl, rfl⟩
  accepted_le := Nat.le_refl _
  processed_le := Nat.le_refl _
  last := Or.inl rfl
  gap := by
    intro entry hentry
    cases hentry
  recorded := by
    intro roomId
    rfl

def sampleToken (position : Nat) : String :=
  String.ofList (List.replicate position 's')

theorem sampleToken_injective : Function.Injective sampleToken := by
  intro a b h
  have hlength := congrArg (fun token => token.toList.length) h
  simpa [sampleToken] using hlength

def sampleBody : Json -> Option String
  | Json.obj [_, ("body", Json.str body)] => some body
  | _ => none

def sampleMessage (body : String) : SyncTimelineEvent where
  event := Json.obj [("type", Json.str "m.room.message"), ("body", Json.str body)]
  encryptionInfo := none
  pushActions := []

def sampleUntyped : SyncTimelineEvent where
  event := Json.obj []
  encryptionInfo := none
  pushActions := []

def sampleResponse (position : Nat) (events : List SyncTimelineEvent) :
    SyncAction :=
  SyncAction.response
    { nextBatch := sampleToken position
      body :=
        { BaseSyncResponse.empty with
          rooms :=
            { join := [("!a:x",
                { timeline := { limited := false, events }, state := [],
                  accountData := [], ephemeral := [] })],
              leave := [], invite := [] } } }

def sampleLog : List SyncAction :=
  [SyncAction.serverEvent "!a:x" (sampleMessage "A"),
    SyncAction.serverEvent "!a:x" sampleUntyped,
    SyncAction.serverEvent "!a:x" (sampleMessage "B")]

def sampleBatch : List SyncTimelineEvent :=
  [sampleMessage "A", sampleUntyped, sampleMessage "B"]

/-- Retry without new events: the batch is dropped, its token accepted. -/
def lostRun : List SyncAction :=
  sampleLog ++ [sampleResponse 3 sampleBatch, sampleResponse 3 sampleBatch]

/-- Retry after a new event: the batch is processed again from its start. -/
def repeatedRun : List SyncAction :=
  sampleLog ++ [sampleResponse 3 sampleBatch,
    SyncAction.serverEvent "!a:x" (sampleMessage "C"),
    sampleResponse 4 (sampleBatch ++ [sampleMessage "C"])]

theorem serverAnswers_sampleResponse {s : SyncLoop Message} {position since : Nat}
    {events : List SyncTimelineEvent} (hlength : s.sent.length = position)
    (htoken : TokenAt sampleToken s.token since)
    (hdrop : s.sent.drop since = events.map fun event => ("!a:x", event)) :
    ServerAnswers sampleToken s (sampleResponse position events) := by
  refine ⟨congrArg sampleToken hlength.symm, since, htoken, ?_⟩
  intro roomId
  rw [hdrop]
  by_cases hroom : "!a:x" = roomId
  · simp [timelineItems, itemsIn, hroom,
      List.filter_map, Function.comp_def]
  · simp [timelineItems, itemsIn, hroom,
      List.filter_map, Function.comp_def]

end SyncLoop

end Chat
end MatrixGoose
