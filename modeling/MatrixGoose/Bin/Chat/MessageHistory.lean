import MatrixGoose.Foundation.Log
import MatrixGoose.Bin.Chat.SessionData

/-!
# Message histories

The messages of a room are what `on_room_message` has delivered to the user for that
room, in this order, and an entry of the map appears with its first message.  So the
tasks that look at the last messages find some, and what they send refers to the
messages delivered up to then.
-/

namespace MatrixGoose

open Foundation
open Foundation.Components

namespace Chat

open EventHandler

variable {Message : Type}

inductive HistoryEvent (Message : Type)
  | delivered (roomId : RoomId) (event : Message)
  | receipt (roomId : RoomId) (event : Message)
  /-- The message chosen by a random number. -/
  | reaction (roomId : RoomId) (random : Nat) (event : Message)

def HistoryEvent.deliveredTo (roomId : RoomId) : HistoryEvent Message -> Option Message
  | HistoryEvent.delivered roomId' event => if roomId' = roomId then some event else none
  | _ => none

def deliveredIn (roomId : RoomId) (log : List (HistoryEvent Message)) : List Message :=
  log.filterMap (HistoryEvent.deliveredTo roomId)

def callHistory (draw : Draw) : Pending Message -> Option (HistoryEvent Message)
  | Pending.call (Request.receipt roomId event) => some (HistoryEvent.receipt roomId event)
  | Pending.call (Request.reaction roomId event) =>
      some (HistoryEvent.reaction roomId draw.event event)
  | _ => none

def taskHistory (draw : Draw) :
    Except Panic (TaskStart Message) -> List (HistoryEvent Message)
  | .ok start => start.pending.filterMap (callHistory draw)
  | .error _ => []

def Reaches (u v : Nat) (shared : Shared Message) : Prop :=
  shared.gooseUsers[u]? = some v ∧ (shared.sessions v).isSome = true

instance (u v : Nat) (shared : Shared Message) : Decidable (Reaches u v shared) :=
  inferInstanceAs (Decidable (_ ∧ _))

/-- What an event adds to the history of user `v`: a message that reaches its session
data, or a call of a task that it starts. -/
def historyOf (config : Config) (v : Nat) (w : ChatWorld Message) :
    ChatEvent Message -> List (HistoryEvent Message)
  | Event.component u (UserAction.sync (SyncTaskAction.onRoomMessage roomId event)) =>
      if Reaches u v w.shared then [HistoryEvent.delivered roomId event] else []
  | Event.component u (UserAction.main (MainAction.startTask draw)) =>
      if u = v then taskHistory draw (runTask (viewOf config v w.shared (w.memory v)) draw)
      else []
  | _ => []

def lastEleven (messages : List Message) : List Message :=
  if messages.length <= 11 then messages else messages.drop (messages.length - 11)

def ReceiptForLast (before : List (HistoryEvent Message)) : HistoryEvent Message -> Prop
  | HistoryEvent.receipt roomId event => (deliveredIn roomId before).getLast? = some event
  | _ => True

def ReactionToRecent (before : List (HistoryEvent Message)) : HistoryEvent Message -> Prop
  | HistoryEvent.reaction roomId random event =>
      choose (lastEleven (deliveredIn roomId before)) random = some event
  | _ => True

def lastPosition (roomId : RoomId) (before : List (HistoryEvent Message)) : Nat :=
  (deliveredIn roomId before).length - 1

/-- A read receipt is for the message at the last position when it is sent, which is no
earlier than that of the receipts before it. -/
def ReceiptsAdvance (log : List (HistoryEvent Message)) : Prop :=
  forall roomId first second before between after,
    log = before ++ HistoryEvent.receipt roomId first :: between ++
      HistoryEvent.receipt roomId second :: after ->
    let later := before ++ HistoryEvent.receipt roomId first :: between
    lastPosition roomId before <= lastPosition roomId later ∧
      (deliveredIn roomId log)[lastPosition roomId before]? = some first ∧
      (deliveredIn roomId log)[lastPosition roomId later]? = some second

structure MessageHistory (v : Nat) (log : List (HistoryEvent Message))
    (w : ChatWorld Message) : Prop where
  recorded : forall clientData, w.shared.sessions v = some clientData ->
    forall roomId, clientData.roomMessages roomId =
      if (deliveredIn roomId log).isEmpty then none else some (deliveredIn roomId log)
  found : (w.memory v).phase ≠ Phase.panicked Panic.messageMissing
  receipts : EachEntry ReceiptForLast log
  advance : ReceiptsAdvance log
  reactions : EachEntry ReactionToRecent log

/-!
# What a step does to the messages
-/

def messagesOf (shared : Shared Message) (v : Nat) : Option (RoomMessages Message) :=
  (shared.sessions v).map ClientData.roomMessages

theorem TaskRuns.roomMessages_eq {view : View Message} {draw : Draw}
    {start : TaskStart Message} (h : TaskRuns view draw start) :
    start.session.map ClientData.roomMessages =
      view.session.map ClientData.roomMessages := by
  cases h with
  | paginateRoom client clientData roomId hclient hsession hjoined =>
      rw [hsession]
      rfl
  | _ => rfl

theorem roomMessages_callDone (session : Option (ClientData Message))
    (request : Request Message) (token : Option String) :
    (callDone session request token).map ClientData.roomMessages =
      session.map ClientData.roomMessages := by
  unfold callDone
  split
  · rw [Option.map_map]
    rfl
  · rfl

theorem MainStep.messagesOf_eq {config : Config} {u : Nat}
    {shared shared' : Shared Message} {user user' : ChatUser Message} {a : MainAction}
    (hstep : MainStep config u shared user a shared' user')
    (ha : a ≠ MainAction.setSessionData) (v : Nat) :
    messagesOf shared' v = messagesOf shared v := by
  unfold messagesOf
  have hsessions := hstep.sessionStep
  generalize shared'.sessions = sessions at hsessions ⊢
  cases hsessions with
  | unchanged => rfl
  | install hphase => exact absurd rfl ha
  | startTask draw start hstart =>
      exact apply_update_sessions (Option.map ClientData.roomMessages)
        (taskRuns_of_runTask hstart).roomMessages_eq v
  | callDone request token =>
      exact apply_update_sessions (Option.map ClientData.roomMessages)
        (roomMessages_callDone _ request token) v

theorem MainStep.messagesOf_setSessionData {config : Config} {u : Nat}
    {shared shared' : Shared Message} {user user' : ChatUser Message}
    (hstep : MainStep config u shared user MainAction.setSessionData shared' user')
    (v : Nat) :
    messagesOf shared' v = if v = u then some MultiMap.empty else messagesOf shared v := by
  cases hstep with
  | setSessionData hphase =>
      show (Function.update shared.sessions u _ v).map _ = _
      by_cases hv : v = u
      · subst hv
        rw [Function.update_self, if_pos rfl]
        rfl
      · rw [Function.update_of_ne hv, if_neg hv]
        rfl

theorem not_reaches_of_panics {u : Nat} {shared : Shared Message}
    {user : ChatUser Message} {roomId : RoomId} {event : Message} {panic : Panic}
    (hphase : user.syncPhase = SyncPhase.syncOnce)
    (hstep : syncStep u shared user (SyncTaskAction.onRoomMessage roomId event) =
      some (shared, { user with syncPhase := SyncPhase.panicked panic })) (v : Nat) :
    ¬ Reaches u v shared := by
  intro h
  rcases h with ⟨howner, hsome⟩
  rcases Option.isSome_iff_exists.mp hsome with ⟨clientData, hsession⟩
  simp only [syncStep, hphase, deliver, howner, unwrap_some, bind_ok, hsession] at hstep
  have huser := congrArg ChatUser.syncPhase (Prod.mk.inj (Option.some.inj hstep)).2
  rw [hphase] at huser
  cases huser

theorem messagesOf_syncStep {u : Nat} {shared shared' : Shared Message}
    {user user' : ChatUser Message} {a : SyncTaskAction Message}
    (hstep : syncStep u shared user a = some (shared', user')) (v : Nat) :
    (messagesOf shared' v = messagesOf shared v ∧
        forall roomId event, a = SyncTaskAction.onRoomMessage roomId event ->
          ¬ Reaches u v shared) ∨
      exists roomId event roomMessages, a = SyncTaskAction.onRoomMessage roomId event ∧
        Reaches u v shared ∧ messagesOf shared v = some roomMessages ∧
        messagesOf shared' v = some (onRoomMessage roomMessages roomId event) := by
  cases syncStep_of_eq_some hstep with
  | onRoomMessage roomId event owner clientData hphase howner hsession =>
      by_cases hv : v = owner
      · subst hv
        right
        refine ⟨roomId, event, clientData.roomMessages, rfl, ⟨howner, ?_⟩, ?_, ?_⟩
        · rw [hsession]
          rfl
        · rw [messagesOf, hsession]
          rfl
        · show (Function.update shared.sessions v _ v).map _ = _
          rw [Function.update_self]
          rfl
      · left
        constructor
        · show (Function.update shared.sessions owner _ v).map _ = _
          rw [Function.update_of_ne hv]
          rfl
        · intro _ _ _ h
          exact hv (Option.some.inj (h.1.symm.trans howner))
  | onRoomMessagePanics roomId event panic hphase hpanic =>
      left
      refine ⟨rfl, ?_⟩
      intro _ _ ha
      cases ha
      exact not_reaches_of_panics hphase hstep v
  | _ => exact Or.inl ⟨rfl, nofun⟩

/-!
# What a history records
-/

theorem deliveredIn_append (roomId : RoomId) (log events : List (HistoryEvent Message)) :
    deliveredIn roomId (log ++ events) =
      deliveredIn roomId log ++ deliveredIn roomId events :=
  List.filterMap_append

theorem deliveredIn_delivered (roomId roomId' : RoomId) (event : Message) :
    deliveredIn roomId' [HistoryEvent.delivered roomId event] =
      if roomId' = roomId then [event] else [] := by
  by_cases h : roomId = roomId'
  · subst h
    simp [deliveredIn, HistoryEvent.deliveredTo]
  · simp [deliveredIn, HistoryEvent.deliveredTo, h, Ne.symm h]

def Recorded (log : List (HistoryEvent Message)) :
    Option (RoomMessages Message) -> Prop
  | none => forall roomId, deliveredIn roomId log = []
  | some roomMessages => roomMessages.NoEmpty ∧
      forall roomId, roomMessages.values roomId = deliveredIn roomId log

theorem Recorded.append {log events : List (HistoryEvent Message)}
    {messages : Option (RoomMessages Message)} (h : Recorded log messages)
    (hevents : forall roomId, deliveredIn roomId events = []) :
    Recorded (log ++ events) messages := by
  have hsame : forall roomId, deliveredIn roomId (log ++ events) = deliveredIn roomId log := by
    intro roomId
    rw [deliveredIn_append, hevents, List.append_nil]
  cases messages with
  | none =>
      intro roomId
      rw [hsame]
      exact h roomId
  | some roomMessages =>
      refine ⟨h.1, ?_⟩
      intro roomId
      rw [hsame]
      exact h.2 roomId

theorem Recorded.onRoomMessage {log : List (HistoryEvent Message)}
    {roomMessages : RoomMessages Message} (h : Recorded log (some roomMessages))
    (roomId : RoomId) (event : Message) :
    Recorded (log ++ [HistoryEvent.delivered roomId event])
      (some (onRoomMessage roomMessages roomId event)) := by
  rw [onRoomMessage_eq_push]
  refine ⟨MultiMap.noEmpty_push h.1 roomId event, ?_⟩
  intro other
  rw [MultiMap.values_push, deliveredIn_append, deliveredIn_delivered, h.2 other]
  split
  · rfl
  · rw [List.append_nil]

/-- What the first part of a task adds to the history. -/
inductive TaskSees (view : View Message) (draw : Draw) :
    List (HistoryEvent Message) -> Prop
  | nothing : TaskSees view draw []
  | receipt (clientData : ClientData Message) (roomId : RoomId)
      (events : List Message) (event : Message)
      (hsession : view.session = some clientData)
      (hevents : clientData.roomMessages roomId = some events)
      (hlast : events.getLast? = some event) :
      TaskSees view draw [HistoryEvent.receipt roomId event]
  | reaction (clientData : ClientData Message) (roomId : RoomId)
      (messages : List Message) (message : Message)
      (hsession : view.session = some clientData)
      (hmessages : clientData.roomMessages roomId = some messages)
      (hchosen : choose (reactionWindow messages) draw.event = some message) :
      TaskSees view draw [HistoryEvent.reaction roomId draw.event message]

theorem taskSees_taskHistory (view : View Message) (draw : Draw) :
    TaskSees view draw (taskHistory draw (runTask view draw)) := by
  cases hresult : runTask view draw with
  | error panic => exact TaskSees.nothing
  | ok start =>
      cases taskRuns_of_runTask hresult with
      | lookAtRoom clientData roomId events event hsession hevents hlast =>
          exact TaskSees.receipt clientData roomId events event hsession hevents hlast
      | sendReaction clientData roomId messages message hsession hmessages hchosen =>
          exact TaskSees.reaction clientData roomId messages message hsession hmessages
            hchosen
      | _ => exact TaskSees.nothing

theorem TaskSees.deliveredIn_eq {view : View Message} {draw : Draw}
    {events : List (HistoryEvent Message)} (h : TaskSees view draw events)
    (roomId : RoomId) : deliveredIn roomId events = [] := by
  cases h <;> rfl

/-!
# The invariant
-/

theorem taskSees_historyOf_main {config : Config} {v : Nat} (w : ChatWorld Message)
    (u : Nat) (a : MainAction) :
    exists draw, TaskSees (viewOf config v w.shared (w.memory v)) draw
      (historyOf config v w (ChatEvent.main u a)) := by
  cases a with
  | startTask draw =>
      refine ⟨draw, ?_⟩
      show TaskSees _ draw (if u = v then _ else [])
      split
      · exact taskSees_taskHistory _ draw
      · exact TaskSees.nothing
  | _ => exact ⟨⟨0, 0, 0, 0⟩, TaskSees.nothing⟩

/-- A step may start a task of user `v`, install its session data or deliver a message
to it; no other step changes its messages or adds to its history. -/
theorem historyOf_cases {config : Config} {w w' : ChatWorld Message}
    {e : ChatEvent Message} (hw : Everywhere SessionTracked w)
    (hstep : (chat Message config).worldStep w e = some w') (v : Nat) :
    (messagesOf w'.shared v = messagesOf w.shared v ∧
        exists draw, TaskSees (viewOf config v w.shared (w.memory v)) draw
          (historyOf config v w e)) ∨
      (messagesOf w.shared v = none ∧ messagesOf w'.shared v = some MultiMap.empty ∧
        historyOf config v w e = []) ∨
      exists roomId event roomMessages, messagesOf w.shared v = some roomMessages ∧
        messagesOf w'.shared v = some (onRoomMessage roomMessages roomId event) ∧
        historyOf config v w e = [HistoryEvent.delivered roomId event] := by
  have hnothing : exists draw,
      TaskSees (viewOf config v w.shared (w.memory v)) draw [] :=
    ⟨⟨0, 0, 0, 0⟩, TaskSees.nothing⟩
  cases e with
  | environment duration =>
      rcases worldStep_environment_eq_some.mp hstep with ⟨shared, hshared, rfl⟩
      cases hshared
      exact Or.inl ⟨rfl, hnothing⟩
  | component u a =>
      cases a with
      | main a =>
          have hmain := mainStep_of_worldStep hstep
          have hsees := @taskSees_historyOf_main _ config v w u a
          by_cases hset : a = MainAction.setSessionData
          · subst hset
            have hmessages := hmain.messagesOf_setSessionData v
            split at hmessages
            · next hv =>
                subst hv
                right
                left
                refine ⟨?_, hmessages, rfl⟩
                rw [messagesOf, (hw v).eq_none hmain.spawning_of_setSessionData]
                rfl
            · exact Or.inl ⟨hmessages, hsees⟩
          · exact Or.inl ⟨hmain.messagesOf_eq hset v, hsees⟩
      | sync a =>
          rcases messagesOf_syncStep (step_of_worldStep hstep) v with
            ⟨hsame, hmissed⟩ |
            ⟨roomId, event, roomMessages, rfl, hreaches, hbefore, hafter⟩
          · refine Or.inl ⟨hsame, ?_⟩
            cases a with
            | onRoomMessage roomId event =>
                show exists draw, TaskSees _ draw (if Reaches u v w.shared then _ else [])
                rw [if_neg (hmissed roomId event rfl)]
                exact hnothing
            | _ => exact hnothing
          · right
            right
            refine ⟨roomId, event, roomMessages, hbefore, hafter, ?_⟩
            exact if_pos hreaches

theorem recorded_step {config : Config} {w w' : ChatWorld Message}
    {e : ChatEvent Message} {v : Nat} {log : List (HistoryEvent Message)}
    (hw : Everywhere SessionTracked w)
    (hstep : (chat Message config).worldStep w e = some w')
    (hlog : Recorded log (messagesOf w.shared v)) :
    Recorded (log ++ historyOf config v w e) (messagesOf w'.shared v) := by
  rcases historyOf_cases hw hstep v with ⟨hsame, draw, hsees⟩ |
    ⟨hbefore, hafter, hnothing⟩ |
    ⟨roomId, event, roomMessages, hbefore, hafter, hdelivered⟩
  · rw [hsame]
    exact hlog.append hsees.deliveredIn_eq
  · rw [hbefore] at hlog
    rw [hafter, hnothing, List.append_nil]
    exact ⟨MultiMap.noEmpty_empty, fun roomId => (hlog roomId).symm⟩
  · rw [hbefore] at hlog
    rw [hafter, hdelivered]
    exact hlog.onRoomMessage roomId event

theorem lastEleven_eq (messages : List Message) :
    lastEleven messages = reactionWindow messages := by
  unfold lastEleven
  split
  · next hle => exact (reactionWindow_eq_of_le hle).symm
  · next hlt => exact (reactionWindow_eq_of_lt (Nat.lt_of_not_le hlt)).1.symm

theorem Recorded.eq_delivered {log : List (HistoryEvent Message)} {v : Nat}
    {shared : Shared Message} {clientData : ClientData Message} {roomId : RoomId}
    {events : List Message} (hlog : Recorded log (messagesOf shared v))
    (hsession : shared.sessions v = some clientData)
    (hevents : clientData.roomMessages roomId = some events) :
    deliveredIn roomId log = events ∧ events ≠ [] := by
  rw [messagesOf, hsession] at hlog
  constructor
  · rw [← hlog.2 roomId]
    exact MultiMap.values_of_eq_some hevents
  · intro hempty
    rw [hempty] at hevents
    exact hlog.1 roomId hevents

theorem TaskSees.refers {config : Config} {w : ChatWorld Message} {v : Nat} {draw : Draw}
    {events log : List (HistoryEvent Message)}
    (h : TaskSees (viewOf config v w.shared (w.memory v)) draw events)
    (hlog : Recorded log (messagesOf w.shared v)) :
    (EachEntry ReceiptForLast log -> EachEntry ReceiptForLast (log ++ events)) ∧
      (EachEntry ReactionToRecent log -> EachEntry ReactionToRecent (log ++ events)) := by
  cases h with
  | nothing =>
      rw [List.append_nil]
      exact ⟨id, id⟩
  | receipt clientData roomId events event hsession hevents hlast =>
      rw [eachEntry_append_singleton, eachEntry_append_singleton]
      refine ⟨fun hreceipts => ⟨hreceipts, ?_⟩, fun hreactions => ⟨hreactions, True.intro⟩⟩
      show (deliveredIn roomId log).getLast? = some event
      rw [(hlog.eq_delivered hsession hevents).1]
      exact hlast
  | reaction clientData roomId messages message hsession hmessages hchosen =>
      rw [eachEntry_append_singleton, eachEntry_append_singleton]
      refine ⟨fun hreceipts => ⟨hreceipts, True.intro⟩, fun hreactions => ⟨hreactions, ?_⟩⟩
      show choose (lastEleven (deliveredIn roomId log)) draw.event = some message
      rw [(hlog.eq_delivered hsession hmessages).1, lastEleven_eq]
      exact hchosen

theorem refers_step {config : Config} {w w' : ChatWorld Message} {e : ChatEvent Message}
    {v : Nat} {log : List (HistoryEvent Message)} (hw : Everywhere SessionTracked w)
    (hstep : (chat Message config).worldStep w e = some w')
    (hlog : Recorded log (messagesOf w.shared v)) :
    (EachEntry ReceiptForLast log ->
        EachEntry ReceiptForLast (log ++ historyOf config v w e)) ∧
      (EachEntry ReactionToRecent log ->
        EachEntry ReactionToRecent (log ++ historyOf config v w e)) := by
  rcases historyOf_cases hw hstep v with ⟨_, draw, hsees⟩ | ⟨_, _, hnothing⟩ |
    ⟨roomId, event, _, _, _, hdelivered⟩
  · exact hsees.refers hlog
  · rw [hnothing, List.append_nil]
    exact ⟨id, id⟩
  · rw [hdelivered, eachEntry_append_singleton, eachEntry_append_singleton]
    exact ⟨fun hreceipts => ⟨hreceipts, True.intro⟩,
      fun hreactions => ⟨hreactions, True.intro⟩⟩

theorem getElem?_lastPosition {roomId : RoomId} {event : Message}
    {before : List (HistoryEvent Message)}
    (h : (deliveredIn roomId before).getLast? = some event)
    (rest : List (HistoryEvent Message)) :
    (deliveredIn roomId (before ++ rest))[lastPosition roomId before]? = some event := by
  rw [List.getLast?_eq_getElem?] at h
  have hlt := (List.getElem?_eq_some_iff.mp h).1
  rw [deliveredIn_append, lastPosition, List.getElem?_append_left hlt]
  exact h

theorem lastPosition_le_append (roomId : RoomId) (before rest : List (HistoryEvent Message)) :
    lastPosition roomId before <= lastPosition roomId (before ++ rest) := by
  unfold lastPosition
  rw [deliveredIn_append, List.length_append]
  omega

theorem receiptsAdvance {log : List (HistoryEvent Message)}
    (h : EachEntry ReceiptForLast log) : ReceiptsAdvance log := by
  intro roomId first second before between after hsplit
  have hsplitFirst : log = before ++ HistoryEvent.receipt roomId first ::
      (between ++ HistoryEvent.receipt roomId second :: after) := by
    rw [hsplit, List.append_assoc]
    rfl
  have hfirst := h _ _ _ hsplitFirst
  have hsecond := h _ _ _ hsplit
  refine ⟨lastPosition_le_append roomId before _, ?_, ?_⟩
  · rw [hsplitFirst]
    exact getElem?_lastPosition hfirst _
  · rw [hsplit]
    exact getElem?_lastPosition hsecond _

structure HistoryKept (v : Nat) (log : List (HistoryEvent Message))
    (w : ChatWorld Message) : Prop where
  tracked : Everywhere SessionTracked w
  recorded : Recorded log (messagesOf w.shared v)
  found : (w.memory v).phase ≠ Phase.panicked Panic.messageMissing
  receipts : EachEntry ReceiptForLast log
  reactions : EachEntry ReactionToRecent log

/-- A task panics on missing messages only in a room recorded as empty. -/
theorem HistoryKept.ne_messageMissing {config : Config} {v : Nat}
    {log : List (HistoryEvent Message)} {w w' : ChatWorld Message} {a : MainAction}
    (hw : HistoryKept v log w)
    (hstep : (chat Message config).worldStep w (ChatEvent.main v a) = some w') :
    (w'.memory v).phase ≠ Phase.panicked Panic.messageMissing := by
  intro hpanic
  cases (mainStep_of_worldStep hstep).panicCause hpanic with
  | task draw panic hphase hstart =>
      cases taskPanics_of_runTask hstart with
      | missing panic hmissing => cases hmissing
      | emptyRoom clientData roomId hsession hempty =>
          exact (hw.recorded.eq_delivered hsession hempty).2 rfl
  | other a panic hother => simp at hother

theorem historyKept_step {config : Config} {v : Nat} {log : List (HistoryEvent Message)}
    {w w' : ChatWorld Message} {e : ChatEvent Message} (hw : HistoryKept v log w)
    (hstep : (chat Message config).worldStep w e = some w') :
    HistoryKept v (log ++ historyOf config v w e) w' where
  tracked := sessionTracked_step hw.tracked hstep
  recorded := recorded_step hw.tracked hstep hw.recorded
  found := by
    rcases memory_eq_or hstep v with hsame | ⟨a, rfl, hlocal⟩
    · rw [hsame]
      exact hw.found
    · cases a with
      | main a => exact hw.ne_messageMissing hstep
      | sync a =>
          rw [(syncStep_of_worldStep hstep).phase_eq]
          exact hw.found
  receipts := (refers_step hw.tracked hstep hw.recorded).1 hw.receipts
  reactions := (refers_step hw.tracked hstep hw.recorded).2 hw.reactions

theorem historyKept_init {config : Config} (v : Nat) :
    HistoryKept v [] (chat Message config).system.init where
  tracked := sessionTracked_init
  recorded := fun _ => rfl
  found := nofun
  receipts := EachEntry.nil
  reactions := EachEntry.nil

theorem HistoryKept.messageHistory {v : Nat} {log : List (HistoryEvent Message)}
    {w : ChatWorld Message} (hw : HistoryKept v log w) : MessageHistory v log w where
  recorded := by
    intro clientData hsession roomId
    have hrecorded := hw.recorded
    rw [messagesOf, hsession] at hrecorded
    rw [← hrecorded.2 roomId]
    exact MultiMap.apply_eq hrecorded.1 roomId
  found := hw.found
  receipts := hw.receipts
  advance := receiptsAdvance hw.receipts
  reactions := hw.reactions

/-- In every run the recorded messages of a user, its read receipts and its reactions
agree with what was delivered to it. -/
theorem messageHistory_observe {config : Config} {actions : List (ChatEvent Message)}
    {w : ChatWorld Message} (hrun : (chat Message config).system.run actions = some w)
    (v : Nat) :
    MessageHistory v
      ((chat Message config).system.observe (historyOf config v)
        (chat Message config).system.init actions) w := by
  have hkept : HistoryKept v ([] ++ (chat Message config).system.observe
      (historyOf config v) (chat Message config).system.init actions) w :=
    TransitionSystem.invariant_observe (P := HistoryKept v)
      (fun _ _ _ _ hw hstep => historyKept_step hw hstep) (historyKept_init v) hrun
  exact hkept.messageHistory

theorem messageHistory_observe_first_message :
    exists w, (chat String sampleConfig).system.run (sampleStart 0 ++ firstMessage) =
        some w ∧
      (chat String sampleConfig).system.observe (historyOf sampleConfig 0)
        (chat String sampleConfig).system.init (sampleStart 0 ++ firstMessage) =
          [HistoryEvent.delivered "!a:x" "hello"] ∧
      MessageHistory 0
        ((chat String sampleConfig).system.observe (historyOf sampleConfig 0)
          (chat String sampleConfig).system.init (sampleStart 0 ++ firstMessage)) w :=
  ⟨_, rfl, rfl, messageHistory_observe rfl 0⟩

end Chat
end MatrixGoose
