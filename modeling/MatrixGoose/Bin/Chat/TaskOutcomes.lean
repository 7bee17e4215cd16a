import MatrixGoose.Bin.Chat.Tasks

/-!
# What a task can do

One constructor for each way in which the first part of a task ends, with what the
task has found on the way.
-/

namespace MatrixGoose

open Foundation

namespace Chat

open EventHandler

variable {Message : Type}

def reactionWindow (messages : List Message) : List Message :=
  messages.drop (if messages.length > 10 then messages.length - 11 else 0)

inductive TaskRuns (view : View Message) (draw : Draw) : TaskStart Message -> Prop
  | nothing : TaskRuns view draw { session := view.session, pending := [] }
  | rest :
      TaskRuns view draw
        { session := view.session, pending := [Pending.sleep draw.delay] }
  | sendText (client : Client) (clientData : ClientData Message) (roomId : RoomId)
      (hclient : view.client = some client) (hsession : view.session = some clientData)
      (hroom : clientData.roomId = some roomId) (hjoined : roomId ∈ client.joinedRooms) :
      TaskRuns view draw
        { session := view.session
          pending :=
            [Pending.call (Request.typing roomId), Pending.sleep draw.delay,
              Pending.call (Request.message roomId)] }
  | lookAtRoom (clientData : ClientData Message) (roomId : RoomId)
      (events : List Message) (event : Message)
      (hsession : view.session = some clientData)
      (hevents : clientData.roomMessages roomId = some events)
      (hlast : events.getLast? = some event) :
      TaskRuns view draw
        { session := view.session
          pending := [Pending.call (Request.receipt roomId event)] }
  | paginateRoom (client : Client) (clientData : ClientData Message) (roomId : RoomId)
      (hclient : view.client = some client) (hsession : view.session = some clientData)
      (hjoined : roomId ∈ client.joinedRooms) :
      TaskRuns view draw
        { session := some { clientData with roomId := some roomId }
          pending :=
            [Pending.call (Request.messages roomId (clientData.roomTokens roomId))] }
  | changeDisplayName :
      TaskRuns view draw
        { session := view.session, pending := [Pending.call Request.displayName] }
  | sendReaction (clientData : ClientData Message) (roomId : RoomId)
      (messages : List Message) (message : Message)
      (hsession : view.session = some clientData)
      (hmessages : clientData.roomMessages roomId = some messages)
      (hchosen : choose (reactionWindow messages) draw.event = some message) :
      TaskRuns view draw
        { session := view.session
          pending := [Pending.call (Request.reaction roomId message)] }

inductive TaskPanics (view : View Message) : Panic -> Prop
  | missing (panic : Panic) (hmissing : panic.isMissing = true) : TaskPanics view panic
  | taskIndex : TaskPanics view Panic.taskIndex
  | usersIndex : TaskPanics view Panic.usersIndex
  | selectedRoom (client : Client) (clientData : ClientData Message) (roomId : RoomId)
      (hclient : view.client = some client) (hsession : view.session = some clientData)
      (hroom : clientData.roomId = some roomId) (hleft : roomId ∉ client.joinedRooms) :
      TaskPanics view Panic.joinedRoomMissing
  | emptyRoom (clientData : ClientData Message) (roomId : RoomId)
      (hsession : view.session = some clientData)
      (hempty : clientData.roomMessages roomId = some []) :
      TaskPanics view Panic.messageMissing

def TaskEnds (view : View Message) (draw : Draw) :
    Except Panic (TaskStart Message) -> Prop
  | .ok start => TaskRuns view draw start
  | .error panic => TaskPanics view panic

/-!
# Choosing
-/

theorem mem_of_choose {Value : Type} {values : List Value} {random : Nat} {value : Value}
    (h : choose values random = some value) : value ∈ values :=
  List.mem_of_getElem? h

theorem eq_nil_of_choose {Value : Type} {values : List Value} {random : Nat}
    (h : choose values random = none) : values = [] := by
  have hle : values.length <= random % values.length := List.getElem?_eq_none_iff.mp h
  cases values with
  | nil => rfl
  | cons value rest =>
      have hlt : random % (value :: rest).length < (value :: rest).length :=
        Nat.mod_lt _ (Nat.succ_pos _)
      omega

theorem reactionWindow_eq_of_le {messages : List Message} (h : messages.length <= 11) :
    reactionWindow messages = messages := by
  unfold reactionWindow
  split
  · have hzero : messages.length - 11 = 0 := by omega
    rw [hzero, List.drop_zero]
  · rw [List.drop_zero]

theorem reactionWindow_eq_of_lt {messages : List Message} (h : 11 < messages.length) :
    reactionWindow messages = messages.drop (messages.length - 11) ∧
      (reactionWindow messages).length = 11 := by
  have hwindow : reactionWindow messages = messages.drop (messages.length - 11) := by
    unfold reactionWindow
    rw [if_pos (by omega)]
  refine ⟨hwindow, ?_⟩
  rw [hwindow, List.length_drop]
  omega

theorem reactionWindow_ne_nil {messages : List Message} (h : messages ≠ []) :
    reactionWindow messages ≠ [] := by
  by_cases hle : messages.length <= 11
  · rw [reactionWindow_eq_of_le hle]
    exact h
  · intro hnil
    have hlength := (reactionWindow_eq_of_lt (by omega : 11 < messages.length)).2
    rw [hnil] at hlength
    cases hlength

/-!
# The tasks
-/

theorem taskEnds_unwrap {Value : Type} {view : View Message} {draw : Draw}
    {value : Option Value} {panic : Panic}
    {next : Value -> Except Panic (TaskStart Message)}
    (hnone : value = none -> TaskPanics view panic)
    (hsome : forall v, value = some v -> TaskEnds view draw (next v)) :
    TaskEnds view draw (unwrap value panic >>= next) := by
  cases value with
  | none => exact hnone rfl
  | some v => exact hsome v rfl

theorem taskEnds_unwrap_missing {Value : Type} {view : View Message} {draw : Draw}
    {value : Option Value} {panic : Panic}
    {next : Value -> Except Panic (TaskStart Message)} (hpanic : panic.isMissing = true)
    (hsome : forall v, value = some v -> TaskEnds view draw (next v)) :
    TaskEnds view draw (unwrap value panic >>= next) :=
  taskEnds_unwrap (fun _ => TaskPanics.missing panic hpanic) hsome

theorem getJoinedRoom_eq {client : Client} {roomId joined : RoomId}
    (h : client.getJoinedRoom roomId = some joined) :
    joined = roomId ∧ roomId ∈ client.joinedRooms := by
  unfold Client.getJoinedRoom at h
  split at h
  · next hmem =>
      cases h
      exact ⟨rfl, hmem⟩
  · cases h

theorem getJoinedRoom_eq_none {client : Client} {roomId : RoomId}
    (h : client.getJoinedRoom roomId = none) : roomId ∉ client.joinedRooms := by
  intro hmem
  unfold Client.getJoinedRoom at h
  rw [if_pos hmem] at h
  cases h

theorem taskEnds_sendText (view : View Message) (draw : Draw) :
    TaskEnds view draw (sendText view draw) := by
  refine taskEnds_unwrap_missing rfl fun client hclient => ?_
  refine taskEnds_unwrap_missing rfl fun id _ => ?_
  refine taskEnds_unwrap_missing rfl fun clientData hsession => ?_
  cases hroom : clientData.roomId with
  | none => exact TaskRuns.nothing
  | some roomId =>
      refine taskEnds_unwrap ?_ ?_
      · intro hnone
        exact TaskPanics.selectedRoom client clientData roomId hclient hsession hroom
          (getJoinedRoom_eq_none hnone)
      · intro joined hjoined
        rcases getJoinedRoom_eq hjoined with ⟨rfl, hmem⟩
        exact TaskRuns.sendText client clientData joined hclient hsession hroom hmem

theorem taskEnds_lookAtRoom (view : View Message) (draw : Draw) :
    TaskEnds view draw (lookAtRoom view draw) := by
  refine taskEnds_unwrap_missing rfl fun client hclient => ?_
  refine taskEnds_unwrap_missing rfl fun clientData hsession => ?_
  refine taskEnds_unwrap_missing rfl fun id _ => ?_
  cases hchosen : choose client.joinedRooms draw.room with
  | none => exact TaskRuns.nothing
  | some roomId =>
      cases hevents : clientData.roomMessages roomId with
      | none =>
          simp only [hevents]
          exact TaskRuns.nothing
      | some events =>
          simp only [hevents]
          refine taskEnds_unwrap ?_ ?_
          · intro hnone
            rw [List.getLast?_eq_none_iff] at hnone
            subst hnone
            exact TaskPanics.emptyRoom clientData roomId hsession hevents
          · intro event hlast
            refine taskEnds_unwrap ?_ ?_
            · intro hnone
              exact absurd (mem_of_choose hchosen) (getJoinedRoom_eq_none hnone)
            · intro joined hjoined
              rcases getJoinedRoom_eq hjoined with ⟨rfl, _⟩
              exact TaskRuns.lookAtRoom clientData joined events event hsession hevents
                hlast

theorem taskEnds_paginateRoom (view : View Message) (draw : Draw) :
    TaskEnds view draw (paginateRoom view draw) := by
  refine taskEnds_unwrap_missing rfl fun client hclient => ?_
  refine taskEnds_unwrap_missing rfl fun id _ => ?_
  cases hchosen : choose client.joinedRooms draw.room with
  | none => exact TaskRuns.nothing
  | some roomId =>
      refine taskEnds_unwrap_missing rfl fun clientData hsession => ?_
      exact TaskRuns.paginateRoom client clientData roomId hclient hsession
        (mem_of_choose hchosen)

theorem taskEnds_changeDisplayName (view : View Message) (draw : Draw) :
    TaskEnds view draw (changeDisplayName view) := by
  refine taskEnds_unwrap_missing rfl fun client _ => ?_
  refine taskEnds_unwrap_missing rfl fun id _ => ?_
  exact TaskRuns.changeDisplayName

theorem taskEnds_sendReaction (view : View Message) (draw : Draw) :
    TaskEnds view draw (sendReaction view draw) := by
  refine taskEnds_unwrap_missing rfl fun client hclient => ?_
  refine taskEnds_unwrap_missing rfl fun clientData hsession => ?_
  refine taskEnds_unwrap_missing rfl fun id _ => ?_
  cases choose client.joinedRooms draw.room with
  | none => exact TaskRuns.nothing
  | some roomId =>
      cases hmessages : clientData.roomMessages roomId with
      | none =>
          simp only [hmessages]
          exact TaskRuns.nothing
      | some messages =>
          simp only [hmessages]
          refine taskEnds_unwrap ?_ ?_
          · intro hnone
            cases messages with
            | nil => exact TaskPanics.emptyRoom clientData roomId hsession hmessages
            | cons first rest =>
                exact absurd (eq_nil_of_choose hnone)
                  (reactionWindow_ne_nil (List.cons_ne_nil first rest))
          · intro message hmessage
            exact TaskRuns.sendReaction clientData roomId messages message hsession
              hmessages hmessage

theorem taskEnds_runTask (view : View Message) (draw : Draw) :
    TaskEnds view draw (runTask view draw) := by
  unfold runTask
  cases htask : TaskIndex.from draw.index with
  | error panic =>
      rw [error_from htask]
      exact TaskPanics.taskIndex
  | ok task =>
      cases task with
      | doNothing => exact TaskRuns.rest
      | sendText => exact taskEnds_sendText view draw
      | lookAtRoom => exact taskEnds_lookAtRoom view draw
      | paginateRoom => exact taskEnds_paginateRoom view draw
      | goAfk =>
          rw [bind_ok]
          show TaskEnds view draw (goAfk view draw)
          unfold goAfk
          split
          · exact TaskRuns.rest
          · exact TaskPanics.usersIndex
      | changeDisplayName => exact taskEnds_changeDisplayName view draw
      | sendImage => exact TaskRuns.nothing
      | sendReaction => exact taskEnds_sendReaction view draw

theorem taskRuns_of_runTask {view : View Message} {draw : Draw}
    {start : TaskStart Message} (h : runTask view draw = .ok start) :
    TaskRuns view draw start := by
  have hends := taskEnds_runTask view draw
  rw [h] at hends
  exact hends

theorem taskPanics_of_runTask {view : View Message} {draw : Draw} {panic : Panic}
    (h : runTask view draw = .error panic) : TaskPanics view panic := by
  have hends := taskEnds_runTask view draw
  rw [h] at hends
  exact hends

/-!
# Effects on the rest of the tool

Up to its first await a task neither uses the table of users nor creates or drops
session data.
-/

def KeepsSession (view : View Message) : Except Panic (TaskStart Message) -> Prop
  | .error panic => panic ≠ Panic.gooseUsersIndex
  | .ok start => start.session.isSome = view.session.isSome

theorem TaskPanics.ne_gooseUsersIndex {view : View Message} {panic : Panic}
    (h : TaskPanics view panic) : panic ≠ Panic.gooseUsersIndex := by
  intro hpanic
  cases h with
  | missing panic hmissing =>
      rw [hpanic] at hmissing
      cases hmissing
  | _ => cases hpanic

theorem TaskRuns.isSome_session {view : View Message} {draw : Draw}
    {start : TaskStart Message} (h : TaskRuns view draw start) :
    start.session.isSome = view.session.isSome := by
  cases h with
  | paginateRoom client clientData roomId hclient hsession hjoined =>
      rw [hsession]
      rfl
  | _ => rfl

theorem keepsSession_runTask (view : View Message) (draw : Draw) :
    KeepsSession view (runTask view draw) := by
  cases hresult : runTask view draw with
  | error panic => exact (taskPanics_of_runTask hresult).ne_gooseUsersIndex
  | ok start => exact (taskRuns_of_runTask hresult).isSome_session

end Chat
end MatrixGoose
