import MatrixGoose.Bin.Chat.RoomMessages

/-!
# Scheduler tasks

The eight tasks the scheduler of a chat user draws from, over what they read:
the client of the user and its session data.  A task runs up to its first await,
where it may panic; what is left of it is a list of calls and sleeps.
-/

namespace MatrixGoose

open Foundation

namespace Chat

open EventHandler

inductive Panic
  | runTimeParse
  | clientBuild
  | usersIndex
  | gooseUsersIndex
  | taskIndex
  | clientMissing
  | userIdMissing
  | sessionDataMissing
  | joinedRoomMissing
  | messageMissing
  | durationSubtraction
  deriving DecidableEq

def unwrap {Value : Type} (value : Option Value) (panic : Panic) :
    Except Panic Value :=
  match value with
  | some v => .ok v
  | none => .error panic

/-- `choose` of the `rand` crate, over the random number it draws. -/
def choose {Value : Type} (values : List Value) (random : Nat) : Option Value :=
  values[random % values.length]?

/-!
# Clients and their session data
-/

structure Client where
  userId : Option String
  joinedRooms : List RoomId

def Client.getJoinedRoom (client : Client) (roomId : RoomId) : Option RoomId :=
  if roomId ∈ client.joinedRooms then some roomId else none

structure ClientData (Message : Type) where
  roomId : Option RoomId
  roomTokens : RoomId -> Option String
  roomMessages : RoomMessages Message

def ClientData.new {Message : Type} : ClientData Message where
  roomId := none
  roomTokens := fun _ => none
  roomMessages := MultiMap.empty

/-!
# Tasks
-/

inductive TaskIndex
  | doNothing
  | sendText
  | lookAtRoom
  | paginateRoom
  | goAfk
  | changeDisplayName
  | sendImage
  | sendReaction
  deriving DecidableEq

def TaskIndex.from : Nat -> Except Panic TaskIndex
  | 0 => .ok TaskIndex.doNothing
  | 1 => .ok TaskIndex.sendText
  | 2 => .ok TaskIndex.lookAtRoom
  | 3 => .ok TaskIndex.paginateRoom
  | 4 => .ok TaskIndex.goAfk
  | 5 => .ok TaskIndex.changeDisplayName
  | 6 => .ok TaskIndex.sendImage
  | 7 => .ok TaskIndex.sendReaction
  | _ => .error Panic.taskIndex

def indexWeights : List Nat := [11, 6, 4, 2, 1, 1, 0, 1]

inductive Request (Message : Type)
  | typing (roomId : RoomId)
  | message (roomId : RoomId)
  | receipt (roomId : RoomId) (event : Message)
  | messages (roomId : RoomId) (fromToken : Option String)
  | displayName
  | reaction (roomId : RoomId) (event : Message)

inductive Pending (Message : Type)
  | call (request : Request Message)
  | sleep (delay : Nat)

/-- The random numbers of a round: the index of the task, the room, the message
and the delay it draws. -/
structure Draw where
  index : Nat
  room : Nat
  event : Nat
  delay : Nat

section Tasks

variable {Message : Type}

structure View (Message : Type) where
  usersIndex : Nat
  csvUsers : Nat
  client : Option Client
  session : Option (ClientData Message)

/-- The session data after the first part of a task, and the rest of the task. -/
structure TaskStart (Message : Type) where
  session : Option (ClientData Message)
  pending : List (Pending Message)

def doNothing (view : View Message) (draw : Draw) : Except Panic (TaskStart Message) :=
  .ok { session := view.session, pending := [Pending.sleep draw.delay] }

def sendText (view : View Message) (draw : Draw) : Except Panic (TaskStart Message) := do
  let client ← unwrap view.client Panic.clientMissing
  let _ ← unwrap client.userId Panic.userIdMissing
  let clientData ← unwrap view.session Panic.sessionDataMissing
  match clientData.roomId with
  | none => .ok { session := view.session, pending := [] }
  | some roomId =>
      let joined ← unwrap (client.getJoinedRoom roomId) Panic.joinedRoomMissing
      .ok
        { session := view.session
          pending :=
            [Pending.call (Request.typing joined), Pending.sleep draw.delay,
              Pending.call (Request.message roomId)] }

def lookAtRoom (view : View Message) (draw : Draw) : Except Panic (TaskStart Message) := do
  let client ← unwrap view.client Panic.clientMissing
  let clientData ← unwrap view.session Panic.sessionDataMissing
  let _ ← unwrap client.userId Panic.userIdMissing
  match choose client.joinedRooms draw.room with
  | none => .ok { session := view.session, pending := [] }
  | some roomId =>
      match clientData.roomMessages roomId with
      | none => .ok { session := view.session, pending := [] }
      | some events =>
          let event ← unwrap events.getLast? Panic.messageMissing
          let joined ← unwrap (client.getJoinedRoom roomId) Panic.joinedRoomMissing
          .ok
            { session := view.session
              pending := [Pending.call (Request.receipt joined event)] }

def paginateRoom (view : View Message) (draw : Draw) : Except Panic (TaskStart Message) := do
  let client ← unwrap view.client Panic.clientMissing
  let _ ← unwrap client.userId Panic.userIdMissing
  match choose client.joinedRooms draw.room with
  | none => .ok { session := view.session, pending := [] }
  | some roomId =>
      let clientData ← unwrap view.session Panic.sessionDataMissing
      .ok
        { session := some { clientData with roomId := some roomId }
          pending :=
            [Pending.call (Request.messages roomId (clientData.roomTokens roomId))] }

def goAfk (view : View Message) (draw : Draw) : Except Panic (TaskStart Message) :=
  if view.usersIndex < view.csvUsers then
    .ok { session := view.session, pending := [Pending.sleep draw.delay] }
  else .error Panic.usersIndex

def changeDisplayName (view : View Message) : Except Panic (TaskStart Message) := do
  let client ← unwrap view.client Panic.clientMissing
  let _ ← unwrap client.userId Panic.userIdMissing
  .ok { session := view.session, pending := [Pending.call Request.displayName] }

def sendImage (view : View Message) : Except Panic (TaskStart Message) :=
  .ok { session := view.session, pending := [] }

def sendReaction (view : View Message) (draw : Draw) : Except Panic (TaskStart Message) := do
  let client ← unwrap view.client Panic.clientMissing
  let clientData ← unwrap view.session Panic.sessionDataMissing
  let _ ← unwrap client.userId Panic.userIdMissing
  match choose client.joinedRooms draw.room with
  | none => .ok { session := view.session, pending := [] }
  | some roomId =>
      match clientData.roomMessages roomId with
      | none => .ok { session := view.session, pending := [] }
      | some messages =>
          let sliceStart := if messages.length > 10 then messages.length - 11 else 0
          let message ← unwrap (choose (messages.drop sliceStart) draw.event)
            Panic.messageMissing
          .ok
            { session := view.session
              pending := [Pending.call (Request.reaction roomId message)] }

def runTask (view : View Message) (draw : Draw) : Except Panic (TaskStart Message) := do
  match ← TaskIndex.from draw.index with
  | TaskIndex.doNothing => doNothing view draw
  | TaskIndex.sendText => sendText view draw
  | TaskIndex.lookAtRoom => lookAtRoom view draw
  | TaskIndex.paginateRoom => paginateRoom view draw
  | TaskIndex.goAfk => goAfk view draw
  | TaskIndex.changeDisplayName => changeDisplayName view
  | TaskIndex.sendImage => sendImage view
  | TaskIndex.sendReaction => sendReaction view draw

/-- The answer to `/messages` carries the token of the next page. -/
def callDone (session : Option (ClientData Message)) (request : Request Message)
    (token : Option String) : Option (ClientData Message) :=
  match request, token with
  | Request.messages roomId _, some token =>
      session.map fun clientData =>
        { clientData with
          roomTokens := Function.update clientData.roomTokens roomId (some token) }
  | _, _ => session

/-!
# Missing values

A task that looks for its client, its user id or its session data panics exactly
if it does not find it.
-/

/-- The panics of a user that was never logged in. -/
def Panic.isMissing : Panic -> Bool
  | Panic.clientMissing => true
  | Panic.userIdMissing => true
  | Panic.sessionDataMissing => true
  | _ => false

def TaskIndex.needsLogin : TaskIndex -> Bool
  | TaskIndex.sendText => true
  | TaskIndex.lookAtRoom => true
  | TaskIndex.paginateRoom => true
  | TaskIndex.changeDisplayName => true
  | TaskIndex.sendReaction => true
  | _ => false

/-- The task drawn is one of the five that unwrap login data. -/
def Draw.needsLogin (draw : Draw) : Bool :=
  match TaskIndex.from draw.index with
  | .ok task => task.needsLogin
  | .error _ => false

def isMissingPanic {Value : Type} : Except Panic Value -> Bool
  | .error panic => panic.isMissing
  | .ok _ => false

@[simp] theorem unwrap_none {Value : Type} (panic : Panic) :
    unwrap (none : Option Value) panic = .error panic := rfl

@[simp] theorem unwrap_some {Value : Type} (value : Value) (panic : Panic) :
    unwrap (some value) panic = .ok value := rfl

theorem bind_ok {Value Result : Type} (value : Value)
    (next : Value -> Except Panic Result) :
    ((.ok value : Except Panic Value) >>= next) = next value := rfl

theorem bind_error {Value Result : Type} (panic : Panic)
    (next : Value -> Except Panic Result) :
    ((.error panic : Except Panic Value) >>= next) = .error panic := rfl

theorem error_from {index : Nat} {panic : Panic}
    (h : TaskIndex.from index = .error panic) : panic = Panic.taskIndex := by
  unfold TaskIndex.from at h
  split at h <;> cases h
  rfl

theorem isMissingPanic_runTask_of_loggedIn {view : View Message} {client : Client}
    {id : String} {clientData : ClientData Message}
    (hclient : view.client = some client) (hid : client.userId = some id)
    (hsession : view.session = some clientData) (draw : Draw) :
    isMissingPanic (runTask view draw) = false := by
  unfold runTask
  cases htask : TaskIndex.from draw.index with
  | error panic =>
      rw [error_from htask]
      rfl
  | ok task =>
      cases task with
      | doNothing => rfl
      | sendImage => rfl
      | goAfk =>
          simp only [bind_ok, goAfk]
          split <;> rfl
      | changeDisplayName =>
          simp only [bind_ok, changeDisplayName, hclient, hid, unwrap_some]
          rfl
      | sendText =>
          simp only [bind_ok, sendText, hclient, hid, hsession, unwrap_some]
          cases clientData.roomId with
          | none => rfl
          | some roomId =>
              simp only
              cases client.getJoinedRoom roomId <;> rfl
      | lookAtRoom =>
          simp only [bind_ok, lookAtRoom, hclient, hid, hsession, unwrap_some]
          cases choose client.joinedRooms draw.room with
          | none => rfl
          | some roomId =>
              simp only
              cases clientData.roomMessages roomId with
              | none => rfl
              | some events =>
                  simp only
                  cases events.getLast? with
                  | none => rfl
                  | some event => cases client.getJoinedRoom roomId <;> rfl
      | paginateRoom =>
          simp only [bind_ok, paginateRoom, hclient, hid, hsession, unwrap_some]
          cases choose client.joinedRooms draw.room <;> rfl
      | sendReaction =>
          simp only [bind_ok, sendReaction, hclient, hid, hsession, unwrap_some]
          cases choose client.joinedRooms draw.room with
          | none => rfl
          | some roomId =>
              simp only
              cases clientData.roomMessages roomId with
              | none => rfl
              | some messages =>
                  simp only
                  cases choose (messages.drop
                    (if messages.length > 10 then messages.length - 11 else 0))
                    draw.event <;> rfl

theorem isMissingPanic_runTask_of_not_loggedIn {view : View Message}
    {client : Client} (hclient : view.client = some client)
    (hid : client.userId = none) (hsession : view.session = none) (draw : Draw) :
    isMissingPanic (runTask view draw) = draw.needsLogin := by
  unfold runTask Draw.needsLogin
  cases htask : TaskIndex.from draw.index with
  | error panic =>
      rw [error_from htask]
      rfl
  | ok task =>
      cases task with
      | goAfk =>
          simp only [bind_ok, goAfk]
          split <;> rfl
      | _ =>
          simp [bind_ok, bind_error, doNothing, sendText, lookAtRoom, paginateRoom,
            changeDisplayName, sendImage, sendReaction, hclient, hid, hsession,
            isMissingPanic, Panic.isMissing, TaskIndex.needsLogin]

end Tasks

end Chat
end MatrixGoose
