import MatrixGoose.Foundation.Interleaving
import MatrixGoose.Foundation.Traced
import MatrixGoose.Scripts.GenerateRooms
import MatrixGoose.Bin.Setup

/-!
# Creating the generated rooms

Every user of the create_room load test reads `rooms.json`, creates the rooms it is the
creator of, and invites the other users of each.
-/

namespace MatrixGoose

open Foundation

namespace CreateRoom

open EventHandler
open EventHandler.Deserializer
open GenerateRooms
open Setup

/-!
# Reading `rooms.json`
-/

structure RoomInfoSlots where
  creator : Option String
  name : Option String
  users : Option (List String)

def list {α : Type} (inner : Deserializer α) : Deserializer (List α)
  | Json.arr items => items.mapM inner
  | _ => .error SerdeError.invalidType

def visitRoomInfo (slots : RoomInfoSlots) (field : String × Json) :
    Except SerdeError RoomInfoSlots :=
  if field.1 = "creator" then do
    let creator <- setField "creator" slots.creator string field.2
    return { slots with creator }
  else if field.1 = "name" then do
    let name <- setField "name" slots.name string field.2
    return { slots with name }
  else if field.1 = "users" then do
    let users <- setField "users" slots.users (list string) field.2
    return { slots with users }
  else .ok slots

def deserializeRoomInfo : Deserializer RoomInfo
  | Json.obj fields => do
      let slots <- fields.foldlM visitRoomInfo { creator := none, name := none, users := none }
      let creator <- requireField "creator" slots.creator
      let name <- requireField "name" slots.name
      let users <- requireField "users" slots.users
      return { creator, name, users }
  | Json.arr [] => .error (SerdeError.invalidLength 0)
  | Json.arr [creator] => do
      let _ <- string creator
      .error (SerdeError.invalidLength 1)
  | Json.arr [creator, name] => do
      let _ <- string creator
      let _ <- string name
      .error (SerdeError.invalidLength 2)
  | Json.arr (creator :: name :: users :: rest) => do
      let creator <- string creator
      let name <- string name
      let users <- list string users
      endSeq rest
      return { creator, name, users }
  | _ => .error SerdeError.invalidType

def visitRoomList (slot : Option (List RoomInfo)) (field : String × Json) :
    Except SerdeError (Option (List RoomInfo)) :=
  if field.1 = "creators" then
    setField "creators" slot (list deserializeRoomInfo) field.2
  else .ok slot

def deserializeRoomList : Deserializer (List RoomInfo)
  | Json.obj fields => do
      let creators <- fields.foldlM visitRoomList none
      requireField "creators" creators
  | Json.arr [] => .error (SerdeError.invalidLength 0)
  | Json.arr (creators :: rest) => do
      let creators <- list deserializeRoomInfo creators
      endSeq rest
      return creators
  | _ => .error SerdeError.invalidType

/-!
# The transaction
-/

structure CreateRoomRequest where
  name : Option String
  invite : List String
  deriving DecidableEq

inductive Panic
  | userIdInvalid
  deriving DecidableEq

/-- What the server makes of a login, and of each attempt at a request. -/
structure Server where
  login : String -> Bool
  createRoom : CreateRoomRequest -> Nat -> Bool

def Server.AllSucceed (server : Server) : Prop :=
  (forall username, server.login username = true) ∧
    forall request attempt, server.createRoom request attempt = true

/-- Drop the occurrences of a pattern from left to right; inside of one, `skip` more
characters belong to it. -/
def dropOccurrences (pattern : List Char) : Nat -> List Char -> List Char
  | _, [] => []
  | skip + 1, _ :: rest => dropOccurrences pattern skip rest
  | 0, c :: rest =>
      if pattern.isPrefixOf (c :: rest) then
        dropOccurrences pattern (pattern.length - 1) rest
      else c :: dropOccurrences pattern 0 rest

/-- `host_str().replace("matrix.", "")`. -/
def serverName (host : String) : String :=
  String.ofList (dropOccurrences "matrix.".toList 0 host.toList)

def fullName (host name : String) : String :=
  "@" ++ name ++ ":" ++ serverName host

section Transaction

variable (isUserId : String -> Bool) (host : String) (server : Server)

/-- `<&UserId>::try_from(full_name).unwrap()` for each of the users. -/
def inviteList (users : List String) : Except Panic (List String) :=
  users.mapM fun name =>
    if isUserId (fullName host name) then .ok (fullName host name)
    else .error Panic.userIdInvalid

def sendRequest (request : CreateRoomRequest) :
    Nat -> Traced CreateRoomRequest Panic Unit
  | 0 => pure ()
  | retries + 1 => do
      Traced.emit [request]
      if server.createRoom request (4 - (retries + 1)) then pure ()
      else sendRequest request retries

def createOwnRoom (roomInfo : RoomInfo) : Traced CreateRoomRequest Panic Unit := do
  let invite ← Traced.ofExcept (inviteList isUserId host roomInfo.users)
  sendRequest server { name := some roomInfo.name, invite } 3

def createRoom (creators : List RoomInfo) (username : String) :
    Traced CreateRoomRequest Panic Unit :=
  if (ownedRooms creators username).length > 0 then
    if server.login username then
      Traced.forEach (ownedRooms creators username) (createOwnRoom isUserId host server)
    else pure ()
  else pure ()

/-- What each user of the roster sends; others run no transaction. -/
def requestsOf (users : List String) (creators : List RoomInfo) (username : String) :
    List CreateRoomRequest :=
  if username ∈ users then (createRoom isUserId host server creators username).trace
  else []

end Transaction

/-!
# The rooms that should be there
-/

def creationOf (host : String) (room : String × List String) :
    String × CreateRoomRequest :=
  (room.2.headD "",
    { name := some room.1, invite := room.2.tail.map (fullName host) })

/-- A room is created by one of its members, which invites the others once each. -/
structure MembersInvited (host : String) (users : List String)
    (room : String × List String) : Prop where
  size : 2 <= room.2.length ∧ room.2.length <= users.length
  members : forall member, member ∈ room.2 <->
    member = (creationOf host room).1 ∨
      fullName host member ∈ (creationOf host room).2.invite
  nodup : (creationOf host room).2.invite.Nodup
  creator : fullName host (creationOf host room).1 ∉ (creationOf host room).2.invite

/-- Every room drawn is created once, and no other one. -/
structure RoomsCreated (host : String) (users : List String)
    (rooms : List (String × List String)) (log : List (String × CreateRoomRequest)) :
    Prop where
  created : log.Perm (rooms.map (creationOf host))
  distinct : (rooms.map Prod.fst).Nodup
  invited : forall room, room ∈ rooms -> MembersInvited host users room

/-!
# The file is read as it was written
-/

def infoOf (room : String × List String) : RoomInfo where
  creator := room.2.headD ""
  name := room.1
  users := room.2.tail

theorem list_string (values : List String) :
    list string (Json.arr (values.map Json.str)) = .ok values := by
  show (values.map Json.str).mapM string = .ok values
  induction values with
  | nil => rfl
  | cons value rest ih =>
      rw [List.map_cons, List.mapM_cons, ih]
      rfl

theorem deserializeRoomInfo_of_roomInfo {room : String × List String} {json : Json}
    (h : roomInfo room = .ok json) : deserializeRoomInfo json = .ok (infoOf room) := by
  rcases room with ⟨name, members⟩
  cases members with
  | nil => cases h
  | cons creator users =>
      cases h
      have husers := list_string users
      simp [deserializeRoomInfo, visitRoomInfo, setField, requireField, string, husers,
        infoOf, bind, Except.bind, pure, Except.pure, Except.map]

theorem list_deserializeRoomInfo {rooms : List (String × List String)}
    {creators : List Json} (h : rooms.mapM roomInfo = .ok creators) :
    list deserializeRoomInfo (Json.arr creators) = .ok (rooms.map infoOf) := by
  show creators.mapM deserializeRoomInfo = .ok (rooms.map infoOf)
  induction rooms generalizing creators with
  | nil =>
      cases h
      rfl
  | cons room rest ih =>
      rw [List.mapM_cons] at h
      cases hfirst : roomInfo room with
      | error e =>
          rw [hfirst] at h
          cases h
      | ok first =>
          cases hrest : rest.mapM roomInfo with
          | error e =>
              rw [hfirst, hrest] at h
              cases h
          | ok others =>
              rw [hfirst, hrest] at h
              cases h
              rw [List.mapM_cons, deserializeRoomInfo_of_roomInfo hfirst, ih hrest]
              rfl

/-- The load test reads an entry for every room that the script has drawn. -/
theorem deserializeRoomList_of_generateRooms {users : List String} {draws : Draws users}
    {file : Json} (h : generateRooms users draws = .ok file) :
    deserializeRoomList file = .ok ((drawnRooms draws).map infoOf) := by
  rcases exists_creators h with ⟨creators, hcreators, rfl⟩
  have hlist := list_deserializeRoomInfo hcreators
  simp [deserializeRoomList, visitRoomList, setField, requireField, hlist, bind,
    Except.bind, pure, Except.pure, Except.map]

/-!
# What a user sends
-/

section Requests

variable {isUserId : String -> Bool} {host : String} {server : Server}

theorem inviteList_eq {users : List String}
    (hvalid : forall name, name ∈ users -> isUserId (fullName host name) = true) :
    inviteList isUserId host users = .ok (users.map (fullName host)) := by
  unfold inviteList
  induction users with
  | nil => rfl
  | cons name rest ih =>
      rw [List.mapM_cons, if_pos (hvalid name List.mem_cons_self),
        ih fun other hother => hvalid other (List.mem_cons_of_mem name hother)]
      rfl

theorem sendRequest_eq (hserver : server.AllSucceed) (request : CreateRoomRequest) :
    sendRequest server request 3 = { trace := [request], result := .ok () } := by
  rw [sendRequest, hserver.2]
  rfl

theorem createOwnRoom_eq (hserver : server.AllSucceed) {room : String × List String}
    (hvalid : forall name, name ∈ room.2 -> isUserId (fullName host name) = true) :
    createOwnRoom isUserId host server (infoOf room) =
      { trace := [(creationOf host room).2], result := .ok () } := by
  rw [createOwnRoom, inviteList_eq]
  · exact sendRequest_eq hserver (creationOf host room).2
  · intro name hname
    exact hvalid name (List.mem_of_mem_tail hname)

def roomsOf (rooms : List (String × List String)) (username : String) :
    List (String × List String) :=
  rooms.filter fun room => room.2.headD "" = username

theorem ownedRooms_map (rooms : List (String × List String)) (username : String) :
    ownedRooms (rooms.map infoOf) username = (roomsOf rooms username).map infoOf :=
  List.filter_map

theorem threadOf_creations (rooms : List (String × List String)) (username : String) :
    threadOf username (rooms.map (creationOf host)) =
      (roomsOf rooms username).map fun room => (creationOf host room).2 := by
  rw [threadOf, List.filter_map, List.map_map]
  rfl

theorem createOwnRooms_eq (hserver : server.AllSucceed)
    {rooms : List (String × List String)}
    (hvalid : forall room, room ∈ rooms -> forall name, name ∈ room.2 ->
      isUserId (fullName host name) = true) :
    Traced.forEach (rooms.map infoOf) (createOwnRoom isUserId host server) =
      { trace := rooms.map fun room => (creationOf host room).2, result := .ok () } := by
  induction rooms with
  | nil => rfl
  | cons room rest ih =>
      have hfirst := createOwnRoom_eq hserver (hvalid room List.mem_cons_self)
      rw [List.map_cons, Traced.forEach_cons, hfirst,
        ih fun other hother => hvalid other (List.mem_cons_of_mem room hother)]
      rfl

theorem createRoom_eq (hserver : server.AllSucceed)
    {rooms : List (String × List String)}
    (hvalid : forall room, room ∈ rooms -> forall name, name ∈ room.2 ->
      isUserId (fullName host name) = true) (username : String) :
    createRoom isUserId host server (rooms.map infoOf) username =
      { trace := threadOf username (rooms.map (creationOf host)), result := .ok () } := by
  have hvalidOf : forall room, room ∈ roomsOf rooms username -> forall name,
      name ∈ room.2 -> isUserId (fullName host name) = true :=
    fun room hroom => hvalid room (List.mem_of_mem_filter hroom)
  rw [createRoom, ownedRooms_map, hserver.1, threadOf_creations]
  split
  · rw [if_pos rfl]
    exact createOwnRooms_eq hserver hvalidOf
  · next hnone =>
      have hempty : roomsOf rooms username = [] := by
        apply List.eq_nil_of_length_eq_zero
        rw [List.length_map] at hnone
        omega
      rw [hempty]
      rfl

end Requests

theorem fullName_injective {host name other : String}
    (h : fullName host name = fullName host other) : name = other := by
  unfold fullName at h
  rw [String.append_left_inj, String.append_left_inj, String.append_right_inj] at h
  exact h

theorem fullName_mem_map {host name : String} {names : List String} :
    fullName host name ∈ names.map (fullName host) <-> name ∈ names := by
  rw [List.mem_map]
  constructor
  · intro h
    rcases h with ⟨other, hother, hname⟩
    rw [← fullName_injective hname]
    exact hother
  · intro h
    exact ⟨name, h, rfl⟩

theorem membersInvited {host : String} {users : List String} (hnodup : users.Nodup)
    {room : String × List String} (hroom : RoomSampled users room) :
    MembersInvited host users room := by
  have hmembers := hroom.nodup hnodup
  rcases hroom.exists_creator with ⟨creator, invited, hcreator⟩
  have hcreation : creationOf host room =
      (creator, { name := some room.1, invite := invited.map (fullName host) }) := by
    unfold creationOf
    rw [hcreator]
    rfl
  rw [hcreator, List.nodup_cons] at hmembers
  constructor
  · exact ⟨hroom.two_le, hroom.length_le⟩
  · intro member
    rw [hcreation, fullName_mem_map, hcreator, List.mem_cons]
  · rw [hcreation]
    exact hmembers.2.map fun _ _ h => fullName_injective h
  · rw [hcreation, fullName_mem_map]
    exact hmembers.1

/-!
# All transactions together
-/

theorem threadOf_of_not_mem {host : String} {users : List String}
    {rooms : List (String × List String)}
    (hrooms : forall room, room ∈ rooms -> RoomSampled users room) {username : String}
    (hnot : username ∉ users) :
    threadOf username (rooms.map (creationOf host)) = [] := by
  rw [threadOf_creations, roomsOf, List.map_eq_nil_iff, List.filter_eq_nil_iff]
  intro room hroom
  rcases (hrooms room hroom).exists_creator with ⟨creator, invited, hcreator⟩
  have hmem := (hrooms room hroom).mem_users creator (by rw [hcreator]; exact List.mem_cons_self)
  rw [hcreator]
  intro heq
  rw [decide_eq_true_eq] at heq
  subst heq
  exact hnot hmem

/-- If the users of the roster have valid ids and all requests succeed, then the
transactions of all users, however they take turns, create the rooms that the script has
drawn. -/
theorem roomsCreated {isUserId : String -> Bool} {host : String} {server : Server}
    {users : List String} {draws : Draws users} {file : Json} (hnodup : users.Nodup)
    (hvalid : forall name, name ∈ users -> isUserId (fullName host name) = true)
    (hgenerate : generateRooms users draws = .ok file) (hserver : server.AllSucceed) :
    exists creators, deserializeRoomList file = .ok creators ∧
      (forall username, username ∈ users ->
        (createRoom isUserId host server creators username).result = .ok ()) ∧
      forall log, IsInterleaving (requestsOf isUserId host server users creators) log ->
        RoomsCreated host users (drawnRooms draws) log := by
  have hsampled : forall room, room ∈ drawnRooms draws -> RoomSampled users room :=
    fun room hroom => drawnRooms_sampled draws hroom
  have hvalidRooms : forall room, room ∈ drawnRooms draws -> forall name, name ∈ room.2 ->
      isUserId (fullName host name) = true :=
    fun room hroom name hname => hvalid name ((hsampled room hroom).mem_users name hname)
  have htransaction := createRoom_eq hserver hvalidRooms
  refine ⟨_, deserializeRoomList_of_generateRooms hgenerate, ?_, ?_⟩
  · intro username _
    rw [htransaction]
  · intro log hlog
    refine ⟨hlog.perm ?_, drawnRooms_names_nodup draws, ?_⟩
    · intro username
      unfold requestsOf
      split
      · rw [htransaction]
      · next hnot => exact threadOf_of_not_mem hsampled hnot
    · intro room hroom
      exact membersInvited hnodup (hsampled room hroom)

/-!
# Two samples
-/

/-- A host name, with a port if there is a colon. -/
def isServerName (server : List Char) : Bool :=
  let host := server.takeWhile fun c => c != ':'
  let port := server.dropWhile fun c => c != ':'
  !host.isEmpty && (host.all fun c => c.isAlphanum || c == '-' || c == '.') &&
    (port.isEmpty || (!port.tail.isEmpty && port.tail.all Char.isDigit))

/-- An `@`, and a server name after the first colon. -/
def isSampleUserId (text : String) : Bool :=
  text.toList.head? == some '@' &&
    match text.toList.dropWhile fun c => c != ':' with
    | _ :: server => isServerName server
    | [] => false

def sampleServer : Server where
  login := fun _ => true
  createRoom := fun _ _ => true

theorem sampleServer_allSucceed : sampleServer.AllSucceed :=
  ⟨fun _ => rfl, fun _ _ => rfl⟩

def bothUsers (first second : String) : Draws [first, second] where
  sizes := [5, 1]
  length_sizes := rfl
  shuffled := fun _ => [first, second]
  perm := fun _ => List.Perm.refl _

theorem roomsCreated_both_users :
    exists file creators, generateRooms ["a", "b"] (bothUsers "a" "b") = .ok file ∧
      deserializeRoomList file = .ok creators ∧
      forall log, IsInterleaving
          (requestsOf isSampleUserId "matrix.example.org" sampleServer ["a", "b"]
            creators) log ->
        RoomsCreated "matrix.example.org" ["a", "b"] (drawnRooms (bothUsers "a" "b")) log := by
  have hgenerate : exists file,
      generateRooms ["a", "b"] (bothUsers "a" "b") = .ok file := ⟨_, rfl⟩
  rcases hgenerate with ⟨file, hfile⟩
  rcases @roomsCreated isSampleUserId "matrix.example.org" sampleServer ["a", "b"]
    (bothUsers "a" "b") file (by decide) (by decide) hfile sampleServer_allSucceed
    with ⟨creators, hread, _, hlog⟩
  exact ⟨file, creators, hfile, hread, hlog⟩

/-- A user name with a colon makes no user id, so the transaction that invites this user
panics before it sends its request. -/
theorem room_of_invalid_name :
    exists file creators, generateRooms ["a", "b:c"] (bothUsers "a" "b:c") = .ok file ∧
      deserializeRoomList file = .ok creators ∧ ["a", "b:c"].Nodup ∧
      (createRoom isSampleUserId "matrix.example.org" sampleServer creators "a").result =
        .error Panic.userIdInvalid ∧
      IsInterleaving
        (requestsOf isSampleUserId "matrix.example.org" sampleServer ["a", "b:c"] creators)
        [] ∧
      ¬ RoomsCreated "matrix.example.org" ["a", "b:c"]
        (drawnRooms (bothUsers "a" "b:c")) [] := by
  refine ⟨_, _, rfl, rfl, by decide, rfl, ?_, ?_⟩
  · intro username
    unfold requestsOf
    split
    · next hmem =>
        rw [List.mem_cons, List.mem_singleton] at hmem
        rcases hmem with rfl | rfl <;> rfl
    · rfl
  · intro hrooms
    exact absurd hrooms.created.length_eq (by decide)

end CreateRoom
end MatrixGoose
