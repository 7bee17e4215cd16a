import Mathlib.Data.List.Forall2
import Mathlib.Data.List.GetD
import Mathlib.Data.List.Induction
import MatrixGoose.Bin.CreateRoom
import MatrixGoose.Bin.Join
import MatrixGoose.Bin.UsersCsv
import MatrixGoose.Scripts.RoomAnalysis

/-!
# The whole set-up

The users are generated, the rooms are drawn from them, the create_room load test creates
the rooms, and the join load test joins them.  What the script that draws the rooms prints
about them is then true of the homeserver.
-/

namespace MatrixGoose

open Foundation

namespace SetupPipeline

open CreateRoom
open GenerateRooms (Analysis RoomSampled analyze drawnRooms drawnRooms_sampled
  generateAndAnalyze generateRooms userNumRooms)
open Join

/-!
# The homeserver
-/

/-- What the load tests may rely on in a homeserver: it has the rooms in the order in which
they were created; creating one makes its creator a member and invites others, and leaves the
other rooms alone. -/
structure Homeserver (State RoomId : Type) extends RoomServer State RoomId where
  serverName : String
  rooms : State -> List RoomId
  name : State -> RoomId -> Option String
  createRoom : State -> String -> CreateRoomRequest -> State
  createRoom_spec : forall s creator request, exists roomId, roomId ∉ rooms s ∧
    rooms (createRoom s creator request) = rooms s ++ [roomId] ∧
    name (createRoom s creator request) roomId = request.name ∧
    (forall user, membership (createRoom s creator request) roomId user =
      if user = creator then Membership.join
      else if user ∈ request.invite then Membership.invite
      else Membership.leave) ∧
    forall other, other ≠ roomId ->
      name (createRoom s creator request) other = name s other ∧
      forall user, membership (createRoom s creator request) other user =
        membership s other user
  rooms_join : forall s roomId user, rooms (join s roomId user) = rooms s
  name_join : forall s roomId user other, name (join s roomId user) other = name s other

section Pipeline

variable {State RoomId : Type} (H : Homeserver State RoomId)

def Homeserver.userId (name : String) : String :=
  "@" ++ name ++ ":" ++ H.serverName

def createRooms (s : State) (log : List (String × CreateRoomRequest)) : State :=
  log.foldl (fun s entry => H.createRoom s (H.userId entry.1) entry.2) s

def rosterIds (users : List String) (i : Nat) : String :=
  H.userId (users.getD i "")

/-- The room that a request makes: its sender has joined it, and others are invited. -/
structure Created (s : State) (entry : String × CreateRoomRequest) (roomId : RoomId) :
    Prop where
  name : H.name s roomId = entry.2.name
  membership : forall user, H.membership s roomId user =
    if user = H.userId entry.1 then Membership.join
    else if user ∈ entry.2.invite then Membership.invite
    else Membership.leave

/-- Exactly the members that were drawn for a room are in it, and nobody is invited. -/
structure Filled (s : State) (drawn : String × List String) (roomId : RoomId) : Prop where
  name : H.name s roomId = some drawn.1
  membership : forall user, H.membership s roomId user =
    if user ∈ drawn.2.map H.userId then Membership.join else Membership.leave

/-- The transaction of every user of the roster has finished, and nothing has failed for
good. -/
structure AllJoined (users : List String) (w : JoinWorld State RoomId) : Prop where
  finished : forall i, i < users.length -> w.memory i = Phase.finished
  loggedIn : forall i, Join.Entry.failedLogin i ∉ w.shared.log
  synced : forall i invited, Join.Entry.syncOnce i false invited ∉ w.shared.log
  tried : forall i roomId, Join.Entry.skipping i roomId ∉ w.shared.log

def joinedRooms (s : State) (user : String) : Nat :=
  (H.rooms s).countP fun roomId => H.membership s roomId user = Membership.join

/-- The users that have joined no room, all rooms, or a hundred and more. -/
def analysisOf (users : List String) (s : State) : Analysis where
  roomless := users.filter fun user => joinedRooms H s (H.userId user) = 0
  inAllRooms := users.filter fun user => joinedRooms H s (H.userId user) = (H.rooms s).length
  centurions := users.filter fun user => 100 <= joinedRooms H s (H.userId user)

variable {H}
variable {isUserId : String -> Bool} {host : String} {server : Server}
variable {users : List String} {draws : GenerateRooms.Draws users}

/-!
# Creating the rooms
-/

theorem fullName_eq_userId (hhost : serverName host = H.serverName) :
    fullName host = H.userId := by
  funext name
  rw [fullName, hhost]
  rfl

theorem Created.createRoom {s : State} {entry : String × CreateRoomRequest} {roomId : RoomId}
    {creator : String} {request : CreateRoomRequest} (h : Created H s entry roomId)
    (hname : H.name (H.createRoom s creator request) roomId = H.name s roomId)
    (hmember : forall user, H.membership (H.createRoom s creator request) roomId user =
      H.membership s roomId user) :
    Created H (H.createRoom s creator request) entry roomId :=
  ⟨hname.trans h.name, fun user => (hmember user).trans (h.membership user)⟩

theorem created_createRooms {s : State} (hempty : H.rooms s = [])
    (log : List (String × CreateRoomRequest)) :
    List.Forall₂ (Created H (createRooms H s log)) log (H.rooms (createRooms H s log)) := by
  induction log using List.reverseRecOn with
  | nil =>
      show List.Forall₂ _ [] (H.rooms s)
      rw [hempty]
      exact List.Forall₂.nil
  | append_singleton log entry ih =>
      have hfold : createRooms H s (log ++ [entry]) =
          H.createRoom (createRooms H s log) (H.userId entry.1) entry.2 := by
        rw [createRooms, List.foldl_append]
        rfl
      rw [hfold]
      rcases H.createRoom_spec (createRooms H s log) (H.userId entry.1) entry.2 with
        ⟨roomId, hnew, hrooms, hname, hmember, hothers⟩
      rw [hrooms]
      apply List.rel_append
      · rw [List.forall₂_iff_zip] at ih ⊢
        refine ⟨ih.1, ?_⟩
        intro old other hmem
        have hne : other ≠ roomId := by
          intro heq
          subst heq
          exact hnew (List.of_mem_zip hmem).2
        exact (ih.2 hmem).createRoom (hothers other hne).1 (hothers other hne).2
      · exact List.Forall₂.cons ⟨hname, hmember⟩ List.Forall₂.nil

/-- The requests of all transactions are those of the rooms drawn, in some order. -/
theorem exists_order (hserver : server.AllSucceed)
    (hvalid : forall name, name ∈ users -> isUserId (fullName host name) = true)
    {log : List (String × CreateRoomRequest)}
    (hlog : IsInterleaving
      (requestsOf isUserId host server users ((drawnRooms draws).map infoOf)) log) :
    exists order : List (String × List String), order.Perm (drawnRooms draws) ∧
      log = order.map (creationOf host) := by
  have hsampled : forall room, room ∈ drawnRooms draws -> RoomSampled users room :=
    fun room hroom => drawnRooms_sampled draws hroom
  have hperm : log.Perm ((drawnRooms draws).map (creationOf host)) := by
    apply hlog.perm
    intro username
    unfold requestsOf
    split
    · rw [createRoom_eq hserver fun room hroom name hname =>
        hvalid name ((hsampled room hroom).mem_users name hname)]
    · next hnot => exact threadOf_of_not_mem hsampled hnot
  have hrooms : List.Forall₂ (fun entry room => entry = creationOf host room)
      ((drawnRooms draws).map (creationOf host)) (drawnRooms draws) :=
    List.forall₂_map_left_iff.mpr (List.forall₂_same.mpr fun _ _ => rfl)
  rcases List.perm_comp_forall₂ hperm hrooms with ⟨order, horder, hsame⟩
  refine ⟨order, hsame, ?_⟩
  have hmap : List.Forall₂ Eq log (order.map (creationOf host)) :=
    List.forall₂_map_right_iff.mpr horder
  rwa [List.forall₂_eq_eq_eq] at hmap

/-!
# Joining the rooms
-/

theorem rooms_name_join [DecidableEq RoomId] {userId : Nat -> String} {start : State}
    {w : JoinWorld State RoomId}
    {events : List (Components.Event Nat (Environment RoomId) (Action RoomId))}
    (hrun : (joins H.toRoomServer userId start).system.run events = some w) :
    H.rooms w.shared.server = H.rooms start ∧
      forall roomId, H.name w.shared.server roomId = H.name start roomId := by
  apply TransitionSystem.invariant_runFrom
    (P := fun w => H.rooms w.shared.server = H.rooms start ∧
      forall roomId, H.name w.shared.server roomId = H.name start roomId) ?_ ?_ hrun
  · intro w e w' hw hstep
    cases e with
    | component i a =>
        rcases joinStep_of_eq_some (Components.step_of_worldStep hstep) with
          ⟨entries, hshared, _⟩
        rw [hshared]
        exact hw
    | environment e =>
        rcases Components.worldStep_environment_eq_some.mp hstep with ⟨shared, hshared, rfl⟩
        rcases server_of_performJoin hshared with ⟨roomId, user, hserver⟩
        show H.rooms shared.server = _ ∧ forall other, H.name shared.server other = _
        rw [hserver, H.rooms_join]
        exact ⟨hw.1, fun other => (H.name_join _ _ _ _).trans (hw.2 other)⟩
  · exact ⟨rfl, fun _ => rfl⟩

theorem filled_of_onlyJoined {start s : State} {drawn : String × List String} {roomId : RoomId}
    (hhost : serverName host = H.serverName) (hsampled : RoomSampled users drawn)
    (hcreated : Created H start (creationOf host drawn) roomId)
    (hname : H.name s roomId = H.name start roomId)
    (hjoined : OnlyJoined H.toRoomServer start s)
    (hnone : forall member, member ∈ drawn.2 ->
      H.membership s roomId (H.userId member) ≠ Membership.invite) :
    Filled H s drawn roomId := by
  refine ⟨hname.trans hcreated.name, ?_⟩
  rcases hsampled.exists_creator with ⟨creator, invited, hdrawn⟩
  intro user
  have hmember := hcreated.membership user
  have hcreation : creationOf host drawn =
      (creator, { name := some drawn.1, invite := invited.map H.userId }) := by
    rw [creationOf, hdrawn, fullName_eq_userId hhost]
    rfl
  rw [hcreation] at hmember
  rw [hdrawn, List.map_cons]
  rcases hjoined roomId user with hsame | ⟨hinvite, hjoin⟩
  · rw [hsame, hmember]
    split
    · next hcreator => rw [if_pos (List.mem_cons.mpr (Or.inl hcreator))]
    · next hcreator =>
        split
        · next hinvited =>
            rcases List.mem_map.mp hinvited with ⟨member, hmem, rfl⟩
            apply absurd _ (hnone member (by rw [hdrawn]; exact List.mem_cons_of_mem _ hmem))
            rw [hsame, hmember, if_neg hcreator, if_pos hinvited]
        · next hinvited =>
            rw [if_neg (List.not_mem_cons_of_ne_of_not_mem hcreator hinvited)]
  · rw [hjoin, if_pos]
    rw [hinvite] at hmember
    split at hmember
    · cases hmember
    · split at hmember
      · next hinvited => exact List.mem_cons_of_mem _ hinvited
      · cases hmember

section Joined

variable [DecidableEq RoomId] {start : State} {w : JoinWorld State RoomId}

theorem not_invited_of_allJoined (hkept : JoinsKept H.toRoomServer start (rosterIds H users) w)
    (hall : AllJoined users w) {member : String} (hmember : member ∈ users) (roomId : RoomId) :
    H.membership w.shared.server roomId (H.userId member) ≠ Membership.invite := by
  rcases List.mem_iff_getElem.mp hmember with ⟨i, hi, hget⟩
  have hid : rosterIds H users i = H.userId member := by
    rw [rosterIds, List.getD_eq_getElem _ _ hi, hget]
  intro hinvited
  have hprogress := hkept.progress i
  rw [hall.finished i hi] at hprogress
  rw [← hid] at hinvited
  cases Trying.left hprogress roomId nofun hinvited with
  | failedLogin hlogin => exact hall.loggedIn i hlogin
  | failedSync hsync hunknown => exact hall.synced i _ hsync
  | skipped hskip hfailures => exact hall.tried i roomId hskip

theorem allFilled {order : List (String × List String)}
    {events : List (Components.Event Nat (Environment RoomId) (Action RoomId))}
    (hhost : serverName host = H.serverName) (hempty : H.rooms start = [])
    (horder : order.Perm (drawnRooms draws))
    (hrun : (joins H.toRoomServer (rosterIds H users)
      (createRooms H start (order.map (creationOf host)))).system.run events = some w)
    (hall : AllJoined users w) :
    List.Forall₂ (Filled H w.shared.server) order (H.rooms w.shared.server) := by
  have hkept := joinsKept_run hrun
  rcases rooms_name_join hrun with ⟨hrooms, hname⟩
  have hcreated := created_createRooms hempty (order.map (creationOf host))
  rw [List.forall₂_map_left_iff, ← hrooms, List.forall₂_iff_zip] at hcreated
  rw [List.forall₂_iff_zip]
  refine ⟨hcreated.1, ?_⟩
  intro drawn roomId hmem
  have hsampled : RoomSampled users drawn :=
    drawnRooms_sampled draws (horder.mem_iff.mp (List.of_mem_zip hmem).1)
  apply filled_of_onlyJoined hhost hsampled (hcreated.2 hmem) (hname roomId) hkept.rooms
  intro member hmember
  exact not_invited_of_allJoined hkept hall (hsampled.mem_users member hmember) roomId

end Joined

theorem Homeserver.userId_injective {name other : String}
    (h : H.userId name = H.userId other) : name = other := by
  unfold Homeserver.userId at h
  rw [String.append_left_inj, String.append_left_inj, String.append_right_inj] at h
  exact h

theorem joinedRooms_of_filled {order : List (String × List String)} {s : State}
    (hfilled : List.Forall₂ (Filled H s) order (H.rooms s)) (user : String) :
    joinedRooms H s (H.userId user) = order.countP fun room => user ∈ room.2 := by
  unfold joinedRooms
  generalize H.rooms s = rooms at hfilled ⊢
  induction hfilled with
  | nil => rfl
  | cons hroom hrest ih =>
      rw [List.countP_cons, List.countP_cons, ih]
      congr 1
      have hmem := fun members =>
        List.mem_map_of_injective (l := members) (a := user) fun _ _ => H.userId_injective
      rw [hroom.membership]
      simp only [hmem]
      split <;> simp_all

theorem analyze_eq_analysisOf {order : List (String × List String)} {s : State}
    (hnodup : users.Nodup) (horder : order.Perm (drawnRooms draws))
    (hfilled : List.Forall₂ (Filled H s) order (H.rooms s)) :
    analyze users (drawnRooms draws).length (drawnRooms draws) = analysisOf H users s := by
  have hcount : forall user,
      userNumRooms (drawnRooms draws) user = joinedRooms H s (H.userId user) := by
    intro user
    rw [GenerateRooms.userNumRooms_eq fun room hroom =>
      (drawnRooms_sampled draws hroom).nodup hnodup]
    rw [joinedRooms_of_filled hfilled]
    exact (horder.countP_eq _).symm
  have hlength : (drawnRooms draws).length = (H.rooms s).length :=
    horder.length_eq.symm.trans hfilled.length_eq
  unfold analyze analysisOf
  simp only [hcount, hlength, Nat.lt_one_iff]
  rfl

end Pipeline

/-!
# A sample
-/

def listHomeserver : Homeserver (List Join.Room) Nat where
  toRoomServer := listServer
  serverName := "example.org"
  rooms rooms := List.range rooms.length
  name rooms roomId := rooms[roomId]?.bind Join.Room.name
  createRoom rooms creator request := rooms ++ [
    { name := request.name
      membership := fun user =>
        if user = creator then Membership.join
        else if user ∈ request.invite then Membership.invite
        else Membership.leave }]
  createRoom_spec := by
    intro rooms creator request
    refine ⟨rooms.length, by simp, by simp [List.range_succ], by simp, ?_, ?_⟩
    · intro user
      simp [listServer, membershipIn]
    · intro other hne
      have hget : forall room : Join.Room, (rooms ++ [room])[other]? = rooms[other]? := by
        intro room
        rcases Nat.lt_or_gt_of_ne hne with hlt | hgt
        · exact List.getElem?_append_left hlt
        · rw [List.getElem?_eq_none (Nat.le_of_lt hgt), List.getElem?_eq_none]
          rw [List.length_append, List.length_singleton]
          exact hgt
      exact ⟨by rw [hget], fun user => by simp only [listServer, membershipIn, hget]⟩
  rooms_join := by
    intro rooms roomId user
    simp [listServer]
  name_join := by
    intro rooms roomId user other
    simp only [listServer, List.getElem?_modify]
    cases rooms[other]? with
    | none => rfl
    | some room => by_cases h : roomId = other <;> simp [h, Join.Room.join]

theorem roster_two_users :
    UsersCsv.roster UsersCsv.rfc4180 (GenerateUsers.generateUsers 2 UsersCsv.samplePasswords) =
      some ["user.000000", "user.000001"] := by
  rw [UsersCsv.roster_generateUsers]
  rfl

def roomOfUserZero : List (String × CreateRoomRequest) :=
  [("user.000000", { name := some "Room 0", invite := ["@user.000001:example.org"] })]

def userOneJoins : List (Components.Event Nat (Environment Nat) (Action Nat)) :=
  [Components.Event.component 1 (Action.newClient true),
    Components.Event.component 0 (Action.newClient true),
    Components.Event.component 1 (Action.login true),
    Components.Event.component 0 (Action.login true),
    Components.Event.component 1 (Action.syncOnce true [0]),
    Components.Event.component 0 (Action.syncOnce true []),
    Components.Event.component 1 Action.joinRoomById,
    Components.Event.environment (Environment.join 1 0),
    Components.Event.component 1 (Action.response true)]

theorem isUserId_two_users : forall name, name ∈ ["user.000000", "user.000001"] ->
    isSampleUserId (fullName "matrix.example.org" name) = true := by decide

def twoUsersStart : List Join.Room :=
  createRooms listHomeserver [] roomOfUserZero

theorem run_userOneJoins :
    exists w,
      (joins listHomeserver.toRoomServer
        (rosterIds listHomeserver ["user.000000", "user.000001"]) twoUsersStart).system.run
        userOneJoins = some w ∧
      AllJoined ["user.000000", "user.000001"] w := by
  have hrun : exists w,
      (joins listHomeserver.toRoomServer
        (rosterIds listHomeserver ["user.000000", "user.000001"]) twoUsersStart).system.run
        userOneJoins = some w ∧
      w.memory 0 = Phase.finished ∧ w.memory 1 = Phase.finished ∧
      w.shared.log = [Join.Entry.syncOnce 1 true [0], Join.Entry.syncOnce 0 true [],
        Join.Entry.joinRoomById 1 0, Join.Entry.joined 1 0] :=
    ⟨_, rfl, rfl, rfl, rfl⟩
  rcases hrun with ⟨w, hrun, hzero, hone, hlog⟩
  refine ⟨w, hrun, ?_⟩
  constructor
  · intro i hi
    match i with
    | 0 => exact hzero
    | 1 => exact hone
  · simp [hlog]
  · simp [hlog]
  · simp [hlog]

theorem isInterleaving_roomOfUserZero :
    IsInterleaving
      (requestsOf isSampleUserId "matrix.example.org" sampleServer
        ["user.000000", "user.000001"]
        ((drawnRooms (bothUsers "user.000000" "user.000001")).map infoOf)) roomOfUserZero := by
  intro username
  unfold requestsOf
  split
  · next hmem =>
      rw [List.mem_cons, List.mem_singleton] at hmem
      rcases hmem with rfl | rfl <;> rfl
  · next hmem =>
      rw [roomOfUserZero, threadOf_cons_of_ne]
      · rfl
      · intro heq
        subst heq
        exact hmem List.mem_cons_self

def twoUsersAnalysis : Analysis where
  roomless := []
  inAllRooms := ["user.000000", "user.000001"]
  centurions := []

end SetupPipeline
end MatrixGoose
