import Mathlib.Data.List.Nodup
import Mathlib.Data.List.Perm.Subperm
import MatrixGoose.Foundation.Dict
import MatrixGoose.Foundation.Numeral
import MatrixGoose.Matrix.EventHandler.RawEvent

/-!
# Generating rooms

The script `generate_rooms.py` draws the sizes of the rooms and a sample of the users
for each room, and writes for each room who creates it and who is invited.
-/

namespace MatrixGoose

open Foundation

namespace GenerateRooms

inductive PythonError
  | zeroDivisionError
  | valueError
  | indexError
  deriving DecidableEq

/-- The random numbers of a run over these users: the rounded Pareto variates, and a
shuffled roster for each sample. -/
structure Draws (users : List String) where
  sizes : List Nat
  length_sizes : sizes.length = users.length
  shuffled : Nat -> List String
  perm : forall i, (shuffled i).Perm users

/-- The sizes of the rooms: at most all users, and none of a single user. -/
def roomSizes (numUsers : Nat) (drawn : List Nat) : List Nat :=
  drawn.filterMap fun s =>
    let s := if s > numUsers then numUsers else s
    if s < 2 then none else some s

/-- `random.sample` over a shuffled population. -/
def sample (shuffled : List String) (k : Nat) : Except PythonError (List String) :=
  if k > shuffled.length then .error PythonError.valueError else .ok (shuffled.take k)

def roomName (i : Nat) : String :=
  "Room " ++ toString i

def assignMembers (shuffled : Nat -> List String) (i : Nat) :
    List Nat -> Dict String (List String) ->
      Except PythonError (Dict String (List String))
  | [], members => .ok members
  | size :: rest, members => do
      let roomUsers ← sample (shuffled i) size
      assignMembers shuffled (i + 1) rest (members.set (roomName i) roomUsers)

def roomInfo (room : String × List String) : Except PythonError Json :=
  match room.2 with
  | [] => .error PythonError.indexError
  | creator :: users =>
      .ok (Json.obj
        [("creator", Json.str creator), ("name", Json.str room.1),
          ("users", Json.arr (users.map Json.str))])

def generateRooms (users : List String) (draws : Draws users) :
    Except PythonError Json := do
  let sizes := roomSizes users.length draws.sizes
  -- The average size of the rooms is printed first.
  if sizes.length = 0 then .error PythonError.zeroDivisionError
  else do
    let members ← assignMembers draws.shuffled 0 sizes Dict.empty
    let creators ← members.mapM roomInfo
    return Json.obj [("creators", Json.arr creators)]

/-!
# The rooms drawn
-/

def roomsFrom (shuffled : Nat -> List String) : Nat -> List Nat -> List (String × List String)
  | _, [] => []
  | i, size :: rest =>
      (roomName i, (shuffled i).take size) :: roomsFrom shuffled (i + 1) rest

def drawnRooms {users : List String} (draws : Draws users) : List (String × List String) :=
  roomsFrom draws.shuffled 0 (roomSizes users.length draws.sizes)

structure RoomSampled (users : List String) (room : String × List String) : Prop where
  two_le : 2 <= room.2.length
  length_le : room.2.length <= users.length
  mem_users : forall member, member ∈ room.2 -> member ∈ users
  nodup : users.Nodup -> room.2.Nodup

theorem roomName_injective {i j : Nat} (h : roomName i = roomName j) : i = j := by
  have hrepr : Nat.repr i = Nat.repr j := (String.append_right_inj "Room ").mp h
  have hdigits := congrArg String.toList hrepr
  rw [Nat.toList_repr, Nat.toList_repr] at hdigits
  have hi := Numeral.numeral_toDigits i
  rw [hdigits] at hi
  exact hi.unique (Numeral.numeral_toDigits j)

theorem mem_roomSizes {numUsers size : Nat} {drawn : List Nat}
    (h : size ∈ roomSizes numUsers drawn) : 2 <= size ∧ size <= numUsers := by
  rcases List.mem_filterMap.mp h with ⟨s, _, hs⟩
  simp only at hs
  split at hs
  · split at hs
    · cases hs
    · cases hs
      omega
  · split at hs
    · cases hs
    · cases hs
      omega

theorem sample_eq {shuffled : List String} {k : Nat} (h : k <= shuffled.length) :
    sample shuffled k = .ok (shuffled.take k) :=
  if_neg (Nat.not_lt.mpr h)

theorem exists_roomName {shuffled : Nat -> List String} {i : Nat} {sizes : List Nat}
    {name : String} (h : name ∈ (roomsFrom shuffled i sizes).map Prod.fst) :
    exists j, i <= j ∧ name = roomName j := by
  induction sizes generalizing i with
  | nil => cases h
  | cons size rest ih =>
      rw [roomsFrom, List.map_cons, List.mem_cons] at h
      rcases h with rfl | h
      · exact ⟨i, Nat.le_refl i, rfl⟩
      · rcases ih h with ⟨j, hj, hname⟩
        exact ⟨j, by omega, hname⟩

theorem roomsFrom_names_nodup (shuffled : Nat -> List String) (i : Nat)
    (sizes : List Nat) : ((roomsFrom shuffled i sizes).map Prod.fst).Nodup := by
  induction sizes generalizing i with
  | nil => exact List.nodup_nil
  | cons size rest ih =>
      rw [roomsFrom, List.map_cons, List.nodup_cons]
      refine ⟨?_, ih (i + 1)⟩
      intro hmem
      rcases exists_roomName hmem with ⟨j, hj, hname⟩
      have heq := roomName_injective hname
      omega

/-- The dictionary of the members loses no room, since the names are distinct. -/
theorem assignMembers_eq {shuffled : Nat -> List String} {i : Nat} {sizes : List Nat}
    {members : Dict String (List String)}
    (hsizes : forall size, size ∈ sizes -> forall j, size <= (shuffled j).length)
    (hmembers : forall name, name ∈ members.map Prod.fst ->
      exists j, j < i ∧ name = roomName j) :
    assignMembers shuffled i sizes members =
      .ok (members ++ roomsFrom shuffled i sizes) := by
  induction sizes generalizing i members with
  | nil =>
      rw [roomsFrom, List.append_nil]
      rfl
  | cons size rest ih =>
      have hnew : roomName i ∉ members.map Prod.fst := by
        intro hmem
        rcases hmembers _ hmem with ⟨j, hj, hname⟩
        have heq := roomName_injective hname
        omega
      rw [assignMembers, sample_eq (hsizes size List.mem_cons_self i)]
      show assignMembers shuffled (i + 1) rest (members.set (roomName i) _) = _
      rw [Dict.set_of_not_mem hnew, ih, roomsFrom, List.append_assoc]
      · rfl
      · exact fun s hs => hsizes s (List.mem_cons_of_mem size hs)
      · intro name hname
        rw [List.map_append, List.mem_append] at hname
        rcases hname with hname | hname
        · rcases hmembers name hname with ⟨j, hj, hnameEq⟩
          exact ⟨j, by omega, hnameEq⟩
        · rw [List.map_singleton, List.mem_singleton] at hname
          exact ⟨i, by omega, hname⟩

theorem roomSampled_of_mem {users : List String} {shuffled : Nat -> List String}
    (hperm : forall i, (shuffled i).Perm users) {i : Nat} {sizes : List Nat}
    (hsizes : forall size, size ∈ sizes -> 2 <= size ∧ size <= users.length)
    {room : String × List String} (h : room ∈ roomsFrom shuffled i sizes) :
    RoomSampled users room := by
  induction sizes generalizing i with
  | nil => cases h
  | cons size rest ih =>
      rw [roomsFrom, List.mem_cons] at h
      rcases h with rfl | h
      · rcases hsizes size List.mem_cons_self with ⟨htwo, hle⟩
        have hlength : ((shuffled i).take size).length = size := by
          rw [List.length_take, (hperm i).length_eq]
          omega
        constructor
        · show 2 <= ((shuffled i).take size).length
          omega
        · show ((shuffled i).take size).length <= users.length
          omega
        · intro member hmember
          exact (hperm i).mem_iff.mp (List.mem_of_mem_take hmember)
        · intro hnodup
          exact ((hperm i).nodup_iff.mpr hnodup).sublist (List.take_sublist size _)
      · exact ih (fun s hs => hsizes s (List.mem_cons_of_mem size hs)) h

theorem RoomSampled.exists_creator {users : List String} {room : String × List String}
    (h : RoomSampled users room) :
    exists creator invited, room.2 = creator :: invited := by
  cases hmembers : room.2 with
  | nil =>
      have htwo := h.two_le
      rw [hmembers] at htwo
      cases htwo
  | cons creator invited => exact ⟨creator, invited, rfl⟩

theorem drawnRooms_sampled {users : List String} (draws : Draws users)
    {room : String × List String} (h : room ∈ drawnRooms draws) : RoomSampled users room :=
  roomSampled_of_mem draws.perm (fun _ => mem_roomSizes) h

theorem drawnRooms_names_nodup {users : List String} (draws : Draws users) :
    ((drawnRooms draws).map Prod.fst).Nodup :=
  roomsFrom_names_nodup draws.shuffled 0 _

def roomEntry (room : String × List String) : Json :=
  Json.obj
    [("creator", Json.str (room.2.headD "")), ("name", Json.str room.1),
      ("users", Json.arr (room.2.tail.map Json.str))]

theorem RoomSampled.roomInfo_eq {users : List String} {room : String × List String}
    (h : RoomSampled users room) : roomInfo room = .ok (roomEntry room) := by
  rcases h.exists_creator with ⟨creator, invited, hmembers⟩
  rw [roomInfo, roomEntry, hmembers]
  rfl

theorem mapM_roomInfo {users : List String} {rooms : List (String × List String)}
    (h : forall room, room ∈ rooms -> RoomSampled users room) :
    rooms.mapM roomInfo = .ok (rooms.map roomEntry) := by
  induction rooms with
  | nil => rfl
  | cons room rest ih =>
      have hrest := ih fun other hother => h other (List.mem_cons_of_mem room hother)
      rw [List.mapM_cons, (h room List.mem_cons_self).roomInfo_eq, hrest]
      rfl

theorem assignMembers_drawnRooms {users : List String} (draws : Draws users) :
    assignMembers draws.shuffled 0 (roomSizes users.length draws.sizes) Dict.empty =
      .ok (drawnRooms draws) := by
  rw [assignMembers_eq]
  · rfl
  · intro size hsize j
    rw [(draws.perm j).length_eq]
    exact (mem_roomSizes hsize).2
  · nofun

/-- The script divides by zero if it draws no room, and otherwise writes an entry for
every room drawn. -/
theorem generateRooms_eq {users : List String} (draws : Draws users) :
    generateRooms users draws =
      if (roomSizes users.length draws.sizes).length = 0 then
        .error PythonError.zeroDivisionError
      else .ok (Json.obj [("creators", Json.arr ((drawnRooms draws).map roomEntry))]) := by
  unfold generateRooms
  simp only
  split
  · rfl
  · have hcreators := mapM_roomInfo fun room => @drawnRooms_sampled users draws room
    rw [assignMembers_drawnRooms]
    simp only [bind, Except.bind, hcreators]
    rfl

theorem exists_creators {users : List String} {draws : Draws users} {file : Json}
    (h : generateRooms users draws = .ok file) :
    exists creators, (drawnRooms draws).mapM roomInfo = .ok creators ∧
      file = Json.obj [("creators", Json.arr creators)] := by
  rw [generateRooms_eq] at h
  split at h
  · cases h
  · cases h
    exact ⟨_, mapM_roomInfo fun room => drawnRooms_sampled draws, rfl⟩

/-!
# As many rooms as users
-/

/-- The script completes and writes as many rooms as there are users, each of at least
two members of the roster. -/
def GeneratesRoomPerUser (users : List String) (draws : Draws users) : Prop :=
  exists rooms : List (String × List String),
    generateRooms users draws =
      .ok (Json.obj [("creators", Json.arr (rooms.map roomEntry))]) ∧
    rooms.length = users.length ∧
    forall room, room ∈ rooms -> RoomSampled users room

theorem length_roomsFrom (shuffled : Nat -> List String) (i : Nat) (sizes : List Nat) :
    (roomsFrom shuffled i sizes).length = sizes.length := by
  induction sizes generalizing i with
  | nil => rfl
  | cons size rest ih => rw [roomsFrom, List.length_cons, List.length_cons, ih]

theorem length_roomSizes_eq_iff {numUsers : Nat} {drawn : List Nat}
    (hnum : 2 <= numUsers) :
    (roomSizes numUsers drawn).length = drawn.length <->
      forall s, s ∈ drawn -> 2 <= s := by
  rw [roomSizes, List.filterMap_length_eq_length]
  apply forall_congr'
  intro s
  apply imp_congr_right
  intro _
  by_cases hlarge : s > numUsers
  · have hclamped : ¬ numUsers < 2 := by omega
    simp only [hlarge, if_true, hclamped, if_false, Option.isSome_some, true_iff]
    omega
  · simp only [hlarge, if_false]
    by_cases hsmall : s < 2
    · simp only [hsmall, if_true, Option.isSome_none, Bool.false_eq_true, false_iff]
      omega
    · simp only [hsmall, if_false, Option.isSome_some, true_iff]
      omega

theorem roomEntry_length {rooms : List (String × List String)} {creators : List Json}
    (h : Json.obj [("creators", Json.arr (rooms.map roomEntry))] =
      Json.obj [("creators", Json.arr creators)]) : rooms.length = creators.length := by
  cases h
  rw [List.length_map]

/-- The script writes a room per user exactly if no draw is below two. -/
theorem generatesRoomPerUser_iff {users : List String} (draws : Draws users)
    (husers : 2 <= users.length) :
    GeneratesRoomPerUser users draws <-> forall s, s ∈ draws.sizes -> 2 <= s := by
  rw [← length_roomSizes_eq_iff husers, draws.length_sizes]
  have hlength : (drawnRooms draws).length =
      (roomSizes users.length draws.sizes).length := length_roomsFrom _ _ _
  constructor
  · intro h
    rcases h with ⟨rooms, hfile, hrooms, _⟩
    rw [generateRooms_eq] at hfile
    split at hfile
    · cases hfile
    · have hentries := roomEntry_length (Except.ok.inj hfile)
      rw [List.length_map] at hentries
      omega
  · intro h
    refine ⟨drawnRooms draws, ?_, hlength.trans h, fun _ => drawnRooms_sampled draws⟩
    rw [generateRooms_eq, if_neg]
    omega

def unshuffled (users : List String) (sizes : List Nat)
    (h : sizes.length = users.length) : Draws users where
  sizes := sizes
  length_sizes := h
  shuffled := fun _ => users
  perm := fun _ => List.Perm.refl users

theorem generatesRoomPerUser_two_users :
    GeneratesRoomPerUser ["a", "b"] (unshuffled ["a", "b"] [5, 2] rfl) :=
  (generatesRoomPerUser_iff _ (by decide)).mpr (by decide)

/-- Two users and two draws that round to one: the script divides by zero.  With one of
them it writes one room. -/
theorem small_draws_lose_rooms :
    generateRooms ["a", "b"] (unshuffled ["a", "b"] [1, 1] rfl) =
        .error PythonError.zeroDivisionError ∧
      ¬ GeneratesRoomPerUser ["a", "b"] (unshuffled ["a", "b"] [1, 1] rfl) ∧
      ¬ GeneratesRoomPerUser ["a", "b"] (unshuffled ["a", "b"] [1, 2] rfl) := by
  refine ⟨rfl, ?_, ?_⟩
  · intro h
    rcases h with ⟨rooms, hfile, _⟩
    cases hfile
  · intro h
    rcases h with ⟨rooms, hfile, hrooms, _⟩
    have hone : generateRooms ["a", "b"] (unshuffled ["a", "b"] [1, 2] rfl) =
        .ok (Json.obj [("creators", Json.arr [roomEntry ("Room 0", ["a", "b"])])]) := rfl
    rw [hone] at hfile
    have hentries := roomEntry_length (Except.ok.inj hfile).symm
    rw [hrooms] at hentries
    cases hentries

end GenerateRooms
end MatrixGoose
