import MatrixGoose.Scripts.GenerateRooms

/-!
# The analysis of the rooms

Once it has written the rooms, the script `generate_rooms.py` counts in how many rooms each
user is, and prints how many users are in none, in all or in many of them.
-/

namespace MatrixGoose

open Foundation

namespace GenerateRooms

/-- The users of which the script prints the numbers. -/
structure Analysis where
  roomless : List String
  inAllRooms : List String
  centurions : List String

def assignments (roomMembers : Dict String (List String)) : Dict String Nat :=
  roomMembers.foldl (fun assignments room => room.2.foldl Dict.increment assignments)
    Dict.empty

def userNumRooms (roomMembers : Dict String (List String)) (user : String) : Nat :=
  ((assignments roomMembers).get user).getD 0

def analyze (users : List String) (numRooms : Nat) (roomMembers : Dict String (List String)) :
    Analysis where
  roomless := users.filter fun user => userNumRooms roomMembers user < 1
  inAllRooms := users.filter fun user => userNumRooms roomMembers user = numRooms
  -- the text that is printed with their number says more than 100
  centurions := users.filter fun user => userNumRooms roomMembers user > 99

/-- The whole script: what it writes to `rooms.json`, and what it finds out about it. -/
def generateAndAnalyze (users : List String) (draws : Draws users) :
    Except PythonError (Json × Analysis) := do
  let sizes := roomSizes users.length draws.sizes
  if sizes.length = 0 then .error PythonError.zeroDivisionError
  else do
    let members ← assignMembers draws.shuffled 0 sizes Dict.empty
    let creators ← members.mapM roomInfo
    return (Json.obj [("creators", Json.arr creators)], analyze users sizes.length members)

theorem generateAndAnalyze_eq {users : List String} (draws : Draws users) :
    generateAndAnalyze users draws =
      (generateRooms users draws).map fun file =>
        (file, analyze users (drawnRooms draws).length (drawnRooms draws)) := by
  unfold generateAndAnalyze generateRooms
  simp only
  split
  · rfl
  · have hcreators := mapM_roomInfo fun room => @drawnRooms_sampled users draws room
    rw [assignMembers_drawnRooms]
    simp only [bind, Except.bind, hcreators]
    rw [drawnRooms, length_roomsFrom]
    rfl

theorem of_generateAndAnalyze {users : List String} {draws : Draws users} {file : Json}
    {analysis : Analysis} (h : generateAndAnalyze users draws = .ok (file, analysis)) :
    generateRooms users draws = .ok file ∧
      analysis = analyze users (drawnRooms draws).length (drawnRooms draws) := by
  rw [generateAndAnalyze_eq] at h
  cases hwritten : generateRooms users draws with
  | error error =>
      rw [hwritten] at h
      cases h
  | ok written =>
      rw [hwritten] at h
      cases h
      exact ⟨rfl, rfl⟩

theorem getD_get_foldl_assignments (rooms : Dict String (List String))
    (assigned : Dict String Nat) (user : String) :
    ((rooms.foldl (fun assignments room => room.2.foldl Dict.increment assignments)
        assigned).get user).getD 0 =
      (assigned.get user).getD 0 + (rooms.flatMap Prod.snd).count user := by
  induction rooms generalizing assigned with
  | nil => rfl
  | cons room rest ih =>
      rw [List.foldl_cons, ih, Dict.getD_get_foldl_increment, List.flatMap_cons,
        List.count_append, Nat.add_assoc]

theorem userNumRooms_eq {rooms : Dict String (List String)}
    (hnodup : forall room, room ∈ rooms -> room.2.Nodup) (user : String) :
    userNumRooms rooms user = rooms.countP fun room => user ∈ room.2 := by
  unfold userNumRooms assignments
  rw [getD_get_foldl_assignments]
  have hempty : ((Dict.empty : Dict String Nat).get user).getD 0 = 0 := rfl
  rw [hempty, Nat.zero_add]
  induction rooms with
  | nil => rfl
  | cons room rest ih =>
      have hroom := hnodup room List.mem_cons_self
      have hrest := ih fun other hother => hnodup other (List.mem_cons_of_mem room hother)
      rw [List.flatMap_cons, List.count_append, hrest, List.countP_cons, Nat.add_comm]
      congr 1
      by_cases hmem : user ∈ room.2
      · rw [List.count_eq_one_of_mem hroom hmem]
        simp [hmem]
      · rw [List.count_eq_zero_of_not_mem hmem]
        simp [hmem]

end GenerateRooms
end MatrixGoose
