import MatrixGoose.Foundation.Csv
import MatrixGoose.Foundation.Dict
import MatrixGoose.Matrix.EventHandler.RawEvent
import MatrixGoose.Scripts.GenerateRooms
import MatrixGoose.Scripts.GenerateUsers

/-!
# Reading the generated users

The load tests read `users.csv` into a table, of which each user takes the row with its own
index; `generate_rooms.py` takes the names from the same file.
-/

namespace MatrixGoose

open Foundation
open Foundation.Csv

namespace UsersCsv

open EventHandler
open EventHandler.Deserializer

inductive CsvError
  | unequalLengths
  | utf8

/-- A reader of CSV files, which reads what RFC 4180 tells to write, if all records have the
same number of fields. -/
structure CsvReader where
  records : List Char -> Except CsvError (List Record)
  records_write : forall (width : Nat) (all : List Record),
    (forall record, record ∈ all -> HasLine record) ->
      (forall record, record ∈ all -> record.length = width) ->
        records (write all) = .ok all

def rfc4180 : CsvReader where
  records := fun text => .ok (read text)
  records_write := by
    intro width all hline _
    rw [read_write hline]

/-!
# The table of the users
-/

structure User where
  username : String
  password : String
  deriving DecidableEq

structure UserSlots where
  username : Option String
  password : Option String

def visitUser (slots : UserSlots) (field : String × String) : Except SerdeError UserSlots :=
  if field.1 = "username" then do
    let username <- setField "username" slots.username string (Json.str field.2)
    return { slots with username }
  else if field.1 = "password" then do
    let password <- setField "password" slots.password string (Json.str field.2)
    return { slots with password }
  else .ok slots

def deserializeUser (headers record : Record) : Except SerdeError User := do
  let slots <- ((headers.map String.ofList).zip (record.map String.ofList)).foldlM visitUser
    { username := none, password := none }
  let username <- requireField "username" slots.username
  let password <- requireField "password" slots.password
  return { username, password }

inductive SetupPanic
  | readingFile (error : CsvError)
  | readingUser (error : SerdeError)

/-- The `USERS` that `setup` reads; the first record has the headers. -/
def setup (reader : CsvReader) (text : List Char) : Except SetupPanic (List User) :=
  match reader.records text with
  | .error error => .error (SetupPanic.readingFile error)
  | .ok [] => .ok []
  | .ok (headers :: rows) =>
      (rows.mapM (deserializeUser headers)).mapError SetupPanic.readingUser

/-- The names that `generate_rooms.py` reads; `none` if it fails. -/
def roster (reader : CsvReader) (text : List Char) : Option (List String) :=
  match reader.records text with
  | .error _ => none
  | .ok [] => some []
  | .ok (fieldnames :: rows) =>
      rows.mapM fun row =>
        let fields := (fieldnames.map String.ofList).zip (row.map String.ofList)
        (fields.foldl (fun d field => Dict.set d field.1 field.2) Dict.empty).get "username"

/-!
# The file that was generated
-/

open GenerateUsers

def headers : Record :=
  ["username".toList, "password".toList]

def recordOf (row : List Char × List Char) : Record :=
  [row.1, row.2]

def userOf (row : List Char × List Char) : User where
  username := String.ofList row.1
  password := String.ofList row.2

theorem hasLine_pair (first second : Field) : HasLine [first, second] := by
  constructor <;> simp

theorem writeRecord_recordOf (row : List Char × List Char) :
    writeRecord (recordOf row) = writeRow row := by
  show Csv.writeField row.1 ++ ',' :: (Csv.writeField row.2 ++ "\r\n".toList) = _
  rw [writeRow, List.append_assoc, List.cons_append]
  rfl

theorem generateUsers_eq_write (numUsers : Int) (draws : Draws) :
    generateUsers numUsers draws = write (headers :: (users numUsers draws).map recordOf) := by
  have hheaders : writeRow ("username".toList, "password".toList) = writeRecord headers :=
    (writeRecord_recordOf _).symm
  have hrows : (users numUsers draws).flatMap writeRow =
      ((users numUsers draws).map recordOf).flatMap writeRecord := by
    rw [List.flatMap_map]
    exact congrArg (fun f => (users numUsers draws).flatMap f)
      (funext fun row => (writeRecord_recordOf row).symm)
  rw [generateUsers, hheaders, hrows]
  rfl

theorem records_generateUsers (reader : CsvReader) (numUsers : Int) (draws : Draws) :
    reader.records (generateUsers numUsers draws) =
      .ok (headers :: (users numUsers draws).map recordOf) := by
  rw [generateUsers_eq_write]
  apply reader.records_write 2
  · intro record hmem
    rcases List.mem_cons.mp hmem with rfl | hmem
    · exact hasLine_pair _ _
    · rcases List.mem_map.mp hmem with ⟨row, _, rfl⟩
      exact hasLine_pair _ _
  · intro record hmem
    rcases List.mem_cons.mp hmem with rfl | hmem
    · rfl
    · rcases List.mem_map.mp hmem with ⟨row, _, rfl⟩
      rfl

theorem map_headers : headers.map String.ofList = ["username", "password"] := by
  simp [headers]

theorem deserializeUser_recordOf (row : List Char × List Char) :
    deserializeUser headers (recordOf row) = .ok (userOf row) := by
  rw [deserializeUser, map_headers]
  rfl

theorem setup_generateUsers (reader : CsvReader) (numUsers : Int) (draws : Draws) :
    setup reader (generateUsers numUsers draws) =
      .ok ((users numUsers draws).map userOf) := by
  rw [setup, records_generateUsers]
  have hrows : ((users numUsers draws).map recordOf).mapM (deserializeUser headers) =
      .ok ((users numUsers draws).map userOf) := by
    induction users numUsers draws with
    | nil => rfl
    | cons row rest ih =>
        rw [List.map_cons, List.mapM_cons, deserializeUser_recordOf, ih]
        rfl
  show Except.mapError _ _ = _
  rw [hrows]
  rfl

theorem roster_generateUsers (reader : CsvReader) (numUsers : Int) (draws : Draws) :
    roster reader (generateUsers numUsers draws) =
      some ((users numUsers draws).map fun row => String.ofList row.1) := by
  rw [roster, records_generateUsers]
  show List.mapM _ _ = _
  rw [map_headers]
  induction users numUsers draws with
  | nil => rfl
  | cons row rest ih =>
      rw [List.map_cons, List.mapM_cons, ih]
      simp [recordOf, Dict.get_set]

theorem names_nodup (numUsers : Int) (draws : Draws) :
    ((users numUsers draws).map fun row => String.ofList row.1).Nodup := by
  rw [users, List.map_map]
  apply List.nodup_range.map
  intro i j h
  exact username_injective (String.ofList_injective h)

theorem nodup_of_roster {reader : CsvReader} {numUsers : Int} {draws : Draws}
    {names : List String} (h : roster reader (generateUsers numUsers draws) = some names) :
    names.Nodup := by
  rw [roster_generateUsers] at h
  cases h
  exact names_nodup numUsers draws

theorem nodup_of_setup {reader : CsvReader} {numUsers : Int} {draws : Draws}
    {loaded : List User} (h : setup reader (generateUsers numUsers draws) = .ok loaded) :
    (loaded.map User.username).Nodup := by
  rw [setup_generateUsers] at h
  cases h
  rw [List.map_map]
  exact names_nodup numUsers draws

/-- However many users are generated, each load test and the script for the rooms read the
same users, all of different names; user `i` of a load test takes the name and the password
that were generated for `i`, and a user beyond the number generated finds none. -/
theorem users_round_trip (reader : CsvReader) (numUsers : Int) (draws : Draws) :
    exists loaded, setup reader (generateUsers numUsers draws) = .ok loaded ∧
      roster reader (generateUsers numUsers draws) = some (loaded.map User.username) ∧
      (loaded.map User.username).Nodup ∧
      forall i : Nat, loaded[i]? =
        if (i : Int) < numUsers then
          some
            { username := String.ofList (username i)
              password := String.ofList (draws.password i) }
        else none := by
  have hsetup := setup_generateUsers reader numUsers draws
  refine ⟨_, hsetup, ?_, nodup_of_setup hsetup, ?_⟩
  · rw [roster_generateUsers, List.map_map]
    rfl
  · intro i
    rw [users, List.map_map, List.getElem?_map]
    split
    · next hlt =>
        have hi : i < numUsers.toNat := by omega
        rw [List.getElem?_range hi]
        rfl
    · next hge =>
        have hi : numUsers.toNat <= i := by omega
        rw [List.getElem?_eq_none (by simpa using hi)]
        rfl

def samplePasswords : Draws where
  password := fun _ => List.replicate 16 'a'
  length_password := fun _ => List.length_replicate
  mem_passwordChars := by
    intro i c h
    have ha : c = 'a' := List.eq_of_mem_replicate h
    subst ha
    unfold passwordChars
    simp

theorem users_round_trip_two_users :
    exists loaded, setup rfc4180 (generateUsers 2 samplePasswords) = .ok loaded ∧
      roster rfc4180 (generateUsers 2 samplePasswords) = some (loaded.map User.username) ∧
      loaded[1]? =
        some
          { username := String.ofList (username 1)
            password := String.ofList (samplePasswords.password 1) } ∧
      loaded[2]? = none := by
  rcases users_round_trip rfc4180 2 samplePasswords with ⟨loaded, hsetup, hroster, _, hloaded⟩
  exact ⟨loaded, hsetup, hroster, hloaded 1, hloaded 2⟩

end UsersCsv
end MatrixGoose
