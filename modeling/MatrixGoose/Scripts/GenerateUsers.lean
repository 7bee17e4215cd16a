import Mathlib.Data.List.Nodup
import MatrixGoose.Foundation.Numeral
import MatrixGoose.Foundation.Segments

/-!
# Generating users

The script `generate_users.py` numbers the users and writes them to a CSV file; the
chat clients find the number of a user again in the local part of its user id.
-/

namespace MatrixGoose

open Foundation

namespace GenerateUsers

def passwordChars : List Char :=
  "0123456789abcdefghijklmnopqrstuvwxyzABCDEFGHIJKLMNOPQRSTUVWXYZ".toList

/-- The characters that `random.choices` draws for the passwords. -/
structure Draws where
  password : Nat -> List Char
  length_password : forall i, (password i).length = 16
  mem_passwordChars : forall i c, c ∈ password i -> c ∈ passwordChars

def username (i : Nat) : List Char :=
  "user.".toList ++ Numeral.padded 6 i

/-- The rows of the file; the range of a negative number is empty. -/
def users (numUsers : Int) (draws : Draws) : List (List Char × List Char) :=
  (List.range numUsers.toNat).map fun i => (username i, draws.password i)

/-- The `csv` writer quotes a field for its delimiter, for the quote and for the
characters that end a line. -/
def needsQuoting (c : Char) : Bool :=
  c = ',' || c = '"' || c = '\r' || c = '\n'

def writeField (field : List Char) : List Char :=
  if field.any needsQuoting then
    '"' :: field.flatMap (fun c => if c = '"' then ['"', '"'] else [c]) ++ ['"']
  else field

def writeRow (row : List Char × List Char) : List Char :=
  writeField row.1 ++ ',' :: writeField row.2 ++ "\r\n".toList

def generateUsers (numUsers : Int) (draws : Draws) : List Char :=
  writeRow ("username".toList, "password".toList) ++
    (users numUsers draws).flatMap writeRow

end GenerateUsers

namespace Chat

/-- The local part of a user id: behind the sigil and before the first colon. -/
def localpart (userId : List Char) : List Char :=
  (userId.drop 1).takeWhile fun c => c != ':'

/-- `*username.split('.').collect::<Vec<&str>>().last().unwrap()` -/
def userNumber (username : List Char) : List Char :=
  (username.splitOn '.').getLast (List.splitOn_ne_nil '.' username)

def newName (userId : List Char) (randomNumber : Nat) : List Char :=
  "User ".toList ++ userNumber (localpart userId) ++
    " (random=".toList ++ Nat.toDigits 10 randomNumber ++ [')']

end Chat

namespace GenerateUsers

def userId (username server : List Char) : List Char :=
  '@' :: username ++ ':' :: server

/-!
# The number of a user
-/

theorem userNumber_username (i : Nat) :
    Chat.userNumber (username i) = Numeral.padded 6 i :=
  Segments.getLast_splitOn "user".toList ((Numeral.numeral_padded 6 i).notMem rfl)

theorem localpart_userId {username : List Char} (h : ':' ∉ username)
    (server : List Char) : Chat.localpart (userId username server) = username := by
  show (username ++ ':' :: server).takeWhile (fun c => c != ':') = username
  rw [List.takeWhile_append_of_pos]
  · simp
  · intro c hc
    simp only [bne_iff_ne, ne_eq]
    intro hcolon
    rw [hcolon] at hc
    exact h hc

theorem username_injective {i j : Nat} (h : username i = username j) : i = j :=
  Numeral.padded_injective (List.append_cancel_left h)

theorem mem_username {i : Nat} {c : Char} (h : c ∈ username i) :
    c ∈ "user.".toList ∨ c.isDigit = true := by
  rcases List.mem_append.mp h with hname | hdigit
  · exact Or.inl hname
  · exact Or.inr ((Numeral.numeral_padded 6 i).isDigit c hdigit)

theorem colon_notMem_username (i : Nat) : ':' ∉ username i := by
  intro h
  rcases mem_username h with hname | hdigit
  · simp at hname
  · cases hdigit

/-!
# The file
-/

theorem needsQuoting_of_isDigit {c : Char} (h : c.isDigit = true) :
    needsQuoting c = false := by
  cases hquote : needsQuoting c with
  | false => rfl
  | true =>
      simp only [needsQuoting, Bool.or_eq_true, decide_eq_true_eq, or_assoc] at hquote
      rcases hquote with hc | hc | hc | hc
      all_goals
        rw [hc] at h
        cases h

theorem needsQuoting_of_mem_username {i : Nat} {c : Char} (h : c ∈ username i) :
    needsQuoting c = false := by
  rcases mem_username h with hname | hdigit
  · have huser : "user.".toList.all (fun c => !needsQuoting c) = true := by simp [needsQuoting]
    simpa using List.all_eq_true.mp huser c hname
  · exact needsQuoting_of_isDigit hdigit

theorem needsQuoting_of_mem_passwordChars {c : Char} (h : c ∈ passwordChars) :
    needsQuoting c = false := by
  have hall : passwordChars.all (fun c => !needsQuoting c) = true := by
    unfold passwordChars
    simp [needsQuoting]
  simpa using List.all_eq_true.mp hall c h

theorem writeField_eq {field : List Char}
    (h : forall c, c ∈ field -> needsQuoting c = false) : writeField field = field := by
  have hnone : field.any needsQuoting = false := by
    rw [List.any_eq_false]
    intro c hc
    rw [h c hc]
    nofun
  rw [writeField, hnone]
  rfl

theorem writeRow_eq {numUsers : Int} {draws : Draws} {row : List Char × List Char}
    (h : row ∈ users numUsers draws) :
    writeRow row = row.1 ++ ',' :: row.2 ++ "\r\n".toList := by
  rcases List.mem_map.mp h with ⟨i, _, rfl⟩
  have hpassword : forall c, c ∈ draws.password i -> needsQuoting c = false :=
    fun c hc => needsQuoting_of_mem_passwordChars (draws.mem_passwordChars i c hc)
  rw [writeRow, writeField_eq fun c hc => needsQuoting_of_mem_username hc,
    writeField_eq hpassword]

/-- Nothing in the file is quoted. -/
theorem generateUsers_eq (numUsers : Int) (draws : Draws) :
    generateUsers numUsers draws =
      "username,password\r\n".toList ++ (users numUsers draws).flatMap fun row =>
        row.1 ++ ',' :: row.2 ++ "\r\n".toList := by
  have hheader : writeRow ("username".toList, "password".toList) =
      "username,password\r\n".toList := by
    simp [writeRow, writeField, needsQuoting]
  have hrows : (users numUsers draws).flatMap writeRow =
      (users numUsers draws).flatMap fun row =>
        row.1 ++ ',' :: row.2 ++ "\r\n".toList := by
    rw [List.flatMap_def, List.flatMap_def]
    exact congrArg List.flatten (List.map_congr_left fun row hrow => writeRow_eq hrow)
  rw [generateUsers, hheader, hrows]

/-!
# Unique and recoverable names
-/

structure WellNamed (names : List (List Char)) : Prop where
  nodup : names.Nodup
  unquoted : forall name, name ∈ names -> forall c, c ∈ name -> needsQuoting c = false
  recoverable : forall i name, names[i]? = some name -> forall server,
    Numeral (Chat.userNumber (Chat.localpart (userId name server))) i

theorem userNumber_userId (i : Nat) (server : List Char) :
    Chat.userNumber (Chat.localpart (userId (username i) server)) = Numeral.padded 6 i := by
  rw [localpart_userId (colon_notMem_username i), userNumber_username]

/-- Whatever the number of users, their names are distinct, unquoted and end in the
number of the user. -/
theorem users_wellNamed (numUsers : Int) (draws : Draws) :
    ((users numUsers draws).map Prod.fst).length = numUsers.toNat ∧
      WellNamed ((users numUsers draws).map Prod.fst) := by
  have hnames : (users numUsers draws).map Prod.fst =
      (List.range numUsers.toNat).map username := by
    rw [users, List.map_map]
    rfl
  rw [hnames]
  constructor
  · simp
  · constructor
    · exact List.nodup_range.map fun _ _ h => username_injective h
    · intro name hname c hc
      rcases List.mem_map.mp hname with ⟨i, _, rfl⟩
      exact needsQuoting_of_mem_username hc
    · intro i name hname server
      rw [List.getElem?_map, Option.map_eq_some_iff] at hname
      rcases hname with ⟨j, hj, rfl⟩
      rcases List.getElem?_eq_some_iff.mp hj with ⟨hlt, hindex⟩
      rw [List.getElem_range] at hindex
      rw [hindex, userNumber_userId]
      exact Numeral.numeral_padded 6 j

theorem newName_userId (i randomNumber : Nat) (server : List Char) :
    Chat.newName (userId (username i) server) randomNumber =
      "User ".toList ++ (Numeral.padded 6 i ++
        ' ' :: ("(random=".toList ++ Nat.toDigits 10 randomNumber ++ [')'])) := by
  unfold Chat.newName
  rw [userNumber_userId]
  simp

/-- Users are told apart by the names they display, whatever random numbers they add. -/
theorem newName_injective {i j m n : Nat} {server server' : List Char}
    (h : Chat.newName (userId (username i) server) m =
      Chat.newName (userId (username j) server') n) : i = j := by
  rw [newName_userId, newName_userId] at h
  exact Numeral.eq_of_append_eq (Numeral.numeral_padded 6 i) (Numeral.numeral_padded 6 j)
    (by decide) (List.append_cancel_left h)

end GenerateUsers
end MatrixGoose
