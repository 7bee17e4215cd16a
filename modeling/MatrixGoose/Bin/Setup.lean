import MatrixGoose.Matrix.HttpClient.Session

/-!
# The setup transactions

The transactions of the register, create_room and join scripts.  Each of them
makes up to three attempts at a call before it moves on, and every attempt is a
call of the client, which retries on its own.
-/

namespace MatrixGoose

open Foundation

namespace Setup

open HttpClient

/-- The loop around an attempt: it ends with the first success, or skips the call
when no retries are left. -/
def retryLoop (attempt : Session -> Http (Bool × Session)) :
    Nat -> Session -> Http (Bool × Session)
  | 0, s => return (false, s)
  | retries + 1, s => do
      let (succeeded, s) <- attempt s
      if succeeded then return (true, s) else retryLoop attempt retries s

def retryEach {Item : Type} (call : Nat -> Session -> Http (Bool × Session)) :
    Nat -> List Item -> Session -> Http (Unit × Session)
  | _, [], s => return ((), s)
  | index, _ :: rest, s => do
      let (_, s) <- retryLoop (call index) 3 s
      retryEach call (index + 1) rest s

def register (answers : List Answer) : Http (Bool × Session) :=
  retryLoop HttpClient.register 3 (Session.new answers)

structure RoomInfo where
  creator : String
  name : String
  users : List String
deriving DecidableEq, Repr

def ownedRooms (creators : List RoomInfo) (username : String) : List RoomInfo :=
  creators.filter fun roomInfo => roomInfo.creator = username

def createRoom (creators : List RoomInfo) (username : String)
    (answers : List Answer) : Http (Unit × Session) :=
  if (ownedRooms creators username).length > 0 then do
    let (loggedIn, s) <- login (Session.new answers)
    if loggedIn then retryEach HttpClient.createRoom 0 (ownedRooms creators username) s
    else return ((), s)
  else return ((), Session.new answers)

/-- The result of the initial sync is ignored; the invites are those the client
knows of afterwards. -/
def join (invitedRooms : List String) (answers : List Answer) :
    Http (Unit × Session) := do
  let (loggedIn, s) <- login (Session.new answers)
  if loggedIn then do
    let (_, s) <- syncOnce s
    retryEach joinRoomById 0 invitedRooms s
  else return ((), s)

/-!
# Calls and their own requests
-/

section Calls

theorem sendsAtMost_map {n : Nat} {p : Exchange -> Bool}
    {x : Http (Except HttpError Bool × Session)} (hx : SendsAtMost n p x)
    (f : Except HttpError Bool -> Bool) :
    SendsAtMost n p (x >>= fun (result, s) => return (f result, s)) :=
  SendsAtMost.bind hx (m := 0) fun _ => SendsAtMost.pure _

theorem conserves_map {s : Session} {x : Http (Except HttpError Bool × Session)}
    (hx : Conserves s x) (f : Except HttpError Bool -> Bool) :
    Conserves s (x >>= fun (result, s) => return (f result, s)) :=
  conserves_bind hx fun _ s' => conserves_pure _ s'

variable {n : Nat} {p : Exchange -> Bool}

theorem sendsAtMost_retryLoop {attempt : Session -> Http (Bool × Session)}
    (hattempt : forall s, SendsAtMost n p (attempt s)) (retries : Nat)
    (s : Session) : SendsAtMost (retries * n) p (retryLoop attempt retries s) := by
  induction retries generalizing s with
  | zero =>
      rw [Nat.zero_mul]
      exact SendsAtMost.pure _
  | succ retries ih =>
      rw [Nat.succ_mul, Nat.add_comm]
      apply SendsAtMost.bind (hattempt s)
      intro result
      rcases result with ⟨_ | _, s'⟩
      · exact ih s'
      · exact (SendsAtMost.pure _).mono (Nat.zero_le _)

theorem conserves_retryLoop {attempt : Session -> Http (Bool × Session)}
    (hattempt : forall s, Conserves s (attempt s)) (retries : Nat) (s : Session) :
    Conserves s (retryLoop attempt retries s) := by
  induction retries generalizing s with
  | zero => exact conserves_pure _ s
  | succ retries ih =>
      apply conserves_bind (hattempt s)
      intro result s'
      rcases result with _ | _
      · exact ih s'
      · exact conserves_pure _ s'

variable {Item : Type} {call : Nat -> Session -> Http (Bool × Session)}

theorem sendsAtMost_retryEach (hcall : forall index s, SendsAtMost n p (call index s))
    (start : Nat) (items : List Item) (s : Session) :
    SendsAtMost (items.length * (3 * n)) p (retryEach call start items s) := by
  induction items generalizing start s with
  | nil =>
      rw [List.length_nil, Nat.zero_mul]
      exact SendsAtMost.pure _
  | cons item rest ih =>
      rw [List.length_cons, Nat.succ_mul, Nat.add_comm]
      apply SendsAtMost.bind (sendsAtMost_retryLoop (hcall start) 3 s)
      intro result
      rcases result with ⟨_, s'⟩
      exact ih (start + 1) s'

theorem conserves_retryEach (hcall : forall index s, Conserves s (call index s))
    (start : Nat) (items : List Item) (s : Session) :
    Conserves s (retryEach call start items s) := by
  induction items generalizing start s with
  | nil => exact conserves_pure _ s
  | cons item rest ih =>
      apply conserves_bind (conserves_retryLoop (hcall start) 3 s)
      intro _ s'
      exact ih (start + 1) s'

theorem sendsAtMost_retryEach_index (index : Nat)
    (hself : forall s, SendsAtMost 1 p (call index s))
    (hother : forall other s, other ≠ index -> SendsAtMost 0 p (call other s))
    (start : Nat) (items : List Item) (s : Session) :
    SendsAtMost (if start <= index then 3 else 0) p
      (retryEach call start items s) := by
  induction items generalizing start s with
  | nil => exact (SendsAtMost.pure _).mono (Nat.zero_le _)
  | cons item rest ih =>
      by_cases heq : start = index
      · subst heq
        rw [if_pos (Nat.le_refl start)]
        apply SendsAtMost.bind (sendsAtMost_retryLoop hself 3 s) (m := 0)
        intro result
        rcases result with ⟨_, s'⟩
        have hrest := ih (start + 1) s'
        rwa [if_neg (Nat.not_succ_le_self start)] at hrest
      · have hloop := sendsAtMost_retryLoop (fun s => hother start s heq) 3 s
        have hle : start <= index <-> start + 1 <= index := by omega
        rw [← Nat.zero_add (if start <= index then 3 else 0), if_congr hle rfl rfl]
        apply SendsAtMost.bind hloop
        intro result
        rcases result with ⟨_, s'⟩
        exact ih (start + 1) s'

theorem sendsAtMost_retryEach_endpoint {endpoint : Nat -> Endpoint}
    (hversions : forall index, endpoint index ≠ Endpoint.versions)
    (hinj : Function.Injective endpoint) (f : Except HttpError Bool -> Bool)
    (items : List Item) (s : Session) (index : Nat) :
    SendsAtMost 3 (isFinalOn (endpoint index))
      (retryEach (fun index s => do
        let (result, s) <- send (endpoint index) none s
        return (f result, s)) 0 items s) := by
  refine (sendsAtMost_retryEach_index index ?_ ?_ 0 items s).mono ?_
  · exact fun s => sendsAtMost_map (sendsAtMost_send_self (hversions index) none s) f
  · exact fun other s hne => sendsAtMost_map (sendsAtMost_send_of_ne
      (hversions index) (fun heq => hne (hinj heq)) none s) f
  · exact Nat.le_of_eq (if_pos (Nat.zero_le index))

theorem sendsAtMost_login (s : Session) : SendsAtMost 2 Exchange.isFinal (login s) :=
  sendsAtMost_map (sendsAtMost_send _ _ s) isAccepted

theorem sendsAtMost_login_of_ne {endpoint : Endpoint}
    (hversions : endpoint ≠ Endpoint.versions) (hne : Endpoint.login ≠ endpoint)
    (s : Session) : SendsAtMost 0 (isFinalOn endpoint) (login s) :=
  sendsAtMost_map (sendsAtMost_send_of_ne hversions hne _ s) isAccepted

theorem conserves_login (s : Session) : Conserves s (login s) :=
  conserves_map (conserves_send _ _ s) isAccepted

theorem sendsAtMost_syncOnce (s : Session) :
    SendsAtMost 2 Exchange.isFinal (syncOnce s) :=
  sendsAtMost_map (sendsAtMost_send _ _ s) isAccepted

theorem sendsAtMost_syncOnce_of_ne {endpoint : Endpoint}
    (hversions : endpoint ≠ Endpoint.versions) (hne : Endpoint.sync ≠ endpoint)
    (s : Session) : SendsAtMost 0 (isFinalOn endpoint) (syncOnce s) :=
  sendsAtMost_map (sendsAtMost_send_of_ne hversions hne _ s) isAccepted

theorem conserves_syncOnce (s : Session) : Conserves s (syncOnce s) :=
  conserves_map (conserves_send _ _ s) isAccepted

end Calls

/-!
# Three attempts
-/

theorem sendsAtMost_register (answers : List Answer) :
    SendsAtMost 3 (isFinalOn Endpoint.register) (register answers) :=
  sendsAtMost_retryLoop
    (fun s => sendsAtMost_map (sendsAtMost_send_self (by decide) none s) _) 3 _

theorem register_ends {answers : List Answer}
    (hanswers : 6 <= answers.countP fun answer => !answer.isTransient) :
    exists a s, (register answers).result = .ok (a, s) :=
  result_ok_of_conserves (s := Session.new answers)
    (conserves_retryLoop (fun s => conserves_map (conserves_send _ _ s) _) 3 _)
    (sendsAtMost_retryLoop (fun s => sendsAtMost_map (sendsAtMost_send _ _ s) _) 3 _)
    hanswers

theorem sendsAtMost_createRoom (creators : List RoomInfo) (username : String)
    (answers : List Answer) (index : Nat) :
    SendsAtMost 3 (isFinalOn (Endpoint.createRoom index))
      (createRoom creators username answers) := by
  have hinj : Function.Injective Endpoint.createRoom := by
    intro a b heq
    cases heq
    rfl
  unfold createRoom
  split
  · have hlogin : SendsAtMost 0 (isFinalOn (Endpoint.createRoom index))
        (login (Session.new answers)) := sendsAtMost_login_of_ne (by simp) (by simp) _
    rw [← Nat.zero_add 3]
    apply SendsAtMost.bind hlogin
    intro result
    rcases result with ⟨_ | _, s⟩
    · exact (SendsAtMost.pure _).mono (Nat.zero_le _)
    · exact sendsAtMost_retryEach_endpoint (by simp) hinj _ _ s index
  · exact (SendsAtMost.pure _).mono (Nat.zero_le _)

theorem createRoom_ends {creators : List RoomInfo} {username : String}
    {answers : List Answer}
    (hanswers : 2 + (ownedRooms creators username).length * 6 <=
      answers.countP fun answer => !answer.isTransient) :
    exists a s, (createRoom creators username answers).result = .ok (a, s) := by
  apply result_ok_of_conserves (s := Session.new answers) _ _ hanswers
  · unfold createRoom
    split
    · apply conserves_bind (conserves_login _)
      intro result s
      rcases result with _ | _
      · exact conserves_pure _ s
      · exact conserves_retryEach
          (fun _ s => conserves_map (conserves_send _ _ s) _) 0 _ s
    · exact conserves_pure _ _
  · unfold createRoom
    split
    · apply SendsAtMost.bind (sendsAtMost_login _)
      intro result
      rcases result with ⟨_ | _, s⟩
      · exact (SendsAtMost.pure _).mono (Nat.zero_le _)
      · exact sendsAtMost_retryEach
          (fun _ s => sendsAtMost_map (sendsAtMost_send _ _ s) _) 0 _ s
    · exact (SendsAtMost.pure _).mono (Nat.zero_le _)

theorem sendsAtMost_join (invitedRooms : List String) (answers : List Answer)
    (index : Nat) :
    SendsAtMost 3 (isFinalOn (Endpoint.joinRoom index))
      (join invitedRooms answers) := by
  have hinj : Function.Injective Endpoint.joinRoom := by
    intro a b heq
    cases heq
    rfl
  have hlogin : SendsAtMost 0 (isFinalOn (Endpoint.joinRoom index))
      (login (Session.new answers)) := sendsAtMost_login_of_ne (by simp) (by simp) _
  rw [← Nat.zero_add 3]
  apply SendsAtMost.bind hlogin
  intro result
  rcases result with ⟨_ | _, s⟩
  · exact (SendsAtMost.pure _).mono (Nat.zero_le _)
  · have hsync : SendsAtMost 0 (isFinalOn (Endpoint.joinRoom index)) (syncOnce s) :=
      sendsAtMost_syncOnce_of_ne (by simp) (by simp) s
    rw [← Nat.zero_add 3]
    apply SendsAtMost.bind hsync
    intro result
    rcases result with ⟨_, s⟩
    exact sendsAtMost_retryEach_endpoint (by simp) hinj _ _ s index

theorem join_ends {invitedRooms : List String} {answers : List Answer}
    (hanswers : 2 + (2 + invitedRooms.length * 6) <=
      answers.countP fun answer => !answer.isTransient) :
    exists a s, (join invitedRooms answers).result = .ok (a, s) := by
  apply result_ok_of_conserves (s := Session.new answers) _ _ hanswers
  · apply conserves_bind (conserves_login _)
    intro result s
    rcases result with _ | _
    · exact conserves_pure _ s
    · apply conserves_bind (conserves_syncOnce s)
      intro _ s
      exact conserves_retryEach
        (fun _ s => conserves_map (conserves_send _ _ s) _) 0 _ s
  · apply SendsAtMost.bind (sendsAtMost_login _)
    intro result
    rcases result with ⟨_ | _, s⟩
    · exact (SendsAtMost.pure _).mono (Nat.zero_le _)
    · apply SendsAtMost.bind (sendsAtMost_syncOnce s)
      intro result
      rcases result with ⟨_, s⟩
      exact sendsAtMost_retryEach
        (fun _ s => sendsAtMost_map (sendsAtMost_send _ _ s) _) 0 _ s

/-- Each registration, each room and each invite has at most three requests that
are not answered by a transient error, and a transaction ends once the server has
given enough such answers for all its attempts. -/
theorem three_attempts (answers : List Answer) (creators : List RoomInfo)
    (username : String) (invitedRooms : List String) :
    let finalAnswers := answers.countP fun answer => !answer.isTransient
    (register answers).trace.countP (isFinalOn Endpoint.register) <= 3 ∧
      (forall index, (createRoom creators username answers).trace.countP
        (isFinalOn (Endpoint.createRoom index)) <= 3) ∧
      (forall index, (join invitedRooms answers).trace.countP
        (isFinalOn (Endpoint.joinRoom index)) <= 3) ∧
      (6 <= finalAnswers -> exists a s, (register answers).result = .ok (a, s)) ∧
      (2 + (ownedRooms creators username).length * 6 <= finalAnswers ->
        exists a s, (createRoom creators username answers).result = .ok (a, s)) ∧
      (2 + (2 + invitedRooms.length * 6) <= finalAnswers ->
        exists a s, (join invitedRooms answers).result = .ok (a, s)) :=
  ⟨sendsAtMost_register answers, sendsAtMost_createRoom creators username answers,
    sendsAtMost_join invitedRooms answers, register_ends, createRoom_ends, join_ends⟩

def mixedAnswers : List Answer :=
  let refused : Answer :=
    { outcome := .error (HttpError.apiServer (RumaApiError.other 403)), timeUp := false }
  let unavailable : Answer :=
    { outcome := .error (HttpError.apiServer (RumaApiError.other 503)), timeUp := false }
  let success : Answer := { outcome := .ok true, timeUp := false }
  (List.replicate 5 [unavailable, success, refused, unavailable, refused]).flatten

theorem three_attempts_mixed_answers :
    let room : RoomInfo := { creator := "alice", name := "room", users := [] }
    (exists a s, (register mixedAnswers).result = .ok (a, s)) ∧
      (exists a s, (createRoom [room] "alice" mixedAnswers).result = .ok (a, s)) ∧
      (exists a s, (join ["!a:x"] mixedAnswers).result = .ok (a, s)) := by
  intro room
  rcases three_attempts mixedAnswers [room] "alice" ["!a:x"] with
    ⟨_, _, _, hregister, hcreateRoom, hjoin⟩
  exact ⟨hregister (by decide), hcreateRoom (by decide), hjoin (by decide)⟩

/-- The versions are known, then the server is overloaded four times. -/
def overloadedAnswers : List Answer :=
  let unavailable : Answer :=
    { outcome := .error (HttpError.apiServer (RumaApiError.other 503)), timeUp := false }
  [{ outcome := .ok true, timeUp := false }, unavailable, unavailable, unavailable,
    unavailable]

/-- One attempt at registering goes on as long as the server is overloaded. -/
theorem register_overloaded :
    (register overloadedAnswers).trace.countP
      (fun exchange => exchange.endpoint = Endpoint.register) = 5 := by
  decide +kernel

end Setup
end MatrixGoose
