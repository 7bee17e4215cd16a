import MatrixGoose.Matrix.HttpClient.Retry

/-!
# API calls of a client

A client asks for the server versions before its first call and after every time
that failed, then sends the call itself.  Calls are made with the client's own
configuration unless they bring one.
-/

namespace MatrixGoose

open Foundation

namespace HttpClient

structure Session where
  answers : List Answer
  serverVersionsKnown : Bool
  requestConfig : RequestConfig

/-- `GooseMatrixClient::new` sends nothing and leaves the configuration at its
default. -/
def Session.new (answers : List Answer) : Session where
  answers := answers
  serverVersionsKnown := false
  requestConfig := RequestConfig.default

def serverVersions (s : Session) : Http (Except HttpError Unit × Session) :=
  if s.serverVersionsKnown then return (.ok (), s)
  else do
    let (result, answers) <- sendRequest s.requestConfig Endpoint.versions 1 s.answers
    match result with
    | .ok _ => return (.ok (), { s with answers, serverVersionsKnown := true })
    | .error err => return (.error err, { s with answers })

def send (endpoint : Endpoint) (config : Option RequestConfig) (s : Session) :
    Http (Except HttpError Bool × Session) := do
  let (versions, s) <- serverVersions s
  match versions with
  | .error err => return (.error err, s)
  | .ok () => do
      let (result, answers) <-
        sendRequest (config.getD s.requestConfig) endpoint 1 s.answers
      return (result, { s with answers })

/-- A call whose response the client must accept as well. -/
def isAccepted : Except HttpError Bool -> Bool
  | .ok accepted => accepted
  | .error _ => false

def login (s : Session) : Http (Bool × Session) := do
  let (result, s) <- send Endpoint.login (some RequestConfig.shortRetry) s
  return (isAccepted result, s)

def defaultSyncTimeout : Nat := 30

def syncOnce (s : Session) : Http (Bool × Session) := do
  let requestConfig :=
    { s.requestConfig with timeout := s.requestConfig.timeout + defaultSyncTimeout }
  let (result, s) <- send Endpoint.sync (some requestConfig) s
  return (isAccepted result, s)

/-- Clients are not in appservice mode, so registering brings no configuration. -/
def register (s : Session) : Http (Bool × Session) := do
  let (result, s) <- send Endpoint.register none s
  return (result.toBool, s)

def createRoom (index : Nat) (s : Session) : Http (Bool × Session) := do
  let (result, s) <- send (Endpoint.createRoom index) none s
  return (result.toBool, s)

def joinRoomById (index : Nat) (s : Session) : Http (Bool × Session) := do
  let (result, s) <- send (Endpoint.joinRoom index) none s
  return (isAccepted result, s)

/-!
# Counting the requests of a call
-/

def isFinalOn (endpoint : Endpoint) (exchange : Exchange) : Bool :=
  exchange.endpoint = endpoint && exchange.isFinal

section Counts

variable {α : Type}

def SendsAtMost (n : Nat) (p : Exchange -> Bool) (x : Http α) : Prop :=
  x.trace.countP p <= n

theorem SendsAtMost.bind {β : Type} {p : Exchange -> Bool} {x : Http α}
    {f : α -> Http β} {n m : Nat} (hx : SendsAtMost n p x)
    (hf : forall a, SendsAtMost m p (f a)) : SendsAtMost (n + m) p (x >>= f) :=
  Traced.countP_trace_bind_le hx fun a _ => hf a

theorem SendsAtMost.pure {p : Exchange -> Bool} (a : α) :
    SendsAtMost 0 p (pure a : Http α) :=
  Nat.le_refl 0

theorem SendsAtMost.mono {p : Exchange -> Bool} {x : Http α} {n m : Nat}
    (hx : SendsAtMost n p x) (hle : n <= m) : SendsAtMost m p x :=
  Nat.le_trans hx hle

theorem sendsAtMost_sendRequest (config : RequestConfig) (endpoint : Endpoint)
    (retryCount : Nat) (answers : List Answer) :
    SendsAtMost 1 Exchange.isFinal (sendRequest config endpoint retryCount answers) :=
  countP_isFinal_sendRequest config endpoint retryCount answers

theorem sendsAtMost_sendRequest_self (config : RequestConfig) (endpoint : Endpoint)
    (retryCount : Nat) (answers : List Answer) :
    SendsAtMost 1 (isFinalOn endpoint)
      (sendRequest config endpoint retryCount answers) := by
  apply Nat.le_trans _ (countP_isFinal_sendRequest config endpoint retryCount answers)
  apply List.countP_mono_left
  intro exchange _ hfinal
  exact (Bool.and_eq_true_iff.mp hfinal).2

theorem sendsAtMost_sendRequest_of_ne (config : RequestConfig)
    {endpoint other : Endpoint} (hne : endpoint ≠ other) (retryCount : Nat)
    (answers : List Answer) :
    SendsAtMost 0 (isFinalOn other)
      (sendRequest config endpoint retryCount answers) := by
  apply Nat.le_of_eq
  rw [List.countP_eq_zero]
  intro exchange hmem hfinal
  have hother : exchange.endpoint = other := by
    simpa using (Bool.and_eq_true_iff.mp hfinal).1
  exact hne ((endpoint_of_mem_sendRequest hmem).symm.trans hother)

theorem sendsAtMost_serverVersions (s : Session) :
    SendsAtMost 1 Exchange.isFinal (serverVersions s) := by
  unfold serverVersions
  split
  · exact (SendsAtMost.pure _).mono (Nat.zero_le 1)
  · apply SendsAtMost.bind (sendsAtMost_sendRequest ..) (m := 0)
    intro result
    rcases result with ⟨result | result, answers⟩
    · exact SendsAtMost.pure _
    · exact SendsAtMost.pure _

theorem sendsAtMost_serverVersions_of_ne {endpoint : Endpoint}
    (hne : endpoint ≠ Endpoint.versions) (s : Session) :
    SendsAtMost 0 (isFinalOn endpoint) (serverVersions s) := by
  unfold serverVersions
  split
  · exact SendsAtMost.pure _
  · apply SendsAtMost.bind (sendsAtMost_sendRequest_of_ne _ hne.symm _ _) (m := 0)
    intro result
    rcases result with ⟨result | result, answers⟩
    · exact SendsAtMost.pure _
    · exact SendsAtMost.pure _

/-- A call has at most two requests with a final answer: for the versions and for
itself. -/
theorem sendsAtMost_send (endpoint : Endpoint) (config : Option RequestConfig)
    (s : Session) : SendsAtMost 2 Exchange.isFinal (send endpoint config s) := by
  apply SendsAtMost.bind (sendsAtMost_serverVersions s) (m := 1)
  intro result
  rcases result with ⟨versions | versions, s⟩
  · exact (SendsAtMost.pure _).mono (Nat.zero_le 1)
  · apply SendsAtMost.bind (sendsAtMost_sendRequest ..) (m := 0)
    intro result
    rcases result with ⟨result, answers⟩
    exact SendsAtMost.pure _

theorem sendsAtMost_send_self {endpoint : Endpoint}
    (hversions : endpoint ≠ Endpoint.versions) (config : Option RequestConfig)
    (s : Session) : SendsAtMost 1 (isFinalOn endpoint) (send endpoint config s) := by
  apply (SendsAtMost.bind (sendsAtMost_serverVersions_of_ne hversions s)
    (m := 1) _).mono (Nat.le_refl 1)
  intro result
  rcases result with ⟨versions | versions, s⟩
  · exact (SendsAtMost.pure _).mono (Nat.zero_le 1)
  · apply SendsAtMost.bind (sendsAtMost_sendRequest_self ..) (m := 0)
    intro result
    rcases result with ⟨result, answers⟩
    exact SendsAtMost.pure _

theorem sendsAtMost_send_of_ne {endpoint other : Endpoint}
    (hversions : other ≠ Endpoint.versions) (hne : endpoint ≠ other)
    (config : Option RequestConfig) (s : Session) :
    SendsAtMost 0 (isFinalOn other) (send endpoint config s) := by
  apply SendsAtMost.bind (sendsAtMost_serverVersions_of_ne hversions s) (m := 0)
  intro result
  rcases result with ⟨versions | versions, s⟩
  · exact SendsAtMost.pure _
  · apply SendsAtMost.bind (sendsAtMost_sendRequest_of_ne _ hne _ _) (m := 0)
    intro result
    rcases result with ⟨result, answers⟩
    exact SendsAtMost.pure _

end Counts

/-!
# Waiting for the server

A computation that does not end has used up the script and waits for the answer
to its last request.
-/

section Waiting

variable {α : Type}

structure Conserves (s : Session) (x : Http (α × Session)) : Prop where
  done : forall a s', x.result = .ok (a, s') ->
    answered x.trace ++ s'.answers = s.answers
  waiting : forall e, x.result = .error e -> answered x.trace = s.answers ∧
    exists exchange, exchange ∈ x.trace ∧ exchange.answer = none

theorem conserves_pure (a : α) (s : Session) :
    Conserves s (pure (a, s) : Http (α × Session)) where
  done := by
    intro a' s' h
    cases h
    rfl
  waiting := nofun

theorem conserves_bind {β : Type} {s : Session} {x : Http (α × Session)}
    {f : α × Session -> Http (β × Session)} (hx : Conserves s x)
    (hf : forall a s', Conserves s' (f (a, s'))) : Conserves s (x >>= f) := by
  cases hresult : x.result with
  | error e =>
      rw [Traced.bind_of_error f hresult]
      exact ⟨nofun, fun e' _ => hx.waiting e hresult⟩
  | ok pair =>
      rcases pair with ⟨a, mid⟩
      rw [Traced.bind_of_ok f hresult]
      have hmid := hx.done a mid hresult
      constructor
      · intro b s' hb
        show answered (x.trace ++ (f (a, mid)).trace) ++ s'.answers = s.answers
        rw [answered_append, List.append_assoc, (hf a mid).done b s' hb, hmid]
      · intro e he
        rcases (hf a mid).waiting e he with ⟨hanswered, exchange, hmem, hnone⟩
        refine ⟨?_, exchange, List.mem_append_right _ hmem, hnone⟩
        show answered (x.trace ++ (f (a, mid)).trace) = s.answers
        rw [answered_append, hanswered, hmid]

theorem conserves_sendRequest {s : Session} (config : RequestConfig)
    (endpoint : Endpoint) (retryCount : Nat)
    {f : Except HttpError Bool × List Answer -> Http (α × Session)}
    (hf : forall result answers, exists a s', s'.answers = answers ∧
      f (result, answers) = pure (a, s')) :
    Conserves s (sendRequest config endpoint retryCount s.answers >>= f) := by
  have hanswered := answered_sendRequest config endpoint retryCount s.answers
  cases hresult : (sendRequest config endpoint retryCount s.answers).result with
  | error e =>
      rw [hresult] at hanswered
      rw [Traced.bind_of_error f hresult]
      exact ⟨nofun, fun e' _ => hanswered⟩
  | ok pair =>
      rcases pair with ⟨result, answers⟩
      rw [hresult] at hanswered
      rcases hf result answers with ⟨a, s', hs', hpure⟩
      rw [Traced.bind_of_ok f hresult, hpure]
      constructor
      · intro b s'' hb
        cases hb
        show answered (_ ++ []) ++ s'.answers = s.answers
        rw [List.append_nil, hs']
        exact hanswered
      · intro e he
        cases he

theorem conserves_serverVersions (s : Session) : Conserves s (serverVersions s) := by
  unfold serverVersions
  split
  · exact conserves_pure _ s
  · apply conserves_sendRequest
    intro result answers
    rcases result with err | accepted
    · exact ⟨_, _, rfl, rfl⟩
    · exact ⟨_, _, rfl, rfl⟩

theorem conserves_send (endpoint : Endpoint) (config : Option RequestConfig)
    (s : Session) : Conserves s (send endpoint config s) := by
  apply conserves_bind (conserves_serverVersions s)
  intro result s'
  rcases result with err | versions
  · exact conserves_pure _ s'
  · apply conserves_sendRequest
    intro result answers
    exact ⟨_, _, rfl, rfl⟩

/-- A computation with a bounded number of finally answered requests ends as soon
as the script holds that many final answers. -/
theorem result_ok_of_conserves {s : Session} {x : Http (α × Session)} {n : Nat}
    (hx : Conserves s x) (hcount : SendsAtMost n Exchange.isFinal x)
    (hanswers : n <= s.answers.countP fun answer => !answer.isTransient) :
    exists a s', x.result = .ok (a, s') := by
  cases hresult : x.result with
  | ok pair => exact ⟨pair.1, pair.2, rfl⟩
  | error e =>
      rcases hx.waiting e hresult with ⟨hanswered, exchange, hmem, hnone⟩
      have hlt : (answered x.trace).countP (fun answer => !answer.isTransient) <
          x.trace.countP Exchange.isFinal := countP_answered_lt hmem hnone
      rw [hanswered] at hlt
      exact absurd hcount (Nat.not_le_of_lt (Nat.lt_of_le_of_lt hanswers hlt))

end Waiting

end HttpClient
end MatrixGoose
