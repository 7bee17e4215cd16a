import MatrixGoose.Matrix.HttpClient.Retry

/-!
# The attempts at a request

What a call of `send_request` sends in each of its attempts, and what it returns, for any
sequence of ends that the attempts have.
-/

namespace MatrixGoose

open Foundation

namespace HttpClient

structure HttpRequest where
  version : String
  method : String
  uri : String
  headers : List (String × String)
  extensions : List String
  body : List UInt8
  deriving DecidableEq

structure HttpResponse where
  status : Nat
  body : List UInt8

/-- Clones all request parts except the extensions which can't be cloned. -/
def cloneRequest (request : HttpRequest) : HttpRequest where
  version := request.version
  method := request.method
  uri := request.uri
  headers := request.headers
  extensions := []
  body := request.body

/-- How an attempt ends: what came back for the request, and whether the time of a back-off
with a retry timeout is up by then. -/
structure AttemptEnd where
  sent : Except HttpError HttpResponse
  timeUp : Bool

abbrev SendResult (Response : Type) := Except HttpError (Nat × Nat × Response)

structure RetryState (Response : Type) where
  retryCount : Nat
  sent : List HttpRequest
  result : Option (SendResult Response)

section Attempts

variable {Response : Type}
-- `R::IncomingResponse::try_from_http_response`
variable (decode : HttpResponse -> Except HttpError Response)

def outcome (ended : AttemptEnd) : SendResult Response :=
  match ended.sent with
  | .error err => .error err
  | .ok response =>
      match decode response with
      | .error err => .error err
      | .ok decoded => .ok (response.status, response.body.length, decoded)

def answerOf (ended : AttemptEnd) : Answer where
  outcome := (outcome decode ended).map fun _ => true
  timeUp := ended.timeUp

/-- `backoff` returns a permanent error, and sends again after a transient one unless its
time is up. -/
def retryResult (config : RequestConfig) (answer : Answer) :
    RetryError -> Option (SendResult Response)
  | RetryError.permanent err => some (.error err)
  | RetryError.transient err retryAfter =>
      if givesUp config retryAfter answer then some (.error err) else none

def attempt (config : RequestConfig) (request : HttpRequest) (state : RetryState Response)
    (ended : AttemptEnd) : RetryState Response :=
  match state.result with
  | some _ => state
  | none =>
      let stop := stops config state.retryCount
      let retryCount :=
        if config.retryLimit.isSome then state.retryCount + 1 else state.retryCount
      let result :=
        match ended.sent with
        | .error err => retryResult config (answerOf decode ended) (errorType stop err)
        | .ok response =>
            match decode response with
            | .error err => retryResult config (answerOf decode ended) (errorType stop err)
            | .ok decoded => some (.ok (response.status, response.body.length, decoded))
      { retryCount, sent := state.sent ++ [cloneRequest request], result }

/-- The call after as many attempts, which end in turn as `ends 1`, `ends 2`, ...  No
attempt is made after the result. -/
def attempts (config : RequestConfig) (request : HttpRequest) (ends : Nat -> AttemptEnd) :
    Nat -> RetryState Response
  | 0 => { retryCount := 1, sent := [], result := none }
  | k + 1 => attempt decode config request (attempts config request ends k) (ends (k + 1))

end Attempts

/-!
# What should hold
-/

def TransientError (err : HttpError) : Prop :=
  (exists status retryAfterMs message,
    err = HttpError.apiServer (RumaApiError.clientApi status
      (ErrorBody.standard (ErrorKind.limitExceeded retryAfterMs) message))) ∨
  exists status, 500 <= status ∧ status < 600 ∧
    ((exists body, err = HttpError.apiServer (RumaApiError.clientApi status body)) ∨
      err = HttpError.apiServer (RumaApiError.other status))

/-- The attempt with this number ends the call: it succeeds, it has an error that is not
transient, or it is at the limit. -/
def EndsCall {Response : Type} (config : RequestConfig) (k : Nat)
    (outcome : SendResult Response) : Prop :=
  (exists response, outcome = .ok response) ∨
  (exists err, outcome = .error err ∧ ¬ TransientError err) ∨
  exists limit, config.retryLimit = some limit ∧ max 1 limit <= k

structure FirstEnd {Response : Type} (config : RequestConfig)
    (outcomes : Nat -> SendResult Response) (A : Nat) : Prop where
  one_le : 1 <= A
  ends : EndsCall config A (outcomes A)
  least : forall k, 1 <= k -> k < A -> ¬ EndsCall config k (outcomes k)

structure RetriesAsLimited {Response : Type} (decode : HttpResponse -> Except HttpError Response)
    (config : RequestConfig) (request : HttpRequest) (ends : Nat -> AttemptEnd) : Prop where
  /-- Without a retry timeout the request is sent `A` times, and the outcome of the last
  attempt is returned. -/
  exactly : config.retryTimeout = none ->
    forall A, FirstEnd config (fun k => outcome decode (ends k)) A -> forall m,
      (attempts decode config request ends m).sent.length = min m A ∧
      (attempts decode config request ends m).result =
        if A <= m then some (outcome decode (ends A)) else none
  /-- If no attempt ends the call, it is sent again and again. -/
  forever : config.retryTimeout = none ->
    (forall A, ¬ FirstEnd config (fun k => outcome decode (ends k)) A) -> forall m,
      (attempts decode config request ends m).sent.length = m ∧
      (attempts decode config request ends m).result = none
  /-- With or without a retry timeout it is not sent more often. -/
  atMost : forall A, FirstEnd config (fun k => outcome decode (ends k)) A -> forall m,
    (attempts decode config request ends m).sent.length <= A
  same : forall m sent, sent ∈ (attempts decode config request ends m).sent ->
    sent.method = request.method ∧ sent.uri = request.uri ∧
      sent.headers = request.headers ∧ sent.body = request.body

/-!
# One attempt
-/

def ClassifiedRight (err : HttpError) : Prop :=
  (TransientError err ∧
      exists retryAfter, errorType false err = RetryError.transient err retryAfter) ∨
    (¬ TransientError err ∧ errorType false err = RetryError.permanent err)

theorem classifiedRight_of_status {apiError : RumaApiError} {status : Nat}
    (hstatus : statusCodeOf apiError = some status)
    (hlimit : forall status retryAfterMs message,
      apiError ≠ RumaApiError.clientApi status
        (ErrorBody.standard (ErrorKind.limitExceeded retryAfterMs) message))
    (htype : errorType false (HttpError.apiServer apiError) =
      if isServerError status then RetryError.transient (HttpError.apiServer apiError) none
      else RetryError.permanent (HttpError.apiServer apiError)) :
    ClassifiedRight (HttpError.apiServer apiError) := by
  have hserver : isServerError status = true <-> 500 <= status ∧ status < 600 := by
    simp [isServerError]
  by_cases hrange : isServerError status = true
  · rw [if_pos hrange] at htype
    refine Or.inl ⟨Or.inr ?_, none, htype⟩
    rcases hserver.mp hrange with ⟨hlow, hhigh⟩
    cases apiError with
    | clientApi code body =>
        cases hstatus
        exact ⟨status, hlow, hhigh, Or.inl ⟨body, rfl⟩⟩
    | other code =>
        cases hstatus
        exact ⟨status, hlow, hhigh, Or.inr rfl⟩
    | uiaa => cases hstatus
  · rw [if_neg hrange] at htype
    refine Or.inr ⟨?_, htype⟩
    intro htransient
    rcases htransient with ⟨code, retryAfterMs, message, heq⟩ | ⟨code, hlow, hhigh, heq⟩
    · exact hlimit code retryAfterMs message (HttpError.apiServer.inj heq)
    · apply hrange
      apply hserver.mpr
      rcases heq with ⟨body, heq⟩ | heq
      · cases heq
        cases hstatus
        exact ⟨hlow, hhigh⟩
      · cases heq
        cases hstatus
        exact ⟨hlow, hhigh⟩

theorem classifiedRight_of_no_answer {err : HttpError}
    (hnone : forall apiError, err ≠ HttpError.apiServer apiError)
    (htype : errorType false err = RetryError.permanent err) : ClassifiedRight err := by
  refine Or.inr ⟨?_, htype⟩
  intro htransient
  rcases htransient with ⟨_, _, _, heq⟩ | ⟨_, _, _, ⟨_, heq⟩ | heq⟩
  · exact hnone _ heq
  · exact hnone _ heq
  · exact hnone _ heq

theorem classifiedRight (err : HttpError) : ClassifiedRight err := by
  cases err with
  | apiServer apiError =>
      cases apiError with
      | clientApi status body =>
          cases body with
          | nonStandard body => exact classifiedRight_of_status rfl nofun rfl
          | standard kind message =>
              cases kind with
              | limitExceeded retryAfterMs =>
                  exact Or.inl ⟨Or.inl ⟨status, retryAfterMs, message, rfl⟩,
                    retryAfterMs, rfl⟩
              | unknownToken softLogout => exact classifiedRight_of_status rfl nofun rfl
              | other errcode => exact classifiedRight_of_status rfl nofun rfl
      | uiaa =>
          refine Or.inr ⟨?_, rfl⟩
          intro htransient
          rcases htransient with ⟨_, _, _, heq⟩ | ⟨_, _, _, ⟨_, heq⟩ | heq⟩ <;> cases heq
      | other status => exact classifiedRight_of_status rfl nofun rfl
  | _ => exact classifiedRight_of_no_answer nofun rfl

section Steps

variable {Response : Type} {decode : HttpResponse -> Except HttpError Response}
variable {config : RequestConfig} {request : HttpRequest}

theorem attempt_of_some {state : RetryState Response} {result : SendResult Response}
    (hsome : state.result = some result) (ended : AttemptEnd) :
    attempt decode config request state ended = state := by
  rw [attempt, hsome]

theorem attempt_of_none {state : RetryState Response} (hnone : state.result = none)
    (ended : AttemptEnd) :
    attempt decode config request state ended =
      { retryCount :=
          if config.retryLimit.isSome then state.retryCount + 1 else state.retryCount
        sent := state.sent ++ [cloneRequest request]
        result :=
          match outcome decode ended with
          | .ok response => some (.ok response)
          | .error err =>
              retryResult config (answerOf decode ended)
                (errorType (stops config state.retryCount) err) } := by
  rw [attempt, hnone, outcome]
  cases ended.sent with
  | error err => rfl
  | ok response =>
      dsimp only
      cases decode response with
      | error err => rfl
      | ok decoded => rfl

theorem attempt_result {state : RetryState Response} {k : Nat} (hk : 1 <= k)
    (hnone : state.result = none)
    (hcount : config.retryLimit.isSome = true -> state.retryCount = k)
    (ended : AttemptEnd) :
    ((attempt decode config request state ended).result = some (outcome decode ended) ∧
        (config.retryTimeout = none -> EndsCall config k (outcome decode ended))) ∨
      ((attempt decode config request state ended).result = none ∧
        ¬ EndsCall config k (outcome decode ended)) := by
  rw [attempt_of_none hnone]
  have hlimit : forall limit, config.retryLimit = some limit ->
      (stops config state.retryCount = true <-> max 1 limit <= k) := by
    intro limit hsome
    rw [stops, hsome, hcount (by rw [hsome]; rfl)]
    simp only [decide_eq_true_eq]
    omega
  cases outcome decode ended with
  | ok response => exact Or.inl ⟨rfl, fun _ => Or.inl ⟨response, rfl⟩⟩
  | error err =>
      dsimp only
      cases hstop : stops config state.retryCount with
      | true =>
          refine Or.inl ⟨rfl, fun _ => Or.inr (Or.inr ?_)⟩
          cases hretry : config.retryLimit with
          | none =>
              rw [stops, hretry] at hstop
              cases hstop
          | some limit => exact ⟨limit, rfl, (hlimit limit hretry).mp hstop⟩
      | false =>
          rcases classifiedRight err with ⟨htransient, retryAfter, htype⟩ | ⟨hnot, htype⟩
          · rw [htype, retryResult]
            by_cases hgivesUp : givesUp config retryAfter (answerOf decode ended) = true
            · rw [if_pos hgivesUp]
              refine Or.inl ⟨rfl, ?_⟩
              intro htimeout
              simp [givesUp, htimeout] at hgivesUp
            · rw [if_neg hgivesUp]
              refine Or.inr ⟨rfl, ?_⟩
              intro hends
              rcases hends with ⟨response, hok⟩ | ⟨other, herr, hnot⟩ | ⟨limit, hsome, hle⟩
              · cases hok
              · cases herr
                exact hnot htransient
              · rw [(hlimit limit hsome).mpr hle] at hstop
                cases hstop
          · rw [htype]
            exact Or.inl ⟨rfl, fun _ => Or.inr (Or.inl ⟨err, rfl, hnot⟩)⟩

/-!
# All attempts
-/

/-- The call after `m` attempts none of which has ended it. -/
structure Pending (config : RequestConfig) (state : RetryState Response) (m : Nat) :
    Prop where
  result : state.result = none
  length_sent : state.sent.length = m
  count : config.retryLimit.isSome = true -> state.retryCount = m + 1

theorem pending_zero {ends : Nat -> AttemptEnd} :
    Pending config (attempts decode config request ends 0) 0 :=
  ⟨rfl, rfl, fun _ => rfl⟩

theorem length_sent_attempt {state : RetryState Response} (hnone : state.result = none)
    (ended : AttemptEnd) :
    (attempt decode config request state ended).sent.length = state.sent.length + 1 := by
  rw [attempt_of_none hnone]
  simp

/-- One more attempt ends a pending call with its outcome, or leaves it pending. -/
theorem Pending.attempt {state : RetryState Response} {m : Nat}
    (hstate : Pending config state m) (ended : AttemptEnd) :
    ((attempt decode config request state ended).result = some (outcome decode ended) ∧
        (config.retryTimeout = none -> EndsCall config (m + 1) (outcome decode ended))) ∨
      (Pending config (attempt decode config request state ended) (m + 1) ∧
        ¬ EndsCall config (m + 1) (outcome decode ended)) := by
  have hlength : (HttpClient.attempt decode config request state ended).sent.length =
      m + 1 := by
    rw [length_sent_attempt hstate.result, hstate.length_sent]
  rcases @attempt_result Response decode config request state (m + 1) (Nat.succ_pos m)
    hstate.result hstate.count ended with hdone | ⟨hnone, hends⟩
  · exact Or.inl hdone
  · refine Or.inr ⟨⟨hnone, hlength, ?_⟩, hends⟩
    intro hsome
    rw [attempt_of_none hstate.result]
    show (if config.retryLimit.isSome = true then state.retryCount + 1
      else state.retryCount) = m + 2
    rw [if_pos hsome, hstate.count hsome]

variable {ends : Nat -> AttemptEnd}

theorem exists_firstEnd {outcomes : Nat -> SendResult Response} {k : Nat} (hk : 1 <= k)
    (hends : EndsCall config k (outcomes k)) : exists A, FirstEnd config outcomes A := by
  induction k using Nat.strongRecOn with
  | ind k ih =>
      by_cases hearlier : exists j, 1 <= j ∧ j < k ∧ EndsCall config j (outcomes j)
      · rcases hearlier with ⟨j, hj, hlt, hjEnds⟩
        exact ih j hlt hj hjEnds
      · exact ⟨k, hk, hends, fun j hj hlt hjEnds => hearlier ⟨j, hj, hlt, hjEnds⟩⟩

theorem attempts_pending (htimeout : config.retryTimeout = none) {m : Nat}
    (hnone : forall k, 1 <= k -> k <= m ->
      ¬ EndsCall config k (outcome decode (ends k))) :
    Pending config (attempts decode config request ends m) m := by
  induction m with
  | zero => exact pending_zero
  | succ m ih =>
      have hbefore := ih fun k hk hle => hnone k hk (Nat.le_succ_of_le hle)
      rcases hbefore.attempt (ends (m + 1)) with ⟨_, hends⟩ | ⟨hpending, _⟩
      · exact absurd (hends htimeout) (hnone (m + 1) (Nat.succ_pos m) (Nat.le_refl _))
      · exact hpending

theorem attempts_of_some {k : Nat} {result : SendResult Response}
    (hsome : (attempts decode config request ends k).result = some result) {m : Nat}
    (hle : k <= m) :
    attempts decode config request ends m = attempts decode config request ends k := by
  induction hle with
  | refl => rfl
  | @step m hle ih =>
      rw [attempts, ih]
      exact attempt_of_some hsome (ends (m + 1))

theorem attempts_at_first {A : Nat} (htimeout : config.retryTimeout = none)
    (hfirst : FirstEnd config (fun k => outcome decode (ends k)) A) :
    (attempts decode config request ends A).sent.length = A ∧
      (attempts decode config request ends A).result = some (outcome decode (ends A)) := by
  rcases Nat.exists_eq_add_of_le' hfirst.one_le with ⟨k, rfl⟩
  have hends : EndsCall config (k + 1) (outcome decode (ends (k + 1))) := hfirst.ends
  have hpending : Pending config (attempts decode config request ends k) k :=
    attempts_pending htimeout fun j hj hle => hfirst.least j hj (Nat.lt_succ_of_le hle)
  rcases @Pending.attempt Response decode config request _ k hpending (ends (k + 1)) with
    ⟨hresult, _⟩ | ⟨_, hnot⟩
  · refine ⟨?_, hresult⟩
    rw [attempts, length_sent_attempt hpending.result, hpending.length_sent]
  · exact absurd hends hnot

theorem pending_or_length_le {A : Nat}
    (hfirst : FirstEnd config (fun k => outcome decode (ends k)) A) (m : Nat) :
    (Pending config (attempts decode config request ends m) m ∧ m < A) ∨
      exists result, (attempts decode config request ends m).result = some result ∧
        (attempts decode config request ends m).sent.length <= A := by
  induction m with
  | zero => exact Or.inl ⟨pending_zero, hfirst.one_le⟩
  | succ m ih =>
      rcases ih with ⟨hpending, hlt⟩ | ⟨result, hsome, hle⟩
      · rcases @Pending.attempt Response decode config request _ m hpending (ends (m + 1))
          with ⟨hresult, _⟩ | ⟨hnext, hnot⟩
        · refine Or.inr ⟨_, hresult, ?_⟩
          rw [attempts, length_sent_attempt hpending.result, hpending.length_sent]
          exact hlt
        · refine Or.inl ⟨hnext, ?_⟩
          apply Nat.lt_of_le_of_ne hlt
          intro hsame
          subst hsame
          exact hnot hfirst.ends
      · rw [attempts_of_some hsome (Nat.le_succ m)]
        exact Or.inr ⟨result, hsome, hle⟩

theorem eq_cloneRequest_of_mem_sent {m : Nat} {sent : HttpRequest}
    (hmem : sent ∈ (attempts decode config request ends m).sent) :
    sent = cloneRequest request := by
  induction m with
  | zero => cases hmem
  | succ m ih =>
      cases hresult : (attempts decode config request ends m).result with
      | some result =>
          rw [attempts, attempt_of_some hresult] at hmem
          exact ih hmem
      | none =>
          rw [attempts, attempt_of_none hresult] at hmem
          rcases List.mem_append.mp hmem with hbefore | hlast
          · exact ih hbefore
          · exact List.mem_singleton.mp hlast

end Steps

/-- A call retries as its limit and the classification of its errors say, whatever the
ends of its attempts. -/
theorem retriesAsLimited {Response : Type} (decode : HttpResponse -> Except HttpError Response)
    (config : RequestConfig) (request : HttpRequest) (ends : Nat -> AttemptEnd) :
    RetriesAsLimited decode config request ends where
  exactly := by
    intro htimeout A hfirst m
    by_cases hle : A <= m
    · rcases @attempts_at_first Response decode config request ends A htimeout hfirst with
        ⟨hlength, hresult⟩
      rw [attempts_of_some hresult hle, if_pos hle, Nat.min_eq_right hle]
      exact ⟨hlength, hresult⟩
    · have hpending : Pending config (attempts decode config request ends m) m :=
        attempts_pending htimeout fun k hk hkm => hfirst.least k hk (by omega)
      rw [if_neg hle, Nat.min_eq_left (by omega)]
      exact ⟨hpending.length_sent, hpending.result⟩
  forever := by
    intro htimeout hnone m
    have hpending : Pending config (attempts decode config request ends m) m := by
      apply attempts_pending htimeout
      intro k hk _ hends
      rcases @exists_firstEnd Response config (fun k => outcome decode (ends k)) k hk hends
        with ⟨A, hfirst⟩
      exact hnone A hfirst
    exact ⟨hpending.length_sent, hpending.result⟩
  atMost := by
    intro A hfirst m
    rcases @pending_or_length_le Response decode config request ends A hfirst m with
      ⟨hpending, hlt⟩ | ⟨result, _, hle⟩
    · rw [hpending.length_sent]
      exact Nat.le_of_lt hlt
    · exact hle
  same := by
    intro m sent hmem
    rw [eq_cloneRequest_of_mem_sent hmem]
    exact ⟨rfl, rfl, rfl, rfl⟩

/-- Three attempts at a login that the server always answers with 501, with the retry limit
of `short_retry`. -/
example : (attempts (fun _ => Except.ok ()) RequestConfig.shortRetry
    { version := "HTTP/1.1", method := "POST", uri := "/_matrix/client/r0/login",
      headers := [], extensions := [], body := [] }
    (fun _ =>
      { sent := .error (HttpError.apiServer (RumaApiError.other 501)), timeUp := false })
    7).sent.length = 3 := by decide

/-!
# The retry loop of a session

The loop that the other layers build on sees of an attempt no more than its answer.
-/

section Refinement

variable {Response : Type} {decode : HttpResponse -> Except HttpError Response}
variable {config : RequestConfig} {request : HttpRequest} {ends : Nat -> AttemptEnd}

def answersFrom (decode : HttpResponse -> Except HttpError Response)
    (ends : Nat -> AttemptEnd) (k m : Nat) : List Answer :=
  (List.range' (k + 1) m).map fun j => answerOf decode (ends j)

theorem answersFrom_succ (k m : Nat) :
    answersFrom decode ends k (m + 1) =
      answerOf decode (ends (k + 1)) :: answersFrom decode ends (k + 1) m := by
  rw [answersFrom, List.range'_succ, List.map_cons]
  rfl

theorem Pending.stops_eq {state : RetryState Response} {k : Nat}
    (hpending : Pending config state k) :
    stops config state.retryCount = stops config (k + 1) := by
  unfold stops
  cases hlimit : config.retryLimit with
  | none => rfl
  | some limit =>
      have hcount := hpending.count
      rw [hlimit] at hcount
      rw [hcount rfl]

theorem sendRequest_round (endpoint : Endpoint) {k : Nat}
    (hpending : Pending config (attempts decode config request ends k) k)
    (rest : List Answer) :
    (exists result, (attempts decode config request ends (k + 1)).result = some result ∧
        sendRequest config endpoint (k + 1) (answerOf decode (ends (k + 1)) :: rest) =
          { trace := [{ endpoint, answer := some (answerOf decode (ends (k + 1))) }],
            result := .ok (result.map fun _ => true, rest) }) ∨
      ((attempts decode config request ends (k + 1)).result = none ∧
        sendRequest config endpoint (k + 1) (answerOf decode (ends (k + 1)) :: rest) =
          { trace := { endpoint, answer := some (answerOf decode (ends (k + 1))) } ::
              (sendRequest config endpoint (k + 1 + 1) rest).trace,
            result := (sendRequest config endpoint (k + 1 + 1) rest).result }) := by
  rw [sendRequest, Traced.bind_of_ok _ (Traced.result_emit _), attempts,
    attempt_of_none hpending.result, hpending.stops_eq]
  have hanswer : (answerOf decode (ends (k + 1))).outcome =
      (outcome decode (ends (k + 1))).map fun _ => true := rfl
  rw [hanswer]
  cases outcome decode (ends (k + 1)) with
  | ok response => exact Or.inl ⟨.ok response, rfl, rfl⟩
  | error err =>
      simp only [Except.map]
      cases errorType (stops config (k + 1)) err with
      | permanent err' => exact Or.inl ⟨.error err', rfl, rfl⟩
      | transient err' retryAfter =>
          simp only [retryResult]
          by_cases hgivesUp : givesUp config retryAfter
              (answerOf decode (ends (k + 1))) = true
          · simp only [hgivesUp, if_true]
            exact Or.inl ⟨.error err', rfl, rfl⟩
          · simp only [hgivesUp]
            exact Or.inr ⟨rfl, rfl⟩

theorem sendRequest_of_pending (endpoint : Endpoint) {k : Nat}
    (hpending : Pending config (attempts decode config request ends k) k) (m : Nat) :
    (Pending config (attempts decode config request ends (k + m)) (k + m) ∧
        (sendRequest config endpoint (k + 1) (answersFrom decode ends k m)).trace.length =
          m + 1) ∨
      exists result rest,
        (attempts decode config request ends (k + m)).result = some result ∧
        (sendRequest config endpoint (k + 1) (answersFrom decode ends k m)).result =
          .ok (result.map fun _ => true, rest) ∧
        k + (sendRequest config endpoint (k + 1)
            (answersFrom decode ends k m)).trace.length =
          (attempts decode config request ends (k + m)).sent.length := by
  induction m generalizing k with
  | zero => exact Or.inl ⟨hpending, rfl⟩
  | succ m ih =>
      have hindex : k + (m + 1) = k + 1 + m := by omega
      rw [answersFrom_succ, hindex]
      rcases sendRequest_round endpoint hpending (answersFrom decode ends (k + 1) m) with
        ⟨result, hresult, hround⟩ | ⟨hnone, hround⟩
      · have hlast := attempts_of_some hresult (Nat.le_add_right (k + 1) m)
        rw [hround, hlast, attempts, length_sent_attempt hpending.result,
          hpending.length_sent]
        exact Or.inr ⟨result, _, hresult, rfl, rfl⟩
      · have hnext : Pending config (attempts decode config request ends (k + 1)) (k + 1) := by
          rcases @Pending.attempt Response decode config request _ k hpending
            (ends (k + 1)) with ⟨hsome, _⟩ | ⟨hnext, _⟩
          · have hresult := hnone.symm.trans hsome
            cases hresult
          · exact hnext
        rw [hround]
        rcases ih hnext with ⟨hstill, hlength⟩ | ⟨result, rest, hresult, hloop, hlength⟩
        · refine Or.inl ⟨hstill, ?_⟩
          rw [List.length_cons, hlength]
        · refine Or.inr ⟨result, rest, hresult, hloop, ?_⟩
          rw [List.length_cons, ← hlength]
          omega

/-- The loop, answered with the answers of the attempts, sends as many requests as they
and returns what the last one came to, or still waits for the next answer. -/
theorem sendRequest_attempts (endpoint : Endpoint) (m : Nat) :
    ((attempts decode config request ends m).result = none ∧
        (sendRequest config endpoint 1 (answersFrom decode ends 0 m)).trace.length =
          (attempts decode config request ends m).sent.length + 1) ∨
      exists result rest, (attempts decode config request ends m).result = some result ∧
        (sendRequest config endpoint 1 (answersFrom decode ends 0 m)).result =
          .ok (result.map fun _ => true, rest) ∧
        (sendRequest config endpoint 1 (answersFrom decode ends 0 m)).trace.length =
          (attempts decode config request ends m).sent.length := by
  have hloop := @sendRequest_of_pending Response decode config request ends endpoint 0
    pending_zero m
  rw [Nat.zero_add] at hloop
  rcases hloop with ⟨hpending, hlength⟩ | ⟨result, rest, hresult, hreturned, hlength⟩
  · refine Or.inl ⟨hpending.result, ?_⟩
    rw [hpending.length_sent]
    exact hlength
  · refine Or.inr ⟨result, rest, hresult, hreturned, ?_⟩
    rw [← hlength, Nat.zero_add]

end Refinement

end HttpClient
end MatrixGoose
