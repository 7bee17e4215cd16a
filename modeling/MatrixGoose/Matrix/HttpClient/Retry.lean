import MatrixGoose.Foundation.Traced

/-!
# Sending with retries

The retry layer of the HTTP client.  A request is sent again as long as its
answers are transient: the server limits the rate or has failed.  The server is a
script of answers; when it is used up, the last request is still waiting.
-/

namespace MatrixGoose

open Foundation

namespace HttpClient

/-!
# Errors
-/

inductive ErrorKind
  | limitExceeded (retryAfterMs : Option Nat)
  | unknownToken (softLogout : Bool)
  | other (errcode : String)
deriving DecidableEq, Repr

inductive ErrorBody
  | standard (kind : ErrorKind) (message : String)
  | nonStandard (body : String)
deriving DecidableEq, Repr

inductive RumaApiError
  | clientApi (statusCode : Nat) (body : ErrorBody)
  | uiaa
  | other (statusCode : Nat)
deriving DecidableEq, Repr

inductive HttpError
  | reqwest
  | authenticationRequired
  | notClientRequest
  | apiServer (error : RumaApiError)
  | apiDeserialization
  | intoHttp
  | unableToCloneRequest
  | refreshToken
deriving DecidableEq, Repr

def HttpError.asRumaApiError : HttpError -> Option RumaApiError
  | apiServer error => some error
  | _ => none

/-!
# Configuration
-/

structure RequestConfig where
  timeout : Nat
  retryLimit : Option Nat
  retryTimeout : Option Nat
  forceAuth : Bool
  assertIdentity : Bool
deriving DecidableEq, Repr

namespace RequestConfig

def defaultRequestTimeout : Nat := 60

def default : RequestConfig where
  timeout := defaultRequestTimeout
  retryLimit := none
  retryTimeout := none
  forceAuth := false
  assertIdentity := false

/-- The default values, except the retry limit which is set to 3. -/
def shortRetry : RequestConfig :=
  { default with retryLimit := some 3 }

def disableRetry (config : RequestConfig) : RequestConfig :=
  { config with retryLimit := some 0 }

end RequestConfig

/-!
# Classifying errors
-/

inductive RetryError
  | permanent (err : HttpError)
  | transient (err : HttpError) (retryAfter : Option Nat)
deriving DecidableEq, Repr

def isServerError (statusCode : Nat) : Bool :=
  500 <= statusCode && statusCode < 600

def statusCodeOf : RumaApiError -> Option Nat
  | RumaApiError.clientApi statusCode _ => some statusCode
  | RumaApiError.uiaa => none
  | RumaApiError.other statusCode => some statusCode

/-- Errors are permanent once the retry limit is reached. -/
def errorType (stop : Bool) (err : HttpError) : RetryError :=
  if stop then RetryError.permanent err
  else
    match err.asRumaApiError with
    | none => RetryError.permanent err
    | some (RumaApiError.clientApi _
        (ErrorBody.standard (ErrorKind.limitExceeded retryAfterMs) _)) =>
        RetryError.transient err retryAfterMs
    | some apiError =>
        match statusCodeOf apiError with
        | some statusCode =>
            if isServerError statusCode then RetryError.transient err none
            else RetryError.permanent err
        | none => RetryError.permanent err

/-- The retry limit is reached by the `retryCount`-th attempt. -/
def stops (config : RequestConfig) (retryCount : Nat) : Bool :=
  match config.retryLimit with
  | some retryLimit => retryLimit <= retryCount
  | none => false

/-!
# The retry loop
-/

/-- What comes back for a request: an error, or a response, which the caller may
still reject; and whether the time of a back-off with a retry timeout is up. -/
structure Answer where
  outcome : Except HttpError Bool
  timeUp : Bool

inductive Endpoint
  | versions
  | login
  | sync
  | register
  | createRoom (index : Nat)
  | joinRoom (index : Nat)
deriving DecidableEq, Repr

structure Exchange where
  endpoint : Endpoint
  answer : Option Answer

inductive Waiting
  | waiting
deriving DecidableEq, Repr

abbrev Http (α : Type) := Traced Exchange Waiting α

/-- A back-off gives up only if it has a retry timeout and the server did not
name a time for the retry. -/
def givesUp (config : RequestConfig) (retryAfter : Option Nat) (answer : Answer) :
    Bool :=
  retryAfter.isNone && config.retryTimeout.isSome && answer.timeUp

def sendRequest (config : RequestConfig) (endpoint : Endpoint) (retryCount : Nat) :
    List Answer -> Http (Except HttpError Bool × List Answer)
  | [] => { trace := [{ endpoint, answer := none }], result := .error Waiting.waiting }
  | answer :: rest => do
      Traced.emit [{ endpoint, answer := some answer }]
      match answer.outcome with
      | .ok accepted => return (.ok accepted, rest)
      | .error err =>
          match errorType (stops config retryCount) err with
          | RetryError.permanent err => return (.error err, rest)
          | RetryError.transient err retryAfter =>
              if givesUp config retryAfter answer then return (.error err, rest)
              else sendRequest config endpoint (retryCount + 1) rest

/-!
# One final answer for each call
-/

def Answer.isTransient (answer : Answer) : Bool :=
  match answer.outcome with
  | .ok _ => false
  | .error err =>
      match errorType false err with
      | RetryError.permanent _ => false
      | RetryError.transient _ _ => true

def Exchange.isFinal (exchange : Exchange) : Bool :=
  match exchange.answer with
  | none => true
  | some answer => !answer.isTransient

theorem errorType_transient {stop : Bool} {err err' : HttpError}
    {retryAfter : Option Nat}
    (h : errorType stop err = RetryError.transient err' retryAfter) :
    errorType false err = RetryError.transient err' retryAfter ∧ stop = false := by
  cases stop with
  | false => exact ⟨h, rfl⟩
  | true => cases h

theorem sendRequest_cons (config : RequestConfig) (endpoint : Endpoint)
    (retryCount : Nat) (answer : Answer) (rest : List Answer) :
    (exists result, sendRequest config endpoint retryCount (answer :: rest) =
        { trace := [{ endpoint, answer := some answer }],
          result := .ok (result, rest) }) ∨
      (answer.isTransient = true ∧ stops config retryCount = false ∧
        sendRequest config endpoint retryCount (answer :: rest) =
          { trace := { endpoint, answer := some answer } ::
              (sendRequest config endpoint (retryCount + 1) rest).trace,
            result := (sendRequest config endpoint (retryCount + 1) rest).result }) := by
  rw [sendRequest, Traced.bind_of_ok _ (Traced.result_emit _)]
  cases houtcome : answer.outcome with
  | ok accepted => exact Or.inl ⟨.ok accepted, rfl⟩
  | error err =>
      dsimp only
      cases htype : errorType (stops config retryCount) err with
      | permanent err' => exact Or.inl ⟨.error err', rfl⟩
      | transient err' retryAfter =>
          dsimp only
          by_cases hgivesUp : givesUp config retryAfter answer = true
          · rw [if_pos hgivesUp]
            exact Or.inl ⟨.error err', rfl⟩
          · rw [if_neg hgivesUp]
            rcases errorType_transient htype with ⟨hfalse, hstop⟩
            refine Or.inr ⟨?_, hstop, rfl⟩
            rw [Answer.isTransient, houtcome]
            dsimp only
            rw [hfalse]

/-- However often a request is sent again, at most one of the requests is not
answered by a transient error. -/
theorem countP_isFinal_sendRequest (config : RequestConfig) (endpoint : Endpoint)
    (retryCount : Nat) (answers : List Answer) :
    (sendRequest config endpoint retryCount answers).trace.countP
      Exchange.isFinal <= 1 := by
  induction answers generalizing retryCount with
  | nil => exact List.countP_le_length
  | cons answer rest ih =>
      rcases sendRequest_cons config endpoint retryCount answer rest with
        ⟨result, hdone⟩ | ⟨htransient, _, hagain⟩
      · rw [hdone]
        exact List.countP_le_length
      · rw [hagain]
        rw [List.countP_cons_of_neg]
        · exact ih (retryCount + 1)
        · simp [Exchange.isFinal, htransient]

theorem endpoint_of_mem_sendRequest {config : RequestConfig} {endpoint : Endpoint}
    {retryCount : Nat} {answers : List Answer} {exchange : Exchange}
    (h : exchange ∈ (sendRequest config endpoint retryCount answers).trace) :
    exchange.endpoint = endpoint := by
  induction answers generalizing retryCount with
  | nil =>
      rw [List.mem_singleton.mp h]
  | cons answer rest ih =>
      rcases sendRequest_cons config endpoint retryCount answer rest with
        ⟨result, hdone⟩ | ⟨_, _, hagain⟩
      · rw [hdone] at h
        rw [List.mem_singleton.mp h]
      · rw [hagain] at h
        rcases List.mem_cons.mp h with hhead | htail
        · rw [hhead]
        · exact ih htail

/-!
# Answers are used up in order
-/

def answered (trace : List Exchange) : List Answer :=
  trace.filterMap Exchange.answer

theorem answered_append (first second : List Exchange) :
    answered (first ++ second) = answered first ++ answered second := by
  simp [answered]

theorem countP_answered_le (trace : List Exchange) :
    (answered trace).countP (fun answer => !answer.isTransient) <=
      trace.countP Exchange.isFinal := by
  induction trace with
  | nil => exact Nat.le_refl 0
  | cons exchange rest ih =>
      rcases exchange with ⟨endpoint, _ | answer⟩
      · show (answered rest).countP _ <= _
        rw [List.countP_cons]
        exact Nat.le_add_right_of_le ih
      · show (answer :: answered rest).countP _ <= _
        rw [List.countP_cons, List.countP_cons]
        exact Nat.add_le_add ih (Nat.le_refl _)

/-- A request in flight counts as final, but has no answer yet. -/
theorem countP_answered_lt {trace : List Exchange} {exchange : Exchange}
    (hmem : exchange ∈ trace) (hnone : exchange.answer = none) :
    (answered trace).countP (fun answer => !answer.isTransient) <
      trace.countP Exchange.isFinal := by
  rcases List.append_of_mem hmem with ⟨first, second, heq⟩
  have hfinal : exchange.isFinal = true := by
    rw [Exchange.isFinal, hnone]
  have hsplit : answered trace = answered first ++ answered second := by
    rw [heq, answered_append]
    simp [answered, hnone]
  rw [hsplit, heq, List.countP_append, List.countP_append,
    List.countP_cons_of_pos hfinal]
  have hfirst := countP_answered_le first
  have hsecond := countP_answered_le second
  omega

theorem answered_sendRequest (config : RequestConfig) (endpoint : Endpoint)
    (retryCount : Nat) (answers : List Answer) :
    match (sendRequest config endpoint retryCount answers).result with
    | .ok (_, rest) =>
        answered (sendRequest config endpoint retryCount answers).trace ++ rest = answers
    | .error _ =>
        answered (sendRequest config endpoint retryCount answers).trace = answers ∧
          exists exchange,
            exchange ∈ (sendRequest config endpoint retryCount answers).trace ∧
              exchange.answer = none := by
  induction answers generalizing retryCount with
  | nil => exact ⟨rfl, _, List.mem_singleton_self _, rfl⟩
  | cons answer rest ih =>
      rcases sendRequest_cons config endpoint retryCount answer rest with
        ⟨result, hdone⟩ | ⟨_, _, hagain⟩
      · rw [hdone]
        rfl
      · rw [hagain]
        have hrest := ih (retryCount + 1)
        cases hresult : (sendRequest config endpoint (retryCount + 1) rest).result with
        | ok pair =>
            rw [hresult] at hrest
            exact congrArg (answer :: ·) hrest
        | error e =>
            rw [hresult] at hrest
            rcases hrest with ⟨hanswered, exchange, hmem, hnone⟩
            exact ⟨congrArg (answer :: ·) hanswered, exchange,
              List.mem_cons_of_mem _ hmem, hnone⟩

end HttpClient
end MatrixGoose
