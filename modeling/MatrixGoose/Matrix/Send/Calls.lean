import MatrixGoose.Foundation.Log
import MatrixGoose.Foundation.Mutex
import MatrixGoose.Matrix.RefreshToken

/-!
# Sending with a refresh in between

Any number of concurrent `send` calls of one client.  A request that is refused because of
its access token is sent again once the token was refreshed.  Below that, the HTTP client
repeats a request that was answered by a rate limit or a server error, with everything it
carries.  The calls share the session tokens and the lock of the refresh; a log keeps what
each call does, in the order in which the calls take turns.
-/

namespace MatrixGoose

open Foundation
open Foundation.Components

namespace Send

open RefreshToken (SessionTokens RefreshTokenError)

inductive SendError
  /-- The kind of the error is `UnknownToken`. -/
  | unknownToken (softLogout : Bool)
  | other (error : RefreshToken.HttpError)

inductive Attempt
  | first
  | again
  deriving DecidableEq

inductive Entry
  /-- The application logs in or out, or restores a session. -/
  | setSession (tokens : Option SessionTokens)
  /-- `send_inner` is called and reads the access token. -/
  | sendInner (i : Nat) (attempt : Attempt) (accessToken : Option String)
  | request (i : Nat) (attempt : Attempt) (accessToken : Option String)
  /-- A message to those who have subscribed to unknown-token errors. -/
  | unknownTokenError (i : Nat) (softLogout : Bool)
  | refreshAccessToken (i : Nat)
  | refreshRequest (i : Nat) (refreshToken : String)
  | tokensRefreshed (i : Nat) (response : RefreshToken.Response)

structure SendShared where
  refresh : RefreshToken.Shared
  log : List Entry

def SendShared.emit (shared : SendShared) (entries : List Entry) : SendShared :=
  { shared with log := shared.log ++ entries }

section Calls

variable {Response : Type}

inductive SendPhase (Response : Type)
  | notStarted
  /-- `send_inner` waits for the server versions. -/
  | serverVersions (attempt : Attempt) (accessToken : Option String)
  | sending (attempt : Attempt) (accessToken : Option String)
  | refreshing (softLogout : Bool) (phase : RefreshToken.Phase)
  /-- The refresh has succeeded. -/
  | refreshed
  | returned (result : Except SendError Response)

inductive SendAction (Response : Type)
  | sendInner
  | serverVersions (result : Except SendError Unit)
  /-- The HTTP client performs the request of the call, or of its refresh, once more. -/
  | repeatRequest
  | response (result : Except SendError Response)
  | refresh (a : RefreshToken.Action)
  | matchRefresh

/-!
# Steps
-/

def SendPhase.nextAttempt : SendPhase Response -> Option Attempt
  | SendPhase.notStarted => some Attempt.first
  | SendPhase.refreshed => some Attempt.again
  | _ => none

/-- What `send` does with an error of `send_inner`, after these log entries. -/
def afterError (handleRefreshTokens : Bool) (i : Nat) (shared : SendShared)
    (entries : List Entry) (attempt : Attempt) (error : SendError) :
    SendShared × SendPhase Response :=
  match handleRefreshTokens, attempt, error with
  | true, Attempt.first, SendError.unknownToken softLogout =>
      (shared.emit (entries ++ [Entry.refreshAccessToken i]),
        SendPhase.refreshing softLogout RefreshToken.Phase.notStarted)
  | _, _, _ => (shared.emit entries, SendPhase.returned (.error error))

/-- `send_inner` tells the subscribers of an access token that the server refuses. -/
def unknownTokenEntries (i : Nat) : SendError -> List Entry
  | SendError.unknownToken softLogout => [Entry.unknownTokenError i softLogout]
  | SendError.other _ => []

def refreshEntries (i : Nat) (phase : RefreshToken.Phase) (a : RefreshToken.Action) :
    List Entry :=
  match a, phase with
  | RefreshToken.Action.serverVersions (.ok _),
      RefreshToken.Phase.serverVersions _ refreshToken =>
      [Entry.refreshRequest i refreshToken]
  | RefreshToken.Action.response (.ok response), RefreshToken.Phase.request _ _ =>
      [Entry.tokensRefreshed i response]
  | _, _ => []

/-- What `send` does once `refresh_access_token` has returned. -/
def matchRefresh (softLogout : Bool) :
    Except RefreshToken.HttpError (Option RefreshToken.Response) -> SendPhase Response
  | .error (RefreshToken.HttpError.refreshToken RefreshTokenError.refreshTokenRequired) =>
      SendPhase.returned (.error (SendError.unknownToken softLogout))
  | .error error => SendPhase.returned (.error (SendError.other error))
  | .ok _ => SendPhase.refreshed

def sendStep (handleRefreshTokens : Bool) (i : Nat) (shared : SendShared)
    (phase : SendPhase Response) (a : SendAction Response) :
    Option (SendShared × SendPhase Response) :=
  match a, phase with
  | SendAction.sendInner, phase =>
      match phase.nextAttempt with
      | some attempt =>
          let accessToken := shared.refresh.sessionTokens.map SessionTokens.accessToken
          some (shared.emit [Entry.sendInner i attempt accessToken],
            SendPhase.serverVersions attempt accessToken)
      | none => none
  | SendAction.serverVersions (.ok _), SendPhase.serverVersions attempt accessToken =>
      some (shared.emit [Entry.request i attempt accessToken],
        SendPhase.sending attempt accessToken)
  | SendAction.repeatRequest, SendPhase.sending attempt accessToken =>
      some (shared.emit [Entry.request i attempt accessToken],
        SendPhase.sending attempt accessToken)
  | SendAction.repeatRequest,
      SendPhase.refreshing softLogout (RefreshToken.Phase.request tokens refreshToken) =>
      some (shared.emit [Entry.refreshRequest i refreshToken],
        SendPhase.refreshing softLogout (RefreshToken.Phase.request tokens refreshToken))
  | SendAction.serverVersions (.error error), SendPhase.serverVersions attempt _ =>
      -- `send_inner` returns before it looks at the kind of the error.
      some (afterError handleRefreshTokens i shared [] attempt error)
  | SendAction.response (.ok response), SendPhase.sending _ _ =>
      some (shared, SendPhase.returned (.ok response))
  | SendAction.response (.error error), SendPhase.sending attempt _ =>
      some (afterError handleRefreshTokens i shared (unknownTokenEntries i error) attempt error)
  | SendAction.refresh a, SendPhase.refreshing softLogout phase =>
      (RefreshToken.refreshStep i shared.refresh phase a).map fun (refresh, phase') =>
        ({ refresh, log := shared.log ++ refreshEntries i phase a },
          SendPhase.refreshing softLogout phase')
  | SendAction.matchRefresh,
      SendPhase.refreshing softLogout (RefreshToken.Phase.returned ending) =>
      some (shared, matchRefresh softLogout ending.result)
  | _, _ => none

def sends (handleRefreshTokens : Bool) :
    Components Nat SendShared (SendPhase Response) (Option SessionTokens)
      (SendAction Response) where
  initShared := { refresh := RefreshToken.refreshCalls.initShared, log := [] }
  initMemory := fun _ => SendPhase.notStarted
  environment := fun shared sessionTokens =>
    some
      { refresh := { shared.refresh with sessionTokens }
        log := shared.log ++ [Entry.setSession sessionTokens] }
  step := sendStep handleRefreshTokens

abbrev SendWorld (Response : Type) := World Nat SendShared (SendPhase Response)

abbrev SendEvent (Response : Type) :=
  Event Nat (Option SessionTokens) (SendAction Response)

/-!
# What a step can do
-/

inductive SendStep (handleRefreshTokens : Bool) (i : Nat) (refresh : RefreshToken.Shared) :
    SendPhase Response -> SendAction Response -> RefreshToken.Shared -> List Entry ->
      SendPhase Response -> Prop
  | sendInner {phase : SendPhase Response} {attempt : Attempt}
      (hattempt : phase.nextAttempt = some attempt) :
      SendStep handleRefreshTokens i refresh phase SendAction.sendInner refresh
        [Entry.sendInner i attempt (refresh.sessionTokens.map SessionTokens.accessToken)]
        (SendPhase.serverVersions attempt
          (refresh.sessionTokens.map SessionTokens.accessToken))
  | request (attempt : Attempt) (accessToken : Option String) :
      SendStep handleRefreshTokens i refresh (SendPhase.serverVersions attempt accessToken)
        (SendAction.serverVersions (.ok ())) refresh [Entry.request i attempt accessToken]
        (SendPhase.sending attempt accessToken)
  | repeated (attempt : Attempt) (accessToken : Option String) :
      SendStep handleRefreshTokens i refresh (SendPhase.sending attempt accessToken)
        SendAction.repeatRequest refresh [Entry.request i attempt accessToken]
        (SendPhase.sending attempt accessToken)
  | repeatedRefresh (softLogout : Bool) (tokens : SessionTokens) (refreshToken : String) :
      SendStep handleRefreshTokens i refresh
        (SendPhase.refreshing softLogout (RefreshToken.Phase.request tokens refreshToken))
        SendAction.repeatRequest refresh [Entry.refreshRequest i refreshToken]
        (SendPhase.refreshing softLogout (RefreshToken.Phase.request tokens refreshToken))
  | noServerVersions (attempt : Attempt) (accessToken : Option String) (error : SendError) :
      SendStep handleRefreshTokens i refresh (SendPhase.serverVersions attempt accessToken)
        (SendAction.serverVersions (.error error)) refresh []
        (SendPhase.returned (.error error))
  | refused (attempt : Attempt) (accessToken : Option String) (error : SendError) :
      SendStep handleRefreshTokens i refresh (SendPhase.sending attempt accessToken)
        (SendAction.response (.error error)) refresh (unknownTokenEntries i error)
        (SendPhase.returned (.error error))
  | answered (attempt : Attempt) (accessToken : Option String) (response : Response) :
      SendStep handleRefreshTokens i refresh (SendPhase.sending attempt accessToken)
        (SendAction.response (.ok response)) refresh [] (SendPhase.returned (.ok response))
  | refreshAfterVersions (accessToken : Option String) (softLogout : Bool)
      (hhandle : handleRefreshTokens = true) :
      SendStep handleRefreshTokens i refresh
        (SendPhase.serverVersions Attempt.first accessToken)
        (SendAction.serverVersions (.error (SendError.unknownToken softLogout))) refresh
        [Entry.refreshAccessToken i]
        (SendPhase.refreshing softLogout RefreshToken.Phase.notStarted)
  | refreshAfterAnswer (accessToken : Option String) (softLogout : Bool)
      (hhandle : handleRefreshTokens = true) :
      SendStep handleRefreshTokens i refresh
        (SendPhase.sending Attempt.first accessToken)
        (SendAction.response (.error (SendError.unknownToken softLogout))) refresh
        [Entry.unknownTokenError i softLogout, Entry.refreshAccessToken i]
        (SendPhase.refreshing softLogout RefreshToken.Phase.notStarted)
  | refreshing {softLogout : Bool} {phase phase' : RefreshToken.Phase}
      {a : RefreshToken.Action} {refresh' : RefreshToken.Shared}
      (hrefresh : RefreshToken.refreshStep i refresh phase a = some (refresh', phase')) :
      SendStep handleRefreshTokens i refresh (SendPhase.refreshing softLogout phase)
        (SendAction.refresh a) refresh' (refreshEntries i phase a)
        (SendPhase.refreshing softLogout phase')
  | refreshed {softLogout : Bool} {ending : RefreshToken.Ending}
      {answer : Option RefreshToken.Response} (hresult : ending.result = .ok answer) :
      SendStep handleRefreshTokens i refresh
        (SendPhase.refreshing softLogout (RefreshToken.Phase.returned ending))
        SendAction.matchRefresh refresh [] SendPhase.refreshed
  | notRefreshed {softLogout : Bool} {ending : RefreshToken.Ending}
      {error : RefreshToken.HttpError} {sendError : SendError}
      (hresult : ending.result = .error error) :
      SendStep handleRefreshTokens i refresh
        (SendPhase.refreshing softLogout (RefreshToken.Phase.returned ending))
        SendAction.matchRefresh refresh [] (SendPhase.returned (.error sendError))

variable {handleRefreshTokens : Bool} {i : Nat} {shared shared' : SendShared}
variable {phase phase' : SendPhase Response} {a : SendAction Response}

/-- An error ends the call, except that the first unknown token starts a refresh. -/
theorem afterError_cases (entries : List Entry) (attempt : Attempt) (error : SendError) :
    (afterError handleRefreshTokens i shared entries attempt error :
        SendShared × SendPhase Response) =
        (shared.emit entries, SendPhase.returned (.error error)) ∨
      exists softLogout, handleRefreshTokens = true ∧ attempt = Attempt.first ∧
        error = SendError.unknownToken softLogout ∧
        (afterError handleRefreshTokens i shared entries attempt error :
            SendShared × SendPhase Response) =
          (shared.emit (entries ++ [Entry.refreshAccessToken i]),
            SendPhase.refreshing softLogout RefreshToken.Phase.notStarted) := by
  cases handleRefreshTokens with
  | false => exact Or.inl rfl
  | true =>
      cases attempt with
      | again => exact Or.inl rfl
      | first =>
          cases error with
          | other error => exact Or.inl rfl
          | unknownToken softLogout => exact Or.inr ⟨softLogout, rfl, rfl, rfl, rfl⟩

theorem sendStep_of_eq_some
    (hstep : sendStep handleRefreshTokens i shared phase a = some (shared', phase')) :
    exists entries, shared'.log = shared.log ++ entries ∧
      SendStep handleRefreshTokens i shared.refresh phase a shared'.refresh entries
        phase' := by
  cases a with
  | sendInner =>
      unfold sendStep at hstep
      cases hattempt : phase.nextAttempt with
      | none => simp [hattempt] at hstep
      | some attempt =>
          simp only [hattempt, Option.some.injEq] at hstep
          cases hstep
          exact ⟨_, rfl, SendStep.sendInner hattempt⟩
  | serverVersions result =>
      cases phase <;> cases result <;> simp only [sendStep, reduceCtorEq] at hstep
      · next attempt accessToken error =>
          rcases @afterError_cases Response _ i shared [] attempt error with h | h
          · rw [h] at hstep
            cases hstep
            exact ⟨_, rfl, SendStep.noServerVersions attempt accessToken error⟩
          · rcases h with ⟨softLogout, hhandle, hattempt, herror, h⟩
            rw [h] at hstep
            subst hattempt herror
            cases hstep
            exact ⟨_, rfl, SendStep.refreshAfterVersions accessToken softLogout hhandle⟩
      · next attempt accessToken _ =>
          cases hstep
          exact ⟨_, rfl, SendStep.request attempt accessToken⟩
  | repeatRequest =>
      cases phase with
      | sending attempt accessToken =>
          cases hstep
          exact ⟨_, rfl, SendStep.repeated attempt accessToken⟩
      | refreshing softLogout phase =>
          cases phase <;> simp only [sendStep, reduceCtorEq] at hstep
          next tokens refreshToken =>
            cases hstep
            exact ⟨_, rfl, SendStep.repeatedRefresh softLogout tokens refreshToken⟩
      | _ => simp only [sendStep, reduceCtorEq] at hstep
  | response result =>
      cases phase <;> cases result <;> simp only [sendStep, reduceCtorEq] at hstep
      · next attempt accessToken error =>
          rcases @afterError_cases Response _ i shared (unknownTokenEntries i error) attempt
            error with h | h
          · rw [h] at hstep
            cases hstep
            exact ⟨_, rfl, SendStep.refused attempt accessToken error⟩
          · rcases h with ⟨softLogout, hhandle, hattempt, herror, h⟩
            rw [h] at hstep
            subst hattempt herror
            cases hstep
            exact ⟨_, rfl, SendStep.refreshAfterAnswer accessToken softLogout hhandle⟩
      · next attempt accessToken response =>
          cases hstep
          exact ⟨[], (List.append_nil _).symm,
            SendStep.answered attempt accessToken response⟩
  | refresh a =>
      cases phase <;> simp only [sendStep, reduceCtorEq] at hstep
      next softLogout phase =>
        rcases Option.map_eq_some_iff.mp hstep with ⟨⟨refresh, next⟩, hrefresh, heq⟩
        cases heq
        exact ⟨_, rfl, SendStep.refreshing hrefresh⟩
  | matchRefresh =>
      cases phase with
      | refreshing softLogout phase =>
          cases phase <;> simp only [sendStep, reduceCtorEq] at hstep
          next ending =>
            cases hresult : ending.result with
            | ok answer =>
                rw [hresult] at hstep
                cases hstep
                exact ⟨[], (List.append_nil _).symm, SendStep.refreshed hresult⟩
            | error error =>
                rw [hresult] at hstep
                unfold matchRefresh at hstep
                split at hstep
                · cases hstep
                  exact ⟨[], (List.append_nil _).symm, SendStep.notRefreshed hresult⟩
                · cases hstep
                  exact ⟨[], (List.append_nil _).symm, SendStep.notRefreshed hresult⟩
                · next heq => cases heq
      | _ => simp only [sendStep, reduceCtorEq] at hstep

end Calls

end Send
end MatrixGoose
