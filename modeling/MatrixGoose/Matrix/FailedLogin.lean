import MatrixGoose.Matrix.RefreshToken
import MatrixGoose.Matrix.ServerVersions

/-!
# Failed logins

A login moves the client to the homeserver of the response before the base
client stores the session, and restoring a session sets its tokens before the
base client stores the rest.  If the later step fails, the earlier one stays.
The tokens live in the base client, which is a library.
-/

namespace MatrixGoose
namespace FailedLogin

open RefreshToken (SessionTokens RefreshTokenError)

structure LoginResponse where
  userId : String
  deviceId : String
  accessToken : String
  refreshToken : Option String
  wellKnown : Option String

structure SessionMeta where
  userId : String
  deviceId : String

structure Session where
  sessionMeta : SessionMeta
  tokens : SessionTokens

inductive HttpError
  /-- The server answered `M_UNKNOWN_TOKEN`. -/
  | unknownToken
  | refreshToken (error : RefreshTokenError)
  | other (message : String)

inductive Error
  | http (error : HttpError)
  | base (message : String)

structure BaseClient (Base : Type) where
  sessionTokens : Base -> Option SessionTokens
  setSessionTokens : Base -> SessionTokens -> Base
  setSessionMeta : Base -> SessionMeta -> Except String Unit × Base
  receiveLoginResponse : Base -> LoginResponse -> Except String Unit × Base
  sessionTokens_set : forall base tokens,
    sessionTokens (setSessionTokens base tokens) = some tokens
  sessionTokens_setMeta : forall base sessionMeta,
    sessionTokens (setSessionMeta base sessionMeta).2 = sessionTokens base

structure ClientState (Base : Type) where
  homeserver : String
  base : Base

structure ClientConfig where
  respectLoginWellKnown : Bool
  handleRefreshTokens : Bool

/-- What the server answers to the requests of one login, with the refresh in
between them if there is one. -/
structure LoginAnswers where
  login : Except HttpError LoginResponse
  refresh : Except HttpError RefreshToken.Response
  loginAgain : Except HttpError LoginResponse

section Client

variable {Base : Type} (B : BaseClient Base)
variable (parseUrl : String -> Option String) (config : ClientConfig)

/-- `refresh_access_token` while no other call of it is running. -/
def refreshAccessToken (answer : Except HttpError RefreshToken.Response)
    (state : ClientState Base) : Except HttpError Unit × ClientState Base :=
  match B.sessionTokens state.base with
  | none =>
      (Except.error (HttpError.refreshToken RefreshTokenError.refreshTokenRequired), state)
  | some tokens =>
      match tokens.refreshToken with
      | none =>
          (Except.error (HttpError.refreshToken RefreshTokenError.refreshTokenRequired),
            state)
      | some _ =>
          match answer with
          | Except.error e => (Except.error e, state)
          | Except.ok response =>
              (Except.ok (), { state with
                base := B.setSessionTokens state.base
                  (tokens.updateWithRefreshResponse response) })

/-- `Client::send` for a login request. -/
def send (answers : LoginAnswers) (state : ClientState Base) :
    Except HttpError LoginResponse × ClientState Base :=
  match answers.login with
  | Except.error HttpError.unknownToken =>
      if config.handleRefreshTokens then
        match refreshAccessToken B answers.refresh state with
        | (Except.error (HttpError.refreshToken RefreshTokenError.refreshTokenRequired),
            state) => (answers.login, state)
        | (Except.error e, state) => (Except.error e, state)
        | (Except.ok _, state) => (answers.loginAgain, state)
      else (answers.login, state)
  | res => (res, state)

def newHomeserver (response : LoginResponse) : Option String :=
  ServerVersions.wellKnownUrl parseUrl config.respectLoginWellKnown response.wellKnown

def receiveLoginResponse (response : LoginResponse) (state : ClientState Base) :
    Except String Unit × ClientState Base :=
  let state :=
    match newHomeserver parseUrl config response with
    | some homeserver => { state with homeserver }
    | none => state
  let received := B.receiveLoginResponse state.base response
  (received.1, { state with base := received.2 })

def loginSend (answers : LoginAnswers) (state : ClientState Base) :
    Except Error LoginResponse × ClientState Base :=
  match send B config answers state with
  | (Except.error e, state) => (Except.error (Error.http e), state)
  | (Except.ok response, state) =>
      match receiveLoginResponse B parseUrl config response state with
      | (Except.error message, state) => (Except.error (Error.base message), state)
      | (Except.ok _, state) => (Except.ok response, state)

def restoreSession (session : Session) (state : ClientState Base) :
    Except Error Unit × ClientState Base :=
  let base := B.setSessionTokens state.base session.tokens
  let stored := B.setSessionMeta base session.sessionMeta
  (stored.1.mapError Error.base, { state with base := stored.2 })

/-- The loop of `on_start`: the attempts with the answers they get and the states
they start from.  The answers are numbered by the retries that are left. -/
def loginAttempts (answers : Nat -> LoginAnswers) :
    Nat -> ClientState Base -> List (LoginAnswers × ClientState Base)
  | 0, _ => []
  | retries + 1, state =>
      (answers retries, state) ::
        match loginSend B parseUrl config (answers retries) state with
        | (Except.ok _, _) => []
        | (Except.error _, state) => loginAttempts answers retries state

/-!
# Keeping the client
-/

def SameClient (before after : ClientState Base) : Prop :=
  after.homeserver = before.homeserver ∧
    B.sessionTokens after.base = B.sessionTokens before.base

def refreshedTokens (answers : LoginAnswers) (state : ClientState Base) :
    Option SessionTokens :=
  match answers.login, config.handleRefreshTokens, B.sessionTokens state.base with
  | Except.error HttpError.unknownToken, true, some tokens =>
      match tokens.refreshToken, answers.refresh with
      | some _, Except.ok response => some (tokens.updateWithRefreshResponse response)
      | _, _ => none
  | _, _, _ => none

def baseAfterSend (answers : LoginAnswers) (state : ClientState Base) : Base :=
  match refreshedTokens B config answers state with
  | some tokens => B.setSessionTokens state.base tokens
  | none => state.base

/-- A request that fails has not refreshed the tokens to others, and a response
that the base client fails to store names no other homeserver and leaves the
tokens alone. -/
structure KeepsClient (answers : LoginAnswers) (state : ClientState Base) : Prop where
  request : forall e tokens, (send B config answers state).1 = Except.error e ->
    refreshedTokens B config answers state = some tokens ->
    B.sessionTokens state.base = some tokens
  store : forall response message,
    (send B config answers state).1 = Except.ok response ->
    (B.receiveLoginResponse (baseAfterSend B config answers state) response).1 =
      Except.error message ->
    (forall url, newHomeserver parseUrl config response = some url ->
      url = state.homeserver) ∧
      B.sessionTokens
        (B.receiveLoginResponse (baseAfterSend B config answers state) response).2 =
        B.sessionTokens state.base

variable {B parseUrl config}

theorem sameClient_refl (state : ClientState Base) : SameClient B state state :=
  ⟨rfl, rfl⟩

theorem SameClient.trans {first second third : ClientState Base}
    (h : SameClient B first second) (h' : SameClient B second third) :
    SameClient B first third :=
  ⟨h'.1.trans h.1, h'.2.trans h.2⟩

theorem sessionTokens_baseAfterSend_of_some {answers : LoginAnswers}
    {state : ClientState Base} {tokens : SessionTokens}
    (h : refreshedTokens B config answers state = some tokens) :
    B.sessionTokens (baseAfterSend B config answers state) = some tokens := by
  rw [baseAfterSend, h]
  exact B.sessionTokens_set state.base tokens

theorem baseAfterSend_of_none {answers : LoginAnswers} {state : ClientState Base}
    (h : refreshedTokens B config answers state = none) :
    baseAfterSend B config answers state = state.base := by
  rw [baseAfterSend, h]

/-!
# What each part leaves
-/

theorem send_state (answers : LoginAnswers) (state : ClientState Base) :
    (send B config answers state).2 =
      { state with base := baseAfterSend B config answers state } := by
  rcases state with ⟨homeserver, base⟩
  unfold send baseAfterSend refreshedTokens refreshAccessToken
  rcases answers with ⟨login, refresh, loginAgain⟩
  cases login with
  | ok response => rfl
  | error e =>
      cases e with
      | refreshToken e => rfl
      | other message => rfl
      | unknownToken =>
          cases config.handleRefreshTokens with
          | false => rfl
          | true =>
              dsimp only
              cases B.sessionTokens base with
              | none => rfl
              | some tokens =>
                  dsimp only
                  cases tokens.refreshToken with
                  | none => rfl
                  | some refreshToken =>
                      cases refresh with
                      | ok response => rfl
                      | error e =>
                          rcases e with _ | ⟨_ | _ | _⟩ | _ <;> rfl

theorem loginSend_of_request_error {answers : LoginAnswers}
    {state : ClientState Base} {e : HttpError}
    (h : (send B config answers state).1 = Except.error e) :
    loginSend B parseUrl config answers state =
      (Except.error (Error.http e),
        { state with base := baseAfterSend B config answers state }) := by
  have hsend : send B config answers state = (Except.error e,
      { state with base := baseAfterSend B config answers state }) := by
    rw [← h, ← send_state]
  rw [loginSend, hsend]

def homeserverAfter (parseUrl : String -> Option String) (config : ClientConfig)
    (response : LoginResponse) (state : ClientState Base) : String :=
  (newHomeserver parseUrl config response).getD state.homeserver

theorem send_of_response {answers : LoginAnswers} {state : ClientState Base}
    {response : LoginResponse}
    (h : (send B config answers state).1 = Except.ok response) :
    send B config answers state = (Except.ok response,
      { state with base := baseAfterSend B config answers state }) := by
  rw [← h, ← send_state]

theorem receiveLoginResponse_eq (response : LoginResponse)
    (state : ClientState Base) :
    receiveLoginResponse B parseUrl config response state =
      ((B.receiveLoginResponse state.base response).1,
        { homeserver := homeserverAfter parseUrl config response state,
          base := (B.receiveLoginResponse state.base response).2 }) := by
  unfold receiveLoginResponse homeserverAfter
  cases newHomeserver parseUrl config response with
  | none => rfl
  | some homeserver => rfl

theorem loginSend_of_store_error {answers : LoginAnswers} {state : ClientState Base}
    {response : LoginResponse} {message : String}
    (h : (send B config answers state).1 = Except.ok response)
    (hstore : (B.receiveLoginResponse
      (baseAfterSend B config answers state) response).1 = Except.error message) :
    loginSend B parseUrl config answers state =
      (Except.error (Error.base message),
        { homeserver := homeserverAfter parseUrl config response state,
          base := (B.receiveLoginResponse
            (baseAfterSend B config answers state) response).2 }) := by
  rw [loginSend, send_of_response h]
  dsimp only
  rw [receiveLoginResponse_eq]
  dsimp only
  rw [hstore]
  rfl

theorem loginSend_of_stored {answers : LoginAnswers} {state : ClientState Base}
    {response : LoginResponse}
    (h : (send B config answers state).1 = Except.ok response)
    (hstore : (B.receiveLoginResponse
      (baseAfterSend B config answers state) response).1 = Except.ok ()) :
    (loginSend B parseUrl config answers state).1 = Except.ok response := by
  rw [loginSend, send_of_response h]
  dsimp only
  rw [receiveLoginResponse_eq]
  dsimp only
  rw [hstore]

theorem homeserverAfter_eq_iff {response : LoginResponse} {state : ClientState Base} :
    homeserverAfter parseUrl config response state = state.homeserver <->
      forall url, newHomeserver parseUrl config response = some url ->
        url = state.homeserver := by
  unfold homeserverAfter
  cases newHomeserver parseUrl config response with
  | none => simp
  | some homeserver => simp

/-!
# Failing calls
-/

/-- A failing login keeps the client exactly if neither the refresh in it nor
the response it could not store had changed it. -/
theorem loginSend_keeps_iff (answers : LoginAnswers) (state : ClientState Base) :
    (forall e, (loginSend B parseUrl config answers state).1 = Except.error e ->
        SameClient B state (loginSend B parseUrl config answers state).2) <->
      KeepsClient B parseUrl config answers state := by
  constructor
  · intro h
    constructor
    · intro e tokens hsend hrefresh
      have hlogin := @loginSend_of_request_error _ B parseUrl config _ _ _ hsend
      have hsame := h (Error.http e) (by rw [hlogin])
      rw [hlogin] at hsame
      exact hsame.2.symm.trans (sessionTokens_baseAfterSend_of_some hrefresh)
    · intro response message hsend hstore
      have hlogin := @loginSend_of_store_error _ B parseUrl config _ _ _ _ hsend hstore
      have hsame := h (Error.base message) (by rw [hlogin])
      rw [hlogin] at hsame
      exact ⟨homeserverAfter_eq_iff.mp hsame.1, hsame.2⟩
  · intro h e herror
    cases hsend : (send B config answers state).1 with
    | error httpError =>
        rw [loginSend_of_request_error hsend]
        constructor
        · rfl
        · cases hrefresh : refreshedTokens B config answers state with
          | none => rw [baseAfterSend_of_none hrefresh]
          | some tokens =>
              rw [sessionTokens_baseAfterSend_of_some hrefresh,
                h.request httpError tokens hsend hrefresh]
    | ok response =>
        cases hstore : (B.receiveLoginResponse
            (baseAfterSend B config answers state) response).1 with
        | ok stored =>
            rw [loginSend_of_stored hsend hstore] at herror
            cases herror
        | error message =>
            rcases h.store response message hsend hstore with ⟨hhomeserver, htokens⟩
            rw [loginSend_of_store_error hsend hstore]
            exact ⟨homeserverAfter_eq_iff.mpr hhomeserver, htokens⟩

theorem restoreSession_keeps_iff (session : Session) (state : ClientState Base) :
    (forall e, (restoreSession B session state).1 = Except.error e ->
        SameClient B state (restoreSession B session state).2) <->
      (B.setSessionMeta (B.setSessionTokens state.base session.tokens)
          session.sessionMeta).1 = Except.ok () ∨
        B.sessionTokens state.base = some session.tokens := by
  have htokens : B.sessionTokens (restoreSession B session state).2.base =
      some session.tokens := by
    rw [restoreSession, B.sessionTokens_setMeta, B.sessionTokens_set]
  cases hstore : (B.setSessionMeta (B.setSessionTokens state.base session.tokens)
      session.sessionMeta).1 with
  | ok stored =>
      constructor
      · intro _
        exact Or.inl rfl
      · intro _ e herror
        rw [restoreSession, hstore] at herror
        cases herror
  | error message =>
      have herror : (restoreSession B session state).1 =
          Except.error (Error.base message) := by
        rw [restoreSession, hstore]
        rfl
      constructor
      · intro h
        have hsame := h (Error.base message) herror
        exact Or.inr (hsame.2.symm.trans htokens)
      · intro h e _
        rcases h with hok | hsame
        · cases hok
        · exact ⟨rfl, htokens.trans hsame.symm⟩

theorem sameClient_loginAttempts {answers : Nat -> LoginAnswers} {retries : Nat}
    {state : ClientState Base}
    (h : forall attempt,
      attempt ∈ loginAttempts B parseUrl config answers retries state ->
        KeepsClient B parseUrl config attempt.1 attempt.2) :
    forall attempt,
      attempt ∈ loginAttempts B parseUrl config answers retries state ->
        SameClient B state attempt.2 := by
  induction retries generalizing state with
  | zero =>
      intro attempt hattempt
      cases hattempt
  | succ retries ih =>
      intro attempt hattempt
      rw [loginAttempts] at h hattempt
      have hkeeps := (loginSend_keeps_iff _ _).mpr
        (h (answers retries, state) (List.mem_cons_self ..))
      rcases List.mem_cons.mp hattempt with hfirst | hlater
      · rw [hfirst]
        exact sameClient_refl state
      · rcases hlogin : loginSend B parseUrl config (answers retries) state with
          ⟨result, next⟩
        rw [hlogin] at h hlater hkeeps
        cases result with
        | ok response => cases hlater
        | error e =>
            have hsame : SameClient B state next := hkeeps e rfl
            apply hsame.trans
            exact ih (fun other hother => h other (List.mem_cons_of_mem _ hother))
              attempt hlater

/-- When failing logins and failing restores keep the client, and what the retries
of `on_start` start from. -/
theorem failed_logins_keep_client (state : ClientState Base) :
    (forall answers : LoginAnswers,
      (forall e, (loginSend B parseUrl config answers state).1 = Except.error e ->
          SameClient B state (loginSend B parseUrl config answers state).2) <->
        KeepsClient B parseUrl config answers state) ∧
    (forall session : Session,
      (forall e, (restoreSession B session state).1 = Except.error e ->
          SameClient B state (restoreSession B session state).2) <->
        (B.setSessionMeta (B.setSessionTokens state.base session.tokens)
            session.sessionMeta).1 = Except.ok () ∨
          B.sessionTokens state.base = some session.tokens) ∧
    (forall (answers : Nat -> LoginAnswers) (retries : Nat),
      (forall attempt,
        attempt ∈ loginAttempts B parseUrl config answers retries state ->
          KeepsClient B parseUrl config attempt.1 attempt.2) ->
      forall attempt,
        attempt ∈ loginAttempts B parseUrl config answers retries state ->
          SameClient B state attempt.2) := by
  constructor
  · intro answers
    exact loginSend_keeps_iff answers state
  · constructor
    · intro session
      exact restoreSession_keeps_iff session state
    · intro answers retries h
      exact sameClient_loginAttempts h

end Client

/-- A base client whose storage always fails; it keeps the tokens it is given. -/
def failingBase : BaseClient (Option SessionTokens) where
  sessionTokens base := base
  setSessionTokens _ tokens := some tokens
  setSessionMeta base _ := (Except.error "storage", base)
  receiveLoginResponse base _ := (Except.error "storage", base)
  sessionTokens_set := by
    intro base tokens
    rfl
  sessionTokens_setMeta := by
    intro base sessionMeta
    rfl

def defaultConfig : ClientConfig where
  respectLoginWellKnown := true
  handleRefreshTokens := false

def movedLogin : LoginAnswers where
  login := Except.ok
    { userId := "@user.000001:h", deviceId := "D", accessToken := "t",
      refreshToken := none, wellKnown := some "https://other" }
  refresh := Except.error HttpError.unknownToken
  loginAgain := Except.error HttpError.unknownToken

def offlineLogin : LoginAnswers where
  login := Except.error (HttpError.other "timeout")
  refresh := Except.error (HttpError.other "timeout")
  loginAgain := Except.error (HttpError.other "timeout")

theorem failed_logins_keep_client_offline :
    let state : ClientState (Option SessionTokens) :=
      { homeserver := "https://h", base := none }
    forall attempt,
      attempt ∈ loginAttempts failingBase some defaultConfig
          (fun _ => offlineLogin) 3 state ->
        SameClient failingBase state attempt.2 := by
  intro state
  apply (failed_logins_keep_client state).2.2
  have hattempts : loginAttempts failingBase some defaultConfig
      (fun _ => offlineLogin) 3 state =
        [(offlineLogin, state), (offlineLogin, state), (offlineLogin, state)] := rfl
  have hkeeps : KeepsClient failingBase some defaultConfig offlineLogin state := by
    constructor
    · intro e tokens _ hrefresh
      cases hrefresh
    · intro response message hsend
      cases hsend
  intro attempt hattempt
  rw [hattempts] at hattempt
  simp only [List.mem_cons, List.not_mem_nil, or_false, or_self] at hattempt
  rw [hattempt]
  exact hkeeps

/-- Storing the session fails: the login has moved the client to the homeserver of
the well-known data, where the next attempt logs in, and the restore has left its
tokens. -/
theorem failed_login_moves_client :
    let state : ClientState (Option SessionTokens) :=
      { homeserver := "https://h", base := none }
    let session : Session :=
      { sessionMeta := { userId := "@user.000001:h", deviceId := "D" },
        tokens := { accessToken := "t", refreshToken := none } }
    (loginSend failingBase some defaultConfig movedLogin state).1 =
        Except.error (Error.base "storage") ∧
      ¬ SameClient failingBase state
        (loginSend failingBase some defaultConfig movedLogin state).2 ∧
      (restoreSession failingBase session state).1 =
        Except.error (Error.base "storage") ∧
      ¬ SameClient failingBase state (restoreSession failingBase session state).2 ∧
      ((loginAttempts failingBase some defaultConfig (fun _ => movedLogin) 3
        state).map fun attempt => attempt.2.homeserver) =
        ["https://h", "https://other", "https://other"] := by
  constructor
  · rfl
  · constructor
    · intro h
      have hmoved : "https://other" = "https://h" := h.1
      simp at hmoved
    · constructor
      · rfl
      · constructor
        · intro h
          cases h.2
        · rfl

end FailedLogin
end MatrixGoose
