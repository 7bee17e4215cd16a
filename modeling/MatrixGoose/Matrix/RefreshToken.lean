import MatrixGoose.Foundation.Components

/-!
# Refreshing access tokens

Any number of concurrent `refresh_access_token` calls of one client.  The first one
takes a lock and refreshes the tokens; a call that finds the lock taken waits for it and
reads the outcome from what the lock contains.
-/

namespace MatrixGoose

open Foundation
open Foundation.Components

namespace RefreshToken

structure SessionTokens where
  accessToken : String
  refreshToken : Option String
  deriving DecidableEq

structure Response where
  accessToken : String
  refreshToken : Option String
  deriving DecidableEq

def SessionTokens.updateWithRefreshResponse (tokens : SessionTokens)
    (response : Response) : SessionTokens where
  accessToken := response.accessToken
  refreshToken := response.refreshToken.or tokens.refreshToken

inductive RefreshTokenError
  | refreshTokenRequired
  | clientApi (message : String)
  | unableToRefreshToken
  deriving DecidableEq

inductive HttpError
  | refreshToken (error : RefreshTokenError)
  /-- An error of the client API that the endpoint has returned. -/
  | clientApi (message : String)
  | other (message : String)
  deriving DecidableEq

/-!
# State
-/

inductive Ending
  | noSession
  | noRefreshToken
  | noServerVersions (error : HttpError)
  | serverError (error : HttpError)
  | refreshed (response : Response)
  /-- The call has read the content of the lock. -/
  | waited (content : Except RefreshTokenError Unit)

def Ending.result : Ending -> Except HttpError (Option Response)
  | Ending.noSession => .error (HttpError.refreshToken RefreshTokenError.refreshTokenRequired)
  | Ending.noRefreshToken =>
      .error (HttpError.refreshToken RefreshTokenError.refreshTokenRequired)
  | Ending.noServerVersions error => .error error
  | Ending.serverError error => .error error
  | Ending.refreshed response => .ok (some response)
  | Ending.waited (.ok _) => .ok none
  | Ending.waited (.error _) =>
      .error (HttpError.refreshToken RefreshTokenError.unableToRefreshToken)

inductive Phase
  | notStarted
  /-- The lock was free. -/
  | holding
  | serverVersions (tokens : SessionTokens) (refreshToken : String)
  | request (tokens : SessionTokens) (refreshToken : String)
  /-- The lock was taken. -/
  | waiting
  | matching
  | returned (ending : Ending)

structure Shared where
  sessionTokens : Option SessionTokens
  /-- Whether `refresh_token_lock` is taken, and what it contains. -/
  locked : Bool
  content : Except RefreshTokenError Unit
  /-- The calls that have replaced the session tokens. -/
  replacedBy : List Nat
  /-- The calls that found the lock free and have ended. -/
  ended : List Nat

inductive Action
  | tryLock
  | readSession
  | serverVersions (result : Except HttpError Unit)
  | response (result : Except HttpError Response)
  | acquire
  | readContent

/-!
# Steps
-/

/-- The guard of a call that found the lock free is dropped. -/
def endCall (i : Nat) (shared : Shared) (ending : Ending) : Shared × Phase :=
  ({ shared with locked := false, ended := shared.ended ++ [i] }, Phase.returned ending)

def readSession (i : Nat) (shared : Shared) : Shared × Phase :=
  match shared.sessionTokens with
  | none =>
      endCall i
        { shared with content := .error RefreshTokenError.refreshTokenRequired }
        Ending.noSession
  | some tokens =>
      match tokens.refreshToken with
      | none => endCall i shared Ending.noRefreshToken
      | some refreshToken => (shared, Phase.serverVersions tokens refreshToken)

def contentOfError : HttpError -> RefreshTokenError
  | HttpError.clientApi message => RefreshTokenError.clientApi message
  | _ => RefreshTokenError.unableToRefreshToken

def receive (i : Nat) (shared : Shared) (tokens : SessionTokens) :
    Except HttpError Response -> Shared × Phase
  | .ok response =>
      endCall i
        { shared with
          content := .ok ()
          sessionTokens := some (tokens.updateWithRefreshResponse response)
          replacedBy := shared.replacedBy ++ [i] }
        (Ending.refreshed response)
  | .error error =>
      endCall i { shared with content := .error (contentOfError error) }
        (Ending.serverError error)

def refreshStep (i : Nat) (shared : Shared) (phase : Phase) (a : Action) :
    Option (Shared × Phase) :=
  match a, phase with
  | Action.tryLock, Phase.notStarted =>
      if shared.locked then some (shared, Phase.waiting)
      else some ({ shared with locked := true }, Phase.holding)
  | Action.readSession, Phase.holding => some (readSession i shared)
  | Action.serverVersions result, Phase.serverVersions tokens refreshToken =>
      match result with
      | .ok _ => some (shared, Phase.request tokens refreshToken)
      | .error error => some (endCall i shared (Ending.noServerVersions error))
  | Action.response result, Phase.request tokens _ => some (receive i shared tokens result)
  | Action.acquire, Phase.waiting =>
      if shared.locked then none else some ({ shared with locked := true }, Phase.matching)
  | Action.readContent, Phase.matching =>
      some ({ shared with locked := false }, Phase.returned (Ending.waited shared.content))
  | _, _ => none

/-- Concurrent calls; the environment logs in or out. -/
def refreshCalls : Components Nat Shared Phase (Option SessionTokens) Action where
  initShared :=
    { sessionTokens := none
      locked := false
      content := .ok ()
      replacedBy := []
      ended := [] }
  initMemory := fun _ => Phase.notStarted
  environment := fun shared sessionTokens => some { shared with sessionTokens }
  step := refreshStep

abbrev RefreshWorld := World Nat Shared Phase

abbrev RefreshEvent := Event Nat (Option SessionTokens) Action

/-- The call that a waiting call has waited for: the last one to end. -/
def RefreshWorld.lastEnded (w : RefreshWorld) : Option Nat :=
  w.shared.ended.getLast?

def Failed (w : RefreshWorld) (j : Nat) : Prop :=
  exists ending error, w.memory j = Phase.returned ending ∧ ending.result = .error error

/-- A waiting call returns `Ok(None)` only if the call it has waited for has replaced the
session tokens, and a `RefreshTokenError` if that call has failed. -/
def ReportsTruth (w : RefreshWorld) (e : RefreshEvent) : Prop :=
  forall i, e = Event.component i Action.readContent ->
    exists j, w.lastEnded = some j ∧ forall w', refreshCalls.worldStep w e = some w' ->
      exists ending, w'.memory i = Phase.returned ending ∧
        (ending.result = .ok none -> j ∈ w.shared.replacedBy) ∧
        (Failed w j -> exists error,
          ending.result = .error (HttpError.refreshToken error))

/-- A call that has returned early, without writing its outcome to the lock. -/
def ReturnedEarly (w : RefreshWorld) (j : Nat) : Prop :=
  w.memory j = Phase.returned Ending.noRefreshToken ∨
    exists error, w.memory j = Phase.returned (Ending.noServerVersions error)

/-- If a waiting call reads a lock that contains no error, then the call it has waited
for has not returned early. -/
def NoEarlyReturn (w : RefreshWorld) (e : RefreshEvent) : Prop :=
  forall i j, e = Event.component i Action.readContent -> w.lastEnded = some j ->
    w.shared.content = .ok () -> ¬ ReturnedEarly w j

/-!
# What a step can do
-/

inductive RefreshStep (i : Nat) (shared : Shared) :
    Phase -> Action -> Shared -> Phase -> Prop
  | taken (hlocked : shared.locked = true) :
      RefreshStep i shared Phase.notStarted Action.tryLock shared Phase.waiting
  | free :
      RefreshStep i shared Phase.notStarted Action.tryLock { shared with locked := true }
        Phase.holding
  | noSession :
      RefreshStep i shared Phase.holding Action.readSession
        (endCall i
          { shared with content := .error RefreshTokenError.refreshTokenRequired }
          Ending.noSession).1
        (Phase.returned Ending.noSession)
  | noRefreshToken :
      RefreshStep i shared Phase.holding Action.readSession
        (endCall i shared Ending.noRefreshToken).1 (Phase.returned Ending.noRefreshToken)
  | readTokens (tokens : SessionTokens) (refreshToken : String) :
      RefreshStep i shared Phase.holding Action.readSession shared
        (Phase.serverVersions tokens refreshToken)
  | serverVersions (tokens : SessionTokens) (refreshToken : String) :
      RefreshStep i shared (Phase.serverVersions tokens refreshToken)
        (Action.serverVersions (.ok ())) shared (Phase.request tokens refreshToken)
  | noServerVersions (tokens : SessionTokens) (refreshToken : String) (error : HttpError) :
      RefreshStep i shared (Phase.serverVersions tokens refreshToken)
        (Action.serverVersions (.error error))
        (endCall i shared (Ending.noServerVersions error)).1
        (Phase.returned (Ending.noServerVersions error))
  | refreshed (tokens : SessionTokens) (refreshToken : String) (response : Response) :
      RefreshStep i shared (Phase.request tokens refreshToken)
        (Action.response (.ok response)) (receive i shared tokens (.ok response)).1
        (Phase.returned (Ending.refreshed response))
  | serverError (tokens : SessionTokens) (refreshToken : String) (error : HttpError) :
      RefreshStep i shared (Phase.request tokens refreshToken)
        (Action.response (.error error)) (receive i shared tokens (.error error)).1
        (Phase.returned (Ending.serverError error))
  | acquire (hlocked : shared.locked = false) :
      RefreshStep i shared Phase.waiting Action.acquire { shared with locked := true }
        Phase.matching
  | readContent :
      RefreshStep i shared Phase.matching Action.readContent
        { shared with locked := false } (Phase.returned (Ending.waited shared.content))

theorem refreshStep_of_eq_some {i : Nat} {shared shared' : Shared} {phase phase' : Phase}
    {a : Action} (hstep : refreshStep i shared phase a = some (shared', phase')) :
    RefreshStep i shared phase a shared' phase' := by
  cases a with
  | tryLock =>
      cases phase <;> simp only [refreshStep, reduceCtorEq] at hstep
      split at hstep
      · next hlocked =>
          cases hstep
          exact RefreshStep.taken hlocked
      · cases hstep
        exact RefreshStep.free
  | readSession =>
      cases phase <;> simp only [refreshStep, reduceCtorEq] at hstep
      unfold readSession at hstep
      split at hstep
      · cases hstep
        exact RefreshStep.noSession
      · next tokens _ =>
          split at hstep
          · cases hstep
            exact RefreshStep.noRefreshToken
          · cases hstep
            exact RefreshStep.readTokens tokens _
  | serverVersions result =>
      cases phase <;> simp only [refreshStep, reduceCtorEq] at hstep
      cases result with
      | ok _ =>
          cases hstep
          exact RefreshStep.serverVersions _ _
      | error error =>
          cases hstep
          exact RefreshStep.noServerVersions _ _ error
  | response result =>
      cases phase <;> simp only [refreshStep, reduceCtorEq] at hstep
      cases result with
      | ok response =>
          cases hstep
          exact RefreshStep.refreshed _ _ response
      | error error =>
          cases hstep
          exact RefreshStep.serverError _ _ error
  | acquire =>
      cases phase <;> simp only [refreshStep, reduceCtorEq] at hstep
      split at hstep
      · cases hstep
      · next hfree =>
          cases hstep
          exact RefreshStep.acquire (Bool.eq_false_iff.mpr hfree)
  | readContent =>
      cases phase <;> simp only [refreshStep, reduceCtorEq] at hstep
      cases hstep
      exact RefreshStep.readContent

/-!
# The invariant
-/

def WroteContent (content : Except RefreshTokenError Unit) : Ending -> Prop
  | Ending.noSession => exists error, content = .error error
  | Ending.noRefreshToken => True
  | Ending.noServerVersions _ => True
  | Ending.serverError _ => exists error, content = .error error
  | Ending.refreshed _ => content = .ok ()
  | Ending.waited _ => False

def CallKept (i : Nat) (shared : Shared) : Phase -> Prop
  | Phase.returned ending =>
      i ∈ shared.replacedBy <-> exists response, ending = Ending.refreshed response
  | Phase.waiting => i ∉ shared.replacedBy ∧ (shared.locked = true ∨ shared.ended ≠ [])
  | Phase.matching => i ∉ shared.replacedBy ∧ shared.ended ≠ []
  | _ => i ∉ shared.replacedBy

structure RefreshKept (w : RefreshWorld) : Prop where
  calls : Everywhere CallKept w
  last : forall j, w.lastEnded = some j -> exists ending,
    w.memory j = Phase.returned ending ∧ WroteContent w.shared.content ending

structure Frame (i : Nat) (shared shared' : Shared) : Prop where
  replacedBy : forall j, j ≠ i -> (j ∈ shared'.replacedBy <-> j ∈ shared.replacedBy)
  ended : shared.ended ≠ [] -> shared'.ended ≠ []
  locked : shared.locked = true -> shared'.locked = true ∨ shared'.ended ≠ []

theorem Frame.endCall {i : Nat} {shared shared' : Shared} {ending : Ending}
    (hreplaced : forall j, j ≠ i -> (j ∈ shared'.replacedBy <-> j ∈ shared.replacedBy)) :
    Frame i shared (endCall i shared' ending).1 where
  replacedBy := hreplaced
  ended := fun _ => List.append_ne_nil_of_right_ne_nil _ (List.cons_ne_nil i [])
  locked := fun _ => Or.inr (List.append_ne_nil_of_right_ne_nil _ (List.cons_ne_nil i []))

theorem RefreshStep.frame {i : Nat} {shared shared' : Shared} {phase phase' : Phase}
    {a : Action} (hkept : CallKept i shared phase)
    (hstep : RefreshStep i shared phase a shared' phase') : Frame i shared shared' := by
  cases hstep with
  | noSession => exact Frame.endCall fun _ _ => Iff.rfl
  | noRefreshToken => exact Frame.endCall fun _ _ => Iff.rfl
  | noServerVersions tokens refreshToken error => exact Frame.endCall fun _ _ => Iff.rfl
  | serverError tokens refreshToken error => exact Frame.endCall fun _ _ => Iff.rfl
  | refreshed tokens refreshToken response =>
      apply Frame.endCall
      intro j hj
      simp [hj]
  | readContent => exact ⟨fun _ _ => Iff.rfl, id, fun _ => Or.inr hkept.2⟩
  | taken hlocked => exact ⟨fun _ _ => Iff.rfl, id, Or.inl⟩
  | readTokens tokens refreshToken => exact ⟨fun _ _ => Iff.rfl, id, Or.inl⟩
  | serverVersions tokens refreshToken => exact ⟨fun _ _ => Iff.rfl, id, Or.inl⟩
  | free => exact ⟨fun _ _ => Iff.rfl, id, fun _ => Or.inl rfl⟩
  | acquire hlocked => exact ⟨fun _ _ => Iff.rfl, id, fun _ => Or.inl rfl⟩

theorem CallKept.frame {i j : Nat} {shared shared' : Shared} {phase : Phase}
    (hkept : CallKept j shared phase) (hframe : Frame i shared shared') (hj : j ≠ i) :
    CallKept j shared' phase := by
  have hreplaced := hframe.replacedBy j hj
  cases phase with
  | returned ending =>
      show j ∈ shared'.replacedBy <-> _
      rw [hreplaced]
      exact hkept
  | waiting =>
      refine ⟨by rw [hreplaced]; exact hkept.1, ?_⟩
      rcases hkept.2 with hlocked | hended
      · exact hframe.locked hlocked
      · exact Or.inr (hframe.ended hended)
  | matching => exact ⟨by rw [hreplaced]; exact hkept.1, hframe.ended hkept.2⟩
  | _ =>
      show j ∉ shared'.replacedBy
      rw [hreplaced]
      exact hkept

theorem callKept_returned {i : Nat} {shared : Shared} {ending : Ending}
    (hnot : i ∉ shared.replacedBy)
    (hending : forall response, ending ≠ Ending.refreshed response) :
    CallKept i shared (Phase.returned ending) := by
  constructor
  · intro h
    exact absurd h hnot
  · intro h
    rcases h with ⟨response, h⟩
    exact absurd h (hending response)

theorem CallKept.step {i : Nat} {shared shared' : Shared} {phase phase' : Phase}
    {a : Action} (hkept : CallKept i shared phase)
    (hstep : RefreshStep i shared phase a shared' phase') : CallKept i shared' phase' := by
  cases hstep with
  | taken hlocked => exact ⟨hkept, Or.inl hlocked⟩
  | noSession => exact callKept_returned hkept nofun
  | noRefreshToken => exact callKept_returned hkept nofun
  | noServerVersions tokens refreshToken error => exact callKept_returned hkept nofun
  | serverError tokens refreshToken error => exact callKept_returned hkept nofun
  | refreshed tokens refreshToken response =>
      refine ⟨fun _ => ⟨response, rfl⟩, fun _ => ?_⟩
      exact List.mem_append_right _ (List.mem_singleton_self i)
  | acquire hlocked =>
      refine ⟨hkept.1, ?_⟩
      rcases hkept.2 with hlocked' | hended
      · rw [hlocked] at hlocked'
        cases hlocked'
      · exact hended
  | readContent => exact callKept_returned hkept.1 nofun
  | _ => exact hkept

theorem RefreshStep.ended_cases {i : Nat} {shared shared' : Shared} {phase phase' : Phase}
    {a : Action} (hstep : RefreshStep i shared phase a shared' phase') :
    (shared'.ended = shared.ended ∧ shared'.content = shared.content) ∨
      exists ending, shared'.ended = shared.ended ++ [i] ∧
        phase' = Phase.returned ending ∧ WroteContent shared'.content ending := by
  cases hstep with
  | noSession => exact Or.inr ⟨_, rfl, rfl, _, rfl⟩
  | noRefreshToken => exact Or.inr ⟨_, rfl, rfl, True.intro⟩
  | noServerVersions tokens refreshToken error => exact Or.inr ⟨_, rfl, rfl, True.intro⟩
  | serverError tokens refreshToken error => exact Or.inr ⟨_, rfl, rfl, _, rfl⟩
  | refreshed tokens refreshToken response => exact Or.inr ⟨_, rfl, rfl, rfl⟩
  | _ => exact Or.inl ⟨rfl, rfl⟩

theorem RefreshStep.ne_returned {i : Nat} {shared shared' : Shared} {phase phase' : Phase}
    {a : Action} (hstep : RefreshStep i shared phase a shared' phase') (ending : Ending) :
    phase ≠ Phase.returned ending := by
  cases hstep <;> nofun

theorem refreshKept_step {w w' : RefreshWorld} {e : RefreshEvent} (hw : RefreshKept w)
    (hstep : refreshCalls.worldStep w e = some w') : RefreshKept w' := by
  cases e with
  | environment sessionTokens =>
      rcases worldStep_environment_eq_some.mp hstep with ⟨shared, hshared, rfl⟩
      cases hshared
      exact ⟨hw.calls, hw.last⟩
  | component i a =>
      constructor
      · refine everywhere_component hw.calls hstep ?_ ?_
        · intro shared phase hlocal hkept
          exact hkept.step (refreshStep_of_eq_some hlocal)
        · intro shared phase j hlocal hj hkept
          exact hkept.frame ((refreshStep_of_eq_some hlocal).frame (hw.calls i)) hj
      · intro j hlast
        rcases worldStep_component_eq_some.mp hstep with ⟨shared, phase, hlocal, rfl⟩
        have hown := refreshStep_of_eq_some hlocal
        rcases hown.ended_cases with ⟨hended, hcontent⟩ | ⟨ending, hended, hphase, hwrote⟩
        · have hlastBefore : w.lastEnded = some j := by
            rw [← hlast]
            show _ = shared.ended.getLast?
            rw [hended]
            rfl
          rcases hw.last j hlastBefore with ⟨ending, hreturned, hwrote⟩
          have hj : j ≠ i := by
            intro hji
            subst hji
            exact hown.ne_returned ending hreturned
          refine ⟨ending, ?_, ?_⟩
          · show Function.update w.memory i phase j = _
            rw [Function.update_of_ne hj]
            exact hreturned
          · show WroteContent shared.content ending
            rw [hcontent]
            exact hwrote
        · have hj : j = i := by
            have hlastShared : shared.ended.getLast? = some j := hlast
            rw [hended, List.getLast?_concat] at hlastShared
            exact (Option.some.inj hlastShared).symm
          subst hj
          refine ⟨ending, ?_, hwrote⟩
          show Function.update w.memory j phase j = _
          rw [Function.update_self]
          exact hphase

theorem refreshKept_init : RefreshKept refreshCalls.system.init :=
  ⟨fun _ => List.not_mem_nil, nofun⟩

/-!
# What a waiting call reads
-/

theorem readContent_step {w w' : RefreshWorld} {i : Nat}
    (hstep : refreshCalls.worldStep w (Event.component i Action.readContent) = some w') :
    w.memory i = Phase.matching ∧
      w'.memory i = Phase.returned (Ending.waited w.shared.content) := by
  have hown := refreshStep_of_eq_some (step_of_worldStep hstep)
  generalize w'.shared = shared at hown
  generalize hphase : w.memory i = phase at hown
  generalize hphase' : w'.memory i = phase' at hown
  cases hown with
  | readContent => exact ⟨rfl, rfl⟩

theorem ReturnedEarly.not_refreshed {w : RefreshWorld} {j : Nat} (h : ReturnedEarly w j)
    {response : Response} (hreturned : w.memory j = Phase.returned (Ending.refreshed response)) :
    False := by
  rcases h with h | ⟨error, h⟩ <;> rw [hreturned] at h <;> cases h

/-- A call whose outcome the lock shows as a success has refreshed the tokens or has
returned early. -/
theorem RefreshKept.of_content_ok {w : RefreshWorld} (hw : RefreshKept w) {j : Nat}
    (hlast : w.lastEnded = some j) (hcontent : w.shared.content = .ok ()) :
    (exists response, w.memory j = Phase.returned (Ending.refreshed response)) ∨
      ReturnedEarly w j := by
  rcases hw.last j hlast with ⟨ending, hreturned, hwrote⟩
  rw [hcontent] at hwrote
  cases ending with
  | refreshed response => exact Or.inl ⟨response, hreturned⟩
  | noRefreshToken => exact Or.inr (Or.inl hreturned)
  | noServerVersions error => exact Or.inr (Or.inr ⟨error, hreturned⟩)
  | noSession =>
      rcases hwrote with ⟨_, herror⟩
      cases herror
  | serverError error =>
      rcases hwrote with ⟨_, herror⟩
      cases herror
  | waited content => exact hwrote.elim

theorem exists_lastEnded {w : RefreshWorld} (hended : w.shared.ended ≠ []) :
    exists j, w.lastEnded = some j := by
  unfold RefreshWorld.lastEnded
  exact ⟨_, List.getLast?_eq_some_getLast hended⟩

theorem noEarlyReturn_of_reportsTruth {w w' : RefreshWorld} {e : RefreshEvent}
    (hw : RefreshKept w) (hstep : refreshCalls.worldStep w e = some w')
    (hreports : ReportsTruth w e) : NoEarlyReturn w e := by
  intro i j he hlast hcontent hearly
  subst he
  rcases hreports i rfl with ⟨j', hlast', hread⟩
  rw [hlast] at hlast'
  cases hlast'
  rcases hread w' hstep with ⟨ending, hreturned, hnone, _⟩
  rw [(readContent_step hstep).2, hcontent] at hreturned
  cases hreturned
  have hreplaced := hnone rfl
  have hcall := hw.calls j
  rcases hw.last j hlast with ⟨ending, hending, _⟩
  rw [hending] at hcall
  rcases hcall.mp hreplaced with ⟨response, hrefreshed⟩
  rw [hrefreshed] at hending
  exact hearly.not_refreshed hending

theorem reportsTruth_of_noEarlyReturn {w w' : RefreshWorld} {e : RefreshEvent}
    (hw : RefreshKept w) (hstep : refreshCalls.worldStep w e = some w')
    (hearly : NoEarlyReturn w e) : ReportsTruth w e := by
  intro i he
  subst he
  have hmatching := hw.calls i
  rw [(readContent_step hstep).1] at hmatching
  rcases exists_lastEnded hmatching.2 with ⟨j, hlast⟩
  refine ⟨j, hlast, ?_⟩
  intro next hnext
  refine ⟨_, (readContent_step hnext).2, ?_⟩
  have hrefreshed : w.shared.content = .ok () ->
      exists response, w.memory j = Phase.returned (Ending.refreshed response) := by
    intro hcontent
    rcases hw.of_content_ok hlast hcontent with h | h
    · exact h
    · exact absurd h (hearly i j rfl hlast hcontent)
  cases hcontent : w.shared.content with
  | ok _ =>
      rcases hrefreshed hcontent with ⟨response, hreturned⟩
      constructor
      · intro _
        have hcall := hw.calls j
        rw [hreturned] at hcall
        exact hcall.mpr ⟨response, rfl⟩
      · intro hfailed
        rcases hfailed with ⟨ending, error, hending, hresult⟩
        rw [hreturned] at hending
        cases hending
        cases hresult
  | error error =>
      constructor
      · intro hnone
        cases hnone
      · intro _
        exact ⟨_, rfl⟩

/-- In a run every waiting call reports the truth about the call it has waited for
exactly if, whenever one reads a lock without an error, that call has not returned
early. -/
theorem reportsTruth_iff_noEarlyReturn {events : List RefreshEvent} {w : RefreshWorld}
    (hrun : refreshCalls.system.run events = some w) :
    refreshCalls.system.AllSteps ReportsTruth refreshCalls.system.init events <->
      refreshCalls.system.AllSteps NoEarlyReturn refreshCalls.system.init events :=
  TransitionSystem.allSteps_congr (P := RefreshKept)
    (fun _ _ _ hw hstep => refreshKept_step hw hstep)
    (fun _ _ _ hw hstep => ⟨noEarlyReturn_of_reportsTruth hw hstep,
      reportsTruth_of_noEarlyReturn hw hstep⟩)
    refreshKept_init hrun

def waitForRefresh : List RefreshEvent :=
  [Event.environment (some { accessToken := "a0", refreshToken := some "r0" }),
    Event.component 0 Action.tryLock,
    Event.component 1 Action.tryLock,
    Event.component 0 Action.readSession,
    Event.component 0 (Action.serverVersions (.ok ())),
    Event.component 0
      (Action.response (.ok { accessToken := "a1", refreshToken := none })),
    Event.component 1 Action.acquire,
    Event.component 1 Action.readContent]

theorem reportsTruth_iff_noEarlyReturn_refreshed :
    refreshCalls.system.AllSteps ReportsTruth refreshCalls.system.init waitForRefresh := by
  have hbefore : refreshCalls.system.AllSteps NoEarlyReturn refreshCalls.system.init
      (waitForRefresh.take 7) := by
    apply TransitionSystem.allSteps_of_forall_mem
    intro e hmem w i j he
    subst he
    simp [waitForRefresh] at hmem
  apply (reportsTruth_iff_noEarlyReturn rfl).mpr
  refine hbefore.append_singleton rfl ?_
  intro i j he hlast _ hearly
  cases hlast
  rcases hearly with h | ⟨_, h⟩ <;> cases h

def waitWithoutRefreshToken : List RefreshEvent :=
  [Event.environment (some { accessToken := "a0", refreshToken := none }),
    Event.component 0 Action.tryLock,
    Event.component 1 Action.tryLock,
    Event.component 0 Action.readSession,
    Event.component 1 Action.acquire,
    Event.component 1 Action.readContent]

theorem wait_without_refresh_token :
    exists w, refreshCalls.system.run waitWithoutRefreshToken = some w ∧
      w.memory 0 = Phase.returned Ending.noRefreshToken ∧
      w.memory 1 = Phase.returned (Ending.waited (.ok ())) ∧
      w.shared.replacedBy = [] ∧
      ¬ refreshCalls.system.AllSteps ReportsTruth refreshCalls.system.init
        waitWithoutRefreshToken := by
  refine ⟨_, rfl, rfl, rfl, rfl, ?_⟩
  intro hall
  have hlast := (((((hall.2 _ rfl).2 _ rfl).2 _ rfl).2 _ rfl).2 _ rfl).1
  rcases hlast 1 rfl with ⟨j, hj, hread⟩
  rcases hread _ rfl with ⟨ending, hending, hnone, _⟩
  cases hending
  cases hnone rfl

end RefreshToken
end MatrixGoose
