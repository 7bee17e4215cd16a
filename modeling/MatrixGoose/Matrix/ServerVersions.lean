import MatrixGoose.Foundation.Components

/-!
# The versions of the homeserver

A client asks its homeserver once for the versions that it supports, before the first
request that needs them, and keeps the answer in a write-once cell.  A login response can
move the client to another homeserver.
-/

namespace MatrixGoose

open Foundation
open Foundation.Components

namespace ServerVersions

/-- `source` is the homeserver that the versions were requested from. -/
structure CachedVersions where
  versions : List String
  source : String

structure ClientShared where
  homeserver : String
  serverVersions : Option CachedVersions
  /-- Some call initializes the cell; the others wait for it. -/
  initializing : Bool

/-- Where a call of `send` is.  A login goes on with the response. -/
inductive SendPhase
  | notStarted
  | serverVersions (login : Bool) (homeserver : String)
  | requestServerVersions (login : Bool) (homeserver source : String)
  | sending (login : Bool) (homeserver : String) (versions : List String)
  | receiveLoginResponse (wellKnown : Option String)
  | done

inductive SendAction
  | start (login : Bool)
  | useServerVersions
  | requestServerVersions
  | receiveServerVersions (answer : Option (List String))
  /-- The request has failed, or it was no login. -/
  | receiveResponse
  | receiveLogin (wellKnown : Option String)
  /-- The access token was refreshed, and the request is sent again. -/
  | sendAgain
  | receiveLoginResponse

/-- `request_server_versions` after the answer of the server. -/
def requestServerVersions (knownVersions : List String) : List String :=
  if knownVersions.isEmpty then ["V1_0"] else knownVersions

section Client

variable (parseUrl : String -> Option String) (respectLoginWellKnown : Bool)

def wellKnownUrl (wellKnown : Option String) : Option String :=
  if respectLoginWellKnown then wellKnown.bind parseUrl else none

def sendStep (shared : ClientShared) (phase : SendPhase) (a : SendAction) :
    Option (ClientShared × SendPhase) :=
  match a, phase with
  | SendAction.start login, SendPhase.notStarted =>
      some (shared, SendPhase.serverVersions login shared.homeserver)
  | SendAction.useServerVersions, SendPhase.serverVersions login homeserver =>
      match shared.serverVersions with
      | some cached => some (shared, SendPhase.sending login homeserver cached.versions)
      | none => none
  | SendAction.requestServerVersions, SendPhase.serverVersions login homeserver =>
      if shared.serverVersions.isNone && !shared.initializing then
        some ({ shared with initializing := true },
          SendPhase.requestServerVersions login homeserver shared.homeserver)
      else none
  | SendAction.receiveServerVersions answer,
      SendPhase.requestServerVersions login homeserver source =>
      match answer with
      | some knownVersions =>
          let versions := requestServerVersions knownVersions
          some
            ({ shared with
                serverVersions := some { versions, source }
                initializing := false },
              SendPhase.sending login homeserver versions)
      | none => some ({ shared with initializing := false }, SendPhase.done)
  | SendAction.receiveResponse, SendPhase.sending _ _ _ => some (shared, SendPhase.done)
  | SendAction.receiveLogin wellKnown, SendPhase.sending true _ _ =>
      some (shared, SendPhase.receiveLoginResponse wellKnown)
  | SendAction.sendAgain, SendPhase.sending login _ _ =>
      some (shared, SendPhase.serverVersions login shared.homeserver)
  | SendAction.receiveLoginResponse, SendPhase.receiveLoginResponse wellKnown =>
      match wellKnownUrl parseUrl respectLoginWellKnown wellKnown with
      | some homeserver => some ({ shared with homeserver }, SendPhase.done)
      | none => some (shared, SendPhase.done)
  | _, _ => none

/-- A client built with a homeserver URL and without server versions, and any number of
requests and logins at the same time. -/
def client (homeserver : String) :
    Components Nat ClientShared SendPhase Empty SendAction where
  initShared := { homeserver, serverVersions := none, initializing := false }
  initMemory := fun _ => SendPhase.notStarted
  environment := fun _ => Empty.elim
  step := fun _ => sendStep parseUrl respectLoginWellKnown

end Client

def VersionsOfHomeserver (shared : ClientShared) : Prop :=
  forall cached, shared.serverVersions = some cached -> cached.source = shared.homeserver

/-- A login response that names a homeserver names the one in use. -/
def NamesHomeserver (parseUrl : String -> Option String) (respectLoginWellKnown : Bool)
    (shared : ClientShared) (phase : SendPhase) (a : SendAction) : Prop :=
  a = SendAction.receiveLoginResponse -> forall wellKnown homeserver,
    phase = SendPhase.receiveLoginResponse wellKnown ->
    wellKnownUrl parseUrl respectLoginWellKnown wellKnown = some homeserver ->
    homeserver = shared.homeserver

def StepNamesHomeserver (parseUrl : String -> Option String)
    (respectLoginWellKnown : Bool) (w : World Nat ClientShared SendPhase) :
    Event Nat Empty SendAction -> Prop
  | Event.environment _ => True
  | Event.component i a =>
      NamesHomeserver parseUrl respectLoginWellKnown w.shared (w.memory i) a

/-!
# What a step can do
-/

namespace SendPhase

def HasVersions : SendPhase -> Prop
  | sending _ _ _ => True
  | receiveLoginResponse _ => True
  | _ => False

def asking : SendPhase -> Option String
  | requestServerVersions _ _ source => some source
  | _ => none

end SendPhase

section Steps

variable {parseUrl : String -> Option String} {respectLoginWellKnown : Bool}

inductive SendStep (parseUrl : String -> Option String) (respectLoginWellKnown : Bool)
    (shared : ClientShared) :
    SendPhase -> SendAction -> ClientShared -> SendPhase -> Prop
  /-- The call goes on to a phase for which no versions are needed. -/
  | waits {phase phase' : SendPhase} {a : SendAction} (hasking : phase.asking = none)
      (ha : a ≠ SendAction.receiveLoginResponse) (hversions : ¬ phase'.HasVersions)
      (hasking' : phase'.asking = none) :
      SendStep parseUrl respectLoginWellKnown shared phase a shared phase'
  /-- The call goes on with versions that are cached. -/
  | uses {phase phase' : SendPhase} {a : SendAction} (hasking : phase.asking = none)
      (ha : a ≠ SendAction.receiveLoginResponse)
      (hversions : phase.HasVersions ∨ shared.serverVersions ≠ none)
      (hasking' : phase'.asking = none) :
      SendStep parseUrl respectLoginWellKnown shared phase a shared phase'
  | asks (login : Bool) (homeserver : String) (hnone : shared.serverVersions = none)
      (hfree : shared.initializing = false) :
      SendStep parseUrl respectLoginWellKnown shared
        (SendPhase.serverVersions login homeserver) SendAction.requestServerVersions
        { shared with initializing := true }
        (SendPhase.requestServerVersions login homeserver shared.homeserver)
  | stored (login : Bool) (homeserver source : String) (knownVersions : List String) :
      SendStep parseUrl respectLoginWellKnown shared
        (SendPhase.requestServerVersions login homeserver source)
        (SendAction.receiveServerVersions (some knownVersions))
        { shared with
          serverVersions := some { versions := requestServerVersions knownVersions, source }
          initializing := false }
        (SendPhase.sending login homeserver (requestServerVersions knownVersions))
  | failed (login : Bool) (homeserver source : String) :
      SendStep parseUrl respectLoginWellKnown shared
        (SendPhase.requestServerVersions login homeserver source)
        (SendAction.receiveServerVersions none) { shared with initializing := false }
        SendPhase.done
  | stays {wellKnown : Option String}
      (hurl : wellKnownUrl parseUrl respectLoginWellKnown wellKnown = none) :
      SendStep parseUrl respectLoginWellKnown shared
        (SendPhase.receiveLoginResponse wellKnown) SendAction.receiveLoginResponse shared
        SendPhase.done
  | moved {wellKnown : Option String} {homeserver : String}
      (hurl : wellKnownUrl parseUrl respectLoginWellKnown wellKnown = some homeserver) :
      SendStep parseUrl respectLoginWellKnown shared
        (SendPhase.receiveLoginResponse wellKnown) SendAction.receiveLoginResponse
        { shared with homeserver } SendPhase.done

theorem sendStep_of_eq_some {shared shared' : ClientShared} {phase phase' : SendPhase}
    {a : SendAction}
    (hstep : sendStep parseUrl respectLoginWellKnown shared phase a =
      some (shared', phase')) :
    SendStep parseUrl respectLoginWellKnown shared phase a shared' phase' := by
  cases a with
  | start login =>
      cases phase <;> simp only [sendStep, reduceCtorEq] at hstep
      cases hstep
      exact SendStep.waits rfl nofun id rfl
  | useServerVersions =>
      cases phase <;> simp only [sendStep, reduceCtorEq] at hstep
      split at hstep
      · next cached hcached =>
          cases hstep
          refine SendStep.uses rfl nofun (Or.inr ?_) rfl
          rw [hcached]
          nofun
      · cases hstep
  | requestServerVersions =>
      cases phase <;> simp only [sendStep, reduceCtorEq] at hstep
      split at hstep
      · next hfree =>
          cases hstep
          rw [Bool.and_eq_true, Option.isNone_iff_eq_none, Bool.not_eq_true'] at hfree
          exact SendStep.asks _ _ hfree.1 hfree.2
      · cases hstep
  | receiveServerVersions answer =>
      cases phase <;> simp only [sendStep, reduceCtorEq] at hstep
      cases answer with
      | none =>
          cases hstep
          exact SendStep.failed _ _ _
      | some knownVersions =>
          cases hstep
          exact SendStep.stored _ _ _ knownVersions
  | receiveResponse =>
      cases phase <;> simp only [sendStep, reduceCtorEq] at hstep
      cases hstep
      exact SendStep.uses rfl nofun (Or.inl True.intro) rfl
  | receiveLogin wellKnown =>
      cases phase <;> simp only [sendStep, reduceCtorEq] at hstep
      rename_i login _ _
      cases login <;> simp only [reduceCtorEq] at hstep
      cases hstep
      exact SendStep.uses rfl nofun (Or.inl True.intro) rfl
  | sendAgain =>
      cases phase <;> simp only [sendStep, reduceCtorEq] at hstep
      cases hstep
      exact SendStep.waits rfl nofun id rfl
  | receiveLoginResponse =>
      cases phase <;> simp only [sendStep, reduceCtorEq] at hstep
      rename_i wellKnown
      cases hurl : wellKnownUrl parseUrl respectLoginWellKnown wellKnown with
      | none =>
          rw [hurl] at hstep
          cases hstep
          exact SendStep.stays hurl
      | some homeserver =>
          rw [hurl] at hstep
          cases hstep
          exact SendStep.moved hurl

end Steps

/-!
# The order of the cell and the login response

`send` awaits the versions before it sends anything.  So nobody is asking for versions
any more when a login response arrives, and the cell is filled.
-/

/-- The calls agree with the cell: those that send have got their versions from it, and
one call at most asks the homeserver in use, while the cell is empty. -/
structure CellAgrees (w : World Nat ClientShared SendPhase) : Prop where
  cached : forall i, (w.memory i).HasVersions -> w.shared.serverVersions ≠ none
  asking : forall i source, (w.memory i).asking = some source ->
    w.shared.serverVersions = none ∧ w.shared.initializing = true ∧
      source = w.shared.homeserver
  single : forall i j, (w.memory i).asking ≠ none -> (w.memory j).asking ≠ none -> i = j

section Agreement

variable {parseUrl : String -> Option String} {respectLoginWellKnown : Bool}
variable {homeserver : String} {w w' : World Nat ClientShared SendPhase}

theorem cellAgrees_init :
    CellAgrees (client parseUrl respectLoginWellKnown homeserver).system.init where
  cached i h := by cases h
  asking i source h := by cases h
  single i j h := absurd rfl h

section Step

variable {i : Nat} (hothers : forall j, j ≠ i -> w'.memory j = w.memory j)
include hothers

theorem CellAgrees.kept (h : CellAgrees w)
    (hcell : w'.shared.serverVersions = w.shared.serverVersions)
    (hinitializing : w'.shared.initializing = w.shared.initializing)
    (hurl : w'.shared.homeserver = w.shared.homeserver ∨
      w.shared.serverVersions ≠ none)
    (hversions : (w'.memory i).HasVersions -> w.shared.serverVersions ≠ none)
    (hasking : (w'.memory i).asking = none) : CellAgrees w' where
  cached j hj := by
    rw [hcell]
    rcases eq_or_ne j i with rfl | hne
    · exact hversions hj
    · rw [hothers j hne] at hj
      exact h.cached j hj
  asking j source hj := by
    rcases eq_or_ne j i with rfl | hne
    · rw [hasking] at hj
      cases hj
    · rw [hothers j hne] at hj
      rcases h.asking j source hj with ⟨hnone, hbusy, hsource⟩
      rw [hcell, hinitializing]
      refine ⟨hnone, hbusy, ?_⟩
      rcases hurl with hsame | hsome
      · exact hsource.trans hsame.symm
      · exact absurd hnone hsome
  single j k hj hk := by
    rcases eq_or_ne j i with rfl | hjne
    · exact absurd hasking hj
    · rcases eq_or_ne k i with rfl | hkne
      · exact absurd hasking hk
      · rw [hothers j hjne] at hj
        rw [hothers k hkne] at hk
        exact h.single j k hj hk

theorem CellAgrees.answered (h : CellAgrees w) (hi : (w.memory i).asking ≠ none)
    (hversions : (w'.memory i).HasVersions -> w'.shared.serverVersions ≠ none)
    (hasking : (w'.memory i).asking = none) : CellAgrees w' := by
  have hnobody : forall j, (w'.memory j).asking = none := by
    intro j
    rcases eq_or_ne j i with rfl | hne
    · exact hasking
    · rw [hothers j hne]
      by_contra hj
      exact hne (h.single j i hj hi)
  rcases Option.ne_none_iff_exists'.mp hi with ⟨source, hsource⟩
  have hempty := (h.asking i source hsource).1
  constructor
  · intro j hj
    rcases eq_or_ne j i with rfl | hne
    · exact hversions hj
    · rw [hothers j hne] at hj
      exact absurd hempty (h.cached j hj)
  · intro j source hj
    rw [hnobody j] at hj
    cases hj
  · intro j k hj
    exact absurd (hnobody j) hj

theorem CellAgrees.asks (h : CellAgrees w) (hfree : w.shared.initializing = false)
    (hempty : w.shared.serverVersions = none) (hbusy : w'.shared.initializing = true)
    (hcell : w'.shared.serverVersions = w.shared.serverVersions)
    (hversions : ¬ (w'.memory i).HasVersions)
    (hasking : (w'.memory i).asking = some w'.shared.homeserver) : CellAgrees w' := by
  have honly : forall j, (w'.memory j).asking ≠ none -> j = i := by
    intro j hj
    by_contra hne
    rw [hothers j hne] at hj
    rcases Option.ne_none_iff_exists'.mp hj with ⟨source, hsource⟩
    have hother := (h.asking j source hsource).2.1
    rw [hfree] at hother
    cases hother
  constructor
  · intro j hj
    rcases eq_or_ne j i with rfl | hne
    · exact absurd hj hversions
    · rw [hothers j hne] at hj
      exact absurd hempty (h.cached j hj)
  · intro j source hj
    have hji := honly j (by rw [hj]; nofun)
    rw [hji, hasking] at hj
    cases hj
    exact ⟨hcell.trans hempty, hbusy, rfl⟩
  · intro j k hj hk
    rw [honly j hj, honly k hk]

theorem cellAgrees_step {a : SendAction} (h : CellAgrees w)
    (hstep : SendStep parseUrl respectLoginWellKnown w.shared (w.memory i) a w'.shared
      (w'.memory i)) : CellAgrees w' := by
  generalize hphase : w.memory i = phase at hstep
  generalize hshared' : w'.shared = shared' at hstep
  generalize hphase' : w'.memory i = phase' at hstep
  cases hstep with
  | waits hasking ha hversions hasking' =>
      apply h.kept hothers <;> simp [*]
  | uses hasking ha hversions hasking' =>
      apply h.kept hothers (by rw [hshared']) (by rw [hshared'])
        (Or.inl (by rw [hshared'])) _ (by rw [hphase']; exact hasking')
      intro _
      rcases hversions with hhas | hcached
      · exact h.cached i (hphase ▸ hhas)
      · exact hcached
  | asks login homeserver hnone hfree =>
      apply h.asks hothers hfree <;> simp [*, SendPhase.asking, SendPhase.HasVersions]
  | stored login homeserver source knownVersions =>
      apply h.answered hothers <;> simp [*, SendPhase.asking]
  | failed login homeserver source =>
      apply h.answered hothers <;> simp [*, SendPhase.asking, SendPhase.HasVersions]
  | stays hurl =>
      apply h.kept hothers <;> simp [*, SendPhase.asking, SendPhase.HasVersions]
  | @moved wellKnown homeserver hurl =>
      have hcell : w.shared.serverVersions ≠ none := h.cached i (hphase ▸ True.intro)
      apply h.kept hothers <;>
        simp [*, SendPhase.asking, SendPhase.HasVersions]

end Step

/-!
# One step
-/

/-- A step keeps the cached versions with their homeserver exactly if a login response
names no other one. -/
theorem SendStep.versionsOf_iff {i : Nat} {a : SendAction}
    {shared : ClientShared} {phase : SendPhase} (h : CellAgrees w)
    (hs : VersionsOfHomeserver w.shared)
    (hstep : SendStep parseUrl respectLoginWellKnown w.shared (w.memory i) a shared
      phase) :
    VersionsOfHomeserver shared <->
      NamesHomeserver parseUrl respectLoginWellKnown w.shared (w.memory i) a := by
  generalize hphase : w.memory i = before at hstep
  cases hstep with
  | waits hasking ha hversions hasking' =>
      exact iff_of_true hs fun hlogin => absurd hlogin ha
  | uses hasking ha hversions hasking' =>
      exact iff_of_true hs fun hlogin => absurd hlogin ha
  | asks login homeserver hnone hfree => exact iff_of_true hs nofun
  | stored login homeserver source knownVersions =>
      have hasks : (w.memory i).asking = some source := by rw [hphase]; rfl
      have hkept := (h.asking i source hasks).2.2
      refine iff_of_true ?_ nofun
      intro cached hcached
      cases hcached
      exact hkept
  | failed login homeserver source => exact iff_of_true hs nofun
  | stays hurl =>
      apply iff_of_true hs
      intro _ wellKnown homeserver hlogin hsome
      cases hlogin
      rw [hurl] at hsome
      cases hsome
  | @moved wellKnown homeserver hurl =>
      -- The login has been sent with the versions in the cell, so there are some.
      have hcell : w.shared.serverVersions ≠ none := h.cached i (hphase ▸ True.intro)
      rcases Option.ne_none_iff_exists'.mp hcell with ⟨cached, hcached⟩
      constructor
      · intro hkept _ other url hlogin hsome
        cases hlogin
        rw [hurl] at hsome
        cases hsome
        exact (hkept cached hcached).symm.trans (hs cached hcached)
      · intro hnames other hother
        exact (hs other hother).trans (hnames rfl _ _ rfl hurl).symm

end Agreement

/-!
# Runs
-/

/-- In every state the cached versions are those of the homeserver in use, exactly if
no login response of the run names another homeserver than that. -/
theorem versionsOfHomeserver_iff {parseUrl : String -> Option String}
    {respectLoginWellKnown : Bool} {homeserver : String}
    {events : List (Event Nat Empty SendAction)} {w : World Nat ClientShared SendPhase}
    (hrun : (client parseUrl respectLoginWellKnown homeserver).system.run events = some w) :
    (client parseUrl respectLoginWellKnown homeserver).system.AllStates
        (fun w => VersionsOfHomeserver w.shared)
        (client parseUrl respectLoginWellKnown homeserver).system.init events <->
      (client parseUrl respectLoginWellKnown homeserver).system.AllSteps
        (StepNamesHomeserver parseUrl respectLoginWellKnown)
        (client parseUrl respectLoginWellKnown homeserver).system.init events := by
  apply TransitionSystem.allStates_iff_allSteps (I := CellAgrees) _ _ cellAgrees_init _
    hrun
  · intro w e w' hw hstep
    cases e with
    | environment e => cases e
    | component i a =>
        exact cellAgrees_step (fun j hj => memory_of_ne hstep hj) hw
          (sendStep_of_eq_some (step_of_worldStep hstep))
  · intro w e w' hagrees hw hstep
    cases e with
    | environment e => cases e
    | component i a =>
        have hsend := sendStep_of_eq_some (step_of_worldStep hstep)
        exact hsend.versionsOf_iff hagrees hw
  · nofun

def oneLogin (wellKnown : Option String) : List (Event Nat Empty SendAction) :=
  [.component 0 (.start true), .component 0 .requestServerVersions,
    .component 0 (.receiveServerVersions (some ["V1_1"])),
    .component 0 (.receiveLogin wellKnown), .component 0 .receiveLoginResponse]

theorem versionsOfHomeserver_same_url :
    exists w, (client some true "https://a.x").system.run
        (oneLogin (some "https://a.x")) = some w ∧
      (client some true "https://a.x").system.AllStates
        (fun w => VersionsOfHomeserver w.shared)
        (client some true "https://a.x").system.init (oneLogin (some "https://a.x")) := by
  refine ⟨_, rfl, (versionsOfHomeserver_iff rfl).mpr ?_⟩
  apply TransitionSystem.AllSteps.cons rfl nofun
  apply TransitionSystem.AllSteps.cons rfl nofun
  apply TransitionSystem.AllSteps.cons rfl nofun
  apply TransitionSystem.AllSteps.cons rfl nofun
  apply TransitionSystem.AllSteps.cons rfl
  · intro _ wellKnown homeserver hphase hurl
    cases hphase
    cases hurl
    rfl
  exact True.intro

/-- The versions were requested from the first homeserver, and the login response moves
the client to another one. -/
theorem login_leaves_versions :
    exists w, (client some true "https://a.x").system.run
        (oneLogin (some "https://b.x")) = some w ∧
      w.shared.homeserver = "https://b.x" ∧
      w.shared.serverVersions = some { versions := ["V1_1"], source := "https://a.x" } ∧
      ¬ VersionsOfHomeserver w.shared := by
  refine ⟨_, rfl, rfl, rfl, ?_⟩
  intro hversions
  exact absurd (hversions _ rfl) (by decide)

end ServerVersions
end MatrixGoose
