import Mathlib.Data.List.Induction
import MatrixGoose.Bin.Chat.Steps

/-!
# Tasks after a login

`on_start` succeeds although every login failed, and the scheduler then runs for a
user without a user id and without session data.  Its tasks panic on a missing
value exactly if one that needs these is drawn before a login succeeded.
-/

namespace MatrixGoose

open Foundation
open Foundation.Components

namespace Chat

variable {Message : Type}

def LoggedIn (u : Nat) (before : List (ChatEvent Message)) : Prop :=
  exists id, ChatEvent.main u (MainAction.loginResponse (some id)) ∈ before

/-- User `u` drew a task that needs a login before it was logged in. -/
def DrewTooEarly (u : Nat) (before : List (ChatEvent Message)) : Prop :=
  exists start draw rest,
    before = start ++ ChatEvent.main u (MainAction.startTask draw) :: rest ∧
      draw.needsLogin = true ∧ ¬ LoggedIn u start

def TasksAfterLogin (actions : List (ChatEvent Message)) : Prop :=
  forall u, ¬ DrewTooEarly u actions

/-- A thread panicked because its client, its user id or its session data was
missing. -/
def MissingValue (user : ChatUser Message) : Prop :=
  exists panic, panic.isMissing = true ∧ user.phase = Phase.panicked panic

def NoMissingValue (w : ChatWorld Message) : Prop :=
  forall u, ¬ MissingValue (w.memory u)

/-!
# Histories
-/

theorem loggedIn_append {u : Nat} {before : List (ChatEvent Message)}
    {e : ChatEvent Message}
    (he : forall id, e ≠ ChatEvent.main u (MainAction.loginResponse (some id))) :
    LoggedIn u (before ++ [e]) <-> LoggedIn u before := by
  constructor
  · intro h
    rcases h with ⟨id, hid⟩
    rcases List.mem_append.mp hid with h | h
    · exact ⟨id, h⟩
    · exact absurd (List.mem_singleton.mp h).symm (he id)
  · intro h
    rcases h with ⟨id, hid⟩
    exact ⟨id, List.mem_append_left _ hid⟩

theorem drewTooEarly_append {u : Nat} {before : List (ChatEvent Message)}
    {e : ChatEvent Message} :
    DrewTooEarly u (before ++ [e]) <->
      DrewTooEarly u before ∨
        exists draw, e = ChatEvent.main u (MainAction.startTask draw) ∧
          draw.needsLogin = true ∧ ¬ LoggedIn u before := by
  constructor
  · intro h
    rcases h with ⟨start, draw, rest, hsplit, hneeds, hlogin⟩
    cases rest using List.reverseRecOn with
    | nil =>
        rcases List.append_inj' hsplit rfl with ⟨hbefore, he⟩
        rw [hbefore]
        exact Or.inr ⟨draw, List.singleton_inj.mp he, hneeds, hlogin⟩
    | append_singleton rest last =>
        left
        have hassoc : before ++ [e] =
            (start ++ ChatEvent.main u (MainAction.startTask draw) :: rest) ++ [last] := by
          rw [hsplit, List.append_assoc]
          rfl
        exact ⟨start, draw, rest, (List.append_inj' hassoc rfl).1, hneeds, hlogin⟩
  · intro h
    rcases h with ⟨start, draw, rest, hsplit, hneeds, hlogin⟩ | ⟨draw, he, hneeds, hlogin⟩
    · refine ⟨start, draw, rest ++ [e], ?_, hneeds, hlogin⟩
      rw [hsplit, List.append_assoc]
      rfl
    · exact ⟨before, draw, [], by rw [he], hneeds, hlogin⟩

/-!
# Client and session data
-/

def ChatUser.login (user : ChatUser Message) : Option (Option String) :=
  user.client.map Client.userId

theorem SyncStep.login_eq {u : Nat} {shared shared' : Shared Message}
    {user user' : ChatUser Message} {a : SyncTaskAction Message}
    (hstep : SyncStep u shared user a shared' user') : user'.login = user.login := by
  cases hstep with
  | receiveRooms joinedRooms hphase =>
      show (user.client.map _).map _ = user.client.map _
      rw [Option.map_map]
      rfl
  | _ => rfl

theorem MainStep.login_eq {config : Config} {u : Nat}
    {shared shared' : Shared Message} {user user' : ChatUser Message} {a : MainAction}
    (hstep : MainStep config u shared user a shared' user')
    (hstage : user.phase.stage ≠ Stage.newClient)
    (hlogin : forall id, a ≠ MainAction.loginResponse (some id)) :
    user'.login = user.login := by
  cases hstep with
  | newClient hphase =>
      rw [hphase] at hstage
      exact absurd rfl hstage
  | loggedIn retries id hphase => exact absurd rfl (hlogin id)
  | _ => rfl

theorem MainStep.login_of_newClient {config : Config} {u : Nat}
    {shared shared' : Shared Message} {user user' : ChatUser Message} {built : Bool}
    (hstep : MainStep config u shared user (MainAction.newClient built) shared' user')
    (hstage : user'.phase.stage ≠ Stage.panicked) : user'.login = some none := by
  cases hstep with
  | newClient hphase => rfl
  | newClientFailed hphase => exact absurd rfl hstage

theorem MainStep.login_of_loggedIn {config : Config} {u : Nat}
    {shared shared' : Shared Message} {user user' : ChatUser Message} {id : String}
    (hstep : MainStep config u shared user (MainAction.loginResponse (some id))
      shared' user')
    (hlogin : user.login = some none) : user'.login = some (some id) := by
  cases hstep with
  | loggedIn retries id hphase =>
      rcases Option.map_eq_some_iff.mp hlogin with ⟨client, hclient, _⟩
      show (user.client.map _).map _ = _
      rw [hclient]
      rfl

theorem MainStep.isSome_of_setSessionData {config : Config} {u : Nat}
    {shared shared' : Shared Message} {user user' : ChatUser Message}
    (hstep : MainStep config u shared user MainAction.setSessionData shared' user') :
    (shared'.sessions u).isSome = true := by
  cases hstep with
  | setSessionData hphase =>
      show (Function.update shared.sessions u _ u).isSome = true
      rw [Function.update_self]
      rfl

def HasAtStage (loggedIn : Prop) (login : Option (Option String)) (session : Bool) :
    Stage -> Prop
  | Stage.notStarted => ¬ loggedIn ∧ session = false
  | Stage.newClient => ¬ loggedIn ∧ session = false
  | Stage.login => ¬ loggedIn ∧ session = false ∧ login = some none
  | Stage.syncSpawned => loggedIn ∧ exists id, login = some (some id)
  | Stage.transactions =>
      (loggedIn ∧ session = true ∧ exists id, login = some (some id)) ∨
        (¬ loggedIn ∧ session = false ∧ login = some none)
  | Stage.panicked => True

def HasLogin (before : List (ChatEvent Message)) (u : Nat) (shared : Shared Message)
    (user : ChatUser Message) : Prop :=
  HasAtStage (LoggedIn u before) user.login (shared.sessions u).isSome user.phase.stage

theorem hasLogin_mainStep {config : Config} {before : List (ChatEvent Message)}
    {u : Nat} {shared shared' : Shared Message} {user user' : ChatUser Message}
    {a : MainAction} (hu : HasLogin before u shared user)
    (hstep : MainStep config u shared user a shared' user') :
    HasLogin (before ++ [ChatEvent.main u a]) u shared' user' := by
  have hlogged : (forall id, a ≠ MainAction.loginResponse (some id)) ->
      (LoggedIn u (before ++ [ChatEvent.main u a]) <-> LoggedIn u before) := by
    intro ha
    apply loggedIn_append
    intro id h
    cases h
    exact ha id rfl
  have hsession : user.phase.stage ≠ Stage.syncSpawned ->
      (shared'.sessions u).isSome = (shared.sessions u).isSome := by
    intro hspawned
    rcases hstep.isSome_sessions u with h | ⟨h, _, _⟩
    · exact h
    · exact absurd h hspawned
  have hsame := hstep.login_eq
  have hstageStep := hstep.stageStep
  unfold HasLogin at hu ⊢
  generalize user.phase.stage = stage at hu hsession hsame hstageStep
  generalize hnext : user'.phase.stage = next at hstageStep ⊢
  cases hstageStep with
  | onStart =>
      rw [hsession nofun]
      exact ⟨fun h => hu.1 ((hlogged nofun).mp h), hu.2⟩
  | newClient built next hcases =>
      rw [hsession nofun]
      rcases hcases with rfl | rfl
      · exact ⟨fun h => hu.1 ((hlogged nofun).mp h), hu.2,
          hstep.login_of_newClient (by rw [hnext]; nofun)⟩
      · exact True.intro
  | loggedIn id =>
      exact ⟨⟨id, List.mem_append_right _ (List.mem_singleton.mpr rfl)⟩, id,
        hstep.login_of_loggedIn hu.2.2⟩
  | loginFailed next hcases =>
      rw [hsession nofun, hsame nofun nofun]
      rcases hcases with rfl | rfl
      · exact ⟨fun h => hu.1 ((hlogged nofun).mp h), hu.2.1, hu.2.2⟩
      · exact Or.inr ⟨fun h => hu.1 ((hlogged nofun).mp h), hu.2.1, hu.2.2⟩
  | loginRequest next hcases =>
      rw [hsession nofun, hsame nofun nofun]
      rcases hcases with rfl | rfl
      · exact ⟨fun h => hu.1 ((hlogged nofun).mp h), hu.2.1, hu.2.2⟩
      · exact True.intro
  | setSessionData =>
      rw [hstep.isSome_of_setSessionData, hsame nofun nofun]
      exact Or.inl ⟨(hlogged nofun).mpr hu.1, rfl, hu.2⟩
  | transaction a next hstart hlogin hcases =>
      rw [hsession nofun, hsame nofun fun id => hlogin (some id)]
      rcases hcases with rfl | rfl
      · have hiff := hlogged fun id => hlogin (some id)
        rcases hu with ⟨h, hdata⟩ | ⟨h, hdata⟩
        · exact Or.inl ⟨hiff.mpr h, hdata⟩
        · exact Or.inr ⟨fun h' => h (hiff.mp h'), hdata⟩
      · exact True.intro

/-!
# Missing values
-/

theorem missingValue_mainStep {config : Config} {before : List (ChatEvent Message)}
    {u : Nat} {shared shared' : Shared Message} {user user' : ChatUser Message}
    {a : MainAction} (hu : HasLogin before u shared user)
    (hstep : MainStep config u shared user a shared' user') :
    MissingValue user' <->
      exists draw, a = MainAction.startTask draw ∧ draw.needsLogin = true ∧
        ¬ LoggedIn u before := by
  have htask : forall draw, user.phase = Phase.draw ->
      (isMissingPanic (runTask (viewOf config u shared user) draw) = true <->
        draw.needsLogin = true ∧ ¬ LoggedIn u before) := by
    intro draw hphase
    unfold HasLogin at hu
    rw [hphase] at hu
    rcases hu with ⟨hlogged, hsession, id, hlogin⟩ | ⟨hlogged, hsession, hlogin⟩
    · rcases Option.map_eq_some_iff.mp hlogin with ⟨client, hclient, hid⟩
      rcases Option.isSome_iff_exists.mp hsession with ⟨clientData, hdata⟩
      have hfalse : isMissingPanic (runTask (viewOf config u shared user) draw) = false :=
        isMissingPanic_runTask_of_loggedIn hclient hid hdata draw
      rw [hfalse]
      exact ⟨nofun, fun h => absurd hlogged h.2⟩
    · rcases Option.map_eq_some_iff.mp hlogin with ⟨client, hclient, hid⟩
      have hnone : shared.sessions u = none := by
        rw [← Option.not_isSome_iff_eq_none, hsession]
        nofun
      have hneeds : isMissingPanic (runTask (viewOf config u shared user) draw) =
          draw.needsLogin :=
        isMissingPanic_runTask_of_not_loggedIn hclient hid hnone draw
      rw [hneeds]
      exact ⟨fun h => ⟨h, hlogged⟩, fun h => h.1⟩
  constructor
  · intro h
    rcases h with ⟨panic, hmissing, hpanic⟩
    cases hstep.panicCause hpanic with
    | task draw panic hphase hstart =>
        refine ⟨draw, rfl, (htask draw hphase).mp ?_⟩
        rw [hstart]
        exact hmissing
    | table howner => cases hmissing
    | other a panic hother =>
        rcases hother with rfl | rfl | rfl | rfl <;> cases hmissing
  · intro h
    rcases h with ⟨draw, ha, hneeds⟩
    subst ha
    cases hstep with
    | startTask draw start hphase hstart =>
        have hmissing := (htask draw hphase).mpr hneeds
        rw [hstart] at hmissing
        cases hmissing
    | taskPanics draw panic hphase hstart =>
        have hmissing := (htask draw hphase).mpr hneeds
        rw [hstart] at hmissing
        exact ⟨panic, hmissing, rfl⟩

/-!
# Runs
-/

structure LoginTracked (before : List (ChatEvent Message)) (u : Nat)
    (shared : Shared Message) (user : ChatUser Message) : Prop where
  has : HasLogin before u shared user
  missing : MissingValue user <-> DrewTooEarly u before

theorem loginTracked_step {config : Config} {before : List (ChatEvent Message)}
    {w w' : ChatWorld Message} {e : ChatEvent Message}
    (hw : Everywhere (LoginTracked before) w)
    (hstep : (chat Message config).worldStep w e = some w') :
    Everywhere (LoginTracked (before ++ [e])) w' := by
  -- An event that is not of thread `u` does not count for user `u`.
  have hother : forall u, (forall a, e ≠ ChatEvent.main u a) ->
      (LoggedIn u (before ++ [e]) <-> LoggedIn u before) ∧
        (DrewTooEarly u (before ++ [e]) <-> DrewTooEarly u before) := by
    intro u he
    refine ⟨loggedIn_append fun id => he _, ?_⟩
    rw [drewTooEarly_append]
    constructor
    · intro h
      rcases h with h | ⟨draw, h, _⟩
      · exact h
      · exact absurd h (he _)
    · exact Or.inl
  have hframe : forall (u : Nat) (shared : Shared Message) (user : ChatUser Message),
      (forall a, e ≠ ChatEvent.main u a) -> LoginTracked before u w.shared (w.memory u) ->
      user.phase = (w.memory u).phase -> user.login = (w.memory u).login ->
      (shared.sessions u).isSome = (w.shared.sessions u).isSome ->
      LoginTracked (before ++ [e]) u shared user := by
    intro u shared user he hu hphase hlogin hsession
    constructor
    · unfold HasLogin
      rw [hphase, hlogin, hsession, propext (hother u he).1]
      exact hu.has
    · rw [(hother u he).2, ← hu.missing]
      unfold MissingValue
      rw [hphase]
  cases e with
  | environment duration =>
      refine everywhere_environment hw hstep ?_
      intro shared u hshared hu
      cases hshared
      exact hframe u _ _ (fun a h => by cases h) hu rfl rfl rfl
  | component u a =>
      cases a with
      | sync a =>
          refine everywhere_component hw hstep ?_ ?_
          · intro shared user hlocal hu
            have hsync := syncStep_of_eq_some hlocal
            exact hframe u shared user (fun b h => by cases h) hu hsync.phase_eq
              hsync.login_eq (hsync.isSome_sessions u)
          · intro shared user v hlocal hv hu
            exact hframe v shared _ (fun b h => by cases h) hu rfl rfl
              ((syncStep_of_eq_some hlocal).isSome_sessions v)
      | main a =>
          refine everywhere_component hw hstep ?_ ?_
          · intro shared user hlocal hu
            have hmain := mainStep_of_eq_some hlocal
            refine ⟨hasLogin_mainStep hu.has hmain, ?_⟩
            rw [missingValue_mainStep hu.has hmain, drewTooEarly_append, ← hu.missing]
            constructor
            · intro h
              rcases h with ⟨draw, rfl, hneeds⟩
              exact Or.inr ⟨draw, rfl, hneeds⟩
            · intro h
              rcases h with ⟨panic, _, hpanic⟩ | ⟨draw, he, hneeds⟩
              · have hstage := hmain.stageStep
                rw [hpanic] at hstage
                cases hstage
              · cases he
                exact ⟨draw, rfl, hneeds⟩
          · intro shared user v hlocal hv hu
            refine hframe v shared _ (fun b h => hv (by cases h; rfl)) hu rfl rfl ?_
            rcases (mainStep_of_eq_some hlocal).isSome_sessions v with h | ⟨_, h, _⟩
            · exact h
            · exact absurd h hv

theorem loginTracked_run {config : Config} {before : List (ChatEvent Message)}
    {w : ChatWorld Message} (hrun : (chat Message config).system.run before = some w) :
    Everywhere (LoginTracked before) w := by
  refine @TransitionSystem.invariant_run_history _ _ (chat Message config).system
    (fun before w => Everywhere (LoginTracked before) w) ?_
    (fun _ _ _ _ hw hstep => loginTracked_step hw hstep) before w hrun
  intro u
  constructor
  · refine ⟨?_, rfl⟩
    intro h
    rcases h with ⟨id, hid⟩
    cases hid
  · constructor
    · intro h
      rcases h with ⟨panic, _, hpanic⟩
      cases hpanic
    · intro h
      rcases h with ⟨start, draw, rest, hsplit, _⟩
      cases start <;> cases hsplit

/-- In a run no task finds a value missing exactly if every drawn task that needs a
login is drawn by a user whose login has succeeded. -/
theorem noMissingValue_iff_tasksAfterLogin {config : Config}
    {actions : List (ChatEvent Message)} {w : ChatWorld Message}
    (hrun : (chat Message config).system.run actions = some w) :
    (chat Message config).system.AllStates NoMissingValue
        (chat Message config).system.init actions <->
      TasksAfterLogin actions := by
  rw [TransitionSystem.allStates_iff]
  constructor
  · intro hall u hearly
    have hfinal : NoMissingValue w :=
      hall actions [] w (List.append_nil actions).symm hrun
    exact hfinal u ((loginTracked_run hrun u).missing.mpr hearly)
  · intro hafter before rest mid hsplit hmid u hmissing
    rcases (loginTracked_run hmid u).missing.mp hmissing with
      ⟨start, draw, tail, hbefore, hneeds, hlogin⟩
    refine hafter u ⟨start, draw, tail ++ rest, ?_, hneeds, hlogin⟩
    rw [hsplit, hbefore, List.append_assoc]
    rfl

def failedLogins : List (ChatEvent String) :=
  [ChatEvent.main 0 MainAction.onStart,
    ChatEvent.main 0 (MainAction.newClient true),
    ChatEvent.main 0 (MainAction.loginResponse none),
    ChatEvent.main 0 (MainAction.loginResponse none),
    ChatEvent.main 0 (MainAction.loginResponse none),
    ChatEvent.main 0 MainAction.enterScheduler,
    ChatEvent.main 0 (MainAction.checkCanceled 1),
    ChatEvent.main 0 (MainAction.checkCanceled 1)]

def drawSendText : Draw where
  index := 1
  room := 0
  event := 0
  delay := 0

theorem noMissingValue_iff_tasksAfterLogin_failed_logins :
    ¬ (chat String sampleConfig).system.AllStates NoMissingValue
      (chat String sampleConfig).system.init
      (failedLogins ++ [ChatEvent.main 0 (MainAction.startTask drawSendText)]) := by
  intro hall
  refine (noMissingValue_iff_tasksAfterLogin rfl).mp hall 0
    ⟨failedLogins, drawSendText, [], rfl, rfl, ?_⟩
  intro h
  rcases h with ⟨id, hid⟩
  simp [failedLogins, ChatEvent.main] at hid

/-- `on_start` returns although all logins failed, and the first `send_text` finds
no user id. -/
theorem send_text_after_failed_logins :
    exists w, (chat String sampleConfig).system.run
        (failedLogins ++ [ChatEvent.main 0 (MainAction.startTask drawSendText)]) =
          some w ∧
      (w.memory 0).phase = Phase.panicked Panic.userIdMissing ∧ ¬ NoMissingValue w := by
  refine ⟨_, rfl, rfl, ?_⟩
  intro hnone
  exact hnone 0 ⟨Panic.userIdMissing, rfl, rfl⟩

end Chat
end MatrixGoose
