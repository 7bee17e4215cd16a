import MatrixGoose.Bin.Chat.Login

/-!
# Installing the session data

`on_start` spawns the sync task before it installs the session data, which needs
the handle of that task.  A message that the task hands to `on_room_message` in
between finds no session data; any later one finds it.
-/

namespace MatrixGoose

open Foundation
open Foundation.Components

namespace Chat

open EventHandler

variable {Message : Type}

/-- `on_start` is between `tokio::spawn` and `set_session_data`. -/
def Spawning (user : ChatUser Message) : Prop :=
  user.phase.stage = Stage.syncSpawned

/-- A message that a client hands to its own user finds session data, and
`set_session_data` replaces none, so it discards no recorded message. -/
def FindsSessionData (w : ChatWorld Message) (e : ChatEvent Message) : Prop :=
  (forall u roomId event, e = ChatEvent.sync u (SyncTaskAction.onRoomMessage roomId event) ->
    w.shared.gooseUsers[u]? = some u ->
    (w.shared.sessions u).isSome = true ∧
      deliver u w.shared roomId event ≠ .error Panic.sessionDataMissing) ∧
  forall u, e = ChatEvent.main u MainAction.setSessionData -> w.shared.sessions u = none

def NoDeliveryWhileSpawning (w : ChatWorld Message) (e : ChatEvent Message) : Prop :=
  forall u roomId event, e = ChatEvent.sync u (SyncTaskAction.onRoomMessage roomId event) ->
    w.shared.gooseUsers[u]? = some u -> ¬ Spawning (w.memory u)

/-!
# Where the session data is
-/

structure SessionTracked (u : Nat) (shared : Shared Message) (user : ChatUser Message) :
    Prop where
  installed : (shared.sessions u).isSome = true ->
    user.phase.stage = Stage.transactions ∨ user.phase.stage = Stage.panicked
  spawned : user.syncPhase ≠ SyncPhase.notSpawned ->
    Spawning user ∨ (shared.sessions u).isSome = true

theorem SessionTracked.congr {u : Nat} {shared shared' : Shared Message}
    {user user' : ChatUser Message} (hu : SessionTracked u shared user)
    (hsession : (shared'.sessions u).isSome = (shared.sessions u).isSome)
    (hstage : user'.phase.stage = user.phase.stage)
    (hsync : user'.syncPhase ≠ SyncPhase.notSpawned ->
      user.syncPhase ≠ SyncPhase.notSpawned) :
    SessionTracked u shared' user' := by
  constructor
  · rw [hsession, hstage]
    exact hu.installed
  · intro hspawned
    unfold Spawning
    rw [hsession, hstage]
    exact hu.spawned (hsync hspawned)

theorem MainStep.spawns {config : Config} {u : Nat}
    {shared shared' : Shared Message} {user user' : ChatUser Message} {a : MainAction}
    (hstep : MainStep config u shared user a shared' user')
    (hspawned : user'.syncPhase ≠ SyncPhase.notSpawned) :
    user.syncPhase ≠ SyncPhase.notSpawned ∨ Spawning user' := by
  cases hstep with
  | loggedIn retries id hphase => exact Or.inr rfl
  | _ => exact Or.inl hspawned

theorem MainStep.spawning_of_setSessionData {config : Config} {u : Nat}
    {shared shared' : Shared Message} {user user' : ChatUser Message}
    (hstep : MainStep config u shared user MainAction.setSessionData shared' user') :
    Spawning user := by
  cases hstep with
  | setSessionData hphase =>
      unfold Spawning
      rw [hphase]
      rfl

theorem sessionTracked_mainStep {config : Config} {u : Nat}
    {shared shared' : Shared Message} {user user' : ChatUser Message} {a : MainAction}
    (hu : SessionTracked u shared user)
    (hstep : MainStep config u shared user a shared' user') :
    SessionTracked u shared' user' := by
  have hstageStep := hstep.stageStep
  rcases hstep.isSome_sessions u with hsame | ⟨hspawning, _, hsome⟩
  · constructor
    · intro hsome
      rw [hsame] at hsome
      -- Session data is there, so the thread is past `on_start`.
      generalize user'.phase.stage = next at hstageStep
      rcases hu.installed hsome with hstage | hstage <;> rw [hstage] at hstageStep
      · cases hstageStep with
        | transaction a next hstart hlogin hnext => exact hnext
      · cases hstageStep
    · intro hspawned
      rcases hstep.spawns hspawned with hbefore | hnow
      · rcases hu.spawned hbefore with hspawning | hsome
        · right
          have hset : a = MainAction.setSessionData := by
            generalize user'.phase.stage = next at hstageStep
            rw [hspawning] at hstageStep
            cases hstageStep
            rfl
          subst hset
          exact hstep.isSome_of_setSessionData
        · rw [hsame]
          exact Or.inr hsome
      · exact Or.inl hnow
  · constructor
    · intro _
      left
      generalize user'.phase.stage = next at hstageStep ⊢
      rw [hspawning] at hstageStep
      cases hstageStep
      rfl
    · intro _
      exact Or.inr hsome

theorem sessionTracked_step {config : Config} {w w' : ChatWorld Message}
    {e : ChatEvent Message} (hw : Everywhere SessionTracked w)
    (hstep : (chat Message config).worldStep w e = some w') :
    Everywhere SessionTracked w' := by
  refine everywhere_chatStep hw hstep ?htime ?hmain ?hmainOther ?hsync ?hsyncOther
  case htime =>
    intro duration u _ hu
    exact hu.congr rfl rfl id
  case hmain =>
    intro u a shared user _ hmain hu
    exact sessionTracked_mainStep hu hmain
  case hmainOther =>
    intro u a shared user v _ hmain hv hother
    rcases hmain.isSome_sessions v with hsame | ⟨_, heq, _⟩
    · exact hother.congr hsame rfl id
    · exact absurd heq hv
  case hsync =>
    intro u a shared user _ hsync hu
    exact hu.congr (hsync.isSome_sessions u) (by rw [hsync.phase_eq])
      (fun _ => hsync.ne_notSpawned)
  case hsyncOther =>
    intro u a shared user v _ hsync hv hother
    exact hother.congr (hsync.isSome_sessions v) rfl id

theorem sessionTracked_init {config : Config} :
    Everywhere SessionTracked (chat Message config).system.init := by
  intro u
  exact ⟨nofun, fun h => absurd rfl h⟩

theorem SessionTracked.eq_none {u : Nat} {shared : Shared Message}
    {user : ChatUser Message} (hu : SessionTracked u shared user)
    (hspawning : Spawning user) : shared.sessions u = none := by
  rw [← Option.not_isSome_iff_eq_none]
  intro hsome
  unfold Spawning at hspawning
  rcases hu.installed hsome with h | h <;> rw [h] at hspawning <;> cases hspawning

/-- While a user is spawning, and only then, its sync task runs without session
data. -/
theorem SessionTracked.isSome_iff {u : Nat} {shared : Shared Message}
    {user : ChatUser Message} (hu : SessionTracked u shared user)
    (hspawned : user.syncPhase ≠ SyncPhase.notSpawned) :
    (shared.sessions u).isSome = true <-> ¬ Spawning user := by
  constructor
  · intro hsome hspawning
    rw [hu.eq_none hspawning] at hsome
    cases hsome
  · intro hpast
    rcases hu.spawned hspawned with h | h
    · exact absurd h hpast
    · exact h

/-!
# Deliveries
-/

theorem deliver_ne_sessionDataMissing {u owner : Nat} {shared : Shared Message}
    {roomId : RoomId} {event : Message} (howner : shared.gooseUsers[u]? = some owner)
    (hsome : (shared.sessions owner).isSome = true) :
    deliver u shared roomId event ≠ .error Panic.sessionDataMissing := by
  rcases Option.isSome_iff_exists.mp hsome with ⟨clientData, hsession⟩
  unfold deliver
  rw [howner, unwrap_some, bind_ok, hsession, unwrap_some, bind_ok]
  nofun

theorem findsSessionData_iff {config : Config} {w w' : ChatWorld Message}
    {e : ChatEvent Message} (hw : Everywhere SessionTracked w)
    (hstep : (chat Message config).worldStep w e = some w') :
    FindsSessionData w e <-> NoDeliveryWhileSpawning w e := by
  have hdelivery : forall u roomId event,
      e = ChatEvent.sync u (SyncTaskAction.onRoomMessage roomId event) ->
      ((w.shared.sessions u).isSome = true <-> ¬ Spawning (w.memory u)) := by
    intro u roomId event he
    subst he
    exact (hw u).isSome_iff (syncStep_of_worldStep hstep).ne_notSpawned
  constructor
  · intro hfinds u roomId event he howner
    exact (hdelivery u roomId event he).mp (hfinds.1 u roomId event he howner).1
  · intro hnone
    constructor
    · intro u roomId event he howner
      have hsome := (hdelivery u roomId event he).mpr (hnone u roomId event he howner)
      exact ⟨hsome, deliver_ne_sessionDataMissing howner hsome⟩
    · intro u he
      subst he
      exact (hw u).eq_none (mainStep_of_worldStep hstep).spawning_of_setSessionData

/-- In a run every message that a client hands to its own user finds session data
exactly if none is handed over while the user is spawning. -/
theorem findsSessionData_iff_noDeliveryWhileSpawning {config : Config}
    {actions : List (ChatEvent Message)} {w : ChatWorld Message}
    (hrun : (chat Message config).system.run actions = some w) :
    (chat Message config).system.AllSteps FindsSessionData
        (chat Message config).system.init actions <->
      (chat Message config).system.AllSteps NoDeliveryWhileSpawning
        (chat Message config).system.init actions :=
  TransitionSystem.allSteps_congr (P := Everywhere SessionTracked)
    (fun _ _ _ hw hstep => sessionTracked_step hw hstep)
    (fun _ _ _ hw hstep => findsSessionData_iff hw hstep) sessionTracked_init hrun

def firstMessage : List (ChatEvent String) :=
  [ChatEvent.sync 0 SyncTaskAction.startSyncOnce,
    ChatEvent.sync 0 (SyncTaskAction.onRoomMessage "!a:x" "hello")]

theorem findsSessionData_iff_noDeliveryWhileSpawning_after_start :
    (chat String sampleConfig).system.AllSteps FindsSessionData
      (chat String sampleConfig).system.init (sampleStart 0 ++ firstMessage) := by
  have hstart : (chat String sampleConfig).system.AllSteps NoDeliveryWhileSpawning
      (chat String sampleConfig).system.init
      (sampleStart 0 ++ [ChatEvent.sync 0 SyncTaskAction.startSyncOnce]) := by
    apply TransitionSystem.allSteps_of_forall_mem
    intro e hmem w u roomId event he
    subst he
    simp [sampleStart, sampleLogin, ChatEvent.main, ChatEvent.sync] at hmem
  apply (findsSessionData_iff_noDeliveryWhileSpawning rfl).mpr
  refine hstart.append_singleton rfl ?_
  intro u roomId event he howner hspawning
  cases he
  cases hspawning

/-- The first response arrives before `set_session_data` runs. -/
theorem message_while_spawning :
    exists w, (chat String sampleConfig).system.run
        ((sampleStart 0).take 4 ++ firstMessage) = some w ∧
      (w.memory 0).syncPhase = SyncPhase.panicked Panic.sessionDataMissing ∧
      ¬ (chat String sampleConfig).system.AllSteps FindsSessionData
        (chat String sampleConfig).system.init ((sampleStart 0).take 4 ++ firstMessage) := by
  refine ⟨_, rfl, rfl, ?_⟩
  intro hall
  have hlast := ((((hall.2 _ rfl).2 _ rfl).2 _ rfl).2 _ rfl).2 _ rfl
  cases (hlast.1.1 0 "!a:x" "hello" rfl rfl).1

end Chat
end MatrixGoose
