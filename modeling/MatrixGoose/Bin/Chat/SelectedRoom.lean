import MatrixGoose.Bin.Chat.SessionData

/-!
# The selected room

`paginate_room` selects a joined room, and `send_text` later looks it up among the
joined rooms without a check.  In between every sync response may move the room, so
the lookup is safe exactly as long as no response takes a selected room away.
-/

namespace MatrixGoose

open Foundation
open Foundation.Components

namespace Chat

open EventHandler
open Lib

variable {Message : Type}

def SelectedRoomJoined (u : Nat) (shared : Shared Message) (user : ChatUser Message) :
    Prop :=
  forall clientData roomId, shared.sessions u = some clientData ->
    clientData.roomId = some roomId ->
    exists client, user.client = some client ∧
      client.getJoinedRoom roomId = some roomId

/-- No user has selected a room that `send_text` would not find, and none has
panicked on one. -/
structure SendTextUsable (w : ChatWorld Message) : Prop where
  joined : Everywhere SelectedRoomJoined w
  noPanic : forall u, (w.memory u).phase ≠ Phase.panicked Panic.joinedRoomMissing

/-- A sync response leaves the room that the user has selected among the joined
rooms. -/
def KeepsSelectedRoom (w : ChatWorld Message) (e : ChatEvent Message) : Prop :=
  forall u joinedRooms, e = ChatEvent.sync u (SyncTaskAction.receiveRooms joinedRooms) ->
    forall clientData roomId, w.shared.sessions u = some clientData ->
      clientData.roomId = some roomId -> roomId ∈ joinedRooms

/-!
# What a step does to a selection
-/

def KeepsSelection (session session' : Option (ClientData Message)) : Prop :=
  forall clientData', session' = some clientData' ->
    clientData'.roomId = none ∨
      exists clientData, session = some clientData ∧
        clientData.roomId = clientData'.roomId

theorem KeepsSelection.refl (session : Option (ClientData Message)) :
    KeepsSelection session session := by
  intro clientData hsession
  exact Or.inr ⟨clientData, hsession, rfl⟩

theorem keepsSelection_update {sessions : Nat -> Option (ClientData Message)} {u : Nat}
    {session : Option (ClientData Message)}
    (h : KeepsSelection (sessions u) session) (v : Nat) :
    KeepsSelection (sessions v) (Function.update sessions u session v) := by
  by_cases hv : v = u
  · subst hv
    rw [Function.update_self]
    exact h
  · rw [Function.update_of_ne hv]
    exact KeepsSelection.refl _

theorem keepsSelection_callDone (session : Option (ClientData Message))
    (request : Request Message) (token : Option String) :
    KeepsSelection session (callDone session request token) := by
  unfold callDone
  split
  · intro clientData' hsession
    rcases Option.map_eq_some_iff.mp hsession with ⟨clientData, hbefore, rfl⟩
    exact Or.inr ⟨clientData, hbefore, rfl⟩
  · exact KeepsSelection.refl session

theorem SyncStep.keepsSelection {u : Nat} {shared shared' : Shared Message}
    {user user' : ChatUser Message} {a : SyncTaskAction Message}
    (hstep : SyncStep u shared user a shared' user') (v : Nat) :
    KeepsSelection (shared.sessions v) (shared'.sessions v) := by
  cases hstep with
  | onRoomMessage roomId event owner clientData hphase howner hsession =>
      apply keepsSelection_update
      intro clientData' hafter
      cases hafter
      exact Or.inr ⟨clientData, hsession, rfl⟩
  | _ => exact KeepsSelection.refl _

theorem MainStep.selects {config : Config} {u : Nat}
    {shared shared' : Shared Message} {user user' : ChatUser Message} {a : MainAction}
    (hstep : MainStep config u shared user a shared' user') :
    (forall v, KeepsSelection (shared.sessions v) (shared'.sessions v)) ∨
      exists client clientData' roomId, user'.client = some client ∧
        roomId ∈ client.joinedRooms ∧ clientData'.roomId = some roomId ∧
        shared'.sessions = Function.update shared.sessions u (some clientData') := by
  cases hstep with
  | setSessionData hphase =>
      left
      apply keepsSelection_update
      intro clientData' hafter
      cases hafter
      exact Or.inl rfl
  | startTask draw start hphase hstart =>
      cases taskRuns_of_runTask hstart with
      | paginateRoom client clientData roomId hclient hsession hjoined =>
          exact Or.inr ⟨client, _, roomId, hclient, hjoined, rfl, rfl⟩
      | _ => exact Or.inl (keepsSelection_update (KeepsSelection.refl _))
  | callDone request pending token hphase =>
      exact Or.inl (keepsSelection_update (keepsSelection_callDone _ request token))
  | checkLeaves hphase hleave =>
      left
      intro v
      rw [afterCheck_eq]
      exact KeepsSelection.refl _
  | checkStays phase hphase hstay =>
      left
      intro v
      rw [afterCheck_eq]
      exact KeepsSelection.refl _
  | _ => exact Or.inl fun v => KeepsSelection.refl _

def ChatUser.joinedRooms (user : ChatUser Message) : Option (List RoomId) :=
  user.client.map Client.joinedRooms

theorem MainStep.joinedRooms_eq {config : Config} {u : Nat}
    {shared shared' : Shared Message} {user user' : ChatUser Message} {a : MainAction}
    (hstep : MainStep config u shared user a shared' user')
    (hstage : user.phase.stage ≠ Stage.newClient) :
    user'.joinedRooms = user.joinedRooms := by
  cases hstep with
  | newClient hphase =>
      rw [hphase] at hstage
      exact absurd rfl hstage
  | loggedIn retries id hphase =>
      show (user.client.map _).map _ = user.client.map _
      rw [Option.map_map]
      rfl
  | _ => rfl

theorem SyncStep.joinedRooms_eq {u : Nat} {shared shared' : Shared Message}
    {user user' : ChatUser Message} {a : SyncTaskAction Message}
    (hstep : SyncStep u shared user a shared' user')
    (hrooms : forall joinedRooms, a ≠ SyncTaskAction.receiveRooms joinedRooms) :
    user'.joinedRooms = user.joinedRooms := by
  cases hstep with
  | receiveRooms joinedRooms hphase => exact absurd rfl (hrooms joinedRooms)
  | _ => rfl

/-!
# The invariant
-/

theorem exists_getJoinedRoom_iff {user : ChatUser Message} {roomId : RoomId} :
    (exists client, user.client = some client ∧
        client.getJoinedRoom roomId = some roomId) <->
      exists joinedRooms, user.joinedRooms = some joinedRooms ∧ roomId ∈ joinedRooms := by
  constructor
  · intro h
    rcases h with ⟨client, hclient, hjoined⟩
    refine ⟨client.joinedRooms, ?_, (getJoinedRoom_eq hjoined).2⟩
    rw [ChatUser.joinedRooms, hclient]
    rfl
  · intro h
    rcases h with ⟨joinedRooms, hrooms, hmem⟩
    rcases Option.map_eq_some_iff.mp hrooms with ⟨client, hclient, heq⟩
    subst heq
    refine ⟨client, hclient, ?_⟩
    rw [Client.getJoinedRoom, if_pos hmem]

theorem SelectedRoomJoined.congr {u : Nat} {shared shared' : Shared Message}
    {user user' : ChatUser Message} (hu : SelectedRoomJoined u shared user)
    (hselection : KeepsSelection (shared.sessions u) (shared'.sessions u))
    (hrooms : user'.joinedRooms = user.joinedRooms) :
    SelectedRoomJoined u shared' user' := by
  intro clientData' roomId hsession hroom
  rw [exists_getJoinedRoom_iff, hrooms, ← exists_getJoinedRoom_iff]
  rcases hselection clientData' hsession with hnone | ⟨clientData, hbefore, hsame⟩
  · rw [hnone] at hroom
    cases hroom
  · exact hu clientData roomId hbefore (hsame.trans hroom)

theorem selectedRoomJoined_mainStep {config : Config} {u : Nat}
    {shared shared' : Shared Message} {user user' : ChatUser Message} {a : MainAction}
    (hsession : SessionTracked u shared user) (hu : SelectedRoomJoined u shared user)
    (hstep : MainStep config u shared user a shared' user') :
    SelectedRoomJoined u shared' user' := by
  rcases hstep.selects with hkeeps | ⟨client, clientData', roomId, hclient, hmem, hroom,
    hsessions⟩
  · by_cases hstage : user.phase.stage = Stage.newClient
    · -- A new client has no rooms, but there is no session data yet.
      intro clientData' roomId hafter hroom
      rcases hkeeps u clientData' hafter with hnone | ⟨clientData, hbefore, _⟩
      · rw [hnone] at hroom
        cases hroom
      · have hinstalled := hsession.installed (by rw [hbefore]; rfl)
        rw [hstage] at hinstalled
        rcases hinstalled with h | h <;> cases h
    · exact hu.congr (hkeeps u) (hstep.joinedRooms_eq hstage)
  · intro found roomId' hafter hroom'
    rw [hsessions, Function.update_self] at hafter
    cases hafter
    rw [hroom] at hroom'
    cases hroom'
    refine ⟨client, hclient, ?_⟩
    rw [Client.getJoinedRoom, if_pos hmem]

theorem MainStep.phase_ne_joinedRoomMissing {config : Config} {u : Nat}
    {shared shared' : Shared Message} {user user' : ChatUser Message} {a : MainAction}
    (hu : SelectedRoomJoined u shared user)
    (hstep : MainStep config u shared user a shared' user') :
    user'.phase ≠ Phase.panicked Panic.joinedRoomMissing := by
  intro hpanic
  cases hstep.panicCause hpanic with
  | task draw panic hphase hstart =>
      cases taskPanics_of_runTask hstart with
      | missing panic hmissing => cases hmissing
      | selectedRoom client clientData roomId hclient hsession hroom hleft =>
          rcases hu clientData roomId hsession hroom with ⟨found, hfound, hjoined⟩
          cases hclient.symm.trans hfound
          exact hleft (getJoinedRoom_eq hjoined).2
  | other a panic hother => simp at hother

theorem sendTextUsable_step_iff {config : Config} {w w' : ChatWorld Message}
    {e : ChatEvent Message} (hsession : Everywhere SessionTracked w)
    (hw : SendTextUsable w)
    (hstep : (chat Message config).worldStep w e = some w') :
    SendTextUsable w' <-> KeepsSelectedRoom w e := by
  constructor
  · intro hafter u joinedRooms he clientData roomId hsession hroom
    subst he
    have hsync := syncStep_of_worldStep hstep
    have hjoined := hafter.joined u
    generalize w'.shared = shared at hsync hjoined
    generalize w'.memory u = user at hsync hjoined
    cases hsync with
    | receiveRooms joinedRooms hphase =>
        rcases hjoined clientData roomId hsession hroom with ⟨client', hclient', hfound⟩
        rcases Option.map_eq_some_iff.mp hclient' with ⟨client, hclient, heq⟩
        subst heq
        exact (getJoinedRoom_eq hfound).2
  · intro hkeeps
    constructor
    · have hboth : Everywhere (fun u shared user =>
          SessionTracked u shared user ∧ SelectedRoomJoined u shared user) w :=
        fun u => ⟨hsession u, hw.joined u⟩
      refine everywhere_chatStep hboth hstep ?htime ?hmain ?hmainOther ?hsync ?hsyncOther
      case htime =>
        intro duration u _ hu
        exact hu.2.congr (KeepsSelection.refl _) rfl
      case hmain =>
        intro u a shared user _ hmain hu
        exact selectedRoomJoined_mainStep hu.1 hu.2 hmain
      case hmainOther =>
        intro u a shared user v _ hmain hv hother
        refine hother.2.congr ?_ rfl
        rcases hmain.selects with hkeeps | ⟨_, _, _, _, _, _, hsessions⟩
        · exact hkeeps v
        · rw [hsessions, Function.update_of_ne hv]
          exact KeepsSelection.refl _
      case hsync =>
        intro u a shared user he hsync hu
        by_cases hrooms : exists joinedRooms, a = SyncTaskAction.receiveRooms joinedRooms
        · rcases hrooms with ⟨joinedRooms, rfl⟩
          cases hsync with
          | receiveRooms joinedRooms hphase =>
              intro clientData roomId hsession hroom
              rcases hu.2 clientData roomId hsession hroom with ⟨client, hclient, _⟩
              refine ⟨{ client with joinedRooms }, ?_, ?_⟩
              · show (w.memory u).client.map _ = _
                rw [hclient]
                rfl
              · exact if_pos (hkeeps u joinedRooms he clientData roomId hsession hroom)
        · exact hu.2.congr (hsync.keepsSelection u)
            (hsync.joinedRooms_eq fun joinedRooms ha => hrooms ⟨joinedRooms, ha⟩)
      case hsyncOther =>
        intro u a shared user v _ hsync hv hother
        exact hother.2.congr (hsync.keepsSelection v) rfl
    · intro v
      rcases memory_eq_or hstep v with hsame | ⟨a, he, hlocal⟩
      · rw [hsame]
        exact hw.noPanic v
      · cases a with
        | main a =>
            exact (mainStep_of_eq_some hlocal).phase_ne_joinedRoomMissing (hw.joined v)
        | sync a =>
            rw [(syncStep_of_eq_some hlocal).phase_eq]
            exact hw.noPanic v

/-- In a run the selected rooms stay usable exactly if no sync response takes one
away. -/
theorem sendTextUsable_iff_keepsSelectedRoom {config : Config}
    {actions : List (ChatEvent Message)} {w : ChatWorld Message}
    (hrun : (chat Message config).system.run actions = some w) :
    (chat Message config).system.AllStates SendTextUsable
        (chat Message config).system.init actions <->
      (chat Message config).system.AllSteps KeepsSelectedRoom
        (chat Message config).system.init actions := by
  refine TransitionSystem.allStates_iff_allSteps (I := Everywhere SessionTracked)
    (fun _ _ _ hw hstep => sessionTracked_step hw hstep)
    (fun _ _ _ hsession hw hstep => sendTextUsable_step_iff hsession hw hstep)
    sessionTracked_init ?_ hrun
  constructor
  · intro u clientData roomId hsession
    cases hsession
  · intro u hpanic
    cases hpanic

def selectRoom : List (ChatEvent String) :=
  sampleStart 0 ++
    [ChatEvent.sync 0 SyncTaskAction.startSyncOnce,
      ChatEvent.sync 0 (SyncTaskAction.receiveRooms ["!a:x"]),
      ChatEvent.main 0 MainAction.enterScheduler,
      ChatEvent.main 0 (MainAction.checkCanceled 1),
      ChatEvent.main 0 (MainAction.checkCanceled 1),
      ChatEvent.main 0 (MainAction.startTask ⟨3, 0, 0, 0⟩)]

theorem keepsSelectedRoom_of_forall {actions : List (ChatEvent String)}
    (hall : forall u joinedRooms,
      ChatEvent.sync u (SyncTaskAction.receiveRooms joinedRooms) ∉ actions)
    (w : ChatWorld String) :
    (chat String sampleConfig).system.AllSteps KeepsSelectedRoom w actions := by
  apply TransitionSystem.allSteps_of_forall_mem
  intro e hmem w u joinedRooms he
  subst he
  exact absurd hmem (hall u joinedRooms)

theorem sendTextUsable_iff_keepsSelectedRoom_second_response :
    (chat String sampleConfig).system.AllStates SendTextUsable
      (chat String sampleConfig).system.init
      (selectRoom ++ [ChatEvent.sync 0 (SyncTaskAction.receiveRooms ["!b:x", "!a:x"])]) := by
  have hstart : (chat String sampleConfig).system.AllSteps KeepsSelectedRoom
      (chat String sampleConfig).system.init
      (sampleStart 0 ++ [ChatEvent.sync 0 SyncTaskAction.startSyncOnce]) := by
    apply keepsSelectedRoom_of_forall
    intro u joinedRooms hmem
    simp [sampleStart, sampleLogin, ChatEvent.main, ChatEvent.sync] at hmem
  have hfirst : (chat String sampleConfig).system.AllSteps KeepsSelectedRoom
      (chat String sampleConfig).system.init
      (sampleStart 0 ++ [ChatEvent.sync 0 SyncTaskAction.startSyncOnce] ++
        [ChatEvent.sync 0 (SyncTaskAction.receiveRooms ["!a:x"])]) := by
    refine hstart.append_singleton rfl ?_
    intro u joinedRooms he clientData roomId hsession hroom
    cases he
    cases hsession
    cases hroom
  have hselect : (chat String sampleConfig).system.AllSteps KeepsSelectedRoom
      (chat String sampleConfig).system.init selectRoom := by
    refine hfirst.append rfl (keepsSelectedRoom_of_forall ?_ _)
    intro u joinedRooms hmem
    simp [ChatEvent.main, ChatEvent.sync] at hmem
  apply (sendTextUsable_iff_keepsSelectedRoom rfl).mpr
  refine hselect.append_singleton rfl ?_
  intro u joinedRooms he clientData roomId hsession hroom
  cases he
  cases hsession
  cases hroom
  exact List.mem_cons_of_mem _ List.mem_cons_self

/-- The user is removed from the selected room, and the next `send_text` panics. -/
theorem send_text_after_leaving :
    exists w, (chat String sampleConfig).system.run
        (selectRoom ++
          [ChatEvent.sync 0 (SyncTaskAction.receiveRooms []),
            ChatEvent.main 0 (MainAction.callDone none),
            Event.environment second,
            ChatEvent.main 0 (MainAction.sleep SleepAction.test),
            ChatEvent.main 0 (MainAction.checkCanceled 1),
            ChatEvent.main 0 (MainAction.startTask ⟨1, 0, 0, 0⟩)]) = some w ∧
      (w.memory 0).phase = Phase.panicked Panic.joinedRoomMissing ∧
      ¬ SendTextUsable w := by
  refine ⟨_, rfl, rfl, ?_⟩
  intro husable
  exact husable.noPanic 0 rfl

end Chat
end MatrixGoose
