import Mathlib.Data.List.Perm.Subperm
import MatrixGoose.Bin.Chat.Steps

/-!
# The table of users

`on_start` pushes the user to `GOOSE_USERS`, and everything a client does later
is performed on the user at its own index of the table.  So the table is right
exactly if the users start in the order of their indices.
-/

namespace MatrixGoose

open Foundation
open Foundation.Components

namespace Chat

variable {Message : Type}

def pushed (u : Nat) : UserAction Message -> List Nat
  | UserAction.main MainAction.onStart => [u]
  | _ => []

theorem eq_of_mem_pushed {u v : Nat} {a : UserAction Message} (h : v ∈ pushed u a) :
    v = u := by
  unfold pushed at h
  split at h
  · exact List.mem_singleton.mp h
  · cases h

def pushedBy : ChatEvent Message -> List Nat
  | Event.component u a => pushed u a
  | Event.environment _ => []

def startOrder (actions : List (ChatEvent Message)) : List Nat :=
  actions.flatMap pushedBy

def InRange (_ : Nat) (_ : Shared Message) (user : ChatUser Message) : Prop :=
  user.phase ≠ Phase.panicked Panic.gooseUsersIndex ∧
    user.syncPhase ≠ SyncPhase.panicked Panic.gooseUsersIndex

/-- Nothing of a client was performed on another user, and no index was out of
range. -/
structure OwnLogs (w : ChatWorld Message) : Prop where
  requests : forall request, request ∈ w.shared.requests -> request.2 = request.1
  deliveries : forall delivery, delivery ∈ w.shared.deliveries ->
    delivery.2 = delivery.1
  inRange : Everywhere InRange w

/-- From its registration on a user stands in the table at its own index. -/
structure OwnUsers (w : ChatWorld Message) : Prop extends OwnLogs w where
  table : forall i, (w.memory i).phase.stage ≠ Stage.notStarted ->
    w.shared.gooseUsers[i]? = some i

def InOrder (order : List Nat) : Prop :=
  order = List.range order.length

/-!
# Effects on the table
-/

theorem MainStep.gooseUsers_eq {config : Config} {u : Nat}
    {shared shared' : Shared Message} {user user' : ChatUser Message} {a : MainAction}
    (hstep : MainStep config u shared user a shared' user') :
    shared'.gooseUsers =
      shared.gooseUsers ++ pushed u (UserAction.main a : UserAction Message) := by
  cases hstep with
  | onStart hphase => rfl
  | checkLeaves hphase hleave =>
      rw [afterCheck_eq]
      exact (List.append_nil _).symm
  | checkStays phase hphase hstay =>
      rw [afterCheck_eq]
      exact (List.append_nil _).symm
  | _ => exact (List.append_nil _).symm

/-- What client `u` adds to a log of requests or deliveries is performed on the
user that the table holds at `u`. -/
def LogStep (u : Nat) (shared : Shared Message) (log log' : List (Nat × Nat)) : Prop :=
  log' = log ∨ exists owner, shared.gooseUsers[u]? = some owner ∧
    log' = log ++ [(u, owner)]

theorem MainStep.logStep {config : Config} {u : Nat}
    {shared shared' : Shared Message} {user user' : ChatUser Message} {a : MainAction}
    (hstep : MainStep config u shared user a shared' user') :
    LogStep u shared shared.requests shared'.requests ∧
      LogStep u shared shared.deliveries shared'.deliveries := by
  cases hstep with
  | request owner hphase howner => exact ⟨Or.inr ⟨owner, howner, rfl⟩, Or.inl rfl⟩
  | checkLeaves hphase hleave =>
      rw [afterCheck_eq]
      exact ⟨Or.inl rfl, Or.inl rfl⟩
  | checkStays phase hphase hstay =>
      rw [afterCheck_eq]
      exact ⟨Or.inl rfl, Or.inl rfl⟩
  | _ => exact ⟨Or.inl rfl, Or.inl rfl⟩

theorem SyncStep.logStep {u : Nat} {shared shared' : Shared Message}
    {user user' : ChatUser Message} {a : SyncTaskAction Message}
    (hstep : SyncStep u shared user a shared' user') :
    LogStep u shared shared.requests shared'.requests ∧
      LogStep u shared shared.deliveries shared'.deliveries := by
  cases hstep with
  | request owner hphase howner => exact ⟨Or.inr ⟨owner, howner, rfl⟩, Or.inl rfl⟩
  | onRoomMessage roomId event owner clientData hphase howner hsession =>
      exact ⟨Or.inl rfl, Or.inr ⟨owner, howner, rfl⟩⟩
  | _ => exact ⟨Or.inl rfl, Or.inl rfl⟩

theorem SyncStep.gooseUsers_eq {u : Nat} {shared shared' : Shared Message}
    {user user' : ChatUser Message} {a : SyncTaskAction Message}
    (hstep : SyncStep u shared user a shared' user') :
    shared'.gooseUsers = shared.gooseUsers := by
  cases hstep <;> rfl

theorem SyncStep.getElem?_eq_none {u : Nat} {shared shared' : Shared Message}
    {user user' : ChatUser Message} {a : SyncTaskAction Message}
    (hstep : SyncStep u shared user a shared' user')
    (hbefore : user.syncPhase ≠ SyncPhase.panicked Panic.gooseUsersIndex)
    (hpanic : user'.syncPhase = SyncPhase.panicked Panic.gooseUsersIndex) :
    shared.gooseUsers[u]? = none := by
  cases hstep with
  | requestPanics hphase howner => exact howner
  | onRoomMessagePanics roomId event panic hphase hcause =>
      cases hpanic
      exact hcause rfl
  | request owner hphase howner => exact absurd hpanic hbefore
  | receiveRooms joinedRooms hphase => exact absurd hpanic hbefore
  | onRoomMessage roomId event owner clientData hphase howner hsession =>
      exact absurd hpanic hbefore
  | readCanceled hphase =>
      simp only at hpanic
      split at hpanic <;> cases hpanic
  | delaySync syncPhase hphase hnext => rcases hnext with rfl | rfl <;> cases hpanic
  | _ => cases hpanic

/-!
# Starting

A user is in the table from its first step on.
-/

structure Started (u : Nat) (shared : Shared Message) (user : ChatUser Message) :
    Prop where
  thread : user.phase.stage ≠ Stage.notStarted <-> u ∈ shared.gooseUsers
  sync : user.syncPhase ≠ SyncPhase.notSpawned -> u ∈ shared.gooseUsers

theorem SyncStep.started {u : Nat} {shared shared' : Shared Message}
    {user user' : ChatUser Message} {a : SyncTaskAction Message}
    (hstep : SyncStep u shared user a shared' user') (hu : Started u shared user) :
    Started u shared' user' := by
  have hmem : u ∈ shared.gooseUsers := hu.sync hstep.ne_notSpawned
  constructor
  · rw [hstep.phase_eq, hstep.gooseUsers_eq]
    exact hu.thread
  · rw [hstep.gooseUsers_eq]
    exact fun _ => hmem

theorem SyncStep.started_other {u j : Nat} {shared shared' : Shared Message}
    {user user' other : ChatUser Message} {a : SyncTaskAction Message}
    (hstep : SyncStep u shared user a shared' user') (hother : Started j shared other) :
    Started j shared' other := by
  constructor
  · rw [hstep.gooseUsers_eq]
    exact hother.thread
  · rw [hstep.gooseUsers_eq]
    exact hother.sync

theorem MainStep.started {config : Config} {u : Nat} {shared shared' : Shared Message}
    {user user' : ChatUser Message} {a : MainAction}
    (hstep : MainStep config u shared user a shared' user') (hu : Started u shared user) :
    Started u shared' user' := by
  have hmem : u ∈ shared'.gooseUsers := by
    rw [hstep.gooseUsers_eq, List.mem_append]
    by_cases hstart : a = MainAction.onStart
    · right
      rw [hstart]
      exact List.mem_singleton.mpr rfl
    · left
      apply hu.thread.mp
      intro hstage
      exact hstart (hstep.stageStep.eq_notStarted_iff.mp hstage)
  exact ⟨⟨fun _ => hmem, fun _ => hstep.stageStep.ne_notStarted⟩, fun _ => hmem⟩

theorem MainStep.started_other {config : Config} {u j : Nat}
    {shared shared' : Shared Message} {user user' other : ChatUser Message}
    {a : MainAction} (hstep : MainStep config u shared user a shared' user')
    (hj : j ≠ u) (hother : Started j shared other) : Started j shared' other := by
  have hmem : j ∈ shared'.gooseUsers <-> j ∈ shared.gooseUsers := by
    rw [hstep.gooseUsers_eq, List.mem_append]
    constructor
    · intro h
      rcases h with h | h
      · exact h
      · exact absurd (eq_of_mem_pushed h) hj
    · exact Or.inl
  constructor
  · rw [hmem]
    exact hother.thread
  · rw [hmem]
    exact hother.sync

theorem started_step {config : Config} {w w' : ChatWorld Message}
    {e : ChatEvent Message} (hw : Everywhere Started w)
    (hstep : (chat Message config).worldStep w e = some w') :
    Everywhere Started w' ∧
      w'.shared.gooseUsers = w.shared.gooseUsers ++ pushedBy e := by
  cases e with
  | environment duration =>
      constructor
      · refine everywhere_environment hw hstep ?_
        intro shared i hshared hi
        cases hshared
        exact ⟨hi.thread, hi.sync⟩
      · rcases worldStep_environment_eq_some.mp hstep with ⟨shared, hshared, rfl⟩
        cases hshared
        exact (List.append_nil _).symm
  | component u a =>
      cases a with
      | sync a =>
          constructor
          · refine everywhere_component hw hstep ?_ ?_
            · intro shared user hlocal hu
              exact (syncStep_of_eq_some hlocal).started hu
            · intro shared user j hlocal hj hother
              exact (syncStep_of_eq_some hlocal).started_other hother
          · rcases worldStep_component_eq_some.mp hstep with ⟨shared, user, hlocal, rfl⟩
            show shared.gooseUsers = _
            rw [(syncStep_of_eq_some hlocal).gooseUsers_eq]
            exact (List.append_nil _).symm
      | main a =>
          constructor
          · refine everywhere_component hw hstep ?_ ?_
            · intro shared user hlocal hu
              exact (mainStep_of_eq_some hlocal).started hu
            · intro shared user j hlocal hj hother
              exact (mainStep_of_eq_some hlocal).started_other hj hother
          · rcases worldStep_component_eq_some.mp hstep with ⟨shared, user, hlocal, rfl⟩
            exact (mainStep_of_eq_some hlocal).gooseUsers_eq

/-!
# Orders
-/

theorem InOrder.of_append {order rest : List Nat} (h : InOrder (order ++ rest)) :
    InOrder order := by
  have htake := congrArg (List.take order.length) h
  rw [List.take_left, List.take_range, List.length_append, Nat.min_def,
    if_pos (Nat.le_add_right _ _)] at htake
  exact htake

theorem InOrder.eq_of_getElem? {order : List Nat} (h : InOrder order) {i j : Nat}
    (hget : order[i]? = some j) : j = i := by
  have hlt : i < order.length := (List.getElem?_eq_some_iff.mp hget).1
  rw [h, List.getElem?_range hlt] at hget
  exact (Option.some.inj hget).symm

theorem InOrder.getElem?_eq {order : List Nat} (h : InOrder order) {i : Nat}
    (hmem : i ∈ order) : order[i]? = some i := by
  have hlt : i < order.length := by
    rw [h, List.mem_range] at hmem
    exact hmem
  rw [List.getElem?_eq_getElem hlt]
  exact congrArg some (h.eq_of_getElem? (List.getElem?_eq_getElem hlt))

theorem inOrder_of_getElem? {order : List Nat} (hnodup : order.Nodup)
    (hown : forall i, i ∈ order -> order[i]? = some i) : InOrder order := by
  have hsubset : order ⊆ List.range order.length := by
    intro i hi
    exact List.mem_range.mpr (List.getElem?_eq_some_iff.mp (hown i hi)).1
  have hperm : List.Perm order (List.range order.length) :=
    (hnodup.subperm hsubset).perm_of_length_le (List.length_range ▸ Nat.le_refl _)
  apply List.ext_getElem?
  intro i
  by_cases hi : i < order.length
  · rw [hown i (hperm.mem_iff.mpr (List.mem_range.mpr hi)), List.getElem?_range hi]
  · have hle : order.length <= i := Nat.le_of_not_lt hi
    rw [List.getElem?_eq_none hle, List.getElem?_eq_none (by rw [List.length_range]; exact hle)]

/-!
# Runs
-/

theorem LogStep.own {u : Nat} {shared : Shared Message} {log log' : List (Nat × Nat)}
    (hstep : LogStep u shared log log') (horder : InOrder shared.gooseUsers)
    (hlog : forall entry, entry ∈ log -> entry.2 = entry.1) :
    forall entry, entry ∈ log' -> entry.2 = entry.1 := by
  intro entry hentry
  rcases hstep with heq | ⟨owner, howner, heq⟩
  · rw [heq] at hentry
    exact hlog entry hentry
  · rw [heq, List.mem_append, List.mem_singleton] at hentry
    rcases hentry with hentry | hentry
    · exact hlog entry hentry
    · rw [hentry]
      exact horder.eq_of_getElem? howner

theorem ownLogs_step {config : Config} {w w' : ChatWorld Message}
    {e : ChatEvent Message} (hown : OwnLogs w) (hstarted : Everywhere Started w)
    (horder : InOrder w.shared.gooseUsers)
    (hstep : (chat Message config).worldStep w e = some w') : OwnLogs w' := by
  have hlookup : forall i, i ∈ w.shared.gooseUsers -> w.shared.gooseUsers[i]? ≠ none := by
    intro i hi
    rw [horder.getElem?_eq hi]
    nofun
  cases e with
  | environment duration =>
      have hinRange : Everywhere InRange w' :=
        everywhere_environment hown.inRange hstep fun _ _ _ hi => hi
      rcases worldStep_environment_eq_some.mp hstep with ⟨shared, hshared, rfl⟩
      cases hshared
      exact ⟨hown.requests, hown.deliveries, hinRange⟩
  | component u a =>
      cases a with
      | sync a =>
          have hinRange : Everywhere InRange w' := by
            refine everywhere_component hown.inRange hstep ?_ fun _ _ _ _ _ hj => hj
            intro shared user hlocal hu
            have hsync := syncStep_of_eq_some hlocal
            constructor
            · rw [hsync.phase_eq]
              exact hu.1
            · intro hpanic
              exact hlookup u ((hstarted u).sync hsync.ne_notSpawned)
                (hsync.getElem?_eq_none hu.2 hpanic)
          rcases worldStep_component_eq_some.mp hstep with ⟨shared, user, hlocal, rfl⟩
          have hlogs := (syncStep_of_eq_some hlocal).logStep
          exact ⟨hlogs.1.own horder hown.requests, hlogs.2.own horder hown.deliveries,
            hinRange⟩
      | main a =>
          have hinRange : Everywhere InRange w' := by
            refine everywhere_component hown.inRange hstep ?_ fun _ _ _ _ _ hj => hj
            intro shared user hlocal hu
            have hmain := mainStep_of_eq_some hlocal
            constructor
            · intro hpanic
              have hcause := hmain.panicCause hpanic
              generalize hp : Panic.gooseUsersIndex = panic at hcause
              cases hcause with
              | task draw panic hphase hstart =>
                  have hkeeps := keepsSession_runTask
                    (viewOf config u w.shared (w.memory u)) draw
                  rw [hstart, ← hp] at hkeeps
                  exact hkeeps rfl
              | table howner =>
                  refine hlookup u ((hstarted u).thread.mp ?_) howner
                  intro hstage
                  cases hmain.stageStep.eq_notStarted_iff.mp hstage
              | other a panic hother =>
                  rw [← hp] at hother
                  simp at hother
            · rcases hmain.syncPhase_eq_or with hsync | ⟨_, hsync⟩
              · rw [hsync]
                exact hu.2
              · rw [hsync]
                nofun
          rcases worldStep_component_eq_some.mp hstep with ⟨shared, user, hlocal, rfl⟩
          have hlogs := (mainStep_of_eq_some hlocal).logStep
          exact ⟨hlogs.1.own horder hown.requests, hlogs.2.own horder hown.deliveries,
            hinRange⟩

structure Tracked (before : List (ChatEvent Message)) (w : ChatWorld Message) :
    Prop where
  table : w.shared.gooseUsers = startOrder before
  nodup : (startOrder before).Nodup
  started : Everywhere Started w
  own : InOrder (startOrder before) -> OwnLogs w

theorem startOrder_append (first second : List (ChatEvent Message)) :
    startOrder (first ++ second) = startOrder first ++ startOrder second :=
  List.flatMap_append

theorem not_mem_of_pushedBy {config : Config} {w w' : ChatWorld Message}
    {e : ChatEvent Message} (hw : Everywhere Started w)
    (hstep : (chat Message config).worldStep w e = some w') {u : Nat}
    (hu : u ∈ pushedBy e) : u ∉ w.shared.gooseUsers := by
  cases e with
  | environment duration => cases hu
  | component v a =>
      have huv : u = v := eq_of_mem_pushed hu
      subst huv
      cases a with
      | sync a => cases hu
      | main a =>
          rcases worldStep_component_eq_some.mp hstep with ⟨shared, user, hlocal, _⟩
          have hmain := mainStep_of_eq_some hlocal
          have hstart : a = MainAction.onStart := by
            cases a with
            | onStart => rfl
            | _ => cases hu
          intro hmem
          exact (hw u).thread.mpr hmem (hmain.stageStep.eq_notStarted_iff.mpr hstart)

theorem tracked_step {config : Config} {before : List (ChatEvent Message)}
    {w w' : ChatWorld Message} {e : ChatEvent Message} (hw : Tracked before w)
    (hstep : (chat Message config).worldStep w e = some w') :
    Tracked (before ++ [e]) w' := by
  have horder : startOrder (before ++ [e]) = startOrder before ++ pushedBy e := by
    rw [startOrder_append]
    exact congrArg (startOrder before ++ ·) (List.append_nil _)
  rcases started_step hw.started hstep with ⟨hstarted, htable⟩
  constructor
  · rw [htable, horder, hw.table]
  · rw [horder, List.nodup_append']
    refine ⟨hw.nodup, ?_, ?_⟩
    · cases e with
      | environment duration => exact List.nodup_nil
      | component u a =>
          show (pushed u a).Nodup
          unfold pushed
          split
          · exact List.nodup_singleton u
          · exact List.nodup_nil
    · intro u hbefore hpushed
      rw [← hw.table] at hbefore
      exact not_mem_of_pushedBy hw.started hstep hpushed hbefore
  · exact hstarted
  · intro hall
    rw [horder] at hall
    have hbefore := hall.of_append
    apply ownLogs_step (hw.own hbefore) hw.started _ hstep
    rw [hw.table]
    exact hbefore

theorem tracked_run {config : Config} {actions : List (ChatEvent Message)}
    {w : ChatWorld Message} (hrun : (chat Message config).system.run actions = some w) :
    Tracked actions w := by
  refine TransitionSystem.invariant_run_history ?_
    (fun _ _ _ _ hw hstep => tracked_step hw hstep) hrun
  constructor
  · rfl
  · exact List.nodup_nil
  · intro u
    exact ⟨⟨fun h => absurd rfl h, nofun⟩, fun h => absurd rfl h⟩
  · intro _
    exact ⟨nofun, nofun, fun u => ⟨nofun, nofun⟩⟩

/-- In a run every user is found at its own index, and everything of a client is
performed on its own user, exactly if the users start in the order of their
indices. -/
theorem ownUsers_iff_startOrder {config : Config} {actions : List (ChatEvent Message)}
    {w : ChatWorld Message} (hrun : (chat Message config).system.run actions = some w) :
    (chat Message config).system.AllStates OwnUsers (chat Message config).system.init
        actions <->
      startOrder actions = List.range (startOrder actions).length := by
  rw [TransitionSystem.allStates_iff]
  constructor
  · intro hall
    have hfinal : OwnUsers w :=
      hall actions [] w (List.append_nil actions).symm hrun
    have htracked := tracked_run hrun
    apply inOrder_of_getElem? htracked.nodup
    intro i hi
    rw [← htracked.table] at hi ⊢
    exact hfinal.table i ((htracked.started i).thread.mpr hi)
  · intro horder before after mid hsplit hmid
    have htracked := tracked_run hmid
    have hbefore : InOrder (startOrder before) := by
      rw [hsplit, startOrder_append] at horder
      exact InOrder.of_append horder
    refine ⟨htracked.own hbefore, ?_⟩
    intro i hi
    rw [htracked.table]
    apply hbefore.getElem?_eq
    rw [← htracked.table]
    exact (htracked.started i).thread.mp hi

def sampleDelivery (u : Nat) : List (ChatEvent String) :=
  [ChatEvent.sync u SyncTaskAction.startSyncOnce,
    ChatEvent.sync u SyncTaskAction.request,
    ChatEvent.sync u (SyncTaskAction.onRoomMessage "!a:x" "hello")]

/-- Both users register before either of them goes on. -/
def twoUsers (first second : Nat) : List (ChatEvent String) :=
  [ChatEvent.main first MainAction.onStart, ChatEvent.main second MainAction.onStart] ++
    sampleLogin first ++ sampleLogin second ++ sampleDelivery 1

theorem ownUsers_iff_startOrder_two_users :
    (chat String sampleConfig).system.AllStates OwnUsers
      (chat String sampleConfig).system.init (twoUsers 0 1) :=
  (@ownUsers_iff_startOrder String sampleConfig (twoUsers 0 1) _ rfl).mpr rfl

/-- User 1 registers first: its requests are performed on user 0, which also gets
its messages; if it goes on before user 0 registers, it panics. -/
theorem user_one_before_user_zero :
    (exists w, (chat String sampleConfig).system.run (twoUsers 1 0) = some w ∧
      w.shared.gooseUsers = [1, 0] ∧
      w.shared.requests = [(1, 0), (0, 1), (1, 0)] ∧
      w.shared.deliveries = [(1, 0)] ∧
      ¬ OwnUsers w) ∧
    exists w, (chat String sampleConfig).system.run
        ([ChatEvent.main 1 MainAction.onStart] ++ sampleLogin 1) = none ∧
      (chat String sampleConfig).system.run
        ([ChatEvent.main 1 MainAction.onStart] ++ (sampleLogin 1).take 2) = some w ∧
      (w.memory 1).phase = Phase.panicked Panic.gooseUsersIndex := by
  refine ⟨⟨_, rfl, rfl, rfl, rfl, ?_⟩, _, rfl, rfl, rfl⟩
  intro hown
  have htable := hown.deliveries (1, 0) (List.mem_singleton.mpr rfl)
  cases htable

end Chat
end MatrixGoose
