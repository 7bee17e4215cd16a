import MatrixGoose.Bin.Chat.Steps

/-!
# After cancellation

Once the flag is set it stays set, and each loop gets at most one more thing
done: what it had already checked the flag for, and the first round of a sync
task, which comes before any check.
-/

namespace MatrixGoose

open Foundation
open Foundation.Components

namespace Chat

open Lib

variable {Message : Type}

/-!
# What is left to a loop
-/

def startsTask (_ : ChatUser Message) : UserAction Message -> Bool
  | UserAction.main (MainAction.startTask _) => true
  | _ => false

/-- The scheduler actions a thread can still start once the flag is set: one if
its check is behind it. -/
def tasksLeft (user : ChatUser Message) : Nat :=
  match user.phase with
  | Phase.draw => 1
  | _ => 0

def startsSyncOnce (_ : ChatUser Message) : UserAction Message -> Bool
  | UserAction.sync SyncTaskAction.startSyncOnce => true
  | _ => false

/-- The rounds a sync task can still start: none if it has yet to read the flag in
the round it is in. -/
def syncsLeft (user : ChatUser Message) : Nat :=
  match user.syncPhase with
  | SyncPhase.syncOnce => 0
  | SyncPhase.readCanceled => 0
  | SyncPhase.finished => 0
  | SyncPhase.panicked _ => 0
  | _ => 1

/-- The slice begun belongs to a sleep with `allow_cancel`. -/
def beginsSlice (user : ChatUser Message) : UserAction Message -> Bool
  | UserAction.main (MainAction.sleep a) =>
      match user.phase with
      | Phase.sleep sleep _ => sleep.beginsCancellable a
      | _ => false
  | _ => false

def slicesLeft (user : ChatUser Message) : Nat :=
  match user.phase with
  | Phase.sleep sleep _ => sleep.slicesLeft
  | _ => 0

/-!
# Phases with nothing left
-/

/-- A phase from which neither a task nor a slice begins without a check. -/
def Phase.Checks (phase : Phase Message) : Prop :=
  phase ≠ Phase.draw ∧
    forall sleep continuation, phase = Phase.sleep sleep continuation ->
      sleep.slicesLeft = 0

theorem tasksLeft_of_checks {user : ChatUser Message} (h : user.phase.Checks) :
    tasksLeft user = 0 := by
  unfold tasksLeft
  split
  · next hphase => exact absurd hphase h.1
  · rfl

theorem slicesLeft_of_checks {user : ChatUser Message} (h : user.phase.Checks) :
    slicesLeft user = 0 := by
  unfold slicesLeft
  split
  · next sleep continuation hphase => exact h.2 sleep continuation hphase
  · rfl

theorem checks_of_stage {phase : Phase Message} (h : phase.stage ≠ Stage.transactions) :
    phase.Checks := by
  constructor
  · intro hphase
    rw [hphase] at h
    exact h rfl
  · intro sleep continuation hphase
    rw [hphase] at h
    exact absurd rfl h

theorem checks_proceed (now : Nat) (pending : List (Pending Message)) :
    (proceed now pending).Checks := by
  rcases proceed_cases now pending with h | ⟨request, rest, h⟩ | ⟨delay, rest, h⟩
  · rw [h]
    exact ⟨nofun, nofun⟩
  · rw [h]
    exact ⟨nofun, nofun⟩
  · rw [h]
    refine ⟨nofun, ?_⟩
    intro sleep continuation hphase
    cases hphase
    exact TaskSleep.slicesLeft_new now delay true

theorem checks_resume (now : Nat) (continuation : Continuation Message) :
    (resume now continuation).Checks := by
  cases continuation with
  | task pending => exact checks_proceed now pending
  | stopLoop => exact ⟨nofun, nofun⟩

/-- With the flag set, every step of a thread other than those of a sleep leads to
a phase with a check ahead. -/
theorem MainStep.checks {config : Config} {u : Nat}
    {shared shared' : Shared Message} {user user' : ChatUser Message} {a : MainAction}
    (hstep : MainStep config u shared user a shared' user')
    (hcanceled : shared.canceled = true) (hsleep : forall b, a ≠ MainAction.sleep b) :
    user'.phase.Checks := by
  cases hstep with
  | newClient hphase =>
      apply checks_of_stage
      simp only
      split <;> nofun
  | loginFailed retries hphase =>
      simp only
      split <;> exact ⟨nofun, nofun⟩
  | enterScheduler phase hphase hnext =>
      rcases hnext with rfl | rfl <;> exact ⟨nofun, nofun⟩
  | checkStays phase hphase hstay =>
      rw [hcanceled] at hstay
      cases hstay
  | startTask draw start hphase hstart => exact checks_proceed _ _
  | request owner hphase howner =>
      rcases hphase with ⟨_, hphase⟩ | ⟨_, _, hphase⟩ <;> rw [hphase] <;>
        exact ⟨nofun, nofun⟩
  | callDone request pending token hphase => exact checks_proceed _ _
  | sleep sleep continuation a canceled outcome hphase hsleepStep =>
      exact absurd rfl (hsleep a)
  | enterOnStop hphase =>
      simp only
      split <;> exact ⟨nofun, nofun⟩
  | stopReadCanceled hphase =>
      simp only
      split <;> exact ⟨nofun, nofun⟩
  | stopPoll hphase =>
      simp only
      split
      · exact ⟨nofun, nofun⟩
      · refine ⟨nofun, ?_⟩
        intro sleep continuation hphase
        cases hphase
        exact TaskSleep.slicesLeft_new _ _ _
  | _ => exact ⟨nofun, nofun⟩

/-!
# Each step pays
-/

theorem MainStep.tasks_add_le {config : Config} {u : Nat}
    {shared shared' : Shared Message} {user user' : ChatUser Message} {a : MainAction}
    (hstep : MainStep config u shared user a shared' user')
    (hcanceled : shared.canceled = true) :
    (if startsTask user (UserAction.main a) then 1 else 0) + tasksLeft user' <=
      tasksLeft user := by
  by_cases hsleep : exists b, a = MainAction.sleep b
  · rcases hsleep with ⟨b, hb⟩
    cases hstep with
    | sleep sleep continuation a canceled outcome hphase hsleepStep =>
        cases outcome with
        | running sleep => simp [startsTask, tasksLeft, phaseAfterSleep, hphase]
        | panicked => simp [startsTask, tasksLeft, phaseAfterSleep, hphase]
        | returned =>
            rw [tasksLeft_of_checks (checks_resume shared.now continuation)]
            simp [startsTask]
    | _ => cases hb
  · have hchecks := hstep.checks hcanceled fun b hb => hsleep ⟨b, hb⟩
    rw [tasksLeft_of_checks hchecks]
    cases hstep with
    | startTask draw start hphase hstart => simp [startsTask, tasksLeft, hphase]
    | taskPanics draw panic hphase hstart => simp [startsTask, tasksLeft, hphase]
    | _ => simp [startsTask]

theorem MainStep.slices_add_le {config : Config} {u : Nat}
    {shared shared' : Shared Message} {user user' : ChatUser Message} {a : MainAction}
    (hstep : MainStep config u shared user a shared' user')
    (hcanceled : shared.canceled = true) :
    (if beginsSlice user (UserAction.main a) then 1 else 0) + slicesLeft user' <=
      slicesLeft user := by
  by_cases hsleep : exists b, a = MainAction.sleep b
  · rcases hsleep with ⟨b, hb⟩
    cases hstep with
    | sleep sleep continuation a canceled outcome hphase hsleepStep =>
        rw [hcanceled] at hsleepStep
        have hpay := hsleepStep.slices_add_le
        have hafter : slicesLeft
            { user with phase := phaseAfterSleep shared.now continuation outcome } =
              TaskSleep.slicesLeftAfter outcome := by
          cases outcome with
          | running sleep => rfl
          | panicked => rfl
          | returned =>
              exact slicesLeft_of_checks (checks_resume shared.now continuation)
        rw [hafter]
        simpa only [beginsSlice, slicesLeft, hphase] using hpay
    | _ => cases hb
  · have hchecks := hstep.checks hcanceled fun b hb => hsleep ⟨b, hb⟩
    rw [slicesLeft_of_checks hchecks]
    have hnone : beginsSlice user (UserAction.main a : UserAction Message) = false := by
      cases a with
      | sleep b => exact absurd ⟨b, rfl⟩ hsleep
      | _ => rfl
    simp [hnone]

theorem SyncStep.syncs_add_le {u : Nat} {shared shared' : Shared Message}
    {user user' : ChatUser Message} {a : SyncTaskAction Message}
    (hstep : SyncStep u shared user a shared' user')
    (hcanceled : shared.canceled = true) :
    (if startsSyncOnce user (UserAction.sync a) then 1 else 0) + syncsLeft user' <=
      syncsLeft user := by
  cases hstep with
  | readCanceled hphase => simp [startsSyncOnce, syncsLeft, hphase, hcanceled]
  | delaySync syncPhase hphase hnext =>
      rcases hnext with rfl | rfl <;> simp [startsSyncOnce, syncsLeft, hphase]
  | _ => simp_all [startsSyncOnce, syncsLeft]

/-!
# Runs
-/

def SpawnedByLogin (_ : Nat) (_ : Shared Message) (user : ChatUser Message) : Prop :=
  user.phase.stage.BeforeLogin -> user.syncPhase = SyncPhase.notSpawned

theorem spawnedByLogin_step {config : Config} {w w' : ChatWorld Message}
    {e : ChatEvent Message} (hw : Everywhere SpawnedByLogin w)
    (hstep : (chat Message config).worldStep w e = some w') :
    Everywhere SpawnedByLogin w' := by
  cases e with
  | environment duration => exact everywhere_environment hw hstep fun _ _ _ hi => hi
  | component u a =>
      refine everywhere_component hw hstep ?_ fun _ _ _ _ _ hj => hj
      intro shared user hlocal hu hearly
      cases a with
      | sync a =>
          have hsync := syncStep_of_eq_some hlocal
          rw [hsync.phase_eq] at hearly
          exact absurd (hu hearly) hsync.ne_notSpawned
      | main a =>
          have hmain := mainStep_of_eq_some hlocal
          rcases hmain.stageStep.beforeLogin hearly with ⟨hbefore, hlogin⟩
          rw [hmain.syncPhase_eq hlogin]
          exact hu hbefore

theorem MainStep.syncs_add_le {config : Config} {u : Nat}
    {shared shared' : Shared Message} {user user' : ChatUser Message} {a : MainAction}
    (hstep : MainStep config u shared user a shared' user')
    (hspawned : SpawnedByLogin u shared user) :
    (if startsSyncOnce user (UserAction.main a) then 1 else 0) + syncsLeft user' <=
      syncsLeft user := by
  have hnone : startsSyncOnce user (UserAction.main a : UserAction Message) = false := rfl
  rw [hnone]
  rcases hstep.syncPhase_eq_or with hsame | ⟨hlogin, hloop⟩
  · simp [syncsLeft, hsame]
  · have hnot := hspawned (Or.inr (Or.inr hlogin))
    simp [syncsLeft, hloop, hnot]

theorem canceled_step {config : Config} {w w' : ChatWorld Message}
    {e : ChatEvent Message} (hw : w.shared.canceled = true)
    (hstep : (chat Message config).worldStep w e = some w') :
    w'.shared.canceled = true := by
  cases e with
  | environment duration =>
      rcases worldStep_environment_eq_some.mp hstep with ⟨shared, hshared, rfl⟩
      cases hshared
      exact hw
  | component u a =>
      rcases worldStep_component_eq_some.mp hstep with ⟨shared, user, hlocal, rfl⟩
      cases a with
      | sync a =>
          show shared.canceled = true
          rw [(syncStep_of_eq_some hlocal).canceled_eq]
          exact hw
      | main a =>
          rcases (mainStep_of_eq_some hlocal).canceled_cases with
            ⟨_, hsame⟩ | ⟨_, _, htrue⟩ | ⟨_, _, _, _, htrue⟩
          · show shared.canceled = true
            rw [hsame]
            exact hw
          · exact htrue
          · exact htrue

structure Canceled (w : ChatWorld Message) : Prop where
  flag : w.shared.canceled = true
  spawned : Everywhere SpawnedByLogin w

theorem canceled_worldStep {config : Config} {w w' : ChatWorld Message}
    {e : ChatEvent Message} (hw : Canceled w)
    (hstep : (chat Message config).worldStep w e = some w') : Canceled w' :=
  ⟨canceled_step hw.flag hstep, spawnedByLogin_step hw.spawned hstep⟩

/-- The flag stays set, and what a user still starts is at most what its check has
let pass: a scheduler action, a sync, a slice of a cancellable sleep. -/
theorem starts_after_cancellation {config : Config} {w w' : ChatWorld Message}
    {actions : List (ChatEvent Message)}
    (hw : (chat Message config).system.Reachable w)
    (hcanceled : w.shared.canceled = true)
    (hrun : (chat Message config).system.runFrom w actions = some w') :
    w'.shared.canceled = true ∧
    forall u,
      (chat Message config).system.countSteps (countedAt u startsTask) w actions <=
        tasksLeft (w.memory u) ∧
      (chat Message config).system.countSteps (countedAt u startsSyncOnce) w actions <=
        syncsLeft (w.memory u) ∧
      (chat Message config).system.countSteps (countedAt u beginsSlice) w actions <=
        slicesLeft (w.memory u) := by
  have hspawnedStep : forall w e w', Everywhere SpawnedByLogin w ->
      (chat Message config).worldStep w e = some w' -> Everywhere SpawnedByLogin w' :=
    fun w e w' hw hstep => spawnedByLogin_step hw hstep
  have hspawned : Everywhere SpawnedByLogin w :=
    TransitionSystem.invariant_reachable (fun u _ => rfl) hspawnedStep hw
  have hinv : forall w e w', Canceled w ->
      (chat Message config).worldStep w e = some w' -> Canceled w' :=
    fun w e w' hw hstep => canceled_worldStep hw hstep
  have hstart : Canceled w := ⟨hcanceled, hspawned⟩
  have hend : Canceled w' := TransitionSystem.invariant_runFrom hinv hstart hrun
  refine ⟨hend.flag, ?_⟩
  intro u
  refine ⟨?_, ?_, ?_⟩
  · have hpay : forall (w : ChatWorld Message) a shared user, Canceled w ->
        (chat Message config).step u w.shared (w.memory u) a = some (shared, user) ->
        (if startsTask (w.memory u) a then 1 else 0) + tasksLeft user <=
          tasksLeft (w.memory u) := by
      intro w a shared user hw hlocal
      cases a with
      | main a => exact (mainStep_of_eq_some hlocal).tasks_add_le hw.flag
      | sync a =>
          simp [startsTask, tasksLeft, (syncStep_of_eq_some hlocal).phase_eq]
    exact Nat.le_of_add_right_le (countSteps_component_add_le hinv hpay hstart hrun)
  · have hpay : forall (w : ChatWorld Message) a shared user, Canceled w ->
        (chat Message config).step u w.shared (w.memory u) a = some (shared, user) ->
        (if startsSyncOnce (w.memory u) a then 1 else 0) + syncsLeft user <=
          syncsLeft (w.memory u) := by
      intro w a shared user hw hlocal
      cases a with
      | main a => exact (mainStep_of_eq_some hlocal).syncs_add_le (hw.spawned u)
      | sync a => exact (syncStep_of_eq_some hlocal).syncs_add_le hw.flag
    exact Nat.le_of_add_right_le (countSteps_component_add_le hinv hpay hstart hrun)
  · have hpay : forall (w : ChatWorld Message) a shared user, Canceled w ->
        (chat Message config).step u w.shared (w.memory u) a = some (shared, user) ->
        (if beginsSlice (w.memory u) a then 1 else 0) + slicesLeft user <=
          slicesLeft (w.memory u) := by
      intro w a shared user hw hlocal
      cases a with
      | main a => exact (mainStep_of_eq_some hlocal).slices_add_le hw.flag
      | sync a =>
          simp [beginsSlice, slicesLeft, (syncStep_of_eq_some hlocal).phase_eq]
    exact Nat.le_of_add_right_le (countSteps_component_add_le hinv hpay hstart hrun)

/-- User 1 is past the checks of both of its loops when user 0 is stopped. -/
def checkedRun : List (ChatEvent String) :=
  sampleStart 0 ++ sampleStart 1 ++
    [ChatEvent.sync 1 SyncTaskAction.startSyncOnce,
      ChatEvent.sync 1 SyncTaskAction.syncOnceDone,
      ChatEvent.sync 1 SyncTaskAction.readCanceled,
      ChatEvent.main 1 MainAction.enterScheduler,
      ChatEvent.main 1 (MainAction.checkCanceled 1),
      ChatEvent.main 1 (MainAction.checkCanceled 1)] ++
    sampleStop 0

def lastActions : List (ChatEvent String) :=
  [ChatEvent.main 1 (MainAction.startTask ⟨0, 0, 0, second⟩),
    ChatEvent.sync 1 SyncTaskAction.delaySync,
    ChatEvent.sync 1 SyncTaskAction.startSyncOnce]

theorem starts_after_cancellation_checked_user :
    exists w w', (chat String sampleConfig).system.run checkedRun = some w ∧
      (chat String sampleConfig).system.runFrom w lastActions = some w' ∧
      w'.shared.canceled = true ∧
      forall u,
        (chat String sampleConfig).system.countSteps (countedAt u startsTask) w
            lastActions <= tasksLeft (w.memory u) ∧
        (chat String sampleConfig).system.countSteps (countedAt u startsSyncOnce) w
            lastActions <= syncsLeft (w.memory u) ∧
        (chat String sampleConfig).system.countSteps (countedAt u beginsSlice) w
            lastActions <= slicesLeft (w.memory u) :=
  ⟨_, _, rfl, rfl, starts_after_cancellation ⟨checkedRun, rfl⟩ rfl rfl⟩

/-- A user hatched after the cancellation starts a sync, although its sync task has
never read the flag. -/
theorem hatched_after_cancellation_syncs :
    exists w, (chat String sampleConfig).system.run (sampleStart 0 ++ sampleStop 0) =
        some w ∧
      w.shared.canceled = true ∧
      (chat String sampleConfig).system.countSteps (countedAt 1 startsSyncOnce) w
        (sampleStart 1 ++ [ChatEvent.sync 1 SyncTaskAction.startSyncOnce]) = 1 ∧
      ChatEvent.sync 1 SyncTaskAction.readCanceled ∉
        sampleStart 0 ++ sampleStop 0 ++ sampleStart 1 := by
  refine ⟨_, rfl, rfl, rfl, ?_⟩
  simp [sampleStart, sampleLogin, sampleStop, ChatEvent.main, ChatEvent.sync]

end Chat
end MatrixGoose
