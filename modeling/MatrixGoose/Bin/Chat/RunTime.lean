import MatrixGoose.Bin.Chat.Stopping

/-!
# The run time

The scheduler compares the time since the start of the attack with the run time
like with any other number.  Without a limit the setting is empty, which does not
parse, or zero, which any time that has passed exceeds, if only the time between the two
readings of the clock in the first check; a positive limit is obeyed.
-/

namespace MatrixGoose

open Foundation
open Foundation.Components

namespace Chat

open Lib

variable {Message : Type}

/-- What the setting holds if no run time was configured. -/
def Config.Unlimited (config : Config) : Prop :=
  config.runTime = "" ∨ config.runTime = "0"

/-- A positive limit is configured, and the check finds that more time than that has
passed. -/
def LimitExceeded (config : Config) (shared : Shared Message) (between : Nat) : Prop :=
  exists limit, parseU64 config.runTime = some limit ∧ 0 < limit ∧
    limit * second < attackElapsed shared between

/-- One step does what the scheduler is meant to do: it returns only after a
cancellation or beyond a limit, and without a limit it parses the setting and goes
on to the next action until the cancellation. -/
structure ObeysRunTime (config : Config) (w : ChatWorld Message) (e : ChatEvent Message) :
    Prop where
  returns : forall u w', (chat Message config).worldStep w e = some w' ->
    SchedulerReturns u w w' ->
    exists between, e = ChatEvent.main u (MainAction.checkCanceled between) ∧
      (w.shared.canceled = true ∨ LimitExceeded config w.shared between)
  parses : config.Unlimited -> forall u w',
    (chat Message config).worldStep w e = some w' ->
    e = ChatEvent.main u MainAction.enterScheduler ->
    (w'.memory u).phase = Phase.schedulerEntry
  goesOn : config.Unlimited -> forall u between w',
    (chat Message config).worldStep w e = some w' ->
    e = ChatEvent.main u (MainAction.checkCanceled between) -> w.shared.canceled = false ->
    ((w.memory u).phase = Phase.schedulerEntry ∧
        (w'.memory u).phase = Phase.schedulerLoop) ∨
      ((w.memory u).phase = Phase.schedulerLoop ∧ (w'.memory u).phase = Phase.draw)

/-- The scheduler is entered with a setting that is not empty, and a setting of zero
is compared only when the flag is set or no time has passed. -/
structure SettingWorks (config : Config) (w : ChatWorld Message) (e : ChatEvent Message) :
    Prop where
  entered : forall u, e = ChatEvent.main u MainAction.enterScheduler ->
    config.runTime ≠ ""
  compared : forall u between, e = ChatEvent.main u (MainAction.checkCanceled between) ->
    parseU64 config.runTime = some 0 ->
    w.shared.canceled = true ∨ attackElapsed w.shared between = 0

/-- A positive number of seconds works in every run. -/
theorem settingWorks_of_pos {config : Config} {limit : Nat}
    (hparse : parseU64 config.runTime = some limit) (hpos : 0 < limit)
    (w : ChatWorld Message) (e : ChatEvent Message) : SettingWorks config w e := by
  constructor
  · intro u _ hempty
    rw [hempty] at hparse
    cases hparse
  · intro u between _ hzero
    rw [hparse] at hzero
    cases hzero
    cases hpos

/-!
# The parsed setting
-/

theorem enterScheduler_phase {config : Config} {shared shared' : Shared Message}
    {user user' : ChatUser Message}
    (h : enterScheduler config shared user = some (shared', user')) :
    (user'.phase = Phase.schedulerEntry ∧ (parseU64 config.runTime).isSome = true) ∨
      (user'.phase = Phase.panicked Panic.runTimeParse ∧
        parseU64 config.runTime = none) := by
  unfold enterScheduler at h
  split at h
  · split at h
    · next limit hparse =>
        cases h
        exact Or.inl ⟨rfl, by rw [hparse]; rfl⟩
    · next hparse =>
        cases h
        exact Or.inr ⟨rfl, hparse⟩
  · cases h

theorem MainStep.inScheduler {config : Config} {u : Nat}
    {shared shared' : Shared Message} {user user' : ChatUser Message} {a : MainAction}
    (hstep : MainStep config u shared user a shared' user')
    (ha : a ≠ MainAction.enterScheduler) (hscheduler : user'.phase.InScheduler) :
    user.phase.InScheduler := by
  cases hstep with
  | newClient hphase =>
      simp only at hscheduler
      split at hscheduler <;> cases hscheduler
  | loginFailed retries hphase =>
      simp only at hscheduler
      split at hscheduler <;> cases hscheduler
  | enterScheduler phase hphase hnext => exact absurd rfl ha
  | checkStays phase hphase hstay =>
      rcases hphase with ⟨hphase, _⟩ | ⟨hphase, _⟩ <;> rw [hphase] <;> exact True.intro
  | startTask draw start hphase hstart =>
      rw [hphase]
      exact True.intro
  | request owner hphase howner => exact hscheduler
  | callDone request pending token hphase =>
      rw [hphase]
      exact True.intro
  | sleep sleep continuation a canceled outcome hphase hsleep =>
      rw [hphase]
      cases continuation with
      | task pending => exact True.intro
      | stopLoop => cases outcome <;> cases hscheduler
  | enterOnStop hphase =>
      simp only at hscheduler
      split at hscheduler <;> cases hscheduler
  | stopReadCanceled hphase =>
      simp only at hscheduler
      split at hscheduler <;> cases hscheduler
  | stopPoll hphase =>
      simp only at hscheduler
      split at hscheduler <;> cases hscheduler
  | _ => cases hscheduler

def Parsed (config : Config) (_ : Nat) (_ : Shared Message) (user : ChatUser Message) :
    Prop :=
  user.phase.InScheduler -> (parseU64 config.runTime).isSome = true

theorem parsed_step {config : Config} {w w' : ChatWorld Message} {e : ChatEvent Message}
    (hw : Everywhere (Parsed config) w)
    (hstep : (chat Message config).worldStep w e = some w') :
    Everywhere (Parsed config) w' := by
  intro u hscheduler
  rcases memory_eq_or hstep u with hsame | ⟨a, he, hlocal⟩
  · rw [hsame] at hscheduler
    exact hw u hscheduler
  · cases a with
    | sync a =>
        rw [(syncStep_of_eq_some hlocal).phase_eq] at hscheduler
        exact hw u hscheduler
    | main a =>
        by_cases ha : a = MainAction.enterScheduler
        · subst ha
          rcases enterScheduler_phase hlocal with ⟨_, hparse⟩ | ⟨hphase, _⟩
          · exact hparse
          · rw [hphase] at hscheduler
            cases hscheduler
        · exact hw u ((mainStep_of_eq_some hlocal).inScheduler ha hscheduler)

/-!
# One step
-/

theorem MainStep.check_phase {config : Config} {u : Nat}
    {shared shared' : Shared Message} {user user' : ChatUser Message}
    {between : Nat}
    (hstep : MainStep config u shared user (MainAction.checkCanceled between) shared'
      user') :
    ((shared.canceled || runTimeElapsed config shared between) = true ∧
        user.phase.InScheduler ∧ user'.phase = Phase.betweenTransactions) ∨
      ((shared.canceled || runTimeElapsed config shared between) = false ∧
        ((user.phase = Phase.schedulerEntry ∧ user'.phase = Phase.schedulerLoop) ∨
          (user.phase = Phase.schedulerLoop ∧ user'.phase = Phase.draw))) := by
  cases hstep with
  | checkLeaves hphase hleave =>
      refine Or.inl ⟨hleave, ?_, rfl⟩
      rcases hphase with hphase | hphase <;> rw [hphase] <;> exact True.intro
  | checkStays phase hphase hstay => exact Or.inr ⟨hstay, hphase⟩

theorem runTimeElapsed_iff {config : Config} {shared : Shared Message}
    {limit between : Nat} (hparse : parseU64 config.runTime = some limit) :
    runTimeElapsed config shared between = true <->
      limit * second < attackElapsed shared between := by
  rw [runTimeElapsed, decide_eq_true_iff, Config.runtime, hparse]
  exact Iff.rfl

theorem settingWorks_of_obeysRunTime {config : Config} {w w' : ChatWorld Message}
    {e : ChatEvent Message} (hstep : (chat Message config).worldStep w e = some w')
    (hobeys : ObeysRunTime config w e) : SettingWorks config w e := by
  constructor
  · intro u he hempty
    have hentry := hobeys.parses (Or.inl hempty) u w' hstep he
    subst he
    rcases enterScheduler_phase (step_of_worldStep hstep) with ⟨_, hparse⟩ | ⟨hphase, _⟩
    · rw [hempty] at hparse
      cases hparse
    · rw [hphase] at hentry
      cases hentry
  · intro u between he hzero
    cases hcanceled : w.shared.canceled with
    | true => exact Or.inl rfl
    | false =>
        right
        by_contra hpassed
        have helapsed :
            (w.shared.canceled || runTimeElapsed config w.shared between) = true := by
          rw [hcanceled, Bool.false_or, runTimeElapsed_iff hzero]
          omega
        have hreturns : SchedulerReturns u w w' := by
          subst he
          rcases (mainStep_of_worldStep hstep).check_phase with
            ⟨_, hscheduler, hreturned⟩ | ⟨hstay, _⟩
          · exact ⟨hscheduler, hreturned⟩
          · rw [helapsed] at hstay
            cases hstay
        rcases hobeys.returns u w' hstep hreturns with
          ⟨_, _, h | ⟨limit, hparse, hpos, _⟩⟩
        · rw [hcanceled] at h
          cases h
        · rw [hzero] at hparse
          cases hparse
          cases hpos

theorem obeysRunTime_of_settingWorks {config : Config} {w : ChatWorld Message}
    {e : ChatEvent Message} (hw : Everywhere (Parsed config) w)
    (hsetting : SettingWorks config w e) : ObeysRunTime config w e := by
  constructor
  · intro u w' hstep hreturns
    rcases memory_eq_or hstep u with hsame | ⟨a, he, hlocal⟩
    · rcases hreturns with ⟨hscheduler, hreturned⟩
      rw [← hsame, hreturned] at hscheduler
      cases hscheduler
    · cases a with
      | sync a =>
          rcases hreturns with ⟨hscheduler, hreturned⟩
          rw [← (syncStep_of_eq_some hlocal).phase_eq, hreturned] at hscheduler
          cases hscheduler
      | main a =>
          rcases (mainStep_of_eq_some hlocal).returns hreturns.1 hreturns.2 with
            ⟨between, ha, hleave⟩
          subst ha
          refine ⟨between, he, ?_⟩
          rcases Option.isSome_iff_exists.mp (hw u hreturns.1) with ⟨limit, hparse⟩
          rcases Bool.or_eq_true_iff.mp hleave with hcanceled | helapsed
          · exact Or.inl hcanceled
          · rw [runTimeElapsed_iff hparse] at helapsed
            rcases Nat.eq_zero_or_pos limit with hzero | hpos
            · subst hzero
              rcases hsetting.compared u between he hparse with hcanceled | hnone
              · exact Or.inl hcanceled
              · omega
            · exact Or.inr ⟨limit, hparse, hpos, helapsed⟩
  · intro hunlimited u w' hstep he
    have hzero : config.runTime = "0" := by
      rcases hunlimited with hempty | hzero
      · exact absurd hempty (hsetting.entered u he)
      · exact hzero
    subst he
    rcases enterScheduler_phase (step_of_worldStep hstep) with ⟨hphase, _⟩ | ⟨_, hparse⟩
    · exact hphase
    · rw [hzero] at hparse
      cases hparse
  · intro hunlimited u between w' hstep he hcanceled
    have hmain := mainStep_of_worldStep (he ▸ hstep)
    rcases hmain.check_phase with ⟨hleave, hscheduler, _⟩ | ⟨_, hstays⟩
    · have hparse : parseU64 config.runTime = some 0 := by
        rcases hunlimited with hempty | hzero
        · have hsome := hw u hscheduler
          rw [hempty] at hsome
          cases hsome
        · rw [hzero]
          rfl
      rw [hcanceled, Bool.false_or, runTimeElapsed_iff hparse] at hleave
      rcases hsetting.compared u between he hparse with h | hnone
      · rw [hcanceled] at h
        cases h
      · omega
    · exact hstays

/-- In a run every step does what the scheduler is meant to do exactly if the setting
works at every step. -/
theorem obeysRunTime_iff_settingWorks {config : Config}
    {actions : List (ChatEvent Message)} {w : ChatWorld Message}
    (hrun : (chat Message config).system.run actions = some w) :
    (chat Message config).system.AllSteps (ObeysRunTime config)
        (chat Message config).system.init actions <->
      (chat Message config).system.AllSteps (SettingWorks config)
        (chat Message config).system.init actions := by
  refine TransitionSystem.allSteps_congr (P := Everywhere (Parsed config))
    (fun _ _ _ hw hstep => parsed_step hw hstep) ?_ (fun u h => by cases h) hrun
  intro w e w' hw hstep
  exact ⟨settingWorks_of_obeysRunTime hstep, obeysRunTime_of_settingWorks hw⟩

theorem obeysRunTime_iff_settingWorks_first_action :
    (chat String sampleConfig).system.AllSteps (ObeysRunTime sampleConfig)
      (chat String sampleConfig).system.init
      (sampleStart 0 ++
        [ChatEvent.main 0 MainAction.enterScheduler,
          ChatEvent.main 0 (MainAction.checkCanceled 1),
          ChatEvent.main 0 (MainAction.checkCanceled 1)]) := by
  refine (obeysRunTime_iff_settingWorks rfl).mpr ?_
  have hworks : forall (w : ChatWorld String) (e : ChatEvent String),
      SettingWorks sampleConfig w e :=
    fun w e => @settingWorks_of_pos String sampleConfig 60 (by decide) (by decide) w e
  exact TransitionSystem.allSteps_of_forall hworks _ _

/-- A user enters the scheduler, and a nanosecond passes between the two readings of the
clock in the first check. -/
def enterAndCheck : List (ChatEvent String) :=
  [ChatEvent.main 0 MainAction.onStart,
    ChatEvent.main 0 (MainAction.newClient true),
    ChatEvent.main 0 (MainAction.loginResponse (some "@a:x")),
    ChatEvent.main 0 MainAction.setSessionData,
    ChatEvent.main 0 MainAction.enterScheduler,
    ChatEvent.main 0 (MainAction.checkCanceled 1)]

/-- Without a limit the scheduler panics on the empty setting, and on zero its first check
leaves it although nobody cancelled. -/
theorem no_limit_configured :
    (exists w, (chat String { runTime := "", csvUsers := 2 }).system.run
        (enterAndCheck.take 5) = some w ∧
      (w.memory 0).phase = Phase.panicked Panic.runTimeParse ∧
      ¬ (chat String { runTime := "", csvUsers := 2 }).system.AllSteps
        (ObeysRunTime { runTime := "", csvUsers := 2 })
        (chat String { runTime := "", csvUsers := 2 }).system.init
        (enterAndCheck.take 5)) ∧
    exists w, (chat String { runTime := "0", csvUsers := 2 }).system.run
        enterAndCheck = some w ∧
      w.shared.canceled = false ∧
      (w.memory 0).phase = Phase.betweenTransactions ∧
      ¬ (chat String { runTime := "0", csvUsers := 2 }).system.AllSteps
        (ObeysRunTime { runTime := "0", csvUsers := 2 })
        (chat String { runTime := "0", csvUsers := 2 }).system.init enterAndCheck := by
  refine ⟨⟨_, rfl, rfl, ?_⟩, _, rfl, rfl, rfl, ?_⟩
  · intro hall
    have hlast := (((hall.2 _ rfl).2 _ rfl).2 _ rfl).2 _ rfl
    cases hlast.1.parses (Or.inl rfl) 0 _ rfl rfl
  · intro hall
    have hlast := ((((hall.2 _ rfl).2 _ rfl).2 _ rfl).2 _ rfl).2 _ rfl
    rcases hlast.1.goesOn (Or.inr rfl) 0 _ _ rfl rfl rfl with ⟨_, h⟩ | ⟨h, _⟩ <;> cases h

end Chat
end MatrixGoose
