import MatrixGoose.Foundation.TransitionSystem
import MatrixGoose.Lib.TaskSleep

/-!
# Runs of task_sleep

A sleep among everything else that happens: time passes between any two of its steps,
and others set `CANCELED`.
-/

namespace MatrixGoose

open Foundation

namespace Lib

structure SleepRun where
  now : Nat
  canceled : Bool
  outcome : SleepOutcome

inductive SleepRunAction
  | pass (time : Nat)
  | setCanceled
  | sleep (a : SleepAction)

def sleepRunStep (s : SleepRun) : SleepRunAction -> Option SleepRun
  | SleepRunAction.pass time => some { s with now := s.now + time }
  | SleepRunAction.setCanceled => some { s with canceled := true }
  | SleepRunAction.sleep a =>
      match s.outcome with
      | SleepOutcome.running sleep =>
          (sleep.step s.now s.canceled a).map fun (canceled, outcome) =>
            { s with canceled, outcome }
      | _ => none

def taskSleep (start delay : Nat) (allowCancel canceled : Bool) :
    TransitionSystem SleepRun SleepRunAction where
  init :=
    { now := start
      canceled
      outcome := SleepOutcome.running (TaskSleep.new start delay allowCancel) }
  step := sleepRunStep

def NotPanicked (s : SleepRun) : Prop :=
  match s.outcome with
  | SleepOutcome.panicked => False
  | _ => True

def passed : List SleepRunAction -> Nat
  | [] => 0
  | SleepRunAction.pass time :: rest => time + passed rest
  | _ :: rest => passed rest

/-- The delay fits into a duration once it is converted, and in each iteration the pause
between the two readings of the clock is no longer than what was left of the delay at the
first one. -/
structure InTime (delay : Nat) (actions : List SleepRunAction) : Prop where
  fits : SleepRunAction.sleep SleepAction.test ∈ actions -> delay < durationLimit
  pauses : forall before pause after,
    actions = before ++ SleepRunAction.sleep SleepAction.test ::
      (pause ++ SleepRunAction.sleep SleepAction.beginSlice :: after) ->
    SleepRunAction.sleep SleepAction.test ∉ pause -> passed pause <= delay - passed before

/-!
# One step
-/

inductive RunStep (s : SleepRun) : SleepRunAction -> SleepRun -> Prop
  | pass (time : Nat) : RunStep s (SleepRunAction.pass time) { s with now := s.now + time }
  | setCanceled : RunStep s SleepRunAction.setCanceled { s with canceled := true }
  | sleep {sleep : TaskSleep} {a : SleepAction} {canceled : Bool}
      {outcome : SleepOutcome} (hrunning : s.outcome = SleepOutcome.running sleep)
      (hstep : TaskSleep.Step s.now s.canceled sleep a canceled outcome) :
      RunStep s (SleepRunAction.sleep a) { s with canceled, outcome }

theorem runStep_of_eq_some {s s' : SleepRun} {a : SleepRunAction}
    (hstep : sleepRunStep s a = some s') : RunStep s a s' := by
  cases a with
  | pass time =>
      cases hstep
      exact RunStep.pass time
  | setCanceled =>
      cases hstep
      exact RunStep.setCanceled
  | sleep a =>
      cases houtcome : s.outcome with
      | running sleep =>
          simp only [sleepRunStep, houtcome, Option.map_eq_some_iff] at hstep
          rcases hstep with ⟨⟨canceled, outcome⟩, hsleep, rfl⟩
          exact RunStep.sleep houtcome (TaskSleep.step_of_eq_some hsleep)
      | returned =>
          simp only [sleepRunStep, houtcome] at hstep
          cases hstep
      | panicked =>
          simp only [sleepRunStep, houtcome] at hstep
          cases hstep

def KeepsTimes (start delay : Nat) : SleepOutcome -> Prop
  | SleepOutcome.running sleep =>
      sleep.start = start ∧ sleep.delay = delay ∧
        (sleep.pc ≠ SleepPc.test -> delay < durationLimit)
  | _ => True

theorem keepsTimes_of_step {now : Nat} {canceled canceled' : Bool} {sleep : TaskSleep}
    {a : SleepAction} {outcome : SleepOutcome}
    (hstep : TaskSleep.Step now canceled sleep a canceled' outcome)
    (hfits : sleep.pc ≠ SleepPc.test -> sleep.delay < durationLimit) :
    KeepsTimes sleep.start sleep.delay outcome := by
  cases hstep with
  | test hpc htest =>
      cases htest with
      | enters hlimit hlt => exact ⟨rfl, rfl, fun _ => hlimit⟩
      | returns hlimit hle => exact True.intro
      | overflows hlimit => exact True.intro
  | readCanceled hpc =>
      unfold TaskSleep.readCanceled
      split
      · exact True.intro
      · exact ⟨rfl, rfl, fun _ => hfits (by simp [hpc])⟩
  | beginSlice hpc hslice =>
      cases hslice with
      | begins hle => exact ⟨rfl, rfl, fun _ => hfits (by simp [hpc])⟩
      | underflows hlt => exact True.intro
      | overflows hlimit => exact True.intro
  | endSlice wake hpc hwake => exact ⟨rfl, rfl, fun _ => hfits (by simp [hpc])⟩
  | ctrlC wake hpc => exact ⟨rfl, rfl, fun _ => hfits (by simp [hpc])⟩
  | writeCanceled hpc => exact ⟨rfl, rfl, fun _ => hfits (by simp [hpc])⟩

theorem panicked_iff_of_step {now : Nat} {canceled canceled' : Bool} {sleep : TaskSleep}
    {a : SleepAction} {outcome : SleepOutcome}
    (hstep : TaskSleep.Step now canceled sleep a canceled' outcome)
    (hfits : sleep.pc ≠ SleepPc.test -> sleep.delay < durationLimit) :
    outcome = SleepOutcome.panicked <->
      (a = SleepAction.test ∧ durationLimit <= sleep.delay) ∨
        (a = SleepAction.beginSlice ∧ sleep.delay < sleep.elapsed now) := by
  cases hstep with
  | test hpc htest =>
      cases htest with
      | enters hlimit hlt => simp [hlimit]
      | returns hlimit hle => simp [hlimit]
      | overflows hlimit => simp [hlimit]
  | readCanceled hpc =>
      unfold TaskSleep.readCanceled
      split <;> simp
  | beginSlice hpc hslice =>
      cases hslice with
      | begins hle => simp [Nat.not_lt.mpr hle]
      | underflows hlt => simp [hlt]
      | overflows hlimit => exact absurd (hfits (by simp [hpc])) (Nat.not_lt.mpr hlimit)
  | endSlice wake hpc hwake => simp
  | ctrlC wake hpc => simp
  | writeCanceled hpc => simp

theorem notPanicked_iff {s : SleepRun} :
    NotPanicked s <-> s.outcome ≠ SleepOutcome.panicked := by
  unfold NotPanicked
  cases s.outcome <;> simp

theorem RunStep.keepsTimes {start delay : Nat} {s s' : SleepRun} {a : SleepRunAction}
    (hs : KeepsTimes start delay s.outcome) (hstep : RunStep s a s') :
    KeepsTimes start delay s'.outcome := by
  cases hstep with
  | pass time => exact hs
  | setCanceled => exact hs
  | sleep hrunning hsleep =>
      rw [hrunning] at hs
      rcases hs with ⟨hstart, hdelay, hfits⟩
      rw [← hstart, ← hdelay]
      exact keepsTimes_of_step hsleep (hdelay ▸ hfits)

structure StepInTime (start delay : Nat) (s : SleepRun) (a : SleepRunAction) : Prop where
  fits : a = SleepRunAction.sleep SleepAction.test -> delay < durationLimit
  remains : a = SleepRunAction.sleep SleepAction.beginSlice -> s.now <= start + delay

theorem RunStep.notPanicked_iff {start delay : Nat} {s s' : SleepRun}
    {a : SleepRunAction} (hs : KeepsTimes start delay s.outcome)
    (hnot : NotPanicked s) (hstep : RunStep s a s') :
    NotPanicked s' <-> StepInTime start delay s a := by
  cases hstep with
  | pass time => exact ⟨fun _ => ⟨nofun, nofun⟩, fun _ => hnot⟩
  | setCanceled => exact ⟨fun _ => ⟨nofun, nofun⟩, fun _ => hnot⟩
  | @sleep sleep a canceled outcome hrunning hsleep =>
      rw [hrunning] at hs
      rcases hs with ⟨hstart, hdelay, hfits⟩
      have hpanicked := panicked_iff_of_step hsleep (hdelay ▸ hfits)
      rw [TaskSleep.elapsed, hstart, hdelay] at hpanicked
      rw [Lib.notPanicked_iff]
      show outcome ≠ SleepOutcome.panicked <-> _
      rw [ne_eq, hpanicked, not_or, not_and, not_and, Nat.not_le, Nat.not_lt]
      constructor
      · rintro ⟨hlimit, hremains⟩
        constructor
        · intro htest
          exact hlimit (SleepRunAction.sleep.inj htest)
        · intro hbegin
          have hle := hremains (SleepRunAction.sleep.inj hbegin)
          omega
      · rintro ⟨hlimit, hremains⟩
        refine ⟨fun htest => hlimit (congrArg _ htest), ?_⟩
        intro hbegin
        have hle := hremains (congrArg _ hbegin)
        omega

/-!
# The time since the loop condition
-/

theorem passed_append (before after : List SleepRunAction) :
    passed (before ++ after) = passed before + passed after := by
  induction before with
  | nil => exact (Nat.zero_add _).symm
  | cons a rest ih =>
      cases a with
      | pass time =>
          rw [List.cons_append, passed, ih, passed, Nat.add_assoc]
      | setCanceled => exact ih
      | sleep a => exact ih

structure SinceTest (start delay : Nat) (before : List SleepRunAction) (s : SleepRun) :
    Prop where
  keepsTimes : KeepsTimes start delay s.outcome
  now_eq : s.now = start + passed before
  tested : forall sleep, s.outcome = SleepOutcome.running sleep ->
    sleep.pc ≠ SleepPc.test ->
    exists earlier pause,
      before = earlier ++ SleepRunAction.sleep SleepAction.test :: pause ∧
      SleepRunAction.sleep SleepAction.test ∉ pause ∧ passed earlier < delay

theorem SinceTest.goesOn {start delay : Nat} {before : List SleepRunAction}
    {s : SleepRun} {a : SleepRunAction} (h : SinceTest start delay before s)
    (ha : a ≠ SleepRunAction.sleep SleepAction.test) {sleep : TaskSleep}
    (hrunning : s.outcome = SleepOutcome.running sleep) (hpc : sleep.pc ≠ SleepPc.test) :
    exists earlier pause,
      before ++ [a] = earlier ++ SleepRunAction.sleep SleepAction.test :: pause ∧
      SleepRunAction.sleep SleepAction.test ∉ pause ∧ passed earlier < delay := by
  rcases h.tested sleep hrunning hpc with ⟨earlier, pause, rfl, hnone, hearly⟩
  refine ⟨earlier, pause ++ [a], by simp, ?_, hearly⟩
  intro hmem
  rcases List.mem_append.mp hmem with hpause | hlast
  · exact hnone hpause
  · exact ha (List.mem_singleton.mp hlast).symm

theorem sinceTest_step {start delay : Nat} {before : List SleepRunAction}
    {s s' : SleepRun} {a : SleepRunAction} (h : SinceTest start delay before s)
    (hstep : RunStep s a s') : SinceTest start delay (before ++ [a]) s' := by
  have hkeeps := hstep.keepsTimes h.keepsTimes
  cases hstep with
  | pass time =>
      refine ⟨hkeeps, ?_, fun sleep => h.goesOn (a := SleepRunAction.pass time) nofun⟩
      rw [passed_append, h.now_eq]
      exact Nat.add_assoc ..
  | setCanceled =>
      refine ⟨hkeeps, ?_, fun sleep => h.goesOn (a := SleepRunAction.setCanceled) nofun⟩
      rw [passed_append, h.now_eq]
      rfl
  | @sleep sleep a canceled outcome hrunning hsleep =>
      refine ⟨hkeeps, ?_, ?_⟩
      · rw [passed_append, h.now_eq]
        rfl
      · intro sleep' hrunning' hpc'
        by_cases ha : a = SleepAction.test
        · subst ha
          refine ⟨before, [], rfl, List.not_mem_nil, ?_⟩
          have hkept := h.keepsTimes
          rw [hrunning] at hkept
          cases hsleep with
          | test hpc htest =>
              cases htest with
              | enters hlimit hlt =>
                  rw [TaskSleep.elapsed, hkept.1, hkept.2.1, h.now_eq] at hlt
                  omega
              | returns hlimit hle => cases hrunning'
              | overflows hlimit => cases hrunning'
        · apply h.goesOn (fun htest => ha (SleepRunAction.sleep.inj htest)) hrunning
          intro hpc
          cases hsleep with
          | test _ _ => exact ha rfl
          | readCanceled hflag => simp [hpc] at hflag
          | beginSlice hready _ => simp [hpc] at hready
          | endSlice wake hslice _ => simp [hpc] at hslice
          | ctrlC wake hslice => simp [hpc] at hslice
          | writeCanceled hinterrupted => simp [hpc] at hinterrupted

theorem inTime_of_passed_le {delay : Nat} {actions : List SleepRunAction}
    (hlimit : delay < durationLimit) (hle : passed actions <= delay) :
    InTime delay actions where
  fits _ := hlimit
  pauses before pause after hsplit _ := by
    rw [hsplit, passed_append] at hle
    simp only [passed, passed_append] at hle
    omega

/-!
# Runs
-/

section Runs

variable {start delay : Nat} {allowCancel canceled : Bool}
variable {actions : List SleepRunAction} {s : SleepRun}

theorem sinceTest_run
    (hrun : (taskSleep start delay allowCancel canceled).run actions = some s) :
    SinceTest start delay actions s := by
  apply TransitionSystem.invariant_run_history _ _ hrun
  · exact ⟨⟨rfl, rfl, fun h => absurd rfl h⟩, rfl, fun sleep h hpc => by
      cases h
      exact absurd rfl hpc⟩
  · intro before s a s' h hstep
    exact sinceTest_step h (runStep_of_eq_some hstep)

/-- The steps of a run meet their condition exactly if its delay and its pauses do. -/
theorem allSteps_iff_inTime
    (hrun : (taskSleep start delay allowCancel canceled).run actions = some s) :
    (taskSleep start delay allowCancel canceled).AllSteps (StepInTime start delay)
        (taskSleep start delay allowCancel canceled).init actions <->
      InTime delay actions := by
  rw [TransitionSystem.allSteps_iff]
  have hprefix : forall before after, actions = before ++ after ->
      exists mid, (taskSleep start delay allowCancel canceled).run before = some mid ∧
        (taskSleep start delay allowCancel canceled).runFrom mid after = some s := by
    intro before after hsplit
    rw [hsplit] at hrun
    exact (TransitionSystem.runFrom_append_eq_some _).mp hrun
  constructor
  · intro hall
    constructor
    · intro htest
      rcases List.append_of_mem htest with ⟨before, after, hsplit⟩
      rcases hprefix before _ hsplit with ⟨mid, hmid, _⟩
      exact (hall before _ after mid hsplit hmid).fits rfl
    · intro before pause after hsplit _
      have hsplit' : actions =
          (before ++ SleepRunAction.sleep SleepAction.test :: pause) ++
            SleepRunAction.sleep SleepAction.beginSlice :: after := by
        rw [hsplit, List.append_assoc, List.cons_append]
      rcases hprefix _ _ hsplit' with ⟨mid, hmid, _⟩
      have hremains := (hall _ _ after mid hsplit' hmid).remains rfl
      have hnow := (sinceTest_run hmid).now_eq
      rw [passed_append] at hnow
      simp only [passed] at hnow
      omega
  · intro hintime before a after mid hsplit hmid
    constructor
    · intro htest
      apply hintime.fits
      rw [hsplit, htest]
      exact List.mem_append_right _ List.mem_cons_self
    · intro hbegin
      subst hbegin
      have hsince := sinceTest_run hmid
      rcases hprefix before _ hsplit with ⟨mid', hmid', hafter⟩
      rw [show mid' = mid from Option.some.inj (hmid'.symm.trans hmid)] at hafter
      rcases (TransitionSystem.runFrom_cons_eq_some _).mp hafter with ⟨next, hnext, _⟩
      have hlocal : RunStep mid (SleepRunAction.sleep SleepAction.beginSlice) next :=
        runStep_of_eq_some hnext
      cases hlocal with
      | @sleep sleep _ _ _ hrunning hsleep =>
          cases hsleep with
          | beginSlice hpc hslice =>
              rcases hsince.tested sleep hrunning (by simp [hpc]) with
                ⟨earlier, pause, hbefore, hnone, hearly⟩
              have hnow := hsince.now_eq
              rw [hbefore, passed_append] at hnow
              simp only [passed] at hnow
              have hpause := hintime.pauses earlier pause after
                (by rw [hsplit, hbefore, List.append_assoc, List.cons_append]) hnone
              omega

/-- A run of `task_sleep` never panics exactly if the delay fits into a duration and each
iteration makes its pause while enough of the delay is left. -/
theorem neverPanics_iff
    (hrun : (taskSleep start delay allowCancel canceled).run actions = some s) :
    (taskSleep start delay allowCancel canceled).AllStates NotPanicked
        (taskSleep start delay allowCancel canceled).init actions <->
      InTime delay actions := by
  have hkeeps : forall s a s', KeepsTimes start delay s.outcome ->
      sleepRunStep s a = some s' -> KeepsTimes start delay s'.outcome :=
    fun _ _ _ hs hstep => (runStep_of_eq_some hstep).keepsTimes hs
  have hpanics : forall s a s', KeepsTimes start delay s.outcome -> NotPanicked s ->
      sleepRunStep s a = some s' -> (NotPanicked s' <-> StepInTime start delay s a) :=
    fun _ _ _ hs hnot hstep => (runStep_of_eq_some hstep).notPanicked_iff hs hnot
  have hinit : KeepsTimes start delay
      (taskSleep start delay allowCancel canceled).init.outcome :=
    ⟨rfl, rfl, fun h => absurd rfl h⟩
  rw [← allSteps_iff_inTime hrun]
  exact TransitionSystem.allStates_iff_allSteps
    (I := fun s => KeepsTimes start delay s.outcome) hkeeps hpanics hinit
    True.intro hrun

end Runs

/-- One iteration of a sleep, in which the clock moves on by a nanosecond before and
after the flag is read. -/
def oneIteration (before : Nat) : List SleepRunAction :=
  [.pass before, .sleep .test, .pass 1, .sleep .readCanceled, .pass 1, .sleep .beginSlice]

theorem neverPanics_iff_in_time :
    exists s, (taskSleep 0 (3 * second) true false).run (oneIteration second) = some s ∧
      (taskSleep 0 (3 * second) true false).AllStates NotPanicked
        (taskSleep 0 (3 * second) true false).init (oneIteration second) := by
  refine ⟨_, rfl, (neverPanics_iff rfl).mpr (inTime_of_passed_le ?_ ?_)⟩
  · simp [durationLimit, second, UInt64.size]
  · simp [oneIteration, passed, second]

/-- A sleep of three seconds whose loop condition is tested in its last nanosecond, and
one whose seconds do not fit. -/
theorem panics_past_the_delay :
    (exists s, (taskSleep 0 (3 * second) true false).run (oneIteration (3 * second - 1)) =
        some s ∧
      s.outcome = SleepOutcome.panicked ∧ ¬ NotPanicked s) ∧
    exists s, (taskSleep 0 durationLimit true false).run [.sleep .test] = some s ∧
      s.outcome = SleepOutcome.panicked ∧ ¬ NotPanicked s := by
  refine ⟨⟨{ now := 3 * second + 1, canceled := false, outcome := .panicked }, ?_, rfl, id⟩,
    { now := 0, canceled := false, outcome := .panicked }, ?_, rfl, id⟩
  · simp [TransitionSystem.run, TransitionSystem.runFrom, oneIteration, taskSleep,
      sleepRunStep, TaskSleep.step, TaskSleep.new, TaskSleep.test, TaskSleep.readCanceled,
      TaskSleep.beginSlice, TaskSleep.duration, TaskSleep.elapsed, second, durationLimit,
      UInt64.size]
  · simp [TransitionSystem.run, TransitionSystem.runFrom, taskSleep, sleepRunStep,
      TaskSleep.step, TaskSleep.new, TaskSleep.test, TaskSleep.duration]

end Lib
end MatrixGoose
