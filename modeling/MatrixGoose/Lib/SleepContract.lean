import MatrixGoose.Lib.SleepRuns

/-!
# The contract of task_sleep

What a run of `task_sleep` has done so far is read off the steps it took, each
with the state it was taken in.  The progress of the loop is the elapsed time:
every slice that was not interrupted accounts for a second of it, or for all that
was left of the delay.
-/

namespace MatrixGoose

open Foundation

namespace Lib

abbrev SleepStep := SleepRun × SleepRunAction

namespace SleepRunAction

def isSleep (a : SleepAction) : SleepRunAction -> Bool
  | sleep b => b == a
  | _ => false

def isOwn : SleepRunAction -> Bool
  | sleep _ => true
  | _ => false

end SleepRunAction

def sleepTrace (start delay : Nat) (allowCancel canceled : Bool)
    (actions : List SleepRunAction) : List SleepStep :=
  (taskSleep start delay allowCancel canceled).observe (fun s a => [(s, a)])
    (taskSleep start delay allowCancel canceled).init actions

def entersLoop (step : SleepStep) : Bool :=
  match step.2, step.1.outcome with
  | SleepRunAction.sleep SleepAction.test, SleepOutcome.running sleep =>
      sleep.delay < durationLimit && sleep.elapsed step.1.now < sleep.delay
  | _, _ => false

def iterations (trace : List SleepStep) : Nat :=
  trace.countP entersLoop

def counts (a : SleepAction) (trace : List SleepStep) : Nat :=
  trace.countP fun step => step.2.isSleep a

def ownSteps (trace : List SleepStep) : Nat :=
  trace.countP fun step => step.2.isOwn

def SeesCanceled (step : SleepStep) : Prop :=
  step.2 = SleepRunAction.sleep SleepAction.readCanceled ∧ step.1.canceled = true

def wholeSeconds (delay : Nat) : Nat :=
  (delay + second - 1) / second

def Interrupted (outcome : SleepOutcome) : Prop :=
  exists sleep, outcome = SleepOutcome.running sleep ∧ sleep.pc = SleepPc.interrupted

def NoSliceAfter (trace : List SleepStep) : Prop :=
  trace.Pairwise fun earlier later =>
    SeesCanceled earlier -> later.2.isSleep SleepAction.beginSlice = false

/-- A Ctrl-C leaves the flag set, as soon as the sleep has written it. -/
def KeepsCtrlC (trace : List SleepStep) (s : SleepRun) : Prop :=
  forall step, step ∈ trace -> step.2 = SleepRunAction.sleep SleepAction.ctrlC ->
    s.canceled = true ∨ Interrupted s.outcome

structure SleepContract (start delay : Nat) (allowCancel : Bool)
    (trace : List SleepStep) (s : SleepRun) : Prop where
  /-- An iteration for each second of the delay, and one for each Ctrl-C. -/
  iterations_le : iterations trace <=
    wholeSeconds delay + counts SleepAction.ctrlC trace
  /-- An iteration has five steps at most, and the last test may end the loop. -/
  ownSteps_le : ownSteps trace <= 5 * iterations trace + 1
  /-- A sleep that has not ended goes on once enough time has passed. -/
  goesOn : forall sleep, s.outcome = SleepOutcome.running sleep ->
    exists time a s', sleepRunStep { s with now := s.now + time }
      (SleepRunAction.sleep a) = some s'
  atMostOneSecond : forall sleep wake, s.outcome = SleepOutcome.running sleep ->
    sleep.pc = SleepPc.slice wake -> wake <= s.now + second
  sleepsFully : allowCancel = false -> s.outcome = SleepOutcome.returned ->
    start + delay <= s.now
  returnsEarly : s.outcome = SleepOutcome.returned -> s.now < start + delay ->
    exists step, step ∈ trace ∧ SeesCanceled step
  noSliceAfter : NoSliceAfter trace
  keepsCtrlC : KeepsCtrlC trace s

/-!
# Counting
-/

theorem counts_append (a : SleepAction) (trace : List SleepStep) (s : SleepRun)
    (b : SleepRunAction) :
    counts a (trace ++ [(s, b)]) = counts a trace + if b.isSleep a then 1 else 0 := by
  simp [counts, List.countP_append, List.countP_singleton]

theorem ownSteps_append (trace : List SleepStep) (s : SleepRun) (b : SleepRunAction) :
    ownSteps (trace ++ [(s, b)]) = ownSteps trace + if b.isOwn then 1 else 0 := by
  simp [ownSteps, List.countP_append, List.countP_singleton]

theorem iterations_append (trace : List SleepStep) (step : SleepStep) :
    iterations (trace ++ [step]) = iterations trace + if entersLoop step then 1 else 0 := by
  simp [iterations, List.countP_append, List.countP_singleton]

/-- A sleep that goes on after a test is in the loop. -/
def entered : SleepOutcome -> Nat
  | SleepOutcome.running _ => 1
  | _ => 0

theorem iterations_test {trace : List SleepStep} {s : SleepRun} {sleep : TaskSleep}
    {outcome : SleepOutcome} (hrunning : s.outcome = SleepOutcome.running sleep)
    (htest : TaskSleep.TestOutcome sleep s.now outcome) :
    iterations (trace ++ [(s, SleepRunAction.sleep SleepAction.test)]) =
      iterations trace + entered outcome := by
  rw [iterations_append]
  cases htest with
  | enters hfits hlt => simp [entersLoop, entered, hrunning, hfits, hlt]
  | returns hfits hle => simp [entersLoop, entered, hrunning, Nat.not_lt.mpr hle]
  | overflows hlimit => simp [entersLoop, entered, hrunning, Nat.not_lt.mpr hlimit]

theorem entersLoop_of_ne {s : SleepRun} {a : SleepRunAction}
    (h : a.isSleep SleepAction.test = false) : entersLoop (s, a) = false := by
  unfold entersLoop
  split
  · next heq _ =>
      change a = SleepRunAction.sleep SleepAction.test at heq
      subst heq
      cases h
  · rfl

theorem iterations_of_ne {trace : List SleepStep} {s : SleepRun} {a : SleepRunAction}
    (h : a.isSleep SleepAction.test = false) :
    iterations (trace ++ [(s, a)]) = iterations trace := by
  rw [iterations_append, entersLoop_of_ne h]
  rfl

theorem counts_of_ne {a : SleepAction} {trace : List SleepStep} {s : SleepRun}
    {b : SleepRunAction} (h : b.isSleep a = false) :
    counts a (trace ++ [(s, b)]) = counts a trace := by
  rw [counts_append, h]
  rfl

theorem counts_le_append (a : SleepAction) (trace : List SleepStep) (step : SleepStep) :
    counts a trace <= counts a (trace ++ [step]) := by
  rw [counts_append]
  exact Nat.le_add_right ..

/-!
# The pace of the loop
-/

theorem lt_wholeSeconds {n delay : Nat} (h : n * second < delay) :
    n + 1 <= wholeSeconds delay := by
  rw [wholeSeconds, Nat.le_div_iff_mul_le (by simp [second])]
  simp only [second] at h ⊢
  omega

/-- What a sleep knows of the clock after `n` uninterrupted slices. -/
structure Paced (start delay : Nat) (allowCancel : Bool) (n now : Nat)
    (sleep : TaskSleep) : Prop where
  start_eq : sleep.start = start
  delay_eq : sleep.delay = delay
  allowCancel_eq : sleep.allowCancel = allowCancel
  elapsed : start + min (n * second) delay <= now
  unfinished : sleep.pc ≠ SleepPc.test -> n * second < delay
  readsFlag : sleep.pc = SleepPc.flag -> allowCancel = true
  slice : forall wake, sleep.pc = SleepPc.slice wake ->
    start + min ((n + 1) * second) delay <= wake ∧ wake <= now + second

/-- The iteration that is going on, an interrupted one excepted. -/
def inIteration : SleepPc -> Nat
  | SleepPc.test => 0
  | SleepPc.flag => 1
  | SleepPc.ready => 1
  | SleepPc.slice _ => 1
  | SleepPc.interrupted => 0

/-- A sleep that is going on keeps the pace, and each of its iterations has ended its
slice, was interrupted or is still going on. -/
structure OnPace (start delay : Nat) (allowCancel : Bool) (trace : List SleepStep)
    (s : SleepRun) : Prop where
  bounded : iterations trace <= wholeSeconds delay + counts SleepAction.ctrlC trace
  iterated : forall sleep, s.outcome = SleepOutcome.running sleep ->
    iterations trace = counts SleepAction.endSlice trace +
      counts SleepAction.ctrlC trace + inIteration sleep.pc
  paced : forall sleep, s.outcome = SleepOutcome.running sleep ->
    Paced start delay allowCancel (counts SleepAction.endSlice trace) s.now sleep

theorem Paced.later {start delay n now now' : Nat} {allowCancel : Bool}
    {sleep : TaskSleep} (h : Paced start delay allowCancel n now sleep)
    (hle : now <= now') : Paced start delay allowCancel n now' sleep where
  start_eq := h.start_eq
  delay_eq := h.delay_eq
  allowCancel_eq := h.allowCancel_eq
  elapsed := Nat.le_trans h.elapsed hle
  unfinished := h.unfinished
  readsFlag := h.readsFlag
  slice wake hpc := ⟨(h.slice wake hpc).1,
    Nat.le_trans (h.slice wake hpc).2 (Nat.add_le_add_right hle second)⟩

theorem Paced.moveOn {start delay n now : Nat} {allowCancel : Bool}
    {sleep : TaskSleep} (h : Paced start delay allowCancel n now sleep)
    {pc : SleepPc} (hpc : forall wake, pc ≠ SleepPc.slice wake)
    (hflag : pc = SleepPc.flag -> allowCancel = true)
    (hunfinished : pc ≠ SleepPc.test -> n * second < delay) :
    Paced start delay allowCancel n now { sleep with pc } where
  start_eq := h.start_eq
  delay_eq := h.delay_eq
  allowCancel_eq := h.allowCancel_eq
  elapsed := h.elapsed
  unfinished := hunfinished
  readsFlag := hflag
  slice wake hslice := absurd hslice (hpc wake)

def bodyPc (sleep : TaskSleep) : SleepPc :=
  if sleep.allowCancel then SleepPc.flag else SleepPc.ready

theorem inIteration_bodyPc (sleep : TaskSleep) : inIteration (bodyPc sleep) = 1 := by
  cases hallow : sleep.allowCancel <;> simp [bodyPc, hallow, inIteration]

theorem Paced.mul_second_lt {start delay n now : Nat} {allowCancel : Bool}
    {sleep : TaskSleep} (h : Paced start delay allowCancel n now sleep)
    (hlt : sleep.elapsed now < sleep.delay) : n * second < delay := by
  have helapsed := h.elapsed
  rw [TaskSleep.elapsed, h.start_eq, h.delay_eq] at hlt
  omega

theorem Paced.enters {start delay n now : Nat} {allowCancel : Bool}
    {sleep : TaskSleep} (h : Paced start delay allowCancel n now sleep)
    (hlt : sleep.elapsed now < sleep.delay) :
    Paced start delay allowCancel n now { sleep with pc := bodyPc sleep } := by
  apply h.moveOn
  · intro wake
    cases hallow : sleep.allowCancel <;> simp [bodyPc, hallow]
  · rw [bodyPc, h.allowCancel_eq]
    cases allowCancel <;> simp
  · intro _
    exact h.mul_second_lt hlt

theorem Paced.begins {start delay n now : Nat} {allowCancel : Bool}
    {sleep : TaskSleep} (h : Paced start delay allowCancel n now sleep)
    (hpc : sleep.pc = SleepPc.ready) (hle : sleep.elapsed now <= sleep.delay) :
    Paced start delay allowCancel n now
      { sleep with
        pc := SleepPc.slice (now + min second (sleep.delay - sleep.elapsed now)) } := by
  have hunfinished := h.unfinished (by simp [hpc])
  have helapsed := h.elapsed
  constructor
  · exact h.start_eq
  · exact h.delay_eq
  · exact h.allowCancel_eq
  · exact helapsed
  · intro _
    exact hunfinished
  · simp
  · intro wake hwake
    rw [TaskSleep.elapsed, h.start_eq, h.delay_eq] at hle
    simp only [SleepPc.slice.injEq, TaskSleep.elapsed, h.start_eq,
      h.delay_eq] at hwake
    simp only [second] at *
    omega

theorem eq_of_readCanceled_running {sleep sleep' : TaskSleep} {canceled : Bool}
    (hrunning : sleep.readCanceled canceled = SleepOutcome.running sleep') :
    sleep' = { sleep with pc := SleepPc.ready } := by
  unfold TaskSleep.readCanceled at hrunning
  split at hrunning
  · cases hrunning
  · cases hrunning
    rfl

theorem OnPace.test {start delay : Nat} {allowCancel : Bool} {trace : List SleepStep}
    {s : SleepRun} {sleep : TaskSleep} {outcome : SleepOutcome}
    (h : OnPace start delay allowCancel trace s)
    (hrunning : s.outcome = SleepOutcome.running sleep) (hpc : sleep.pc = SleepPc.test)
    (htest : TaskSleep.TestOutcome sleep s.now outcome) :
    OnPace start delay allowCancel
      (trace ++ [(s, SleepRunAction.sleep SleepAction.test)]) { s with outcome } := by
  have hiterated := h.iterated sleep hrunning
  have hpaced := h.paced sleep hrunning
  have hended : counts SleepAction.endSlice
      (trace ++ [(s, SleepRunAction.sleep SleepAction.test)]) =
        counts SleepAction.endSlice trace := counts_of_ne rfl
  have hctrlC : counts SleepAction.ctrlC
      (trace ++ [(s, SleepRunAction.sleep SleepAction.test)]) =
        counts SleepAction.ctrlC trace := counts_of_ne rfl
  rw [hpc, inIteration] at hiterated
  have hentered : iterations (trace ++ [(s, SleepRunAction.sleep SleepAction.test)]) =
      iterations trace + entered outcome := iterations_test hrunning htest
  have hbounded := h.bounded
  cases htest with
  | enters hfits hlt =>
      constructor
      · have hnext := lt_wholeSeconds (hpaced.mul_second_lt hlt)
        rw [hentered, hctrlC, entered]
        omega
      · intro sleep' hrunning'
        cases hrunning'
        rw [hentered, hended, hctrlC, hiterated]
        exact congrArg _ (inIteration_bodyPc sleep).symm
      · intro sleep' hrunning'
        cases hrunning'
        rw [hended]
        exact hpaced.enters hlt
  | returns hfits hle =>
      refine ⟨?_, nofun, nofun⟩
      rw [hentered, hctrlC]
      exact hbounded
  | overflows hlimit =>
      refine ⟨?_, nofun, nofun⟩
      rw [hentered, hctrlC]
      exact hbounded

theorem OnPace.moveOn {start delay : Nat} {allowCancel : Bool} {trace : List SleepStep}
    {s s' : SleepRun} {a : SleepRunAction} (h : OnPace start delay allowCancel trace s)
    (htest : a.isSleep SleepAction.test = false)
    (hend : a.isSleep SleepAction.endSlice = false)
    (hiterated : forall sleep', s'.outcome = SleepOutcome.running sleep' ->
      exists sleep, s.outcome = SleepOutcome.running sleep ∧
        inIteration sleep.pc =
          (if a.isSleep SleepAction.ctrlC then 1 else 0) + inIteration sleep'.pc)
    (hpaced : forall sleep', s'.outcome = SleepOutcome.running sleep' ->
      Paced start delay allowCancel (counts SleepAction.endSlice trace) s'.now sleep') :
    OnPace start delay allowCancel (trace ++ [(s, a)]) s' := by
  constructor
  · rw [iterations_of_ne htest]
    have hmore := counts_le_append SleepAction.ctrlC trace (s, a)
    have hbounded := h.bounded
    omega
  · intro sleep' hrunning'
    rcases hiterated sleep' hrunning' with ⟨sleep, hrunning, hin⟩
    rw [iterations_of_ne htest, counts_of_ne hend, counts_append, h.iterated sleep hrunning,
      hin]
    omega
  · intro sleep' hrunning'
    rw [counts_of_ne hend]
    exact hpaced sleep' hrunning'

theorem OnPace.endSlice {start delay wake : Nat} {allowCancel : Bool}
    {trace : List SleepStep} {s : SleepRun} {sleep : TaskSleep}
    (h : OnPace start delay allowCancel trace s)
    (hrunning : s.outcome = SleepOutcome.running sleep)
    (hpc : sleep.pc = SleepPc.slice wake) (hwake : wake <= s.now) :
    OnPace start delay allowCancel
      (trace ++ [(s, SleepRunAction.sleep SleepAction.endSlice)])
      { s with outcome := SleepOutcome.running { sleep with pc := SleepPc.test } } := by
  have hiterated := h.iterated sleep hrunning
  have hpaced := h.paced sleep hrunning
  have hended : counts SleepAction.endSlice
      (trace ++ [(s, SleepRunAction.sleep SleepAction.endSlice)]) =
        counts SleepAction.endSlice trace + 1 := counts_append ..
  have hctrlC : counts SleepAction.ctrlC
      (trace ++ [(s, SleepRunAction.sleep SleepAction.endSlice)]) =
        counts SleepAction.ctrlC trace := counts_of_ne rfl
  rw [hpc, inIteration] at hiterated
  constructor
  · rw [iterations_of_ne rfl, hctrlC]
    exact h.bounded
  · intro sleep' hrunning'
    cases hrunning'
    rw [iterations_of_ne rfl, hended, hctrlC, hiterated, inIteration]
    omega
  · intro sleep' hrunning'
    cases hrunning'
    rw [hended]
    constructor
    · exact hpaced.start_eq
    · exact hpaced.delay_eq
    · exact hpaced.allowCancel_eq
    · exact Nat.le_trans (hpaced.slice wake hpc).1 hwake
    · intro htest
      exact absurd rfl htest
    · simp
    · intro wake' hslice
      cases hslice

theorem onPace_step {start delay : Nat} {allowCancel : Bool} {trace : List SleepStep}
    {s s' : SleepRun} {a : SleepRunAction} (h : OnPace start delay allowCancel trace s)
    (hstep : RunStep s a s') :
    OnPace start delay allowCancel (trace ++ [(s, a)]) s' := by
  cases hstep with
  | pass time =>
      apply h.moveOn rfl rfl
      · intro sleep hrunning
        exact ⟨sleep, hrunning, (Nat.zero_add _).symm⟩
      · intro sleep hrunning
        exact (h.paced sleep hrunning).later (Nat.le_add_right s.now time)
  | setCanceled =>
      apply h.moveOn rfl rfl
      · intro sleep hrunning
        exact ⟨sleep, hrunning, (Nat.zero_add _).symm⟩
      · exact h.paced
  | @sleep sleep a canceled outcome hrunning hsleep =>
      have hnow := h.paced sleep hrunning
      cases hsleep with
      | test hpc htest => exact h.test hrunning hpc htest
      | endSlice wake hpc hwake => exact h.endSlice hrunning hpc hwake
      | readCanceled hpc =>
          apply h.moveOn rfl rfl
          · intro sleep' hrunning'
            cases eq_of_readCanceled_running hrunning'
            exact ⟨sleep, hrunning, by rw [hpc]; rfl⟩
          · intro sleep' hrunning'
            cases eq_of_readCanceled_running hrunning'
            exact hnow.moveOn (by simp) (by simp) fun _ => hnow.unfinished (by simp [hpc])
      | beginSlice hpc hslice =>
          apply h.moveOn rfl rfl
          · intro sleep' hrunning'
            refine ⟨sleep, hrunning, ?_⟩
            rw [hpc]
            cases hslice with
            | begins hle =>
                cases hrunning'
                rfl
            | underflows hlt => cases hrunning'
            | overflows hlimit => cases hrunning'
          · intro sleep' hrunning'
            cases hslice with
            | begins hle =>
                cases hrunning'
                exact hnow.begins hpc hle
            | underflows hlt => cases hrunning'
            | overflows hlimit => cases hrunning'
      | ctrlC wake hpc =>
          apply h.moveOn rfl rfl
          · intro sleep' hrunning'
            cases hrunning'
            exact ⟨sleep, hrunning, by rw [hpc]; rfl⟩
          · intro sleep' hrunning'
            cases hrunning'
            exact hnow.moveOn (by simp) (by simp) fun _ => hnow.unfinished (by simp [hpc])
      | writeCanceled hpc =>
          apply h.moveOn rfl rfl
          · intro sleep' hrunning'
            cases hrunning'
            exact ⟨sleep, hrunning, by rw [hpc]; rfl⟩
          · intro sleep' hrunning'
            cases hrunning'
            apply hnow.moveOn (by simp) (by simp)
            intro htest
            exact absurd rfl htest

/-!
# The steps of the sleep
-/

/-- The steps a sleep may still take without entering its loop again. -/
def stepsLeft : SleepOutcome -> Nat
  | SleepOutcome.running sleep =>
      match sleep.pc with
      | SleepPc.test => 1
      | SleepPc.flag => 5
      | SleepPc.ready => 4
      | SleepPc.slice _ => 3
      | SleepPc.interrupted => 2
  | _ => 0

/-- An iteration pays for five steps, the test that entered the loop included. -/
def StepsBounded (trace : List SleepStep) (s : SleepRun) : Prop :=
  ownSteps trace + stepsLeft s.outcome <= 5 * iterations trace + 1

theorem stepsLeft_readCanceled (sleep : TaskSleep) (canceled : Bool) :
    stepsLeft (sleep.readCanceled canceled) <= 4 := by
  cases canceled <;> simp [stepsLeft, TaskSleep.readCanceled]

theorem stepsLeft_of_step {now : Nat} {canceled canceled' : Bool} {sleep : TaskSleep}
    {a : SleepAction} {outcome : SleepOutcome}
    (hstep : TaskSleep.Step now canceled sleep a canceled' outcome)
    (ha : a ≠ SleepAction.test) :
    stepsLeft outcome + 1 <= stepsLeft (SleepOutcome.running sleep) := by
  cases hstep with
  | test hpc htest => exact absurd rfl ha
  | readCanceled hpc =>
      simp only [stepsLeft, hpc]
      exact Nat.succ_le_succ (stepsLeft_readCanceled sleep canceled)
  | beginSlice hpc hslice => cases hslice <;> simp [stepsLeft, hpc]
  | endSlice wake hpc hwake => simp [stepsLeft, hpc]
  | ctrlC wake hpc => simp [stepsLeft, hpc]
  | writeCanceled hpc => simp [stepsLeft, hpc]

theorem stepsBounded_step {trace : List SleepStep} {s s' : SleepRun}
    {a : SleepRunAction} (h : StepsBounded trace s) (hstep : RunStep s a s') :
    StepsBounded (trace ++ [(s, a)]) s' := by
  unfold StepsBounded at h ⊢
  rw [ownSteps_append]
  cases hstep with
  | pass time =>
      rw [iterations_of_ne rfl]
      exact h
  | setCanceled =>
      rw [iterations_of_ne rfl]
      exact h
  | @sleep sleep a canceled outcome hrunning hsleep =>
      rw [hrunning] at h
      rw [SleepRunAction.isOwn, if_pos rfl]
      by_cases ha : a = SleepAction.test
      · subst ha
        cases hsleep with
        | test hpc htest =>
            rw [iterations_test hrunning htest]
            simp only [stepsLeft, hpc] at h
            cases htest with
            | enters hfits hlt =>
                have hleft : stepsLeft (SleepOutcome.running
                    { sleep with pc := bodyPc sleep }) <= 5 := by
                  cases hallow : sleep.allowCancel <;> simp [stepsLeft, bodyPc, hallow]
                rw [bodyPc] at hleft
                simp only [entered]
                omega
            | returns hfits hle =>
                simp only [stepsLeft, entered]
                omega
            | overflows hlimit =>
                simp only [stepsLeft, entered]
                omega
      · have hleft := stepsLeft_of_step hsleep ha
        have hother : (SleepRunAction.sleep a).isSleep SleepAction.test = false :=
          beq_eq_false_iff_ne.mpr ha
        rw [iterations_of_ne hother]
        show ownSteps trace + 1 + stepsLeft outcome <= 5 * iterations trace + 1
        omega

theorem goesOn_of_running {s : SleepRun} {sleep : TaskSleep}
    (hrunning : s.outcome = SleepOutcome.running sleep) :
    exists time a s', sleepRunStep { s with now := s.now + time }
      (SleepRunAction.sleep a) = some s' := by
  have henabled : forall time a,
      (exists after, sleep.step (s.now + time) s.canceled a = some after) ->
        exists time a s', sleepRunStep { s with now := s.now + time }
          (SleepRunAction.sleep a) = some s' := by
    intro time a h
    rcases h with ⟨after, hafter⟩
    apply Exists.intro time
    apply Exists.intro a
    simp only [sleepRunStep, hrunning, hafter, Option.map_some]
    exact ⟨_, rfl⟩
  cases hpc : sleep.pc with
  | test => exact henabled 0 SleepAction.test (by simp [TaskSleep.step, hpc])
  | flag => exact henabled 0 SleepAction.readCanceled (by simp [TaskSleep.step, hpc])
  | ready => exact henabled 0 SleepAction.beginSlice (by simp [TaskSleep.step, hpc])
  | slice wake => exact henabled wake SleepAction.endSlice (by simp [TaskSleep.step, hpc])
  | interrupted =>
      exact henabled 0 SleepAction.writeCanceled (by simp [TaskSleep.step, hpc])

/-!
# Returning
-/

/-- A sleep returns at the end of its delay, or because it saw the flag. -/
def ReturnsFor (start delay : Nat) (allowCancel : Bool) (trace : List SleepStep)
    (s : SleepRun) : Prop :=
  s.outcome = SleepOutcome.returned ->
    start + delay <= s.now ∨
      allowCancel = true ∧ exists step, step ∈ trace ∧ SeesCanceled step

theorem returnsFor_step {start delay : Nat} {allowCancel : Bool}
    {trace : List SleepStep} {s s' : SleepRun} {a : SleepRunAction}
    (hpace : OnPace start delay allowCancel trace s)
    (h : ReturnsFor start delay allowCancel trace s) (hstep : RunStep s a s') :
    ReturnsFor start delay allowCancel (trace ++ [(s, a)]) s' := by
  have hkept : (start + delay <= s.now ∨
        allowCancel = true ∧ exists step, step ∈ trace ∧ SeesCanceled step) ->
      forall now, s.now <= now -> start + delay <= now ∨
        allowCancel = true ∧
          exists step, step ∈ trace ++ [(s, a)] ∧ SeesCanceled step := by
    intro hcases now hle
    rcases hcases with htime | ⟨hallow, step, hmem, hsees⟩
    · exact Or.inl (Nat.le_trans htime hle)
    · exact Or.inr ⟨hallow, step, List.mem_append_left _ hmem, hsees⟩
  cases hstep with
  | pass time =>
      intro hreturned
      exact hkept (h hreturned) _ (Nat.le_add_right ..)
  | setCanceled =>
      intro hreturned
      exact hkept (h hreturned) _ (Nat.le_refl _)
  | @sleep sleep a canceled outcome hrunning hsleep =>
      have hnow := hpace.paced sleep hrunning
      intro hreturned
      cases hsleep with
      | test hpc htest =>
          cases htest with
          | enters hfits hlt => cases hreturned
          | overflows hlimit => cases hreturned
          | returns hfits hover =>
              have helapsed := hnow.elapsed
              rw [TaskSleep.elapsed, hnow.start_eq, hnow.delay_eq] at hover
              apply Or.inl
              show start + delay <= s.now
              omega
      | readCanceled hpc =>
          have hcanceled : s.canceled = true := by
            cases hflag : s.canceled with
            | true => rfl
            | false =>
                rw [hflag] at hreturned
                cases hreturned
          exact Or.inr ⟨hnow.readsFlag hpc, _, List.mem_append_right _
            (List.mem_singleton_self _), rfl, hcanceled⟩
      | beginSlice hpc hslice => cases hslice <;> cases hreturned
      | endSlice wake hpc hwake => cases hreturned
      | ctrlC wake hpc => cases hreturned
      | writeCanceled hpc => cases hreturned

/-!
# Cancellation
-/

def ReturnsOnceSeen (trace : List SleepStep) (s : SleepRun) : Prop :=
  forall step, step ∈ trace -> SeesCanceled step -> s.outcome = SleepOutcome.returned

theorem returnsOnceSeen_step {trace : List SleepStep} {s s' : SleepRun}
    {a : SleepRunAction} (h : ReturnsOnceSeen trace s) (hstep : RunStep s a s') :
    ReturnsOnceSeen (trace ++ [(s, a)]) s' := by
  intro step hmem hsees
  rcases List.mem_append.mp hmem with hearlier | hlast
  · have hreturned := h step hearlier hsees
    cases hstep with
    | pass time => exact hreturned
    | setCanceled => exact hreturned
    | sleep hrunning hsleep =>
        rw [hrunning] at hreturned
        cases hreturned
  · rw [List.mem_singleton.mp hlast] at hsees
    rcases hsees with ⟨haction, hcanceled⟩
    cases hstep with
    | pass time => cases haction
    | setCanceled => cases haction
    | @sleep sleep a canceled outcome hrunning hsleep =>
        cases haction
        cases hsleep with
        | readCanceled hpc =>
            show sleep.readCanceled s.canceled = SleepOutcome.returned
            rw [TaskSleep.readCanceled]
            exact if_pos hcanceled

theorem noSliceAfter_step {trace : List SleepStep} {s s' : SleepRun}
    {a : SleepRunAction} (hseen : ReturnsOnceSeen trace s) (h : NoSliceAfter trace)
    (hstep : RunStep s a s') : NoSliceAfter (trace ++ [(s, a)]) := by
  apply List.pairwise_append.mpr
  constructor
  · exact h
  · constructor
    · exact List.pairwise_singleton ..
    · intro earlier hearlier later hlater hsees
      have hreturned := hseen earlier hearlier hsees
      rw [List.mem_singleton.mp hlater]
      cases hstep with
      | pass time => rfl
      | setCanceled => rfl
      | sleep hrunning hsleep =>
          rw [hrunning] at hreturned
          cases hreturned

theorem canceled_of_interrupted {now : Nat} {canceled canceled' : Bool}
    {sleep : TaskSleep} {a : SleepAction} {outcome : SleepOutcome}
    (hstep : TaskSleep.Step now canceled sleep a canceled' outcome)
    (hpc : sleep.pc = SleepPc.interrupted) : canceled' = true := by
  cases hstep with
  | writeCanceled _ => rfl
  | test h htest => simp [hpc] at h
  | readCanceled h => simp [hpc] at h
  | beginSlice h hslice => simp [hpc] at h
  | endSlice wake h hwake => simp [hpc] at h
  | ctrlC wake h => simp [hpc] at h

theorem keepsCtrlC_step {trace : List SleepStep} {s s' : SleepRun}
    {a : SleepRunAction} (h : KeepsCtrlC trace s) (hstep : RunStep s a s') :
    KeepsCtrlC (trace ++ [(s, a)]) s' := by
  intro step hmem haction
  rcases List.mem_append.mp hmem with hearlier | hlast
  · have hkept := h step hearlier haction
    cases hstep with
    | pass time => exact hkept
    | setCanceled => exact Or.inl rfl
    | sleep hrunning hsleep =>
        apply Or.inl
        rcases hkept with hcanceled | ⟨sleep', hinterrupted, hpc⟩
        · rcases hsleep.canceled_eq with hsame | ⟨_, hset⟩
          · exact hsame.trans hcanceled
          · exact hset
        · rw [hrunning] at hinterrupted
          cases hinterrupted
          exact canceled_of_interrupted hsleep hpc
  · rw [List.mem_singleton.mp hlast] at haction
    cases hstep with
    | pass time => cases haction
    | setCanceled => cases haction
    | sleep hrunning hsleep =>
        cases haction
        cases hsleep with
        | ctrlC wake hpc => exact Or.inr ⟨_, rfl, rfl⟩

/-!
# The contract
-/

structure SleepInvariant (start delay : Nat) (allowCancel : Bool)
    (trace : List SleepStep) (s : SleepRun) : Prop where
  onPace : OnPace start delay allowCancel trace s
  stepsBounded : StepsBounded trace s
  returnsFor : ReturnsFor start delay allowCancel trace s
  returnsOnceSeen : ReturnsOnceSeen trace s
  noSliceAfter : NoSliceAfter trace
  keepsCtrlC : KeepsCtrlC trace s

theorem sleepInvariant_step {start delay : Nat} {allowCancel : Bool}
    {trace : List SleepStep} {s s' : SleepRun} {a : SleepRunAction}
    (h : SleepInvariant start delay allowCancel trace s) (hstep : RunStep s a s') :
    SleepInvariant start delay allowCancel (trace ++ [(s, a)]) s' where
  onPace := onPace_step h.onPace hstep
  stepsBounded := stepsBounded_step h.stepsBounded hstep
  returnsFor := returnsFor_step h.onPace h.returnsFor hstep
  returnsOnceSeen := returnsOnceSeen_step h.returnsOnceSeen hstep
  noSliceAfter := noSliceAfter_step h.returnsOnceSeen h.noSliceAfter hstep
  keepsCtrlC := keepsCtrlC_step h.keepsCtrlC hstep

theorem sleepInvariant_init (start delay : Nat) (allowCancel canceled : Bool) :
    SleepInvariant start delay allowCancel []
      (taskSleep start delay allowCancel canceled).init where
  onPace := by
    constructor
    · exact Nat.zero_le _
    · intro sleep hrunning
      cases hrunning
      rfl
    · intro sleep hrunning
      cases hrunning
      constructor
      · rfl
      · rfl
      · rfl
      · simp [counts, taskSleep]
      · intro htest
        exact absurd rfl htest
      · intro hflag
        cases hflag
      · intro wake hslice
        cases hslice
  stepsBounded := Nat.le_refl 1
  returnsFor := by
    intro hreturned
    cases hreturned
  returnsOnceSeen := by
    intro step hmem
    cases hmem
  noSliceAfter := List.Pairwise.nil
  keepsCtrlC := by
    intro step hmem
    cases hmem

theorem sleepInvariant_run {start delay : Nat} {allowCancel canceled : Bool}
    {actions : List SleepRunAction} {s : SleepRun}
    (hrun : (taskSleep start delay allowCancel canceled).run actions = some s) :
    SleepInvariant start delay allowCancel
      (sleepTrace start delay allowCancel canceled actions) s := by
  have hstep : forall trace s a s', SleepInvariant start delay allowCancel trace s ->
      sleepRunStep s a = some s' ->
        SleepInvariant start delay allowCancel (trace ++ [(s, a)]) s' :=
    fun _ _ _ _ h hstep => sleepInvariant_step h (runStep_of_eq_some hstep)
  have hall : SleepInvariant start delay allowCancel
      ([] ++ sleepTrace start delay allowCancel canceled actions) s :=
    TransitionSystem.invariant_observe hstep
      (sleepInvariant_init start delay allowCancel canceled) hrun
  rw [List.nil_append] at hall
  exact hall

theorem SleepInvariant.contract {start delay : Nat} {allowCancel : Bool}
    {trace : List SleepStep} {s : SleepRun}
    (h : SleepInvariant start delay allowCancel trace s) :
    SleepContract start delay allowCancel trace s where
  iterations_le := h.onPace.bounded
  ownSteps_le := Nat.le_trans (Nat.le_add_right ..) h.stepsBounded
  goesOn _ hrunning := goesOn_of_running hrunning
  atMostOneSecond sleep wake hrunning hpc :=
    ((h.onPace.paced sleep hrunning).slice wake hpc).2
  sleepsFully hallow hreturned := by
    rcases h.returnsFor hreturned with htime | ⟨hcancels, _⟩
    · exact htime
    · rw [hallow] at hcancels
      cases hcancels
  returnsEarly hreturned hearly := by
    rcases h.returnsFor hreturned with htime | ⟨_, hseen⟩
    · exact absurd htime (Nat.not_le.mpr hearly)
    · exact hseen
  noSliceAfter := h.noSliceAfter
  keepsCtrlC := h.keepsCtrlC

/-- Whatever the clock, the cancellations and the Ctrl-Cs do, every run of `task_sleep`
keeps its contract. -/
theorem task_sleep_contract {start delay : Nat} {allowCancel canceled : Bool}
    {actions : List SleepRunAction} {s : SleepRun}
    (hrun : (taskSleep start delay allowCancel canceled).run actions = some s) :
    SleepContract start delay allowCancel
      (sleepTrace start delay allowCancel canceled actions) s :=
  (sleepInvariant_run hrun).contract

/-- The sleep of `on_stop`, which has set the flag itself. -/
def onStopSleep : List SleepRunAction :=
  [.sleep .test, .sleep .beginSlice, .pass second, .sleep .endSlice, .sleep .test]

theorem task_sleep_contract_on_stop :
    (taskSleep 0 second false true).run onStopSleep =
        some { now := second, canceled := true, outcome := .returned } ∧
      SleepContract 0 second false (sleepTrace 0 second false true onStopSleep)
        { now := second, canceled := true, outcome := .returned } := by
  have hrun : (taskSleep 0 second false true).run onStopSleep =
      some { now := second, canceled := true, outcome := .returned } := by
    simp [TransitionSystem.run, TransitionSystem.runFrom, onStopSleep, taskSleep,
      sleepRunStep, TaskSleep.step, TaskSleep.new, TaskSleep.test, TaskSleep.beginSlice,
      TaskSleep.duration, TaskSleep.elapsed, second, durationLimit, UInt64.size]
  exact ⟨hrun, task_sleep_contract hrun⟩

end Lib
end MatrixGoose
