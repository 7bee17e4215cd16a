/-!
# task_sleep

The sleep of the chat users, one step from await point to await point, over the
process-wide flag `CANCELED`.  Times are nanoseconds.  The delay is the double that
`task_sleep` is given, rounded to them; an infinite one counts as any that is too long.
-/

namespace MatrixGoose

namespace Lib

def second : Nat := 1000000000

/-- A duration holds its seconds in 64 bits. -/
def durationLimit : Nat := UInt64.size * second

inductive SleepPc
  | test
  | flag
  | ready
  | slice (wake : Nat)
  | interrupted
  deriving DecidableEq

structure TaskSleep where
  start : Nat
  delay : Nat
  allowCancel : Bool
  pc : SleepPc
  deriving DecidableEq

inductive SleepOutcome
  | running (sleep : TaskSleep)
  | returned
  | panicked

inductive SleepAction
  | test
  | readCanceled
  | beginSlice
  | endSlice
  | ctrlC
  | writeCanceled
  deriving DecidableEq

namespace TaskSleep

def new (now delay : Nat) (allowCancel : Bool) : TaskSleep where
  start := now
  delay := delay
  allowCancel := allowCancel
  pc := SleepPc.test

/-- `Duration::from_secs_f64(delay)`, which panics when the seconds do not fit. -/
def duration (sleep : TaskSleep) : Option Nat :=
  if sleep.delay < durationLimit then some sleep.delay else none

def elapsed (sleep : TaskSleep) (now : Nat) : Nat :=
  now - sleep.start

def test (sleep : TaskSleep) (now : Nat) : SleepOutcome :=
  match sleep.duration with
  | some duration =>
      if sleep.elapsed now < duration then
        SleepOutcome.running
          { sleep with pc := if sleep.allowCancel then SleepPc.flag else SleepPc.ready }
      else SleepOutcome.returned
  | none => SleepOutcome.panicked

def readCanceled (sleep : TaskSleep) (canceled : Bool) : SleepOutcome :=
  if canceled then SleepOutcome.returned
  else SleepOutcome.running { sleep with pc := SleepPc.ready }

/-- The subtraction of durations panics when its result would be negative. -/
def beginSlice (sleep : TaskSleep) (now : Nat) : SleepOutcome :=
  match sleep.duration with
  | some duration =>
      if sleep.elapsed now <= duration then
        let remainingDuration := duration - sleep.elapsed now
        let sleepDuration := min second remainingDuration
        SleepOutcome.running { sleep with pc := SleepPc.slice (now + sleepDuration) }
      else SleepOutcome.panicked
  | none => SleepOutcome.panicked

/-- One step, with the value of `CANCELED` after it.  During a slice the `select!`
waits for the timer and for Ctrl-C. -/
def step (now : Nat) (canceled : Bool) (sleep : TaskSleep) :
    SleepAction -> Option (Bool × SleepOutcome)
  | SleepAction.test =>
      match sleep.pc with
      | SleepPc.test => some (canceled, sleep.test now)
      | _ => none
  | SleepAction.readCanceled =>
      match sleep.pc with
      | SleepPc.flag => some (canceled, sleep.readCanceled canceled)
      | _ => none
  | SleepAction.beginSlice =>
      match sleep.pc with
      | SleepPc.ready => some (canceled, sleep.beginSlice now)
      | _ => none
  | SleepAction.endSlice =>
      match sleep.pc with
      | SleepPc.slice wake =>
          if wake <= now then
            some (canceled, SleepOutcome.running { sleep with pc := SleepPc.test })
          else none
      | _ => none
  | SleepAction.ctrlC =>
      match sleep.pc with
      | SleepPc.slice _ =>
          some (canceled, SleepOutcome.running { sleep with pc := SleepPc.interrupted })
      | _ => none
  | SleepAction.writeCanceled =>
      match sleep.pc with
      | SleepPc.interrupted =>
          some (true, SleepOutcome.running { sleep with pc := SleepPc.test })
      | _ => none

/-!
# What a step can do
-/

inductive TestOutcome (sleep : TaskSleep) (now : Nat) : SleepOutcome -> Prop
  | enters (hfits : sleep.delay < durationLimit) (hlt : sleep.elapsed now < sleep.delay) :
      TestOutcome sleep now (SleepOutcome.running
        { sleep with pc := if sleep.allowCancel then SleepPc.flag else SleepPc.ready })
  | returns (hfits : sleep.delay < durationLimit)
      (hle : sleep.delay <= sleep.elapsed now) :
      TestOutcome sleep now SleepOutcome.returned
  | overflows (hlimit : durationLimit <= sleep.delay) :
      TestOutcome sleep now SleepOutcome.panicked

theorem testOutcome (sleep : TaskSleep) (now : Nat) :
    TestOutcome sleep now (sleep.test now) := by
  unfold TaskSleep.test duration
  by_cases hfits : sleep.delay < durationLimit
  · rw [if_pos hfits]
    by_cases hlt : sleep.elapsed now < sleep.delay
    · simp only [if_pos hlt]
      exact TestOutcome.enters hfits hlt
    · simp only [if_neg hlt]
      exact TestOutcome.returns hfits (Nat.not_lt.mp hlt)
  · rw [if_neg hfits]
    exact TestOutcome.overflows (Nat.not_lt.mp hfits)

inductive SliceOutcome (sleep : TaskSleep) (now : Nat) : SleepOutcome -> Prop
  | begins (hle : sleep.elapsed now <= sleep.delay) :
      SliceOutcome sleep now (SleepOutcome.running
        { sleep with
          pc := SleepPc.slice (now + min second (sleep.delay - sleep.elapsed now)) })
  | underflows (hlt : sleep.delay < sleep.elapsed now) :
      SliceOutcome sleep now SleepOutcome.panicked
  | overflows (hlimit : durationLimit <= sleep.delay) :
      SliceOutcome sleep now SleepOutcome.panicked

theorem sliceOutcome (sleep : TaskSleep) (now : Nat) :
    SliceOutcome sleep now (sleep.beginSlice now) := by
  unfold TaskSleep.beginSlice duration
  by_cases hfits : sleep.delay < durationLimit
  · rw [if_pos hfits]
    by_cases hle : sleep.elapsed now <= sleep.delay
    · simp only [if_pos hle]
      exact SliceOutcome.begins hle
    · simp only [if_neg hle]
      exact SliceOutcome.underflows (Nat.not_le.mp hle)
  · rw [if_neg hfits]
    exact SliceOutcome.overflows (Nat.not_lt.mp hfits)

inductive Step (now : Nat) (canceled : Bool) (sleep : TaskSleep) :
    SleepAction -> Bool -> SleepOutcome -> Prop
  | test {outcome : SleepOutcome} (hpc : sleep.pc = SleepPc.test)
      (htest : TestOutcome sleep now outcome) :
      Step now canceled sleep SleepAction.test canceled outcome
  | readCanceled (hpc : sleep.pc = SleepPc.flag) :
      Step now canceled sleep SleepAction.readCanceled canceled
        (sleep.readCanceled canceled)
  | beginSlice {outcome : SleepOutcome} (hpc : sleep.pc = SleepPc.ready)
      (hslice : SliceOutcome sleep now outcome) :
      Step now canceled sleep SleepAction.beginSlice canceled outcome
  | endSlice (wake : Nat) (hpc : sleep.pc = SleepPc.slice wake) (hwake : wake <= now) :
      Step now canceled sleep SleepAction.endSlice canceled
        (SleepOutcome.running { sleep with pc := SleepPc.test })
  | ctrlC (wake : Nat) (hpc : sleep.pc = SleepPc.slice wake) :
      Step now canceled sleep SleepAction.ctrlC canceled
        (SleepOutcome.running { sleep with pc := SleepPc.interrupted })
  | writeCanceled (hpc : sleep.pc = SleepPc.interrupted) :
      Step now canceled sleep SleepAction.writeCanceled true
        (SleepOutcome.running { sleep with pc := SleepPc.test })

theorem step_of_eq_some {now : Nat} {canceled canceled' : Bool} {sleep : TaskSleep}
    {a : SleepAction} {outcome : SleepOutcome}
    (hstep : sleep.step now canceled a = some (canceled', outcome)) :
    Step now canceled sleep a canceled' outcome := by
  cases a with
  | test =>
      cases hpc : sleep.pc <;> simp only [step, hpc, reduceCtorEq] at hstep
      cases hstep
      exact Step.test hpc (testOutcome sleep now)
  | readCanceled =>
      cases hpc : sleep.pc <;> simp only [step, hpc, reduceCtorEq] at hstep
      cases hstep
      exact Step.readCanceled hpc
  | beginSlice =>
      cases hpc : sleep.pc <;> simp only [step, hpc, reduceCtorEq] at hstep
      cases hstep
      exact Step.beginSlice hpc (sliceOutcome sleep now)
  | endSlice =>
      cases hpc : sleep.pc <;> simp only [step, hpc, reduceCtorEq] at hstep
      split at hstep
      · next hwake =>
          cases hstep
          exact Step.endSlice _ hpc hwake
      · cases hstep
  | ctrlC =>
      cases hpc : sleep.pc <;> simp only [step, hpc, reduceCtorEq] at hstep
      cases hstep
      exact Step.ctrlC _ hpc
  | writeCanceled =>
      cases hpc : sleep.pc <;> simp only [step, hpc, reduceCtorEq] at hstep
      cases hstep
      exact Step.writeCanceled hpc

/-!
# The flag
-/

theorem Step.canceled_eq {now : Nat} {canceled canceled' : Bool} {sleep : TaskSleep}
    {a : SleepAction} {outcome : SleepOutcome}
    (hstep : Step now canceled sleep a canceled' outcome) :
    canceled' = canceled ∨ (sleep.pc = SleepPc.interrupted ∧ canceled' = true) := by
  cases hstep with
  | writeCanceled hpc => exact Or.inr ⟨hpc, rfl⟩
  | _ => exact Or.inl rfl

theorem Step.eq_ctrlC {now : Nat} {canceled canceled' : Bool}
    {sleep sleep' : TaskSleep} {a : SleepAction} {outcome : SleepOutcome}
    (hstep : Step now canceled sleep a canceled' outcome)
    (houtcome : outcome = SleepOutcome.running sleep')
    (hinterrupted : sleep'.pc = SleepPc.interrupted) : a = SleepAction.ctrlC := by
  cases hstep with
  | ctrlC wake hpc => rfl
  | test hpc htest =>
      cases htest with
      | enters hfits hlt =>
          cases houtcome
          cases hallow : sleep.allowCancel <;> simp [hallow] at hinterrupted
      | returns hfits hle => cases houtcome
      | overflows hlimit => cases houtcome
  | readCanceled hpc =>
      unfold TaskSleep.readCanceled at houtcome
      split at houtcome
      · cases houtcome
      · cases houtcome
        cases hinterrupted
  | beginSlice hpc hslice =>
      cases hslice with
      | begins hle =>
          cases houtcome
          cases hinterrupted
      | underflows hlt => cases houtcome
      | overflows hlimit => cases houtcome
  | endSlice wake hpc hwake =>
      cases houtcome
      cases hinterrupted
  | writeCanceled hpc =>
      cases houtcome
      cases hinterrupted

/-!
# Slices after cancellation

A cancellable sleep reads the flag between its loop condition and its slice, so
it can still begin a slice only if that read is already behind it.
-/

def slicesLeft (sleep : TaskSleep) : Nat :=
  if sleep.allowCancel && sleep.pc = SleepPc.ready then 1 else 0

def beginsCancellable (sleep : TaskSleep) (a : SleepAction) : Bool :=
  sleep.allowCancel && a == SleepAction.beginSlice

def slicesLeftAfter : SleepOutcome -> Nat
  | SleepOutcome.running sleep => sleep.slicesLeft
  | _ => 0

theorem slicesLeft_new (now delay : Nat) (allowCancel : Bool) :
    (new now delay allowCancel).slicesLeft = 0 := by
  simp [slicesLeft, new]

theorem slicesLeft_of_ne {sleep : TaskSleep} (hpc : sleep.pc ≠ SleepPc.ready) :
    sleep.slicesLeft = 0 := by
  simp [slicesLeft, hpc]

theorem Step.slices_add_le {now : Nat} {canceled' : Bool} {sleep : TaskSleep}
    {a : SleepAction} {outcome : SleepOutcome}
    (hstep : Step now true sleep a canceled' outcome) :
    (if sleep.beginsCancellable a then 1 else 0) + slicesLeftAfter outcome <=
      sleep.slicesLeft := by
  cases hstep with
  | test hpc htest =>
      cases htest <;> simp [beginsCancellable, slicesLeftAfter, slicesLeft]
  | readCanceled hpc =>
      simp [beginsCancellable, TaskSleep.readCanceled, slicesLeftAfter]
  | beginSlice hpc hslice =>
      have hafter : slicesLeftAfter outcome = 0 := by
        cases hslice with
        | begins hle => exact slicesLeft_of_ne nofun
        | underflows hlt => rfl
        | overflows hlimit => rfl
      rw [hafter]
      cases hallow : sleep.allowCancel <;>
        simp [beginsCancellable, slicesLeft, hallow, hpc]
  | endSlice wake hpc hwake =>
      simp [beginsCancellable, slicesLeftAfter, slicesLeft]
  | ctrlC wake hpc =>
      simp [beginsCancellable, slicesLeftAfter, slicesLeft]
  | writeCanceled hpc =>
      simp [beginsCancellable, slicesLeftAfter, slicesLeft]

end TaskSleep

end Lib
end MatrixGoose
