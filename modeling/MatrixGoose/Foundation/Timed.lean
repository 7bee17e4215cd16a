import MatrixGoose.Foundation.Interaction
import Mathlib.Order.Basic

/-!
# Timed runs

A program that runs in time.  Any time passes before each of its operations, an operation
lasts as long as the environment lets it last, and what it may reply depends on when it
began and when it ended.  A run may be left before any operation, or while it lasts.
-/

namespace Foundation
namespace Program

section Runs

variable {Op : Type} {Reply : Op -> Type} {Time Value Result State : Type}

structure Timed (Op : Type) (Reply : Op -> Type) (Time : Type) where
  op : Op
  reply : Reply op
  began : Time
  ended : Time

/-- What an operation may reply if it lasts from the first time to the second one. -/
abbrev Timing (Op : Type) (Reply : Op -> Type) (Time : Type) :=
  (op : Op) -> Reply op -> Time -> Time -> Prop

variable [Preorder Time]

/-- A run from a time on, with what it exchanges, its value if it gets to the end, and
the time at which it ends. -/
inductive TimedRun (timing : Timing Op Reply Time) :
    Program Op Reply Value -> Time -> List (Timed Op Reply Time) -> Option Value ->
      Time -> Prop
  | done {value : Value} {t : Time} : TimedRun timing (done value) t [] (some value) t
  | cut {t : Time} : TimedRun timing cut t [] none t
  | stopped {op : Op} {next : Reply op -> Program Op Reply Value} {t : Time} :
      TimedRun timing (perform op next) t [] none t
  | perform {op : Op} {next : Reply op -> Program Op Reply Value} {reply : Reply op}
      {t began ended t' : Time} {events : List (Timed Op Reply Time)}
      {value : Option Value} (hwait : t <= began) (hlasts : began <= ended)
      (htiming : timing op reply began ended)
      (hrest : TimedRun timing (next reply) ended events value t') :
      TimedRun timing (perform op next) t ({ op, reply, began, ended } :: events) value t'

/-!
# Composing timed runs
-/

variable {timing : Timing Op Reply Time} {t t' : Time} {events : List (Timed Op Reply Time)}

theorem TimedRun.time_le {program : Program Op Reply Value} {value : Option Value}
    (hrun : TimedRun timing program t events value t') : t <= t' := by
  induction hrun with
  | done => exact le_rfl
  | cut => exact le_rfl
  | stopped => exact le_rfl
  | perform hwait hlasts _ _ ih => exact hwait.trans (hlasts.trans ih)

theorem TimedRun.done_inv {a : Value} {value : Option Value}
    (hrun : TimedRun timing (Program.done a) t events value t') :
    events = [] ∧ value = some a ∧ t' = t := by
  cases hrun with
  | done => exact ⟨rfl, rfl, rfl⟩

theorem TimedRun.call_inv {op : Op} {value : Option (Reply op)}
    (hrun : TimedRun timing (call op) t events value t') :
    (events = [] ∧ value = none) ∨
      exists reply began, events = [{ op, reply, began, ended := t' }] ∧
        value = some reply ∧ t <= began ∧ began <= t' ∧ timing op reply began t' := by
  cases hrun with
  | stopped => exact Or.inl ⟨rfl, rfl⟩
  | @perform _ _ reply _ began ended _ _ _ hwait hlasts htiming hrest =>
      rcases hrest.done_inv with ⟨hevents, hvalue, hend⟩
      subst hevents hend
      exact Or.inr ⟨reply, began, rfl, hvalue, hwait, hlasts, htiming⟩

theorem TimedRun.bind_inv {program : Program Op Reply Value}
    {next : Value -> Program Op Reply Result} {result : Option Result}
    (hrun : TimedRun timing (program.bind next) t events result t') :
    (result = none ∧ TimedRun timing program t events none t') ∨
      exists value mid first rest, events = first ++ rest ∧
        TimedRun timing program t first (some value) mid ∧
        TimedRun timing (next value) mid rest result t' := by
  induction program generalizing t events with
  | done value => exact Or.inr ⟨value, t, [], events, rfl, TimedRun.done, hrun⟩
  | cut =>
      cases hrun with
      | cut => exact Or.inl ⟨rfl, TimedRun.cut⟩
  | perform op rest ih =>
      cases hrun with
      | stopped => exact Or.inl ⟨rfl, TimedRun.stopped⟩
      | perform hwait hlasts htiming hrest =>
          cases ih _ hrest with
          | inl hfirst =>
              exact Or.inl ⟨hfirst.1, TimedRun.perform hwait hlasts htiming hfirst.2⟩
          | inr hboth =>
              rcases hboth with ⟨value, mid, first, last, rfl, hfirst, hlast⟩
              exact Or.inr ⟨value, mid, _ :: first, last, rfl,
                TimedRun.perform hwait hlasts htiming hfirst, hlast⟩

/-!
# Answering at once

A run that never waits, and in which the time an operation ends at is part of its answer.
-/

def answered (answer : (op : Op) -> Time -> Reply op × Time) :
    Program Op Reply Value -> Time -> List (Timed Op Reply Time) × Option Value × Time
  | done value, t => ([], some value, t)
  | perform op next, t =>
      let (reply, ended) := answer op t
      let (events, value, t') := answered answer (next reply) ended
      ({ op, reply, began := t, ended } :: events, value, t')
  | cut, t => ([], none, t)

theorem timedRun_answered {answer : (op : Op) -> Time -> Reply op × Time}
    (hanswer : forall op t, t <= (answer op t).2 ∧
      timing op (answer op t).1 t (answer op t).2)
    (program : Program Op Reply Value) (t : Time) :
    TimedRun timing program t (answered answer program t).1
      (answered answer program t).2.1 (answered answer program t).2.2 := by
  induction program generalizing t with
  | done value => exact TimedRun.done
  | perform op next ih =>
      have hop := hanswer op t
      exact TimedRun.perform le_rfl hop.1 hop.2 (ih _ _)
  | cut => exact TimedRun.cut

end Runs

/-!
# Labels

The operations of a program, each with the part of the program that performs it.
-/

section Labels

variable {Label Op : Type} {Reply : Op -> Type} {Time Value Result State : Type}

abbrev Labelled (Label : Type) (Op : Type) (Reply : Op -> Type) (Value : Type) :=
  Program (Label × Op) (fun o => Reply o.2) Value

def label (l : Label) : Program Op Reply Value -> Labelled Label Op Reply Value
  | done value => done value
  | perform op next => perform (l, op) fun reply => (next reply).label l
  | cut => cut

def erase : Labelled Label Op Reply Value -> Program Op Reply Value
  | done value => done value
  | perform o next => perform o.2 fun reply => (next reply).erase
  | cut => cut

@[simp] theorem erase_label (l : Label) (program : Program Op Reply Value) :
    (program.label l).erase = program := by
  induction program with
  | done value => rfl
  | perform op next ih =>
      show perform op _ = perform op _
      congr 1
      funext reply
      exact ih reply
  | cut => rfl

@[simp] theorem erase_bind (program : Labelled Label Op Reply Value)
    (next : Value -> Labelled Label Op Reply Result) :
    (program.bind next).erase = program.erase.bind fun value => (next value).erase := by
  induction program with
  | done value => rfl
  | perform op rest ih =>
      show perform op.2 _ = perform op.2 _
      congr 1
      funext reply
      exact ih reply
  | cut => rfl

theorem erase_loop {body : State -> Labelled Label Op Reply (Round State Value)}
    {body' : State -> Program Op Reply (Round State Value)}
    (hbody : forall s, (body s).erase = body' s) (rounds : Nat) (s : State) :
    (loop body rounds s).erase = loop body' rounds s := by
  induction rounds generalizing s with
  | zero => rfl
  | succ rounds ih =>
      rw [loop, loop, erase_bind, hbody]
      congr 1
      funext round
      cases round with
      | again s => exact ih s
      | leave value => rfl

def Timed.erase (event : Timed (Label × Op) (fun o => Reply o.2) Time) :
    Timed Op Reply Time where
  op := event.op.2
  reply := event.reply
  began := event.began
  ended := event.ended

variable [Preorder Time] {timing : Timing Op Reply Time} {t t' : Time}

abbrev Timing.labelled (timing : Timing Op Reply Time) :
    Timing (Label × Op) (fun o => Reply o.2) Time :=
  fun o reply began ended => timing o.2 reply began ended

/-- Labels change nothing of how a program runs. -/
theorem timedRun_erase_iff {program : Labelled Label Op Reply Value}
    {events : List (Timed Op Reply Time)} {value : Option Value} :
    TimedRun timing program.erase t events value t' <->
      exists labelled, TimedRun timing.labelled program t labelled value t' ∧
        events = labelled.map Timed.erase := by
  constructor
  · intro hrun
    induction program generalizing t events with
    | done a =>
        cases hrun with
        | done => exact ⟨[], TimedRun.done, rfl⟩
    | cut =>
        cases hrun with
        | cut => exact ⟨[], TimedRun.cut, rfl⟩
    | perform op next ih =>
        cases hrun with
        | stopped => exact ⟨[], TimedRun.stopped, rfl⟩
        | perform hwait hlasts htiming hrest =>
            rcases ih _ hrest with ⟨labelled, hlabelled, rfl⟩
            exact ⟨_ :: labelled, TimedRun.perform hwait hlasts htiming hlabelled, rfl⟩
  · intro h
    rcases h with ⟨labelled, hrun, rfl⟩
    induction hrun with
    | done => exact TimedRun.done
    | cut => exact TimedRun.cut
    | stopped => exact TimedRun.stopped
    | perform hwait hlasts htiming _ ih => exact TimedRun.perform hwait hlasts htiming ih

theorem TimedRun.label_of_mem {l : Label} {program : Program Op Reply Value}
    {events : List (Timed (Label × Op) (fun o => Reply o.2) Time)} {value : Option Value}
    (hrun : TimedRun timing.labelled (program.label l) t events value t') :
    forall event, event ∈ events -> event.op.1 = l := by
  induction program generalizing t events with
  | done a =>
      rcases hrun.done_inv with ⟨rfl, _, _⟩
      intro event hevent
      cases hevent
  | cut =>
      cases hrun with
      | cut =>
          intro event hevent
          cases hevent
  | perform op next ih =>
      cases hrun with
      | stopped =>
          intro event hevent
          cases hevent
      | perform _ _ _ hrest =>
          intro event hevent
          cases hevent with
          | head => rfl
          | tail _ htail => exact ih _ hrest event htail

end Labels

end Program

end Foundation
