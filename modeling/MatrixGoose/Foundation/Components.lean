import Mathlib.Logic.Function.Basic
import MatrixGoose.Foundation.TransitionSystem

/-!
# Components over shared memory

Any number of components, each with a memory of its own, take turns in changing
the shared memory.  A step of one component leaves the memories of the others
alone, so a property of every component at once is proved from two facts: the
acting component keeps it, and the change of the shared memory does not disturb
it for the others.
-/

namespace Foundation

structure Components (Index Shared Memory Environment Action : Type) where
  initShared : Shared
  initMemory : Index -> Memory
  environment : Shared -> Environment -> Option Shared
  step : Index -> Shared -> Memory -> Action -> Option (Shared × Memory)

namespace Components

structure World (Index Shared Memory : Type) where
  shared : Shared
  memory : Index -> Memory

inductive Event (Index Environment Action : Type)
  | environment (e : Environment)
  | component (i : Index) (a : Action)

variable {Index Shared Memory Environment Action : Type} [DecidableEq Index]
variable (C : Components Index Shared Memory Environment Action)

def worldStep (w : World Index Shared Memory) :
    Event Index Environment Action -> Option (World Index Shared Memory)
  | Event.environment e =>
      (C.environment w.shared e).map fun shared => { w with shared }
  | Event.component i a =>
      (C.step i w.shared (w.memory i) a).map fun (shared, memory) =>
        { shared, memory := Function.update w.memory i memory }

def system : TransitionSystem (World Index Shared Memory)
    (Event Index Environment Action) where
  init := { shared := C.initShared, memory := C.initMemory }
  step := C.worldStep

def Everywhere (P : Index -> Shared -> Memory -> Prop)
    (w : World Index Shared Memory) : Prop :=
  forall i, P i w.shared (w.memory i)

/-!
# One step of the whole
-/

variable {C}

theorem worldStep_environment_eq_some {w w' : World Index Shared Memory}
    {e : Environment} :
    C.worldStep w (Event.environment e) = some w' <->
      exists shared, C.environment w.shared e = some shared ∧
        { w with shared } = w' := by
  simp [worldStep, Option.map_eq_some_iff]

theorem worldStep_component_eq_some {w w' : World Index Shared Memory}
    {i : Index} {a : Action} :
    C.worldStep w (Event.component i a) = some w' <->
      exists shared memory, C.step i w.shared (w.memory i) a = some (shared, memory) ∧
        { shared, memory := Function.update w.memory i memory } = w' := by
  simp [worldStep, Option.map_eq_some_iff]

theorem step_of_worldStep {w w' : World Index Shared Memory} {i : Index} {a : Action}
    (hstep : C.worldStep w (Event.component i a) = some w') :
    C.step i w.shared (w.memory i) a = some (w'.shared, w'.memory i) := by
  rcases worldStep_component_eq_some.mp hstep with ⟨shared, memory, hlocal, rfl⟩
  show _ = some (shared, Function.update w.memory i memory i)
  rw [hlocal, Function.update_self]

theorem memory_of_ne {w w' : World Index Shared Memory} {i j : Index} {a : Action}
    (hstep : C.worldStep w (Event.component i a) = some w') (hj : j ≠ i) :
    w'.memory j = w.memory j := by
  rcases worldStep_component_eq_some.mp hstep with ⟨shared, memory, _, rfl⟩
  exact Function.update_of_ne hj _ _

theorem memory_eq_or {w w' : World Index Shared Memory}
    {e : Event Index Environment Action} (hstep : C.worldStep w e = some w')
    (i : Index) :
    w'.memory i = w.memory i ∨
      exists a, e = Event.component i a ∧
        C.step i w.shared (w.memory i) a = some (w'.shared, w'.memory i) := by
  cases e with
  | environment e =>
      rcases worldStep_environment_eq_some.mp hstep with ⟨shared, he, rfl⟩
      exact Or.inl rfl
  | component j a =>
      by_cases hj : i = j
      · subst hj
        exact Or.inr ⟨a, rfl, step_of_worldStep hstep⟩
      · exact Or.inl (memory_of_ne hstep hj)

theorem everywhere_component {P Q : Index -> Shared -> Memory -> Prop}
    {w w' : World Index Shared Memory} {i : Index} {a : Action}
    (hw : Everywhere P w) (hstep : C.worldStep w (Event.component i a) = some w')
    (hown : forall shared memory,
      C.step i w.shared (w.memory i) a = some (shared, memory) ->
      P i w.shared (w.memory i) -> Q i shared memory)
    (hother : forall shared memory j,
      C.step i w.shared (w.memory i) a = some (shared, memory) -> j ≠ i ->
      P j w.shared (w.memory j) -> Q j shared (w.memory j)) :
    Everywhere Q w' := by
  rcases worldStep_component_eq_some.mp hstep with ⟨shared, memory, hlocal, heq⟩
  subst heq
  intro j
  by_cases hj : j = i
  · subst hj
    show Q j shared (Function.update w.memory j memory j)
    rw [Function.update_self]
    exact hown shared memory hlocal (hw j)
  · show Q j shared (Function.update w.memory i memory j)
    rw [Function.update_of_ne hj]
    exact hother shared memory j hlocal hj (hw j)

theorem everywhere_environment {P Q : Index -> Shared -> Memory -> Prop}
    {w w' : World Index Shared Memory} {e : Environment}
    (hw : Everywhere P w) (hstep : C.worldStep w (Event.environment e) = some w')
    (hall : forall shared i, C.environment w.shared e = some shared ->
      P i w.shared (w.memory i) -> Q i shared (w.memory i)) :
    Everywhere Q w' := by
  rcases worldStep_environment_eq_some.mp hstep with ⟨shared, he, heq⟩
  subst heq
  intro i
  exact hall shared i he (hw i)

/-!
# Counting the steps of one component
-/

/-- The steps of component `i` that are counted by its memory and action. -/
def countedAt (i : Index) (counted : Memory -> Action -> Bool)
    (w : World Index Shared Memory) : Event Index Environment Action -> Bool
  | Event.environment _ => false
  | Event.component j a => decide (j = i) && counted (w.memory i) a

/-- If every counted step of a component lowers its potential and no step of it
raises it, the others do not matter. -/
theorem countSteps_component_add_le {I : World Index Shared Memory -> Prop} {i : Index}
    {counted : Memory -> Action -> Bool} {potential : Memory -> Nat}
    (hinv : forall w e w', I w -> C.worldStep w e = some w' -> I w')
    (hpay : forall w a shared memory, I w ->
      C.step i w.shared (w.memory i) a = some (shared, memory) ->
      (if counted (w.memory i) a then 1 else 0) + potential memory <=
        potential (w.memory i))
    {w w' : World Index Shared Memory} {events : List (Event Index Environment Action)}
    (hw : I w) (hrun : C.system.runFrom w events = some w') :
    C.system.countSteps (countedAt i counted) w events + potential (w'.memory i) <=
      potential (w.memory i) := by
  refine @TransitionSystem.countSteps_add_potential_le _ _ C.system I
    (countedAt i counted) (fun w => potential (w.memory i)) hinv ?_ w w' events hw hrun
  intro w e w' hw hstep
  cases e with
  | environment e =>
      rcases worldStep_environment_eq_some.mp hstep with ⟨shared, he, rfl⟩
      simp [countedAt]
  | component j a =>
      rcases worldStep_component_eq_some.mp hstep with ⟨shared, memory, hlocal, rfl⟩
      by_cases hj : j = i
      · subst hj
        simpa [countedAt] using hpay w a shared memory hw hlocal
      · simp [countedAt, hj, Function.update_of_ne (Ne.symm hj)]

end Components

end Foundation
