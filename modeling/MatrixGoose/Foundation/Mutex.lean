import MatrixGoose.Foundation.Components

/-!
# A lock among components

A component takes the lock only while it is free, and only the component that holds the
lock gives it back.  So at most one component holds it, and nobody holds a free lock.
-/

namespace Foundation

open Components

inductive LockStep (locked locked' holds holds' : Prop) : Prop
  | idle (hlocked : locked' <-> locked) (hholds : holds' <-> holds)
  | acquired (hfree : ¬ locked) (hlocked' : locked')
  | released (hholds : holds) (hholds' : ¬ holds')

variable {Index Shared Memory Environment Action : Type} [DecidableEq Index]

/-- The lock is taken if `Locked`, by a component that `Holds` holds of. -/
structure Mutex (C : Components Index Shared Memory Environment Action)
    (Locked : Shared -> Prop) (Holds : Memory -> Prop) : Prop where
  step : forall {i shared memory a shared' memory'},
    C.step i shared memory a = some (shared', memory') ->
    LockStep (Locked shared) (Locked shared') (Holds memory) (Holds memory')
  environment : forall {shared e shared'}, C.environment shared e = some shared' ->
    (Locked shared' <-> Locked shared)

structure Exclusive (Locked : Shared -> Prop) (Holds : Memory -> Prop)
    (w : World Index Shared Memory) : Prop where
  locked : forall i, Holds (w.memory i) -> Locked w.shared
  unique : forall i j, Holds (w.memory i) -> Holds (w.memory j) -> i = j

namespace Exclusive

variable {C : Components Index Shared Memory Environment Action}
variable {Locked : Shared -> Prop} {Holds : Memory -> Prop}

omit [DecidableEq Index] in
theorem not_holds {w : World Index Shared Memory} (hw : Exclusive Locked Holds w)
    (hfree : ¬ Locked w.shared) (i : Index) : ¬ Holds (w.memory i) :=
  fun hi => hfree (hw.locked i hi)

omit [DecidableEq Index] in
theorem not_holds_of_ne {w : World Index Shared Memory} (hw : Exclusive Locked Holds w)
    {i j : Index} (hi : Holds (w.memory i)) (hne : j ≠ i) : ¬ Holds (w.memory j) :=
  fun hj => hne (hw.unique j i hj hi)

omit [DecidableEq Index] in
theorem of_forall_not {w : World Index Shared Memory}
    (hnone : forall i, ¬ Holds (w.memory i)) : Exclusive Locked Holds w where
  locked := fun i hi => absurd hi (hnone i)
  unique := fun i _ hi _ => absurd hi (hnone i)

/-- If one component is the only one that may hold the lock, then the lock is exclusive
as long as it is taken whenever that component holds it. -/
theorem of_only {shared : Shared} {memory : Index -> Memory} {i : Index} {m : Memory}
    (hlocked : Holds m -> Locked shared)
    (hothers : forall j, j ≠ i -> ¬ Holds (memory j)) :
    Exclusive Locked Holds { shared, memory := Function.update memory i m } := by
  have honly : forall j, Holds (Function.update memory i m j) -> j = i ∧ Holds m := by
    intro j hj
    by_cases hji : j = i
    · subst hji
      rw [Function.update_self] at hj
      exact ⟨rfl, hj⟩
    · rw [Function.update_of_ne hji] at hj
      exact absurd hj (hothers j hji)
  constructor
  · intro j hj
    exact hlocked (honly j hj).2
  · intro j k hj hk
    rw [(honly j hj).1, (honly k hk).1]

theorem step (h : Mutex C Locked Holds) {w w' : World Index Shared Memory}
    {e : Event Index Environment Action} (hw : Exclusive Locked Holds w)
    (hstep : C.worldStep w e = some w') : Exclusive Locked Holds w' := by
  cases e with
  | environment e =>
      rcases worldStep_environment_eq_some.mp hstep with ⟨shared, he, rfl⟩
      exact ⟨fun i hi => (h.environment he).mpr (hw.locked i hi), hw.unique⟩
  | component i a =>
      rcases worldStep_component_eq_some.mp hstep with ⟨shared, memory, hlocal, rfl⟩
      cases h.step hlocal with
      | idle hlocked hholds =>
          have hsame : forall j, Holds (Function.update w.memory i memory j) <->
              Holds (w.memory j) := by
            intro j
            by_cases hji : j = i
            · subst hji
              rw [Function.update_self]
              exact hholds
            · rw [Function.update_of_ne hji]
          constructor
          · intro j hj
            exact hlocked.mpr (hw.locked j ((hsame j).mp hj))
          · intro j k hj hk
            exact hw.unique j k ((hsame j).mp hj) ((hsame k).mp hk)
      | acquired hfree hlocked' =>
          exact of_only (fun _ => hlocked') fun j _ => hw.not_holds hfree j
      | released hholds hholds' =>
          exact of_only (fun hm => absurd hm hholds') fun j hj => hw.not_holds_of_ne hholds hj

end Exclusive

end Foundation
