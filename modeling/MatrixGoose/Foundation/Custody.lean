import MatrixGoose.Foundation.Components

/-!
# Entries that a component has to remove

A component that finds no entry in the shared memory takes it upon itself to make one
and to remove it again; the others leave it alone.  If this keeper fails before it has
removed the entry, then nobody does.
-/

namespace Foundation

open Components

inductive CustodyStep (held held' keeps keeps' fails : Prop) : Prop
  | idle (hheld : held' <-> held) (hkeeps : keeps' <-> keeps) (hfails : ¬ fails)
  | taken (hheld : ¬ held) (hkeeps : ¬ keeps) (hkeeps' : keeps') (hfails : ¬ fails)
  | kept (hkeeps : keeps) (hkeeps' : keeps') (hfails : ¬ fails)
  | released (hheld : ¬ held') (hkeeps : keeps) (hkeeps' : ¬ keeps') (hfails : ¬ fails)
  | abandoned (hheld : held' <-> held) (hkeeps : keeps) (hkeeps' : ¬ keeps')
      (hfails : fails)

variable {Index Shared Memory Environment Action : Type} [DecidableEq Index]

/-- The entry, which is there if `Held`, changes hands among the components, of which
those that `Keeps` holds of have to remove it. -/
structure Custody (C : Components Index Shared Memory Environment Action)
    (Held : Shared -> Prop) (Keeps : Memory -> Prop) (Fails : Memory -> Action -> Prop) :
    Prop where
  step : forall {i shared memory a shared' memory'},
    C.step i shared memory a = some (shared', memory') ->
    CustodyStep (Held shared) (Held shared') (Keeps memory) (Keeps memory')
      (Fails memory a)
  environment : forall {shared e shared'}, C.environment shared e = some shared' ->
    (Held shared' <-> Held shared)

namespace Custody

def Covered (Held : Shared -> Prop) (Keeps : Memory -> Prop)
    (w : World Index Shared Memory) : Prop :=
  Held w.shared -> exists i, Keeps (w.memory i)

def Orphaned (Held : Shared -> Prop) (Keeps : Memory -> Prop)
    (w : World Index Shared Memory) : Prop :=
  Held w.shared ∧ forall i, ¬ Keeps (w.memory i)

/-- A keeper that fails while there is an entry leaves it to another keeper. -/
def FailureCovered (Held : Shared -> Prop) (Keeps : Memory -> Prop)
    (Fails : Memory -> Action -> Prop) (w : World Index Shared Memory)
    (e : Event Index Environment Action) : Prop :=
  forall i a, e = Event.component i a -> Fails (w.memory i) a -> Held w.shared ->
    exists j, j ≠ i ∧ Keeps (w.memory j)

variable {C : Components Index Shared Memory Environment Action}
variable {Held : Shared -> Prop} {Keeps : Memory -> Prop}
variable {Fails : Memory -> Action -> Prop}

omit [DecidableEq Index] in
theorem not_covered_iff {w : World Index Shared Memory} :
    ¬ Covered Held Keeps w <-> Orphaned Held Keeps w := by
  simp [Covered, Orphaned]

omit [DecidableEq Index] in
theorem Covered.not_held {w : World Index Shared Memory} (hw : Covered Held Keeps w)
    (hnone : forall i, ¬ Keeps (w.memory i)) : ¬ Held w.shared := by
  intro hheld
  rcases hw hheld with ⟨i, hi⟩
  exact hnone i hi

theorem Covered.not_held_of_others {w : World Index Shared Memory} {i : Index}
    (hw : Covered Held Keeps w) (hown : ¬ Keeps (w.memory i))
    (hothers : forall j, j ≠ i -> ¬ Keeps (w.memory j)) : ¬ Held w.shared := by
  apply hw.not_held
  intro j
  by_cases hsame : j = i
  · subst hsame
    exact hown
  · exact hothers j hsame

theorem exists_keeps_update {memory : Index -> Memory} {i : Index} {m : Memory} :
    (exists j, Keeps (Function.update memory i m j)) <->
      Keeps m ∨ exists j, j ≠ i ∧ Keeps (memory j) := by
  constructor
  · intro h
    rcases h with ⟨j, hj⟩
    by_cases hsame : j = i
    · subst hsame
      rw [Function.update_self] at hj
      exact Or.inl hj
    · rw [Function.update_of_ne hsame] at hj
      exact Or.inr ⟨j, hsame, hj⟩
  · intro h
    rcases h with hown | ⟨j, hne, hj⟩
    · refine ⟨i, ?_⟩
      rw [Function.update_self]
      exact hown
    · refine ⟨j, ?_⟩
      rw [Function.update_of_ne hne]
      exact hj

theorem exists_keeps_iff {memory : Index -> Memory} (i : Index) :
    (exists j, Keeps (memory j)) <->
      Keeps (memory i) ∨ exists j, j ≠ i ∧ Keeps (memory j) := by
  rw [← exists_keeps_update, Function.update_eq_self]

/-- A step keeps the entry covered exactly if a keeper that fails leaves it to another
one. -/
theorem covered_step_iff (h : Custody C Held Keeps Fails)
    {w w' : World Index Shared Memory} {e : Event Index Environment Action}
    (hw : Covered Held Keeps w) (hstep : C.worldStep w e = some w') :
    Covered Held Keeps w' <-> FailureCovered Held Keeps Fails w e := by
  cases e with
  | environment e =>
      rcases worldStep_environment_eq_some.mp hstep with ⟨shared, he, rfl⟩
      have hcovered : Covered Held Keeps { w with shared } :=
        fun hheld => hw ((h.environment he).mp hheld)
      exact iff_of_true hcovered nofun
  | component i a =>
      rcases worldStep_component_eq_some.mp hstep with ⟨shared, memory, hlocal, rfl⟩
      have hbefore : Held w.shared -> Keeps (w.memory i) ∨
          exists j, j ≠ i ∧ Keeps (w.memory j) :=
        fun hheld => (exists_keeps_iff i).mp (hw hheld)
      have hafter : Covered Held Keeps
            { shared, memory := Function.update w.memory i memory } <->
          (Held shared -> Keeps memory ∨ exists j, j ≠ i ∧ Keeps (w.memory j)) :=
        imp_congr_right fun _ => exists_keeps_update
      have hcondition : FailureCovered Held Keeps Fails w
            (Event.component i a : Event Index Environment Action) <->
          (Fails (w.memory i) a -> Held w.shared ->
            exists j, j ≠ i ∧ Keeps (w.memory j)) := by
        constructor
        · intro hcovered
          exact hcovered i a rfl
        · intro hcovered j b he
          cases he
          exact hcovered
      rw [hafter, hcondition]
      cases h.step hlocal with
      | idle hheld hkeeps hfails =>
          rw [hheld, hkeeps]
          exact iff_of_true hbefore (fun hfail => absurd hfail hfails)
      | taken hheld hkeeps hkeeps' hfails =>
          exact iff_of_true (fun _ => Or.inl hkeeps') (fun hfail => absurd hfail hfails)
      | kept hkeeps hkeeps' hfails =>
          exact iff_of_true (fun _ => Or.inl hkeeps') (fun hfail => absurd hfail hfails)
      | released hheld hkeeps hkeeps' hfails =>
          exact iff_of_true (fun hheld' => absurd hheld' hheld)
            (fun hfail => absurd hfail hfails)
      | abandoned hheld hkeeps hkeeps' hfails =>
          rw [hheld]
          simp only [hkeeps', hfails, false_or, forall_true_left]

theorem orphaned_step (h : Custody C Held Keeps Fails)
    {w w' : World Index Shared Memory} {e : Event Index Environment Action}
    (hw : Orphaned Held Keeps w) (hstep : C.worldStep w e = some w') :
    Orphaned Held Keeps w' := by
  rcases hw with ⟨hheld, hnone⟩
  cases e with
  | environment e =>
      rcases worldStep_environment_eq_some.mp hstep with ⟨shared, he, rfl⟩
      exact ⟨(h.environment he).mpr hheld, hnone⟩
  | component i a =>
      rcases worldStep_component_eq_some.mp hstep with ⟨shared, memory, hlocal, rfl⟩
      cases h.step hlocal with
      | idle hheld' hkeeps hfails =>
          refine ⟨hheld'.mpr hheld, ?_⟩
          intro j hkeeper
          rcases exists_keeps_update.mp ⟨j, hkeeper⟩ with hown | ⟨k, _, hk⟩
          · exact hnone i (hkeeps.mp hown)
          · exact hnone k hk
      | taken hfree hkeeps hkeeps' hfails => exact absurd hheld hfree
      | kept hkeeps hkeeps' hfails => exact absurd hkeeps (hnone i)
      | released hheld' hkeeps hkeeps' hfails => exact absurd hkeeps (hnone i)
      | abandoned hheld' hkeeps hkeeps' hfails => exact absurd hkeeps (hnone i)

/-- An entry that was left behind stays for good. -/
theorem orphaned_runFrom (h : Custody C Held Keeps Fails)
    {w w' : World Index Shared Memory} {events : List (Event Index Environment Action)}
    (hw : Orphaned Held Keeps w) (hrun : C.system.runFrom w events = some w') :
    Orphaned Held Keeps w' :=
  TransitionSystem.invariant_runFrom (P := Orphaned Held Keeps)
    (fun _ _ _ hs hstep => h.orphaned_step hs hstep) hw hrun

end Custody

end Foundation
