import Mathlib.Data.List.Basic

/-!
# Guarded transition systems

A system is an initial state and an executable step function that is undefined
on the actions its guards refuse.  A run is a list of actions all of which are
enabled in turn.  The rules below package the two inductions over runs: a step
invariant becomes a run invariant, and a potential that pays for each counted
action bounds the number of counted actions.
-/

namespace Foundation

structure TransitionSystem (State Action : Type) where
  init : State
  step : State -> Action -> Option State

namespace TransitionSystem

variable {State Action : Type} (M : TransitionSystem State Action)

/-- The state after a list of actions, if every action is enabled in turn. -/
def runFrom (s : State) : List Action -> Option State
  | [] => some s
  | a :: rest => (M.step s a).bind fun s' => runFrom s' rest

def run (actions : List Action) : Option State :=
  M.runFrom M.init actions

def Reachable (s : State) : Prop :=
  exists actions, M.run actions = some s

/-- Every step of the run meets a condition on its source state and action. -/
def AllSteps (C : State -> Action -> Prop) : State -> List Action -> Prop
  | _, [] => True
  | s, a :: rest => C s a ∧ forall s', M.step s a = some s' -> AllSteps C s' rest

/-- Every state the run passes through, its end points included, satisfies a
predicate. -/
def AllStates (P : State -> Prop) : State -> List Action -> Prop
  | s, [] => P s
  | s, a :: rest => P s ∧ forall s', M.step s a = some s' -> AllStates P s' rest

/-!
# Composing runs
-/

@[simp] theorem runFrom_nil (s : State) : M.runFrom s [] = some s := rfl

theorem runFrom_cons_eq_some {s s' : State} {a : Action} {rest : List Action} :
    M.runFrom s (a :: rest) = some s' <->
      exists mid, M.step s a = some mid ∧ M.runFrom mid rest = some s' := by
  simp [runFrom, Option.bind_eq_some_iff]

theorem runFrom_append_eq_some {s s' : State} {before after : List Action} :
    M.runFrom s (before ++ after) = some s' <->
      exists mid, M.runFrom s before = some mid ∧ M.runFrom mid after = some s' := by
  induction before generalizing s with
  | nil => simp
  | cons a rest ih =>
      rw [List.cons_append, runFrom_cons_eq_some]
      constructor
      · intro h
        rcases h with ⟨next, hnext, hrest⟩
        rcases ih.mp hrest with ⟨mid, hmid, hafter⟩
        exact ⟨mid, (M.runFrom_cons_eq_some).mpr ⟨next, hnext, hmid⟩, hafter⟩
      · intro h
        rcases h with ⟨mid, hmid, hafter⟩
        rcases (M.runFrom_cons_eq_some).mp hmid with ⟨next, hnext, hrest⟩
        exact ⟨next, hnext, ih.mpr ⟨mid, hrest, hafter⟩⟩

theorem exists_runFrom_of_total (htotal : forall s a, exists s', M.step s a = some s')
    (s : State) (actions : List Action) :
    exists s', M.runFrom s actions = some s' := by
  induction actions generalizing s with
  | nil => exact ⟨s, rfl⟩
  | cons a rest ih =>
      rcases htotal s a with ⟨mid, hmid⟩
      rcases ih mid with ⟨s', hrest⟩
      exact ⟨s', (M.runFrom_cons_eq_some).mpr ⟨mid, hmid, hrest⟩⟩

/-!
# Invariant rules
-/

section Invariants

variable {M}
variable {P : State -> Prop}

theorem AllStates.head {s : State} {actions : List Action}
    (hall : M.AllStates P s actions) : P s := by
  cases actions with
  | nil => exact hall
  | cons a rest => exact hall.1

theorem AllStates.imp {Q : State -> Prop} (himp : forall s, P s -> Q s) {s : State}
    {actions : List Action} (hall : M.AllStates P s actions) :
    M.AllStates Q s actions := by
  induction actions generalizing s with
  | nil => exact himp s hall
  | cons a rest ih => exact ⟨himp s hall.1, fun mid hmid => ih (hall.2 mid hmid)⟩

theorem AllStates.allSteps {C : State -> Action -> Prop}
    (himp : forall s a, P s -> C s a) {s : State} {actions : List Action}
    (hall : M.AllStates P s actions) : M.AllSteps C s actions := by
  induction actions generalizing s with
  | nil => exact True.intro
  | cons a rest ih => exact ⟨himp s a hall.1, fun mid hmid => ih (hall.2 mid hmid)⟩

theorem AllSteps.cons {C : State -> Action -> Prop} {s s' : State} {a : Action}
    {rest : List Action} (hstep : M.step s a = some s') (hhere : C s a)
    (hrest : M.AllSteps C s' rest) : M.AllSteps C s (a :: rest) := by
  refine ⟨hhere, ?_⟩
  intro next hnext
  rw [hstep] at hnext
  cases hnext
  exact hrest

theorem allSteps_of_forall_mem {C : State -> Action -> Prop} {actions : List Action}
    (hall : forall a, a ∈ actions -> forall s, C s a) (s : State) :
    M.AllSteps C s actions := by
  induction actions generalizing s with
  | nil => exact True.intro
  | cons a rest ih =>
      refine ⟨hall a List.mem_cons_self s, ?_⟩
      intro mid _
      exact ih (fun b hb => hall b (List.mem_cons_of_mem a hb)) mid

theorem allSteps_of_forall {C : State -> Action -> Prop} (hall : forall s a, C s a)
    (s : State) (actions : List Action) : M.AllSteps C s actions :=
  allSteps_of_forall_mem (fun a _ s => hall s a) s

theorem AllSteps.append {C : State -> Action -> Prop} {s mid : State}
    {before after : List Action} (hbefore : M.AllSteps C s before)
    (hrun : M.runFrom s before = some mid) (hafter : M.AllSteps C mid after) :
    M.AllSteps C s (before ++ after) := by
  induction before generalizing s with
  | nil =>
      cases hrun
      exact hafter
  | cons a rest ih =>
      rcases (M.runFrom_cons_eq_some).mp hrun with ⟨next, hnext, hrest⟩
      exact AllSteps.cons hnext hbefore.1 (ih (hbefore.2 next hnext) hrest)

theorem AllSteps.append_singleton {C : State -> Action -> Prop} {s mid : State}
    {before : List Action} {last : Action} (hbefore : M.AllSteps C s before)
    (hrun : M.runFrom s before = some mid) (hlast : C mid last) :
    M.AllSteps C s (before ++ [last]) :=
  hbefore.append hrun ⟨hlast, fun _ _ => True.intro⟩

theorem AllSteps.imp {C D : State -> Action -> Prop}
    (himp : forall s a, C s a -> D s a) {s : State} {actions : List Action}
    (hall : M.AllSteps C s actions) : M.AllSteps D s actions := by
  induction actions generalizing s with
  | nil => exact True.intro
  | cons a rest ih =>
      exact ⟨himp s a hall.1, fun mid hmid => ih (hall.2 mid hmid)⟩

/-- The invariant rule restricted to runs whose steps all meet a condition. -/
theorem invariant_runFrom_of_allSteps {C : State -> Action -> Prop}
    (hstep : forall s a s', P s -> C s a -> M.step s a = some s' -> P s')
    {s s' : State} {actions : List Action} (hs : P s)
    (hall : M.AllSteps C s actions) (hrun : M.runFrom s actions = some s') :
    P s' := by
  induction actions generalizing s with
  | nil =>
      cases hrun
      exact hs
  | cons a rest ih =>
      rcases (M.runFrom_cons_eq_some).mp hrun with ⟨mid, hmid, hrest⟩
      exact ih (hstep s a mid hs hall.1 hmid) (hall.2 mid hmid) hrest

theorem invariant_runFrom
    (hstep : forall s a s', P s -> M.step s a = some s' -> P s')
    {s s' : State} {actions : List Action} (hs : P s)
    (hrun : M.runFrom s actions = some s') : P s' :=
  invariant_runFrom_of_allSteps (fun s a s' hs _ => hstep s a s' hs) hs
    (allSteps_of_forall (fun _ _ => True.intro) s actions) hrun

theorem invariant_reachable (hinit : P M.init)
    (hstep : forall s a s', P s -> M.step s a = some s' -> P s')
    {s : State} (hs : M.Reachable s) : P s := by
  rcases hs with ⟨actions, hrun⟩
  exact invariant_runFrom hstep hinit hrun

/-- Under an invariant, a condition that implies another one on every step of the
invariant's states implies it on runs. -/
theorem AllSteps.imp_of_invariant {C D : State -> Action -> Prop}
    (hinv : forall s a s', P s -> M.step s a = some s' -> P s')
    (himp : forall s a s', P s -> M.step s a = some s' -> C s a -> D s a)
    {s s' : State} {actions : List Action} (hs : P s)
    (hrun : M.runFrom s actions = some s') (hall : M.AllSteps C s actions) :
    M.AllSteps D s actions := by
  induction actions generalizing s with
  | nil => exact True.intro
  | cons a rest ih =>
      rcases (M.runFrom_cons_eq_some).mp hrun with ⟨mid, hmid, hrest⟩
      have hhere := himp s a mid hs hmid hall.1
      have htail := ih (hinv s a mid hs hmid) hrest (hall.2 mid hmid)
      exact AllSteps.cons hmid hhere htail

theorem allSteps_congr {C D : State -> Action -> Prop}
    (hinv : forall s a s', P s -> M.step s a = some s' -> P s')
    (hiff : forall s a s', P s -> M.step s a = some s' -> (C s a <-> D s a))
    {s s' : State} {actions : List Action} (hs : P s)
    (hrun : M.runFrom s actions = some s') :
    M.AllSteps C s actions <-> M.AllSteps D s actions := by
  constructor
  · exact AllSteps.imp_of_invariant hinv
      (fun s a s' hs hstep => (hiff s a s' hs hstep).mp) hs hrun
  · exact AllSteps.imp_of_invariant hinv
      (fun s a s' hs hstep => (hiff s a s' hs hstep).mpr) hs hrun

/-- In a run whose steps all meet a condition, a predicate holds all along exactly if
every step meets the condition under which it survives the step. -/
theorem allStates_iff_of_allSteps {I : State -> Prop} {C D : State -> Action -> Prop}
    (hinv : forall s a s', I s -> C s a -> M.step s a = some s' -> I s')
    (hiff : forall s a s', I s -> P s -> C s a -> M.step s a = some s' ->
      (P s' <-> D s a))
    {s s' : State} {actions : List Action} (hI : I s) (hs : P s)
    (hC : M.AllSteps C s actions) (hrun : M.runFrom s actions = some s') :
    M.AllStates P s actions <-> M.AllSteps D s actions := by
  induction actions generalizing s with
  | nil => exact ⟨fun _ => True.intro, fun _ => hs⟩
  | cons a rest ih =>
      rcases (M.runFrom_cons_eq_some).mp hrun with ⟨mid, hmid, hrest⟩
      have hstep := hiff s a mid hI hs hC.1 hmid
      have hImid := hinv s a mid hI hC.1 hmid
      have hCrest := hC.2 mid hmid
      constructor
      · intro hall
        have hmidAll := hall.2 mid hmid
        have hmidP : P mid := hmidAll.head
        have htail := (ih hImid hmidP hCrest hrest).mp hmidAll
        exact AllSteps.cons hmid (hstep.mp hmidP) htail
      · intro hall
        refine ⟨hs, ?_⟩
        intro next hnext
        rw [hmid] at hnext
        cases hnext
        have hmidP : P mid := hstep.mpr hall.1
        exact (ih hImid hmidP hCrest hrest).mpr (hall.2 mid hmid)

/-- A predicate holds all along a run exactly if every step meets the condition
under which it survives the step. -/
theorem allStates_iff_allSteps {I : State -> Prop} {C : State -> Action -> Prop}
    (hinv : forall s a s', I s -> M.step s a = some s' -> I s')
    (hiff : forall s a s', I s -> P s -> M.step s a = some s' -> (P s' <-> C s a))
    {s s' : State} {actions : List Action} (hI : I s) (hs : P s)
    (hrun : M.runFrom s actions = some s') :
    M.AllStates P s actions <-> M.AllSteps C s actions :=
  allStates_iff_of_allSteps (fun s a s' hI _ => hinv s a s' hI)
    (fun s a s' hI hs _ => hiff s a s' hI hs) hI hs
    (allSteps_of_forall (fun _ _ => True.intro) s actions) hrun

end Invariants

/-!
# Histories

The rules above forget how a state was reached.  The next ones keep the list of
actions that led to it.
-/

section Histories

variable {M}

/-- The invariant rule for a predicate on the actions so far and the state they
lead to. -/
theorem invariant_run_history {P : List Action -> State -> Prop}
    (hinit : P [] M.init)
    (hstep : forall before s a s', P before s -> M.step s a = some s' ->
      P (before ++ [a]) s')
    {actions : List Action} {s : State} (hrun : M.run actions = some s) :
    P actions s := by
  have hfrom : forall rest before mid, P before mid ->
      M.runFrom mid rest = some s -> P (before ++ rest) s := by
    intro rest
    induction rest with
    | nil =>
        intro before mid hmid hrest
        cases hrest
        rw [List.append_nil]
        exact hmid
    | cons a rest ih =>
        intro before mid hmid hrest
        rcases (M.runFrom_cons_eq_some).mp hrest with ⟨next, hnext, htail⟩
        have hlonger := ih (before ++ [a]) next (hstep before mid a next hmid hnext) htail
        rw [List.append_assoc] at hlonger
        exact hlonger
  exact hfrom actions [] M.init hinit hrun

theorem allStates_iff {P : State -> Prop} {s : State} {actions : List Action} :
    M.AllStates P s actions <->
      forall before after mid, actions = before ++ after ->
        M.runFrom s before = some mid -> P mid := by
  induction actions generalizing s with
  | nil =>
      constructor
      · intro hs before after mid hsplit hmid
        rcases List.nil_eq_append_iff.mp hsplit with ⟨hbefore, _⟩
        subst hbefore
        cases hmid
        exact hs
      · intro hall
        exact hall [] [] s rfl rfl
  | cons a rest ih =>
      constructor
      · intro hs before after mid hsplit hmid
        cases before with
        | nil =>
            cases hmid
            exact hs.1
        | cons b before =>
            cases hsplit
            rcases (M.runFrom_cons_eq_some).mp hmid with ⟨next, hnext, hbefore⟩
            exact ih.mp (hs.2 next hnext) before after mid rfl hbefore
      · intro hall
        refine ⟨hall [] (a :: rest) s rfl rfl, ?_⟩
        intro next hnext
        apply ih.mpr
        intro before after mid hsplit hmid
        apply hall (a :: before) after mid
        · rw [hsplit]
          rfl
        · exact (M.runFrom_cons_eq_some).mpr ⟨next, hnext, hmid⟩

theorem allSteps_iff {C : State -> Action -> Prop} {s : State} {actions : List Action} :
    M.AllSteps C s actions <->
      forall before a after mid, actions = before ++ a :: after ->
        M.runFrom s before = some mid -> C mid a := by
  induction actions generalizing s with
  | nil =>
      constructor
      · intro _ before a after mid hsplit
        cases before <;> cases hsplit
      · intro _
        exact True.intro
  | cons b rest ih =>
      constructor
      · intro hs before a after mid hsplit hmid
        cases before with
        | nil =>
            cases hmid
            cases hsplit
            exact hs.1
        | cons c before =>
            cases hsplit
            rcases (M.runFrom_cons_eq_some).mp hmid with ⟨next, hnext, hbefore⟩
            exact ih.mp (hs.2 next hnext) before a after mid rfl hbefore
      · intro hall
        refine ⟨hall [] b rest s rfl rfl, ?_⟩
        intro next hnext
        apply ih.mpr
        intro before a after mid hsplit hmid
        apply hall (b :: before) a after mid
        · rw [hsplit]
          rfl
        · exact (M.runFrom_cons_eq_some).mpr ⟨next, hnext, hmid⟩

end Histories

/-!
# Observing runs

What each step shows of itself, in the order of the run.
-/

section Observations

variable {Seen : Type}

def observe (see : State -> Action -> List Seen) : State -> List Action -> List Seen
  | _, [] => []
  | s, a :: rest =>
      see s a ++
        match M.step s a with
        | some s' => observe see s' rest
        | none => []

variable {M} {see : State -> Action -> List Seen}

theorem observe_cons {s s' : State} {a : Action} {rest : List Action}
    (hstep : M.step s a = some s') :
    M.observe see s (a :: rest) = see s a ++ M.observe see s' rest := by
  rw [observe, hstep]

/-- The invariant rule for a predicate on what was seen so far and the state. -/
theorem invariant_observe {P : List Seen -> State -> Prop}
    (hstep : forall seen s a s', P seen s -> M.step s a = some s' ->
      P (seen ++ see s a) s')
    {seen : List Seen} {s s' : State} {actions : List Action} (hs : P seen s)
    (hrun : M.runFrom s actions = some s') :
    P (seen ++ M.observe see s actions) s' := by
  induction actions generalizing seen s with
  | nil =>
      cases hrun
      rw [observe, List.append_nil]
      exact hs
  | cons a rest ih =>
      rcases (M.runFrom_cons_eq_some).mp hrun with ⟨mid, hmid, hrest⟩
      rw [observe_cons hmid, ← List.append_assoc]
      exact ih (hstep seen s a mid hs hmid) hrest

end Observations

/-!
# Counting steps by a potential
-/

section Potential

def countSteps (counted : State -> Action -> Bool) : State -> List Action -> Nat
  | _, [] => 0
  | s, a :: rest =>
      (if counted s a then 1 else 0) +
        match M.step s a with
        | some s' => countSteps counted s' rest
        | none => 0

variable {M}

/-- If every counted step lowers the potential and no step raises it, the counted
steps of a run are at most the potential it started with. -/
theorem countSteps_add_potential_le {I : State -> Prop}
    {counted : State -> Action -> Bool} {potential : State -> Nat}
    (hinv : forall s a s', I s -> M.step s a = some s' -> I s')
    (hpay : forall s a s', I s -> M.step s a = some s' ->
      (if counted s a then 1 else 0) + potential s' <= potential s)
    {s s' : State} {actions : List Action} (hs : I s)
    (hrun : M.runFrom s actions = some s') :
    M.countSteps counted s actions + potential s' <= potential s := by
  induction actions generalizing s with
  | nil =>
      cases hrun
      simp [countSteps]
  | cons a rest ih =>
      rcases (M.runFrom_cons_eq_some).mp hrun with ⟨mid, hmid, hrest⟩
      have hrestLe := ih (hinv s a mid hs hmid) hrest
      have hstepLe := hpay s a mid hs hmid
      rw [countSteps, hmid]
      show (if counted s a then 1 else 0) + M.countSteps counted mid rest +
        potential s' <= potential s
      omega

end Potential

end TransitionSystem

end Foundation
