import MatrixGoose.Foundation.TransitionSystem

/-!
# Updates computed from a replica

A content is kept twice.  A change is computed from the replica and written to the
primary copy; the replica takes over the primary at other times, or not at all.  Changes
are lost if the replica is behind in what the change does not overwrite.
-/

namespace Foundation

namespace Replica

variable {State Action Content Change : Type}

def applied (change : Action -> Option Change) (apply : Change -> Content -> Content)
    (content : Content) (actions : List Action) : Content :=
  (actions.filterMap change).foldl (fun content c => apply c content) content

structure UpdatesFromReplica (M : TransitionSystem State Action)
    (primary replica : State -> Content) (change : Action -> Option Change)
    (apply : Change -> Content -> Content) : Prop where
  writes : forall s a s' c, M.step s a = some s' -> change a = some c ->
    primary s' = apply c (replica s)
  keeps : forall s a s', M.step s a = some s' -> change a = none ->
    primary s' = primary s

/-- All along a run the primary holds its first content with the changes so far applied
in order. -/
def Lossless (M : TransitionSystem State Action) (primary : State -> Content)
    (change : Action -> Option Change) (apply : Change -> Content -> Content)
    (s : State) (actions : List Action) : Prop :=
  forall before after mid, actions = before ++ after -> M.runFrom s before = some mid ->
    primary mid = applied change apply (primary s) before

/-- A change comes out the same on the replica as on the primary. -/
def UpToDate (primary replica : State -> Content) (change : Action -> Option Change)
    (apply : Change -> Content -> Content) (s : State) (a : Action) : Prop :=
  forall c, change a = some c -> apply c (replica s) = apply c (primary s)

section Rules

variable {M : TransitionSystem State Action} {primary replica : State -> Content}
variable {change : Action -> Option Change} {apply : Change -> Content -> Content}

theorem applied_cons (content : Content) (a : Action) (rest : List Action) :
    applied change apply content (a :: rest) =
      applied change apply (applied change apply content [a]) rest := by
  unfold applied
  cases hchange : change a with
  | none => simp [hchange]
  | some c => simp [hchange]

theorem applied_singleton_of_none {a : Action} (h : change a = none)
    (content : Content) : applied change apply content [a] = content := by
  simp [applied, h]

theorem applied_singleton_of_some {a : Action} {c : Change} (h : change a = some c)
    (content : Content) : applied change apply content [a] = apply c content := by
  simp [applied, h]

theorem lossless_nil (s : State) : Lossless M primary change apply s [] := by
  intro before after mid hsplit hmid
  rcases List.nil_eq_append_iff.mp hsplit with ⟨hbefore, _⟩
  subst hbefore
  cases hmid
  rfl

theorem lossless_cons {s s' : State} {a : Action} {rest : List Action}
    (hstep : M.step s a = some s') :
    Lossless M primary change apply s (a :: rest) <->
      primary s' = applied change apply (primary s) [a] ∧
        Lossless M primary change apply s' rest := by
  constructor
  · intro h
    have hfirst : primary s' = applied change apply (primary s) [a] :=
      h [a] rest s' rfl ((M.runFrom_cons_eq_some).mpr ⟨s', hstep, rfl⟩)
    refine ⟨hfirst, ?_⟩
    intro before after mid hsplit hmid
    rw [hfirst, ← applied_cons]
    apply h (a :: before) after mid
    · rw [hsplit]
      rfl
    · exact (M.runFrom_cons_eq_some).mpr ⟨s', hstep, hmid⟩
  · intro h before after mid hsplit hmid
    cases before with
    | nil =>
        cases hmid
        rfl
    | cons b before =>
        cases hsplit
        rcases (M.runFrom_cons_eq_some).mp hmid with ⟨next, hnext, hbefore⟩
        rw [hstep] at hnext
        cases hnext
        rw [applied_cons, ← h.1]
        exact h.2 before after mid rfl hbefore

/-- One step loses nothing exactly if its change comes out the same on both copies. -/
theorem UpdatesFromReplica.applied_iff
    (h : UpdatesFromReplica M primary replica change apply) {s s' : State} {a : Action}
    (hstep : M.step s a = some s') :
    primary s' = applied change apply (primary s) [a] <->
      UpToDate primary replica change apply s a := by
  unfold UpToDate
  cases hchange : change a with
  | none =>
      rw [applied_singleton_of_none hchange, h.keeps s a s' hstep hchange]
      exact iff_of_true rfl nofun
  | some c =>
      rw [applied_singleton_of_some hchange, h.writes s a s' c hstep hchange]
      simp

/-- No change of a run is lost exactly if each comes out the same on both copies. -/
theorem UpdatesFromReplica.lossless_iff
    (h : UpdatesFromReplica M primary replica change apply) {s s' : State}
    {actions : List Action} (hrun : M.runFrom s actions = some s') :
    Lossless M primary change apply s actions <->
      M.AllSteps (UpToDate primary replica change apply) s actions := by
  induction actions generalizing s with
  | nil => exact iff_of_true (lossless_nil s) True.intro
  | cons a rest ih =>
      rcases (M.runFrom_cons_eq_some).mp hrun with ⟨mid, hmid, hrest⟩
      rw [lossless_cons hmid, h.applied_iff hmid, ih hrest]
      constructor
      · intro hboth
        exact TransitionSystem.AllSteps.cons hmid hboth.1 hboth.2
      · intro hall
        exact ⟨hall.1, hall.2 mid hmid⟩

end Rules

/-!
# Several replicas

There may be several copies, and which one a change is computed from depends on the action.
-/

structure UpdatesFromCopies (M : TransitionSystem State Action) (primary : State -> Content)
    (copy : State -> Action -> Content) (change : Action -> Option Change)
    (apply : Change -> Content -> Content) : Prop where
  writes : forall s a s' c, M.step s a = some s' -> change a = some c ->
    primary s' = apply c (copy s a)
  keeps : forall s a s', M.step s a = some s' -> change a = none ->
    primary s' = primary s

def CopyUpToDate (primary : State -> Content) (copy : State -> Action -> Content)
    (change : Action -> Option Change) (apply : Change -> Content -> Content) (s : State)
    (a : Action) : Prop :=
  forall c, change a = some c -> apply c (copy s a) = apply c (primary s)

section Copies

variable {M : TransitionSystem State Action} {primary : State -> Content}
variable {copy : State -> Action -> Content} {change : Action -> Option Change}
variable {apply : Change -> Content -> Content}

theorem UpdatesFromCopies.applied_iff
    (h : UpdatesFromCopies M primary copy change apply) {s s' : State} {a : Action}
    (hstep : M.step s a = some s') :
    primary s' = applied change apply (primary s) [a] <->
      CopyUpToDate primary copy change apply s a := by
  unfold CopyUpToDate
  cases hchange : change a with
  | none =>
      rw [applied_singleton_of_none hchange, h.keeps s a s' hstep hchange]
      exact iff_of_true rfl nofun
  | some c =>
      rw [applied_singleton_of_some hchange, h.writes s a s' c hstep hchange]
      simp

/-- No change of a run is lost exactly if each comes out the same on the copy that it is
computed from as on the primary. -/
theorem UpdatesFromCopies.lossless_iff
    (h : UpdatesFromCopies M primary copy change apply) {s s' : State}
    {actions : List Action} (hrun : M.runFrom s actions = some s') :
    Lossless M primary change apply s actions <->
      M.AllSteps (CopyUpToDate primary copy change apply) s actions := by
  induction actions generalizing s with
  | nil => exact iff_of_true (lossless_nil s) True.intro
  | cons a rest ih =>
      rcases (M.runFrom_cons_eq_some).mp hrun with ⟨mid, hmid, hrest⟩
      rw [lossless_cons hmid, h.applied_iff hmid, ih hrest]
      constructor
      · intro hboth
        exact TransitionSystem.AllSteps.cons hmid hboth.1 hboth.2
      · intro hall
        exact ⟨hall.1, hall.2 mid hmid⟩

end Copies

end Replica

end Foundation
