import Mathlib.Data.List.Basic

/-!
# Scripts

What follows a script does steps of it in their order and leaves out others.  Each step is
done once at most, except that some may be repeated until the next one.
-/

namespace Foundation

variable {Step : Type}

inductive FollowsScript (Repeats : Step -> Prop) : List Step -> List Step -> Prop
  | nil : FollowsScript Repeats [] []
  | skip {done script : List Step} (step : Step) (h : FollowsScript Repeats done script) :
      FollowsScript Repeats done (step :: script)
  | once {done script : List Step} (step : Step) (h : FollowsScript Repeats done script) :
      FollowsScript Repeats (step :: done) (step :: script)
  | again {done script : List Step} {step : Step} (hrepeats : Repeats step)
      (h : FollowsScript Repeats (step :: done) (step :: script)) :
      FollowsScript Repeats (step :: step :: done) (step :: script)

namespace FollowsScript

variable {Repeats : Step -> Prop} {done done' script script' : List Step}

theorem of_sublist (h : done.Sublist script) : FollowsScript Repeats done script := by
  induction h with
  | slnil => exact nil
  | cons step _ ih => exact skip step ih
  | cons_cons step _ ih => exact once step ih

theorem append (h : FollowsScript Repeats done script)
    (h' : FollowsScript Repeats done' script') :
    FollowsScript Repeats (done ++ done') (script ++ script') := by
  induction h with
  | nil => exact h'
  | skip step _ ih => exact skip step ih
  | once step _ ih => exact once step ih
  | again hrepeats _ ih => exact again hrepeats ih

theorem eq_nil (h : FollowsScript Repeats done []) : done = [] := by
  cases h
  rfl

theorem append_again (script : List Step) {step : Step} (hrepeats : Repeats step)
    (h : FollowsScript Repeats done (script ++ [step])) :
    FollowsScript Repeats (done ++ [step]) (script ++ [step]) := by
  generalize hwhole : script ++ [step] = whole at h
  induction h generalizing script with
  | nil => simp at hwhole
  | skip other h ih =>
      cases script with
      | nil =>
          cases hwhole
          rw [h.eq_nil]
          exact once step nil
      | cons first script =>
          cases hwhole
          exact skip other (ih script rfl)
  | once other h ih =>
      cases script with
      | nil =>
          cases hwhole
          rw [h.eq_nil]
          exact again hrepeats (once step nil)
      | cons first script =>
          cases hwhole
          exact once other (ih script rfl)
  | again hother _ ih => exact again hother (ih script hwhole)

end FollowsScript

end Foundation
