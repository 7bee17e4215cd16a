import Mathlib.Data.List.Basic
import Mathlib.Data.List.Perm.Basic

/-!
# Interleavings

A log of what several threads have done, each entry with the name of its thread.
However the threads take turns, the log holds the same entries.
-/

namespace Foundation

variable {Key Event : Type} [DecidableEq Key]

def threadOf (key : Key) (log : List (Key × Event)) : List Event :=
  (log.filter fun entry => entry.1 = key).map Prod.snd

/-- The log consists of what the threads do, each in its own order. -/
def IsInterleaving (threads : Key -> List Event) (log : List (Key × Event)) : Prop :=
  forall key, threadOf key log = threads key

theorem threadOf_cons_self (key : Key) (event : Event) (log : List (Key × Event)) :
    threadOf key ((key, event) :: log) = event :: threadOf key log := by
  simp [threadOf]

theorem threadOf_cons_of_ne {key other : Key} (h : other ≠ key) (event : Event)
    (log : List (Key × Event)) : threadOf key ((other, event) :: log) = threadOf key log := by
  simp [threadOf, h]

theorem count_eq_count_threadOf [DecidableEq Event] (key : Key) (event : Event)
    (log : List (Key × Event)) :
    log.count (key, event) = (threadOf key log).count event := by
  induction log with
  | nil => rfl
  | cons entry rest ih =>
      rcases entry with ⟨other, event'⟩
      by_cases hkey : other = key
      · subst hkey
        rw [threadOf_cons_self, List.count_cons, List.count_cons, ih]
        simp
      · rw [threadOf_cons_of_ne hkey, ← ih, List.count_cons_of_ne]
        intro heq
        exact hkey (Prod.mk.inj heq).1

theorem IsInterleaving.perm [DecidableEq Event] {threads : Key -> List Event}
    {log other : List (Key × Event)} (hlog : IsInterleaving threads log)
    (hother : IsInterleaving threads other) : log.Perm other := by
  rw [List.perm_iff_count]
  intro entry
  rcases entry with ⟨key, event⟩
  rw [count_eq_count_threadOf, count_eq_count_threadOf, hlog key, hother key]

end Foundation
