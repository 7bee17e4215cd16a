import MatrixGoose.Foundation.Log

/-!
# A register read off a log

Some entries of a log write a value; the register holds the value that was written last.
-/

namespace Foundation

namespace Register

variable {Entry Value : Type} (writes : Entry -> Option Value) (first : Value)

def contentOf (log : List Entry) : Value :=
  (log.filterMap writes).getLast?.getD first

def WritesNew (before : List Entry) (entry : Entry) : Prop :=
  forall value, writes entry = some value ->
    value ≠ first ∧ value ∉ before.filterMap writes

variable {writes first}

theorem contentOf_append_singleton (log : List Entry) (entry : Entry) :
    contentOf writes first (log ++ [entry]) =
      (writes entry).getD (contentOf writes first log) := by
  cases hentry : writes entry with
  | none => simp [contentOf, hentry]
  | some value => simp [contentOf, hentry]

theorem contentOf_append_of_forall {log entries : List Entry}
    (hnone : forall entry, entry ∈ entries -> writes entry = none) :
    contentOf writes first (log ++ entries) = contentOf writes first log := by
  have hentries : entries.filterMap writes = [] := List.filterMap_eq_nil_iff.mpr hnone
  simp [contentOf, hentries]

theorem contentOf_mem (log : List Entry) :
    contentOf writes first log = first ∨
      contentOf writes first log ∈ log.filterMap writes := by
  unfold contentOf
  cases hlast : (log.filterMap writes).getLast? with
  | none => exact Or.inl rfl
  | some value => exact Or.inr (List.mem_of_getLast? hlast)

theorem exists_last_write {entries : List Entry} {entry : Entry} (hmem : entry ∈ entries)
    (hwrites : writes entry ≠ none) :
    exists before last value after, entries = before ++ last :: after ∧
      writes last = some value ∧ forall other, other ∈ after -> writes other = none := by
  induction entries using List.reverseRecOn with
  | nil => cases hmem
  | append_singleton rest other ih =>
      cases hother : writes other with
      | some value => exact ⟨rest, other, value, [], rfl, hother, nofun⟩
      | none =>
          have hrest : entry ∈ rest := by
            rcases List.mem_append.mp hmem with h | h
            · exact h
            · rw [List.mem_singleton.mp h] at hwrites
              exact absurd hother hwrites
          rcases ih hrest with ⟨before, last, value, after, rfl, hlast, hafter⟩
          refine ⟨before, last, value, after ++ [other], by simp, hlast, ?_⟩
          intro entry' hentry'
          rcases List.mem_append.mp hentry' with h | h
          · exact hafter entry' h
          · rw [List.mem_singleton.mp h]
            exact hother

/-- If every write is new, then the register never returns to a content that it had before
a write. -/
theorem contentOf_ne_of_write {before entries : List Entry} {entry : Entry}
    (hnew : EachEntry (WritesNew writes first) (before ++ entries)) (hmem : entry ∈ entries)
    (hwrites : writes entry ≠ none) :
    contentOf writes first (before ++ entries) ≠ contentOf writes first before := by
  rcases exists_last_write hmem hwrites with ⟨front, last, value, after, rfl, hlast, hafter⟩
  have hvalue : contentOf writes first (before ++ (front ++ last :: after)) = value := by
    have hsplit : before ++ (front ++ last :: after) =
        (before ++ front ++ [last]) ++ after := by simp
    rw [hsplit, contentOf_append_of_forall hafter, contentOf_append_singleton, hlast]
    rfl
  rcases hnew (before ++ front) last after (by simp) value hlast with ⟨hfirst, hnot⟩
  rw [hvalue]
  intro heq
  rcases @contentOf_mem _ _ writes first before with h | h
  · exact hfirst (heq.trans h)
  · apply hnot
    rw [heq, List.filterMap_append]
    exact List.mem_append_left _ h

end Register

end Foundation
