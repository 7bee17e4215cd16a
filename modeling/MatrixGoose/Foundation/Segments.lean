import MatrixGoose.Foundation.FirstMatch

/-!
# Separated segments

Splitting a list at a separator and joining the pieces again.  A block that
ends in the separator occurs in the joined list exactly where its core closes a
segment.
-/

namespace Foundation

namespace Segments

variable {α : Type}

theorem sep_notMem_of_mem_splitOn [DecidableEq α] {sep : α} {xs seg : List α}
    (h : seg ∈ xs.splitOn sep) : sep ∉ seg := by
  induction xs generalizing seg with
  | nil =>
      have hseg : seg = [] := by simpa using h
      simp [hseg]
  | cons x rest ih =>
      rw [List.splitOn_cons_eq_if_modifyHead] at h
      by_cases hx : x = sep
      · rw [if_pos (by simpa using hx)] at h
        rcases List.mem_cons.mp h with hnil | hmem
        · simp [hnil]
        · exact ih hmem
      · rw [if_neg (by simpa using hx)] at h
        cases hsplit : rest.splitOn sep with
        | nil => exact absurd hsplit (List.splitOn_ne_nil sep rest)
        | cons first others =>
            rw [hsplit, List.modifyHead_cons] at h
            rcases List.mem_cons.mp h with hfirst | hmem
            · have hnot : sep ∉ first := ih (by simp [hsplit])
              rw [hfirst]
              simp [hnot, Ne.symm hx]
            · exact ih (by simp [hsplit, hmem])

theorem getLast_splitOn [DecidableEq α] {sep : α} (before : List α) {after : List α}
    (h : sep ∉ after) :
    ((before ++ sep :: after).splitOn sep).getLast (List.splitOn_ne_nil sep _) = after := by
  have hsplit : (before ++ sep :: after).splitOn sep = before.splitOn sep ++ [after] := by
    rw [List.splitOn_append_cons_self, List.splitOn_eq_singleton h]
  simp [hsplit]

theorem intercalate_append {sep : α} {segs others : List (List α)}
    (hsegs : segs ≠ []) (hothers : others ≠ []) :
    [sep].intercalate (segs ++ others) =
      [sep].intercalate segs ++ sep :: [sep].intercalate others := by
  induction segs with
  | nil => exact absurd rfl hsegs
  | cons seg rest ih =>
      cases rest with
      | nil =>
          rw [List.singleton_append, List.intercalate_cons_of_ne_nil hothers]
          simp
      | cons next tail =>
          have htail := ih (by simp)
          calc
            [sep].intercalate (seg :: next :: tail ++ others) =
                seg ++ [sep] ++ [sep].intercalate (next :: tail ++ others) :=
              List.intercalate_cons_cons
            _ = seg ++ [sep] ++ ([sep].intercalate (next :: tail) ++
                sep :: [sep].intercalate others) := by rw [htail]
            _ = [sep].intercalate (seg :: next :: tail) ++
                sep :: [sep].intercalate others := by
              rw [List.intercalate_cons_cons]
              simp

theorem infix_of_mem {sep : α} {seg : List α} {segs : List (List α)}
    (hmem : seg ∈ segs) : seg <:+: [sep].intercalate segs := by
  induction segs with
  | nil => cases hmem
  | cons first rest ih =>
      cases rest with
      | nil =>
          have hseg : seg = first := by simpa using hmem
          simp [hseg]
      | cons next tail =>
          rw [List.intercalate_cons_of_ne_nil (by simp)]
          rcases List.mem_cons.mp hmem with hfirst | hrest
          · subst hfirst
            exact ⟨[], [sep] ++ [sep].intercalate (next :: tail), by simp⟩
          · exact List.infix_append_of_infix_right (ih hrest)

theorem notMem_intercalate {a sep : α} {segs : List (List α)} (hsep : a ≠ sep)
    (h : forall seg, seg ∈ segs -> a ∉ seg) : a ∉ [sep].intercalate segs := by
  induction segs with
  | nil => simp
  | cons first rest ih =>
      have hfirst : a ∉ first := h first (List.mem_cons_self ..)
      have hrest := ih (fun seg hseg => h seg (List.mem_cons_of_mem first hseg))
      cases rest with
      | nil => simpa using hfirst
      | cons next tail =>
          rw [List.intercalate_cons_cons]
          simp only [List.mem_append, List.mem_singleton]
          intro h
          rcases h with (hmem | hmem) | hmem
          · exact hfirst hmem
          · exact hsep hmem
          · exact hrest hmem

/-- Where a segment ends in a core, the joined list ends in the core or has
the core followed by the separator. -/
theorem suffix_or_infix_of_mem (sep : α) {core seg : List α}
    {segs : List (List α)} (hmem : seg ∈ segs) (hcore : core <:+ seg) :
    core <:+ [sep].intercalate segs ∨
      core ++ [sep] <:+: [sep].intercalate segs := by
  induction segs with
  | nil => cases hmem
  | cons first rest ih =>
      cases rest with
      | nil =>
          have hseg : seg = first := by simpa using hmem
          subst hseg
          exact Or.inl (by simpa using hcore)
      | cons next tail =>
          rw [List.intercalate_cons_of_ne_nil (by simp)]
          rcases List.mem_cons.mp hmem with hfirst | hrest
          · subst hfirst
            rcases hcore with ⟨before, hbefore⟩
            refine Or.inr ⟨before, [sep].intercalate (next :: tail), ?_⟩
            rw [← hbefore]
            simp
          · rcases ih hrest with hsuffix | hblock
            · exact Or.inl (List.suffix_append_of_suffix hsuffix)
            · exact Or.inr (List.infix_append_of_infix_right hblock)

end Segments

end Foundation
