import Mathlib.Data.List.Basic

/-!
# First occurrences in a list

Searching for the first element that satisfies a predicate or for the first
occurrence of a sublist, and how such a search behaves on a list that is given
in pieces.
-/

namespace Foundation

namespace FirstMatch

variable {α : Type} [DecidableEq α]

def find (a : α) : List α -> Option Nat
  | [] => none
  | x :: rest => if x = a then some 0 else (find a rest).map (· + 1)

def findBlock (block : List α) : List α -> Option Nat
  | [] => if block = [] then some 0 else none
  | x :: rest =>
      if block <+: x :: rest then some 0
      else (findBlock block rest).map (· + 1)

/-!
# Single elements
-/

theorem find_eq_none {a : α} {xs : List α} :
    find a xs = none <-> a ∉ xs := by
  induction xs with
  | nil => simp [find]
  | cons x rest ih =>
      by_cases hx : x = a
      · simp [find, hx]
      · simp [find, hx, ih, Ne.symm hx]

theorem find_append_cons {a : α} {before : List α} (after : List α)
    (h : a ∉ before) : find a (before ++ a :: after) = some before.length := by
  induction before with
  | nil => simp [find]
  | cons x rest ih =>
      have hx : x ≠ a := by
        intro hxa
        exact h (by simp [hxa])
      have hrest : a ∉ rest := by
        intro ha
        exact h (List.mem_cons_of_mem x ha)
      simp [find, hx, ih hrest]

theorem split_first (a : α) (xs : List α) :
    a ∉ xs ∨ exists before after, a ∉ before ∧ xs = before ++ a :: after := by
  induction xs with
  | nil => exact Or.inl (by simp)
  | cons x rest ih =>
      by_cases hx : x = a
      · exact Or.inr ⟨[], rest, by simp, by simp [hx]⟩
      · rcases ih with hnone | ⟨before, after, hbefore, hrest⟩
        · exact Or.inl (by simp [hnone, Ne.symm hx])
        · refine Or.inr ⟨x :: before, after, ?_, by simp [hrest]⟩
          simp [hbefore, Ne.symm hx]

/-!
# Blocks
-/

theorem findBlock_eq_none {block xs : List α} :
    findBlock block xs = none <-> ¬ block <:+: xs := by
  induction xs with
  | nil =>
      by_cases hblock : block = []
      · simp [findBlock, hblock]
      · simp [findBlock, hblock]
  | cons x rest ih =>
      rw [findBlock, List.infix_cons_iff]
      by_cases hstarts : block <+: x :: rest
      · simp [hstarts]
      · simp [hstarts, ih]

theorem findBlock_of_prefix {block xs : List α} (h : block <+: xs) :
    findBlock block xs = some 0 := by
  cases xs with
  | nil => simp [findBlock, List.prefix_nil.mp h]
  | cons x rest => simp [findBlock, h]

/-!
## Blocks that end in a separator

A block whose only separator is its last element cannot reach across a
separator of the list, so its occurrences lie inside single segments together
with the separator that closes them.
-/

omit [DecidableEq α] in
theorem prefix_of_prefix_append_sep {core before after : List α} {sep : α}
    (hcore : sep ∉ core) (h : core ++ [sep] <+: before ++ sep :: after) :
    core ++ [sep] <+: before ++ [sep] := by
  induction before generalizing core with
  | nil =>
      cases core with
      | nil => exact List.prefix_rfl
      | cons c rest =>
          have hc : c = sep := by
            simpa using (List.cons_prefix_cons.mp h).1
          exact absurd (by simp [hc]) hcore
  | cons x rest ih =>
      cases core with
      | nil =>
          have hx : sep = x := (List.cons_prefix_cons.mp h).1
          simp [hx]
      | cons c tail =>
          rcases List.cons_prefix_cons.mp h with ⟨hc, htail⟩
          have hnot : sep ∉ tail := by
            intro hmem
            exact hcore (List.mem_cons_of_mem c hmem)
          exact List.cons_prefix_cons.mpr ⟨hc, ih hnot htail⟩

/-- If the block does not end inside the first segment, the search goes on
behind the separator that closes it. -/
theorem findBlock_append_sep {core before : List α} {sep : α}
    (after : List α) (hcore : sep ∉ core)
    (h : ¬ core ++ [sep] <:+: before ++ [sep]) :
    findBlock (core ++ [sep]) (before ++ sep :: after) =
      (findBlock (core ++ [sep]) after).map (· + (before.length + 1)) := by
  induction before with
  | nil =>
      have hhead : ¬ core ++ [sep] <+: sep :: after := by
        intro hstarts
        have hshort : core ++ [sep] <+: [] ++ [sep] :=
          prefix_of_prefix_append_sep hcore hstarts
        exact h hshort.isInfix
      simp [findBlock, hhead]
  | cons x rest ih =>
      have hhead : ¬ core ++ [sep] <+: x :: (rest ++ sep :: after) := by
        intro hstarts
        have hshort : core ++ [sep] <+: (x :: rest) ++ [sep] :=
          prefix_of_prefix_append_sep hcore hstarts
        exact h hshort.isInfix
      have htail := ih (by
        intro hblock
        exact h (List.infix_cons_iff.mpr (Or.inr hblock)))
      simp [findBlock, hhead, htail, Option.map_map, Function.comp_def,
        Nat.add_assoc]

/-- A block whose core closes a segment is found at the end of that segment. -/
theorem findBlock_append_core (core before : List α) (sep : α)
    (after : List α) (hsep : sep ∉ before ++ core) :
    findBlock (core ++ [sep]) (before ++ core ++ sep :: after) =
      some before.length := by
  induction before with
  | nil =>
      apply findBlock_of_prefix
      exact ⟨after, by simp⟩
  | cons x rest ih =>
      have hhead : ¬ core ++ [sep] <+: x :: (rest ++ (core ++ sep :: after)) := by
        intro hstarts
        have hstarts' : core ++ [sep] <+: (x :: (rest ++ core)) ++ sep :: after := by
          simpa using hstarts
        have hshort : core ++ [sep] <+: x :: (rest ++ core) ++ [sep] :=
          prefix_of_prefix_append_sep
            (fun hmem => hsep (List.mem_append_right _ hmem)) hstarts'
        have hinside : core ++ [sep] <+: x :: (rest ++ core) :=
          List.prefix_of_prefix_length_le hshort (List.prefix_append _ [sep])
            (by simp)
        exact hsep (by
          simpa using hinside.mem (List.mem_append_right core (by simp)))
      have htail := ih (by
        intro hmem
        exact hsep (by simpa using Or.inr hmem))
      simp only [List.append_assoc] at htail
      simp [findBlock, hhead, htail]

omit [DecidableEq α] in
theorem infix_append_sep_iff {core xs : List α} {sep : α} :
    core ++ [sep] <:+: xs ++ [sep] <->
      core <:+ xs ∨ core ++ [sep] <:+: xs := by
  rw [List.infix_concat_iff, List.suffix_concat_iff]
  simp

end FirstMatch

end Foundation
