import Mathlib.Data.List.Induction

/-!
# Logs

A log only grows at its end, so what an entry says about the entries before it stays
true.
-/

namespace Foundation

variable {Entry : Type}

/-- Every entry of a log stands in a relation to the entries before it. -/
def EachEntry (Q : List Entry -> Entry -> Prop) (log : List Entry) : Prop :=
  forall before entry after, log = before ++ entry :: after -> Q before entry

variable {Q : List Entry -> Entry -> Prop}

theorem EachEntry.nil : EachEntry Q [] := by
  intro before entry after hsplit
  cases before <;> cases hsplit

theorem append_singleton_eq_split {log before after : List Entry} {last entry : Entry}
    (hsplit : log ++ [last] = before ++ entry :: after) :
    (before = log ∧ entry = last ∧ after = []) ∨
      exists rest, after = rest ++ [last] ∧ log = before ++ entry :: rest := by
  cases after using List.reverseRecOn with
  | nil =>
      left
      rcases List.append_inj' hsplit rfl with ⟨hbefore, hentry⟩
      cases hentry
      exact ⟨hbefore.symm, rfl, rfl⟩
  | append_singleton rest other =>
      right
      have hassoc : log ++ [last] = (before ++ entry :: rest) ++ [other] := by
        rw [hsplit, List.append_assoc]
        rfl
      rcases List.append_inj' hassoc rfl with ⟨hlog, hother⟩
      cases hother
      exact ⟨rest, rfl, hlog⟩

theorem eachEntry_append_singleton {log : List Entry} {entry : Entry} :
    EachEntry Q (log ++ [entry]) <-> EachEntry Q log ∧ Q log entry := by
  constructor
  · intro hall
    constructor
    · intro before other after hsplit
      apply hall before other (after ++ [entry])
      rw [hsplit, List.append_assoc]
      rfl
    · exact hall log entry [] rfl
  · intro h before other after hsplit
    rcases h with ⟨hlog, hentry⟩
    rcases append_singleton_eq_split hsplit with ⟨rfl, rfl, _⟩ | ⟨rest, _, hold⟩
    · exact hentry
    · exact hlog before other rest hold

theorem EachEntry.append_of_forall {log entries : List Entry} (hlog : EachEntry Q log)
    (hentries : forall entry, entry ∈ entries -> forall before, Q before entry) :
    EachEntry Q (log ++ entries) := by
  induction entries using List.reverseRecOn with
  | nil =>
      rw [List.append_nil]
      exact hlog
  | append_singleton rest entry ih =>
      rw [← List.append_assoc]
      have hrest := ih fun other hmem => hentries other (List.mem_append_left _ hmem)
      have hlast := hentries entry (List.mem_append_right _ (List.mem_singleton_self entry))
      exact eachEntry_append_singleton.mpr ⟨hrest, hlast _⟩

theorem EachEntry.of_append {log rest : List Entry} (h : EachEntry Q (log ++ rest)) :
    EachEntry Q log := by
  intro before entry after hsplit
  apply h before entry (after ++ rest)
  rw [hsplit]
  simp

/-- Of two entries of a log the second one stands behind the first one, if the first one
does not stand behind the second one. -/
theorem mem_of_split_eq {before middle before' after : List Entry} {first second : Entry}
    (hsplit : before ++ first :: middle = before' ++ second :: after) (hne : first ≠ second)
    (hnot : first ∉ after) : second ∈ middle := by
  rcases List.append_eq_append_iff.mp hsplit with ⟨gap, _, hgap⟩ | ⟨gap, _, hgap⟩
  · cases gap with
    | nil => exact absurd (List.cons.inj hgap).1 hne
    | cons entry gap =>
        rw [(List.cons.inj hgap).2]
        simp
  · cases gap with
    | nil => exact absurd (List.cons.inj hgap).1.symm hne
    | cons entry gap =>
        rw [(List.cons.inj hgap).2] at hnot
        exact absurd (by simp) hnot

theorem EachEntry.countP_le_one {p : Entry -> Bool} {log : List Entry}
    (hlog : EachEntry
      (fun before entry => p entry = true -> forall other, other ∈ before -> p other = false)
      log) :
    log.countP p <= 1 := by
  induction log using List.reverseRecOn with
  | nil => exact Nat.zero_le 1
  | append_singleton log entry ih =>
      rcases eachEntry_append_singleton.mp hlog with ⟨hbefore, hentry⟩
      rw [List.countP_append, List.countP_singleton]
      split
      · next hp =>
          have hzero : log.countP p = 0 := by
            rw [List.countP_eq_zero]
            intro other hmem
            simp [hentry hp other hmem]
          exact Nat.le_of_eq (congrArg Nat.succ hzero)
      · exact ih hbefore

theorem EachEntry.filterMap {Part : Type} {R : List Part -> Part -> Prop}
    {part : Entry -> Option Part} {log : List Entry} (hlog : EachEntry Q log)
    (hpart : forall before entry p, part entry = some p -> Q before entry ->
      R (before.filterMap part) p) :
    EachEntry R (log.filterMap part) := by
  induction log using List.reverseRecOn with
  | nil => exact EachEntry.nil
  | append_singleton log entry ih =>
      rcases eachEntry_append_singleton.mp hlog with ⟨hbefore, hentry⟩
      rw [List.filterMap_append]
      cases hp : part entry with
      | none =>
          rw [List.filterMap_cons_none hp, List.filterMap_nil, List.append_nil]
          exact ih hbefore
      | some p =>
          rw [List.filterMap_cons_some hp, List.filterMap_nil]
          exact eachEntry_append_singleton.mpr ⟨ih hbefore, hpart log entry p hp hentry⟩

/-!
# Since
-/

/-- There is an entry with `p`, and none with `q` behind it. -/
def Since (p q : Entry -> Prop) (log : List Entry) : Prop :=
  exists before entry after, log = before ++ entry :: after ∧ p entry ∧
    forall other, other ∈ after -> ¬ q other

theorem since_append_singleton {p q : Entry -> Prop} {log : List Entry} {entry : Entry} :
    Since p q (log ++ [entry]) <-> p entry ∨ (¬ q entry ∧ Since p q log) := by
  constructor
  · rintro ⟨before, other, after, hsplit, hp, hafter⟩
    rcases append_singleton_eq_split hsplit with ⟨_, rfl, _⟩ | ⟨rest, rfl, hold⟩
    · exact Or.inl hp
    · have hentry : ¬ q entry := hafter entry (by simp)
      have hrest : forall other, other ∈ rest -> ¬ q other :=
        fun other hmem => hafter other (List.mem_append_left _ hmem)
      exact Or.inr ⟨hentry, before, other, rest, hold, hp, hrest⟩
  · rintro (hp | ⟨hq, before, other, after, rfl, hp, hafter⟩)
    · exact ⟨log, entry, [], rfl, hp, nofun⟩
    · refine ⟨before, other, after ++ [entry], by simp, hp, ?_⟩
      intro last hmem
      rcases List.mem_append.mp hmem with hold | hnew
      · exact hafter last hold
      · rw [List.mem_singleton.mp hnew]
        exact hq

end Foundation
