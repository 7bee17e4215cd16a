import Mathlib.Logic.Function.Basic

/-!
# Maps from keys to lists

A partial map whose values are lists, with the two operations that keep such a
map free of empty lists: pushing under a key creates the entry on demand, and
retaining the elements of one entry deletes the entry once nothing is left.
Reading an absent entry as the empty list gives a total view, and a map without
empty lists is determined by that view.
-/

namespace Foundation

abbrev MultiMap (Key Value : Type) := Key -> Option (List Value)

namespace MultiMap

variable {Key Value : Type}

def empty : MultiMap Key Value :=
  fun _ => none

def values (m : MultiMap Key Value) (k : Key) : List Value :=
  (m k).getD []

def NoEmpty (m : MultiMap Key Value) : Prop :=
  forall k, m k ≠ some []

@[simp] theorem values_empty (k : Key) :
    values (empty : MultiMap Key Value) k = [] := rfl

theorem noEmpty_empty : NoEmpty (empty : MultiMap Key Value) := by
  intro k h
  cases h

theorem values_of_eq_some {m : MultiMap Key Value} {k : Key} {vs : List Value}
    (h : m k = some vs) : m.values k = vs := by
  simp [values, h]

theorem values_of_eq_none {m : MultiMap Key Value} {k : Key}
    (h : m k = none) : m.values k = [] := by
  simp [values, h]

theorem eq_none_iff_values_eq_nil {m : MultiMap Key Value} (hm : m.NoEmpty)
    (k : Key) : m k = none <-> m.values k = [] := by
  cases hk : m k with
  | none => simp [values_of_eq_none hk]
  | some vs =>
      rw [values_of_eq_some hk]
      constructor
      · intro h
        cases h
      · intro h
        exact absurd (by rw [hk, h]) (hm k)

theorem apply_eq {m : MultiMap Key Value} (hm : m.NoEmpty) (k : Key) :
    m k = if (m.values k).isEmpty then none else some (m.values k) := by
  cases hk : m k with
  | none =>
      rw [values_of_eq_none hk]
      rfl
  | some vs =>
      rw [values_of_eq_some hk, if_neg]
      rw [List.isEmpty_iff]
      intro hempty
      rw [hempty] at hk
      exact hm k hk

theorem ext_of_values {m m' : MultiMap Key Value}
    (hm : m.NoEmpty) (hm' : m'.NoEmpty)
    (h : forall k, m.values k = m'.values k) : m = m' := by
  funext k
  cases hk : m k with
  | none =>
      have hnil : m'.values k = [] := by
        rw [← h k]
        exact values_of_eq_none hk
      exact ((eq_none_iff_values_eq_nil hm' k).mpr hnil).symm
  | some vs =>
      cases hk' : m' k with
      | none =>
          have hnil : m.values k = [] := by
            rw [h k]
            exact values_of_eq_none hk'
          rw [(eq_none_iff_values_eq_nil hm k).mpr hnil] at hk
          cases hk
      | some vs' =>
          have hvs : vs = vs' := by
            simpa [values_of_eq_some hk, values_of_eq_some hk'] using h k
          rw [hvs]

/-!
# Push and retain
-/

variable [DecidableEq Key]

/-- Append a value under a key, creating the entry if there is none. -/
def push (m : MultiMap Key Value) (k : Key) (v : Value) : MultiMap Key Value :=
  Function.update m k (some (m.values k ++ [v]))

/-- Keep the values of one entry that satisfy a predicate and delete the entry
if none does.  A key without an entry is left alone. -/
def retain (m : MultiMap Key Value) (k : Key) (p : Value -> Bool) :
    MultiMap Key Value :=
  match m k with
  | none => m
  | some vs =>
      if (vs.filter p).isEmpty then Function.update m k none
      else Function.update m k (some (vs.filter p))

@[simp] theorem values_push_self (m : MultiMap Key Value) (k : Key) (v : Value) :
    (m.push k v).values k = m.values k ++ [v] := by
  simp [push, values]

theorem values_push_of_ne (m : MultiMap Key Value) {k k' : Key} (v : Value)
    (h : k' ≠ k) : (m.push k v).values k' = m.values k' := by
  simp [push, values, h]

theorem values_push (m : MultiMap Key Value) (k k' : Key) (v : Value) :
    (m.push k v).values k' =
      if k' = k then m.values k' ++ [v] else m.values k' := by
  by_cases h : k' = k
  · subst h
    simp
  · rw [values_push_of_ne m v h, if_neg h]

theorem noEmpty_push {m : MultiMap Key Value} (hm : m.NoEmpty) (k : Key)
    (v : Value) : (m.push k v).NoEmpty := by
  intro k' h
  by_cases hk : k' = k
  · subst hk
    simp [push] at h
  · rw [push, Function.update_of_ne hk] at h
    exact hm k' h

theorem retain_apply_of_ne (m : MultiMap Key Value) {k k' : Key}
    (p : Value -> Bool) (h : k' ≠ k) : m.retain k p k' = m k' := by
  unfold retain
  cases m k with
  | none => rfl
  | some vs =>
      dsimp only
      split <;> rw [Function.update_of_ne h]

@[simp] theorem values_retain_self (m : MultiMap Key Value) (k : Key)
    (p : Value -> Bool) : (m.retain k p).values k = (m.values k).filter p := by
  unfold retain
  cases hk : m k with
  | none => simp [values, hk]
  | some vs =>
      dsimp only
      split
      · next hempty =>
          rw [List.isEmpty_iff] at hempty
          simp [values, hk, hempty]
      · simp [values, hk]

theorem values_retain_of_ne (m : MultiMap Key Value) {k k' : Key}
    (p : Value -> Bool) (h : k' ≠ k) :
    (m.retain k p).values k' = m.values k' := by
  rw [values, values, retain_apply_of_ne m p h]

theorem values_retain (m : MultiMap Key Value) (k k' : Key) (p : Value -> Bool) :
    (m.retain k p).values k' =
      if k' = k then (m.values k').filter p else m.values k' := by
  by_cases h : k' = k
  · subst h
    simp
  · rw [values_retain_of_ne m p h, if_neg h]

theorem noEmpty_retain {m : MultiMap Key Value} (hm : m.NoEmpty) (k : Key)
    (p : Value -> Bool) : (m.retain k p).NoEmpty := by
  intro k' h
  by_cases hk : k' = k
  · subst hk
    unfold retain at h
    cases hvs : m k' with
    | none =>
        rw [hvs] at h
        dsimp only at h
        rw [hvs] at h
        cases h
    | some vs =>
        rw [hvs] at h
        dsimp only at h
        split at h
        · simp at h
        · next hempty =>
            rw [Function.update_self] at h
            cases hfilter : vs.filter p with
            | nil => simp [hfilter] at hempty
            | cons v rest => simp [hfilter] at h
  · rw [retain_apply_of_ne m p hk] at h
    exact hm k' h

end MultiMap

end Foundation
