import Mathlib.Data.List.Basic

/-!
# Dictionaries

Dictionaries that keep their entries in the order in which the keys were first set.
-/

namespace Foundation

abbrev Dict (Key Value : Type) := List (Key × Value)

namespace Dict

variable {Key Value : Type} [DecidableEq Key]

def empty : Dict Key Value :=
  []

/-- Set the value of a key: in its place, or at the end if the key is new. -/
def set (d : Dict Key Value) (key : Key) (value : Value) : Dict Key Value :=
  if key ∈ d.map Prod.fst then
    d.map fun entry => if entry.1 = key then (key, value) else entry
  else d ++ [(key, value)]

theorem set_of_not_mem {d : Dict Key Value} {key : Key} (h : key ∉ d.map Prod.fst)
    (value : Value) : d.set key value = d ++ [(key, value)] :=
  if_neg h

def get (d : Dict Key Value) (key : Key) : Option Value :=
  (d.find? fun entry => entry.1 = key).map Prod.snd

theorem get_cons (entry : Key × Value) (d : Dict Key Value) (key : Key) :
    get (entry :: d) key = if entry.1 = key then some entry.2 else get d key := by
  by_cases h : entry.1 = key <;> simp [get, h]

theorem get_append (d d' : Dict Key Value) (key : Key) :
    get (d ++ d') key = (get d key).or (get d' key) := by
  simp only [get, List.find?_append]
  cases d.find? fun entry => entry.1 = key <;> rfl

theorem get_eq_none {d : Dict Key Value} {key : Key} :
    get d key = none <-> key ∉ d.map Prod.fst := by
  induction d with
  | nil => simp [get]
  | cons entry d ih =>
      rw [get_cons, List.map_cons, List.mem_cons]
      by_cases hentry : entry.1 = key
      · simp [hentry]
      · simp [hentry, ih, Ne.symm hentry]

theorem get_replace (d : Dict Key Value) (key : Key) (value : Value) (other : Key) :
    get (d.map fun entry => if entry.1 = key then (key, value) else entry) other =
      if key = other then (get d key).map fun _ => value else get d other := by
  induction d with
  | nil => simp [get]
  | cons entry d ih =>
      rw [List.map_cons, get_cons, ih, get_cons, get_cons]
      by_cases hentry : entry.1 = key
      · by_cases hother : key = other
        · simp [hentry, hother]
        · simp [hentry, hother]
      · by_cases hother : key = other
        · subst hother
          simp [hentry]
        · simp [hentry, hother]

theorem get_set (d : Dict Key Value) (key : Key) (value : Value) (other : Key) :
    get (d.set key value) other = if key = other then some value else get d other := by
  unfold set
  split
  · next hmem =>
      rw [get_replace]
      by_cases hother : key = other
      · cases hkey : get d key with
        | none => exact absurd hmem (get_eq_none.mp hkey)
        | some old => simp [hother]
      · rw [if_neg hother, if_neg hother]
  · next hnew =>
      rw [get_append, get_cons]
      by_cases hother : key = other
      · subst hother
        simp [get_eq_none.mpr hnew]
      · simp [hother, get]

theorem keys_set (d : Dict Key Value) (key : Key) (value : Value) :
    (d.set key value).map Prod.fst =
      if key ∈ d.map Prod.fst then d.map Prod.fst else d.map Prod.fst ++ [key] := by
  unfold set
  split
  · rw [List.map_map]
    apply List.map_congr_left
    intro entry _
    by_cases hentry : entry.1 = key <;> simp [hentry]
  · simp

theorem nodup_keys_set {d : Dict Key Value} (h : (d.map Prod.fst).Nodup) (key : Key)
    (value : Value) : ((d.set key value).map Prod.fst).Nodup := by
  rw [keys_set]
  split
  · exact h
  · next hnew =>
      apply List.nodup_append.mpr
      constructor
      · exact h
      · constructor
        · exact List.nodup_cons.mpr ⟨List.not_mem_nil, List.nodup_nil⟩
        · intro old hold new hnewmem heq
          rw [heq, List.mem_singleton.mp hnewmem] at hold
          exact hnew hold

/-!
# Counting
-/

def increment (d : Dict Key Nat) (key : Key) : Dict Key Nat :=
  match d.get key with
  | some n => d.set key (n + 1)
  | none => d.set key 1

theorem getD_get_increment (d : Dict Key Nat) (key other : Key) :
    ((d.increment key).get other).getD 0 =
      (d.get other).getD 0 + if key = other then 1 else 0 := by
  unfold increment
  cases hkey : d.get key with
  | none =>
      rw [get_set]
      by_cases hother : key = other
      · subst hother
        simp [hkey]
      · simp [hother]
  | some n =>
      rw [get_set]
      by_cases hother : key = other
      · subst hother
        simp [hkey]
      · simp [hother]

theorem getD_get_foldl_increment (keys : List Key) (d : Dict Key Nat) (key : Key) :
    ((keys.foldl increment d).get key).getD 0 = (d.get key).getD 0 + keys.count key := by
  induction keys generalizing d with
  | nil => rfl
  | cons first rest ih =>
      rw [List.foldl_cons, ih, getD_get_increment, List.count_cons, Nat.add_assoc]
      simp only [beq_iff_eq]
      rw [Nat.add_comm (if first = key then 1 else 0)]

end Dict

end Foundation
