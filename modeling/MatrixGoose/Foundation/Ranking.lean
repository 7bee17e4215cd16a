import Mathlib.Data.List.MinMax
import Mathlib.Data.List.Nodup
import Mathlib.Data.List.Sort
import Mathlib.Logic.Function.Iterate

/-!
# Counting and ranking

An ordered map in which entries are made on demand and updated, the tally of a
list that is folded into such a map, and what any sort by weight, stable or not,
says about the front of its result.
-/

namespace Foundation

/-- The last of the elements whose key is maximal. -/
def maxByKey {α β : Type} [LinearOrder β] (key : α -> β) (xs : List α) : Option α :=
  xs.reverse.argmax key

theorem maxByKey_mem {α β : Type} [LinearOrder β] {key : α -> β} {xs : List α}
    {x : α} (h : maxByKey key xs = some x) : x ∈ xs :=
  List.mem_reverse.mp (List.argmax_mem h)

theorem le_maxByKey {α β : Type} [LinearOrder β] {key : α -> β} {xs : List α}
    {x y : α} (h : maxByKey key xs = some x) (hy : y ∈ xs) : key y <= key x :=
  List.le_of_mem_argmax (List.mem_reverse.mpr hy) h

theorem exists_maxByKey {α β : Type} [LinearOrder β] (key : α -> β) {xs : List α}
    {y : α} (hy : y ∈ xs) : exists x, maxByKey key xs = some x := by
  cases h : maxByKey key xs with
  | some x => exact ⟨x, rfl⟩
  | none =>
      rw [maxByKey, List.argmax_eq_none, List.reverse_eq_nil_iff] at h
      rw [h] at hy
      cases hy

/-!
# Ordered maps
-/

/-- Entries in ascending order of their keys. -/
abbrev OrderedMap (Key Value : Type) := List (Key × Value)

namespace OrderedMap

variable {Key Value : Type} [LinearOrder Key]

/-- Update the entry of a key, which has a default value if there is none. -/
def upsert (key : Key) (default : Value) (f : Value -> Value) :
    OrderedMap Key Value -> OrderedMap Key Value
  | [] => [(key, f default)]
  | (k, v) :: rest =>
      if key < k then (key, f default) :: (k, v) :: rest
      else if k < key then (k, v) :: upsert key default f rest
      else (k, f v) :: rest

def Ascending (m : OrderedMap Key Value) : Prop :=
  m.Pairwise fun a b => a.1 < b.1

theorem mem_upsert_of_ne {key k : Key} (default : Value) (f : Value -> Value)
    (m : OrderedMap Key Value) (v : Value) (h : k ≠ key) :
    (k, v) ∈ upsert key default f m <-> (k, v) ∈ m := by
  induction m with
  | nil => simp [upsert, h]
  | cons entry rest ih =>
      rcases entry with ⟨k', v'⟩
      rw [upsert]
      split
      · simp [h]
      · split
        · rw [List.mem_cons, List.mem_cons, ih]
        · next hlt hgt =>
            have hkey : k' = key := le_antisymm (not_lt.mp hlt) (not_lt.mp hgt)
            rw [hkey]
            simp [h]

theorem ascending_upsert {m : OrderedMap Key Value} (h : Ascending m) (key : Key)
    (default : Value) (f : Value -> Value) : Ascending (upsert key default f m) := by
  induction m with
  | nil => exact List.pairwise_singleton ..
  | cons entry rest ih =>
      rcases entry with ⟨k, v⟩
      rcases List.pairwise_cons.mp h with ⟨hhead, hrest⟩
      rw [upsert]
      split
      · next hlt =>
          apply List.pairwise_cons.mpr
          constructor
          · intro entry hentry
            rcases List.mem_cons.mp hentry with hEq | hmem
            · rw [hEq]
              exact hlt
            · exact lt_trans hlt (hhead entry hmem)
          · exact h
      · split
        · next hgt =>
            apply List.pairwise_cons.mpr
            constructor
            · intro entry hentry
              by_cases hkey : entry.1 = key
              · rw [hkey]
                exact hgt
              · exact hhead entry ((mem_upsert_of_ne default f rest entry.2 hkey).mp hentry)
            · exact ih hrest
        · apply List.pairwise_cons.mpr
          exact ⟨hhead, hrest⟩

theorem mem_upsert_self {m : OrderedMap Key Value} (h : Ascending m) (key : Key)
    (default : Value) (f : Value -> Value) (w : Value) :
    (key, w) ∈ upsert key default f m <->
      (exists v, (key, v) ∈ m ∧ w = f v) ∨
        (forall v, (key, v) ∉ m) ∧ w = f default := by
  induction m with
  | nil => simp [upsert]
  | cons entry rest ih =>
      rcases entry with ⟨k, v⟩
      rcases List.pairwise_cons.mp h with ⟨hhead, hrest⟩
      rw [upsert]
      split
      · next hlt =>
          have hnone : forall u, (key, u) ∉ (k, v) :: rest := by
            intro u hu
            rcases List.mem_cons.mp hu with hEq | hmem
            · exact lt_irrefl key (by rw [(Prod.mk.inj hEq).1] at hlt ⊢; exact hlt)
            · exact lt_asymm hlt (hhead _ hmem)
          constructor
          · intro hmem
            rcases List.mem_cons.mp hmem with hEq | hold
            · exact Or.inr ⟨hnone, (Prod.mk.inj hEq).2⟩
            · exact absurd hold (hnone w)
          · intro hcases
            rcases hcases with ⟨u, hu, _⟩ | ⟨_, hw⟩
            · exact absurd hu (hnone u)
            · rw [hw]
              exact List.mem_cons_self ..
      · split
        · next hgt =>
            have hne : key ≠ k := ne_of_gt hgt
            have hcons : forall u, (key, u) ∈ (k, v) :: rest <-> (key, u) ∈ rest := by
              intro u
              simp [hne]
            rw [List.mem_cons, ih hrest]
            simp [hne]
        · next hlt hgt =>
            have hkey : k = key := le_antisymm (not_lt.mp hlt) (not_lt.mp hgt)
            subst hkey
            have hrestNone : forall u, (k, u) ∉ rest := by
              intro u hu
              exact lt_irrefl k (hhead _ hu)
            simp [hrestNone]

/-!
# Tallies
-/

/-- Count the keys of a list; the counter of a key starts at zero and `next`
moves it on. -/
def tally (next : Nat -> Nat) (keys : List Key) : OrderedMap Key Nat :=
  keys.foldl (fun m key => upsert key 0 next m) []

theorem tally_append_singleton (next : Nat -> Nat) (keys : List Key) (key : Key) :
    tally next (keys ++ [key]) = upsert key 0 next (tally next keys) := by
  simp [tally]

theorem ascending_tally (next : Nat -> Nat) (keys : List Key) :
    Ascending (tally next keys) := by
  induction keys using List.reverseRecOn with
  | nil => exact List.Pairwise.nil
  | append_singleton keys key ih =>
      rw [tally_append_singleton]
      exact ascending_upsert ih key 0 next

/-- The tally has an entry for each key of the list, and the counter there was
moved on once for each occurrence. -/
theorem mem_tally (next : Nat -> Nat) (keys : List Key) (k : Key) (n : Nat) :
    (k, n) ∈ tally next keys <-> k ∈ keys ∧ n = next^[keys.count k] 0 := by
  induction keys using List.reverseRecOn generalizing n with
  | nil => simp [tally]
  | append_singleton keys key ih =>
      rw [tally_append_singleton]
      by_cases hkey : k = key
      · subst hkey
        have hcount : (keys ++ [k]).count k = keys.count k + 1 := by simp
        rw [mem_upsert_self (ascending_tally next keys), hcount,
          Function.iterate_succ_apply']
        simp only [ih]
        by_cases hmem : k ∈ keys
        · simp [hmem]
        · simp [hmem, List.count_eq_zero_of_not_mem hmem]
      · have hcount : (keys ++ [key]).count k = keys.count k := by
          simp [Ne.symm hkey]
        rw [mem_upsert_of_ne 0 next _ n hkey, ih, hcount]
        simp [hkey]

theorem nodup_keys_tally (next : Nat -> Nat) (keys : List Key) :
    ((tally next keys).map Prod.fst).Nodup := by
  rw [List.Nodup, List.pairwise_map]
  exact (ascending_tally next keys).imp fun hlt => ne_of_lt hlt

end OrderedMap

/-!
# Sorting by weight
-/

/-- A sort that puts greater weights first and leaves the order of equal weights
open. -/
structure UnstableSort (α : Type) (weight : α -> Nat) where
  sort : List α -> List α
  perm : forall xs, (sort xs).Perm xs
  sorted : forall xs, (sort xs).Pairwise fun a b => weight b <= weight a

/-- Merge sort is such a sort. -/
def UnstableSort.merge (α : Type) (weight : α -> Nat) : UnstableSort α weight where
  sort xs := xs.mergeSort fun a b => decide (weight b <= weight a)
  perm xs := List.mergeSort_perm xs _
  sorted xs := by
    let le : α -> α -> Bool := fun a b => decide (weight b <= weight a)
    have htrans : forall a b c, le a b = true -> le b c = true -> le a c = true := by
      intro a b c hab hbc
      simp only [le, decide_eq_true_eq] at hab hbc ⊢
      exact Nat.le_trans hbc hab
    have htotal : forall a b, (le a b || le b a) = true := by
      intro a b
      simp only [le, Bool.or_eq_true, decide_eq_true_eq]
      exact Nat.le_total _ _
    exact (List.pairwise_mergeSort htrans htotal xs).imp fun h => of_decide_eq_true h

theorem rel_of_mem_take_of_mem_drop {α : Type} {r : α -> α -> Prop} {xs : List α}
    (h : xs.Pairwise r) (n : Nat) {a b : α} (ha : a ∈ xs.take n)
    (hb : b ∈ xs.drop n) : r a b := by
  rw [← List.take_append_drop n xs] at h
  exact (List.pairwise_append.mp h).2.2 a ha b hb

theorem rel_or_rel_of_mem {α : Type} {r : α -> α -> Prop} {xs : List α}
    (h : xs.Pairwise r) {a b : α} (ha : a ∈ xs) (hb : b ∈ xs) (hne : a ≠ b) :
    r a b ∨ r b a := by
  induction xs with
  | nil => cases ha
  | cons x rest ih =>
      rcases List.pairwise_cons.mp h with ⟨hhead, hrest⟩
      rcases List.mem_cons.mp ha with haEq | haRest
      · rcases List.mem_cons.mp hb with hbEq | hbRest
        · exact absurd (haEq.trans hbEq.symm) hne
        · rw [haEq]
          exact Or.inl (hhead b hbRest)
      · rcases List.mem_cons.mp hb with hbEq | hbRest
        · rw [hbEq]
          exact Or.inr (hhead a haRest)
        · exact ih hrest haRest hbRest

end Foundation
