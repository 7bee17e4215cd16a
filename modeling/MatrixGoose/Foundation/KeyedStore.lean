import Mathlib.Logic.Function.Basic

/-!
# Stores of entries under keys

What a client may rely on in a store it does not own: adding and removing work
on the entry of one key and leave every other entry alone.
-/

namespace Foundation

/-- A store as its clients see it, through the entry of each key. -/
structure KeyedStore (Store Key Value : Type) where
  get : Store -> Key -> Option Value
  add : Store -> Key -> Value -> Store
  remove : Store -> Key -> Store
  get_add_self : forall s k v, get (add s k v) k = some v
  get_add_of_ne : forall s k v k', k' ≠ k -> get (add s k v) k' = get s k'
  get_remove_self : forall s k, get (remove s k) k = none
  get_remove_of_ne : forall s k k', k' ≠ k -> get (remove s k) k' = get s k'

namespace KeyedStore

variable {Store Key Value : Type} (M : KeyedStore Store Key Value)

theorem get_remove_of_absent {s : Store} {k : Key} (h : M.get s k = none)
    (k' : Key) : M.get (M.remove s k) k' = M.get s k' := by
  by_cases hk : k' = k
  · rw [hk, M.get_remove_self, h]
  · exact M.get_remove_of_ne s k k' hk

def ofFunction (Key Value : Type) [DecidableEq Key] :
    KeyedStore (Key -> Option Value) Key Value where
  get s k := s k
  add s k v := Function.update s k (some v)
  remove s k := Function.update s k none
  get_add_self := by simp
  get_add_of_ne := by
    intro s k v k' h
    simp [h]
  get_remove_self := by simp
  get_remove_of_ne := by
    intro s k k' h
    simp [h]

end KeyedStore

end Foundation
