import MatrixGoose.Foundation.Dict

/-!
# Ordered maps with several values for a key

A key that is present has a first value and maybe further ones.  Draining such a
map gives its values in order, and names a key only with the first of its values.
-/

namespace Foundation

structure OrderedMultiMap (Key Value : Type) where
  entries : Dict Key (Value × List Value)
  nodup : (entries.map Prod.fst).Nodup

namespace OrderedMultiMap

variable {Key Value : Type}

def empty : OrderedMultiMap Key Value where
  entries := []
  nodup := List.nodup_nil

def drainEntry (entry : Key × Value × List Value) : List (Option Key × Value) :=
  (some entry.1, entry.2.1) :: entry.2.2.map fun value => (none, value)

def drain (m : OrderedMultiMap Key Value) : List (Option Key × Value) :=
  m.entries.flatMap drainEntry

variable [DecidableEq Key]

def getAll (m : OrderedMultiMap Key Value) (key : Key) : List Value :=
  match m.entries.get key with
  | some (first, further) => first :: further
  | none => []

/-- Set the one value of a key; all values it had are lost. -/
def insert (m : OrderedMultiMap Key Value) (key : Key) (value : Value) :
    OrderedMultiMap Key Value where
  entries := m.entries.set key (value, [])
  nodup := Dict.nodup_keys_set m.nodup key (value, [])

def SingleValued (m : OrderedMultiMap Key Value) : Prop :=
  forall key, (m.getAll key).length <= 1

theorem getAll_of_get_eq_some {m : OrderedMultiMap Key Value} {key : Key} {first : Value}
    {further : List Value} (h : m.entries.get key = some (first, further)) :
    m.getAll key = first :: further := by
  rw [getAll, h]

theorem getAll_of_get_eq_none {m : OrderedMultiMap Key Value} {key : Key}
    (h : m.entries.get key = none) : m.getAll key = [] := by
  rw [getAll, h]

theorem getAll_empty (key : Key) :
    (empty : OrderedMultiMap Key Value).getAll key = [] := rfl

theorem getAll_insert (m : OrderedMultiMap Key Value) (key : Key) (value : Value)
    (other : Key) :
    (m.insert key value).getAll other = if key = other then [value] else m.getAll other := by
  rw [getAll, insert, Dict.get_set]
  by_cases hother : key = other
  · rw [if_pos hother, if_pos hother]
  · rw [if_neg hother, if_neg hother]
    rfl

end OrderedMultiMap

end Foundation
