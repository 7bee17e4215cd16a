import Mathlib.Order.Basic

/-!
# Observables

A value that is set from time to time, and those who wait for that.  Whoever follows an
observable sees that it was set since it subscribed or last asked, and nothing else.
-/

namespace Foundation

structure Observables (Observable Subscriber Value : Type) where
  new : Value -> Observable
  set : Observable -> Value -> Observable
  subscribe : Observable -> Subscriber
  /-- Ask for a value that the subscriber has not observed. -/
  poll : Observable -> Subscriber -> Option Value × Subscriber
  Subscribed : Observable -> Subscriber -> Prop
  /-- There is a value that the subscriber has not observed. -/
  Pending : Observable -> Subscriber -> Prop
  subscribed_subscribe : forall o, Subscribed o (subscribe o)
  subscribed_set : forall o s v, Subscribed o s -> Subscribed (set o v) s
  subscribed_poll : forall o s, Subscribed o s -> Subscribed o (poll o s).2
  not_pending_subscribe : forall o, ¬ Pending o (subscribe o)
  pending_set : forall o s v, Subscribed o s -> Pending (set o v) s
  isSome_poll : forall o s, Subscribed o s -> ((poll o s).1.isSome = true <-> Pending o s)
  not_pending_poll : forall o s, Subscribed o s -> ¬ Pending o (poll o s).2

namespace Observables

variable {Observable Subscriber Value : Type} (O : Observables Observable Subscriber Value)

/-- The subscriber follows the observable, and `pending` says whether there is something
that it has not observed. -/
structure Follows (o : Observable) (s : Subscriber) (pending : Prop) : Prop where
  subscribed : O.Subscribed o s
  pending_iff : O.Pending o s <-> pending

variable {O} {o : Observable} {s : Subscriber} {pending pending' : Prop}

theorem follows_subscribe (o : Observable) (hpending : ¬ pending) :
    O.Follows o (O.subscribe o) pending where
  subscribed := O.subscribed_subscribe o
  pending_iff := iff_of_false (O.not_pending_subscribe o) hpending

namespace Follows

theorem congr (h : O.Follows o s pending) (hiff : pending <-> pending') :
    O.Follows o s pending' where
  subscribed := h.subscribed
  pending_iff := h.pending_iff.trans hiff

theorem set (h : O.Follows o s pending) (v : Value) (hpending : pending') :
    O.Follows (O.set o v) s pending' where
  subscribed := O.subscribed_set o s v h.subscribed
  pending_iff := iff_of_true (O.pending_set o s v h.subscribed) hpending

theorem isSome_poll (h : O.Follows o s pending) : (O.poll o s).1.isSome = true <-> pending :=
  (O.isSome_poll o s h.subscribed).trans h.pending_iff

theorem poll (h : O.Follows o s pending) (hpending : ¬ pending') :
    O.Follows o (O.poll o s).2 pending' where
  subscribed := O.subscribed_poll o s h.subscribed
  pending_iff := iff_of_false (O.not_pending_poll o s h.subscribed) hpending

end Follows

/-- Observables that count their versions, and subscribers that remember the one that they
have observed. -/
def versions (Value : Type) : Observables (Value × Nat) Nat Value where
  new v := (v, 1)
  set o v := (v, o.2 + 1)
  subscribe o := o.2
  poll o s := if s < o.2 then (some o.1, o.2) else (none, s)
  Subscribed o s := s <= o.2
  Pending o s := s < o.2
  subscribed_subscribe o := Nat.le_refl o.2
  subscribed_set _ _ _ h := Nat.le_succ_of_le h
  subscribed_poll o s h := by
    by_cases hlt : s < o.2
    · simp [hlt]
    · simpa [hlt] using h
  not_pending_subscribe o := Nat.lt_irrefl o.2
  pending_set _ _ _ h := Nat.lt_succ_of_le h
  isSome_poll o s _ := by
    by_cases hlt : s < o.2 <;> simp [hlt]
  not_pending_poll o s _ := by
    by_cases hlt : s < o.2 <;> simp [hlt]

end Observables

end Foundation
