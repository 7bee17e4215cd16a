import MatrixGoose.Matrix.EventHandler.StoreRuns

/-!
# Undoing a registration

Removing a handler that was just added, by its handle or by dropping a guard for
it, leads back to the maps in front of the registration.  The ledger shows why:
the registration is appended to the live ones and filtered out again, and no
other live registration has its handle.
-/

namespace MatrixGoose
namespace EventHandler

/-- `EventHandlerDropGuard`.  The client it keeps is the store that `drop` gets
as its argument. -/
structure EventHandlerDropGuard where
  handle : EventHandlerHandle

namespace EventHandlerDropGuard

def new (handle : EventHandlerHandle) : EventHandlerDropGuard where
  handle

def drop {Fn : Type} (guard : EventHandlerDropGuard)
    (store : EventHandlerStore Fn) : EventHandlerStore Fn :=
  store.removeEventHandler guard.handle

end EventHandlerDropGuard

namespace Ledger

variable {Fn : Type}

def NextIdFresh (ops : List (StoreOp Fn)) : Prop :=
  forall h, h ∈ (run ops).live ->
    h.handle.handlerId ≠ (EventHandlerStore.run ops).counter

theorem nextIdFresh_of_count {ops : List (StoreOp Fn)}
    (hcount : ops.countP StoreOp.isAdd < counterBound) : NextIdFresh ops := by
  intro h hmem
  have hlt : h.handle.handlerId < (run ops).issued :=
    (increasing_id_run ops (Nat.le_of_lt hcount)).label_lt h hmem
  have hcounter : (EventHandlerStore.run ops).counter = (run ops).issued := by
    rw [(simulates_run ops).counter_eq]
    apply Nat.mod_eq_of_lt
    rw [issued_run]
    exact hcount
  rw [hcounter]
  exact Nat.ne_of_lt hlt

end Ledger

namespace EventHandlerMaps

variable {Fn : Type}

theorem remove_add {maps : EventHandlerMaps Fn} {hs : List (Registration Fn)}
    (hmaps : maps.Represents hs) (handle : EventHandlerHandle) (handlerFn : Fn)
    (hfresh : forall h, h ∈ hs -> h.handle ≠ handle) :
    (maps.add handle handlerFn).remove handle = maps := by
  have hremoved := represents_remove (represents_add hmaps handle handlerFn) handle
  have hlive : (hs ++ [(⟨handle, handlerFn⟩ : Registration Fn)]).filter
      (fun h => h.handle != handle) = hs := by
    rw [List.filter_append, List.filter_eq_self.mpr]
    · simp
    · intro h hmem
      rw [bne_iff_ne]
      exact hfresh h hmem
  rw [hlive] at hremoved
  exact hremoved.maps_eq hmaps

theorem remove_remove_self {maps : EventHandlerMaps Fn}
    {hs : List (Registration Fn)} (hmaps : maps.Represents hs)
    (handle : EventHandlerHandle) :
    (maps.remove handle).remove handle = maps.remove handle := by
  have honce := represents_remove hmaps handle
  have htwice := represents_remove honce handle
  rw [List.filter_filter] at htwice
  simp only [Bool.and_self] at htwice
  exact htwice.maps_eq honce

theorem remove_comm {maps : EventHandlerMaps Fn} {hs : List (Registration Fn)}
    (hmaps : maps.Represents hs) (a b : EventHandlerHandle) :
    (maps.remove a).remove b = (maps.remove b).remove a := by
  have hab := represents_remove (represents_remove hmaps a) b
  have hba := represents_remove (represents_remove hmaps b) a
  rw [List.filter_comm] at hab
  exact hab.maps_eq hba

end EventHandlerMaps

namespace EventHandlerStore

variable {Fn : Type}

/-- Removing what was just added leads back to the maps before, as long as ids
are fresh; removals are idempotent and commute on every reachable store. -/
theorem removal_undoes_registration (ops : List (StoreOp Fn))
    (evKind : HandlerKind) (evType : Option String) (handler : Fn)
    (roomId : Option RoomId) :
    let store := run ops
    let handle := (store.addEventHandlerImpl evKind evType handler roomId).1
    let added := (store.addEventHandlerImpl evKind evType handler roomId).2
    let removed := added.removeEventHandler handle
    (Ledger.NextIdFresh ops -> removed.handlers = store.handlers) ∧
      removed.handlers.NoEmpty ∧
      (EventHandlerDropGuard.new handle).drop added = removed ∧
      removed.removeEventHandler handle = removed ∧
      forall a b : EventHandlerHandle,
        (store.removeEventHandler a).removeEventHandler b =
          (store.removeEventHandler b).removeEventHandler a := by
  intro store handle added removed
  have hstore : store.handlers.Represents (Ledger.run ops).live :=
    (Ledger.simulates_run ops).represents
  have hadded : added.handlers.Represents
      ((Ledger.run ops).live ++ [⟨handle, handler⟩]) :=
    EventHandlerMaps.represents_add hstore handle handler
  constructor
  · intro hfresh
    apply EventHandlerMaps.remove_add hstore
    intro h hmem hEq
    have hid : h.handle.handlerId = store.counter := by
      rw [hEq]
      rfl
    exact hfresh h hmem hid
  · constructor
    · exact EventHandlerMaps.noEmpty_remove hadded.noEmpty handle
    · constructor
      · rfl
      · constructor
        · have hagain : removed.handlers.remove handle = removed.handlers :=
            EventHandlerMaps.remove_remove_self hadded handle
          rw [removeEventHandler, hagain]
        · intro a b
          have hcomm := EventHandlerMaps.remove_comm hstore a b
          simp only [removeEventHandler]
          rw [hcomm]

theorem removal_undoes_registration_second_handler :
    let store := run
      [StoreOp.add HandlerKind.state (some "m.room.member") () none]
    let registered := store.addEventHandlerImpl HandlerKind.state
      (some "m.room.member") () none
    (registered.2.removeEventHandler registered.1).handlers = store.handlers :=
  (removal_undoes_registration
    [StoreOp.add HandlerKind.state (some "m.room.member") () none]
    HandlerKind.state (some "m.room.member") () none).1
    (Ledger.nextIdFresh_of_count (by decide))

end EventHandlerStore

end EventHandler
end MatrixGoose
