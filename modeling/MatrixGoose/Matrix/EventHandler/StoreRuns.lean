import Mathlib.Data.List.Induction
import Mathlib.Data.List.Nodup
import MatrixGoose.Matrix.EventHandler.Registry

/-!
# Runs of the event handler store

A run is any sequence of registrations and removals.  A ledger that only keeps
the flat list of live registrations is run beside the store; the store's maps
represent that list after every operation.
-/

namespace MatrixGoose
namespace EventHandler

open Foundation

inductive StoreOp (Fn : Type)
  | add (evKind : HandlerKind) (evType : Option String) (handler : Fn)
      (roomId : Option RoomId)
  | remove (handle : EventHandlerHandle)

namespace StoreOp

variable {Fn : Type}

def isAdd : StoreOp Fn -> Bool
  | add .. => true
  | remove _ => false

end StoreOp

namespace EventHandlerStore

variable {Fn : Type}

def apply (store : EventHandlerStore Fn) : StoreOp Fn -> EventHandlerStore Fn
  | StoreOp.add evKind evType handler roomId =>
      (store.addEventHandlerImpl evKind evType handler roomId).2
  | StoreOp.remove handle => store.removeEventHandler handle

def run (ops : List (StoreOp Fn)) : EventHandlerStore Fn :=
  ops.foldl apply empty

theorem run_append_singleton (ops : List (StoreOp Fn)) (op : StoreOp Fn) :
    run (ops ++ [op]) = (run ops).apply op := by
  simp [run]

end EventHandlerStore

/-- The `issued`-th registration, counting from zero: its id is `issued` until
the counter wraps around. -/
def registrationAt {Fn : Type} (issued : Nat) (evKind : HandlerKind)
    (evType : Option String) (handler : Fn) (roomId : Option RoomId) :
    Registration Fn where
  handle := { evKind, evType, roomId, handlerId := issued % counterBound }
  handlerFn := handler

/-- The live registrations in registration order, and how many registrations
were made. -/
structure Ledger (Fn : Type) where
  live : List (Registration Fn)
  issued : Nat

namespace Ledger

variable {Fn : Type}

def empty : Ledger Fn where
  live := []
  issued := 0

def apply (ledger : Ledger Fn) : StoreOp Fn -> Ledger Fn
  | StoreOp.add evKind evType handler roomId =>
      { live := ledger.live ++
          [registrationAt ledger.issued evKind evType handler roomId],
        issued := ledger.issued + 1 }
  | StoreOp.remove handle =>
      { ledger with live := ledger.live.filter fun h => h.handle != handle }

def run (ops : List (StoreOp Fn)) : Ledger Fn :=
  ops.foldl apply empty

theorem run_append_singleton (ops : List (StoreOp Fn)) (op : StoreOp Fn) :
    run (ops ++ [op]) = (run ops).apply op := by
  simp [run]

/-!
# The store refines the ledger
-/

structure Simulates (store : EventHandlerStore Fn) (ledger : Ledger Fn) : Prop where
  represents : store.handlers.Represents ledger.live
  counter_eq : store.counter = ledger.issued % counterBound

theorem simulates_apply {store : EventHandlerStore Fn} {ledger : Ledger Fn}
    (h : Simulates store ledger) (op : StoreOp Fn) :
    Simulates (store.apply op) (ledger.apply op) := by
  cases op with
  | add evKind evType handler roomId =>
      constructor
      · show (store.handlers.add _ handler).Represents _
        rw [h.counter_eq]
        exact EventHandlerMaps.represents_add h.represents _ handler
      · show (store.counter + 1) % counterBound = (ledger.issued + 1) % counterBound
        rw [h.counter_eq, Nat.mod_add_mod]
  | remove handle =>
      exact ⟨EventHandlerMaps.represents_remove h.represents handle, h.counter_eq⟩

theorem simulates_run (ops : List (StoreOp Fn)) :
    Simulates (EventHandlerStore.run ops) (run ops) := by
  induction ops using List.reverseRecOn with
  | nil => exact ⟨EventHandlerMaps.represents_empty, rfl⟩
  | append_singleton ops op ih =>
      rw [EventHandlerStore.run_append_singleton, run_append_singleton]
      exact simulates_apply ih op

theorem getHandlers_run (ops : List (StoreOp Fn)) (evKind : HandlerKind)
    (evType : String) (roomId : Option RoomId) :
    (EventHandlerStore.run ops).handlers.getHandlers evKind evType roomId =
      (lookup (run ops).live evKind evType roomId).map fun h =>
        (h.calledWith roomId, h.handlerFn) :=
  EventHandlerMaps.getHandlers_of_represents (simulates_run ops).represents
    evKind evType roomId

/-!
# Labels that tell registrations apart

A label that the `n`-th registration sets to `n` increases along the list of live
registrations.  The id is such a label until the counter wraps around; a handler
function that names its registration always is.
-/

section Labels

variable (label : Registration Fn -> Nat)

structure Increasing (ledger : Ledger Fn) : Prop where
  label_lt : forall h, h ∈ ledger.live -> label h < ledger.issued
  pairwise : ledger.live.Pairwise fun a b => label a < label b

variable {label}

theorem increasing_empty : Increasing label (empty : Ledger Fn) where
  label_lt := by simp [empty]
  pairwise := List.Pairwise.nil

theorem increasing_apply {ledger : Ledger Fn} (h : Increasing label ledger)
    (op : StoreOp Fn)
    (hlabel : forall evKind evType handler roomId,
      op = StoreOp.add evKind evType handler roomId ->
        label (registrationAt ledger.issued evKind evType handler roomId) =
          ledger.issued) :
    Increasing label (ledger.apply op) := by
  cases op with
  | add evKind evType handler roomId =>
      have hnew := hlabel evKind evType handler roomId rfl
      constructor
      · intro g hg
        rcases List.mem_append.mp hg with hold | hadded
        · exact Nat.lt_succ_of_lt (h.label_lt g hold)
        · rw [List.mem_singleton.mp hadded, hnew]
          exact Nat.lt_succ_self ledger.issued
      · show (ledger.live ++ [_]).Pairwise _
        rw [List.pairwise_append]
        refine ⟨h.pairwise, List.pairwise_singleton .., ?_⟩
        intro a ha b hb
        rw [List.mem_singleton.mp hb, hnew]
        exact h.label_lt a ha
  | remove handle =>
      refine ⟨?_, h.pairwise.filter _⟩
      intro g hg
      exact h.label_lt g (List.mem_filter.mp hg).1

theorem eq_of_label_eq {hs : List (Registration Fn)}
    (hpairwise : hs.Pairwise fun a b => label a < label b)
    {a b : Registration Fn} (ha : a ∈ hs) (hb : b ∈ hs)
    (heq : label a = label b) : a = b := by
  have hnodup : (hs.map label).Nodup := by
    rw [List.Nodup, List.pairwise_map]
    exact hpairwise.imp fun hlt => Nat.ne_of_lt hlt
  exact List.inj_on_of_nodup_map hnodup ha hb heq

/-- Distinct labels in the list stay distinct in a lookup, because no
registration is in two groups. -/
theorem nodup_map_lookup_of_nodup {hs : List (Registration Fn)}
    (hnodup : (hs.map label).Nodup) (evKind : HandlerKind) (evType : String)
    (roomId : Option RoomId) :
    ((lookup hs evKind evType roomId).map label).Nodup := by
  have hgroup : forall type room, ((group hs evKind type room).map label).Nodup :=
    fun type room => hnodup.sublist (List.filter_sublist.map label)
  have hdisjoint : forall type room type' room', type ≠ type' ∨ room ≠ room' ->
      forall n, n ∈ (group hs evKind type room).map label ->
        n ∉ (group hs evKind type' room').map label := by
    intro type room type' room' hne n hn hn'
    rcases List.mem_map.mp hn with ⟨a, ha, haLabel⟩
    rcases List.mem_map.mp hn' with ⟨b, hb, hbLabel⟩
    rcases mem_group.mp ha with ⟨haMem, haGroup⟩
    rcases mem_group.mp hb with ⟨hbMem, hbGroup⟩
    have hab := List.inj_on_of_nodup_map hnodup haMem hbMem (haLabel.trans hbLabel.symm)
    subst hab
    rcases hne with htype | hroom
    · exact htype (haGroup.2.1.symm.trans hbGroup.2.1)
    · exact hroom (haGroup.2.2.symm.trans hbGroup.2.2)
  cases roomId with
  | none =>
      rw [lookup, List.append_nil, List.map_append, List.nodup_append']
      exact ⟨hgroup _ _, hgroup _ _, fun n => hdisjoint _ _ _ _ (by simp) n⟩
  | some room =>
      simp only [lookup, List.map_append, List.nodup_append',
        List.disjoint_append_left, List.disjoint_append_right]
      refine ⟨⟨hgroup _ _, hgroup _ _, ?_⟩, ⟨hgroup _ _, hgroup _ _, ?_⟩,
        ⟨?_, ?_⟩, ?_, ?_⟩ <;>
        exact fun n => hdisjoint _ _ _ _ (by simp) n

theorem nodup_map_lookup {hs : List (Registration Fn)}
    (hpairwise : hs.Pairwise fun a b => label a < label b)
    (evKind : HandlerKind) (evType : String) (roomId : Option RoomId) :
    ((lookup hs evKind evType roomId).map label).Nodup := by
  apply nodup_map_lookup_of_nodup
  rw [List.Nodup, List.pairwise_map]
  exact hpairwise.imp fun hlt => Nat.ne_of_lt hlt

end Labels

theorem issued_run (ops : List (StoreOp Fn)) :
    (run ops).issued = ops.countP StoreOp.isAdd := by
  induction ops using List.reverseRecOn with
  | nil => rfl
  | append_singleton ops op ih =>
      rw [run_append_singleton, List.countP_append, ← ih]
      cases op <;> simp [apply, StoreOp.isAdd]

theorem increasing_id_run (ops : List (StoreOp Fn))
    (hcount : ops.countP StoreOp.isAdd <= counterBound) :
    Increasing (fun h => h.handle.handlerId) (run ops) := by
  induction ops using List.reverseRecOn with
  | nil => exact increasing_empty
  | append_singleton ops op ih =>
      rw [List.countP_append] at hcount
      rw [run_append_singleton]
      apply increasing_apply (ih (by omega)) op
      intro evKind evType handler roomId hop
      have hlt : (run ops).issued < counterBound := by
        rw [issued_run]
        subst hop
        exact Nat.lt_of_succ_le (by simpa [StoreOp.isAdd] using hcount)
      exact Nat.mod_eq_of_lt hlt

/-!
# Registered and not yet removed
-/

/-- Some operation made the registration and none after it removed its handle. -/
def Registered (ops : List (StoreOp Fn)) (h : Registration Fn) : Prop :=
  exists before evKind evType handler roomId rest,
    ops = before ++ StoreOp.add evKind evType handler roomId :: rest ∧
      h = registrationAt (before.countP StoreOp.isAdd) evKind evType handler roomId ∧
      StoreOp.remove h.handle ∉ rest

theorem registered_append_singleton (ops : List (StoreOp Fn)) (op : StoreOp Fn)
    (h : Registration Fn) :
    Registered (ops ++ [op]) h <->
      (Registered ops h ∧ op ≠ StoreOp.remove h.handle) ∨
        exists evKind evType handler roomId,
          op = StoreOp.add evKind evType handler roomId ∧
            h = registrationAt (ops.countP StoreOp.isAdd) evKind evType handler
              roomId := by
  constructor
  · intro h
    rcases h with ⟨before, evKind, evType, handler, roomId, rest, hops, hh, hrest⟩
    rcases List.eq_nil_or_concat rest with hnil | ⟨rest', last, hconcat⟩
    · subst hnil
      rcases List.append_inj' hops rfl with ⟨hbefore, hop⟩
      subst hbefore
      exact Or.inr ⟨evKind, evType, handler, roomId, by simpa using hop, hh⟩
    · subst hconcat
      rw [List.concat_eq_append, ← List.cons_append, ← List.append_assoc] at hops
      rcases List.append_inj' hops rfl with ⟨hbefore, hop⟩
      rw [List.concat_eq_append, List.mem_append, not_or] at hrest
      refine Or.inl ⟨⟨before, evKind, evType, handler, roomId, rest', hbefore,
        hh, hrest.1⟩, ?_⟩
      intro hremove
      cases hop
      exact hrest.2 (by simp [hremove])
  · intro h
    rcases h with
      ⟨⟨before, evKind, evType, handler, roomId, rest, hops, hh, hrest⟩, hop⟩
      | ⟨evKind, evType, handler, roomId, hop, hh⟩
    · refine ⟨before, evKind, evType, handler, roomId, rest ++ [op], ?_, hh, ?_⟩
      · rw [hops, List.append_assoc, List.cons_append]
      · simp [hrest, Ne.symm hop]
    · exact ⟨ops, evKind, evType, handler, roomId, [], by rw [hop], hh,
        List.not_mem_nil⟩

theorem mem_live_run (ops : List (StoreOp Fn)) (h : Registration Fn) :
    h ∈ (run ops).live <-> Registered ops h := by
  induction ops using List.reverseRecOn with
  | nil =>
      constructor
      · intro hmem
        cases hmem
      · intro h
        rcases h with ⟨before, _, _, _, _, rest, hops, _⟩
        cases before <;> cases hops
  | append_singleton ops op ih =>
      rw [run_append_singleton, registered_append_singleton, ← ih]
      cases op with
      | add evKind evType handler roomId =>
          show h ∈ (run ops).live ++ [_] <-> _
          rw [List.mem_append, List.mem_singleton, issued_run]
          constructor
          · intro h
            rcases h with hold | hnew
            · exact Or.inl ⟨hold, nofun⟩
            · exact Or.inr ⟨evKind, evType, handler, roomId, rfl, hnew⟩
          · intro h
            rcases h with ⟨hold, _⟩ | ⟨_, _, _, _, hop, hnew⟩
            · exact Or.inl hold
            · cases hop
              exact Or.inr hnew
      | remove handle =>
          show h ∈ (run ops).live.filter _ <-> _
          rw [List.mem_filter]
          constructor
          · intro h
            rcases h with ⟨hold, hne⟩
            refine Or.inl ⟨hold, ?_⟩
            intro hop
            cases hop
            simp at hne
          · intro h
            rcases h with ⟨hold, hne⟩ | ⟨_, _, _, _, hop, _⟩
            · refine ⟨hold, ?_⟩
              rw [bne_iff_ne]
              intro heq
              exact hne (by rw [heq])
            · cases hop

end Ledger

/-!
# Numbered registrations

Naming each handler by the number of its registration tells the handlers of a
run apart however many there are.
-/

namespace StoreOp

def numberFrom {Fn : Type} (issued : Nat) : List (StoreOp Fn) -> List (StoreOp Nat)
  | [] => []
  | add evKind evType _ roomId :: rest =>
      add evKind evType issued roomId :: numberFrom (issued + 1) rest
  | remove handle :: rest => remove handle :: numberFrom issued rest

def number {Fn : Type} (ops : List (StoreOp Fn)) : List (StoreOp Nat) :=
  numberFrom 0 ops

end StoreOp

namespace Ledger

theorem increasing_numberFrom {Fn : Type} (ops : List (StoreOp Fn))
    {ledger : Ledger Nat} (h : Increasing Registration.handlerFn ledger) :
    Increasing Registration.handlerFn
      ((StoreOp.numberFrom ledger.issued ops).foldl apply ledger) := by
  induction ops generalizing ledger with
  | nil => exact h
  | cons op rest ih =>
      cases op with
      | add evKind evType handler roomId =>
          apply @ih (ledger.apply (StoreOp.add evKind evType ledger.issued roomId))
          apply increasing_apply h
          intro _ _ _ _ hop
          cases hop
          rfl
      | remove handle =>
          exact @ih (ledger.apply (StoreOp.remove handle))
            (increasing_apply h _ nofun)

theorem increasing_number_run {Fn : Type} (ops : List (StoreOp Fn)) :
    Increasing Registration.handlerFn (run (StoreOp.number ops)) :=
  increasing_numberFrom ops increasing_empty

end Ledger

/-!
# Looking up and removing
-/

variable {Fn : Type}

open Ledger in
/-- Below the counter's bound a lookup yields exactly the registered handlers
that match the event, each once, group by group and in registration order. -/
theorem getHandlers_exact (ops : List (StoreOp Fn))
    (hcount : ops.countP StoreOp.isAdd < counterBound) (evKind : HandlerKind)
    (evType : String) (roomId : Option RoomId) :
    let live := (run ops).live
    let yielded := lookup live evKind evType roomId
    (EventHandlerStore.run ops).handlers.getHandlers evKind evType roomId =
        yielded.map (fun h => (h.calledWith roomId, h.handlerFn)) ∧
      live.Pairwise (fun a b => a.handle.handlerId < b.handle.handlerId) ∧
      (forall h, h ∈ yielded <->
        Registered ops h ∧ h.Matches evKind evType roomId) ∧
      (yielded.map fun h => h.handle.handlerId).Nodup := by
  intro live yielded
  have hincreasing := (increasing_id_run ops (Nat.le_of_lt hcount)).pairwise
  refine ⟨getHandlers_run ops evKind evType roomId, hincreasing, ?_, ?_⟩
  · intro h
    rw [mem_lookup, mem_live_run]
  · exact nodup_map_lookup hincreasing evKind evType roomId

/-- One handler in each of the four groups of a room message, a handler of another
room, and one that is taken out again. -/
def sampleOps : List (StoreOp String) :=
  [StoreOp.add HandlerKind.originalMessageLike (some "m.room.message") "messages" none,
    StoreOp.add HandlerKind.originalMessageLike (some "m.room.message") "room messages"
      (some "!a:x"),
    StoreOp.add HandlerKind.originalMessageLike none "events" none,
    StoreOp.add HandlerKind.originalMessageLike none "room events" (some "!a:x"),
    StoreOp.add HandlerKind.originalMessageLike none "other room" (some "!b:x"),
    StoreOp.add HandlerKind.originalMessageLike (some "m.room.message") "removed" none,
    StoreOp.remove ⟨HandlerKind.originalMessageLike, some "m.room.message", none, 5⟩]

theorem getHandlers_exact_sample :
    let live := (Ledger.run sampleOps).live
    let yielded := lookup live HandlerKind.originalMessageLike "m.room.message"
      (some "!a:x")
    yielded.map Registration.handlerFn =
        ["events", "messages", "room events", "room messages"] ∧
      (EventHandlerStore.run sampleOps).handlers.getHandlers
          HandlerKind.originalMessageLike "m.room.message" (some "!a:x") =
        yielded.map (fun h => (h.calledWith (some "!a:x"), h.handlerFn)) ∧
      live.Pairwise (fun a b => a.handle.handlerId < b.handle.handlerId) ∧
      (forall h, h ∈ yielded <-> Ledger.Registered sampleOps h ∧
        h.Matches HandlerKind.originalMessageLike "m.room.message" (some "!a:x")) ∧
      (yielded.map fun h => h.handle.handlerId).Nodup :=
  ⟨by decide, getHandlers_exact sampleOps (by decide) HandlerKind.originalMessageLike
    "m.room.message" (some "!a:x")⟩

/-- If removing a handle leaves exactly the other registrations, the handle is
the one that was returned for the removed registration and for no other. -/
theorem handle_eq_of_represents {maps : EventHandlerMaps Fn}
    {earlier later : List (Registration Fn)} {h : Registration Fn}
    {handle : EventHandlerHandle}
    (hmaps : maps.Represents (earlier ++ h :: later))
    (hothers : (maps.remove handle).Represents (earlier ++ later))
    (hid : handle.handlerId = h.handle.handlerId) :
    Key.new handle = Key.new h.handle ∧
      forall other, other ∈ earlier ++ later -> other.handle ≠ h.handle := by
  have hfilter := EventHandlerMaps.represents_remove hmaps handle
  have hwrappers := (hothers.wrappers_eq (Key.new h.handle)).symm.trans
    (hfilter.wrappers_eq (Key.new h.handle))
  have hkey : Key.new handle = Key.new h.handle := by
    by_contra hne
    -- Nothing under the key of `h` is removed, so the list there is too long.
    have hkept : ((earlier ++ h :: later).filter fun g => g.handle != handle).filter
          (fun g => Key.new g.handle = Key.new h.handle) =
        (earlier ++ h :: later).filter
          fun g => Key.new g.handle = Key.new h.handle := by
      rw [List.filter_filter]
      apply List.filter_congr
      intro g _
      by_cases hg : Key.new g.handle = Key.new h.handle
      · have hgHandle : g.handle ≠ handle := by
          intro heq
          exact hne (by rw [← heq, hg])
        simp [hgHandle]
      · simp [hg]
    rw [hkept] at hwrappers
    have hlength := congrArg List.length hwrappers
    simp at hlength
  refine ⟨hkey, ?_⟩
  intro other hother heq
  have hwrapper : other.wrapper ∈
      (((earlier ++ h :: later).filter fun g => g.handle != handle).filter
        fun g => Key.new g.handle = Key.new h.handle).map Registration.wrapper := by
    rw [← hwrappers]
    apply List.mem_map_of_mem
    rw [List.mem_filter]
    exact ⟨hother, by simp [heq]⟩
  rcases List.mem_map.mp hwrapper with ⟨g, hg, hgWrapper⟩
  rcases List.mem_filter.mp hg with ⟨hgLeft, hgKey⟩
  have hgId : g.handle.handlerId = handle.handlerId := by
    have := congrArg EventHandlerWrapper.handlerId hgWrapper
    rw [hid, ← heq]
    exact this
  have hgHandle : g.handle = handle :=
    Key.eq_of_new_eq ((of_decide_eq_true hgKey).trans hkey.symm) hgId
  have hgNe := (List.mem_filter.mp hgLeft).2
  simp [hgHandle] at hgNe

/-- A handler that removes itself by the handle it is called with is taken out,
and every other handler stays, exactly if it was registered for the room of the
event and its handle is not shared. -/
theorem represents_remove_calledWith_iff (ops : List (StoreOp Fn))
    (evKind : HandlerKind) (evType : String) (roomId : Option RoomId) :
    let store := EventHandlerStore.run ops
    let live := (Ledger.run ops).live
    store.handlers.getHandlers evKind evType roomId =
        (lookup live evKind evType roomId).map
          (fun h => (h.calledWith roomId, h.handlerFn)) ∧
      forall earlier h later, live = earlier ++ h :: later ->
        h.Matches evKind evType roomId ->
        ((store.removeEventHandler (h.calledWith roomId)).handlers.Represents
            (earlier ++ later) <->
          h.handle.roomId = roomId ∧
            forall other, other ∈ earlier ++ later -> other.handle ≠ h.handle) := by
  intro store live
  refine ⟨Ledger.getHandlers_run ops evKind evType roomId, ?_⟩
  intro earlier h later hlive _
  have hstore : store.handlers.Represents (earlier ++ h :: later) := by
    rw [← hlive]
    exact (Ledger.simulates_run ops).represents
  constructor
  · intro hothers
    rcases handle_eq_of_represents hstore hothers rfl with ⟨hkey, hunique⟩
    exact ⟨(Key.new_eq_new.mp hkey).2.2.symm, hunique⟩
  · intro h
    rcases h with ⟨hroom, hunique⟩
    have hhandle : h.calledWith roomId = h.handle := by
      rw [Registration.calledWith, ← hroom]
    have hremoved := EventHandlerMaps.represents_remove hstore (h.calledWith roomId)
    have hfilter : (earlier ++ h :: later).filter
        (fun g => g.handle != h.calledWith roomId) = earlier ++ later := by
      rw [hhandle, List.filter_append, List.filter_cons_of_neg (by simp),
        ← List.filter_append, List.filter_eq_self]
      intro g hg
      rw [bne_iff_ne]
      exact hunique g hg
    rw [hfilter] at hremoved
    exact hremoved

theorem represents_remove_calledWith_iff_room_handler :
    let ops : List (StoreOp Unit) :=
      [StoreOp.add HandlerKind.state (some "m.room.member") () (some "!a:x")]
    let store := EventHandlerStore.run ops
    let h : Registration Unit :=
      registrationAt 0 HandlerKind.state (some "m.room.member") () (some "!a:x")
    (store.removeEventHandler (h.calledWith (some "!a:x"))).handlers.Represents [] <->
      h.handle.roomId = some "!a:x" ∧
        forall other, other ∈ ([] : List (Registration Unit)) ->
          other.handle ≠ h.handle :=
  (represents_remove_calledWith_iff
    [StoreOp.add HandlerKind.state (some "m.room.member") () (some "!a:x")]
    HandlerKind.state "m.room.member" (some "!a:x")).2
    [] (registrationAt 0 HandlerKind.state (some "m.room.member") () (some "!a:x"))
    [] rfl (by decide)

/-- A handler registered for no room survives its own handle when it is called
for an event in a room. -/
theorem getHandlers_after_self_removal :
    let store := EventHandlerStore.run
      [StoreOp.add HandlerKind.state (some "m.room.member") () none]
    let handle : EventHandlerHandle :=
      { evKind := HandlerKind.state, evType := some "m.room.member",
        roomId := some "!a:x", handlerId := 0 }
    store.handlers.getHandlers HandlerKind.state "m.room.member" (some "!a:x") =
        [(handle, ())] ∧
      (store.removeEventHandler handle).handlers.getHandlers HandlerKind.state
        "m.room.member" (some "!a:x") = [(handle, ())] ∧
      ¬ (store.removeEventHandler handle).handlers.Represents [] := by
  have hyield : ((EventHandlerStore.run
      [StoreOp.add HandlerKind.state (some "m.room.member") () none]).removeEventHandler
        { evKind := HandlerKind.state, evType := some "m.room.member",
          roomId := some "!a:x", handlerId := 0 }).handlers.wrappers
        (Key.kindType { evKind := HandlerKind.state, evType := "m.room.member" }) =
      [{ handlerFn := (), handlerId := 0 }] := rfl
  refine ⟨rfl, rfl, ?_⟩
  intro hrepresents
  rw [hrepresents.wrappers_eq] at hyield
  cases hyield

end EventHandler
end MatrixGoose
