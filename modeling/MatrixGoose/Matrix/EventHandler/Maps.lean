import MatrixGoose.Foundation.MultiMap

/-!
# Event handler maps

The store of registered event handlers: four maps, one for each combination of
an optional event type and an optional room, all keyed by the handler kind.
Adding and removing go through the key computed from a handle; looking up
rebuilds handles from the event that is dispatched.
-/

namespace MatrixGoose

open Foundation

abbrev RoomId := String

namespace EventHandler

inductive HandlerKind
  | globalAccountData
  | roomAccountData
  | ephemeralRoomData
  | timeline
  | messageLike
  | originalMessageLike
  | redactedMessageLike
  | state
  | originalState
  | redactedState
  | strippedState
  | toDevice
  | presence
deriving DecidableEq, Repr

namespace HandlerKind

def messageLikeRedacted (redacted : Bool) : HandlerKind :=
  if redacted then redactedMessageLike else originalMessageLike

def stateRedacted (redacted : Bool) : HandlerKind :=
  if redacted then redactedState else originalState

end HandlerKind

structure EventHandlerHandle where
  evKind : HandlerKind
  evType : Option String
  roomId : Option RoomId
  handlerId : Nat
deriving DecidableEq, Repr

structure EventHandlerWrapper (Fn : Type) where
  handlerFn : Fn
  handlerId : Nat

structure KindType where
  evKind : HandlerKind
  evType : String
deriving DecidableEq

structure KindRoomId where
  evKind : HandlerKind
  roomId : RoomId
deriving DecidableEq

structure KindTypeRoomId where
  evKind : HandlerKind
  evType : String
  roomId : RoomId
deriving DecidableEq

inductive Key
  | kind (key : HandlerKind)
  | kindType (key : KindType)
  | kindRoomId (key : KindRoomId)
  | kindTypeRoomId (key : KindTypeRoomId)
deriving DecidableEq

def Key.new (handle : EventHandlerHandle) : Key :=
  match handle.evType, handle.roomId with
  | none, none => Key.kind handle.evKind
  | some evType, none => Key.kindType { evKind := handle.evKind, evType }
  | none, some roomId => Key.kindRoomId { evKind := handle.evKind, roomId }
  | some evType, some roomId =>
      Key.kindTypeRoomId { evKind := handle.evKind, evType, roomId }

structure EventHandlerMaps (Fn : Type) where
  byKind : MultiMap HandlerKind (EventHandlerWrapper Fn)
  byKindType : MultiMap KindType (EventHandlerWrapper Fn)
  byKindRoomid : MultiMap KindRoomId (EventHandlerWrapper Fn)
  byKindTypeRoomid : MultiMap KindTypeRoomId (EventHandlerWrapper Fn)

namespace EventHandlerMaps

variable {Fn : Type}

def empty : EventHandlerMaps Fn where
  byKind := MultiMap.empty
  byKindType := MultiMap.empty
  byKindRoomid := MultiMap.empty
  byKindTypeRoomid := MultiMap.empty

def add (maps : EventHandlerMaps Fn) (handle : EventHandlerHandle)
    (handlerFn : Fn) : EventHandlerMaps Fn :=
  let wrapper := { handlerFn, handlerId := handle.handlerId }
  match Key.new handle with
  | Key.kind key => { maps with byKind := maps.byKind.push key wrapper }
  | Key.kindType key => { maps with byKindType := maps.byKindType.push key wrapper }
  | Key.kindRoomId key =>
      { maps with byKindRoomid := maps.byKindRoomid.push key wrapper }
  | Key.kindTypeRoomId key =>
      { maps with byKindTypeRoomid := maps.byKindTypeRoomid.push key wrapper }

/-- The handlers for an event, each with the handle it is called with.  The
room of that handle is the room of the event, not the one registered. -/
def getHandlers (maps : EventHandlerMaps Fn) (evKind : HandlerKind)
    (evType : String) (roomId : Option RoomId) : List (EventHandlerHandle × Fn) :=
  let kindKv := (maps.byKind evKind).map fun handlers => (none, handlers)
  let kindTypeKv := (maps.byKindType { evKind, evType }).map
    fun handlers => (some evType, handlers)
  let maybeRoomidKvs :=
    match roomId with
    | none => []
    | some roomId =>
        let kindRoomidKv := (maps.byKindRoomid { evKind, roomId }).map
          fun handlers => (none, handlers)
        let kindTypeRoomidKv := (maps.byKindTypeRoomid { evKind, evType, roomId }).map
          fun handlers => (some evType, handlers)
        [kindRoomidKv, kindTypeRoomidKv]
  (([kindKv, kindTypeKv] ++ maybeRoomidKvs).filterMap id).flatMap
    fun (evType, handlers) =>
      handlers.map fun wrap =>
        ({ evKind, evType, roomId, handlerId := wrap.handlerId }, wrap.handlerFn)

def removeEntry {K : Type} [DecidableEq K]
    (map : MultiMap K (EventHandlerWrapper Fn)) (key : K) (handlerId : Nat) :
    MultiMap K (EventHandlerWrapper Fn) :=
  map.retain key fun e => e.handlerId != handlerId

def remove (maps : EventHandlerMaps Fn) (handle : EventHandlerHandle) :
    EventHandlerMaps Fn :=
  let handlerId := handle.handlerId
  match Key.new handle with
  | Key.kind key => { maps with byKind := removeEntry maps.byKind key handlerId }
  | Key.kindType key =>
      { maps with byKindType := removeEntry maps.byKindType key handlerId }
  | Key.kindRoomId key =>
      { maps with byKindRoomid := removeEntry maps.byKindRoomid key handlerId }
  | Key.kindTypeRoomId key =>
      { maps with byKindTypeRoomid := removeEntry maps.byKindTypeRoomid key handlerId }

end EventHandlerMaps

/-- `EventHandlerStore`, without the contexts that handlers extract. -/
structure EventHandlerStore (Fn : Type) where
  handlers : EventHandlerMaps Fn
  counter : Nat

/-- `AtomicU64::fetch_add` wraps around. -/
def counterBound : Nat := UInt64.size

namespace EventHandlerStore

variable {Fn : Type}

def empty : EventHandlerStore Fn where
  handlers := EventHandlerMaps.empty
  counter := 0

/-- `add_event_handler_impl`: draw an id, build the handle, store the handler
and return the handle. -/
def addEventHandlerImpl (store : EventHandlerStore Fn) (evKind : HandlerKind)
    (evType : Option String) (handler : Fn) (roomId : Option RoomId) :
    EventHandlerHandle × EventHandlerStore Fn :=
  let handlerId := store.counter
  let handle := { evKind, evType, roomId, handlerId }
  (handle,
    { handlers := store.handlers.add handle handler,
      counter := (store.counter + 1) % counterBound })

def removeEventHandler (store : EventHandlerStore Fn)
    (handle : EventHandlerHandle) : EventHandlerStore Fn :=
  { store with handlers := store.handlers.remove handle }

end EventHandlerStore

/-!
# One view of the four maps

Reading the four maps through the key of a handle turns them into a single map
from keys to lists, on which adding appends and removing filters.
-/

namespace EventHandlerMaps

variable {Fn : Type}

def wrappers (maps : EventHandlerMaps Fn) : Key -> List (EventHandlerWrapper Fn)
  | Key.kind key => maps.byKind.values key
  | Key.kindType key => maps.byKindType.values key
  | Key.kindRoomId key => maps.byKindRoomid.values key
  | Key.kindTypeRoomId key => maps.byKindTypeRoomid.values key

@[simp] theorem wrappers_empty (key : Key) :
    (empty : EventHandlerMaps Fn).wrappers key = [] := by
  cases key <;> rfl

theorem wrappers_add (maps : EventHandlerMaps Fn) (handle : EventHandlerHandle)
    (handlerFn : Fn) (key : Key) :
    (maps.add handle handlerFn).wrappers key =
      if key = Key.new handle then
        maps.wrappers key ++ [{ handlerFn, handlerId := handle.handlerId }]
      else maps.wrappers key := by
  unfold add
  cases hkey : Key.new handle <;> cases key <;>
    simp [wrappers, MultiMap.values_push]

theorem wrappers_remove (maps : EventHandlerMaps Fn)
    (handle : EventHandlerHandle) (key : Key) :
    (maps.remove handle).wrappers key =
      if key = Key.new handle then
        (maps.wrappers key).filter fun e => e.handlerId != handle.handlerId
      else maps.wrappers key := by
  unfold remove
  cases hkey : Key.new handle <;> cases key <;>
    simp [wrappers, removeEntry, MultiMap.values_retain]

/-- The handlers of an event are read under at most four keys, each with the
event type its key carries. -/
def queryKeys (evKind : HandlerKind) (evType : String) :
    Option RoomId -> List (Option String × Key)
  | none =>
      [(none, Key.kind evKind), (some evType, Key.kindType { evKind, evType })]
  | some roomId =>
      [(none, Key.kind evKind), (some evType, Key.kindType { evKind, evType }),
        (none, Key.kindRoomId { evKind, roomId }),
        (some evType, Key.kindTypeRoomId { evKind, evType, roomId })]

theorem flatMap_filterMap_map {K α : Type}
    (map : MultiMap K (EventHandlerWrapper Fn)) (key : K) (tag : Option String)
    (f : Option String × List (EventHandlerWrapper Fn) -> List α)
    (rest : List (Option (Option String × List (EventHandlerWrapper Fn))))
    (hf : f (tag, []) = []) :
    ((((map key).map fun handlers => (tag, handlers)) :: rest).filterMap id).flatMap f =
      f (tag, map.values key) ++ (rest.filterMap id).flatMap f := by
  cases hkey : map key with
  | none => simp [MultiMap.values_of_eq_none hkey, hf]
  | some handlers => simp [MultiMap.values_of_eq_some hkey]

theorem getHandlers_eq (maps : EventHandlerMaps Fn) (evKind : HandlerKind)
    (evType : String) (roomId : Option RoomId) :
    maps.getHandlers evKind evType roomId =
      (queryKeys evKind evType roomId).flatMap fun (tag, key) =>
        (maps.wrappers key).map fun wrap =>
          ({ evKind, evType := tag, roomId, handlerId := wrap.handlerId },
            wrap.handlerFn) := by
  unfold getHandlers
  cases roomId with
  | none =>
      dsimp only
      rw [List.append_nil, flatMap_filterMap_map _ _ _ _ _ rfl,
        flatMap_filterMap_map _ _ _ _ _ rfl]
      simp [queryKeys, wrappers]
  | some roomId =>
      dsimp only
      rw [List.cons_append, List.cons_append, List.nil_append,
        flatMap_filterMap_map _ _ _ _ _ rfl, flatMap_filterMap_map _ _ _ _ _ rfl,
        flatMap_filterMap_map _ _ _ _ _ rfl, flatMap_filterMap_map _ _ _ _ _ rfl]
      simp [queryKeys, wrappers]

end EventHandlerMaps

end EventHandler
end MatrixGoose
