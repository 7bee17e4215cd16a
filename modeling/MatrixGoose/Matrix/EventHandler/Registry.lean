import Mathlib.Tactic.Tauto
import MatrixGoose.Matrix.EventHandler.Maps

/-!
# The registry behind the maps

The four maps stand for one flat list of live registrations in registration
order.  Adding a handler appends to the list, removing a handle filters it, and
looking up an event reads off four groups of the list one after the other.
-/

namespace MatrixGoose
namespace EventHandler

open Foundation

structure Registration (Fn : Type) where
  handle : EventHandlerHandle
  handlerFn : Fn

namespace Registration

variable {Fn : Type}

def wrapper (h : Registration Fn) : EventHandlerWrapper Fn :=
  { handlerFn := h.handlerFn, handlerId := h.handle.handlerId }

/-- The handle that the handler gets as its argument: the room is the room of
the event it is called for. -/
def calledWith (h : Registration Fn) (roomId : Option RoomId) :
    EventHandlerHandle :=
  { h.handle with roomId }

def InGroup (h : Registration Fn) (evKind : HandlerKind)
    (evType : Option String) (roomId : Option RoomId) : Prop :=
  h.handle.evKind = evKind ∧ h.handle.evType = evType ∧ h.handle.roomId = roomId

instance (h : Registration Fn) (evKind : HandlerKind)
    (evType : Option String) (roomId : Option RoomId) :
    Decidable (h.InGroup evKind evType roomId) :=
  inferInstanceAs (Decidable (_ ∧ _ ∧ _))

def Matches (h : Registration Fn) (evKind : HandlerKind)
    (evType : String) (roomId : Option RoomId) : Prop :=
  h.handle.evKind = evKind ∧
    (h.handle.evType = none ∨ h.handle.evType = some evType) ∧
    (h.handle.roomId = none ∨ h.handle.roomId = roomId)

instance (h : Registration Fn) (evKind : HandlerKind)
    (evType : String) (roomId : Option RoomId) :
    Decidable (h.Matches evKind evType roomId) :=
  inferInstanceAs (Decidable (_ ∧ (_ ∨ _) ∧ (_ ∨ _)))

end Registration

section Lookup

variable {Fn : Type}

def group (hs : List (Registration Fn)) (evKind : HandlerKind)
    (evType : Option String) (roomId : Option RoomId) : List (Registration Fn) :=
  hs.filter fun h => h.InGroup evKind evType roomId

/-- The registrations called for an event: those for the kind alone, for the
type, for the room, and for both. -/
def lookup (hs : List (Registration Fn)) (evKind : HandlerKind)
    (evType : String) (roomId : Option RoomId) : List (Registration Fn) :=
  group hs evKind none none ++ group hs evKind (some evType) none ++
    match roomId with
    | none => []
    | some roomId =>
        group hs evKind none (some roomId) ++
          group hs evKind (some evType) (some roomId)

theorem mem_group {hs : List (Registration Fn)} {evKind : HandlerKind}
    {evType : Option String} {roomId : Option RoomId} {h : Registration Fn} :
    h ∈ group hs evKind evType roomId <->
      h ∈ hs ∧ h.InGroup evKind evType roomId := by
  simp [group]

theorem mem_lookup {hs : List (Registration Fn)} {evKind : HandlerKind}
    {evType : String} {roomId : Option RoomId} {h : Registration Fn} :
    h ∈ lookup hs evKind evType roomId <->
      h ∈ hs ∧ h.Matches evKind evType roomId := by
  cases roomId with
  | none =>
      simp only [lookup, List.mem_append, mem_group, Registration.InGroup,
        Registration.Matches, List.not_mem_nil, or_false, or_self]
      tauto
  | some roomId =>
      simp only [lookup, List.mem_append, mem_group, Registration.InGroup,
        Registration.Matches]
      tauto

end Lookup

/-!
# Keys

The key of a handle determines its kind, type and room, so a handle is
determined by its key and its id.
-/

namespace Key

theorem new_eq_kind {handle : EventHandlerHandle} {evKind : HandlerKind} :
    Key.new handle = Key.kind evKind <->
      handle.evKind = evKind ∧ handle.evType = none ∧ handle.roomId = none := by
  rcases handle with ⟨kind, _ | type, _ | room, id⟩ <;> simp [Key.new]

theorem new_eq_kindType {handle : EventHandlerHandle} {evKind : HandlerKind}
    {evType : String} :
    Key.new handle = Key.kindType { evKind, evType } <->
      handle.evKind = evKind ∧ handle.evType = some evType ∧
        handle.roomId = none := by
  rcases handle with ⟨kind, _ | type, _ | room, id⟩ <;> simp [Key.new]

theorem new_eq_kindRoomId {handle : EventHandlerHandle} {evKind : HandlerKind}
    {roomId : RoomId} :
    Key.new handle = Key.kindRoomId { evKind, roomId } <->
      handle.evKind = evKind ∧ handle.evType = none ∧
        handle.roomId = some roomId := by
  rcases handle with ⟨kind, _ | type, _ | room, id⟩ <;> simp [Key.new]

theorem new_eq_kindTypeRoomId {handle : EventHandlerHandle}
    {evKind : HandlerKind} {evType : String} {roomId : RoomId} :
    Key.new handle = Key.kindTypeRoomId { evKind, evType, roomId } <->
      handle.evKind = evKind ∧ handle.evType = some evType ∧
        handle.roomId = some roomId := by
  rcases handle with ⟨kind, _ | type, _ | room, id⟩ <;> simp [Key.new]

theorem new_eq_new {a b : EventHandlerHandle} :
    Key.new a = Key.new b <->
      a.evKind = b.evKind ∧ a.evType = b.evType ∧ a.roomId = b.roomId := by
  rcases b with ⟨kind, _ | type, _ | room, id⟩
  · exact new_eq_kind
  · exact new_eq_kindRoomId
  · exact new_eq_kindType
  · exact new_eq_kindTypeRoomId

theorem eq_of_new_eq {a b : EventHandlerHandle} (hkey : Key.new a = Key.new b)
    (hid : a.handlerId = b.handlerId) : a = b := by
  rcases a with ⟨aKind, aType, aRoom, aId⟩
  rcases b with ⟨bKind, bType, bRoom, bId⟩
  rcases new_eq_new.mp hkey with ⟨hkind, htype, hroom⟩
  cases hkind
  cases htype
  cases hroom
  cases hid
  rfl

end Key

/-!
# Representation

The maps represent a list of registrations when every key holds exactly the
registrations with that key, in order, and no map keeps an empty entry.
-/

namespace EventHandlerMaps

variable {Fn : Type}

structure NoEmpty (maps : EventHandlerMaps Fn) : Prop where
  byKind : maps.byKind.NoEmpty
  byKindType : maps.byKindType.NoEmpty
  byKindRoomid : maps.byKindRoomid.NoEmpty
  byKindTypeRoomid : maps.byKindTypeRoomid.NoEmpty

theorem noEmpty_empty : (empty : EventHandlerMaps Fn).NoEmpty where
  byKind := MultiMap.noEmpty_empty
  byKindType := MultiMap.noEmpty_empty
  byKindRoomid := MultiMap.noEmpty_empty
  byKindTypeRoomid := MultiMap.noEmpty_empty

theorem noEmpty_add {maps : EventHandlerMaps Fn} (hmaps : maps.NoEmpty)
    (handle : EventHandlerHandle) (handlerFn : Fn) :
    (maps.add handle handlerFn).NoEmpty := by
  rcases hmaps with ⟨hkind, htype, hroom, hboth⟩
  unfold add
  cases Key.new handle with
  | kind key => exact ⟨MultiMap.noEmpty_push hkind _ _, htype, hroom, hboth⟩
  | kindType key => exact ⟨hkind, MultiMap.noEmpty_push htype _ _, hroom, hboth⟩
  | kindRoomId key => exact ⟨hkind, htype, MultiMap.noEmpty_push hroom _ _, hboth⟩
  | kindTypeRoomId key => exact ⟨hkind, htype, hroom, MultiMap.noEmpty_push hboth _ _⟩

theorem noEmpty_remove {maps : EventHandlerMaps Fn} (hmaps : maps.NoEmpty)
    (handle : EventHandlerHandle) : (maps.remove handle).NoEmpty := by
  rcases hmaps with ⟨hkind, htype, hroom, hboth⟩
  unfold remove
  cases Key.new handle with
  | kind key => exact ⟨MultiMap.noEmpty_retain hkind _ _, htype, hroom, hboth⟩
  | kindType key => exact ⟨hkind, MultiMap.noEmpty_retain htype _ _, hroom, hboth⟩
  | kindRoomId key => exact ⟨hkind, htype, MultiMap.noEmpty_retain hroom _ _, hboth⟩
  | kindTypeRoomId key =>
      exact ⟨hkind, htype, hroom, MultiMap.noEmpty_retain hboth _ _⟩

structure Represents (maps : EventHandlerMaps Fn)
    (hs : List (Registration Fn)) : Prop where
  noEmpty : maps.NoEmpty
  wrappers_eq : forall key, maps.wrappers key =
    (hs.filter fun h => Key.new h.handle = key).map Registration.wrapper

theorem Represents.maps_eq {maps maps' : EventHandlerMaps Fn}
    {hs : List (Registration Fn)} (hmaps : maps.Represents hs)
    (hmaps' : maps'.Represents hs) : maps = maps' := by
  have hwrappers : forall key, maps.wrappers key = maps'.wrappers key := by
    intro key
    rw [hmaps.wrappers_eq, hmaps'.wrappers_eq]
  have hkind : maps.byKind = maps'.byKind :=
    MultiMap.ext_of_values hmaps.noEmpty.byKind hmaps'.noEmpty.byKind
      fun key => hwrappers (Key.kind key)
  have htype : maps.byKindType = maps'.byKindType :=
    MultiMap.ext_of_values hmaps.noEmpty.byKindType hmaps'.noEmpty.byKindType
      fun key => hwrappers (Key.kindType key)
  have hroom : maps.byKindRoomid = maps'.byKindRoomid :=
    MultiMap.ext_of_values hmaps.noEmpty.byKindRoomid hmaps'.noEmpty.byKindRoomid
      fun key => hwrappers (Key.kindRoomId key)
  have hboth : maps.byKindTypeRoomid = maps'.byKindTypeRoomid :=
    MultiMap.ext_of_values hmaps.noEmpty.byKindTypeRoomid
      hmaps'.noEmpty.byKindTypeRoomid fun key => hwrappers (Key.kindTypeRoomId key)
  cases maps
  cases maps'
  cases hkind
  cases htype
  cases hroom
  cases hboth
  rfl

theorem represents_empty : (empty : EventHandlerMaps Fn).Represents [] where
  noEmpty := noEmpty_empty
  wrappers_eq := by simp

theorem represents_add {maps : EventHandlerMaps Fn} {hs : List (Registration Fn)}
    (hmaps : maps.Represents hs) (handle : EventHandlerHandle) (handlerFn : Fn) :
    (maps.add handle handlerFn).Represents (hs ++ [⟨handle, handlerFn⟩]) where
  noEmpty := noEmpty_add hmaps.noEmpty handle handlerFn
  wrappers_eq := by
    intro key
    rw [wrappers_add, hmaps.wrappers_eq, List.filter_append, List.map_append]
    by_cases hkey : key = Key.new handle
    · subst hkey
      simp [Registration.wrapper]
    · simp [hkey, Ne.symm hkey]

theorem represents_remove {maps : EventHandlerMaps Fn}
    {hs : List (Registration Fn)} (hmaps : maps.Represents hs)
    (handle : EventHandlerHandle) :
    (maps.remove handle).Represents (hs.filter fun h => h.handle != handle) where
  noEmpty := noEmpty_remove hmaps.noEmpty handle
  wrappers_eq := by
    intro key
    rw [wrappers_remove, hmaps.wrappers_eq, List.filter_filter]
    by_cases hkey : key = Key.new handle
    · rw [if_pos hkey, List.filter_map, List.filter_filter]
      congr 1
      apply List.filter_congr
      intro h _
      have hsame : Key.new h.handle = key ->
          (h.handle.handlerId = handle.handlerId <-> h.handle = handle) := by
        intro hnew
        constructor
        · exact Key.eq_of_new_eq (hnew.trans hkey)
        · intro heq
          rw [heq]
      by_cases hnew : Key.new h.handle = key
      · simp [Registration.wrapper, hnew, bne, hsame hnew]
      · simp [hnew]
    · rw [if_neg hkey]
      congr 1
      apply List.filter_congr
      intro h _
      by_cases hnew : Key.new h.handle = key
      · have hne : h.handle ≠ handle := by
          intro heq
          exact hkey (by rw [← hnew, heq])
        simp [hnew, hne]
      · simp [hnew]

theorem map_wrappers_eq {maps : EventHandlerMaps Fn}
    {hs : List (Registration Fn)} (hmaps : maps.Represents hs)
    {evKind : HandlerKind} {evType : Option String} {room : Option RoomId}
    {key : Key}
    (hkey : forall h : Registration Fn,
      Key.new h.handle = key <-> h.InGroup evKind evType room)
    (roomId : Option RoomId) :
    (maps.wrappers key).map (fun wrap =>
      (({ evKind, evType, roomId, handlerId := wrap.handlerId } :
        EventHandlerHandle), wrap.handlerFn)) =
      (group hs evKind evType room).map fun h =>
        (h.calledWith roomId, h.handlerFn) := by
  have hfilter : hs.filter (fun h => Key.new h.handle = key) =
      group hs evKind evType room := by
    apply List.filter_congr
    intro h _
    exact decide_eq_decide.mpr (hkey h)
  rw [hmaps.wrappers_eq, hfilter, List.map_map]
  apply List.map_congr_left
  intro h hmem
  rcases (mem_group.mp hmem).2 with ⟨hkind, htype, _⟩
  simp [Registration.wrapper, Registration.calledWith, hkind, htype]

theorem getHandlers_of_represents {maps : EventHandlerMaps Fn}
    {hs : List (Registration Fn)} (hmaps : maps.Represents hs)
    (evKind : HandlerKind) (evType : String) (roomId : Option RoomId) :
    maps.getHandlers evKind evType roomId =
      (lookup hs evKind evType roomId).map fun h =>
        (h.calledWith roomId, h.handlerFn) := by
  have hkind := map_wrappers_eq hmaps
    (fun h => @Key.new_eq_kind h.handle evKind) roomId
  have htype := map_wrappers_eq hmaps
    (fun h => @Key.new_eq_kindType h.handle evKind evType) roomId
  rw [getHandlers_eq]
  cases roomId with
  | none =>
      simp only [queryKeys, List.flatMap_cons, List.flatMap_nil, List.append_nil,
        lookup, List.map_append]
      rw [hkind, htype]
  | some room =>
      have hroom := map_wrappers_eq hmaps
        (fun h => @Key.new_eq_kindRoomId h.handle evKind room) (some room)
      have hboth := map_wrappers_eq hmaps
        (fun h => @Key.new_eq_kindTypeRoomId h.handle evKind evType room) (some room)
      simp only [queryKeys, List.flatMap_cons, List.flatMap_nil, List.append_nil,
        lookup, List.map_append]
      rw [hkind, htype, hroom, hboth, List.append_assoc]

end EventHandlerMaps

end EventHandler
end MatrixGoose
