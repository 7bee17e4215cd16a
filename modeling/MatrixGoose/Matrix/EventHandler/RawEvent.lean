import Mathlib.Data.List.Basic

/-!
# Raw events

Raw events are JSON values.  The dispatcher deserializes them only as far as it
needs: the event type, whether there is a state key, and whether the unsigned
data says what redacted the event.  A derived struct is read from an object, in
which each known field may stand once, or from an array with one item for each
field.
-/

namespace MatrixGoose

inductive Json
  | null
  | bool (value : Bool)
  | num (text : String)
  | str (value : String)
  | arr (items : List Json)
  | obj (fields : List (String × Json))

namespace EventHandler

inductive SerdeError
  | invalidType
  | missingField (name : String)
  | duplicateField (name : String)
  | invalidLength (length : Nat)
  | trailingCharacters
deriving DecidableEq, Repr

abbrev Deserializer (α : Type) := Json -> Except SerdeError α

namespace Deserializer

def string : Deserializer String
  | Json.str value => .ok value
  | _ => .error SerdeError.invalidType

def ignoredAny : Deserializer Unit :=
  fun _ => .ok ()

def option {α : Type} (inner : Deserializer α) : Deserializer (Option α)
  | Json.null => .ok none
  | json => (inner json).map some

/-- A known field of a struct: it may stand once. -/
def setField {α : Type} (name : String) (slot : Option α) (inner : Deserializer α)
    (value : Json) : Except SerdeError (Option α) :=
  match slot with
  | some _ => .error (SerdeError.duplicateField name)
  | none => (inner value).map some

def requireField {α : Type} (name : String) (slot : Option α) :
    Except SerdeError α :=
  match slot with
  | some value => .ok value
  | none => .error (SerdeError.missingField name)

/-- The items of an array must be used up by the fields of the struct. -/
def endSeq (rest : List Json) : Except SerdeError Unit :=
  if rest.isEmpty then .ok () else .error SerdeError.trailingCharacters

end Deserializer

open Deserializer

structure UnsignedDetails where
  redactedBecause : Option Unit
deriving DecidableEq, Repr

namespace UnsignedDetails

def visitField (slot : Option (Option Unit)) (field : String × Json) :
    Except SerdeError (Option (Option Unit)) :=
  if field.1 = "redacted_because" then
    setField "redacted_because" slot (option ignoredAny) field.2
  else .ok slot

def deserialize : Deserializer UnsignedDetails
  | Json.obj fields => do
      let redactedBecause <- fields.foldlM visitField none
      return { redactedBecause := redactedBecause.getD none }
  | Json.arr [] => .error (SerdeError.invalidLength 0)
  | Json.arr (redactedBecause :: rest) => do
      let redactedBecause <- option ignoredAny redactedBecause
      endSeq rest
      return { redactedBecause }
  | _ => .error SerdeError.invalidType

end UnsignedDetails

namespace ExtractType

def visitField (slot : Option String) (field : String × Json) :
    Except SerdeError (Option String) :=
  if field.1 = "type" then setField "type" slot string field.2 else .ok slot

def deserialize : Deserializer String
  | Json.obj fields => do
      let eventType <- fields.foldlM visitField none
      requireField "type" eventType
  | Json.arr [] => .error (SerdeError.invalidLength 0)
  | Json.arr (eventType :: rest) => do
      let eventType <- string eventType
      endSeq rest
      return eventType
  | _ => .error SerdeError.invalidType

end ExtractType

structure StateEventDetails where
  eventType : String
  unsigned : Option UnsignedDetails
deriving DecidableEq, Repr

namespace StateEventDetails

structure Slots where
  eventType : Option String
  unsigned : Option (Option UnsignedDetails)

def visitField (slots : Slots) (field : String × Json) :
    Except SerdeError Slots :=
  if field.1 = "type" then do
    let eventType <- setField "type" slots.eventType string field.2
    return { slots with eventType }
  else if field.1 = "unsigned" then do
    let unsigned <- setField "unsigned" slots.unsigned
      (option UnsignedDetails.deserialize) field.2
    return { slots with unsigned }
  else .ok slots

def deserialize : Deserializer StateEventDetails
  | Json.obj fields => do
      let slots <- fields.foldlM visitField { eventType := none, unsigned := none }
      let eventType <- requireField "type" slots.eventType
      return { eventType, unsigned := slots.unsigned.getD none }
  | Json.arr [] => .error (SerdeError.invalidLength 0)
  | Json.arr [eventType] => do
      let _ <- string eventType
      .error (SerdeError.invalidLength 1)
  | Json.arr (eventType :: unsigned :: rest) => do
      let eventType <- string eventType
      let unsigned <- option UnsignedDetails.deserialize unsigned
      endSeq rest
      return { eventType, unsigned }
  | _ => .error SerdeError.invalidType

/-- `unsigned.and_then(|u| u.redacted_because).is_some()`. -/
def redacted (details : StateEventDetails) : Bool :=
  (details.unsigned.bind UnsignedDetails.redactedBecause).isSome

end StateEventDetails

structure TimelineEventDetails where
  eventType : String
  stateKey : Option Unit
  unsigned : Option UnsignedDetails
deriving DecidableEq, Repr

namespace TimelineEventDetails

structure Slots where
  eventType : Option String
  stateKey : Option (Option Unit)
  unsigned : Option (Option UnsignedDetails)

def visitField (slots : Slots) (field : String × Json) :
    Except SerdeError Slots :=
  if field.1 = "type" then do
    let eventType <- setField "type" slots.eventType string field.2
    return { slots with eventType }
  else if field.1 = "state_key" then do
    let stateKey <- setField "state_key" slots.stateKey (option ignoredAny) field.2
    return { slots with stateKey }
  else if field.1 = "unsigned" then do
    let unsigned <- setField "unsigned" slots.unsigned
      (option UnsignedDetails.deserialize) field.2
    return { slots with unsigned }
  else .ok slots

def deserialize : Deserializer TimelineEventDetails
  | Json.obj fields => do
      let slots <- fields.foldlM visitField
        { eventType := none, stateKey := none, unsigned := none }
      let eventType <- requireField "type" slots.eventType
      return {
        eventType
        stateKey := slots.stateKey.getD none
        unsigned := slots.unsigned.getD none
      }
  | Json.arr [] => .error (SerdeError.invalidLength 0)
  | Json.arr [eventType] => do
      let _ <- string eventType
      .error (SerdeError.invalidLength 1)
  | Json.arr [eventType, stateKey] => do
      let _ <- string eventType
      let _ <- option ignoredAny stateKey
      .error (SerdeError.invalidLength 2)
  | Json.arr (eventType :: stateKey :: unsigned :: rest) => do
      let eventType <- string eventType
      let stateKey <- option ignoredAny stateKey
      let unsigned <- option UnsignedDetails.deserialize unsigned
      endSeq rest
      return { eventType, stateKey, unsigned }
  | _ => .error SerdeError.invalidType

def redacted (details : TimelineEventDetails) : Bool :=
  (details.unsigned.bind UnsignedDetails.redactedBecause).isSome

end TimelineEventDetails

/-!
# The type of an event

All three readings take the event type from the same place, so events that two
of them accept have the same type in both.
-/

def firstType : List (String × Json) -> Option String
  | [] => none
  | (name, value) :: rest =>
      if name = "type" then (string value).toOption else firstType rest

def eventTypeOf : Json -> Option String
  | Json.obj fields => firstType fields
  | Json.arr (eventType :: _) => (string eventType).toOption
  | _ => none

theorem bind_eq_ok {α β : Type} {x : Except SerdeError α}
    {f : α -> Except SerdeError β} {b : β} (h : (x >>= f) = .ok b) :
    exists a, x = .ok a ∧ f a = .ok b := by
  cases x with
  | error e => cases h
  | ok a => exact ⟨a, rfl, h⟩

theorem setField_eq_ok {α : Type} {name : String} {slot slot' : Option α}
    {inner : Deserializer α} {value : Json}
    (h : setField name slot inner value = .ok slot') :
    slot = none ∧ slot' = (inner value).toOption ∧ slot'.isSome := by
  cases slot with
  | some old => cases h
  | none =>
      cases hvalue : inner value with
      | error e =>
          rw [setField, hvalue] at h
          cases h
      | ok parsed =>
          rw [setField, hvalue] at h
          cases h
          exact ⟨rfl, rfl, rfl⟩

def VisitsType {Slots : Type} (typeSlot : Slots -> Option String)
    (visit : Slots -> String × Json -> Except SerdeError Slots) : Prop :=
  forall slots field slots', visit slots field = .ok slots' ->
    if field.1 = "type" then
      typeSlot slots = none ∧ typeSlot slots' = (string field.2).toOption ∧
        (typeSlot slots').isSome
    else typeSlot slots' = typeSlot slots

theorem typeSlot_foldlM {Slots : Type} {typeSlot : Slots -> Option String}
    {visit : Slots -> String × Json -> Except SerdeError Slots}
    (hvisit : VisitsType typeSlot visit)
    {fields : List (String × Json)} {slots slots' : Slots}
    (hfold : fields.foldlM visit slots = .ok slots') :
    typeSlot slots' = (typeSlot slots).or (firstType fields) := by
  induction fields generalizing slots with
  | nil =>
      cases hfold
      simp [firstType]
  | cons field rest ih =>
      rw [List.foldlM_cons] at hfold
      rcases bind_eq_ok hfold with ⟨next, hstep, hrestFold⟩
      have hrest := ih hrestFold
      have hnext := hvisit slots field next hstep
      by_cases hname : field.1 = "type"
      · rw [if_pos hname] at hnext
        rcases hnext with ⟨hnone, hstring, hsome⟩
        rcases Option.isSome_iff_exists.mp hsome with ⟨type, htype⟩
        rw [hrest, firstType, if_pos hname, hnone, ← hstring, htype]
        rfl
      · rw [if_neg hname] at hnext
        rw [hrest, hnext, firstType, if_neg hname]

theorem typeSlot_of_other {α Slots : Type} {typeSlot : Slots -> Option String}
    {set : Except SerdeError α} {update : α -> Slots} {kept : Option String}
    {slots' : Slots} (hvisit : (set >>= fun a => pure (update a)) = .ok slots')
    (hupdate : forall a, typeSlot (update a) = kept) :
    typeSlot slots' = kept := by
  rcases bind_eq_ok hvisit with ⟨a, _, hslots⟩
  cases hslots
  exact hupdate a

theorem ExtractType.visitsType : VisitsType id ExtractType.visitField := by
  intro slot field slot' hstep
  unfold ExtractType.visitField at hstep
  split at hstep
  · next hname =>
      rw [if_pos hname]
      exact setField_eq_ok hstep
  · next hname =>
      rw [if_neg hname]
      cases hstep
      rfl

theorem StateEventDetails.visitsType :
    VisitsType StateEventDetails.Slots.eventType StateEventDetails.visitField := by
  intro slots field slots' hstep
  unfold StateEventDetails.visitField at hstep
  split at hstep
  · next hname =>
      rw [if_pos hname]
      rcases bind_eq_ok hstep with ⟨slot, hset, hslots⟩
      cases hslots
      exact setField_eq_ok hset
  · next hname =>
      rw [if_neg hname]
      split at hstep
      · exact typeSlot_of_other hstep fun _ => rfl
      · cases hstep
        rfl

theorem TimelineEventDetails.visitsType :
    VisitsType TimelineEventDetails.Slots.eventType
      TimelineEventDetails.visitField := by
  intro slots field slots' hstep
  unfold TimelineEventDetails.visitField at hstep
  split at hstep
  · next hname =>
      rw [if_pos hname]
      rcases bind_eq_ok hstep with ⟨slot, hset, hslots⟩
      cases hslots
      exact setField_eq_ok hset
  · next hname =>
      rw [if_neg hname]
      split at hstep
      · exact typeSlot_of_other hstep fun _ => rfl
      · split at hstep
        · exact typeSlot_of_other hstep fun _ => rfl
        · cases hstep
          rfl

theorem requireField_eq_ok {α : Type} {name : String} {slot : Option α} {value : α}
    (h : requireField name slot = .ok value) : slot = some value := by
  cases slot with
  | none => cases h
  | some old =>
      cases h
      rfl

theorem string_toOption_of_ok {json : Json} {type : String}
    (h : string json = .ok type) : (string json).toOption = some type := by
  rw [h]
  rfl

theorem eventTypeOf_of_extractType {json : Json} {type : String}
    (h : ExtractType.deserialize json = .ok type) : eventTypeOf json = some type := by
  unfold ExtractType.deserialize at h
  split at h
  · rcases bind_eq_ok h with ⟨slot, hfold, hrequire⟩
    have hslot := typeSlot_foldlM ExtractType.visitsType hfold
    cases requireField_eq_ok hrequire
    exact hslot.symm
  · cases h
  · rcases bind_eq_ok h with ⟨value, hstring, hrest⟩
    rcases bind_eq_ok hrest with ⟨_, _, hpure⟩
    cases hpure
    exact string_toOption_of_ok hstring
  · cases h

theorem eventTypeOf_of_stateEventDetails {json : Json} {details : StateEventDetails}
    (h : StateEventDetails.deserialize json = .ok details) :
    eventTypeOf json = some details.eventType := by
  unfold StateEventDetails.deserialize at h
  split at h
  · rcases bind_eq_ok h with ⟨slots, hfold, hrest⟩
    rcases bind_eq_ok hrest with ⟨type, hrequire, hpure⟩
    have hslot := typeSlot_foldlM StateEventDetails.visitsType hfold
    rw [requireField_eq_ok hrequire] at hslot
    cases hpure
    exact hslot.symm
  · cases h
  · rcases bind_eq_ok h with ⟨_, _, herror⟩
    cases herror
  · rcases bind_eq_ok h with ⟨value, hstring, hrest⟩
    rcases bind_eq_ok hrest with ⟨_, _, hrest⟩
    rcases bind_eq_ok hrest with ⟨_, _, hpure⟩
    cases hpure
    exact string_toOption_of_ok hstring
  · cases h

theorem eventTypeOf_of_timelineEventDetails {json : Json}
    {details : TimelineEventDetails}
    (h : TimelineEventDetails.deserialize json = .ok details) :
    eventTypeOf json = some details.eventType := by
  unfold TimelineEventDetails.deserialize at h
  split at h
  · rcases bind_eq_ok h with ⟨slots, hfold, hrest⟩
    rcases bind_eq_ok hrest with ⟨type, hrequire, hpure⟩
    have hslot := typeSlot_foldlM TimelineEventDetails.visitsType hfold
    rw [requireField_eq_ok hrequire] at hslot
    cases hpure
    exact hslot.symm
  · cases h
  · rcases bind_eq_ok h with ⟨_, _, herror⟩
    cases herror
  · rcases bind_eq_ok h with ⟨_, _, hrest⟩
    rcases bind_eq_ok hrest with ⟨_, _, herror⟩
    cases herror
  · rcases bind_eq_ok h with ⟨value, hstring, hrest⟩
    rcases bind_eq_ok hrest with ⟨_, _, hrest⟩
    rcases bind_eq_ok hrest with ⟨_, _, hrest⟩
    rcases bind_eq_ok hrest with ⟨_, _, hpure⟩
    cases hpure
    exact string_toOption_of_ok hstring
  · cases h

end EventHandler
end MatrixGoose
