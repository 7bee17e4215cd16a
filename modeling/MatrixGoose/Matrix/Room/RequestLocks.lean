import MatrixGoose.Foundation.Custody
import MatrixGoose.Matrix.EventHandler.Maps
import MatrixGoose.Matrix.Room.EncryptionState

/-!
# Requests that are sent once

Any number of concurrent calls that ask for the members or for the encryption state of
any rooms.  A call that sends a request keeps an entry for its room in a map, which makes
the other calls wait for it, and removes the entry after the answer.
-/

namespace MatrixGoose

open Foundation
open Foundation.Components

namespace Room

open EventHandler

/-!
# Asking for the members
-/

inductive MembersError
  | request
  | store

inductive MembersPhase
  | notStarted
  | lookUp
  /-- The call has found the lock with this name. -/
  | waitFor (mutex : Nat)
  | request
  | receiveMembers
  | remove
  | release
  /-- Whether the result holds a response. -/
  | returned (result : Except MembersError Bool)

/-- A lock is named by the call that has created it. -/
structure MembersShared where
  areEventsVisible : Bool
  areMembersSynced : Bool
  /-- The entry of the room in `members_request_locks`. -/
  requestLock : Option Nat
  locked : Nat -> Bool

inductive MembersAction
  | ensureMembers
  | lookUp
  | awaitLock
  /-- The request is answered, and the answer can be decoded. -/
  | response (answered : Bool)
  | receiveMembers (saved : Bool)
  | remove
  | release

namespace MembersShared

def unlock (shared : MembersShared) (i : Nat) : MembersShared :=
  { shared with locked := Function.update shared.locked i false }

end MembersShared

/-- `ensure_members` and `request_members` of call `i`.  The call looks for the lock of
another one, inserts its own and locks it while it holds the map. -/
def membersStep (i : Nat) (shared : MembersShared) (phase : MembersPhase)
    (a : MembersAction) : Option (MembersShared × MembersPhase) :=
  match a, phase with
  | MembersAction.ensureMembers, MembersPhase.notStarted =>
      if !shared.areEventsVisible then some (shared, MembersPhase.returned (.ok false))
      else if !shared.areMembersSynced then some (shared, MembersPhase.lookUp)
      else some (shared, MembersPhase.returned (.ok false))
  | MembersAction.lookUp, MembersPhase.lookUp =>
      match shared.requestLock with
      | some mutex => some (shared, MembersPhase.waitFor mutex)
      | none =>
          some
            ({ shared with
                requestLock := some i
                locked := Function.update shared.locked i true },
              MembersPhase.request)
  | MembersAction.awaitLock, MembersPhase.waitFor mutex =>
      if shared.locked mutex then none else some (shared, MembersPhase.returned (.ok false))
  | MembersAction.response answered, MembersPhase.request =>
      if answered then some (shared, MembersPhase.receiveMembers)
      else some (shared.unlock i, MembersPhase.returned (.error MembersError.request))
  | MembersAction.receiveMembers saved, MembersPhase.receiveMembers =>
      if saved then some ({ shared with areMembersSynced := true }, MembersPhase.remove)
      else some (shared.unlock i, MembersPhase.returned (.error MembersError.store))
  | MembersAction.remove, MembersPhase.remove =>
      some ({ shared with requestLock := none }, MembersPhase.release)
  | MembersAction.release, MembersPhase.release =>
      some (shared.unlock i, MembersPhase.returned (.ok true))
  | _, _ => none

/-!
# Calls on any rooms
-/

variable {Content : Type}

structure RequestShared (Content : Type) where
  members : RoomId -> MembersShared
  encryption : RoomId -> EncryptionShared Content

inductive RequestCall (Content : Type)
  | notCalled
  | members (roomId : RoomId) (phase : MembersPhase)
  | encryption (roomId : RoomId) (phase : EncryptionPhase Content)

inductive RequestAction (Content : Type)
  | syncMembers (roomId : RoomId)
  | isEncrypted (roomId : RoomId)
  | members (a : MembersAction)
  | encryption (a : EncryptionAction Content)

inductive SyncChange
  | eventsVisible (roomId : RoomId) (visible : Bool)
  | membersSynced (roomId : RoomId) (synced : Bool)
  | encryptionSynced (roomId : RoomId) (synced : Bool)

def requestStep (i : Nat) (shared : RequestShared Content) (call : RequestCall Content)
    (a : RequestAction Content) : Option (RequestShared Content × RequestCall Content) :=
  match a, call with
  | RequestAction.syncMembers roomId, RequestCall.notCalled =>
      some (shared, RequestCall.members roomId MembersPhase.notStarted)
  | RequestAction.isEncrypted roomId, RequestCall.notCalled =>
      some (shared, RequestCall.encryption roomId EncryptionPhase.notStarted)
  | RequestAction.members a, RequestCall.members roomId phase =>
      (membersStep i (shared.members roomId) phase a).map fun (room, phase) =>
        ({ shared with members := Function.update shared.members roomId room },
          RequestCall.members roomId phase)
  | RequestAction.encryption a, RequestCall.encryption roomId phase =>
      (encryptionStep i (shared.encryption roomId) phase a).map fun (room, phase) =>
        ({ shared with encryption := Function.update shared.encryption roomId room },
          RequestCall.encryption roomId phase)
  | _, _ => none

def syncStep (shared : RequestShared Content) : SyncChange -> RequestShared Content
  | SyncChange.eventsVisible roomId visible =>
      { shared with
        members := Function.update shared.members roomId
          { shared.members roomId with areEventsVisible := visible } }
  | SyncChange.membersSynced roomId synced =>
      { shared with
        members := Function.update shared.members roomId
          { shared.members roomId with areMembersSynced := synced } }
  | SyncChange.encryptionSynced roomId synced =>
      { shared with
        encryption := Function.update shared.encryption roomId
          { shared.encryption roomId with encryptionStateSynced := synced } }

def requestCalls (Content : Type) :
    Components Nat (RequestShared Content) (RequestCall Content) SyncChange
      (RequestAction Content) where
  initShared :=
    { members := fun _ =>
        { areEventsVisible := true
          areMembersSynced := false
          requestLock := none
          locked := fun _ => false }
      encryption := fun _ =>
        { encryptionStateSynced := false
          encryptionEvent := none
          requestLock := none
          locked := fun _ => false } }
  initMemory := fun _ => RequestCall.notCalled
  environment := fun shared change => some (syncStep shared change)
  step := requestStep

abbrev RequestWorld (Content : Type) :=
  World Nat (RequestShared Content) (RequestCall Content)

abbrev RequestEvent (Content : Type) :=
  Event Nat SyncChange (RequestAction Content)

/-!
# What should hold
-/

def InFlight (roomId : RoomId) : RequestCall Content -> Prop
  | RequestCall.notCalled => False
  | RequestCall.members _ (MembersPhase.returned _) => False
  | RequestCall.members other _ => other = roomId
  | RequestCall.encryption _ (EncryptionPhase.returned _) => False
  | RequestCall.encryption other _ => other = roomId

/-- A room without calls has no entry in either map. -/
def LocksReleased (w : RequestWorld Content) : Prop :=
  forall roomId, (forall i, ¬ InFlight roomId (w.memory i)) ->
    (w.shared.members roomId).requestLock = none ∧
      (w.shared.encryption roomId).requestLock = none

/-- A call that looks for a lock while no other call for its room is on its way goes on
to a request of its own. -/
def AloneRequests (w : RequestWorld Content) (e : RequestEvent Content) : Prop :=
  forall i roomId w', (requestCalls Content).worldStep w e = some w' ->
    (forall j, j ≠ i -> ¬ InFlight roomId (w.memory j)) ->
    (e = Event.component i (RequestAction.members MembersAction.lookUp) ->
      w.memory i = RequestCall.members roomId MembersPhase.lookUp ->
      w'.memory i = RequestCall.members roomId MembersPhase.request) ∧
    (e = Event.component i (RequestAction.encryption EncryptionAction.lookUp) ->
      w.memory i = RequestCall.encryption roomId EncryptionPhase.lookUp ->
      w'.memory i = RequestCall.encryption roomId EncryptionPhase.insert)

/-- The phases between finding no entry and removing the own one. -/
def MembersPhase.Keeps : MembersPhase -> Prop
  | MembersPhase.request => True
  | MembersPhase.receiveMembers => True
  | MembersPhase.remove => True
  | _ => False

def EncryptionPhase.Keeps : EncryptionPhase Content -> Prop
  | EncryptionPhase.insert => True
  | EncryptionPhase.lockOwn => True
  | EncryptionPhase.request => True
  | EncryptionPhase.save _ => True
  | EncryptionPhase.updateSummary _ => True
  | EncryptionPhase.remove _ => True
  | _ => False

def KeepsMembers (roomId : RoomId) : RequestCall Content -> Prop
  | RequestCall.members other phase => other = roomId ∧ phase.Keeps
  | _ => False

def KeepsEncryption (roomId : RoomId) : RequestCall Content -> Prop
  | RequestCall.encryption other phase => other = roomId ∧ phase.Keeps
  | _ => False

def HasMembersLock (roomId : RoomId) (shared : RequestShared Content) : Prop :=
  (shared.members roomId).requestLock ≠ none

def HasEncryptionLock (roomId : RoomId) (shared : RequestShared Content) : Prop :=
  (shared.encryption roomId).requestLock ≠ none

/-- The request, its decoding or the store write fails. -/
def MembersAction.Fails : MembersAction -> Prop
  | MembersAction.response answered => answered = false
  | MembersAction.receiveMembers saved => saved = false
  | _ => False

def EncryptionAction.Fails : EncryptionAction Content -> Prop
  | EncryptionAction.response EncryptionAnswer.undecodable => True
  | EncryptionAction.response EncryptionAnswer.failed => True
  | EncryptionAction.saveChanges saved => saved = false
  | _ => False

def FailsMembers (roomId : RoomId) (call : RequestCall Content) :
    RequestAction Content -> Prop
  | RequestAction.members a =>
      exists phase, call = RequestCall.members roomId phase ∧ a.Fails
  | _ => False

def FailsEncryption (roomId : RoomId) (call : RequestCall Content) :
    RequestAction Content -> Prop
  | RequestAction.encryption a =>
      exists phase, call = RequestCall.encryption roomId phase ∧ a.Fails
  | _ => False

def RequestAction.Fails : RequestAction Content -> Prop
  | RequestAction.members a => a.Fails
  | RequestAction.encryption a => a.Fails
  | _ => False

/-- A call only fails if there is no entry for its room in its map, or another call will
remove it. -/
def FailuresCovered (w : RequestWorld Content) (e : RequestEvent Content) : Prop :=
  forall roomId,
    Custody.FailureCovered (HasMembersLock roomId) (KeepsMembers roomId)
      (FailsMembers roomId) w e ∧
    Custody.FailureCovered (HasEncryptionLock roomId) (KeepsEncryption roomId)
      (FailsEncryption roomId) w e

/-!
# The entries of one room
-/

theorem membersStep_custody {i : Nat} {shared shared' : MembersShared}
    {phase phase' : MembersPhase} {a : MembersAction}
    (hstep : membersStep i shared phase a = some (shared', phase')) :
    CustodyStep (shared.requestLock ≠ none) (shared'.requestLock ≠ none) phase.Keeps
      phase'.Keeps a.Fails := by
  cases a with
  | ensureMembers =>
      cases phase <;> simp only [membersStep, reduceCtorEq] at hstep
      split at hstep
      · cases hstep
        exact CustodyStep.idle Iff.rfl Iff.rfl id
      · split at hstep
        · cases hstep
          exact CustodyStep.idle Iff.rfl Iff.rfl id
        · cases hstep
          exact CustodyStep.idle Iff.rfl Iff.rfl id
  | lookUp =>
      cases phase <;> simp only [membersStep, reduceCtorEq] at hstep
      cases hlock : shared.requestLock with
      | some mutex =>
          rw [hlock] at hstep
          cases hstep
          exact CustodyStep.idle (by rw [hlock]) Iff.rfl id
      | none =>
          rw [hlock] at hstep
          cases hstep
          exact CustodyStep.taken (fun hne => hne rfl) id True.intro id
  | awaitLock =>
      cases phase <;> simp only [membersStep, reduceCtorEq] at hstep
      split at hstep
      · cases hstep
      · cases hstep
        exact CustodyStep.idle Iff.rfl Iff.rfl id
  | response answered =>
      cases phase <;> simp only [membersStep, reduceCtorEq] at hstep
      cases answered with
      | true =>
          cases hstep
          exact CustodyStep.kept True.intro True.intro nofun
      | false =>
          cases hstep
          exact CustodyStep.abandoned Iff.rfl True.intro id rfl
  | receiveMembers saved =>
      cases phase <;> simp only [membersStep, reduceCtorEq] at hstep
      cases saved with
      | true =>
          cases hstep
          exact CustodyStep.kept True.intro True.intro nofun
      | false =>
          cases hstep
          exact CustodyStep.abandoned Iff.rfl True.intro id rfl
  | remove =>
      cases phase <;> simp only [membersStep, reduceCtorEq] at hstep
      cases hstep
      exact CustodyStep.released (fun hne => hne rfl) True.intro id id
  | release =>
      cases phase <;> simp only [membersStep, reduceCtorEq] at hstep
      cases hstep
      exact CustodyStep.idle Iff.rfl Iff.rfl id

theorem EncryptionStep.custody {i : Nat} {shared shared' : EncryptionShared Content}
    {phase phase' : EncryptionPhase Content} {a : EncryptionAction Content}
    (hstep : EncryptionStep i shared phase a shared' phase') :
    CustodyStep (shared.requestLock ≠ none) (shared'.requestLock ≠ none) phase.Keeps
      phase'.Keeps a.Fails := by
  cases hstep with
  | notFound hlock =>
      exact CustodyStep.taken (fun hne => hne hlock) id True.intro id
  | insert => exact CustodyStep.kept True.intro True.intro id
  | lockOwn => exact CustodyStep.kept True.intro True.intro id
  | response answer =>
      cases answer with
      | event content => exact CustodyStep.kept True.intro True.intro id
      | notFound => exact CustodyStep.kept True.intro True.intro id
      | undecodable => exact CustodyStep.abandoned Iff.rfl True.intro id True.intro
      | failed => exact CustodyStep.abandoned Iff.rfl True.intro id True.intro
  | saved response => exact CustodyStep.kept True.intro True.intro nofun
  | notSaved response => exact CustodyStep.abandoned Iff.rfl True.intro id rfl
  | updateSummary response => exact CustodyStep.kept True.intro True.intro id
  | remove response => exact CustodyStep.released (fun hne => hne rfl) True.intro id id
  | _ => exact CustodyStep.idle Iff.rfl Iff.rfl id

/-!
# The entries of all rooms
-/

inductive RequestStep (i : Nat) (shared : RequestShared Content) :
    RequestCall Content -> RequestAction Content -> RequestShared Content ->
    RequestCall Content -> Prop
  | syncMembers (roomId : RoomId) :
      RequestStep i shared RequestCall.notCalled (RequestAction.syncMembers roomId) shared
        (RequestCall.members roomId MembersPhase.notStarted)
  | isEncrypted (roomId : RoomId) :
      RequestStep i shared RequestCall.notCalled (RequestAction.isEncrypted roomId) shared
        (RequestCall.encryption roomId EncryptionPhase.notStarted)
  | members {roomId : RoomId} {phase phase' : MembersPhase} {a : MembersAction}
      {room : MembersShared}
      (hstep : membersStep i (shared.members roomId) phase a = some (room, phase')) :
      RequestStep i shared (RequestCall.members roomId phase) (RequestAction.members a)
        { shared with members := Function.update shared.members roomId room }
        (RequestCall.members roomId phase')
  | encryption {roomId : RoomId} {phase phase' : EncryptionPhase Content}
      {a : EncryptionAction Content} {room : EncryptionShared Content}
      (hstep : EncryptionStep i (shared.encryption roomId) phase a room phase') :
      RequestStep i shared (RequestCall.encryption roomId phase)
        (RequestAction.encryption a)
        { shared with encryption := Function.update shared.encryption roomId room }
        (RequestCall.encryption roomId phase')

theorem requestStep_of_eq_some {i : Nat} {shared shared' : RequestShared Content}
    {call call' : RequestCall Content} {a : RequestAction Content}
    (hstep : requestStep i shared call a = some (shared', call')) :
    RequestStep i shared call a shared' call' := by
  cases a with
  | syncMembers roomId =>
      cases call <;> simp only [requestStep, reduceCtorEq] at hstep
      cases hstep
      exact RequestStep.syncMembers roomId
  | isEncrypted roomId =>
      cases call <;> simp only [requestStep, reduceCtorEq] at hstep
      cases hstep
      exact RequestStep.isEncrypted roomId
  | members a =>
      cases call <;> simp only [requestStep, reduceCtorEq] at hstep
      rcases Option.map_eq_some_iff.mp hstep with ⟨⟨room, phase⟩, hroom, heq⟩
      cases heq
      exact RequestStep.members hroom
  | encryption a =>
      cases call <;> simp only [requestStep, reduceCtorEq] at hstep
      rcases Option.map_eq_some_iff.mp hstep with ⟨⟨room, phase⟩, hroom, heq⟩
      cases heq
      exact RequestStep.encryption (encryptionStep_of_eq_some hroom)

theorem lock_update {Shared Lock : Type} (lock : Shared -> Lock) (rooms : RoomId -> Shared)
    {other : RoomId} {room : Shared} (h : lock room = lock (rooms other))
    (roomId : RoomId) :
    lock (Function.update rooms other room roomId) = lock (rooms roomId) := by
  rw [Function.update_apply]
  split
  · next hsame => rw [h, hsame]
  · rfl

theorem requestLock_syncStep (shared : RequestShared Content) (change : SyncChange)
    (roomId : RoomId) :
    ((syncStep shared change).members roomId).requestLock =
        (shared.members roomId).requestLock ∧
      ((syncStep shared change).encryption roomId).requestLock =
        (shared.encryption roomId).requestLock := by
  cases change with
  | eventsVisible other visible =>
      constructor
      · apply lock_update MembersShared.requestLock shared.members
        rfl
      · rfl
  | membersSynced other synced =>
      constructor
      · apply lock_update MembersShared.requestLock shared.members
        rfl
      · rfl
  | encryptionSynced other synced =>
      constructor
      · rfl
      · apply lock_update EncryptionShared.requestLock shared.encryption
        rfl

theorem membersCustody (roomId : RoomId) :
    Custody (requestCalls Content) (HasMembersLock roomId) (KeepsMembers roomId)
      (FailsMembers roomId) where
  step := by
    intro i shared call a shared' call' hstep
    cases requestStep_of_eq_some hstep with
    | @members other phase phase' a room hroom =>
        by_cases hsame : other = roomId
        · subst hsame
          have hcustody := membersStep_custody hroom
          simpa [HasMembersLock, KeepsMembers, FailsMembers] using hcustody
        · apply CustodyStep.idle
          · simp [HasMembersLock, Function.update_of_ne (Ne.symm hsame)]
          · simp [KeepsMembers, hsame]
          · simp [FailsMembers, hsame]
    | _ => exact CustodyStep.idle Iff.rfl (by simp [KeepsMembers, MembersPhase.Keeps]) id
  environment := by
    intro shared change shared' hchange
    cases hchange
    rw [HasMembersLock, HasMembersLock, (requestLock_syncStep shared change roomId).1]

theorem encryptionCustody (roomId : RoomId) :
    Custody (requestCalls Content) (HasEncryptionLock roomId) (KeepsEncryption roomId)
      (FailsEncryption roomId) where
  step := by
    intro i shared call a shared' call' hstep
    cases requestStep_of_eq_some hstep with
    | @encryption other phase phase' a room hroom =>
        by_cases hsame : other = roomId
        · subst hsame
          have hcustody := hroom.custody
          simpa [HasEncryptionLock, KeepsEncryption, FailsEncryption] using hcustody
        · apply CustodyStep.idle
          · simp [HasEncryptionLock, Function.update_of_ne (Ne.symm hsame)]
          · simp [KeepsEncryption, hsame]
          · simp [FailsEncryption, hsame]
    | _ =>
        exact CustodyStep.idle Iff.rfl
          (by simp [KeepsEncryption, EncryptionPhase.Keeps]) id
  environment := by
    intro shared change shared' hchange
    cases hchange
    rw [HasEncryptionLock, HasEncryptionLock, (requestLock_syncStep shared change roomId).2]

/-!
# Runs
-/

def EntriesCovered (w : RequestWorld Content) : Prop :=
  forall roomId,
    Custody.Covered (HasMembersLock roomId) (KeepsMembers roomId) w ∧
    Custody.Covered (HasEncryptionLock roomId) (KeepsEncryption roomId) w

theorem entriesCovered_init : EntriesCovered (requestCalls Content).system.init :=
  fun _ => ⟨fun hheld => absurd rfl hheld, fun hheld => absurd rfl hheld⟩

theorem entriesCovered_step_iff {w w' : RequestWorld Content} {e : RequestEvent Content}
    (hw : EntriesCovered w) (hstep : (requestCalls Content).worldStep w e = some w') :
    EntriesCovered w' <-> FailuresCovered w e := by
  apply forall_congr'
  intro roomId
  exact and_congr ((membersCustody roomId).covered_step_iff (hw roomId).1 hstep)
    ((encryptionCustody roomId).covered_step_iff (hw roomId).2 hstep)

theorem failuresCovered_of_not_fails {w : RequestWorld Content} {e : RequestEvent Content}
    (hsucceeds : forall i a, e = Event.component i a -> ¬ a.Fails) :
    FailuresCovered w e := by
  intro roomId
  constructor
  · intro i a he hfails
    cases a with
    | members a =>
        rcases hfails with ⟨phase, _, hfail⟩
        exact absurd hfail (hsucceeds i _ he)
    | _ => cases hfails
  · intro i a he hfails
    cases a with
    | encryption a =>
        rcases hfails with ⟨phase, _, hfail⟩
        exact absurd hfail (hsucceeds i _ he)
    | _ => cases hfails

theorem KeepsMembers.inFlight {roomId : RoomId} {call : RequestCall Content}
    (h : KeepsMembers roomId call) : InFlight roomId call := by
  cases call with
  | members other phase =>
      rcases h with ⟨hroom, hkeeps⟩
      cases phase with
      | returned result => exact hkeeps
      | _ => exact hroom
  | _ => cases h

theorem KeepsEncryption.inFlight {roomId : RoomId} {call : RequestCall Content}
    (h : KeepsEncryption roomId call) : InFlight roomId call := by
  cases call with
  | encryption other phase =>
      rcases h with ⟨hroom, hkeeps⟩
      cases phase with
      | returned result => exact hkeeps
      | _ => exact hroom
  | _ => cases h

theorem EntriesCovered.released {w : RequestWorld Content} (hw : EntriesCovered w) :
    LocksReleased w := by
  intro roomId hquiet
  have hmembers := (hw roomId).1.not_held fun i hkeeps => hquiet i hkeeps.inFlight
  have hencryption := (hw roomId).2.not_held fun i hkeeps => hquiet i hkeeps.inFlight
  exact ⟨not_not.mp hmembers, not_not.mp hencryption⟩

theorem EntriesCovered.aloneRequests {w : RequestWorld Content} (hw : EntriesCovered w)
    (e : RequestEvent Content) : AloneRequests w e := by
  intro i roomId w' hstep halone
  constructor
  · intro he hphase
    have hown : ¬ KeepsMembers roomId (w.memory i) := by
      rw [hphase]
      exact fun hkeeps => hkeeps.2
    have hheld := (hw roomId).1.not_held_of_others hown
      fun j hne hkeeps => halone j hne hkeeps.inFlight
    have hnone : (w.shared.members roomId).requestLock = none := not_not.mp hheld
    subst he
    have hlocal := step_of_worldStep hstep
    rw [hphase] at hlocal
    simp only [requestCalls, requestStep, membersStep, hnone, Option.map_some,
      Option.some.injEq, Prod.mk.injEq] at hlocal
    exact hlocal.2.symm
  · intro he hphase
    have hown : ¬ KeepsEncryption roomId (w.memory i) := by
      rw [hphase]
      exact fun hkeeps => hkeeps.2
    have hheld := (hw roomId).2.not_held_of_others hown
      fun j hne hkeeps => halone j hne hkeeps.inFlight
    have hnone : (w.shared.encryption roomId).requestLock = none := not_not.mp hheld
    subst he
    have hlocal := step_of_worldStep hstep
    rw [hphase] at hlocal
    simp only [requestCalls, requestStep, encryptionStep, hnone, Option.map_some,
      Option.some.injEq, Prod.mk.injEq] at hlocal
    exact hlocal.2.symm

def EntryLeft (w : RequestWorld Content) : Prop :=
  exists roomId,
    Custody.Orphaned (HasMembersLock roomId) (KeepsMembers roomId) w ∨
    Custody.Orphaned (HasEncryptionLock roomId) (KeepsEncryption roomId) w

theorem entryLeft_of_not_covered {w : RequestWorld Content} (hw : ¬ EntriesCovered w) :
    EntryLeft w := by
  rcases not_forall.mp hw with ⟨roomId, hroom⟩
  rcases not_and_or.mp hroom with hmembers | hencryption
  · exact ⟨roomId, Or.inl (Custody.not_covered_iff.mp hmembers)⟩
  · exact ⟨roomId, Or.inr (Custody.not_covered_iff.mp hencryption)⟩

theorem entryLeft_runFrom {w w' : RequestWorld Content} {events : List (RequestEvent Content)}
    (hw : EntryLeft w) (hrun : (requestCalls Content).system.runFrom w events = some w') :
    EntryLeft w' := by
  rcases hw with ⟨roomId, hmembers | hencryption⟩
  · exact ⟨roomId, Or.inl ((membersCustody roomId).orphaned_runFrom hmembers hrun)⟩
  · exact ⟨roomId, Or.inr ((encryptionCustody roomId).orphaned_runFrom hencryption hrun)⟩

/-- Either all failures of a run are covered, or it leaves an entry behind. -/
theorem allSteps_or_entryLeft {w w' : RequestWorld Content}
    {events : List (RequestEvent Content)} (hw : EntriesCovered w)
    (hrun : (requestCalls Content).system.runFrom w events = some w') :
    (requestCalls Content).system.AllSteps FailuresCovered w events ∨ EntryLeft w' := by
  induction events generalizing w with
  | nil => exact Or.inl True.intro
  | cons e rest ih =>
      rcases (TransitionSystem.runFrom_cons_eq_some _).mp hrun with ⟨mid, hmid, hrest⟩
      by_cases hcovered : EntriesCovered mid
      · rcases ih hcovered hrest with hall | hleft
        · exact Or.inl (TransitionSystem.AllSteps.cons hmid
            ((entriesCovered_step_iff hw hmid).mp hcovered) hall)
        · exact Or.inr hleft
      · exact Or.inr (entryLeft_runFrom (entryLeft_of_not_covered hcovered) hrest)

/-- If the failures of a run are covered, then the maps have no entry for a room without
calls, and the next call for a room sends a request again.  In a run after which no call
is on its way, this is also necessary for the maps to be free of entries. -/
theorem locksReleased {events : List (RequestEvent Content)} {w : RequestWorld Content}
    (hrun : (requestCalls Content).system.run events = some w) :
    ((requestCalls Content).system.AllSteps FailuresCovered
          (requestCalls Content).system.init events ->
        (requestCalls Content).system.AllStates LocksReleased
          (requestCalls Content).system.init events ∧
        (requestCalls Content).system.AllSteps AloneRequests
          (requestCalls Content).system.init events) ∧
      ((forall roomId i, ¬ InFlight roomId (w.memory i)) -> LocksReleased w ->
        (requestCalls Content).system.AllSteps FailuresCovered
          (requestCalls Content).system.init events) := by
  constructor
  · intro hfailures
    have hcovered : (requestCalls Content).system.AllStates EntriesCovered
        (requestCalls Content).system.init events := by
      have hstep : forall w e w', True -> EntriesCovered w ->
          (requestCalls Content).worldStep w e = some w' ->
          (EntriesCovered w' <-> FailuresCovered w e) :=
        fun _ _ _ _ hw hstep => entriesCovered_step_iff hw hstep
      exact (TransitionSystem.allStates_iff_allSteps (P := EntriesCovered)
        (I := fun _ => True) (fun _ _ _ _ _ => True.intro) hstep True.intro
        entriesCovered_init hrun).mpr hfailures
    exact ⟨hcovered.imp fun _ hw => hw.released,
      hcovered.allSteps fun _ e hw => hw.aloneRequests e⟩
  · intro hquiet hreleased
    rcases allSteps_or_entryLeft entriesCovered_init hrun with hall | hleft
    · exact hall
    · rcases hleft with ⟨roomId, hmembers | hencryption⟩
      · exact absurd (hreleased roomId (hquiet roomId)).1 hmembers.1
      · exact absurd (hreleased roomId (hquiet roomId)).2 hencryption.1

def syncMembersCall (i : Nat) (roomId : RoomId) (answered : Bool) :
    List (RequestEvent String) :=
  [.component i (.syncMembers roomId), .component i (.members .ensureMembers),
    .component i (.members .lookUp), .component i (.members (.response answered))]

def finishMembersCall (i : Nat) : List (RequestEvent String) :=
  [.component i (.members (.receiveMembers true)), .component i (.members .remove),
    .component i (.members .release)]

theorem locksReleased_one_call :
    exists w, (requestCalls String).system.run
        (syncMembersCall 0 "!a:x" true ++ finishMembersCall 0) = some w ∧
      (requestCalls String).system.AllStates LocksReleased
        (requestCalls String).system.init
        (syncMembersCall 0 "!a:x" true ++ finishMembersCall 0) := by
  refine ⟨_, rfl, ((locksReleased rfl).1 ?_).1⟩
  apply TransitionSystem.allSteps_of_forall_mem
  intro e hmem w
  apply failuresCovered_of_not_fails
  intro i a he
  subst he
  simp only [syncMembersCall, finishMembersCall, List.cons_append, List.nil_append,
    List.mem_cons, List.not_mem_nil, or_false, Event.component.injEq] at hmem
  rcases hmem with ⟨_, rfl⟩ | ⟨_, rfl⟩ | ⟨_, rfl⟩ | ⟨_, rfl⟩ | ⟨_, rfl⟩ | ⟨_, rfl⟩ |
    ⟨_, rfl⟩
  all_goals exact nofun

/-- The request of call 0 fails.  Call 1 for the same room, which nobody else asks about,
finds the entry that is left and returns without a request. -/
theorem failed_request_leaves_entry :
    exists w w', (requestCalls String).system.run (syncMembersCall 0 "!a:x" false) = some w ∧
      (w.shared.members "!a:x").requestLock = some 0 ∧ ¬ LocksReleased w ∧
      (requestCalls String).system.runFrom w
        [.component 1 (.syncMembers "!a:x"), .component 1 (.members .ensureMembers),
          .component 1 (.members .lookUp), .component 1 (.members .awaitLock)] = some w' ∧
      w'.memory 1 = .members "!a:x" (.returned (.ok false)) ∧
      (w'.shared.members "!a:x").areMembersSynced = false := by
  refine ⟨_, _, rfl, rfl, ?_, rfl, rfl, rfl⟩
  intro hreleased
  have hquiet := hreleased "!a:x" fun i hflight => by
    match i with
    | 0 => exact hflight
    | _ + 1 => exact hflight
  exact absurd hquiet.1 nofun

end Room
end MatrixGoose
