import MatrixGoose.Foundation.Components

/-!
# Asking for the encryption state

Any number of concurrent `is_encrypted` calls on one room.  A call that finds the
encryption state unsynced looks for a lock of a request under way; if there is one it
waits for the lock and returns without the answer of that request.
-/

namespace MatrixGoose

open Foundation
open Foundation.Components

namespace Room

/-!
# State
-/

inductive EncryptionError
  | request
  | deserialize
  | store
  deriving DecidableEq

inductive EncryptionAnswer (Content : Type)
  | event (content : Content)
  | undecodable
  | notFound
  | failed

inductive EncryptionPhase (Content : Type)
  | notStarted
  | lookUp
  /-- The call has found the lock with this name. -/
  | waitFor (mutex : Nat)
  | insert
  | lockOwn
  | request
  | save (response : Option Content)
  | updateSummary (response : Option Content)
  | remove (response : Option Content)
  | release (response : Option Content)
  | readSummary
  | returned (result : Except EncryptionError Bool)

/-- A lock is named by the call that has created it. -/
structure EncryptionShared (Content : Type) where
  encryptionStateSynced : Bool
  encryptionEvent : Option Content
  /-- The entry of the room in `encryption_state_request_locks`. -/
  requestLock : Option Nat
  locked : Nat -> Bool

inductive EncryptionAction (Content : Type)
  | checkSynced
  | lookUp
  | awaitLock
  | insert
  | lockOwn
  | response (answer : EncryptionAnswer Content)
  | saveChanges (saved : Bool)
  | updateSummary
  | remove
  | release
  | readSummary

variable {Content : Type}

/-!
# Steps
-/

/-- `encryption.is_some()` of what `request_encryption_state` returns. -/
def encryptionResult (encryption : Option Content) : EncryptionPhase Content :=
  EncryptionPhase.returned (.ok encryption.isSome)

/-- The guard of the own lock is dropped with an error. -/
def failWith (i : Nat) (shared : EncryptionShared Content) (error : EncryptionError) :
    EncryptionShared Content × EncryptionPhase Content :=
  ({ shared with locked := Function.update shared.locked i false },
    EncryptionPhase.returned (.error error))

def receiveEncryption (i : Nat) (shared : EncryptionShared Content) :
    EncryptionAnswer Content -> EncryptionShared Content × EncryptionPhase Content
  | EncryptionAnswer.event content => (shared, EncryptionPhase.save (some content))
  | EncryptionAnswer.undecodable => failWith i shared EncryptionError.deserialize
  | EncryptionAnswer.notFound => (shared, EncryptionPhase.save none)
  | EncryptionAnswer.failed => failWith i shared EncryptionError.request

def encryptionStep (i : Nat) (shared : EncryptionShared Content)
    (phase : EncryptionPhase Content) (a : EncryptionAction Content) :
    Option (EncryptionShared Content × EncryptionPhase Content) :=
  match a, phase with
  | EncryptionAction.checkSynced, EncryptionPhase.notStarted =>
      some (shared,
        if shared.encryptionStateSynced then EncryptionPhase.readSummary
        else EncryptionPhase.lookUp)
  | EncryptionAction.lookUp, EncryptionPhase.lookUp =>
      match shared.requestLock with
      | some mutex => some (shared, EncryptionPhase.waitFor mutex)
      | none => some (shared, EncryptionPhase.insert)
  | EncryptionAction.awaitLock, EncryptionPhase.waitFor mutex =>
      -- The guard is dropped at once, and the result is `Ok(None)`.
      if shared.locked mutex then none else some (shared, encryptionResult none)
  | EncryptionAction.insert, EncryptionPhase.insert =>
      some ({ shared with requestLock := some i }, EncryptionPhase.lockOwn)
  | EncryptionAction.lockOwn, EncryptionPhase.lockOwn =>
      if shared.locked i then none
      else
        some ({ shared with locked := Function.update shared.locked i true },
          EncryptionPhase.request)
  | EncryptionAction.response answer, EncryptionPhase.request =>
      some (receiveEncryption i shared answer)
  | EncryptionAction.saveChanges saved, EncryptionPhase.save response =>
      if saved then some (shared, EncryptionPhase.updateSummary response)
      else some (failWith i shared EncryptionError.store)
  | EncryptionAction.updateSummary, EncryptionPhase.updateSummary response =>
      some ({ shared with encryptionStateSynced := true, encryptionEvent := response },
        EncryptionPhase.remove response)
  | EncryptionAction.remove, EncryptionPhase.remove response =>
      some ({ shared with requestLock := none }, EncryptionPhase.release response)
  | EncryptionAction.release, EncryptionPhase.release response =>
      some ({ shared with locked := Function.update shared.locked i false },
        encryptionResult response)
  | EncryptionAction.readSummary, EncryptionPhase.readSummary =>
      some (shared, encryptionResult shared.encryptionEvent)
  | _, _ => none

/-- Calls on a room whose encryption state is not synced. -/
def encryptionCalls (Content : Type) :
    Components Nat (EncryptionShared Content) (EncryptionPhase Content) Empty
      (EncryptionAction Content) where
  initShared :=
    { encryptionStateSynced := false
      encryptionEvent := none
      requestLock := none
      locked := fun _ => false }
  initMemory := fun _ => EncryptionPhase.notStarted
  environment := fun _ e => e.elim
  step := encryptionStep

abbrev EncryptionWorld (Content : Type) :=
  World Nat (EncryptionShared Content) (EncryptionPhase Content)

abbrev EncryptionEvent (Content : Type) :=
  Event Nat Empty (EncryptionAction Content)

/-- The server reports an `m.room.encryption` event, and no request fails. -/
def ReportsEncryption (_ : EncryptionWorld Content) : EncryptionEvent Content -> Prop
  | Event.component _ (EncryptionAction.response answer) =>
      exists content, answer = EncryptionAnswer.event content
  | _ => True

def AnswersEncrypted (w : EncryptionWorld Content) : Prop :=
  forall i answer, w.memory i = EncryptionPhase.returned (.ok answer) -> answer = true

/-- A call that has found the lock of another request does not go on. -/
def NoWaiterResumes (w : EncryptionWorld Content) (e : EncryptionEvent Content) : Prop :=
  forall i a mutex, e = Event.component i a ->
    w.memory i ≠ EncryptionPhase.waitFor mutex

/-!
# What a step can do
-/

inductive EncryptionStep (i : Nat) (shared : EncryptionShared Content) :
    EncryptionPhase Content -> EncryptionAction Content ->
    EncryptionShared Content -> EncryptionPhase Content -> Prop
  | synced (hsynced : shared.encryptionStateSynced = true) :
      EncryptionStep i shared EncryptionPhase.notStarted EncryptionAction.checkSynced
        shared EncryptionPhase.readSummary
  | unsynced (hsynced : shared.encryptionStateSynced = false) :
      EncryptionStep i shared EncryptionPhase.notStarted EncryptionAction.checkSynced
        shared EncryptionPhase.lookUp
  | found (mutex : Nat) (hlock : shared.requestLock = some mutex) :
      EncryptionStep i shared EncryptionPhase.lookUp EncryptionAction.lookUp
        shared (EncryptionPhase.waitFor mutex)
  | notFound (hlock : shared.requestLock = none) :
      EncryptionStep i shared EncryptionPhase.lookUp EncryptionAction.lookUp
        shared EncryptionPhase.insert
  | awaitLock (mutex : Nat) :
      EncryptionStep i shared (EncryptionPhase.waitFor mutex) EncryptionAction.awaitLock
        shared (EncryptionPhase.returned (.ok false))
  | insert :
      EncryptionStep i shared EncryptionPhase.insert EncryptionAction.insert
        { shared with requestLock := some i } EncryptionPhase.lockOwn
  | lockOwn :
      EncryptionStep i shared EncryptionPhase.lockOwn EncryptionAction.lockOwn
        { shared with locked := Function.update shared.locked i true }
        EncryptionPhase.request
  | response (answer : EncryptionAnswer Content) :
      EncryptionStep i shared EncryptionPhase.request (EncryptionAction.response answer)
        (receiveEncryption i shared answer).1 (receiveEncryption i shared answer).2
  | saved (response : Option Content) :
      EncryptionStep i shared (EncryptionPhase.save response)
        (EncryptionAction.saveChanges true) shared (EncryptionPhase.updateSummary response)
  | notSaved (response : Option Content) :
      EncryptionStep i shared (EncryptionPhase.save response)
        (EncryptionAction.saveChanges false)
        { shared with locked := Function.update shared.locked i false }
        (EncryptionPhase.returned (.error EncryptionError.store))
  | updateSummary (response : Option Content) :
      EncryptionStep i shared (EncryptionPhase.updateSummary response)
        EncryptionAction.updateSummary
        { shared with encryptionStateSynced := true, encryptionEvent := response }
        (EncryptionPhase.remove response)
  | remove (response : Option Content) :
      EncryptionStep i shared (EncryptionPhase.remove response) EncryptionAction.remove
        { shared with requestLock := none } (EncryptionPhase.release response)
  | release (response : Option Content) :
      EncryptionStep i shared (EncryptionPhase.release response) EncryptionAction.release
        { shared with locked := Function.update shared.locked i false }
        (EncryptionPhase.returned (.ok response.isSome))
  | readSummary :
      EncryptionStep i shared EncryptionPhase.readSummary EncryptionAction.readSummary
        shared (EncryptionPhase.returned (.ok shared.encryptionEvent.isSome))

theorem encryptionStep_of_eq_some {i : Nat} {shared shared' : EncryptionShared Content}
    {phase phase' : EncryptionPhase Content} {a : EncryptionAction Content}
    (hstep : encryptionStep i shared phase a = some (shared', phase')) :
    EncryptionStep i shared phase a shared' phase' := by
  cases a with
  | checkSynced =>
      cases phase <;> simp only [encryptionStep, reduceCtorEq] at hstep
      cases hsynced : shared.encryptionStateSynced with
      | true =>
          rw [hsynced] at hstep
          cases hstep
          exact EncryptionStep.synced hsynced
      | false =>
          rw [hsynced] at hstep
          cases hstep
          exact EncryptionStep.unsynced hsynced
  | lookUp =>
      cases phase <;> simp only [encryptionStep, reduceCtorEq] at hstep
      cases hlock : shared.requestLock with
      | some mutex =>
          rw [hlock] at hstep
          cases hstep
          exact EncryptionStep.found mutex hlock
      | none =>
          rw [hlock] at hstep
          cases hstep
          exact EncryptionStep.notFound hlock
  | awaitLock =>
      cases phase <;> simp only [encryptionStep, reduceCtorEq] at hstep
      split at hstep
      · cases hstep
      · cases hstep
        exact EncryptionStep.awaitLock _
  | insert =>
      cases phase <;> simp only [encryptionStep, reduceCtorEq] at hstep
      cases hstep
      exact EncryptionStep.insert
  | lockOwn =>
      cases phase <;> simp only [encryptionStep, reduceCtorEq] at hstep
      split at hstep
      · cases hstep
      · cases hstep
        exact EncryptionStep.lockOwn
  | response answer =>
      cases phase <;> simp only [encryptionStep, reduceCtorEq] at hstep
      have hresponse := Option.some.inj hstep
      have hnext := @EncryptionStep.response Content i shared answer
      rw [hresponse] at hnext
      exact hnext
  | saveChanges saved =>
      cases phase <;> simp only [encryptionStep, reduceCtorEq] at hstep
      cases saved with
      | true =>
          cases hstep
          exact EncryptionStep.saved _
      | false =>
          cases hstep
          exact EncryptionStep.notSaved _
  | updateSummary =>
      cases phase <;> simp only [encryptionStep, reduceCtorEq] at hstep
      cases hstep
      exact EncryptionStep.updateSummary _
  | remove =>
      cases phase <;> simp only [encryptionStep, reduceCtorEq] at hstep
      cases hstep
      exact EncryptionStep.remove _
  | release =>
      cases phase <;> simp only [encryptionStep, reduceCtorEq] at hstep
      cases hstep
      exact EncryptionStep.release _
  | readSummary =>
      cases phase <;> simp only [encryptionStep, reduceCtorEq] at hstep
      cases hstep
      exact EncryptionStep.readSummary

theorem EncryptionStep.summary_cases {i : Nat} {shared shared' : EncryptionShared Content}
    {phase phase' : EncryptionPhase Content} {a : EncryptionAction Content}
    (hstep : EncryptionStep i shared phase a shared' phase') :
    (shared'.encryptionStateSynced = shared.encryptionStateSynced ∧
        shared'.encryptionEvent = shared.encryptionEvent) ∨
      exists response, phase = EncryptionPhase.updateSummary response ∧
        shared'.encryptionEvent = response := by
  cases hstep with
  | updateSummary response => exact Or.inr ⟨response, rfl, rfl⟩
  | response answer => cases answer <;> exact Or.inl ⟨rfl, rfl⟩
  | _ => exact Or.inl ⟨rfl, rfl⟩

/-!
# What the state of a call says
-/

/-- A call that has not waited has an event to answer with. -/
def CallKept (_i : Nat) (shared : EncryptionShared Content) :
    EncryptionPhase Content -> Prop
  | EncryptionPhase.save response => response.isSome = true
  | EncryptionPhase.updateSummary response => response.isSome = true
  | EncryptionPhase.remove response => response.isSome = true
  | EncryptionPhase.release response => response.isSome = true
  | EncryptionPhase.readSummary => shared.encryptionEvent.isSome = true
  | _ => True

structure EncryptionKept (w : EncryptionWorld Content) : Prop where
  synced : w.shared.encryptionStateSynced = true -> w.shared.encryptionEvent.isSome = true
  calls : Everywhere CallKept w

theorem CallKept.congr {i j : Nat} {shared shared' : EncryptionShared Content}
    {phase : EncryptionPhase Content} (hkept : CallKept i shared phase)
    (hevent : shared.encryptionEvent.isSome = true ->
      shared'.encryptionEvent.isSome = true) :
    CallKept j shared' phase := by
  cases phase with
  | readSummary => exact hevent hkept
  | _ => exact hkept

theorem CallKept.step {i : Nat} {shared shared' : EncryptionShared Content}
    {phase phase' : EncryptionPhase Content} {a : EncryptionAction Content}
    (hkept : CallKept i shared phase)
    (hsynced : shared.encryptionStateSynced = true ->
      shared.encryptionEvent.isSome = true)
    (hreports : forall answer, a = EncryptionAction.response answer ->
      exists content, answer = EncryptionAnswer.event content)
    (hstep : EncryptionStep i shared phase a shared' phase') :
    CallKept i shared' phase' := by
  cases hstep with
  | synced h => exact hsynced h
  | response answer =>
      rcases hreports answer rfl with ⟨content, rfl⟩
      exact rfl
  | saved response => exact hkept
  | updateSummary response => exact hkept
  | remove response => exact hkept
  | _ => exact True.intro

theorem EncryptionStep.isSome_encryptionEvent {i : Nat}
    {shared shared' : EncryptionShared Content} {phase phase' : EncryptionPhase Content}
    {a : EncryptionAction Content} (hkept : CallKept i shared phase)
    (hstep : EncryptionStep i shared phase a shared' phase')
    (hsome : shared.encryptionEvent.isSome = true) :
    shared'.encryptionEvent.isSome = true := by
  rcases hstep.summary_cases with ⟨_, hsame⟩ | ⟨response, hphase, hresponse⟩
  · rw [hsame]
    exact hsome
  · rw [hphase] at hkept
    rw [hresponse]
    exact hkept

theorem EncryptionStep.answer_iff {i : Nat}
    {shared shared' : EncryptionShared Content} {phase phase' : EncryptionPhase Content}
    {a : EncryptionAction Content} (hkept : CallKept i shared phase)
    (hstep : EncryptionStep i shared phase a shared' phase') {answer : Bool}
    (hreturned : phase' = EncryptionPhase.returned (.ok answer)) :
    answer = true <-> forall mutex, phase ≠ EncryptionPhase.waitFor mutex := by
  cases hstep with
  | awaitLock mutex =>
      cases hreturned
      constructor
      · intro htrue
        cases htrue
      · intro hnone
        exact absurd rfl (hnone mutex)
  | release response =>
      cases hreturned
      exact ⟨fun _ _ => nofun, fun _ => hkept⟩
  | readSummary =>
      cases hreturned
      exact ⟨fun _ _ => nofun, fun _ => hkept⟩
  | response answer => cases answer <;> cases hreturned
  | _ => cases hreturned

theorem EncryptionStep.of_waitFor {i mutex : Nat}
    {shared shared' : EncryptionShared Content} {phase' : EncryptionPhase Content}
    {a : EncryptionAction Content}
    (hstep : EncryptionStep i shared (EncryptionPhase.waitFor mutex) a shared' phase') :
    a = EncryptionAction.awaitLock ∧ phase' = EncryptionPhase.returned (.ok false) := by
  cases hstep
  exact ⟨rfl, rfl⟩

theorem encryptionKept_step {w w' : EncryptionWorld Content}
    {e : EncryptionEvent Content} (hw : EncryptionKept w)
    (hreports : ReportsEncryption w e)
    (hstep : (encryptionCalls Content).worldStep w e = some w') : EncryptionKept w' := by
  cases e with
  | environment e => exact e.elim
  | component i a =>
      have hreportsOwn : forall answer, a = EncryptionAction.response answer ->
          exists content, answer = EncryptionAnswer.event content := by
        intro answer ha
        subst ha
        exact hreports
      have hown := encryptionStep_of_eq_some (step_of_worldStep hstep)
      constructor
      · intro hsynced
        rcases hown.summary_cases with ⟨hsame, _⟩ | ⟨response, hphase, hresponse⟩
        · apply hown.isSome_encryptionEvent (hw.calls i)
          apply hw.synced
          rw [← hsame]
          exact hsynced
        · have hkept := hw.calls i
          rw [hphase] at hkept
          rw [hresponse]
          exact hkept
      · refine everywhere_component hw.calls hstep ?_ ?_
        · intro shared phase hlocal hkept
          exact hkept.step hw.synced hreportsOwn (encryptionStep_of_eq_some hlocal)
        · intro shared phase j hlocal _ hkept
          exact hkept.congr
            ((encryptionStep_of_eq_some hlocal).isSome_encryptionEvent (hw.calls i))

theorem encryptionKept_init : EncryptionKept (encryptionCalls Content).system.init :=
  ⟨nofun, fun _ => True.intro⟩

/-!
# Runs
-/

theorem answersEncrypted_step_iff {w w' : EncryptionWorld Content}
    {e : EncryptionEvent Content} (hkept : EncryptionKept w) (hw : AnswersEncrypted w)
    (hstep : (encryptionCalls Content).worldStep w e = some w') :
    AnswersEncrypted w' <-> NoWaiterResumes w e := by
  constructor
  · intro hafter i a mutex he hwaits
    subst he
    have hown := encryptionStep_of_eq_some (step_of_worldStep hstep)
    rw [hwaits] at hown
    have hfalse := hafter i false hown.of_waitFor.2
    cases hfalse
  · intro hnone i answer hreturned
    rcases memory_eq_or hstep i with hsame | ⟨a, he, hlocal⟩
    · rw [hsame] at hreturned
      exact hw i answer hreturned
    · have hown := encryptionStep_of_eq_some hlocal
      exact (hown.answer_iff (hkept.calls i) hreturned).mpr
        fun mutex => hnone i a mutex he

theorem noWaiterResumes_of_ne {w w' : EncryptionWorld Content}
    {e : EncryptionEvent Content}
    (hstep : (encryptionCalls Content).worldStep w e = some w')
    (hne : forall i, e ≠ Event.component i EncryptionAction.awaitLock) :
    NoWaiterResumes w e := by
  intro i a mutex he hwaits
  subst he
  have hown := encryptionStep_of_eq_some (step_of_worldStep hstep)
  rw [hwaits] at hown
  apply hne i
  rw [hown.of_waitFor.1]

/-- If the server reports an `m.room.encryption` event, the answers of the calls agree
with it all along a run exactly if no call goes on after it has found the lock of another
one. -/
theorem answersEncrypted_iff_noWaiterResumes
    {events : List (EncryptionEvent Content)} {w : EncryptionWorld Content}
    (hrun : (encryptionCalls Content).system.run events = some w)
    (hreports : (encryptionCalls Content).system.AllSteps ReportsEncryption
      (encryptionCalls Content).system.init events) :
    (encryptionCalls Content).system.AllStates AnswersEncrypted
        (encryptionCalls Content).system.init events <->
      (encryptionCalls Content).system.AllSteps NoWaiterResumes
        (encryptionCalls Content).system.init events := by
  refine TransitionSystem.allStates_iff_of_allSteps (I := EncryptionKept)
    (fun _ _ _ hkept hreports hstep => encryptionKept_step hkept hreports hstep)
    (fun _ _ _ hkept hw _ hstep => answersEncrypted_step_iff hkept hw hstep)
    encryptionKept_init ?_ hreports hrun
  intro i answer hreturned
  cases hreturned

def encryptionRequest (i : Nat) : List (EncryptionEvent String) :=
  [Event.component i EncryptionAction.checkSynced,
    Event.component i EncryptionAction.lookUp,
    Event.component i EncryptionAction.insert,
    Event.component i EncryptionAction.lockOwn,
    Event.component i (EncryptionAction.response (EncryptionAnswer.event "megolm")),
    Event.component i (EncryptionAction.saveChanges true),
    Event.component i EncryptionAction.updateSummary,
    Event.component i EncryptionAction.remove,
    Event.component i EncryptionAction.release]

theorem reportsEncryption_of_mem {i : Nat} {e : EncryptionEvent String}
    (hmem : e ∈ encryptionRequest i) (w : EncryptionWorld String) :
    ReportsEncryption w e := by
  simp only [encryptionRequest, List.mem_cons, List.not_mem_nil, or_false] at hmem
  rcases hmem with rfl | rfl | rfl | rfl | rfl | rfl | rfl | rfl | rfl <;>
    first
    | exact True.intro
    | exact ⟨"megolm", rfl⟩

theorem answersEncrypted_iff_noWaiterResumes_one_call :
    (encryptionCalls String).system.AllStates AnswersEncrypted
      (encryptionCalls String).system.init (encryptionRequest 0) := by
  have hreports : (encryptionCalls String).system.AllSteps ReportsEncryption
      (encryptionCalls String).system.init (encryptionRequest 0) := by
    apply TransitionSystem.allSteps_of_forall_mem
    intro e hmem w
    exact reportsEncryption_of_mem hmem w
  have hne : (encryptionCalls String).system.AllSteps
      (fun _ e => forall i, e ≠ Event.component i EncryptionAction.awaitLock)
      (encryptionCalls String).system.init (encryptionRequest 0) := by
    apply TransitionSystem.allSteps_of_forall_mem
    intro e hmem w i he
    subst he
    simp [encryptionRequest] at hmem
  apply (answersEncrypted_iff_noWaiterResumes rfl hreports).mpr
  exact TransitionSystem.AllSteps.imp_of_invariant (P := fun _ => True)
    (fun _ _ _ _ _ => True.intro)
    (fun _ _ _ _ hstep hne => noWaiterResumes_of_ne hstep hne) True.intro rfl hne

def overlappingCalls : List (EncryptionEvent String) :=
  (encryptionRequest 0).take 4 ++
    [Event.component 1 EncryptionAction.checkSynced,
      Event.component 1 EncryptionAction.lookUp] ++
    (encryptionRequest 0).drop 4 ++ [Event.component 1 EncryptionAction.awaitLock]

theorem overlapping_calls_disagree :
    exists w, (encryptionCalls String).system.run overlappingCalls = some w ∧
      (encryptionCalls String).system.AllSteps ReportsEncryption
        (encryptionCalls String).system.init overlappingCalls ∧
      w.memory 0 = EncryptionPhase.returned (.ok true) ∧
      w.memory 1 = EncryptionPhase.returned (.ok false) ∧ ¬ AnswersEncrypted w := by
  refine ⟨_, rfl, ?_, rfl, rfl, ?_⟩
  · apply TransitionSystem.allSteps_of_forall_mem
    intro e hmem w
    simp only [overlappingCalls, List.mem_append, List.mem_cons, List.not_mem_nil,
      or_false] at hmem
    rcases hmem with ((hmem | rfl | rfl) | hmem) | rfl
    · exact reportsEncryption_of_mem (List.mem_of_mem_take hmem) w
    · exact True.intro
    · exact True.intro
    · exact reportsEncryption_of_mem (List.mem_of_mem_drop hmem) w
    · exact True.intro
  · intro hanswers
    cases hanswers 1 false rfl

end Room
end MatrixGoose
