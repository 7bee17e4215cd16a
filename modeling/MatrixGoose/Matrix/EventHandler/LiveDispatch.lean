import Mathlib.Data.List.Perm.Subperm
import Mathlib.Logic.Function.Basic
import MatrixGoose.Foundation.Components
import MatrixGoose.Foundation.Register
import MatrixGoose.Matrix.EventHandler.Dispatch

/-!
# Dispatching while the handlers change

Any number of `call_event_handlers` calls of one client, while handlers and contexts are
added and removed at any time, by the handlers themselves or by other tasks.  A call holds
the read lock of the handlers while it creates the futures and gives it back before it
runs them.  A log keeps what happens.
-/

namespace MatrixGoose

open Foundation
open Foundation.Components

namespace EventHandler

section LiveDispatch

variable {Fn T Ev : Type} {Value : T -> Type}

/-!
# Contexts
-/

/-- The types that implement `EventHandlerContext`; `ctx` stands for `Ctx<T>`. -/
inductive ContextArg (T : Type)
  | client
  | eventHandlerHandle
  | room
  | rawEvent
  | encryptionInfo
  | pushActions
  | ctx (t : T)

inductive ContextValue (Value : T -> Type)
  | client
  | eventHandlerHandle (handle : EventHandlerHandle)
  | room (roomId : RoomId)
  | rawEvent (raw : Json)
  | encryptionInfo (encryptionInfo : Option Json)
  | pushActions (pushActions : List Json)
  | ctx (t : T) (value : Value t)

abbrev ContextMap (Value : T -> Type) := (t : T) -> Option (Value t)

def ContextArg.fromData (context : ContextMap Value) (data : EventHandlerData) :
    ContextArg T -> Option (ContextValue Value)
  | client => some ContextValue.client
  | eventHandlerHandle => some (ContextValue.eventHandlerHandle data.handle)
  | room => data.room.map ContextValue.room
  | rawEvent => some (ContextValue.rawEvent data.raw)
  | encryptionInfo => some (ContextValue.encryptionInfo data.encryptionInfo)
  | pushActions => some (ContextValue.pushActions data.pushActions)
  | ctx t => (context t).map (ContextValue.ctx t)

structure HandlerArgs (T Ev : Type) where
  deserialize : Json -> Option Ev
  context : List (ContextArg T)

inductive HandlerFuture (Ev : Type) (Value : T -> Type)
  | handleEvent (ev : Ev) (args : List (ContextValue Value))
  /-- Logs "Event handler has an invalid context argument". -/
  | invalidContextArgument
  /-- Logs "Failed to deserialize event, skipping event handler". -/
  | failedToDeserialize

/-!
# The calls
-/

structure Call where
  room : Option RoomId
  raw : Json
  eventKind : HandlerKind
  eventType : String
  encryptionInfo : Option Json
  pushActions : List Json

def Call.data (call : Call) (handle : EventHandlerHandle) : EventHandlerData where
  room := call.room
  raw := call.raw
  encryptionInfo := call.encryptionInfo
  pushActions := call.pushActions
  handle := handle

structure CreatedFuture (Fn Ev : Type) (Value : T -> Type) where
  handlerFn : Fn
  data : EventHandlerData
  future : HandlerFuture Ev Value

inductive LiveEntry (Fn Ev : Type) (Value : T -> Type)
  /-- `add_event_handler_impl` has drawn the id of a handle. -/
  | fetchAdd (handle : EventHandlerHandle)
  | addHandler (h : Registration Fn)
  | removeHandler (handle : EventHandlerHandle)
  | addContext (t : T) (value : Value t)
  | called (i : Nat) (call : Call)
  | created (i : Nat) (future : CreatedFuture Fn Ev Value)
  | finished (i : Nat) (future : CreatedFuture Fn Ev Value)
  | returned (i : Nat)

structure LiveShared (Fn Ev : Type) (Value : T -> Type) where
  store : EventHandlerStore Fn
  context : ContextMap Value
  /-- Handlers that have an id and wait for the write lock. -/
  adding : List (Registration Fn)
  /-- The calls that hold the read lock of the handlers. -/
  readers : List Nat
  log : List (LiveEntry Fn Ev Value)

inductive LivePhase (Fn Ev : Type) (Value : T -> Type)
  | idle
  /-- Creating the futures: those created so far, and the contexts extracted so far for
  the next one. -/
  | collecting (call : Call) (futures : List (CreatedFuture Fn Ev Value))
      (args : List (ContextValue Value))
  /-- The futures that are not complete yet. -/
  | running (futures : List (CreatedFuture Fn Ev Value))

inductive LiveAction
  | call (call : Call)
  | collect
  | finish (k : Nat)
  | return

inductive ClientOp (Fn : Type) (Value : T -> Type)
  | fetchAdd (evKind : HandlerKind) (evType : Option String) (handler : Fn)
      (roomId : Option RoomId)
  | addHandler (k : Nat)
  | removeHandler (handle : EventHandlerHandle)
  | addContext (t : T) (value : Value t)

def LiveShared.emit (shared : LiveShared Fn Ev Value) (entry : LiveEntry Fn Ev Value) :
    LiveShared Fn Ev Value :=
  { shared with log := shared.log ++ [entry] }

def Call.handlers (call : Call) (maps : EventHandlerMaps Fn) :
    List (EventHandlerHandle × Fn) :=
  maps.getHandlers call.eventKind call.eventType call.room

/-- What the closure made by `add_event_handler_impl` does next, once it has extracted
these contexts: extract another one or return the future. -/
def nextFuture (handler : HandlerArgs T Ev) (context : ContextMap Value)
    (data : EventHandlerData) (args : List (ContextValue Value)) :
    ContextValue Value ⊕ HandlerFuture Ev Value :=
  match handler.deserialize data.raw with
  | none => Sum.inr HandlerFuture.failedToDeserialize
  | some ev =>
      match handler.context[args.length]? with
      | none => Sum.inr (HandlerFuture.handleEvent ev args)
      | some arg =>
          match arg.fromData context data with
          | none => Sum.inr HandlerFuture.invalidContextArgument
          | some value => Sum.inl value

def callEventHandlers (handlers : Fn -> HandlerArgs T Ev) (i : Nat)
    (shared : LiveShared Fn Ev Value) (phase : LivePhase Fn Ev Value) (a : LiveAction) :
    Option (LiveShared Fn Ev Value × LivePhase Fn Ev Value) :=
  match a, phase with
  | LiveAction.call call, LivePhase.idle =>
      some ({ shared with readers := i :: shared.readers }.emit (LiveEntry.called i call),
        LivePhase.collecting call [] [])
  | LiveAction.collect, LivePhase.collecting call futures args =>
      match (call.handlers shared.store.handlers)[futures.length]? with
      | none =>
          some ({ shared with readers := shared.readers.filter fun j => j != i },
            LivePhase.running futures)
      | some (handle, handlerFn) =>
          let data := call.data handle
          match nextFuture (handlers handlerFn) shared.context data args with
          | Sum.inl value => some (shared, LivePhase.collecting call futures (args ++ [value]))
          | Sum.inr future =>
              let created : CreatedFuture Fn Ev Value := { handlerFn, data, future }
              some (shared.emit (LiveEntry.created i created),
                LivePhase.collecting call (futures ++ [created]) [])
  | LiveAction.finish k, LivePhase.running futures =>
      futures[k]?.map fun future =>
        (shared.emit (LiveEntry.finished i future), LivePhase.running (futures.eraseIdx k))
  | LiveAction.return, LivePhase.running [] =>
      some (shared.emit (LiveEntry.returned i), LivePhase.idle)
  | _, _ => none

def clientOp [DecidableEq T] (shared : LiveShared Fn Ev Value) :
    ClientOp Fn Value -> Option (LiveShared Fn Ev Value)
  | ClientOp.fetchAdd evKind evType handler roomId =>
      let handle : EventHandlerHandle :=
        { evKind, evType, roomId, handlerId := shared.store.counter }
      let counter := (shared.store.counter + 1) % counterBound
      some
        ({ shared with
            store := { shared.store with counter }
            adding := shared.adding ++ [(⟨handle, handler⟩ : Registration Fn)] }.emit
          (LiveEntry.fetchAdd handle))
  | ClientOp.addHandler k =>
      -- The write lock is free only if nobody reads.
      match shared.readers, shared.adding[k]? with
      | [], some h =>
          let handlers := shared.store.handlers.add h.handle h.handlerFn
          some
            ({ shared with
                store := { shared.store with handlers }
                adding := shared.adding.eraseIdx k }.emit (LiveEntry.addHandler h))
      | _, _ => none
  | ClientOp.removeHandler handle =>
      match shared.readers with
      | [] =>
          some ({ shared with store := shared.store.removeEventHandler handle }.emit
            (LiveEntry.removeHandler handle))
      | _ => none
  | ClientOp.addContext t value =>
      some ({ shared with context := Function.update shared.context t (some value) }.emit
        (LiveEntry.addContext t value))

def liveDispatch [DecidableEq T] (handlers : Fn -> HandlerArgs T Ev) :
    Components Nat (LiveShared Fn Ev Value) (LivePhase Fn Ev Value) (ClientOp Fn Value)
      LiveAction where
  initShared :=
    { store := EventHandlerStore.empty, context := fun _ => none, adding := [],
      readers := [], log := [] }
  initMemory := fun _ => LivePhase.idle
  environment := clientOp
  step := callEventHandlers handlers

abbrev LiveWorld (Fn Ev : Type) (Value : T -> Type) :=
  World Nat (LiveShared Fn Ev Value) (LivePhase Fn Ev Value)

/-!
# What a step can do
-/

inductive LiveStep (handlers : Fn -> HandlerArgs T Ev) (i : Nat)
    (shared : LiveShared Fn Ev Value) :
    LivePhase Fn Ev Value -> List Nat -> List (LiveEntry Fn Ev Value) ->
      LivePhase Fn Ev Value -> Prop
  | called (call : Call) :
      LiveStep handlers i shared LivePhase.idle (i :: shared.readers)
        [LiveEntry.called i call] (LivePhase.collecting call [] [])
  | extracted {call : Call} {futures : List (CreatedFuture Fn Ev Value)}
      {args : List (ContextValue Value)} {handle : EventHandlerHandle} {handlerFn : Fn}
      {value : ContextValue Value}
      (hhandler : (call.handlers shared.store.handlers)[futures.length]? =
        some (handle, handlerFn))
      (hnext : nextFuture (handlers handlerFn) shared.context (call.data handle) args =
        Sum.inl value) :
      LiveStep handlers i shared (LivePhase.collecting call futures args) shared.readers []
        (LivePhase.collecting call futures (args ++ [value]))
  | created {call : Call} {futures : List (CreatedFuture Fn Ev Value)}
      {args : List (ContextValue Value)} {handle : EventHandlerHandle} {handlerFn : Fn}
      {future : HandlerFuture Ev Value}
      (hhandler : (call.handlers shared.store.handlers)[futures.length]? =
        some (handle, handlerFn))
      (hnext : nextFuture (handlers handlerFn) shared.context (call.data handle) args =
        Sum.inr future) :
      LiveStep handlers i shared (LivePhase.collecting call futures args) shared.readers
        [LiveEntry.created i ⟨handlerFn, call.data handle, future⟩]
        (LivePhase.collecting call (futures ++ [⟨handlerFn, call.data handle, future⟩]) [])
  | collected {call : Call} {futures : List (CreatedFuture Fn Ev Value)}
      {args : List (ContextValue Value)}
      (hhandler : (call.handlers shared.store.handlers)[futures.length]? = none) :
      LiveStep handlers i shared (LivePhase.collecting call futures args)
        (shared.readers.filter fun j => j != i) [] (LivePhase.running futures)
  | finished {futures : List (CreatedFuture Fn Ev Value)} {k : Nat}
      {future : CreatedFuture Fn Ev Value} (hfuture : futures[k]? = some future) :
      LiveStep handlers i shared (LivePhase.running futures) shared.readers
        [LiveEntry.finished i future] (LivePhase.running (futures.eraseIdx k))
  | returned :
      LiveStep handlers i shared (LivePhase.running []) shared.readers
        [LiveEntry.returned i] LivePhase.idle

variable {handlers : Fn -> HandlerArgs T Ev} {i : Nat}
variable {shared shared' : LiveShared Fn Ev Value} {phase phase' : LivePhase Fn Ev Value}

theorem callEventHandlers_of_eq_some {a : LiveAction}
    (hstep : callEventHandlers handlers i shared phase a = some (shared', phase')) :
    exists entries,
      shared' = { shared with readers := shared'.readers, log := shared.log ++ entries } ∧
        LiveStep handlers i shared phase shared'.readers entries phase' := by
  cases a with
  | call call =>
      cases phase <;> simp only [callEventHandlers, reduceCtorEq] at hstep
      cases hstep
      exact ⟨_, rfl, LiveStep.called call⟩
  | collect =>
      cases phase <;> simp only [callEventHandlers, reduceCtorEq] at hstep
      next call futures args =>
        cases hhandler : (call.handlers shared.store.handlers)[futures.length]? with
        | none =>
            rw [hhandler] at hstep
            cases hstep
            exact ⟨[], by simp, LiveStep.collected hhandler⟩
        | some entry =>
            rcases entry with ⟨handle, handlerFn⟩
            simp only [hhandler] at hstep
            cases hnext : nextFuture (handlers handlerFn) shared.context (call.data handle)
              args with
            | inl value =>
                rw [hnext] at hstep
                cases hstep
                exact ⟨[], by simp, LiveStep.extracted hhandler hnext⟩
            | inr future =>
                rw [hnext] at hstep
                cases hstep
                exact ⟨_, rfl, LiveStep.created hhandler hnext⟩
  | finish k =>
      cases phase <;> simp only [callEventHandlers, reduceCtorEq] at hstep
      next futures =>
        rcases Option.map_eq_some_iff.mp hstep with ⟨future, hfuture, heq⟩
        cases heq
        exact ⟨_, rfl, LiveStep.finished hfuture⟩
  | «return» =>
      cases phase with
      | running futures =>
          cases futures <;> simp only [callEventHandlers, reduceCtorEq] at hstep
          cases hstep
          exact ⟨_, rfl, LiveStep.returned⟩
      | _ => simp only [callEventHandlers, reduceCtorEq] at hstep

inductive ClientStep [DecidableEq T] (shared : LiveShared Fn Ev Value) :
    EventHandlerStore Fn -> ContextMap Value -> List (Registration Fn) ->
      LiveEntry Fn Ev Value -> Prop
  | fetchAdd (evKind : HandlerKind) (evType : Option String) (handler : Fn)
      (roomId : Option RoomId) :
      ClientStep shared
        { shared.store with counter := (shared.store.counter + 1) % counterBound }
        shared.context
        (shared.adding ++
          [⟨{ evKind, evType, roomId, handlerId := shared.store.counter }, handler⟩])
        (LiveEntry.fetchAdd { evKind, evType, roomId, handlerId := shared.store.counter })
  | addHandler {k : Nat} {h : Registration Fn} (hreaders : shared.readers = [])
      (hadding : shared.adding[k]? = some h) :
      ClientStep shared
        { shared.store with handlers := shared.store.handlers.add h.handle h.handlerFn }
        shared.context (shared.adding.eraseIdx k) (LiveEntry.addHandler h)
  | removeHandler (handle : EventHandlerHandle) (hreaders : shared.readers = []) :
      ClientStep shared (shared.store.removeEventHandler handle) shared.context
        shared.adding (LiveEntry.removeHandler handle)
  | addContext (t : T) (value : Value t) :
      ClientStep shared shared.store (Function.update shared.context t (some value))
        shared.adding (LiveEntry.addContext t value)

theorem clientOp_of_eq_some [DecidableEq T] {op : ClientOp Fn Value}
    (hop : clientOp shared op = some shared') :
    exists entry, shared'.readers = shared.readers ∧ shared'.log = shared.log ++ [entry] ∧
      ClientStep shared shared'.store shared'.context shared'.adding entry := by
  cases op with
  | fetchAdd evKind evType handler roomId =>
      cases hop
      exact ⟨_, rfl, rfl, ClientStep.fetchAdd evKind evType handler roomId⟩
  | addHandler k =>
      simp only [clientOp] at hop
      split at hop
      · next hreaders hadding =>
          cases hop
          exact ⟨_, rfl, rfl, ClientStep.addHandler hreaders hadding⟩
      · cases hop
  | removeHandler handle =>
      simp only [clientOp] at hop
      split at hop
      · next hreaders =>
          cases hop
          exact ⟨_, rfl, rfl, ClientStep.removeHandler handle hreaders⟩
      · cases hop
  | addContext t value =>
      cases hop
      exact ⟨_, rfl, rfl, ClientStep.addContext t value⟩

/-!
# Reading the log
-/

def LiveEntry.apply (hs : List (Registration Fn)) :
    LiveEntry Fn Ev Value -> List (Registration Fn)
  | LiveEntry.addHandler h => hs ++ [h]
  | LiveEntry.removeHandler handle => hs.filter fun h => h.handle != handle
  | _ => hs

def registrations (log : List (LiveEntry Fn Ev Value)) : List (Registration Fn) :=
  log.foldl LiveEntry.apply []

def LiveEntry.contextValue [DecidableEq T] (t : T) :
    LiveEntry Fn Ev Value -> Option (Value t)
  | LiveEntry.addContext t' value => if h : t' = t then some (h ▸ value) else none
  | _ => none

def contextsOf [DecidableEq T] (log : List (LiveEntry Fn Ev Value)) : ContextMap Value :=
  fun t => (log.filterMap (LiveEntry.contextValue t)).getLast?

def LiveEntry.caller : LiveEntry Fn Ev Value -> Option Nat
  | LiveEntry.called i _ => some i
  | LiveEntry.created i _ => some i
  | LiveEntry.finished i _ => some i
  | LiveEntry.returned i => some i
  | _ => none

def LiveEntry.createdBy (i : Nat) :
    LiveEntry Fn Ev Value -> Option (CreatedFuture Fn Ev Value)
  | LiveEntry.created j future => if j = i then some future else none
  | _ => none

def LiveEntry.finishedBy (i : Nat) :
    LiveEntry Fn Ev Value -> Option (CreatedFuture Fn Ev Value)
  | LiveEntry.finished j future => if j = i then some future else none
  | _ => none

def createdBy (i : Nat) (log : List (LiveEntry Fn Ev Value)) :
    List (CreatedFuture Fn Ev Value) :=
  log.filterMap (LiveEntry.createdBy i)

def finishedBy (i : Nat) (log : List (LiveEntry Fn Ev Value)) :
    List (CreatedFuture Fn Ev Value) :=
  log.filterMap (LiveEntry.finishedBy i)

def LiveEntry.calledBy (i : Nat) : LiveEntry Fn Ev Value -> Option Call
  | LiveEntry.called j call => if j = i then some call else none
  | _ => none

/-- The calls of a task with the handlers registered where they begin, in a log that begins
with these handlers. -/
def callsFrom (i : Nat) :
    List (Registration Fn) -> List (LiveEntry Fn Ev Value) ->
      List (Call × List (Registration Fn))
  | _, [] => []
  | hs, entry :: rest =>
      ((entry.calledBy i).toList.map fun call => (call, hs)) ++
        callsFrom i (entry.apply hs) rest

variable {log entries : List (LiveEntry Fn Ev Value)} {entry : LiveEntry Fn Ev Value}

theorem callsFrom_append (i : Nat) (hs : List (Registration Fn)) :
    callsFrom i hs (log ++ entries) =
      callsFrom i hs log ++ callsFrom i (log.foldl LiveEntry.apply hs) entries := by
  induction log generalizing hs with
  | nil => rfl
  | cons entry rest ih =>
      rw [List.cons_append, callsFrom, ih, callsFrom, List.append_assoc]
      rfl

theorem callsFrom_of_not_called {i : Nat} {hs : List (Registration Fn)}
    (hnot : forall call, LiveEntry.called i call ∉ entries) : callsFrom i hs entries = [] := by
  induction entries generalizing hs with
  | nil => rfl
  | cons entry rest ih =>
      have hentry : entry.calledBy i = none := by
        cases entry with
        | called j call =>
            have hne : j ≠ i := by
              intro hj
              subst hj
              exact hnot call List.mem_cons_self
            exact if_neg hne
        | _ => rfl
      rw [callsFrom, hentry, ih fun call hmem => hnot call (List.mem_cons_of_mem _ hmem)]
      rfl

theorem mem_callsFrom {i : Nat} {hs hs' : List (Registration Fn)} {call : Call}
    (hmem : (call, hs') ∈ callsFrom i hs log) :
    exists before after, log = before ++ LiveEntry.called i call :: after ∧
      hs' = before.foldl LiveEntry.apply hs := by
  induction log generalizing hs with
  | nil => cases hmem
  | cons entry rest ih =>
      rcases List.mem_append.mp hmem with hhead | htail
      · rcases List.mem_map.mp hhead with ⟨call', hcalled, heq⟩
        cases heq
        cases entry with
        | called j call' =>
            rw [Option.mem_toList] at hcalled
            have hj : j = i ∧ call' = call := by
              simpa [LiveEntry.calledBy] using hcalled
            rcases hj with ⟨rfl, rfl⟩
            exact ⟨[], rest, rfl, rfl⟩
        | _ => cases hcalled
      · rcases ih htail with ⟨before, after, rfl, rfl⟩
        exact ⟨entry :: before, after, rfl, rfl⟩

theorem registrations_append_singleton :
    registrations (log ++ [entry]) = entry.apply (registrations log) := by
  simp [registrations]

theorem contextsOf_append_singleton [DecidableEq T] (t : T) :
    contextsOf (log ++ [entry]) t = (entry.contextValue t).or (contextsOf log t) := by
  unfold contextsOf
  cases hentry : entry.contextValue t with
  | none => simp [hentry]
  | some value => simp [hentry]

theorem createdBy_append :
    createdBy i (log ++ entries) = createdBy i log ++ createdBy i entries :=
  List.filterMap_append

theorem finishedBy_append :
    finishedBy i (log ++ entries) = finishedBy i log ++ finishedBy i entries :=
  List.filterMap_append

theorem registrations_append_of_caller
    (hcaller : forall entry, entry ∈ entries -> entry.caller ≠ none) :
    registrations (log ++ entries) = registrations log := by
  induction entries using List.reverseRecOn with
  | nil => rw [List.append_nil]
  | append_singleton rest last ih =>
      rw [← List.append_assoc, registrations_append_singleton,
        ih fun entry hmem => hcaller entry (List.mem_append_left _ hmem)]
      have hlast := hcaller last (by simp)
      cases last <;> first | rfl | exact absurd rfl hlast

theorem contextsOf_append_of_caller [DecidableEq T]
    (hcaller : forall entry, entry ∈ entries -> entry.caller ≠ none) :
    contextsOf (log ++ entries) = contextsOf log := by
  funext t
  have hnone : entries.filterMap (LiveEntry.contextValue t) = [] := by
    rw [List.filterMap_eq_nil_iff]
    intro entry hmem
    have hentry := hcaller entry hmem
    cases entry <;> first | rfl | exact absurd rfl hentry
  simp [contextsOf, hnone]

def Foreign (i : Nat) (entries : List (LiveEntry Fn Ev Value)) : Prop :=
  forall entry, entry ∈ entries -> entry.caller ≠ some i

theorem Foreign.createdBy (hforeign : Foreign i entries) : createdBy i entries = [] := by
  unfold EventHandler.createdBy
  rw [List.filterMap_eq_nil_iff]
  intro entry hmem
  have hcaller := hforeign entry hmem
  cases entry <;> simp_all [LiveEntry.createdBy, LiveEntry.caller]

theorem Foreign.finishedBy (hforeign : Foreign i entries) : finishedBy i entries = [] := by
  unfold EventHandler.finishedBy
  rw [List.filterMap_eq_nil_iff]
  intro entry hmem
  have hcaller := hforeign entry hmem
  cases entry <;> simp_all [LiveEntry.finishedBy, LiveEntry.caller]

theorem Foreign.not_called (hforeign : Foreign i entries) (call : Call) :
    LiveEntry.called i call ∉ entries :=
  fun hmem => hforeign _ hmem rfl

/-!
# What a call does
-/

def Call.wanted (call : Call) (hs : List (Registration Fn)) :
    List (Fn × EventHandlerData) :=
  (lookup hs call.eventKind call.eventType call.room).map fun h =>
    (h.handlerFn, call.data (h.calledWith call.room))

def CreatedFuture.called (future : CreatedFuture Fn Ev Value) : Fn × EventHandlerData :=
  (future.handlerFn, future.data)

/-- At some moment between two positions of the log the contexts gave this result. -/
def Sampled [DecidableEq T] (before rest : List (LiveEntry Fn Ev Value))
    (data : EventHandlerData) (arg : ContextArg T) (result : Option (ContextValue Value)) :
    Prop :=
  exists first last, rest = first ++ last ∧
    arg.fromData (contextsOf (before ++ first)) data = result

def HandlerFuture.Fits (handler : HandlerArgs T Ev) (raw : Json)
    (sampled : ContextArg T -> Option (ContextValue Value) -> Prop) :
    HandlerFuture Ev Value -> Prop
  | handleEvent ev args =>
      handler.deserialize raw = some ev ∧
        List.Forall₂ (fun arg value => sampled arg (some value)) handler.context args
  | invalidContextArgument =>
      handler.deserialize raw ≠ none ∧ exists arg, arg ∈ handler.context ∧ sampled arg none
  | failedToDeserialize => handler.deserialize raw = none

structure LastCall (i : Nat) (before : List (LiveEntry Fn Ev Value)) (call : Call)
    (start rest : List (LiveEntry Fn Ev Value)) : Prop where
  split : before = start ++ LiveEntry.called i call :: rest
  not_called : forall call', LiveEntry.called i call' ∉ rest

/-- What an entry of the log says about the entries before it.  A call begins when all
futures of the task are complete.  It creates the futures of the handlers that want the
event where the call begins, one after the other, with the contexts of a moment between the
beginning of the call and the creation of the future.  A future is complete at most once.
The call returns when it has created all of them and each of them is complete. -/
def Follows [DecidableEq T] (handlers : Fn -> HandlerArgs T Ev)
    (before : List (LiveEntry Fn Ev Value)) : LiveEntry Fn Ev Value -> Prop
  | LiveEntry.called i _ => (finishedBy i before).Perm (createdBy i before)
  | LiveEntry.created i future =>
      exists call start rest, LastCall i before call start rest ∧
        (call.wanted (registrations start))[(createdBy i rest).length]? =
          some future.called ∧
        future.future.Fits (handlers future.handlerFn) future.data.raw
          (Sampled (start ++ [LiveEntry.called i call]) rest future.data)
  | LiveEntry.finished i future =>
      (future :: finishedBy i before).Subperm (createdBy i before)
  | LiveEntry.returned i =>
      exists call start rest, LastCall i before call start rest ∧
        (createdBy i rest).map CreatedFuture.called = call.wanted (registrations start) ∧
        (finishedBy i rest).Perm (createdBy i rest)
  | _ => True

end LiveDispatch

end EventHandler
end MatrixGoose
