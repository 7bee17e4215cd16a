import Mathlib.Data.List.Forall2
import Mathlib.Data.List.Perm.Basic
import MatrixGoose.Matrix.EventHandler.LiveDispatch

/-!
# What a dispatch is promised

Every call runs the handlers that want its event where the call begins, whatever the
handlers and the other tasks do in the meantime.
-/

namespace MatrixGoose

open Foundation
open Foundation.Components

namespace EventHandler

section LiveContract

variable {Fn T Ev : Type} {Value : T -> Type}
variable {handlers : Fn -> HandlerArgs T Ev} {i : Nat}
variable {log entries : List (LiveEntry Fn Ev Value)}

/-!
# The next future
-/

section NextFuture

variable {handler : HandlerArgs T Ev} {context : ContextMap Value} {data : EventHandlerData}
variable {args : List (ContextValue Value)}
variable {sampled : ContextArg T -> Option (ContextValue Value) -> Prop}

theorem nextFuture_inl {value : ContextValue Value}
    (hnext : nextFuture handler context data args = Sum.inl value)
    (hnow : forall arg, sampled arg (arg.fromData context data))
    (hargs : List.Forall₂ (fun arg value => sampled arg (some value))
      (handler.context.take args.length) args) :
    List.Forall₂ (fun arg value => sampled arg (some value))
      (handler.context.take (args ++ [value]).length) (args ++ [value]) := by
  unfold nextFuture at hnext
  cases hev : handler.deserialize data.raw with
  | none => simp [hev] at hnext
  | some ev =>
      cases harg : handler.context[args.length]? with
      | none => simp [hev, harg] at hnext
      | some arg =>
          cases hvalue : arg.fromData context data with
          | none => simp [hev, harg, hvalue] at hnext
          | some value' =>
              simp only [hev, harg, hvalue, Sum.inl.injEq] at hnext
              subst hnext
              have hlast : sampled arg (some value') := by
                rw [← hvalue]
                exact hnow arg
              rw [List.length_append, List.length_singleton, List.take_add_one, harg]
              exact List.rel_append hargs (List.Forall₂.cons hlast List.Forall₂.nil)

theorem nextFuture_inr {future : HandlerFuture Ev Value}
    (hnext : nextFuture handler context data args = Sum.inr future)
    (hnow : forall arg, sampled arg (arg.fromData context data))
    (hargs : List.Forall₂ (fun arg value => sampled arg (some value))
      (handler.context.take args.length) args) :
    future.Fits handler data.raw sampled := by
  unfold nextFuture at hnext
  cases hev : handler.deserialize data.raw with
  | none =>
      simp only [hev, Sum.inr.injEq] at hnext
      subst hnext
      exact hev
  | some ev =>
      cases harg : handler.context[args.length]? with
      | none =>
          simp only [hev, harg, Sum.inr.injEq] at hnext
          subst hnext
          rw [List.take_of_length_le (List.getElem?_eq_none_iff.mp harg)] at hargs
          exact ⟨hev, hargs⟩
      | some arg =>
          cases hvalue : arg.fromData context data with
          | some value => simp [hev, harg, hvalue] at hnext
          | none =>
              simp only [hev, harg, hvalue, Sum.inr.injEq] at hnext
              subst hnext
              have hnone : sampled arg none := by
                rw [← hvalue]
                exact hnow arg
              exact ⟨by simp [hev], arg, List.mem_of_getElem? harg, hnone⟩

end NextFuture

/-!
# Calls
-/

/-- Between two calls of a task the futures of all its calls have been created and are
complete. -/
structure Settled (i : Nat) (log : List (LiveEntry Fn Ev Value)) : Prop where
  finished : (finishedBy i log).Perm (createdBy i log)
  created : (createdBy i log).map CreatedFuture.called =
    (callsFrom i [] log).flatMap fun (call, hs) => call.wanted hs

theorem Settled.append_foreign (h : Settled i log) (hforeign : Foreign i entries) :
    Settled i (log ++ entries) where
  finished := by
    rw [createdBy_append, finishedBy_append, hforeign.createdBy, hforeign.finishedBy,
      List.append_nil, List.append_nil]
    exact h.finished
  created := by
    rw [createdBy_append, callsFrom_append, hforeign.createdBy,
      callsFrom_of_not_called hforeign.not_called, List.append_nil, List.append_nil]
    exact h.created

theorem Settled.created_between (h : Settled i log) (h' : Settled i (log ++ entries)) :
    (createdBy i entries).map CreatedFuture.called =
      (callsFrom i (registrations log) entries).flatMap fun (call, hs) => call.wanted hs := by
  have hall := h'.created
  rw [createdBy_append, callsFrom_append, List.map_append, List.flatMap_append,
    h.created] at hall
  exact List.append_cancel_left hall

structure InCall (i : Nat) (log : List (LiveEntry Fn Ev Value)) (call : Call)
    (start rest : List (LiveEntry Fn Ev Value)) : Prop where
  last : LastCall i log call start rest
  earlier : Settled i start

theorem InCall.append {call : Call} {start rest : List (LiveEntry Fn Ev Value)}
    (h : InCall i log call start rest)
    (hnot : forall call', LiveEntry.called i call' ∉ entries) :
    InCall i (log ++ entries) call start (rest ++ entries) where
  last :=
    { split := by rw [h.last.split, List.append_assoc, List.cons_append]
      not_called := fun call' hmem =>
        (List.mem_append.mp hmem).elim (h.last.not_called call') (hnot call') }
  earlier := h.earlier

theorem InCall.created_eq {call : Call} {start rest : List (LiveEntry Fn Ev Value)}
    (h : InCall i log call start rest) :
    createdBy i log = createdBy i start ++ createdBy i rest := by
  rw [h.last.split, createdBy_append]
  rfl

theorem InCall.finished_eq {call : Call} {start rest : List (LiveEntry Fn Ev Value)}
    (h : InCall i log call start rest) :
    finishedBy i log = finishedBy i start ++ finishedBy i rest := by
  rw [h.last.split, finishedBy_append]
  rfl

theorem InCall.settled {call : Call} {start rest : List (LiveEntry Fn Ev Value)}
    (h : InCall i log call start rest)
    (hcreated : (createdBy i rest).map CreatedFuture.called = call.wanted (registrations start))
    (hfinished : (finishedBy i rest).Perm (createdBy i rest)) :
    Settled i (start ++ LiveEntry.called i call :: (rest ++ [LiveEntry.returned i])) where
  finished := by
    rw [createdBy_append, finishedBy_append]
    apply h.earlier.finished.append
    show (finishedBy i (rest ++ _)).Perm (createdBy i (rest ++ _))
    rw [createdBy_append, finishedBy_append]
    exact hfinished.append_right []
  created := by
    have hlater : callsFrom i (registrations start) (rest ++ [LiveEntry.returned i]) = [] := by
      apply callsFrom_of_not_called
      intro call' hmem
      rcases List.mem_append.mp hmem with hmem | hmem
      · exact h.last.not_called call' hmem
      · cases List.mem_singleton.mp hmem
    have hthis : callsFrom i (start.foldl LiveEntry.apply [])
        (LiveEntry.called i call :: (rest ++ [LiveEntry.returned i])) =
        [(call, registrations start)] := by
      show (((if i = i then some call else none).toList.map _) ++
        callsFrom i (registrations start) _ : List (Call × List (Registration Fn))) = _
      rw [hlater, if_pos rfl]
      rfl
    have hnew : createdBy i (LiveEntry.called i call :: (rest ++ [LiveEntry.returned i])) =
        createdBy i rest := by
      show createdBy i (rest ++ _) = _
      rw [createdBy_append]
      exact List.append_nil _
    rw [createdBy_append, callsFrom_append, hthis, hnew, List.map_append, List.flatMap_append,
      h.earlier.created, hcreated, List.flatMap_singleton]

section Invariant

variable [DecidableEq T]

/-!
# The invariant
-/

def Extracted (handlers : Fn -> HandlerArgs T Ev) (i : Nat) (call : Call)
    (start rest : List (LiveEntry Fn Ev Value)) (next : Option (Fn × EventHandlerData))
    (args : List (ContextValue Value)) : Prop :=
  match next with
  | none => True
  | some (handlerFn, data) =>
      List.Forall₂
        (fun arg value => Sampled (start ++ [LiveEntry.called i call]) rest data arg
          (some value))
        ((handlers handlerFn).context.take args.length) args

def Describes (handlers : Fn -> HandlerArgs T Ev) (i : Nat) (readers : List Nat)
    (log : List (LiveEntry Fn Ev Value)) : LivePhase Fn Ev Value -> Prop
  | LivePhase.idle => Settled i log
  | LivePhase.collecting call futures args =>
      exists start rest, InCall i log call start rest ∧ i ∈ readers ∧
        registrations log = registrations start ∧ createdBy i rest = futures ∧
        finishedBy i rest = [] ∧
        futures.map CreatedFuture.called =
          (call.wanted (registrations start)).take futures.length ∧
        Extracted handlers i call start rest
          (call.wanted (registrations start))[futures.length]? args
  | LivePhase.running futures =>
      exists call start rest, InCall i log call start rest ∧
        (createdBy i rest).map CreatedFuture.called = call.wanted (registrations start) ∧
        (finishedBy i rest ++ futures).Perm (createdBy i rest)

structure LiveInvariant (handlers : Fn -> HandlerArgs T Ev) (w : LiveWorld Fn Ev Value) :
    Prop where
  represents : w.shared.store.handlers.Represents (registrations w.shared.log)
  contexts : w.shared.context = contextsOf w.shared.log
  entries : EachEntry (Follows handlers) w.shared.log
  phases : forall i, Describes handlers i w.shared.readers w.shared.log (w.memory i)

/-!
# Moments
-/

theorem Sampled.append {before rest : List (LiveEntry Fn Ev Value)} {data : EventHandlerData}
    {arg : ContextArg T} {result : Option (ContextValue Value)}
    (h : Sampled before rest data arg result) (more : List (LiveEntry Fn Ev Value)) :
    Sampled before (rest ++ more) data arg result := by
  rcases h with ⟨first, last, rfl, hresult⟩
  exact ⟨first, last ++ more, List.append_assoc _ _ _, hresult⟩

theorem sampled_now (before rest : List (LiveEntry Fn Ev Value)) (data : EventHandlerData)
    (arg : ContextArg T) :
    Sampled before rest data arg (arg.fromData (contextsOf (before ++ rest)) data) :=
  ⟨rest, [], (List.append_nil _).symm, rfl⟩

theorem Extracted.append {call : Call} {start rest : List (LiveEntry Fn Ev Value)}
    {next : Option (Fn × EventHandlerData)} {args : List (ContextValue Value)}
    (h : Extracted handlers i call start rest next args)
    (more : List (LiveEntry Fn Ev Value)) :
    Extracted handlers i call start (rest ++ more) next args := by
  cases next with
  | none => exact True.intro
  | some entry => exact h.imp fun _ _ hsampled => hsampled.append more

theorem extracted_nil (call : Call) (start rest : List (LiveEntry Fn Ev Value))
    (next : Option (Fn × EventHandlerData)) :
    Extracted handlers i call start rest next [] := by
  cases next with
  | none => exact True.intro
  | some entry => exact List.Forall₂.nil

/-!
# Entries of the others
-/

theorem Describes.foreign {readers readers' : List Nat} {phase : LivePhase Fn Ev Value}
    (h : Describes handlers i readers log phase) (hforeign : Foreign i entries)
    (hregistrations : i ∈ readers -> registrations (log ++ entries) = registrations log)
    (hreaders : i ∈ readers -> i ∈ readers') :
    Describes handlers i readers' (log ++ entries) phase := by
  cases phase with
  | idle => exact h.append_foreign hforeign
  | collecting call futures args =>
      rcases h with ⟨start, rest, hcall, hreader, hsame, hcreated, hfinished, hcalled, hargs⟩
      refine ⟨start, rest ++ entries, hcall.append hforeign.not_called, hreaders hreader,
        (hregistrations hreader).trans hsame, ?_, ?_, hcalled, hargs.append entries⟩
      · rw [createdBy_append, hforeign.createdBy, List.append_nil, hcreated]
      · rw [finishedBy_append, hforeign.finishedBy, List.append_nil, hfinished]
  | running futures =>
      rcases h with ⟨call, start, rest, hcall, hcalled, hperm⟩
      refine ⟨call, start, rest ++ entries, hcall.append hforeign.not_called, ?_, ?_⟩
      · rw [createdBy_append, hforeign.createdBy, List.append_nil]
        exact hcalled
      · rw [createdBy_append, finishedBy_append, hforeign.createdBy, hforeign.finishedBy,
          List.append_nil, List.append_nil]
        exact hperm

/-!
# One step
-/

variable {shared : LiveShared Fn Ev Value} {phase phase' : LivePhase Fn Ev Value}
variable {readers : List Nat}

theorem wanted_eq_map_handlers {maps : EventHandlerMaps Fn} {hs : List (Registration Fn)}
    (hmaps : maps.Represents hs) (call : Call) :
    call.wanted hs =
      (call.handlers maps).map fun (handle, handlerFn) => (handlerFn, call.data handle) := by
  unfold Call.handlers
  rw [EventHandlerMaps.getHandlers_of_represents hmaps, List.map_map]
  rfl

theorem wanted_of_handlers {maps : EventHandlerMaps Fn} {hs : List (Registration Fn)}
    (hmaps : maps.Represents hs) {call : Call} {k : Nat}
    {next : Option (EventHandlerHandle × Fn)} (hnext : (call.handlers maps)[k]? = next) :
    (call.wanted hs)[k]? =
      next.map fun (handle, handlerFn) => (handlerFn, call.data handle) := by
  rw [wanted_eq_map_handlers hmaps, List.getElem?_map, hnext]

omit [DecidableEq T] in
theorem LiveStep.caller (hstep : LiveStep handlers i shared phase readers entries phase') :
    forall entry, entry ∈ entries -> entry.caller = some i := by
  cases hstep <;> simp [LiveEntry.caller]

omit [DecidableEq T] in
theorem LiveStep.keeps_reader
    (hstep : LiveStep handlers i shared phase readers entries phase') {j : Nat}
    (hne : j ≠ i) (hreader : j ∈ shared.readers) : j ∈ readers := by
  cases hstep with
  | called call => exact List.mem_cons_of_mem _ hreader
  | collected hhandler => exact List.mem_filter.mpr ⟨hreader, by simp [hne]⟩
  | _ => exact hreader

theorem sampled_of_call {call : Call} {start rest : List (LiveEntry Fn Ev Value)}
    (hcontext : shared.context = contextsOf shared.log)
    (hcall : InCall i shared.log call start rest) (data : EventHandlerData)
    (arg : ContextArg T) :
    Sampled (start ++ [LiveEntry.called i call]) rest data arg
      (arg.fromData shared.context data) := by
  have hlog : shared.log = (start ++ [LiveEntry.called i call]) ++ rest := by
    rw [hcall.last.split, List.append_assoc]
    rfl
  rw [hcontext, hlog]
  exact sampled_now _ _ _ _

theorem LiveStep.describes
    (hstep : LiveStep handlers i shared phase readers entries phase')
    (hrepresents : shared.store.handlers.Represents (registrations shared.log))
    (hcontext : shared.context = contextsOf shared.log)
    (h : Describes handlers i shared.readers shared.log phase) :
    Describes handlers i readers (shared.log ++ entries) phase' := by
  cases hstep with
  | called call =>
      refine ⟨shared.log, [], ⟨⟨rfl, nofun⟩, h⟩, List.mem_cons_self, ?_, rfl, rfl, rfl,
        extracted_nil _ _ _ _⟩
      exact registrations_append_of_caller (by simp [LiveEntry.caller])
  | @extracted call futures args handle handlerFn value hhandler hnext =>
      rcases h with ⟨start, rest, hcall, hreader, hsame, hcreated, hfinished, hcalled, hargs⟩
      rw [List.append_nil]
      refine ⟨start, rest, hcall, hreader, hsame, hcreated, hfinished, hcalled, ?_⟩
      have hwanted := wanted_of_handlers hrepresents hhandler
      rw [hsame] at hwanted
      rw [hwanted] at hargs ⊢
      exact nextFuture_inl hnext (sampled_of_call hcontext hcall _) hargs
  | @created call futures args handle handlerFn future hhandler hnext =>
      rcases h with ⟨start, rest, hcall, hreader, hsame, hcreated, hfinished, hcalled, hargs⟩
      refine ⟨start, rest ++ [LiveEntry.created i ⟨handlerFn, call.data handle, future⟩],
        hcall.append (by simp), hreader, ?_, ?_, ?_, ?_, extracted_nil _ _ _ _⟩
      · rw [registrations_append_of_caller (by simp [LiveEntry.caller])]
        exact hsame
      · rw [createdBy_append, hcreated]
        simp [createdBy, LiveEntry.createdBy]
      · rw [finishedBy_append, hfinished]
        rfl
      · have hwanted := wanted_of_handlers hrepresents hhandler
        rw [hsame] at hwanted
        rw [List.map_append, hcalled, List.length_append, List.length_singleton,
          List.take_add_one, hwanted]
        rfl
  | @collected call futures args hhandler =>
      rcases h with ⟨start, rest, hcall, hreader, hsame, hcreated, hfinished, hcalled, hargs⟩
      rw [List.append_nil]
      have hwanted := wanted_of_handlers hrepresents hhandler
      rw [hsame] at hwanted
      refine ⟨call, start, rest, hcall, ?_, ?_⟩
      · rw [hcreated, hcalled]
        exact List.take_of_length_le (List.getElem?_eq_none_iff.mp hwanted)
      · rw [hfinished, hcreated]
        exact List.Perm.refl _
  | @finished futures k future hfuture =>
      rcases h with ⟨call, start, rest, hcall, hcalled, hperm⟩
      refine ⟨call, start, rest ++ [LiveEntry.finished i future], hcall.append (by simp),
        ?_, ?_⟩
      · have hnone : createdBy i [LiveEntry.finished i future] = [] := rfl
        rw [createdBy_append, hnone, List.append_nil]
        exact hcalled
      · have hlt : k < futures.length := (List.getElem?_eq_some_iff.mp hfuture).1
        have hget : futures[k] = future := (List.getElem?_eq_some_iff.mp hfuture).2
        have herase : (future :: futures.eraseIdx k).Perm futures := by
          rw [← hget]
          exact List.getElem_cons_eraseIdx_perm hlt
        rw [createdBy_append, finishedBy_append]
        have hnew : finishedBy i [LiveEntry.finished i future] = [future] := by
          simp [finishedBy, LiveEntry.finishedBy]
        have hnone : createdBy i [LiveEntry.finished i future] = [] := rfl
        rw [hnew, hnone, List.append_nil, List.append_assoc]
        exact (herase.append_left _).trans hperm
  | returned =>
      rcases h with ⟨call, start, rest, hcall, hcalled, hperm⟩
      rw [List.append_nil] at hperm
      have hsplit : shared.log ++ [LiveEntry.returned i] =
          start ++ (LiveEntry.called i call :: (rest ++ [LiveEntry.returned i])) := by
        rw [hcall.last.split, List.append_assoc, List.cons_append]
      show Settled i _
      rw [hsplit]
      exact hcall.settled hcalled hperm

theorem LiveStep.entries_follow
    (hstep : LiveStep handlers i shared phase readers entries phase')
    (hrepresents : shared.store.handlers.Represents (registrations shared.log))
    (hcontext : shared.context = contextsOf shared.log)
    (h : Describes handlers i shared.readers shared.log phase)
    (hlog : EachEntry (Follows handlers) shared.log) :
    EachEntry (Follows handlers) (shared.log ++ entries) := by
  cases hstep with
  | called call => exact eachEntry_append_singleton.mpr ⟨hlog, h.finished⟩
  | extracted hhandler hnext =>
      rw [List.append_nil]
      exact hlog
  | @created call futures args handle handlerFn future hhandler hnext =>
      rcases h with ⟨start, rest, hcall, hreader, hsame, hcreated, hfinished, hcalled, hargs⟩
      have hwanted := wanted_of_handlers hrepresents hhandler
      rw [hsame] at hwanted
      refine eachEntry_append_singleton.mpr ⟨hlog, call, start, rest, hcall.last, ?_, ?_⟩
      · rw [hcreated]
        exact hwanted
      · rw [hwanted] at hargs
        exact nextFuture_inr hnext (sampled_of_call hcontext hcall _) hargs
  | collected hhandler =>
      rw [List.append_nil]
      exact hlog
  | @finished futures k future hfuture =>
      rcases h with ⟨call, start, rest, hcall, hcalled, hperm⟩
      refine eachEntry_append_singleton.mpr ⟨hlog, ?_⟩
      show (future :: finishedBy i shared.log).Subperm (createdBy i shared.log)
      have hmem : future ∈ futures := List.mem_of_getElem? hfuture
      have hone : (finishedBy i rest ++ [future]).Subperm (createdBy i rest) :=
        ((List.singleton_sublist.mpr hmem).append_left _).subperm.trans hperm.subperm
      have hboth := hcall.earlier.finished.subperm.append hone
      rw [← hcall.created_eq, ← List.append_assoc, ← hcall.finished_eq] at hboth
      exact (List.perm_append_singleton future _).symm.subperm.trans hboth
  | returned =>
      rcases h with ⟨call, start, rest, hcall, hcalled, hperm⟩
      rw [List.append_nil] at hperm
      exact eachEntry_append_singleton.mpr
        ⟨hlog, call, start, rest, hcall.last, hcalled, hperm⟩

section ClientStep

variable {store : EventHandlerStore Fn} {context : ContextMap Value}
variable {adding : List (Registration Fn)} {entry : LiveEntry Fn Ev Value}

theorem ClientStep.caller (hstep : ClientStep shared store context adding entry) :
    entry.caller = none := by
  cases hstep <;> rfl

theorem ClientStep.represents (hstep : ClientStep shared store context adding entry)
    (h : shared.store.handlers.Represents (registrations shared.log)) :
    store.handlers.Represents (registrations (shared.log ++ [entry])) := by
  rw [registrations_append_singleton]
  cases hstep with
  | fetchAdd evKind evType handler roomId => exact h
  | addHandler hreaders hadding => exact EventHandlerMaps.represents_add h _ _
  | removeHandler handle hreaders => exact EventHandlerMaps.represents_remove h handle
  | addContext t value => exact h

theorem ClientStep.contexts (hstep : ClientStep shared store context adding entry)
    (h : shared.context = contextsOf shared.log) :
    context = contextsOf (shared.log ++ [entry]) := by
  funext t
  rw [contextsOf_append_singleton, ← h]
  cases hstep with
  | addContext t' value =>
      by_cases ht : t' = t
      · subst ht
        simp [LiveEntry.contextValue]
      · simp [LiveEntry.contextValue, ht, Ne.symm ht]
  | _ => rfl

theorem ClientStep.registrations_eq (hstep : ClientStep shared store context adding entry)
    (hreader : i ∈ shared.readers) :
    registrations (shared.log ++ [entry]) = registrations shared.log := by
  rw [registrations_append_singleton]
  cases hstep with
  | fetchAdd evKind evType handler roomId => rfl
  | addHandler hreaders hadding =>
      rw [hreaders] at hreader
      cases hreader
  | removeHandler handle hreaders =>
      rw [hreaders] at hreader
      cases hreader
  | addContext t value => rfl

theorem ClientStep.follows (hstep : ClientStep shared store context adding entry)
    (before : List (LiveEntry Fn Ev Value)) : Follows handlers before entry := by
  cases hstep <;> exact True.intro

end ClientStep

/-!
# Runs
-/

theorem liveInvariant_init :
    LiveInvariant handlers ((liveDispatch handlers).system.init : LiveWorld Fn Ev Value) where
  represents := EventHandlerMaps.represents_empty
  contexts := rfl
  entries := EachEntry.nil
  phases := fun _ => ⟨List.Perm.refl _, rfl⟩

theorem liveInvariant_step {w w' : LiveWorld Fn Ev Value}
    {e : Event Nat (ClientOp Fn Value) LiveAction} (h : LiveInvariant handlers w)
    (hstep : (liveDispatch handlers).worldStep w e = some w') :
    LiveInvariant handlers w' := by
  cases e with
  | environment op =>
      rcases worldStep_environment_eq_some.mp hstep with ⟨shared, hop, rfl⟩
      rcases clientOp_of_eq_some hop with ⟨entry, hreaders, hlog, hop⟩
      constructor
      · rw [hlog]
        exact hop.represents h.represents
      · rw [hlog]
        exact hop.contexts h.contexts
      · rw [hlog]
        exact eachEntry_append_singleton.mpr ⟨h.entries, hop.follows _⟩
      · intro i
        rw [hlog, hreaders]
        apply (h.phases i).foreign
        · intro other hmem
          rw [List.mem_singleton.mp hmem, hop.caller]
          simp
        · exact hop.registrations_eq
        · exact id
  | component i a =>
      rcases worldStep_component_eq_some.mp hstep with ⟨shared, phase, hlocal, rfl⟩
      rcases callEventHandlers_of_eq_some hlocal with ⟨entries, hshared, hcall⟩
      have hcallers := hcall.caller
      have hcaller : forall entry, entry ∈ entries -> entry.caller ≠ none := by
        intro entry hmem
        simp [hcallers entry hmem]
      have hregistrations : registrations (w.shared.log ++ entries) =
          registrations w.shared.log := registrations_append_of_caller hcaller
      have hcontexts : contextsOf (w.shared.log ++ entries) = contextsOf w.shared.log :=
        contextsOf_append_of_caller hcaller
      rw [hshared]
      constructor
      · show w.shared.store.handlers.Represents (registrations (w.shared.log ++ entries))
        rw [hregistrations]
        exact h.represents
      · show w.shared.context = contextsOf (w.shared.log ++ entries)
        rw [hcontexts]
        exact h.contexts
      · exact hcall.entries_follow h.represents h.contexts (h.phases i) h.entries
      · intro j
        show Describes handlers j shared.readers (w.shared.log ++ entries)
          (Function.update w.memory i phase j)
        by_cases hj : j = i
        · subst hj
          rw [Function.update_self]
          exact hcall.describes h.represents h.contexts (h.phases j)
        · rw [Function.update_of_ne hj]
          apply (h.phases j).foreign
          · intro entry hmem
            rw [hcallers entry hmem]
            simp [Ne.symm hj]
          · exact fun _ => hregistrations
          · intro hreader
            exact hcall.keeps_reader hj hreader

theorem liveInvariant_reachable {w : LiveWorld Fn Ev Value}
    (hw : (liveDispatch handlers).system.Reachable w) : LiveInvariant handlers w :=
  TransitionSystem.invariant_reachable liveInvariant_init
    (fun _ _ _ h hstep => liveInvariant_step h hstep) hw

/-- In every run the log is as `Follows` says: a call runs the handlers that want its event
where it begins, each once, with contexts of a moment of the call. -/
theorem calls_follow_the_registry {w : LiveWorld Fn Ev Value}
    (hw : (liveDispatch handlers).system.Reachable w) :
    EachEntry (Follows handlers) w.shared.log :=
  (liveInvariant_reachable hw).entries

end Invariant

theorem trace_callEventHandlers {client : GooseMatrixClient Fn} {hs : List (Registration Fn)}
    (hrepresents : client.eventHandlers.handlers.Represents hs) (call : Call) :
    (client.callEventHandlers call.room call.raw call.eventKind call.eventType
        call.encryptionInfo call.pushActions).trace =
      (call.wanted hs).map fun (handlerFn, data) =>
        Effect.callEventHandler handlerFn data := by
  rw [wanted_eq_map_handlers hrepresents, List.map_map]
  rfl

/-- A call that has returned has made the calls of the model in which the handlers do not
change, for the handlers where it began. -/
theorem returned_refines_dispatch [DecidableEq T] {w : LiveWorld Fn Ev Value}
    (hw : (liveDispatch handlers).system.Reachable w)
    {before after : List (LiveEntry Fn Ev Value)}
    (hsplit : w.shared.log = before ++ LiveEntry.returned i :: after) :
    exists call start rest, LastCall i before call start rest ∧
      forall client : GooseMatrixClient Fn,
        client.eventHandlers.handlers.Represents (registrations start) ->
        (client.callEventHandlers call.room call.raw call.eventKind call.eventType
            call.encryptionInfo call.pushActions).trace =
          (createdBy i rest).map fun future =>
            Effect.callEventHandler future.handlerFn future.data := by
  have hfollows := (liveInvariant_reachable hw).entries before _ after hsplit
  rcases hfollows with ⟨call, start, rest, hlast, hcreated, _⟩
  refine ⟨call, start, rest, hlast, ?_⟩
  intro client hrepresents
  rw [trace_callEventHandlers hrepresents, ← hcreated, List.map_map]
  rfl

/-!
# A handler with a context

The context is replaced while the handler runs, so its second call gets another value.
-/

section Replaced

def memberArgs (_ : Unit) : HandlerArgs Unit Json where
  deserialize := some
  context := [ContextArg.eventHandlerHandle, ContextArg.ctx ()]

def memberCall : Call where
  room := some "!room"
  raw := Json.null
  eventKind := HandlerKind.state
  eventType := "m.room.member"
  encryptionInfo := none
  pushActions := []

abbrev replacedSystem : TransitionSystem (LiveWorld Unit Json (fun _ : Unit => Nat))
    (Event Nat (ClientOp Unit (fun _ : Unit => Nat)) LiveAction) :=
  (liveDispatch memberArgs).system

def callOnce (between : List (Event Nat (ClientOp Unit (fun _ : Unit => Nat)) LiveAction)) :
    List (Event Nat (ClientOp Unit (fun _ : Unit => Nat)) LiveAction) :=
  ([LiveAction.call memberCall, LiveAction.collect, LiveAction.collect, LiveAction.collect,
      LiveAction.collect].map fun a => Event.component 0 a) ++ between ++
    [LiveAction.finish 0, LiveAction.return].map fun a => Event.component 0 a

def replacedEvents : List (Event Nat (ClientOp Unit (fun _ : Unit => Nat)) LiveAction) :=
  [Event.environment
      (ClientOp.fetchAdd HandlerKind.state (some "m.room.member") () (some "!room")),
    Event.environment (ClientOp.addHandler 0),
    Event.environment (ClientOp.addContext () 1)] ++
    callOnce [Event.environment (ClientOp.addContext () 2)] ++ callOnce []

theorem calls_follow_the_registry_replaced :
    exists w, replacedSystem.run replacedEvents = some w ∧
      (createdBy 0 w.shared.log).map CreatedFuture.future =
        [1, 2].map (fun n => HandlerFuture.handleEvent Json.null
          [ContextValue.eventHandlerHandle
              ⟨HandlerKind.state, some "m.room.member", some "!room", 0⟩,
            ContextValue.ctx () n]) ∧
      EachEntry (Follows memberArgs) w.shared.log := by
  have hrun : exists w, replacedSystem.run replacedEvents = some w ∧
      (createdBy 0 w.shared.log).map CreatedFuture.future =
        [1, 2].map (fun n => HandlerFuture.handleEvent Json.null
          [ContextValue.eventHandlerHandle
              ⟨HandlerKind.state, some "m.room.member", some "!room", 0⟩,
            ContextValue.ctx () n]) := ⟨_, rfl, rfl⟩
  rcases hrun with ⟨w, hw, hfutures⟩
  exact ⟨w, hw, hfutures, calls_follow_the_registry ⟨replacedEvents, hw⟩⟩

end Replaced

end LiveContract

end EventHandler
end MatrixGoose
