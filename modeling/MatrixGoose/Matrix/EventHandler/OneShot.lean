import Mathlib.Data.List.Nodup
import MatrixGoose.Matrix.EventHandler.LiveContract

/-!
# Handlers that remove themselves

The id of a handler is drawn once and the handler is added once, so what was removed does
not come back.  A handler that is removed by the time it is done runs at most once in every
task that dispatches events.
-/

namespace MatrixGoose

open Foundation
open Foundation.Components

namespace EventHandler

section OneShot

variable {Fn T Ev : Type} {Value : T -> Type}
variable {log entries : List (LiveEntry Fn Ev Value)}

/-!
# Ids
-/

def Registration.id (h : Registration Fn) : Nat :=
  h.handle.handlerId

def LiveEntry.drawnId : LiveEntry Fn Ev Value -> Option Nat
  | LiveEntry.fetchAdd handle => some handle.handlerId
  | _ => none

def LiveEntry.addedId : LiveEntry Fn Ev Value -> Option Nat
  | LiveEntry.addHandler h => some h.id
  | _ => none

def drawnIds (log : List (LiveEntry Fn Ev Value)) : List Nat :=
  log.filterMap LiveEntry.drawnId

def addedIds (log : List (LiveEntry Fn Ev Value)) : List Nat :=
  log.filterMap LiveEntry.addedId

def registeredIds (log : List (LiveEntry Fn Ev Value)) : List Nat :=
  (registrations log).map Registration.id

theorem drawnIds_append : drawnIds (log ++ entries) = drawnIds log ++ drawnIds entries :=
  List.filterMap_append

theorem addedIds_append : addedIds (log ++ entries) = addedIds log ++ addedIds entries :=
  List.filterMap_append

theorem registeredIds_append {n : Nat} (h : n ∈ registeredIds (log ++ entries)) :
    n ∈ registeredIds log ∨ n ∈ addedIds entries := by
  induction entries using List.reverseRecOn with
  | nil =>
      rw [List.append_nil] at h
      exact Or.inl h
  | append_singleton rest entry ih =>
      rw [← List.append_assoc] at h
      unfold registeredIds at h
      rw [registrations_append_singleton] at h
      rw [addedIds_append]
      have hrest : n ∈ registeredIds (log ++ rest) ->
          n ∈ registeredIds log ∨ n ∈ addedIds rest ++ addedIds [entry] :=
        fun hold => (ih hold).imp id (List.mem_append_left _)
      cases entry with
      | addHandler added =>
          rcases List.mem_map.mp h with ⟨other, hmem, rfl⟩
          rcases List.mem_append.mp hmem with hold | hnew
          · exact hrest (List.mem_map_of_mem hold)
          · rw [List.mem_singleton.mp hnew]
            exact Or.inr (List.mem_append_right _ (List.mem_singleton_self _))
      | removeHandler handle =>
          rcases List.mem_map.mp h with ⟨other, hmem, rfl⟩
          exact hrest (List.mem_map_of_mem (List.mem_filter.mp hmem).1)
      | _ => exact hrest h

theorem registeredIds_sublist (log : List (LiveEntry Fn Ev Value)) :
    (registeredIds log).Sublist (addedIds log) := by
  induction log using List.reverseRecOn with
  | nil => exact List.Sublist.refl _
  | append_singleton log entry ih =>
      rw [addedIds_append]
      unfold registeredIds
      rw [registrations_append_singleton]
      have hrest : (registeredIds log).Sublist (addedIds log ++ addedIds [entry]) :=
        ih.trans (List.sublist_append_left _ _)
      cases entry with
      | addHandler added =>
          show (((registrations log) ++ [added]).map Registration.id).Sublist _
          rw [List.map_append]
          exact ih.append_right _
      | removeHandler handle => exact (List.filter_sublist.map _).trans hrest
      | _ => exact hrest

/-- A handler that was registered once and is not registered any more stays away. -/
theorem not_registered_again {before after : List (LiveEntry Fn Ev Value)} {n : Nat}
    (hnodup : (addedIds (before ++ after)).Nodup) (hadded : n ∈ addedIds before)
    (hgone : n ∉ registeredIds before) : n ∉ registeredIds (before ++ after) := by
  intro hagain
  rw [addedIds_append, List.nodup_append'] at hnodup
  rcases registeredIds_append hagain with hthere | hafter
  · exact hgone hthere
  · exact hnodup.2.2 hadded hafter

/-!
# Drawing ids
-/

/-- The ids were drawn one after the other, and each was added at most once. -/
structure IdsDrawn (shared : LiveShared Fn Ev Value) : Prop where
  counter : shared.store.counter = (drawnIds shared.log).length % counterBound
  drawn : drawnIds shared.log =
    (List.range (drawnIds shared.log).length).map fun n => n % counterBound
  added : (addedIds shared.log ++ shared.adding.map Registration.id).Perm
    (drawnIds shared.log)

theorem IdsDrawn.nodup {shared : LiveShared Fn Ev Value} (h : IdsDrawn shared)
    (hcount : (drawnIds shared.log).length <= counterBound) :
    (addedIds shared.log).Nodup := by
  have hdrawn : (drawnIds shared.log).Nodup := by
    rw [h.drawn]
    apply List.Nodup.map_on _ List.nodup_range
    intro a ha b hb hmod
    rw [Nat.mod_eq_of_lt (Nat.lt_of_lt_of_le (List.mem_range.mp ha) hcount),
      Nat.mod_eq_of_lt (Nat.lt_of_lt_of_le (List.mem_range.mp hb) hcount)] at hmod
    exact hmod
  exact (List.nodup_append'.mp (h.added.nodup_iff.mpr hdrawn)).1

theorem IdsDrawn.append {shared shared' : LiveShared Fn Ev Value} (h : IdsDrawn shared)
    (hlog : shared'.log = shared.log ++ entries)
    (hcounter : shared'.store.counter = shared.store.counter)
    (hdrawn : drawnIds entries = [])
    (hadded : (addedIds entries ++ shared'.adding.map Registration.id).Perm
      (shared.adding.map Registration.id)) :
    IdsDrawn shared' := by
  have hsame : drawnIds shared'.log = drawnIds shared.log := by
    rw [hlog, drawnIds_append, hdrawn, List.append_nil]
  constructor
  · rw [hcounter, hsame, h.counter]
  · rw [hsame]
    exact h.drawn
  · rw [hsame, hlog, addedIds_append, List.append_assoc]
    exact (hadded.append_left _).trans h.added

variable [DecidableEq T] {handlers : Fn -> HandlerArgs T Ev}

theorem idsDrawn_clientOp {shared shared' : LiveShared Fn Ev Value} {op : ClientOp Fn Value}
    (h : IdsDrawn shared) (hop : clientOp shared op = some shared') : IdsDrawn shared' := by
  rcases clientOp_of_eq_some hop with ⟨entry, hreaders, hlog, hstep⟩
  rcases shared' with ⟨store, context, adding, readers, log⟩
  simp only at hlog hstep
  subst hlog
  cases hstep with
  | fetchAdd evKind evType handler roomId =>
      have hdrawn : drawnIds (shared.log ++ [LiveEntry.fetchAdd
          { evKind, evType, roomId, handlerId := shared.store.counter }]) =
          drawnIds shared.log ++ [shared.store.counter] := by
        simp [drawnIds, LiveEntry.drawnId]
      constructor
      · show (shared.store.counter + 1) % counterBound = _
        rw [hdrawn, h.counter, Nat.mod_add_mod, List.length_append, List.length_singleton]
      · rw [hdrawn, List.length_append, List.length_singleton, List.range_succ,
          List.map_append, ← h.drawn, h.counter]
        rfl
      · rw [hdrawn, addedIds_append, List.map_append, ← List.append_assoc]
        have hnone : addedIds [(LiveEntry.fetchAdd
            { evKind, evType, roomId, handlerId := shared.store.counter } :
              LiveEntry Fn Ev Value)] = [] := rfl
        rw [hnone, List.append_nil]
        exact h.added.append_right _
  | @addHandler k added hreaders hadding =>
      have hlt : k < shared.adding.length := (List.getElem?_eq_some_iff.mp hadding).1
      have hget : shared.adding[k] = added := (List.getElem?_eq_some_iff.mp hadding).2
      have herase : (added :: shared.adding.eraseIdx k).Perm shared.adding := by
        rw [← hget]
        exact List.getElem_cons_eraseIdx_perm hlt
      exact h.append rfl rfl rfl (herase.map Registration.id)
  | removeHandler handle hreaders => exact h.append rfl rfl rfl (List.Perm.refl _)
  | addContext t value => exact h.append rfl rfl rfl (List.Perm.refl _)

theorem idsDrawn_reachable {w : LiveWorld Fn Ev Value}
    (hw : (liveDispatch handlers).system.Reachable w) : IdsDrawn w.shared := by
  refine TransitionSystem.invariant_reachable (P := fun w => IdsDrawn w.shared)
    ⟨rfl, rfl, List.Perm.refl _⟩ ?_ hw
  intro w e w' h hstep
  cases e with
  | environment op =>
      rcases worldStep_environment_eq_some.mp hstep with ⟨shared, hop, rfl⟩
      exact idsDrawn_clientOp h hop
  | component i a =>
      rcases worldStep_component_eq_some.mp hstep with ⟨shared, phase, hlocal, rfl⟩
      rcases callEventHandlers_of_eq_some hlocal with ⟨entries, hshared, hcall⟩
      rw [hshared]
      have hdrawn : drawnIds entries = [] := by
        rw [drawnIds, List.filterMap_eq_nil_iff]
        intro entry hmem
        have hcaller := hcall.caller entry hmem
        cases entry <;> first | rfl | cases hcaller
      have hadded : addedIds entries = [] := by
        rw [addedIds, List.filterMap_eq_nil_iff]
        intro entry hmem
        have hcaller := hcall.caller entry hmem
        cases entry <;> first | rfl | cases hcaller
      refine h.append rfl rfl hdrawn ?_
      rw [hadded]
      exact List.Perm.refl _

/-!
# At most once
-/

def CreatedFuture.runs (n : Nat) (future : CreatedFuture Fn Ev Value) : Bool :=
  match future.future with
  | HandlerFuture.handleEvent _ _ => future.data.handle.handlerId = n
  | _ => false

def LiveEntry.runsHandler (i n : Nat) : LiveEntry Fn Ev Value -> Bool
  | LiveEntry.created j future => j = i && future.runs n
  | _ => false

/-- When a run of the handler with id `n` is over, the handler is not registered. -/
def RemovedWhenDone (n : Nat) (before : List (LiveEntry Fn Ev Value)) :
    LiveEntry Fn Ev Value -> Prop
  | LiveEntry.finished _ future => future.runs n = true -> n ∉ registeredIds before
  | _ => True

omit [DecidableEq T] in
theorem runs_handlerId {n : Nat} {future : CreatedFuture Fn Ev Value}
    (hruns : future.runs n = true) : future.data.handle.handlerId = n := by
  unfold CreatedFuture.runs at hruns
  split at hruns
  · exact of_decide_eq_true hruns
  · cases hruns

omit [DecidableEq T] in
theorem LastCall.unique {i : Nat} {before : List (LiveEntry Fn Ev Value)} {call call' : Call}
    {start start' rest rest' : List (LiveEntry Fn Ev Value)}
    (h : LastCall i before call start rest) (h' : LastCall i before call' start' rest') :
    call' = call ∧ start' = start ∧ rest' = rest := by
  rcases List.append_eq_append_iff.mp (h.split.symm.trans h'.split) with
    ⟨gap, hstart, hgap⟩ | ⟨gap, hstart, hgap⟩
  · cases gap with
    | nil =>
        cases hgap
        rw [List.append_nil] at hstart
        exact ⟨rfl, hstart, rfl⟩
    | cons entry gap =>
        exact absurd (by rw [(List.cons.inj hgap).2]; simp) (h.not_called call')
  · cases gap with
    | nil =>
        cases hgap
        rw [List.append_nil] at hstart
        exact ⟨rfl, hstart.symm, rfl⟩
    | cons entry gap =>
        exact absurd (by rw [(List.cons.inj hgap).2]; simp) (h'.not_called call)

omit [DecidableEq T] in
theorem wanted_index_unique {call : Call} {hs : List (Registration Fn)}
    (hnodup : (hs.map Registration.id).Nodup) {a b : Nat}
    {first second : Fn × EventHandlerData} (ha : (call.wanted hs)[a]? = some first)
    (hb : (call.wanted hs)[b]? = some second)
    (hid : first.2.handle.handlerId = second.2.handle.handlerId) : a = b := by
  have hids : ((call.wanted hs).map fun entry => entry.2.handle.handlerId).Nodup := by
    unfold Call.wanted
    rw [List.map_map]
    exact Ledger.nodup_map_lookup_of_nodup hnodup _ _ _
  have hlt : a < ((call.wanted hs).map fun entry => entry.2.handle.handlerId).length := by
    rw [List.length_map]
    exact (List.getElem?_eq_some_iff.mp ha).1
  apply (List.getElem?_inj hlt hids).mp
  rw [List.getElem?_map, List.getElem?_map, ha, hb]
  exact congrArg some hid

omit [DecidableEq T] in
theorem registered_of_wanted {call : Call} {start : List (LiveEntry Fn Ev Value)} {k n : Nat}
    {future : CreatedFuture Fn Ev Value} (hruns : future.runs n = true)
    (hwanted : (call.wanted (registrations start))[k]? = some future.called) :
    n ∈ registeredIds start := by
  have hmem : future.called ∈ call.wanted (registrations start) :=
    List.mem_of_getElem? hwanted
  rcases List.mem_map.mp hmem with ⟨h, hlookup, hcalled⟩
  rcases mem_lookup.mp hlookup with ⟨hregistered, _⟩
  have hid : h.id = n := by
    rw [← runs_handlerId hruns]
    exact congrArg (fun entry => entry.2.handle.handlerId) hcalled
  rw [← hid]
  exact List.mem_map_of_mem hregistered

theorem not_created_in_call {i n : Nat} {call : Call}
    {before start rest : List (LiveEntry Fn Ev Value)} {future : CreatedFuture Fn Ev Value}
    (hfollows : EachEntry (Follows handlers) before)
    (hnodup : (addedIds start).Nodup) (hlast : LastCall i before call start rest)
    (hwanted : (call.wanted (registrations start))[(createdBy i rest).length]? =
      some future.called) (hruns : future.runs n = true)
    {other : CreatedFuture Fn Ev Value} (hother : other.runs n = true) :
    LiveEntry.created i other ∉ rest := by
  intro hmem
  rcases List.append_of_mem hmem with ⟨front, back, hsplit⟩
  have hbefore : before = (start ++ LiveEntry.called i call :: front) ++
      LiveEntry.created i other :: back := by
    rw [hlast.split, hsplit, List.append_assoc]
    rfl
  rcases hfollows _ _ _ hbefore with ⟨call', start', rest', hlast', hwanted', _⟩
  have hfront : LastCall i (start ++ LiveEntry.called i call :: front) call start front :=
    ⟨rfl, fun call'' hcalled => hlast.not_called call'' (by rw [hsplit]; simp [hcalled])⟩
  rcases hfront.unique hlast' with ⟨rfl, rfl, rfl⟩
  have hids : ((registrations start').map Registration.id).Nodup :=
    hnodup.sublist (registeredIds_sublist start')
  have hindex := wanted_index_unique hids hwanted' hwanted
    ((runs_handlerId hother).trans (runs_handlerId hruns).symm)
  have hlength : (createdBy i rest).length =
      (createdBy i rest').length + ((createdBy i back).length + 1) := by
    have hone : createdBy i (LiveEntry.created i other :: back) =
        other :: createdBy i back := by
      simp [createdBy, LiveEntry.createdBy]
    rw [hsplit, createdBy_append, hone, List.length_append, List.length_cons]
  omega

/-- A handler that ran in an earlier call of the task is not registered when the next call
begins. -/
theorem not_created_earlier {i n : Nat} {call : Call}
    {start rest : List (LiveEntry Fn Ev Value)}
    (hfollows : EachEntry (Follows handlers) (start ++ LiveEntry.called i call :: rest))
    (hremoved : EachEntry (RemovedWhenDone n) (start ++ LiveEntry.called i call :: rest))
    (hnodup : (addedIds start).Nodup) (hregistered : n ∈ registeredIds start)
    {other : CreatedFuture Fn Ev Value} (hother : other.runs n = true) :
    LiveEntry.created i other ∉ start := by
  intro hmem
  have hdone : (finishedBy i start).Perm (createdBy i start) := hfollows start _ rest rfl
  have hcreated : other ∈ createdBy i start :=
    List.mem_filterMap.mpr ⟨_, hmem, by simp [LiveEntry.createdBy]⟩
  rcases List.mem_filterMap.mp (hdone.mem_iff.mpr hcreated) with ⟨entry, hentry, hfinished⟩
  have heq : entry = LiveEntry.finished i other := by
    cases entry <;> simp_all [LiveEntry.finishedBy]
  subst heq
  rcases List.append_of_mem hentry with ⟨front, back, rfl⟩
  have hfollows' := hfollows.of_append
  -- The removal stands in front of this entry, the creation of the future too.
  have hgone : n ∉ registeredIds front := hremoved.of_append front _ back rfl hother
  have hsub : (other :: finishedBy i front).Subperm (createdBy i front) :=
    hfollows' front _ back rfl
  have hfront : other ∈ createdBy i front := hsub.subset List.mem_cons_self
  rcases List.mem_filterMap.mp hfront with ⟨entry', hentry', hcreated'⟩
  have heq' : entry' = LiveEntry.created i other := by
    cases entry' <;> simp_all [LiveEntry.createdBy]
  subst heq'
  rcases List.append_of_mem hentry' with ⟨front', back', rfl⟩
  rcases hfollows'.of_append front' _ back' rfl with
    ⟨call', start', rest', hlast, hwanted, _⟩
  have hadded : n ∈ addedIds (front' ++ LiveEntry.created i other :: back') := by
    rw [hlast.split, List.append_assoc, addedIds_append]
    apply List.mem_append_left
    exact (registeredIds_sublist start').subset (registered_of_wanted hother hwanted)
  exact not_registered_again hnodup hadded hgone hregistered

/-- A handler that is always removed by the time one of its runs is over is run at most
once by each task, as long as no id is drawn twice. -/
theorem runs_at_most_once {w : LiveWorld Fn Ev Value}
    (hw : (liveDispatch handlers).system.Reachable w)
    (hdrawn : (drawnIds w.shared.log).length <= counterBound) (n : Nat)
    (hremoved : EachEntry (RemovedWhenDone n) w.shared.log) (i : Nat) :
    w.shared.log.countP (LiveEntry.runsHandler i n) <= 1 := by
  have hfollows := (liveInvariant_reachable hw).entries
  have hnodup := (idsDrawn_reachable hw).nodup hdrawn
  apply EachEntry.countP_le_one
  intro before entry after hsplit hentry other hother
  cases entry <;> simp only [LiveEntry.runsHandler, Bool.false_eq_true] at hentry
  next j future =>
    rw [Bool.and_eq_true, decide_eq_true_eq] at hentry
    rcases hentry with ⟨rfl, hruns⟩
    rcases hfollows before _ after hsplit with ⟨call, start, rest, hlast, hwanted, _⟩
    rw [hsplit] at hfollows hremoved hnodup
    have hbefore := hfollows.of_append
    have hstart : (addedIds start).Nodup := by
      rw [hlast.split, List.append_assoc, addedIds_append, List.nodup_append'] at hnodup
      exact hnodup.1
    by_contra hrun
    rw [Bool.not_eq_false] at hrun
    cases other <;> simp only [LiveEntry.runsHandler, Bool.false_eq_true] at hrun
    next k earlier =>
      rw [Bool.and_eq_true, decide_eq_true_eq] at hrun
      rcases hrun with ⟨rfl, hearlier⟩
      have hremovedBefore := hremoved.of_append
      rw [hlast.split] at hother hremovedBefore
      rcases List.mem_append.mp hother with hmem | hmem
      · rw [hlast.split] at hbefore
        exact not_created_earlier hbefore hremovedBefore hstart
          (registered_of_wanted hruns hwanted) hearlier hmem
      · rcases List.mem_cons.mp hmem with hcalled | hmem
        · cases hcalled
        · exact not_created_in_call hbefore hstart hlast hwanted hruns hearlier hmem

end OneShot

/-!
# A handler that removes itself
-/

section Removed

def memberHandle : EventHandlerHandle where
  evKind := HandlerKind.state
  evType := some "m.room.member"
  roomId := some "!room"
  handlerId := 0

def removedEvents : List (Event Nat (ClientOp Unit (fun _ : Unit => Nat)) LiveAction) :=
  [Event.environment
      (ClientOp.fetchAdd HandlerKind.state (some "m.room.member") () (some "!room")),
    Event.environment (ClientOp.addHandler 0),
    Event.environment (ClientOp.addContext () 1)] ++
    callOnce [Event.environment (ClientOp.removeHandler memberHandle)] ++
    [LiveAction.call memberCall, LiveAction.collect, LiveAction.return].map
      fun a => Event.component 0 a

theorem runs_at_most_once_removed :
    exists w, replacedSystem.run removedEvents = some w ∧
      (createdBy 0 w.shared.log).length = 1 ∧
      w.shared.log.countP (LiveEntry.runsHandler 0 0) <= 1 := by
  have hrun : exists w front future back, replacedSystem.run removedEvents = some w ∧
      w.shared.log = (front ++ [LiveEntry.finished 0 future]) ++ back ∧
      registeredIds front = [] ∧ (createdBy 0 w.shared.log).length = 1 ∧
      (drawnIds w.shared.log).length = 1 ∧
      (forall entry, entry ∈ front ++ back -> forall before, RemovedWhenDone 0 before entry) :=
    ⟨_, [LiveEntry.fetchAdd memberHandle, LiveEntry.addHandler ⟨memberHandle, ()⟩,
        LiveEntry.addContext () 1, LiveEntry.called 0 memberCall,
        LiveEntry.created 0 ⟨(), memberCall.data memberHandle, HandlerFuture.handleEvent Json.null
          [ContextValue.eventHandlerHandle memberHandle, ContextValue.ctx () 1]⟩,
        LiveEntry.removeHandler memberHandle], _,
      [LiveEntry.returned 0, LiveEntry.called 0 memberCall, LiveEntry.returned 0],
      rfl, rfl, rfl, rfl, rfl, by simp [RemovedWhenDone]⟩
  rcases hrun with ⟨w, front, future, back, hw, hlog, hgone, hcreated, hdrawn, hothers⟩
  refine ⟨w, hw, hcreated, runs_at_most_once ⟨removedEvents, hw⟩ ?_ 0 ?_ 0⟩
  · rw [hdrawn]
    decide
  · rw [hlog]
    have hfront : EachEntry (RemovedWhenDone 0) ([] ++ front) :=
      EachEntry.nil.append_of_forall fun entry hmem =>
        hothers entry (List.mem_append_left _ hmem)
    apply EachEntry.append_of_forall
    · have hfinished : RemovedWhenDone 0 front (LiveEntry.finished 0 future) := by
        intro _
        rw [hgone]
        exact List.not_mem_nil
      exact eachEntry_append_singleton.mpr ⟨hfront, hfinished⟩
    · exact fun entry hmem => hothers entry (List.mem_append_right _ hmem)

end Removed

end EventHandler
end MatrixGoose
