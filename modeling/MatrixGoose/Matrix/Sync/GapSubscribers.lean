import MatrixGoose.Foundation.Components
import MatrixGoose.Foundation.Log
import MatrixGoose.Foundation.Observable
import MatrixGoose.Matrix.Sync.Response

/-!
# Subscribers of sync gaps

Any number of responses are processed while others subscribe to the gaps of rooms and wait
for them.  A room has an observable once somebody has subscribed to it; until then a gap is
told to nobody.  The observables are a parameter.
-/

namespace MatrixGoose

open Foundation
open Foundation.Components

namespace SyncGap

open EventHandler
open Sync

section Subscribers

variable {Fn Observable Subscriber : Type}

inductive Entry (Fn : Type)
  | subscribed (i : Nat) (roomId : RoomId)
  /-- Whether the subscriber was woken. -/
  | polled (i : Nat) (ready : Bool)
  | handleSyncResponse (i : Nat) (client : GooseMatrixClient Fn)
      (response : BaseSyncResponse)
  | effect (i : Nat) (effect : Effect Fn)

structure Shared (Fn Observable : Type) where
  /-- `sync_gap_broadcast_txs`. -/
  broadcastTxs : RoomId -> Option Observable
  log : List (Entry Fn)

def Shared.emit (shared : Shared Fn Observable) (entry : Entry Fn) : Shared Fn Observable :=
  { shared with log := shared.log ++ [entry] }

inductive Phase (Fn Subscriber : Type)
  | notStarted
  | subscriber (roomId : RoomId) (subscriber : Subscriber)
  /-- The effects of processing a response that are still to come. -/
  | handling (effects : List (Effect Fn))

inductive Action (Fn : Type)
  | subscribeSyncGap (roomId : RoomId)
  | poll
  | handleSyncResponse (client : GooseMatrixClient Fn) (response : BaseSyncResponse)
  | effect

section Steps

variable (O : Observables Observable Subscriber Unit)

def subscribeSyncGap (shared : Shared Fn Observable) (roomId : RoomId) :
    Shared Fn Observable × Subscriber :=
  let observable := (shared.broadcastTxs roomId).getD (O.new ())
  ({ shared with
      broadcastTxs := Function.update shared.broadcastTxs roomId (some observable) },
    O.subscribe observable)

def notifySyncGap (shared : Shared Fn Observable) (roomId : RoomId) : Shared Fn Observable :=
  match shared.broadcastTxs roomId with
  | some tx =>
      { shared with
        broadcastTxs := Function.update shared.broadcastTxs roomId (some (O.set tx ())) }
  | none => shared

def applyEffect (shared : Shared Fn Observable) : Effect Fn -> Shared Fn Observable
  | Effect.notifySyncGap roomId => notifySyncGap O shared roomId
  | _ => shared

def gapStep (i : Nat) (shared : Shared Fn Observable) (phase : Phase Fn Subscriber)
    (a : Action Fn) : Option (Shared Fn Observable × Phase Fn Subscriber) :=
  match a, phase with
  | Action.subscribeSyncGap roomId, Phase.notStarted =>
      let (shared, subscriber) := subscribeSyncGap O shared roomId
      some (shared.emit (Entry.subscribed i roomId), Phase.subscriber roomId subscriber)
  | Action.poll, Phase.subscriber roomId subscriber =>
      (shared.broadcastTxs roomId).map fun tx =>
        let (value, subscriber) := O.poll tx subscriber
        (shared.emit (Entry.polled i value.isSome), Phase.subscriber roomId subscriber)
  | Action.handleSyncResponse client response, Phase.notStarted =>
      some (shared.emit (Entry.handleSyncResponse i client response),
        Phase.handling (handleSyncResponse client response).trace)
  | Action.effect, Phase.handling (effect :: rest) =>
      some ((applyEffect O shared effect).emit (Entry.effect i effect), Phase.handling rest)
  | _, _ => none

def gaps (Fn : Type) :
    Components Nat (Shared Fn Observable) (Phase Fn Subscriber) Empty (Action Fn) where
  initShared := { broadcastTxs := fun _ => none, log := [] }
  initMemory := fun _ => Phase.notStarted
  environment := fun _ => Empty.elim
  step := gapStep O

end Steps

abbrev GapWorld (Fn Observable Subscriber : Type) :=
  World Nat (Shared Fn Observable) (Phase Fn Subscriber)

/-!
# What should be seen
-/

def IsGap (roomId : RoomId) (entry : Entry Fn) : Prop :=
  exists j, entry = Entry.effect j (Effect.notifySyncGap roomId)

def Observes (i : Nat) (entry : Entry Fn) : Prop :=
  (exists roomId, entry = Entry.subscribed i roomId) ∨ entry = Entry.polled i true

abbrev GapSince (i : Nat) (roomId : RoomId) (log : List (Entry Fn)) : Prop :=
  Since (IsGap roomId) (Observes i) log

def effectOf (i : Nat) : Entry Fn -> Option (Effect Fn)
  | Entry.effect j effect => if j = i then some effect else none
  | _ => none

def effectsOf (i : Nat) (log : List (Entry Fn)) : List (Effect Fn) :=
  log.filterMap (effectOf i)

/-- A poll wakes a subscriber exactly if there is a gap to see, and what happens is what
processing a response does next. -/
def EntryRight (before : List (Entry Fn)) : Entry Fn -> Prop
  | Entry.polled i ready => exists roomId, Entry.subscribed i roomId ∈ before ∧
      (ready = true <-> GapSince i roomId before)
  | Entry.effect i effect => exists client response,
      Entry.handleSyncResponse i client response ∈ before ∧
        effectsOf i before ++ [effect] <+: (handleSyncResponse client response).trace
  | _ => True

structure GapsSeen (w : GapWorld Fn Observable Subscriber) : Prop where
  entries : EachEntry EntryRight w.shared.log
  /-- A response that is done has had all its effects. -/
  finished : forall i, w.memory i = Phase.handling [] -> exists client response,
    Entry.handleSyncResponse i client response ∈ w.shared.log ∧
      effectsOf i w.shared.log = (handleSyncResponse client response).trace

/-!
# What a step can do
-/

inductive GapStep (O : Observables Observable Subscriber Unit) (i : Nat)
    (shared : Shared Fn Observable) :
    Phase Fn Subscriber -> Shared Fn Observable -> Entry Fn -> Phase Fn Subscriber -> Prop
  | subscribed (roomId : RoomId) :
      GapStep O i shared Phase.notStarted (subscribeSyncGap O shared roomId).1
        (Entry.subscribed i roomId)
        (Phase.subscriber roomId (subscribeSyncGap O shared roomId).2)
  | polled {roomId : RoomId} {subscriber : Subscriber} {tx : Observable}
      (htx : shared.broadcastTxs roomId = some tx) :
      GapStep O i shared (Phase.subscriber roomId subscriber) shared
        (Entry.polled i (O.poll tx subscriber).1.isSome)
        (Phase.subscriber roomId (O.poll tx subscriber).2)
  | handling (client : GooseMatrixClient Fn) (response : BaseSyncResponse) :
      GapStep O i shared Phase.notStarted shared (Entry.handleSyncResponse i client response)
        (Phase.handling (handleSyncResponse client response).trace)
  | effect (effect : Effect Fn) (rest : List (Effect Fn)) :
      GapStep O i shared (Phase.handling (effect :: rest)) (applyEffect O shared effect)
        (Entry.effect i effect) (Phase.handling rest)

variable {O : Observables Observable Subscriber Unit}
variable {i : Nat} {shared shared' : Shared Fn Observable}
variable {phase phase' : Phase Fn Subscriber} {a : Action Fn}
variable {entry : Entry Fn}

theorem gapStep_of_eq_some (hstep : gapStep O i shared phase a = some (shared', phase')) :
    exists middle entry, shared' = middle.emit entry ∧
      GapStep O i shared phase middle entry phase' := by
  cases a with
  | subscribeSyncGap roomId =>
      cases phase <;> simp only [gapStep, reduceCtorEq] at hstep
      cases hstep
      exact ⟨_, _, rfl, GapStep.subscribed roomId⟩
  | poll =>
      cases phase <;> simp only [gapStep, reduceCtorEq] at hstep
      rcases Option.map_eq_some_iff.mp hstep with ⟨tx, htx, heq⟩
      cases heq
      exact ⟨_, _, rfl, GapStep.polled htx⟩
  | handleSyncResponse client response =>
      cases phase <;> simp only [gapStep, reduceCtorEq] at hstep
      cases hstep
      exact ⟨_, _, rfl, GapStep.handling client response⟩
  | effect =>
      cases phase with
      | handling effects =>
          cases effects with
          | nil => simp only [gapStep, reduceCtorEq] at hstep
          | cons effect rest =>
              cases hstep
              exact ⟨_, _, rfl, GapStep.effect effect rest⟩
      | _ => simp only [gapStep, reduceCtorEq] at hstep

/-!
# What a step does to the others
-/

theorem log_applyEffect (shared : Shared Fn Observable) (effect : Effect Fn) :
    (applyEffect O shared effect).log = shared.log := by
  cases effect with
  | notifySyncGap roomId =>
      show (notifySyncGap O shared roomId).log = shared.log
      unfold notifySyncGap
      split <;> rfl
  | _ => rfl

theorem GapStep.log_eq (hstep : GapStep O i shared phase shared' entry phase') :
    shared'.log = shared.log := by
  cases hstep with
  | effect effect rest => exact log_applyEffect shared effect
  | _ => rfl

theorem GapStep.of_ne (hstep : GapStep O i shared phase shared' entry phase') {j : Nat}
    (hne : j ≠ i) :
    (forall roomId, entry ≠ Entry.subscribed j roomId) ∧ ¬ Observes j entry ∧
      effectOf j entry = none := by
  unfold Observes
  cases hstep <;> simp [effectOf, hne.symm]

theorem isGap_effect_iff (roomId other : RoomId) :
    IsGap roomId (Entry.effect i (Effect.notifySyncGap other) : Entry Fn) <->
      other = roomId := by
  constructor
  · intro h
    rcases h with ⟨_, heq⟩
    cases heq
    rfl
  · intro h
    exact ⟨i, by rw [h]⟩

theorem GapStep.observable (hstep : GapStep O i shared phase shared' entry phase')
    {roomId : RoomId} {tx : Observable} (htx : shared.broadcastTxs roomId = some tx) :
    (¬ IsGap roomId entry ∧ shared'.broadcastTxs roomId = some tx) ∨
      (IsGap roomId entry ∧ shared'.broadcastTxs roomId = some (O.set tx ())) := by
  cases hstep with
  | subscribed other =>
      refine Or.inl ⟨(fun h => nomatch h), ?_⟩
      show Function.update shared.broadcastTxs other _ roomId = some tx
      by_cases hroom : roomId = other
      · subst hroom
        rw [Function.update_self, htx]
        rfl
      · rw [Function.update_of_ne hroom, htx]
  | polled _ => exact Or.inl ⟨(fun h => nomatch h), htx⟩
  | handling client response => exact Or.inl ⟨(fun h => nomatch h), htx⟩
  | effect effect rest =>
      cases effect with
      | notifySyncGap other =>
          rw [isGap_effect_iff]
          show (_ ∧ (notifySyncGap O shared other).broadcastTxs roomId = _) ∨
            (_ ∧ (notifySyncGap O shared other).broadcastTxs roomId = _)
          by_cases hroom : other = roomId
          · subst hroom
            refine Or.inr ⟨rfl, ?_⟩
            rw [notifySyncGap, htx]
            exact Function.update_self ..
          · refine Or.inl ⟨hroom, ?_⟩
            unfold notifySyncGap
            split
            · exact (Function.update_of_ne (Ne.symm hroom) _ _).trans htx
            · exact htx
      | callEventHandler handlerFn data => exact Or.inl ⟨(fun h => nomatch h), htx⟩
      | callNotificationHandler handlerFn notification room =>
          exact Or.inl ⟨(fun h => nomatch h), htx⟩

/-!
# Runs
-/

def Kept (O : Observables Observable Subscriber Unit) (i : Nat)
    (shared : Shared Fn Observable) : Phase Fn Subscriber -> Prop
  | Phase.notStarted => (forall roomId, Entry.subscribed i roomId ∉ shared.log) ∧
      effectsOf i shared.log = []
  | Phase.subscriber roomId subscriber => Entry.subscribed i roomId ∈ shared.log ∧
      exists tx, shared.broadcastTxs roomId = some tx ∧
        O.Follows tx subscriber (GapSince i roomId shared.log)
  | Phase.handling effects => exists client response,
      Entry.handleSyncResponse i client response ∈ shared.log ∧
        effectsOf i shared.log ++ effects = (handleSyncResponse client response).trace

theorem effectsOf_append_singleton (i : Nat) (log : List (Entry Fn)) (entry : Entry Fn) :
    effectsOf i (log ++ [entry]) = effectsOf i log ++ (effectOf i entry).toList := by
  unfold effectsOf
  rw [List.filterMap_append]
  cases hentry : effectOf i entry <;> simp [hentry]

theorem GapStep.kept_of_ne (hstep : GapStep O i shared phase shared' entry phase') {j : Nat}
    (hne : j ≠ i) {other : Phase Fn Subscriber} (h : Kept O j shared other) :
    Kept O j (shared'.emit entry) other := by
  rcases hstep.of_ne hne with ⟨hsubscribed, hobserves, heffect⟩
  have hlog : (shared'.emit entry).log = shared.log ++ [entry] := by
    show shared'.log ++ [entry] = _
    rw [hstep.log_eq]
  have heffects : effectsOf j (shared'.emit entry).log = effectsOf j shared.log := by
    rw [hlog, effectsOf_append_singleton, heffect]
    exact List.append_nil _
  have hmem : forall old, old ∈ shared.log -> old ∈ (shared'.emit entry).log := by
    intro old hold
    rw [hlog]
    exact List.mem_append_left _ hold
  cases other with
  | notStarted =>
      refine ⟨?_, heffects.trans h.2⟩
      intro roomId hroom
      rw [hlog] at hroom
      rcases List.mem_append.mp hroom with hold | hnew
      · exact h.1 roomId hold
      · exact hsubscribed roomId (List.mem_singleton.mp hnew).symm
  | handling effects =>
      rcases h with ⟨client, response, hhandling, htrace⟩
      exact ⟨client, response, hmem _ hhandling, by rw [heffects]; exact htrace⟩
  | subscriber roomId subscriber =>
      rcases h with ⟨hsub, tx, htx, hfollows⟩
      refine ⟨hmem _ hsub, ?_⟩
      have hsince : GapSince j roomId (shared'.emit entry).log <->
          IsGap roomId entry ∨ GapSince j roomId shared.log := by
        rw [hlog, GapSince, since_append_singleton, and_iff_right hobserves]
      rcases hstep.observable htx with ⟨hgap, htx'⟩ | ⟨hgap, htx'⟩
      · refine ⟨tx, htx', hfollows.congr ?_⟩
        rw [hsince, or_iff_right hgap]
      · exact ⟨O.set tx (), htx', hfollows.set () (hsince.mpr (Or.inl hgap))⟩

theorem GapStep.kept (hstep : GapStep O i shared phase shared' entry phase')
    (h : Kept O i shared phase) :
    EntryRight shared.log entry ∧ Kept O i (shared'.emit entry) phase' := by
  have hlog : (shared'.emit entry).log = shared.log ++ [entry] := by
    show shared'.log ++ [entry] = _
    rw [hstep.log_eq]
  cases hstep with
  | subscribed roomId =>
      refine ⟨True.intro, by rw [hlog]; simp, _, Function.update_self .., ?_⟩
      apply Observables.follows_subscribe
      rw [hlog, GapSince, since_append_singleton]
      rintro (hgap | ⟨hobserves, _⟩)
      · exact nomatch hgap
      · exact hobserves (Or.inl ⟨roomId, rfl⟩)
  | polled htx =>
      next roomId subscriber tx =>
      rcases h with ⟨hsub, tx', htx', hfollows⟩
      cases htx.symm.trans htx'
      refine ⟨⟨roomId, hsub, hfollows.isSome_poll⟩, by rw [hlog]; simp [hsub], tx, htx, ?_⟩
      apply hfollows.poll
      rw [hlog, GapSince, since_append_singleton]
      rintro (hgap | ⟨hobserves, hsince⟩)
      · exact nomatch hgap
      · rw [hfollows.isSome_poll.mpr hsince] at hobserves
        exact hobserves (Or.inr rfl)
  | handling client response =>
      refine ⟨True.intro, client, response, by rw [hlog]; simp, ?_⟩
      rw [hlog, effectsOf_append_singleton, h.2]
      rfl
  | effect effect rest =>
      rcases h with ⟨client, response, hhandling, htrace⟩
      have hnext : effectsOf i shared.log ++ [effect] ++ rest =
          (handleSyncResponse client response).trace := by
        rw [List.append_assoc]
        exact htrace
      refine ⟨⟨client, response, hhandling, rest, hnext⟩, client, response, ?_, ?_⟩
      · rw [hlog]
        exact List.mem_append_left _ hhandling
      · rw [hlog, effectsOf_append_singleton, effectOf, if_pos rfl]
        exact hnext

variable {w w' : GapWorld Fn Observable Subscriber}

/-- Whoever subscribes to the gaps of a room is woken for each of them, and for nothing
else, in whatever order responses are processed and subscribers wait. -/
theorem gaps_seen {events : List (Event Nat Empty (Action Fn))}
    (hrun : (gaps O Fn).system.run events = some w) : GapsSeen w := by
  have hinv : EachEntry EntryRight w.shared.log ∧ Everywhere (Kept O) w := by
    refine @TransitionSystem.invariant_runFrom _ _ (gaps O Fn).system
      (fun w => EachEntry EntryRight w.shared.log ∧ Everywhere (Kept O) w) ?_ _ _ _ ?_ hrun
    · intro w e w' hw hstep
      cases e with
      | environment e => exact e.elim
      | component i a =>
          rcases gapStep_of_eq_some (step_of_worldStep hstep) with
            ⟨middle, entry, hshared, hgap⟩
          have hown := hgap.kept (hw.2 i)
          constructor
          · rw [hshared]
            show EachEntry EntryRight (middle.log ++ [entry])
            rw [hgap.log_eq]
            exact eachEntry_append_singleton.mpr ⟨hw.1, hown.1⟩
          · refine everywhere_component hw.2 hstep ?_ ?_
            · intro shared memory hlocal hkept
              rcases gapStep_of_eq_some hlocal with ⟨middle, entry, rfl, hgap⟩
              exact (hgap.kept hkept).2
            · intro shared memory j hlocal hne hkept
              rcases gapStep_of_eq_some hlocal with ⟨middle, entry, rfl, hgap⟩
              exact hgap.kept_of_ne hne hkept
    · exact ⟨EachEntry.nil, fun i => ⟨nofun, rfl⟩⟩
  constructor
  · exact hinv.1
  · intro i hdone
    have hkept := hinv.2 i
    rw [hdone] at hkept
    rcases hkept with ⟨client, response, hhandling, htrace⟩
    rw [List.append_nil] at htrace
    exact ⟨client, response, hhandling, htrace⟩

end Subscribers

def limitedResponse : BaseSyncResponse :=
  let room : JoinedRoom :=
    { timeline := { limited := true, events := [] }
      state := [], accountData := [], ephemeral := [] }
  { BaseSyncResponse.empty with
    rooms := { join := [("!a", room), ("!b", room)], leave := [], invite := [] } }

def plainClient : GooseMatrixClient Nat where
  eventHandlers := EventHandlerStore.empty
  notificationHandlers := []
  knowsRoom := fun _ => true

/-- Two subscribers of one room, the second of which comes too late. -/
def lateSubscriber : List (Event Nat Empty (Action Nat)) :=
  [Event.component 0 (Action.subscribeSyncGap "!a"),
    Event.component 1 (Action.handleSyncResponse plainClient limitedResponse),
    Event.component 1 Action.effect, Event.component 2 (Action.subscribeSyncGap "!a"),
    Event.component 1 Action.effect, Event.component 0 Action.poll,
    Event.component 2 Action.poll, Event.component 0 Action.poll]

def versionGaps : Components Nat (Shared Nat (Unit × Nat)) (Phase Nat Nat) Empty (Action Nat) :=
  gaps (Observables.versions Unit) Nat

theorem gaps_seen_late_subscriber :
    exists w, versionGaps.system.run lateSubscriber = some w ∧ GapsSeen w ∧
      w.shared.log.drop 5 =
        [Entry.polled 0 true, Entry.polled 2 false, Entry.polled 0 false] := by
  have hrun : exists w, versionGaps.system.run lateSubscriber = some w ∧
      w.shared.log.drop 5 =
        [Entry.polled 0 true, Entry.polled 2 false, Entry.polled 0 false] :=
    ⟨_, rfl, rfl⟩
  rcases hrun with ⟨w, hw, hlog⟩
  exact ⟨w, hw, gaps_seen hw, hlog⟩

end SyncGap
end MatrixGoose
