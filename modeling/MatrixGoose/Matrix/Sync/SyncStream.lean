import MatrixGoose.Foundation.Generator
import MatrixGoose.Matrix.Sync.SyncForever

/-!
# Callbacks and the stream of syncs

The other ways of syncing forever: with a callback for the successful syncs, without a
callback, and as a stream whose items are the results of the syncs.
-/

namespace MatrixGoose

open Foundation

namespace Sync

variable {Filter Body Error : Type}

/-!
# Callbacks
-/

def syncWithCallback (syncToken : Option String) (settings : SyncSettings Filter)
    (callback : SyncResponse Body -> SyncProgram Filter Body Error LoopCtrl) (rounds : Nat) :
    SyncProgram Filter Body Error (Except Error Unit) :=
  syncWithResultCallback syncToken settings
    (fun result =>
      match result with
      | .error e => pure (.error e)
      | .ok response => do
          let ctrl ← callback response
          pure (.ok ctrl))
    rounds

def sync (syncToken : Option String) (settings : SyncSettings Filter) (rounds : Nat) :
    SyncProgram Filter Body Error (Except Error Unit) :=
  syncWithCallback syncToken settings (fun _ => pure LoopCtrl.continue) rounds

/-!
# The stream
-/

abbrev SyncItem (Body Error : Type) := Except Error (SyncResponse Body)

/-- Where the stream is when it is polled: at its start, or behind a `yield`. -/
abbrev SyncStream (Filter : Type) :=
  Program.GeneratorState (LoopState Filter) (LoopState Filter)

/-- `sync_stream` of a client that has stored this sync token. -/
def syncStream (syncToken : Option String) (settings : SyncSettings Filter) :
    SyncStream Filter :=
  let syncSettings :=
    if settings.token.isNone then { settings with token := syncToken } else settings
  Program.GeneratorState.start { syncSettings, lastSyncTime := none }

def yieldSync (s : LoopState Filter) :
    SyncProgram Filter Body Error (SyncItem Body Error × LoopState Filter) := do
  let (result, syncSettings) ← syncLoopHelper s.syncSettings
  pure (result, { s with syncSettings })

/-- What the stream does behind a `yield`, before it syncs again. -/
def delayStream (s : LoopState Filter) : SyncProgram Filter Body Error (LoopState Filter) := do
  let lastSyncTime ← delaySync s.lastSyncTime
  pure { s with lastSyncTime }

def SyncStream.next (stream : SyncStream Filter) :
    SyncProgram Filter Body Error (SyncItem Body Error × SyncStream Filter) := do
  let (item, s) ← Program.generate yieldSync delayStream stream
  pure (item, Program.GeneratorState.resume s)

/-- What a callback says about going on: nothing, or the value to end with. -/
def LoopCtrl.toValue : Except Error LoopCtrl -> Option (Except Error Unit)
  | .error e => some (.error e)
  | .ok LoopCtrl.break => some (.ok ())
  | .ok LoopCtrl.continue => none

/-- A loop over the items of the stream that does with each what the callback does. -/
def forEachSync
    (callback : SyncItem Body Error -> SyncProgram Filter Body Error (Except Error LoopCtrl))
    (rounds : Nat) (stream : SyncStream Filter) :
    SyncProgram Filter Body Error (Except Error Unit) :=
  Program.loop
    (fun stream => do
      let (item, stream) ← stream.next
      let ctrl ← callback item
      match LoopCtrl.toValue ctrl with
      | some value => pure (Program.Round.leave value)
      | none => pure (Program.Round.again stream))
    rounds stream

/-!
# The stream and the callback
-/

section Stream

variable {callback : SyncItem Body Error -> SyncProgram Filter Body Error (Except Error LoopCtrl)}

abbrev callbackValue
    (callback : SyncItem Body Error -> SyncProgram Filter Body Error (Except Error LoopCtrl))
    (item : SyncItem Body Error) :
    SyncProgram Filter Body Error (Option (Except Error Unit)) :=
  (callback item).map LoopCtrl.toValue

theorem syncRound_eq_pushRound (s : LoopState Filter) :
    syncRound callback s =
      Program.pushRound yieldSync delayStream (callbackValue callback) s := by
  show (syncLoopHelper s.syncSettings).bind _ = ((syncLoopHelper s.syncSettings).bind _).bind _
  rw [Program.bind_assoc]
  congr 1
  funext result
  show (callback result.1).bind _ = ((callback result.1).bind _).bind _
  rw [Program.bind_assoc]
  congr 1
  funext ctrl
  cases ctrl with
  | error e => rfl
  | ok ctrl =>
      cases ctrl with
      | «break» => rfl
      | «continue» =>
          show (delaySync s.lastSyncTime).bind _ = ((delaySync s.lastSyncTime).bind _).bind _
          rw [Program.bind_assoc]
          rfl

theorem forEachSync_eq_pullRound (rounds : Nat) (stream : SyncStream Filter) :
    forEachSync callback rounds stream =
      Program.loop (Program.pullRound yieldSync delayStream (callbackValue callback)) rounds
        stream := by
  unfold forEachSync
  congr 1
  funext stream
  show ((Program.generate yieldSync delayStream stream).bind _).bind _ =
    (Program.generate yieldSync delayStream stream).bind _
  rw [Program.bind_assoc]
  congr 1
  funext item
  show (callback item.1).bind _ = ((callback item.1).bind _).bind _
  rw [Program.bind_assoc]
  congr 1
  funext ctrl
  generalize LoopCtrl.toValue ctrl = value
  cases value <;> rfl

variable (callback) in
theorem syncWithResultCallback_eq_loop (syncToken : Option String)
    (settings : SyncSettings Filter) (rounds : Nat) :
    exists s, syncStream syncToken settings = Program.GeneratorState.start s ∧
      syncWithResultCallback syncToken settings callback rounds =
        Program.loop (Program.pushRound yieldSync delayStream (callbackValue callback)) rounds
          s := by
  have hround : syncRound callback =
      Program.pushRound yieldSync delayStream (callbackValue callback) :=
    funext syncRound_eq_pushRound
  refine ⟨_, rfl, ?_⟩
  unfold syncWithResultCallback
  rw [hround]

/-- A loop over the stream and a loop with the callback exchange the same in every
environment, up to where they are cut off, and get to the same end. -/
theorem forEachSync_syncStream (syncToken : Option String) (settings : SyncSettings Filter)
    (environment : Program.Environment (SyncOp Filter) (SyncReply Body Error))
    (rounds : Nat) :
    (Program.CutOf (forEachSync callback rounds (syncStream syncToken settings))
        (syncWithResultCallback syncToken settings callback rounds) ∧
      Program.CutOf (syncWithResultCallback syncToken settings callback rounds)
        (forEachSync callback (rounds + 1) (syncStream syncToken settings))) ∧
    forall value,
      (((syncWithResultCallback syncToken settings callback rounds).run environment []).2 =
          some value ->
        (forEachSync callback (rounds + 1) (syncStream syncToken settings)).run environment
            [] =
          (syncWithResultCallback syncToken settings callback rounds).run environment []) ∧
      (((forEachSync callback rounds (syncStream syncToken settings)).run environment []).2 =
          some value ->
        (syncWithResultCallback syncToken settings callback rounds).run environment [] =
          (forEachSync callback rounds (syncStream syncToken settings)).run environment
            []) := by
  rcases syncWithResultCallback_eq_loop callback syncToken settings rounds with
    ⟨s, hstream, hloop⟩
  have hpull : Program.CutOf (forEachSync callback rounds (syncStream syncToken settings))
      (syncWithResultCallback syncToken settings callback rounds) := by
    rw [forEachSync_eq_pullRound, hstream, hloop]
    exact Program.pullRound_cutOf_pushRound rounds s
  have hpush : Program.CutOf (syncWithResultCallback syncToken settings callback rounds)
      (forEachSync callback (rounds + 1) (syncStream syncToken settings)) := by
    rw [forEachSync_eq_pullRound, hstream, hloop]
    exact Program.pushRound_cutOf_pullRound rounds s
  refine ⟨⟨hpull, hpush⟩, fun value => ⟨?_, ?_⟩⟩
  · exact (hpush.run environment []).2 value
  · exact (hpull.run environment []).2 value

end Stream

/-!
# What a sync loop does
-/

abbrev SyncSettings.send (settings : SyncSettings Filter) : SyncOp Filter :=
  SyncOp.send
    { filter := settings.filter
      since := settings.token
      fullState := settings.fullState
      setPresence := settings.setPresence
      timeout := settings.timeout }
    (settings.timeout.getD 0)

abbrev SyncEnvironment (Filter Body Error : Type) :=
  Program.Environment (SyncOp Filter) (SyncReply Body Error)

abbrev SyncSeen (Filter Body Error : Type) :=
  List (Program.Exchange (SyncOp Filter) (SyncReply Body Error))

def SyncEnvironment.reply (environment : SyncEnvironment Filter Body Error)
    (seen : SyncSeen Filter Body Error) (settings : SyncSettings Filter) :
    SyncItem Body Error :=
  environment seen settings.send

/-- A loop with this callback that has so many rounds left: what it exchanges, and how it
ends.  A round begins with a sync; the callback runs if it has succeeded, and the loop goes
on, with the token that the sync has brought, unless the callback says to stop. -/
inductive SyncRun (environment : SyncEnvironment Filter Body Error)
    (callback : SyncResponse Body -> SyncProgram Filter Body Error LoopCtrl) :
    Nat -> LoopState Filter -> SyncSeen Filter Body Error -> SyncSeen Filter Body Error ->
      Option (Except Error Unit) -> Prop
  | cut (s : LoopState Filter) (seen : SyncSeen Filter Body Error) :
      SyncRun environment callback 0 s seen seen none
  | failed {rounds : Nat} {s : LoopState Filter} {seen : SyncSeen Filter Body Error}
      {e : Error} (hsync : environment.reply seen s.syncSettings = .error e) :
      SyncRun environment callback (rounds + 1) s seen
        (seen ++ [⟨s.syncSettings.send, .error e⟩]) (some (.error e))
  /-- The callback itself is cut off. -/
  | unfinished {rounds : Nat} {s : LoopState Filter}
      {seen called : SyncSeen Filter Body Error} {response : SyncResponse Body}
      (hsync : environment.reply seen s.syncSettings = .ok response)
      (hcallback : (callback response).run environment
        (seen ++ [⟨s.syncSettings.send, .ok response⟩]) = (called, none)) :
      SyncRun environment callback (rounds + 1) s seen called none
  | stopped {rounds : Nat} {s : LoopState Filter}
      {seen called : SyncSeen Filter Body Error} {response : SyncResponse Body}
      (hsync : environment.reply seen s.syncSettings = .ok response)
      (hcallback : (callback response).run environment
        (seen ++ [⟨s.syncSettings.send, .ok response⟩]) =
          (called, some LoopCtrl.break)) :
      SyncRun environment callback (rounds + 1) s seen called (some (.ok ()))
  | again {rounds : Nat} {s : LoopState Filter}
      {seen called waited after : SyncSeen Filter Body Error}
      {response : SyncResponse Body} {lastSyncTime : Option Nat}
      {value : Option (Except Error Unit)}
      (hsync : environment.reply seen s.syncSettings = .ok response)
      (hcallback : (callback response).run environment
        (seen ++ [⟨s.syncSettings.send, .ok response⟩]) =
          (called, some LoopCtrl.continue))
      (hdelay : (delaySync s.lastSyncTime).run environment called =
        (waited, some lastSyncTime))
      (hrest : SyncRun environment callback rounds
        { syncSettings := s.syncSettings.withToken response.nextBatch, lastSyncTime }
        waited after value) :
      SyncRun environment callback (rounds + 1) s seen after value

section Runs

variable {environment : SyncEnvironment Filter Body Error}
variable {callback : SyncResponse Body -> SyncProgram Filter Body Error LoopCtrl}

variable (callback) in
def onSuccess (result : SyncItem Body Error) :
    SyncProgram Filter Body Error (Except Error LoopCtrl) :=
  match result with
  | .error e => pure (.error e)
  | .ok response => do
      let ctrl ← callback response
      pure (.ok ctrl)

theorem loop_syncRound_succ (rounds : Nat) (s : LoopState Filter) :
    Program.loop (syncRound (onSuccess callback)) (rounds + 1) s =
      Program.perform s.syncSettings.send
        fun result =>
          match result with
          | .error e => Program.done (.error e)
          | .ok response =>
              (callback response).bind fun ctrl =>
                match ctrl with
                | LoopCtrl.break => Program.done (.ok ())
                | LoopCtrl.continue =>
                    (delaySync s.lastSyncTime).bind fun lastSyncTime =>
                      Program.loop (syncRound (onSuccess callback)) rounds
                        { syncSettings := s.syncSettings.withToken response.nextBatch
                          lastSyncTime } := by
  show Program.perform _ _ = Program.perform _ _
  congr 1
  funext result
  cases result with
  | error e => rfl
  | ok response =>
      show ((((callback response).bind _).bind _).bind _) = _
      rw [Program.bind_assoc, Program.bind_assoc]
      congr 1
      funext ctrl
      cases ctrl with
      | «break» => rfl
      | «continue» =>
          show ((delaySync s.lastSyncTime).bind _).bind _ = _
          rw [Program.bind_assoc]
          rfl

theorem run_delaySync (environment : SyncEnvironment Filter Body Error)
    (lastSyncTime : Option Nat) (seen : SyncSeen Filter Body Error) :
    exists waited lastSyncTime',
      (delaySync lastSyncTime).run environment seen = (waited, some lastSyncTime') := by
  cases lastSyncTime with
  | none => exact ⟨_, _, rfl⟩
  | some t =>
      simp only [delaySync, Bind.bind, Program.bind, Program.call, Program.run]
      split
      · exact ⟨_, _, rfl⟩
      · exact ⟨_, _, rfl⟩

theorem run_loop_syncRound (rounds : Nat) (s : LoopState Filter)
    (seen : SyncSeen Filter Body Error) :
    SyncRun environment callback rounds s seen
      ((Program.loop (syncRound (onSuccess callback)) rounds s).run environment seen).1
      ((Program.loop (syncRound (onSuccess callback)) rounds s).run environment seen).2 := by
  induction rounds generalizing s seen with
  | zero => exact SyncRun.cut s seen
  | succ rounds ih =>
      rw [loop_syncRound_succ, Program.run]
      cases hsync : environment.reply seen s.syncSettings with
      | error e =>
          rw [show environment seen s.syncSettings.send = .error e from hsync]
          exact SyncRun.failed hsync
      | ok response =>
          rw [show environment seen s.syncSettings.send = .ok response from hsync]
          show SyncRun _ _ _ _ _ (Program.run environment (Program.bind _ _) _).1
            (Program.run environment (Program.bind _ _) _).2
          rw [Program.run_bind]
          cases hcallback : (callback response).run environment
            (seen ++ [⟨s.syncSettings.send, .ok response⟩]) with
          | mk called ctrl =>
              cases ctrl with
              | none => exact SyncRun.unfinished hsync hcallback
              | some ctrl =>
                  cases ctrl with
                  | «break» => exact SyncRun.stopped hsync hcallback
                  | «continue» =>
                      rcases run_delaySync environment s.lastSyncTime called with
                        ⟨waited, lastSyncTime, hdelay⟩
                      have hrest := SyncRun.again hsync hcallback hdelay (ih _ waited)
                      simp only [Program.run_bind, hdelay]
                      exact hrest

variable (callback) in
theorem syncWithCallback_eq_loop (syncToken : Option String) (settings : SyncSettings Filter)
    (rounds : Nat) :
    syncWithCallback syncToken settings callback rounds =
      Program.loop (syncRound (onSuccess callback)) rounds
        { syncSettings := { settings with token := settings.token.or syncToken }
          lastSyncTime := none } := by
  unfold syncWithCallback syncWithResultCallback
  rcases settings with ⟨filter, timeout, token, fullState, setPresence⟩
  cases token <;> rfl

/-!
# The syncs of a loop without a callback
-/

abbrev SyncExchange (Filter Body Error : Type) := SyncRequest Filter × SyncItem Body Error

def syncExchange :
    Program.Exchange (SyncOp Filter) (SyncReply Body Error) ->
      Option (SyncExchange Filter Body Error)
  | ⟨SyncOp.send request _, result⟩ => some (request, result)
  | ⟨_, _⟩ => none

def Succeeds (exchange : SyncExchange Filter Body Error) : Prop :=
  exists response, exchange.2 = .ok response

/-- All syncs have succeeded, in so many rounds, and the loop is still going on; or it has
ended with the error of its last sync. -/
def SyncsUntilError (rounds : Nat) (syncs : List (SyncExchange Filter Body Error))
    (value : Option (Except Error Unit)) : Prop :=
  (value = none ∧ syncs.length = rounds ∧ forall sync, sync ∈ syncs -> Succeeds sync) ∨
    exists before request e, syncs = before ++ [(request, .error e)] ∧
      before.length < rounds ∧ (forall sync, sync ∈ before -> Succeeds sync) ∧
      value = some (.error e)

def IsSync : SyncOp Filter -> Prop
  | SyncOp.send _ _ => True
  | _ => False

theorem delaySync_avoids (lastSyncTime : Option Nat) :
    (delaySync lastSyncTime : SyncProgram Filter Body Error _).Avoids IsSync := by
  apply Program.Avoids.perform id
  intro now
  cases lastSyncTime with
  | none => exact Program.Avoids.done _
  | some t =>
      show Program.Avoids IsSync (if _ then _ else _)
      split
      · exact Program.Avoids.perform id fun _ => Program.Avoids.done _
      · exact Program.Avoids.done _

theorem filterMap_run_delaySync {lastSyncTime lastSyncTime' : Option Nat}
    {seen waited : SyncSeen Filter Body Error}
    (hdelay : (delaySync lastSyncTime).run environment seen = (waited, some lastSyncTime')) :
    waited.filterMap syncExchange = seen.filterMap syncExchange := by
  rcases (delaySync_avoids lastSyncTime).run environment seen with ⟨more, hmore, havoid⟩
  rw [hdelay] at hmore
  have hwaited : waited = seen ++ more := hmore
  have hnone : more.filterMap syncExchange = [] := by
    apply List.filterMap_eq_nil_iff.mpr
    intro exchange hmem
    rcases exchange with ⟨op, reply⟩
    have hop := havoid _ hmem
    cases op <;> first | rfl | exact absurd True.intro hop
  rw [hwaited, List.filterMap_append, hnone, List.append_nil]

theorem SyncsUntilError.cons {rounds : Nat} {syncs : List (SyncExchange Filter Body Error)}
    {value : Option (Except Error Unit)} {sync : SyncExchange Filter Body Error}
    (hsync : Succeeds sync) (h : SyncsUntilError rounds syncs value) :
    SyncsUntilError (rounds + 1) (sync :: syncs) value := by
  rcases h with ⟨hvalue, hlength, hall⟩ | ⟨before, request, e, rfl, hlength, hall, hvalue⟩
  · exact Or.inl ⟨hvalue, congrArg Nat.succ hlength, List.forall_mem_cons.mpr ⟨hsync, hall⟩⟩
  · exact Or.inr ⟨sync :: before, request, e, rfl, Nat.succ_lt_succ hlength,
      List.forall_mem_cons.mpr ⟨hsync, hall⟩, hvalue⟩

theorem SyncRun.syncsUntilError {rounds : Nat} {s : LoopState Filter}
    {seen after : SyncSeen Filter Body Error} {value : Option (Except Error Unit)}
    (h : SyncRun environment (fun _ => pure LoopCtrl.continue) rounds s seen after value) :
    exists syncs, after.filterMap syncExchange = seen.filterMap syncExchange ++ syncs ∧
      SyncsUntilError rounds syncs value := by
  induction h with
  | cut s seen => exact ⟨[], (List.append_nil _).symm, Or.inl ⟨rfl, rfl, nofun⟩⟩
  | failed hsync =>
      refine ⟨[(_, .error _)], by rw [List.filterMap_append]; rfl, Or.inr ?_⟩
      exact ⟨[], _, _, rfl, Nat.succ_pos _, nofun, rfl⟩
  | unfinished hsync hcallback => cases hcallback
  | stopped hsync hcallback => cases hcallback
  | again hsync hcallback hdelay hrest ih =>
      rcases ih with ⟨syncs, hsyncs, huntil⟩
      cases hcallback
      rw [filterMap_run_delaySync hdelay, List.filterMap_append, List.append_assoc] at hsyncs
      exact ⟨_ :: syncs, hsyncs, huntil.cons ⟨_, rfl⟩⟩

variable (environment) (callback) in
/-- In every environment, and with a callback that may itself do what it likes,
`sync_with_callback` sends a sync with its settings, and each next one with the token that
the one before it has brought, and goes on until a sync fails or the callback says to stop.
`sync` goes on until a sync fails, and returns the error. -/
theorem syncWithCallback_syncRun (syncToken : Option String)
    (settings : SyncSettings Filter) (rounds : Nat) :
    SyncRun environment callback rounds
        { syncSettings := { settings with token := settings.token.or syncToken }
          lastSyncTime := none } []
        ((syncWithCallback syncToken settings callback rounds).run environment []).1
        ((syncWithCallback syncToken settings callback rounds).run environment []).2 ∧
      SyncRun environment (fun _ => pure LoopCtrl.continue) rounds
        { syncSettings := { settings with token := settings.token.or syncToken }
          lastSyncTime := none } []
        ((sync syncToken settings rounds).run environment []).1
        ((sync syncToken settings rounds).run environment []).2 ∧
      SyncsUntilError rounds
        (((sync syncToken settings rounds).run environment []).1.filterMap syncExchange)
        ((sync syncToken settings rounds).run environment []).2 := by
  have hrun : forall callback : SyncResponse Body -> SyncProgram Filter Body Error LoopCtrl,
      SyncRun environment callback rounds
        { syncSettings := { settings with token := settings.token.or syncToken }
          lastSyncTime := none } []
        ((syncWithCallback syncToken settings callback rounds).run environment []).1
        ((syncWithCallback syncToken settings callback rounds).run environment []).2 := by
    intro callback
    rw [syncWithCallback_eq_loop]
    exact run_loop_syncRound rounds _ []
  have hsync := hrun fun _ => pure LoopCtrl.continue
  rcases hsync.syncsUntilError with ⟨syncs, hsyncs, huntil⟩
  refine ⟨hrun callback, hsync, ?_⟩
  unfold sync
  rw [hsyncs]
  exact huntil

end Runs

end Sync
end MatrixGoose
