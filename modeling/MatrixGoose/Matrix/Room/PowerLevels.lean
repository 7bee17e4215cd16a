import Mathlib.Data.List.Induction
import Mathlib.Logic.Function.Basic
import MatrixGoose.Foundation.Replica

/-!
# Power levels

A client changes the power levels of some users by sending the whole content of the state
event again, with the changes made to the content that it has in its store.
-/

namespace MatrixGoose

open Foundation
open Foundation.Replica

namespace Room

/-- `RoomPowerLevels`; `Rest` are the levels that are not about users. -/
structure PowerLevels (Rest : Type) where
  users : String -> Option Int
  usersDefault : Int
  rest : Rest

variable {Rest : Type}

namespace PowerLevels

def forUser (powerLevels : PowerLevels Rest) (userId : String) : Int :=
  (powerLevels.users userId).getD powerLevels.usersDefault

def update (powerLevels : PowerLevels Rest) (update : String × Int) : PowerLevels Rest :=
  if update.2 = powerLevels.usersDefault then
    { powerLevels with users := Function.update powerLevels.users update.1 none }
  else
    { powerLevels with users := Function.update powerLevels.users update.1 (some update.2) }

def updateAll (powerLevels : PowerLevels Rest) (updates : List (String × Int)) :
    PowerLevels Rest :=
  updates.foldl update powerLevels

end PowerLevels

inductive PowerLevelsError
  | insufficientData

/-- The content that `update_power_levels` sends, given the one in the store. -/
def updatePowerLevels (stored : Option (PowerLevels Rest)) (updates : List (String × Int)) :
    Except PowerLevelsError (PowerLevels Rest) :=
  match stored with
  | none => .error PowerLevelsError.insufficientData
  | some powerLevels => .ok (powerLevels.updateAll updates)

/-!
# What the updates do
-/

def lastUpdate (updates : List (String × Int)) (userId : String) : Option Int :=
  ((updates.filter fun update => update.1 = userId).map Prod.snd).getLast?

theorem lastUpdate_append_singleton (updates : List (String × Int)) (update : String × Int)
    (userId : String) :
    lastUpdate (updates ++ [update]) userId =
      if update.1 = userId then some update.2 else lastUpdate updates userId := by
  by_cases h : update.1 = userId <;> simp [lastUpdate, h]

theorem lastUpdate_eq_none {updates : List (String × Int)} {userId : String} :
    lastUpdate updates userId = none <-> userId ∉ updates.map Prod.fst := by
  simp only [lastUpdate, List.getLast?_eq_none_iff, List.map_eq_nil_iff,
    List.filter_eq_nil_iff, decide_eq_true_eq, List.mem_map, not_exists, not_and]

namespace PowerLevels

def entryOf (usersDefault level : Int) : Option Int :=
  if level = usersDefault then none else some level

theorem update_usersDefault (powerLevels : PowerLevels Rest) (new : String × Int) :
    (powerLevels.update new).usersDefault = powerLevels.usersDefault := by
  unfold update
  split <;> rfl

theorem update_rest (powerLevels : PowerLevels Rest) (new : String × Int) :
    (powerLevels.update new).rest = powerLevels.rest := by
  unfold update
  split <;> rfl

theorem update_users (powerLevels : PowerLevels Rest) (new : String × Int) (userId : String) :
    (powerLevels.update new).users userId =
      if new.1 = userId then entryOf powerLevels.usersDefault new.2
      else powerLevels.users userId := by
  unfold update entryOf
  rcases eq_or_ne userId new.1 with h | h
  · subst h
    split <;> simp
  · split <;> simp [h, Ne.symm h]

theorem updateAll_append_singleton (powerLevels : PowerLevels Rest)
    (updates : List (String × Int)) (new : String × Int) :
    powerLevels.updateAll (updates ++ [new]) = (powerLevels.updateAll updates).update new :=
  List.foldl_append ..

theorem updateAll_usersDefault (powerLevels : PowerLevels Rest)
    (updates : List (String × Int)) :
    (powerLevels.updateAll updates).usersDefault = powerLevels.usersDefault := by
  induction updates using List.reverseRecOn with
  | nil => rfl
  | append_singleton updates new ih =>
      rw [updateAll_append_singleton, update_usersDefault, ih]

theorem updateAll_rest (powerLevels : PowerLevels Rest) (updates : List (String × Int)) :
    (powerLevels.updateAll updates).rest = powerLevels.rest := by
  induction updates using List.reverseRecOn with
  | nil => rfl
  | append_singleton updates new ih => rw [updateAll_append_singleton, update_rest, ih]

theorem updateAll_users (powerLevels : PowerLevels Rest) (updates : List (String × Int))
    (userId : String) :
    (powerLevels.updateAll updates).users userId =
      match lastUpdate updates userId with
      | some level => entryOf powerLevels.usersDefault level
      | none => powerLevels.users userId := by
  induction updates using List.reverseRecOn with
  | nil => rfl
  | append_singleton updates new ih =>
      rw [updateAll_append_singleton, update_users, updateAll_usersDefault,
        lastUpdate_append_singleton]
      split
      · rfl
      · exact ih

theorem entryOf_ne_default (usersDefault level : Int) :
    entryOf usersDefault level ≠ some usersDefault := by
  unfold entryOf
  split
  · exact nofun
  · next hne =>
      intro h
      exact hne (Option.some.inj h)

theorem entryOf_getD (usersDefault level : Int) :
    (entryOf usersDefault level).getD usersDefault = level := by
  unfold entryOf
  split
  · next heq => exact heq.symm
  · rfl

end PowerLevels

/-- If the store has the event, then each user that is updated has the level of the last
update, by an entry only if the level is not the default, and everything else stays. -/
theorem updatePowerLevels_spec (stored : PowerLevels Rest) (updates : List (String × Int)) :
    exists sent, updatePowerLevels (some stored) updates = .ok sent ∧
      sent.usersDefault = stored.usersDefault ∧ sent.rest = stored.rest ∧
      forall userId,
        sent.forUser userId = (lastUpdate updates userId).getD (stored.forUser userId) ∧
        (userId ∈ updates.map Prod.fst -> sent.users userId ≠ some stored.usersDefault) ∧
        (userId ∉ updates.map Prod.fst -> sent.users userId = stored.users userId) := by
  refine ⟨stored.updateAll updates, rfl, stored.updateAll_usersDefault updates,
    stored.updateAll_rest updates, ?_⟩
  intro userId
  have husers := stored.updateAll_users updates userId
  cases hlast : lastUpdate updates userId with
  | none =>
      rw [hlast] at husers
      have hnot := lastUpdate_eq_none.mp hlast
      refine ⟨?_, fun hmem => absurd hmem hnot, fun _ => husers⟩
      rw [PowerLevels.forUser, husers, PowerLevels.updateAll_usersDefault]
      rfl
  | some level =>
      rw [hlast] at husers
      refine ⟨?_, fun _ => ?_, fun hnot => ?_⟩
      · rw [PowerLevels.forUser, husers, PowerLevels.updateAll_usersDefault]
        exact PowerLevels.entryOf_getD stored.usersDefault level
      · rw [husers]
        exact PowerLevels.entryOf_ne_default stored.usersDefault level
      · rw [lastUpdate_eq_none.mpr hnot] at hlast
        cases hlast

/-!
# Several clients

Clients of the same room update the power levels.  A call reads the store of its client,
which takes over what the response to a sync has, and later puts the content on the server;
the HTTP client may do so more than once.
-/

structure PowerLevelsCall (Rest : Type) where
  read : PowerLevels Rest
  updates : List (String × Int)

structure RoomPowerLevels (Rest : Type) where
  server : PowerLevels Rest
  store : Nat -> Option (PowerLevels Rest)
  /-- The calls that have read the store. -/
  calls : Nat -> Option (PowerLevelsCall Rest)

inductive PowerLevelsAction (Rest : Type)
  /-- A call of client `i` reads its store. -/
  | read (call i : Nat) (updates : List (String × Int))
  /-- The server gets the request of a call. -/
  | put (call : Nat) (updates : List (String × Int))
  | returned (call : Nat)
  /-- The response may be older than the last request. -/
  | sync (i : Nat) (response : PowerLevels Rest)

def PowerLevelsAction.updates? : PowerLevelsAction Rest -> Option (List (String × Int))
  | PowerLevelsAction.put _ updates => some updates
  | _ => none

def powerLevelsStep (s : RoomPowerLevels Rest) :
    PowerLevelsAction Rest -> Option (RoomPowerLevels Rest)
  | PowerLevelsAction.read call i updates =>
      match s.calls call, s.store i with
      | none, some read =>
          some { s with calls := Function.update s.calls call (some { read, updates }) }
      -- Without the event the call returns `InsufficientData`.
      | none, none => some s
      | some _, _ => none
  | PowerLevelsAction.put call updates =>
      match s.calls call with
      | some reading =>
          match updatePowerLevels (some reading.read) updates with
          | .ok server => if reading.updates = updates then some { s with server } else none
          | .error _ => none
      | none => none
  | PowerLevelsAction.returned call =>
      match s.calls call with
      | some _ => some { s with calls := Function.update s.calls call none }
      | none => none
  | PowerLevelsAction.sync i response =>
      some { s with store := Function.update s.store i (some response) }

def powerLevelsCalls (initial : RoomPowerLevels Rest) :
    TransitionSystem (RoomPowerLevels Rest) (PowerLevelsAction Rest) where
  init := initial
  step := powerLevelsStep

def RoomPowerLevels.copy (s : RoomPowerLevels Rest) :
    PowerLevelsAction Rest -> PowerLevels Rest
  | PowerLevelsAction.put call _ =>
      match s.calls call with
      | some reading => reading.read
      | none => s.server
  | _ => s.server

def applyUpdates (updates : List (String × Int)) (powerLevels : PowerLevels Rest) :
    PowerLevels Rest :=
  powerLevels.updateAll updates

/-- All along the run the server has its first content with the updates of all requests so
far made to it. -/
def UpdatesApplied (initial : RoomPowerLevels Rest)
    (actions : List (PowerLevelsAction Rest)) : Prop :=
  Lossless (powerLevelsCalls initial) RoomPowerLevels.server PowerLevelsAction.updates?
    applyUpdates initial actions

/-- When the request of a call gets to the server, what the call has read agrees with the
server about everything but the users that are updated. -/
def ReadAgreesOnOthers (s : RoomPowerLevels Rest) (a : PowerLevelsAction Rest) : Prop :=
  forall call updates reading, a = PowerLevelsAction.put call updates ->
    s.calls call = some reading ->
      reading.read.usersDefault = s.server.usersDefault ∧
        reading.read.rest = s.server.rest ∧
        forall userId, userId ∉ updates.map Prod.fst ->
          reading.read.users userId = s.server.users userId

theorem powerLevelsStep_put {s s' : RoomPowerLevels Rest} {call : Nat}
    {updates : List (String × Int)}
    (hstep : powerLevelsStep s (PowerLevelsAction.put call updates) = some s') :
    exists reading, s.calls call = some reading ∧
      s' = { s with server := reading.read.updateAll updates } := by
  cases hcall : s.calls call with
  | none => simp [powerLevelsStep, hcall] at hstep
  | some reading =>
      simp only [powerLevelsStep, updatePowerLevels, hcall] at hstep
      split at hstep
      · cases hstep
        exact ⟨reading, rfl, rfl⟩
      · cases hstep

theorem powerLevelsStep_server_eq {s s' : RoomPowerLevels Rest} {a : PowerLevelsAction Rest}
    (hstep : powerLevelsStep s a = some s') (hnone : a.updates? = none) :
    s'.server = s.server := by
  cases a with
  | put call updates => cases hnone
  | read call i updates =>
      simp only [powerLevelsStep] at hstep
      split at hstep <;> cases hstep <;> rfl
  | returned call =>
      simp only [powerLevelsStep] at hstep
      split at hstep <;> cases hstep
      rfl
  | sync i response =>
      cases hstep
      rfl

theorem powerLevelsCalls_updates (initial : RoomPowerLevels Rest) :
    UpdatesFromCopies (powerLevelsCalls initial) RoomPowerLevels.server RoomPowerLevels.copy
      PowerLevelsAction.updates? applyUpdates where
  writes := by
    intro s a s' c hstep hupdates
    cases a with
    | put call updates =>
        have hc : updates = c := Option.some.inj hupdates
        subst hc
        rcases powerLevelsStep_put hstep with ⟨reading, hcall, rfl⟩
        simp only [RoomPowerLevels.copy, hcall, applyUpdates]
    | _ => cases hupdates
  keeps _ _ _ := powerLevelsStep_server_eq

/-- Updates make the same of two contents exactly if these agree about everything else. -/
theorem updateAll_eq_iff (powerLevels other : PowerLevels Rest)
    (updates : List (String × Int)) :
    powerLevels.updateAll updates = other.updateAll updates <->
      powerLevels.usersDefault = other.usersDefault ∧ powerLevels.rest = other.rest ∧
        forall userId, userId ∉ updates.map Prod.fst ->
          powerLevels.users userId = other.users userId := by
  constructor
  · intro heq
    have hdefault := congrArg PowerLevels.usersDefault heq
    have hrest := congrArg PowerLevels.rest heq
    rw [PowerLevels.updateAll_usersDefault, PowerLevels.updateAll_usersDefault] at hdefault
    rw [PowerLevels.updateAll_rest, PowerLevels.updateAll_rest] at hrest
    refine ⟨hdefault, hrest, ?_⟩
    intro userId hnot
    have husers := congrFun (congrArg PowerLevels.users heq) userId
    rw [PowerLevels.updateAll_users, PowerLevels.updateAll_users,
      lastUpdate_eq_none.mpr hnot] at husers
    exact husers
  · intro h
    rcases h with ⟨hdefault, hrest, husers⟩
    have hall : (powerLevels.updateAll updates).users = (other.updateAll updates).users := by
      funext userId
      rw [PowerLevels.updateAll_users, PowerLevels.updateAll_users, hdefault]
      cases hlast : lastUpdate updates userId with
      | some level => rfl
      | none => exact husers userId (lastUpdate_eq_none.mp hlast)
    rw [PowerLevels.mk.injEq, PowerLevels.updateAll_usersDefault,
      PowerLevels.updateAll_usersDefault, PowerLevels.updateAll_rest,
      PowerLevels.updateAll_rest]
    exact ⟨hall, hdefault, hrest⟩

theorem readAgreesOnOthers_iff {s s' : RoomPowerLevels Rest} {a : PowerLevelsAction Rest}
    (hstep : powerLevelsStep s a = some s') :
    CopyUpToDate RoomPowerLevels.server RoomPowerLevels.copy PowerLevelsAction.updates?
        applyUpdates s a <->
      ReadAgreesOnOthers s a := by
  cases a with
  | put call updates =>
      rcases powerLevelsStep_put hstep with ⟨reading, hcall, _⟩
      have hcopy : s.copy (PowerLevelsAction.put call updates) = reading.read := by
        simp only [RoomPowerLevels.copy, hcall]
      have hiff := updateAll_eq_iff reading.read s.server updates
      constructor
      · intro h other others otherReading ha hother
        cases ha
        rw [hcall] at hother
        cases hother
        apply hiff.mp
        rw [← hcopy]
        exact h updates rfl
      · intro h others ha
        cases ha
        rw [hcopy]
        exact hiff.mpr (h call updates reading rfl hcall)
  | _ => exact iff_of_true nofun nofun

/-- However calls take turns, no update of any client is lost exactly if, whenever a request
gets to the server, what its call has read agrees with the server about everything but the
users that are updated. -/
theorem updatesApplied_iff {initial s : RoomPowerLevels Rest}
    {actions : List (PowerLevelsAction Rest)}
    (hrun : (powerLevelsCalls initial).run actions = some s) :
    UpdatesApplied initial actions <->
      (powerLevelsCalls initial).AllSteps ReadAgreesOnOthers initial actions := by
  have hfrom : (powerLevelsCalls initial).runFrom initial actions = some s := hrun
  rw [UpdatesApplied, (powerLevelsCalls_updates initial).lossless_iff hfrom]
  exact TransitionSystem.allSteps_congr (P := fun _ => True) (fun _ _ _ _ _ => True.intro)
    (fun _ _ _ _ hstep => readAgreesOnOthers_iff hstep) True.intro hrun

def twoClients : RoomPowerLevels Unit where
  server := { users := fun _ => none, usersDefault := 0, rest := () }
  store := fun _ => some { users := fun _ => none, usersDefault := 0, rest := () }
  calls := fun _ => none

/-- Two clients each promote a user: one after the other with a sync in between, or with
calls that overlap. -/
theorem updatesApplied_iff_two_clients :
    UpdatesApplied twoClients
        [.read 0 0 [("@a:x", 100)], .put 0 [("@a:x", 100)], .returned 0,
          .sync 1 (twoClients.server.updateAll [("@a:x", 100)]),
          .read 1 1 [("@b:x", 50)], .put 1 [("@b:x", 50)]] ∧
      ¬ UpdatesApplied twoClients
        [.read 0 0 [("@a:x", 100)], .read 1 1 [("@b:x", 50)], .put 0 [("@a:x", 100)],
          .put 1 [("@b:x", 50)]] := by
  constructor
  · apply (updatesApplied_iff rfl).mpr
    apply TransitionSystem.AllSteps.cons rfl nofun
    apply TransitionSystem.AllSteps.cons rfl
    · intro call updates reading hput hcall
      cases hput
      cases hcall
      exact ⟨rfl, rfl, fun _ _ => rfl⟩
    apply TransitionSystem.AllSteps.cons rfl nofun
    apply TransitionSystem.AllSteps.cons rfl nofun
    apply TransitionSystem.AllSteps.cons rfl nofun
    apply TransitionSystem.AllSteps.cons rfl
    · intro call updates reading hput hcall
      cases hput
      cases hcall
      exact ⟨rfl, rfl, fun _ _ => rfl⟩
    exact True.intro
  · intro happlied
    have hall := (updatesApplied_iff rfl).mp happlied
    have hlast := ((hall.2 _ rfl).2 _ rfl).2 _ rfl
    have hsecond := hlast.1 1 [("@b:x", 50)] _ rfl rfl
    have huser := hsecond.2.2 "@a:x" (by simp)
    exact absurd huser (by simp [PowerLevels.updateAll, PowerLevels.update])

end Room
end MatrixGoose
