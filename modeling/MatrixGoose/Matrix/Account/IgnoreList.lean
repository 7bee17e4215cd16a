import Mathlib.Data.Finset.Basic
import MatrixGoose.Foundation.Replica

/-!
# The list of ignored users

A client keeps the account data that `/sync` delivers in its store.  To change the list
of ignored users it reads the list from there and sends the changed one to the server.
-/

namespace MatrixGoose

open Foundation
open Foundation.Replica

namespace Account

/-- The users of `m.ignored_user_list` at the server and in the store, if there is such
an event. -/
structure IgnoredUserLists where
  server : Option (Finset String)
  store : Option (Finset String)
  deriving DecidableEq

namespace IgnoredUserLists

/-- A missing event counts as the default content, which ignores nobody. -/
def serverList (s : IgnoredUserLists) : Finset String :=
  s.server.getD ∅

def getIgnoredUserListEventContent (s : IgnoredUserLists) : Finset String :=
  s.store.getD ∅

def setAccountData (s : IgnoredUserLists) (content : Finset String) : IgnoredUserLists :=
  { s with server := some content }

def ignoreUser (s : IgnoredUserLists) (userId : String) : IgnoredUserLists :=
  s.setAccountData (insert userId s.getIgnoredUserListEventContent)

def unignoreUser (s : IgnoredUserLists) (userId : String) : IgnoredUserLists :=
  s.setAccountData (s.getIgnoredUserListEventContent.erase userId)

def receiveAccountData (s : IgnoredUserLists) : IgnoredUserLists :=
  match s.server with
  | some content => { s with store := some content }
  | none => s

end IgnoredUserLists

inductive IgnoreCall
  | ignoreUser (userId : String)
  | unignoreUser (userId : String)

def IgnoreCall.userId : IgnoreCall -> String
  | IgnoreCall.ignoreUser userId => userId
  | IgnoreCall.unignoreUser userId => userId

def IgnoreCall.apply : IgnoreCall -> Finset String -> Finset String
  | IgnoreCall.ignoreUser userId, users => insert userId users
  | IgnoreCall.unignoreUser userId, users => users.erase userId

inductive IgnoreAction
  | call (c : IgnoreCall)
  | sync

def IgnoreAction.call? : IgnoreAction -> Option IgnoreCall
  | IgnoreAction.call c => some c
  | IgnoreAction.sync => none

def ignoreStep (s : IgnoredUserLists) : IgnoreAction -> Option IgnoredUserLists
  | IgnoreAction.call (IgnoreCall.ignoreUser userId) => some (s.ignoreUser userId)
  | IgnoreAction.call (IgnoreCall.unignoreUser userId) => some (s.unignoreUser userId)
  | IgnoreAction.sync => some s.receiveAccountData

/-- Successful calls and `/sync` responses in any order, from any contents of the server
and of the store. -/
def ignoreCalls (initial : IgnoredUserLists) :
    TransitionSystem IgnoredUserLists IgnoreAction where
  init := initial
  step := ignoreStep

/-- All along the run the server has the initial list with the calls so far applied. -/
def CallsApplied (initial : IgnoredUserLists) (actions : List IgnoreAction) : Prop :=
  Lossless (ignoreCalls initial) IgnoredUserLists.serverList IgnoreAction.call?
    IgnoreCall.apply initial actions

/-- The store and the server have the same list, except perhaps for the user that the
call is about. -/
def StoreAgrees (s : IgnoredUserLists) (a : IgnoreAction) : Prop :=
  forall c, a = IgnoreAction.call c -> forall userId, userId ≠ c.userId ->
    (userId ∈ s.getIgnoredUserListEventContent <-> userId ∈ s.serverList)

/-!
# What a call does
-/

theorem ignoreStep_call (s : IgnoredUserLists) (c : IgnoreCall) :
    ignoreStep s (IgnoreAction.call c) =
      some (s.setAccountData (c.apply s.getIgnoredUserListEventContent)) := by
  cases c <;> rfl

theorem serverList_receiveAccountData (s : IgnoredUserLists) :
    s.receiveAccountData.serverList = s.serverList := by
  unfold IgnoredUserLists.receiveAccountData
  split <;> rfl

theorem ignoreCalls_updates (initial : IgnoredUserLists) :
    UpdatesFromReplica (ignoreCalls initial) IgnoredUserLists.serverList
      IgnoredUserLists.getIgnoredUserListEventContent IgnoreAction.call?
      IgnoreCall.apply where
  writes := by
    intro s a s' c hstep hcall
    cases a with
    | call other =>
        cases hcall
        have hresult := (ignoreStep_call s c).symm.trans hstep
        cases hresult
        rfl
    | sync => cases hcall
  keeps := by
    intro s a s' hstep hcall
    cases a with
    | call other => cases hcall
    | sync =>
        cases hstep
        exact serverList_receiveAccountData s

/-- A call makes the same of two lists exactly if they agree on all other users. -/
theorem IgnoreCall.apply_eq_iff (c : IgnoreCall) (users others : Finset String) :
    c.apply users = c.apply others <->
      forall userId, userId ≠ c.userId -> (userId ∈ users <-> userId ∈ others) := by
  rw [Finset.ext_iff]
  apply forall_congr'
  intro userId
  cases c with
  | ignoreUser ignored =>
      simp only [IgnoreCall.apply, IgnoreCall.userId, Finset.mem_insert]
      by_cases hsame : userId = ignored <;> simp [hsame]
  | unignoreUser ignored =>
      simp only [IgnoreCall.apply, IgnoreCall.userId, Finset.mem_erase]
      by_cases hsame : userId = ignored <;> simp [hsame]

theorem storeAgrees_iff (s : IgnoredUserLists) (a : IgnoreAction) :
    UpToDate IgnoredUserLists.serverList
      IgnoredUserLists.getIgnoredUserListEventContent IgnoreAction.call?
      IgnoreCall.apply s a <-> StoreAgrees s a := by
  cases a with
  | call c =>
      simp only [UpToDate, StoreAgrees, IgnoreAction.call?, Option.some.injEq, forall_eq',
        IgnoreAction.call.injEq, IgnoreCall.apply_eq_iff]
  | sync => exact iff_of_true nofun nofun

/-!
# Runs
-/

theorem ignoreStep_total (s : IgnoredUserLists) (a : IgnoreAction) :
    exists s', ignoreStep s a = some s' := by
  cases a with
  | call c => exact ⟨_, ignoreStep_call s c⟩
  | sync => exact ⟨_, rfl⟩

/-- No call is lost exactly if at each call the store agrees with the server on the other
users. -/
theorem callsApplied_iff (initial : IgnoredUserLists) (actions : List IgnoreAction) :
    CallsApplied initial actions <->
      (ignoreCalls initial).AllSteps StoreAgrees initial actions := by
  rcases (ignoreCalls initial).exists_runFrom_of_total ignoreStep_total initial actions
    with ⟨s, hrun⟩
  rw [CallsApplied, (ignoreCalls_updates initial).lossless_iff hrun]
  exact TransitionSystem.allSteps_congr (P := fun _ => True) (fun _ _ _ _ _ => True.intro)
    (fun s a _ _ _ => storeAgrees_iff s a) True.intro hrun

/-- Two users ignored one after the other, without a response to `/sync` in between. -/
theorem second_call_drops_first :
    exists s, (ignoreCalls ⟨none, none⟩).run
        [.call (.ignoreUser "@a:x"), .call (.ignoreUser "@b:x")] = some s ∧
      s.serverList = {"@b:x"} ∧
      ¬ CallsApplied ⟨none, none⟩
        [.call (.ignoreUser "@a:x"), .call (.ignoreUser "@b:x")] := by
  refine ⟨_, rfl, rfl, ?_⟩
  intro happlied
  have hlist := happlied _ [] _ (List.append_nil _).symm rfl
  have hmem : "@a:x" ∈ ({"@b:x"} : Finset String) := by
    rw [show ({"@b:x"} : Finset String) = _ from hlist]
    decide
  exact absurd hmem (by decide)

end Account
end MatrixGoose
