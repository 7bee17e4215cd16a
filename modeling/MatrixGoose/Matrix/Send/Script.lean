import MatrixGoose.Foundation.Script
import MatrixGoose.Matrix.Send.Calls

/-!
# What one call does

However the calls take turns, the entries of one call stand in the log in a fixed order,
each of them at most once, but for requests that the HTTP client repeats: two calls of
`send_inner` at most, and one refresh at most between them.
-/

namespace MatrixGoose

open Foundation
open Foundation.Components

namespace Send

open RefreshToken (RefreshStep)

/-- An entry of a call, without its data. -/
inductive Kind
  | sendInner (attempt : Attempt)
  | request (attempt : Attempt)
  | unknownTokenError
  | refreshAccessToken
  | refreshRequest
  | tokensRefreshed
  deriving DecidableEq

/-- The HTTP client may repeat a request. -/
def Kind.IsRequest : Kind -> Prop
  | Kind.request _ => True
  | Kind.refreshRequest => True
  | _ => False

def Entry.kindOf (i : Nat) : Entry -> Option Kind
  | Entry.setSession _ => none
  | Entry.sendInner j attempt _ => if j = i then some (Kind.sendInner attempt) else none
  | Entry.request j attempt _ => if j = i then some (Kind.request attempt) else none
  | Entry.unknownTokenError j _ => if j = i then some Kind.unknownTokenError else none
  | Entry.refreshAccessToken j => if j = i then some Kind.refreshAccessToken else none
  | Entry.refreshRequest j _ => if j = i then some Kind.refreshRequest else none
  | Entry.tokensRefreshed j _ => if j = i then some Kind.tokensRefreshed else none

def kindsOf (i : Nat) (log : List Entry) : List Kind :=
  log.filterMap (Entry.kindOf i)

def script : List Kind :=
  [Kind.sendInner Attempt.first, Kind.request Attempt.first, Kind.unknownTokenError]

def refreshScript : List Kind :=
  script ++
    [Kind.refreshAccessToken, Kind.refreshRequest, Kind.tokensRefreshed,
      Kind.sendInner Attempt.again, Kind.request Attempt.again, Kind.unknownTokenError]

section Phases

variable {Response : Type}

def SendPhase.position : SendPhase Response -> Option Nat
  | SendPhase.notStarted => some 0
  | SendPhase.serverVersions Attempt.first _ => some 1
  | SendPhase.sending Attempt.first _ => some 2
  | SendPhase.returned _ => some 3
  | _ => none

def refreshingPosition : RefreshToken.Phase -> Nat
  | RefreshToken.Phase.request _ _ => 5
  | RefreshToken.Phase.returned _ => 6
  | _ => 4

def SendPhase.refreshPosition : SendPhase Response -> Option Nat
  | SendPhase.refreshing _ phase => some (refreshingPosition phase)
  | SendPhase.refreshed => some 6
  | SendPhase.serverVersions Attempt.again _ => some 7
  | SendPhase.sending Attempt.again _ => some 8
  | SendPhase.returned _ => some 9
  | _ => none

inductive Follows (handleRefreshTokens : Bool) (kinds : List Kind)
    (phase : SendPhase Response) : Prop
  | plain (n : Nat) (hphase : phase.position = some n)
      (hkinds : FollowsScript Kind.IsRequest kinds (script.take n))
  | refresh (n : Nat) (hhandle : handleRefreshTokens = true)
      (hrefresh : Kind.refreshAccessToken ∈ kinds) (hphase : phase.refreshPosition = some n)
      (hkinds : FollowsScript Kind.IsRequest kinds (refreshScript.take n))

/-- What a call adds to the log is the next part of the script. -/
theorem follows_take_append {all kinds added : List Kind} {n m : Nat}
    (hkinds : FollowsScript Kind.IsRequest kinds (all.take n))
    (hadded : added.Sublist ((all.drop n).take m)) :
    FollowsScript Kind.IsRequest (kinds ++ added) (all.take (n + m)) := by
  rw [List.take_add]
  exact hkinds.append (FollowsScript.of_sublist hadded)

variable {handleRefreshTokens : Bool} {i : Nat}
variable {refresh refresh' : RefreshToken.Shared} {phase phase' : SendPhase Response}
variable {a : SendAction Response} {entries : List Entry}

theorem kindsOf_refreshEntries {phase phase' : RefreshToken.Phase} {a : RefreshToken.Action}
    (hstep : RefreshStep i refresh phase a refresh' phase') :
    exists m, refreshingPosition phase' = refreshingPosition phase + m ∧
      (kindsOf i (refreshEntries i phase a)).Sublist
        ((refreshScript.drop (refreshingPosition phase)).take m) := by
  cases hstep with
  | serverVersions tokens refreshToken =>
      refine ⟨1, rfl, ?_⟩
      simp [kindsOf, refreshEntries, Entry.kindOf, refreshingPosition, refreshScript, script]
  | refreshed tokens refreshToken response =>
      refine ⟨1, rfl, ?_⟩
      simp [kindsOf, refreshEntries, Entry.kindOf, refreshingPosition, refreshScript, script]
  | taken hlocked => exact ⟨0, rfl, List.nil_sublist _⟩
  | free => exact ⟨0, rfl, List.nil_sublist _⟩
  | noSession => exact ⟨2, rfl, List.nil_sublist _⟩
  | noRefreshToken => exact ⟨2, rfl, List.nil_sublist _⟩
  | readTokens tokens refreshToken => exact ⟨0, rfl, List.nil_sublist _⟩
  | noServerVersions tokens refreshToken error => exact ⟨2, rfl, List.nil_sublist _⟩
  | serverError tokens refreshToken error => exact ⟨1, rfl, List.nil_sublist _⟩
  | acquire hlocked => exact ⟨0, rfl, List.nil_sublist _⟩
  | readContent => exact ⟨2, rfl, List.nil_sublist _⟩

theorem kindsOf_unknownTokenEntries (error : SendError) :
    (kindsOf i (unknownTokenEntries i error)).Sublist [Kind.unknownTokenError] := by
  cases error with
  | unknownToken softLogout => simp [kindsOf, unknownTokenEntries, Entry.kindOf]
  | other error => exact List.nil_sublist _

/-- A step that moves a call on by as much as it adds to the log, in the script that the
call is in. -/
theorem Follows.advance {kinds added : List Kind} (m : Nat)
    (hplain : forall n, phase.position = some n ->
      phase'.position = some (n + m) ∧ added.Sublist ((script.drop n).take m))
    (hagain : forall n, phase.refreshPosition = some n ->
      phase'.refreshPosition = some (n + m) ∧
        added.Sublist ((refreshScript.drop n).take m))
    (hkinds : Follows handleRefreshTokens kinds phase) :
    Follows handleRefreshTokens (kinds ++ added) phase' := by
  rcases hkinds with ⟨n, hphase, hkinds⟩ | ⟨n, hhandle, hrefresh, hphase, hkinds⟩
  · rcases hplain n hphase with ⟨hphase', hadded⟩
    exact Follows.plain (n + m) hphase' (follows_take_append hkinds hadded)
  · rcases hagain n hphase with ⟨hphase', hadded⟩
    exact Follows.refresh (n + m) hhandle (List.mem_append_left _ hrefresh) hphase'
      (follows_take_append hkinds hadded)

theorem Follows.start_refresh {kinds added : List Kind} {n m : Nat} {softLogout : Bool}
    (hhandle : handleRefreshTokens = true)
    (hkinds : FollowsScript Kind.IsRequest kinds (script.take n))
    (hn : n <= 3) (hm : n + m = 4)
    (hadded : added.Sublist ((refreshScript.drop n).take m))
    (hrefresh : Kind.refreshAccessToken ∈ added) :
    Follows handleRefreshTokens (kinds ++ added)
      (SendPhase.refreshing softLogout RefreshToken.Phase.notStarted :
        SendPhase Response) := by
  have hscript : script.take n = refreshScript.take n := by
    unfold refreshScript
    rw [List.take_append_of_le_length]
    exact hn
  rw [hscript] at hkinds
  have happended := follows_take_append hkinds hadded
  rw [hm] at happended
  exact Follows.refresh 4 hhandle (List.mem_append_right _ hrefresh) rfl happended

theorem Follows.step {kinds : List Kind} (hkinds : Follows handleRefreshTokens kinds phase)
    (hstep : SendStep handleRefreshTokens i refresh phase a refresh' entries phase') :
    Follows handleRefreshTokens (kinds ++ kindsOf i entries) phase' := by
  cases hstep with
  | sendInner hattempt =>
      refine hkinds.advance 1 ?_ ?_ <;> intro n hphase <;>
        cases phase <;> cases hattempt <;> cases hphase
      · exact ⟨rfl, by simp [kindsOf, Entry.kindOf, script]⟩
      · exact ⟨rfl, by simp [kindsOf, Entry.kindOf, refreshScript, script]⟩
  | request attempt accessToken =>
      refine hkinds.advance 1 ?_ ?_ <;> intro n hphase <;> cases attempt <;> cases hphase
      · exact ⟨rfl, by simp [kindsOf, Entry.kindOf, script]⟩
      · exact ⟨rfl, by simp [kindsOf, Entry.kindOf, refreshScript, script]⟩
  | repeated attempt accessToken =>
      have hrequest : kindsOf i [Entry.request i attempt accessToken] =
          [Kind.request attempt] := by simp [kindsOf, Entry.kindOf]
      rw [hrequest]
      cases attempt with
      | first =>
          rcases hkinds with ⟨n, hphase, hkinds⟩ | ⟨n, _, _, hphase, _⟩ <;> cases hphase
          exact Follows.plain 2 rfl
            (FollowsScript.append_again [Kind.sendInner Attempt.first] True.intro hkinds)
      | again =>
          rcases hkinds with ⟨n, hphase, _⟩ | ⟨n, hhandle, hrefresh, hphase, hkinds⟩ <;>
            cases hphase
          exact Follows.refresh 8 hhandle (List.mem_append_left _ hrefresh) rfl
            (FollowsScript.append_again (refreshScript.take 7) True.intro hkinds)
  | repeatedRefresh softLogout tokens refreshToken =>
      have hrequest : kindsOf i [Entry.refreshRequest i refreshToken] =
          [Kind.refreshRequest] := by simp [kindsOf, Entry.kindOf]
      rw [hrequest]
      rcases hkinds with ⟨n, hphase, _⟩ | ⟨n, hhandle, hrefresh, hphase, hkinds⟩ <;>
        cases hphase
      exact Follows.refresh 5 hhandle (List.mem_append_left _ hrefresh) rfl
        (FollowsScript.append_again (refreshScript.take 4) True.intro hkinds)
  | noServerVersions attempt accessToken error =>
      refine hkinds.advance 2 ?_ ?_ <;> intro n hphase <;> cases attempt <;> cases hphase
      · exact ⟨rfl, List.nil_sublist _⟩
      · exact ⟨rfl, List.nil_sublist _⟩
  | refused attempt accessToken error =>
      refine hkinds.advance 1 ?_ ?_ <;> intro n hphase <;> cases attempt <;> cases hphase
      · exact ⟨rfl, kindsOf_unknownTokenEntries error⟩
      · exact ⟨rfl, kindsOf_unknownTokenEntries error⟩
  | answered attempt accessToken response =>
      refine hkinds.advance 1 ?_ ?_ <;> intro n hphase <;> cases attempt <;> cases hphase
      · exact ⟨rfl, List.nil_sublist _⟩
      · exact ⟨rfl, List.nil_sublist _⟩
  | refreshAfterVersions accessToken softLogout hhandle =>
      rcases hkinds with ⟨n, hphase, hkinds⟩ | ⟨n, _, _, hphase, _⟩ <;> cases hphase
      apply Follows.start_refresh (m := 3) hhandle hkinds <;>
        simp [kindsOf, Entry.kindOf, refreshScript, script]
  | refreshAfterAnswer accessToken softLogout hhandle =>
      rcases hkinds with ⟨n, hphase, hkinds⟩ | ⟨n, _, _, hphase, _⟩ <;> cases hphase
      apply Follows.start_refresh (m := 2) hhandle hkinds <;>
        simp [kindsOf, Entry.kindOf, refreshScript, script]
  | refreshing hrefresh =>
      have hstep := RefreshToken.refreshStep_of_eq_some hrefresh
      rcases kindsOf_refreshEntries hstep with ⟨m, hposition, hadded⟩
      refine hkinds.advance m ?_ ?_ <;> intro n hphase <;> cases hphase
      exact ⟨congrArg some hposition, hadded⟩
  | refreshed hresult =>
      refine hkinds.advance 0 ?_ ?_ <;> intro n hphase <;> cases hphase
      exact ⟨rfl, List.nil_sublist _⟩
  | notRefreshed hresult =>
      refine hkinds.advance 3 ?_ ?_ <;> intro n hphase <;> cases hphase
      exact ⟨rfl, List.nil_sublist _⟩

/-!
# Every call in every run
-/

theorem kindsOf_append (i : Nat) (log entries : List Entry) :
    kindsOf i (log ++ entries) = kindsOf i log ++ kindsOf i entries :=
  List.filterMap_append ..

theorem kindsOf_refreshEntries_of_ne {j : Nat} (hj : j ≠ i) (phase : RefreshToken.Phase)
    (a : RefreshToken.Action) : kindsOf i (refreshEntries j phase a) = [] := by
  unfold refreshEntries
  split <;> simp [kindsOf, Entry.kindOf, hj]

theorem SendStep.kindsOf_of_ne {j : Nat} (hj : j ≠ i)
    (hstep : SendStep handleRefreshTokens j refresh phase a refresh' entries phase') :
    kindsOf i entries = [] := by
  cases hstep with
  | refused attempt accessToken error =>
      cases error <;> simp [kindsOf, unknownTokenEntries, Entry.kindOf, hj]
  | refreshing hrefresh => exact kindsOf_refreshEntries_of_ne hj _ _
  | _ => simp [kindsOf, Entry.kindOf, hj]

abbrev CallFollows (handleRefreshTokens : Bool) (i : Nat) (shared : SendShared)
    (phase : SendPhase Response) : Prop :=
  Follows handleRefreshTokens (kindsOf i shared.log) phase

theorem callFollows_step {w w' : SendWorld Response} {e : SendEvent Response}
    (hw : Everywhere (CallFollows handleRefreshTokens) w)
    (hstep : (sends handleRefreshTokens).worldStep w e = some w') :
    Everywhere (CallFollows handleRefreshTokens) w' := by
  cases e with
  | environment sessionTokens =>
      refine everywhere_environment hw hstep ?_
      intro shared i hshared hfollows
      cases hshared
      show Follows handleRefreshTokens (kindsOf i (w.shared.log ++ _)) _
      rw [kindsOf_append]
      have hnone : kindsOf i [Entry.setSession sessionTokens] = [] := rfl
      rw [hnone, List.append_nil]
      exact hfollows
  | component i a =>
      refine everywhere_component hw hstep ?_ ?_
      · intro shared phase hlocal hfollows
        rcases sendStep_of_eq_some hlocal with ⟨entries, hlog, hown⟩
        show Follows handleRefreshTokens (kindsOf i shared.log) phase
        rw [hlog, kindsOf_append]
        exact hfollows.step hown
      · intro shared phase j hlocal hj hfollows
        rcases sendStep_of_eq_some hlocal with ⟨entries, hlog, hown⟩
        show Follows handleRefreshTokens (kindsOf j shared.log) _
        rw [hlog, kindsOf_append, hown.kindsOf_of_ne hj.symm, List.append_nil]
        exact hfollows

theorem callFollows_init :
    Everywhere (CallFollows handleRefreshTokens)
      (sends handleRefreshTokens : Components Nat SendShared (SendPhase Response) _ _).system.init := by
  intro i
  exact Follows.plain 0 rfl FollowsScript.nil

theorem Follows.script_or {kinds : List Kind} (h : Follows handleRefreshTokens kinds phase) :
    FollowsScript Kind.IsRequest kinds script ∨
      handleRefreshTokens = true ∧ Kind.refreshAccessToken ∈ kinds ∧
        FollowsScript Kind.IsRequest kinds refreshScript := by
  have hwhole : forall (all : List Kind) (n : Nat),
      FollowsScript Kind.IsRequest kinds (all.take n) ->
        FollowsScript Kind.IsRequest kinds all := by
    intro all n hkinds
    have hrest := hkinds.append (FollowsScript.of_sublist (List.nil_sublist (all.drop n)))
    rwa [List.append_nil, List.take_append_drop] at hrest
  cases h with
  | plain n hphase hkinds => exact Or.inl (hwhole script n hkinds)
  | refresh n hhandle hrefresh hphase hkinds =>
      exact Or.inr ⟨hhandle, hrefresh, hwhole refreshScript n hkinds⟩

/-- In every run the entries of a call follow the script, but for repeated requests; only a
client that handles refresh tokens leaves it for the script with a refresh. -/
theorem call_follows_script {events : List (SendEvent Response)} {w : SendWorld Response}
    (hrun : (sends handleRefreshTokens).system.run events = some w) (i : Nat) :
    FollowsScript Kind.IsRequest (kindsOf i w.shared.log) script ∨
      handleRefreshTokens = true ∧ Kind.refreshAccessToken ∈ kindsOf i w.shared.log ∧
        FollowsScript Kind.IsRequest (kindsOf i w.shared.log) refreshScript :=
  (TransitionSystem.invariant_runFrom (P := Everywhere (CallFollows handleRefreshTokens))
    (fun _ _ _ hw hstep => callFollows_step hw hstep)
    callFollows_init hrun i).script_or

/-- Call 0 sends with a token that the server refuses, after a rate limit, refreshes it and
sends again. -/
def sendRefreshSend : List (SendEvent String) :=
  [Event.environment (some { accessToken := "a0", refreshToken := some "r0" }),
    Event.component 0 SendAction.sendInner,
    Event.component 0 (SendAction.serverVersions (.ok ())),
    Event.component 0 SendAction.repeatRequest,
    Event.component 0 (SendAction.response (.error (SendError.unknownToken true))),
    Event.component 0 (SendAction.refresh RefreshToken.Action.tryLock),
    Event.component 0 (SendAction.refresh RefreshToken.Action.readSession),
    Event.component 0 (SendAction.refresh (RefreshToken.Action.serverVersions (.ok ()))),
    Event.component 0 (SendAction.refresh
      (RefreshToken.Action.response (.ok { accessToken := "a1", refreshToken := none }))),
    Event.component 0 SendAction.matchRefresh,
    Event.component 0 SendAction.sendInner,
    Event.component 0 (SendAction.serverVersions (.ok ())),
    Event.component 0 (SendAction.response (.ok "response"))]

theorem call_follows_script_refreshed :
    exists w, (sends true).system.run sendRefreshSend = some w ∧
      w.memory 0 = SendPhase.returned (.ok "response") ∧
      (FollowsScript Kind.IsRequest (kindsOf 0 w.shared.log) script ∨
        true = true ∧ Kind.refreshAccessToken ∈ kindsOf 0 w.shared.log ∧
          FollowsScript Kind.IsRequest (kindsOf 0 w.shared.log) refreshScript) := by
  have hrun : exists w, (sends true).system.run sendRefreshSend = some w ∧
      w.memory 0 = SendPhase.returned (.ok "response") := ⟨_, rfl, rfl⟩
  rcases hrun with ⟨w, hrun, hmemory⟩
  exact ⟨w, hrun, hmemory, call_follows_script hrun 0⟩

end Phases

end Send
end MatrixGoose
