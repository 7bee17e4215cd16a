import MatrixGoose.Matrix.Send.Resend

/-!
# Refreshing in turn

A refresh reads the session tokens, sends the refresh token and replaces the tokens by the
answer, all under one lock.  As long as the application does not set a session while a
call refreshes the tokens, refreshes happen as if one after the other.
-/

namespace MatrixGoose

open Foundation
open Foundation.Components

namespace Send

open RefreshToken (SessionTokens)

/-- The session tokens after an entry, if refreshes happen at once. -/
def Entry.nextTokens (tokens : Option SessionTokens) : Entry -> Option SessionTokens
  | Entry.setSession next => next
  | Entry.tokensRefreshed _ response =>
      tokens.map fun tokens => tokens.updateWithRefreshResponse response
  | _ => tokens

def sessionTokensOf (log : List Entry) : Option SessionTokens :=
  log.foldl Entry.nextTokens none

def Entry.LeavesTokens : Entry -> Prop
  | Entry.setSession _ => False
  | Entry.refreshRequest _ _ => False
  | Entry.tokensRefreshed _ _ => False
  | _ => True

def Outstanding (i : Nat) (log : List Entry) : Prop :=
  exists before refreshToken after,
    log = before ++ Entry.refreshRequest i refreshToken :: after ∧
      forall entry, entry ∈ after -> entry.LeavesTokens

/-- A refresh sends the current refresh token, and its answer comes while no other refresh
has been sent since. -/
def RefreshesInTurn (before : List Entry) : Entry -> Prop
  | Entry.refreshRequest _ refreshToken =>
      exists tokens, sessionTokensOf before = some tokens ∧
        tokens.refreshToken = some refreshToken
  | Entry.tokensRefreshed i _ => Outstanding i before
  | _ => True

section Worlds

variable {Response : Type}

def SetsInBetween (w : SendWorld Response) (e : SendEvent Response) : Prop :=
  forall tokens, e = Event.environment tokens -> forall i, ¬ Refreshes (w.memory i)

def ReadsTokens (i : Nat) (shared : SendShared) : SendPhase Response -> Prop
  | SendPhase.refreshing _ (RefreshToken.Phase.serverVersions tokens refreshToken) =>
      shared.refresh.sessionTokens = some tokens ∧ tokens.refreshToken = some refreshToken
  | SendPhase.refreshing _ (RefreshToken.Phase.request tokens refreshToken) =>
      shared.refresh.sessionTokens = some tokens ∧ tokens.refreshToken = some refreshToken ∧
        Outstanding i shared.log
  | _ => True

structure ChainKept (w : SendWorld Response) : Prop where
  exclusive : Exclusive Locked HoldsLock w
  tokens : w.shared.refresh.sessionTokens = sessionTokensOf w.shared.log
  turns : EachEntry RefreshesInTurn w.shared.log
  calls : Everywhere ReadsTokens w

variable {handleRefreshTokens : Bool} {i : Nat}
variable {refresh refresh' : RefreshToken.Shared} {phase phase' : SendPhase Response}
variable {a : SendAction Response} {entries : List Entry}

theorem sessionTokensOf_append_singleton (log : List Entry) (entry : Entry) :
    sessionTokensOf (log ++ [entry]) = entry.nextTokens (sessionTokensOf log) := by
  rw [sessionTokensOf, List.foldl_append]
  rfl

theorem sessionTokensOf_append_of_forall {log entries : List Entry}
    (hentries : forall entry, entry ∈ entries -> entry.LeavesTokens) :
    sessionTokensOf (log ++ entries) = sessionTokensOf log := by
  induction entries using List.reverseRecOn with
  | nil => rw [List.append_nil]
  | append_singleton rest entry ih =>
      have hentry := hentries entry (by simp)
      rw [← List.append_assoc, sessionTokensOf_append_singleton,
        ih fun other hmem => hentries other (List.mem_append_left _ hmem)]
      cases entry <;> first | rfl | exact hentry.elim

theorem Outstanding.append {log entries : List Entry} (h : Outstanding i log)
    (hentries : forall entry, entry ∈ entries -> entry.LeavesTokens) :
    Outstanding i (log ++ entries) := by
  rcases h with ⟨before, refreshToken, after, rfl, hafter⟩
  refine ⟨before, refreshToken, after ++ entries, by simp, ?_⟩
  intro entry hmem
  rcases List.mem_append.mp hmem with h | h
  · exact hafter entry h
  · exact hentries entry h

theorem SendStep.leavesTokens (hnot : ¬ Refreshes phase)
    (hstep : SendStep handleRefreshTokens i refresh phase a refresh' entries phase') :
    refresh'.sessionTokens = refresh.sessionTokens ∧
      forall entry, entry ∈ entries -> entry.LeavesTokens := by
  cases hstep with
  | refused attempt accessToken error =>
      cases error <;> simp [unknownTokenEntries, Entry.LeavesTokens]
  | refreshing hrefresh =>
      have hown := RefreshToken.refreshStep_of_eq_some hrefresh
      cases hown with
      | taken hlocked => simp [refreshEntries]
      | free => simp [refreshEntries]
      | acquire hlocked => simp [refreshEntries]
      | readContent => simp [refreshEntries]
      | _ => exact absurd True.intro hnot
  | repeatedRefresh softLogout tokens refreshToken => exact absurd True.intro hnot
  | _ => simp [Entry.LeavesTokens]

theorem RefreshesInTurn.of_leavesTokens {entry : Entry} (h : entry.LeavesTokens)
    (before : List Entry) : RefreshesInTurn before entry := by
  cases entry <;> first | exact True.intro | exact h.elim

theorem tokens_of_readTokens {tokens : SessionTokens} {refreshToken : String}
    (hstep : RefreshToken.refreshStep i refresh RefreshToken.Phase.holding
      RefreshToken.Action.readSession =
        some (refresh', RefreshToken.Phase.serverVersions tokens refreshToken)) :
    refresh'.sessionTokens = some tokens ∧ tokens.refreshToken = some refreshToken := by
  simp only [RefreshToken.refreshStep, RefreshToken.readSession] at hstep
  split at hstep
  · cases hstep
  · next read hread =>
      split at hstep
      · cases hstep
      · next token htoken =>
          cases hstep
          exact ⟨hread, htoken⟩

theorem inTurn_append_nil {log : List Entry} {tokens : Option SessionTokens} {rest : Prop}
    (htokens : tokens = sessionTokensOf log) (hturns : EachEntry RefreshesInTurn log)
    (hrest : rest) :
    tokens = sessionTokensOf (log ++ []) ∧ EachEntry RefreshesInTurn (log ++ []) ∧ rest := by
  rw [List.append_nil]
  exact ⟨htokens, hturns, hrest⟩

theorem inTurn_refreshRequest {log : List Entry} {session : Option SessionTokens}
    {tokens : SessionTokens} {refreshToken : String}
    (htokens : session = sessionTokensOf log) (hturns : EachEntry RefreshesInTurn log)
    (hread : session = some tokens) (htoken : tokens.refreshToken = some refreshToken) :
    session = sessionTokensOf (log ++ [Entry.refreshRequest i refreshToken]) ∧
      EachEntry RefreshesInTurn (log ++ [Entry.refreshRequest i refreshToken]) ∧
      session = some tokens ∧ tokens.refreshToken = some refreshToken ∧
      Outstanding i (log ++ [Entry.refreshRequest i refreshToken]) := by
  refine ⟨?_, ?_, hread, htoken, log, refreshToken, [], rfl, nofun⟩
  · rw [htokens, sessionTokensOf_append_singleton]
    rfl
  · rw [htokens] at hread
    exact eachEntry_append_singleton.mpr ⟨hturns, tokens, hread, htoken⟩

theorem SendStep.refreshes {shared : SendShared} (hrefreshes : Refreshes phase)
    (hkept : ReadsTokens i shared phase)
    (htokens : shared.refresh.sessionTokens = sessionTokensOf shared.log)
    (hturns : EachEntry RefreshesInTurn shared.log)
    (hstep : SendStep handleRefreshTokens i shared.refresh phase a refresh' entries phase') :
    refresh'.sessionTokens = sessionTokensOf (shared.log ++ entries) ∧
      EachEntry RefreshesInTurn (shared.log ++ entries) ∧
      ReadsTokens i { refresh := refresh', log := shared.log ++ entries } phase' := by
  cases hstep with
  | sendInner hattempt =>
      exact absurd (holdsLock_of_refreshes hrefreshes) (not_holdsLock_of_nextAttempt hattempt)
  | refreshing hrefresh =>
      have hown := RefreshToken.refreshStep_of_eq_some hrefresh
      cases hown with
      | readTokens tokens refreshToken =>
          exact inTurn_append_nil htokens hturns (tokens_of_readTokens hrefresh)
      | serverVersions tokens refreshToken =>
          rcases hkept with ⟨hread, htoken⟩
          exact inTurn_refreshRequest htokens hturns hread htoken
      | refreshed tokens refreshToken response =>
          rcases hkept with ⟨hread, _, houtstanding⟩
          refine ⟨?_, eachEntry_append_singleton.mpr ⟨hturns, houtstanding⟩, True.intro⟩
          rw [htokens] at hread
          show some (tokens.updateWithRefreshResponse response) =
            sessionTokensOf (shared.log ++ [Entry.tokensRefreshed i response])
          rw [sessionTokensOf_append_singleton, hread]
          rfl
      | noSession => exact inTurn_append_nil htokens hturns True.intro
      | noRefreshToken => exact inTurn_append_nil htokens hturns True.intro
      | noServerVersions tokens refreshToken error =>
          exact inTurn_append_nil htokens hturns True.intro
      | serverError tokens refreshToken error =>
          exact inTurn_append_nil htokens hturns True.intro
      | _ => exact hrefreshes.elim
  | repeatedRefresh softLogout tokens refreshToken =>
      rcases hkept with ⟨hread, htoken, _⟩
      exact inTurn_refreshRequest htokens hturns hread htoken
  | _ => exact hrefreshes.elim

/-!
# Runs
-/

theorem ReadsTokens.of_not_refreshes {shared : SendShared} (hnot : ¬ Refreshes phase) :
    ReadsTokens i shared phase := by
  cases phase with
  | refreshing softLogout phase => cases phase <;> first | exact True.intro | exact absurd True.intro hnot
  | _ => exact True.intro

theorem ReadsTokens.append {shared shared' : SendShared}
    (hread : ReadsTokens i shared phase)
    (hsession : shared'.refresh.sessionTokens = shared.refresh.sessionTokens)
    (hlog : shared'.log = shared.log ++ entries)
    (hentries : forall entry, entry ∈ entries -> entry.LeavesTokens) :
    ReadsTokens i shared' phase := by
  cases phase with
  | refreshing softLogout phase =>
      cases phase with
      | serverVersions tokens refreshToken =>
          refine ⟨?_, hread.2⟩
          rw [hsession]
          exact hread.1
      | request tokens refreshToken =>
          refine ⟨?_, hread.2.1, ?_⟩
          · rw [hsession]
            exact hread.1
          · rw [hlog]
            exact hread.2.2.append hentries
      | _ => exact True.intro
  | _ => exact True.intro

theorem SendStep.readsTokens {shared' : SendShared} (hnot : ¬ Refreshes phase)
    (hstep : SendStep handleRefreshTokens i refresh phase a refresh' entries phase') :
    ReadsTokens i shared' phase' := by
  cases hstep with
  | refreshing hrefresh =>
      have hown := RefreshToken.refreshStep_of_eq_some hrefresh
      cases hown with
      | readTokens tokens refreshToken => exact absurd True.intro hnot
      | serverVersions tokens refreshToken => exact absurd True.intro hnot
      | _ => exact True.intro
  | repeatedRefresh softLogout tokens refreshToken => exact absurd True.intro hnot
  | _ => exact True.intro

theorem chainKept_component {w w' : SendWorld Response} (hw : ChainKept w)
    (hstep : (sends handleRefreshTokens).worldStep w (Event.component i a) = some w') :
    ChainKept w' := by
  have hexclusive := hw.exclusive.step mutex_sends hstep
  rcases sendStep_of_eq_some (step_of_worldStep hstep) with ⟨entries, hlog, hown⟩
  by_cases hrefreshes : Refreshes (w.memory i)
  · rcases hown.refreshes hrefreshes (hw.calls i) hw.tokens hw.turns with
      ⟨htokens, hturns, hread⟩
    rw [← hlog] at htokens hturns hread
    refine ⟨hexclusive, htokens, hturns, ?_⟩
    -- The others do not hold the lock, so they have read nothing.
    intro j
    rcases memory_eq_or hstep j with h | ⟨b, h, _⟩
    · rcases eq_or_ne j i with hj | hj
      · subst hj
        exact hread
      · rw [h]
        apply ReadsTokens.of_not_refreshes
        intro hother
        exact hw.exclusive.not_holds_of_ne (holdsLock_of_refreshes hrefreshes) hj
          (holdsLock_of_refreshes hother)
    · cases h
      exact hread
  · rcases hown.leavesTokens hrefreshes with ⟨hsession, hentries⟩
    refine ⟨hexclusive, ?_, ?_, ?_⟩
    · rw [hsession, hlog, sessionTokensOf_append_of_forall hentries]
      exact hw.tokens
    · rw [hlog]
      exact hw.turns.append_of_forall fun entry hmem =>
        RefreshesInTurn.of_leavesTokens (hentries entry hmem)
    · intro j
      rcases memory_eq_or hstep j with h | ⟨b, h, _⟩
      · rw [h]
        exact (hw.calls j).append hsession hlog hentries
      · cases h
        exact hown.readsTokens hrefreshes

theorem chainKept_step {w w' : SendWorld Response} {e : SendEvent Response}
    (hw : ChainKept w) (hsets : SetsInBetween w e)
    (hstep : (sends handleRefreshTokens).worldStep w e = some w') : ChainKept w' := by
  cases e with
  | environment sessionTokens =>
      have hexclusive := hw.exclusive.step mutex_sends hstep
      rcases worldStep_environment_eq_some.mp hstep with ⟨shared, hshared, rfl⟩
      cases hshared
      refine ⟨hexclusive, ?_, ?_, ?_⟩
      · exact (sessionTokensOf_append_singleton w.shared.log
          (Entry.setSession sessionTokens)).symm
      · exact eachEntry_append_singleton.mpr ⟨hw.turns, True.intro⟩
      · intro i
        exact ReadsTokens.of_not_refreshes (hsets sessionTokens rfl i)
  | component i a => exact chainKept_component hw hstep

theorem chainKept_init :
    ChainKept (sends handleRefreshTokens :
      Components Nat SendShared (SendPhase Response) _ _).system.init where
  exclusive := Exclusive.of_forall_not fun _ => id
  tokens := rfl
  turns := EachEntry.nil
  calls := fun _ => True.intro

/-- In a run whose application sets no session while a call refreshes the tokens, the
session tokens are those that the refreshes come to one after the other, and each refresh
sends the refresh token that the one before it has left. -/
theorem refreshes_in_turn {events : List (SendEvent Response)} {w : SendWorld Response}
    (hrun : (sends handleRefreshTokens).system.run events = some w)
    (hsets : (sends handleRefreshTokens).system.AllSteps SetsInBetween
      (sends handleRefreshTokens).system.init events) :
    w.shared.refresh.sessionTokens = sessionTokensOf w.shared.log ∧
      EachEntry RefreshesInTurn w.shared.log := by
  have hkept : ChainKept w :=
    TransitionSystem.invariant_runFrom_of_allSteps (P := ChainKept)
      (fun _ _ _ hw hsets hstep => chainKept_step hw hsets hstep) chainKept_init hsets hrun
  exact ⟨hkept.tokens, hkept.turns⟩

/-- Call 1 is refused with the token that call 0 has got, and refreshes it once more. -/
def refreshTwice : List (SendEvent String) :=
  sendRefreshSend ++
    [Event.component 1 SendAction.sendInner,
      Event.component 1 (SendAction.serverVersions (.ok ())),
      Event.component 1 (SendAction.response (.error (SendError.unknownToken true))),
      Event.component 1 (SendAction.refresh RefreshToken.Action.tryLock),
      Event.component 1 (SendAction.refresh RefreshToken.Action.readSession),
      Event.component 1 (SendAction.refresh (RefreshToken.Action.serverVersions (.ok ()))),
      Event.component 1 SendAction.repeatRequest,
      Event.component 1 (SendAction.refresh (RefreshToken.Action.response
        (.ok { accessToken := "a2", refreshToken := some "r1" })))]

theorem refreshes_in_turn_refreshed :
    exists w, (sends true).system.run refreshTwice = some w ∧
      w.shared.refresh.sessionTokens =
        some { accessToken := "a2", refreshToken := some "r1" } ∧
      w.shared.refresh.sessionTokens = sessionTokensOf w.shared.log ∧
      EachEntry RefreshesInTurn w.shared.log := by
  have hrun : exists w, (sends true).system.run refreshTwice = some w ∧
      w.shared.refresh.sessionTokens =
        some { accessToken := "a2", refreshToken := some "r1" } := ⟨_, rfl, rfl⟩
  have hsets : (sends true).system.AllSteps SetsInBetween (sends true).system.init
      refreshTwice := by
    refine ⟨fun _ _ _ => id, fun w _ => ?_⟩
    apply TransitionSystem.allSteps_of_forall_mem
    intro e hmem w tokens he
    subst he
    simp at hmem
  rcases hrun with ⟨w, hrun, htokens⟩
  exact ⟨w, hrun, htokens, refreshes_in_turn hrun hsets⟩

/-- A session that is restored while a call refreshes the tokens is overwritten. -/
example : exists w, (sends true).system.run
      (sendRefreshSend.take 8 ++
        [Event.environment (some { accessToken := "b0", refreshToken := some "q0" })] ++
        (sendRefreshSend.drop 8).take 1) = some w ∧
    w.shared.refresh.sessionTokens =
      some { accessToken := "a1", refreshToken := some "r0" } :=
  ⟨_, rfl, rfl⟩

end Worlds

end Send
end MatrixGoose
