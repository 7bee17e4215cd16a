import MatrixGoose.Foundation.Register
import MatrixGoose.Matrix.Send.Script

/-!
# Sending again with another token

A call that finds the lock of the refresh taken waits for the call that holds it.  As long
as that call refreshes the tokens and does not return early, `send_inner` is only called
again after the tokens were refreshed.  Its requests, the repeated ones too, carry the
token that it has read.
-/

namespace MatrixGoose

open Foundation
open Foundation.Components

namespace Send

open RefreshToken (SessionTokens RefreshStep)

/-- The access token that an entry sets; none if it logs out. -/
def Entry.writtenToken : Entry -> Option (Option String)
  | Entry.setSession tokens => some (tokens.map SessionTokens.accessToken)
  | Entry.tokensRefreshed _ response => some (some response.accessToken)
  | _ => none

abbrev accessTokenOf (log : List Entry) : Option String :=
  Register.contentOf Entry.writtenToken none log

def RefreshedSince (i : Nat) (log : List Entry) : Prop :=
  exists before j response after,
    log = before ++ Entry.tokensRefreshed j response :: after ∧
      forall accessToken, Entry.sendInner i Attempt.first accessToken ∉ after

def Entry.readBy (i : Nat) : Entry -> Option (Option (Attempt × Option String))
  | Entry.sendInner j attempt accessToken =>
      if j = i then some (some (attempt, accessToken)) else none
  | _ => none

abbrev lastReadOf (i : Nat) (log : List Entry) : Option (Attempt × Option String) :=
  Register.contentOf (Entry.readBy i) none log

def CarriesLastRead (before : List Entry) : Entry -> Prop
  | Entry.request i attempt accessToken => lastReadOf i before = some (attempt, accessToken)
  | _ => True

/-- A call reads the current access token, and the second time the tokens have been
refreshed since the first time. -/
def SendsCurrentToken (before : List Entry) : Entry -> Prop
  | Entry.sendInner i attempt accessToken =>
      accessToken = accessTokenOf before ∧ (attempt = Attempt.again -> RefreshedSince i before)
  | _ => True

section Worlds

variable {Response : Type}

/-- The call is between taking the lock and giving it back, as the one that refreshes. -/
def Refreshes : SendPhase Response -> Prop
  | SendPhase.refreshing _ RefreshToken.Phase.holding => True
  | SendPhase.refreshing _ (RefreshToken.Phase.serverVersions _ _) => True
  | SendPhase.refreshing _ (RefreshToken.Phase.request _ _) => True
  | _ => False

/-- The call holds the lock, if only to read what it contains. -/
def HoldsLock : SendPhase Response -> Prop
  | SendPhase.refreshing _ RefreshToken.Phase.matching => True
  | phase => Refreshes phase

def Locked (shared : SendShared) : Prop :=
  shared.refresh.locked = true

/-- A call that finds the lock taken finds it taken by one that refreshes, which has a
refresh token and gets the server versions. -/
structure RefreshesForOthers (w : SendWorld Response) (e : SendEvent Response) : Prop where
  meets : forall i,
    e = Event.component i (SendAction.refresh RefreshToken.Action.tryLock) ->
      Locked w.shared -> exists j, Refreshes (w.memory j)
  token : forall i tokens,
    e = Event.component i (SendAction.refresh RefreshToken.Action.readSession) ->
      w.shared.refresh.sessionTokens = some tokens -> tokens.refreshToken ≠ none
  versions : forall i error,
    e ≠ Event.component i (SendAction.refresh
      (RefreshToken.Action.serverVersions (.error error)))

/-!
# The lock
-/

variable {handleRefreshTokens : Bool} {i : Nat}
variable {refresh refresh' : RefreshToken.Shared} {phase phase' : SendPhase Response}
variable {a : SendAction Response} {entries : List Entry}

theorem not_holdsLock_of_nextAttempt {attempt : Attempt}
    (hattempt : phase.nextAttempt = some attempt) : ¬ HoldsLock phase := by
  cases phase <;> cases hattempt <;> exact id

theorem refreshStep_lockStep {softLogout : Bool} {phase phase' : RefreshToken.Phase}
    {a : RefreshToken.Action}
    (hstep : RefreshToken.refreshStep i refresh phase a = some (refresh', phase')) :
    LockStep (refresh.locked = true) (refresh'.locked = true)
      (HoldsLock (SendPhase.refreshing softLogout phase : SendPhase Response))
      (HoldsLock (SendPhase.refreshing softLogout phase' : SendPhase Response)) := by
  have hown := RefreshToken.refreshStep_of_eq_some hstep
  cases hown with
  | free =>
      have hfree : refresh.locked ≠ true := by
        intro hlocked
        simp [RefreshToken.refreshStep, hlocked] at hstep
      exact LockStep.acquired hfree rfl
  | acquire hlocked => exact LockStep.acquired (by simp [hlocked]) rfl
  | taken hlocked => exact LockStep.idle Iff.rfl Iff.rfl
  | readTokens tokens refreshToken => exact LockStep.idle Iff.rfl Iff.rfl
  | serverVersions tokens refreshToken => exact LockStep.idle Iff.rfl Iff.rfl
  | _ => exact LockStep.released True.intro id

theorem SendStep.lockStep
    (hstep : SendStep handleRefreshTokens i refresh phase a refresh' entries phase') :
    LockStep (refresh.locked = true) (refresh'.locked = true) (HoldsLock phase)
      (HoldsLock phase') := by
  cases hstep with
  | sendInner hattempt =>
      exact LockStep.idle Iff.rfl (iff_of_false id (not_holdsLock_of_nextAttempt hattempt))
  | refreshing hrefresh => exact refreshStep_lockStep hrefresh
  | _ => exact LockStep.idle Iff.rfl Iff.rfl

theorem mutex_sends :
    Mutex (sends handleRefreshTokens : Components Nat SendShared (SendPhase Response) _ _)
      Locked HoldsLock where
  step := by
    intro i shared memory a shared' memory' hstep
    rcases sendStep_of_eq_some hstep with ⟨entries, _, hown⟩
    exact hown.lockStep
  environment := by
    intro shared e shared' he
    cases he
    exact Iff.rfl

theorem holdsLock_of_refreshes (h : Refreshes phase) : HoldsLock phase := by
  cases phase with
  | refreshing softLogout phase => cases phase <;> first | exact h | exact True.intro
  | _ => exact h

/-!
# What the entries of a step tell
-/

theorem unknownTokenEntries_none (error : SendError) :
    forall entry, entry ∈ unknownTokenEntries i error -> entry.writtenToken = none := by
  intro entry hmem
  cases error with
  | unknownToken softLogout =>
      rw [List.mem_singleton.mp hmem]
      rfl
  | other error => cases hmem

theorem SendStep.writes
    (hstep : SendStep handleRefreshTokens i refresh phase a refresh' entries phase') :
    (refresh'.sessionTokens = refresh.sessionTokens ∧
        forall entry, entry ∈ entries -> entry.writtenToken = none) ∨
      exists tokens response, entries = [Entry.tokensRefreshed i response] ∧
        refresh'.sessionTokens = some (SessionTokens.updateWithRefreshResponse tokens response) := by
  cases hstep with
  | refused attempt accessToken error => exact Or.inl ⟨rfl, unknownTokenEntries_none error⟩
  | refreshing hrefresh =>
      have hown := RefreshToken.refreshStep_of_eq_some hrefresh
      cases hown with
      | refreshed tokens refreshToken response => exact Or.inr ⟨tokens, response, rfl, rfl⟩
      | _ => exact Or.inl ⟨rfl, by simp [refreshEntries, Entry.writtenToken]⟩
  | _ => exact Or.inl ⟨rfl, by simp [Entry.writtenToken]⟩

theorem SendStep.sendInner_mem {j : Nat} {accessToken : Option String}
    (hstep : SendStep handleRefreshTokens i refresh phase a refresh' entries phase')
    (hmem : Entry.sendInner j Attempt.first accessToken ∈ entries) :
    j = i ∧ phase = SendPhase.notStarted := by
  cases hstep with
  | sendInner hattempt =>
      cases List.mem_singleton.mp hmem
      cases phase <;> cases hattempt
      exact ⟨rfl, rfl⟩
  | refused attempt token error => cases error <;> simp [unknownTokenEntries] at hmem
  | refreshing hrefresh =>
      unfold refreshEntries at hmem
      split at hmem <;> simp at hmem
  | _ => simp at hmem

theorem SendStep.sends
    (hstep : SendStep handleRefreshTokens i refresh phase a refresh' entries phase') :
    (exists attempt, phase.nextAttempt = some attempt ∧
        entries = [Entry.sendInner i attempt
          (refresh.sessionTokens.map SessionTokens.accessToken)]) ∨
      forall entry, entry ∈ entries -> forall before, SendsCurrentToken before entry := by
  cases hstep with
  | @sendInner _ attempt hattempt => exact Or.inl ⟨attempt, hattempt, rfl⟩
  | refused attempt accessToken error =>
      right
      cases error <;> simp [unknownTokenEntries, SendsCurrentToken]
  | refreshing hrefresh =>
      right
      unfold refreshEntries
      split <;> simp [SendsCurrentToken]
  | _ =>
      right
      simp [SendsCurrentToken]

theorem exists_tokens_of_noRefreshToken
    (hstep : RefreshToken.refreshStep i refresh RefreshToken.Phase.holding
      RefreshToken.Action.readSession =
        some (refresh', RefreshToken.Phase.returned RefreshToken.Ending.noRefreshToken)) :
    exists tokens, refresh.sessionTokens = some tokens ∧ tokens.refreshToken = none := by
  simp only [RefreshToken.refreshStep, RefreshToken.readSession] at hstep
  split at hstep
  · cases hstep
  · next tokens htokens =>
      split at hstep
      · next hnone => exact ⟨tokens, htokens, hnone⟩
      · cases hstep

theorem SendStep.effect {w : SendWorld Response} (hrefresh : refresh = w.shared.refresh)
    (hothers : RefreshesForOthers w (Event.component i a))
    (hstep : SendStep handleRefreshTokens i refresh phase a refresh' entries phase') :
    (refresh'.content = refresh.content ∧ (Refreshes phase -> Refreshes phase')) ∨
      (exists error, refresh'.content = .error error) ∨
      exists response, entries = [Entry.tokensRefreshed i response] := by
  cases hstep with
  | sendInner hattempt =>
      left
      refine ⟨rfl, fun h => ?_⟩
      exact absurd (holdsLock_of_refreshes h) (not_holdsLock_of_nextAttempt hattempt)
  | refreshing hown =>
      have hcases := RefreshToken.refreshStep_of_eq_some hown
      cases hcases with
      | noSession => exact Or.inr (Or.inl ⟨_, rfl⟩)
      | noRefreshToken =>
          rcases exists_tokens_of_noRefreshToken hown with ⟨tokens, htokens, hnone⟩
          rw [hrefresh] at htokens
          exact absurd hnone (hothers.token i tokens rfl htokens)
      | noServerVersions tokens refreshToken error => exact absurd rfl (hothers.versions i error)
      | refreshed tokens refreshToken response => exact Or.inr (Or.inr ⟨response, rfl⟩)
      | serverError tokens refreshToken error => exact Or.inr (Or.inl ⟨_, rfl⟩)
      | _ => exact Or.inl ⟨rfl, fun _ => by first | exact True.intro | contradiction⟩
  | repeatedRefresh softLogout tokens refreshToken => exact Or.inl ⟨rfl, id⟩
  | _ => exact Or.inl ⟨rfl, False.elim⟩

/-!
# What a request carries
-/

def ReadKept (i : Nat) (shared : SendShared) : SendPhase Response -> Prop
  | SendPhase.serverVersions attempt accessToken =>
      lastReadOf i shared.log = some (attempt, accessToken)
  | SendPhase.sending attempt accessToken =>
      lastReadOf i shared.log = some (attempt, accessToken)
  | _ => True

structure RequestsKept (w : SendWorld Response) : Prop where
  carried : EachEntry CarriesLastRead w.shared.log
  reads : Everywhere ReadKept w

theorem ReadKept.append {shared shared' : SendShared}
    (hlog : shared'.log = shared.log ++ entries)
    (hentries : forall entry, entry ∈ entries -> entry.readBy i = none)
    (h : ReadKept i shared phase) : ReadKept i shared' phase := by
  have hkept : lastReadOf i shared'.log = lastReadOf i shared.log := by
    rw [hlog]
    exact Register.contentOf_append_of_forall hentries
  cases phase with
  | serverVersions attempt accessToken => exact hkept.trans h
  | sending attempt accessToken => exact hkept.trans h
  | _ => exact True.intro

theorem SendStep.readBy_of_ne {j : Nat} (hj : i ≠ j)
    (hstep : SendStep handleRefreshTokens i refresh phase a refresh' entries phase') :
    forall entry, entry ∈ entries -> entry.readBy j = none := by
  cases hstep with
  | refused attempt accessToken error =>
      cases error <;> simp [unknownTokenEntries, Entry.readBy]
  | refreshing hrefresh =>
      unfold refreshEntries
      split <;> simp [Entry.readBy]
  | _ => simp [Entry.readBy, hj]

theorem SendStep.readKept {shared shared' : SendShared}
    (hlog : shared'.log = shared.log ++ entries) (hkept : ReadKept i shared phase)
    (hstep : SendStep handleRefreshTokens i refresh phase a refresh' entries phase') :
    ReadKept i shared' phase' ∧
      forall entry, entry ∈ entries -> CarriesLastRead shared.log entry := by
  cases hstep with
  | @sendInner _ attempt hattempt =>
      refine ⟨?_, by simp [CarriesLastRead]⟩
      show lastReadOf i shared'.log = _
      rw [hlog, lastReadOf, Register.contentOf_append_singleton]
      simp [Entry.readBy]
  | request attempt accessToken =>
      have hsending : ReadKept i shared (SendPhase.sending attempt accessToken :
          SendPhase Response) := hkept
      refine ⟨hsending.append hlog (by simp [Entry.readBy]), ?_⟩
      intro entry hmem
      rw [List.mem_singleton.mp hmem]
      exact hkept
  | repeated attempt accessToken =>
      refine ⟨hkept.append hlog (by simp [Entry.readBy]), ?_⟩
      intro entry hmem
      rw [List.mem_singleton.mp hmem]
      exact hkept
  | refused attempt accessToken error =>
      refine ⟨True.intro, ?_⟩
      cases error <;> simp [unknownTokenEntries, CarriesLastRead]
  | refreshing hrefresh =>
      refine ⟨True.intro, ?_⟩
      unfold refreshEntries
      split <;> simp [CarriesLastRead]
  | _ => exact ⟨True.intro, by simp [CarriesLastRead]⟩

theorem SendStep.eachEntry {log : List Entry}
    (hstep : SendStep handleRefreshTokens i refresh phase a refresh' entries phase')
    (hlog : EachEntry CarriesLastRead log)
    (hentries : forall entry, entry ∈ entries -> CarriesLastRead log entry) :
    EachEntry CarriesLastRead (log ++ entries) := by
  have hother : (forall entry, entry ∈ entries ->
      forall before, CarriesLastRead before entry) ->
        EachEntry CarriesLastRead (log ++ entries) := hlog.append_of_forall
  cases hstep with
  | request attempt accessToken =>
      exact eachEntry_append_singleton.mpr ⟨hlog, hentries _ List.mem_cons_self⟩
  | repeated attempt accessToken =>
      exact eachEntry_append_singleton.mpr ⟨hlog, hentries _ List.mem_cons_self⟩
  | refused attempt accessToken error =>
      apply hother
      cases error <;> simp [unknownTokenEntries, CarriesLastRead]
  | refreshing hrefresh =>
      apply hother
      unfold refreshEntries
      split <;> simp [CarriesLastRead]
  | _ =>
      apply hother
      simp [CarriesLastRead]

theorem requestsKept_step {w w' : SendWorld Response} {e : SendEvent Response}
    (hw : RequestsKept w) (hstep : (sends handleRefreshTokens).worldStep w e = some w') :
    RequestsKept w' := by
  cases e with
  | environment sessionTokens =>
      rcases worldStep_environment_eq_some.mp hstep with ⟨shared, hshared, rfl⟩
      cases hshared
      refine ⟨eachEntry_append_singleton.mpr ⟨hw.carried, True.intro⟩, ?_⟩
      intro i
      exact (hw.reads i).append rfl (by simp [Entry.readBy])
  | component i a =>
      rcases sendStep_of_eq_some (step_of_worldStep hstep) with ⟨entries, hlog, hown⟩
      rcases hown.readKept hlog (hw.reads i) with ⟨hkept, hentries⟩
      refine ⟨?_, ?_⟩
      · rw [hlog]
        exact hown.eachEntry hw.carried hentries
      · intro j
        by_cases hj : j = i
        · subst hj
          exact hkept
        · rw [memory_of_ne hstep hj]
          exact (hw.reads j).append hlog (hown.readBy_of_ne (Ne.symm hj))

theorem requestsKept_init :
    RequestsKept (sends handleRefreshTokens :
      Components Nat SendShared (SendPhase Response) _ _).system.init where
  carried := EachEntry.nil
  reads := fun _ => True.intro

/-!
# The invariant
-/

def Settled (i : Nat) (shared : SendShared) : Prop :=
  RefreshedSince i shared.log ∨ exists error, shared.refresh.content = .error error

def CallKept (refreshing : Prop) (i : Nat) (shared : SendShared) :
    SendPhase Response -> Prop
  | SendPhase.refreshing _ RefreshToken.Phase.waiting => Settled i shared ∨ refreshing
  | SendPhase.refreshing _ RefreshToken.Phase.matching => Settled i shared
  | SendPhase.refreshing _ (RefreshToken.Phase.returned ending) =>
      (exists answer, ending.result = .ok answer) -> RefreshedSince i shared.log
  | SendPhase.refreshed => RefreshedSince i shared.log
  | _ => True

structure ResendKept (w : SendWorld Response) : Prop where
  exclusive : Exclusive Locked HoldsLock w
  token : w.shared.refresh.sessionTokens.map SessionTokens.accessToken =
    accessTokenOf w.shared.log
  sent : EachEntry SendsCurrentToken w.shared.log
  calls : forall i, CallKept (exists j, Refreshes (w.memory j)) i w.shared (w.memory i)

theorem RefreshedSince.append {log : List Entry} (h : RefreshedSince i log)
    (hentries : forall accessToken,
      Entry.sendInner i Attempt.first accessToken ∉ entries) :
    RefreshedSince i (log ++ entries) := by
  rcases h with ⟨before, j, response, after, rfl, hafter⟩
  refine ⟨before, j, response, after ++ entries, by simp, ?_⟩
  intro accessToken hmem
  rcases List.mem_append.mp hmem with h | h
  · exact hafter accessToken h
  · exact hentries accessToken h

theorem refreshedSince_tokensRefreshed (i j : Nat) (log : List Entry)
    (response : RefreshToken.Response) :
    RefreshedSince i (log ++ [Entry.tokensRefreshed j response]) :=
  ⟨log, j, response, [], rfl, fun _ => List.not_mem_nil⟩

theorem CallKept.mono {refreshing refreshing' : Prop} {shared shared' : SendShared}
    (hkept : CallKept refreshing i shared phase)
    (hsince : RefreshedSince i shared.log -> RefreshedSince i shared'.log)
    (hsettled : Settled i shared -> Settled i shared')
    (hrefreshing : refreshing -> Settled i shared' ∨ refreshing') :
    CallKept refreshing' i shared' phase := by
  cases phase with
  | refreshed => exact hsince hkept
  | refreshing softLogout phase =>
      cases phase with
      | waiting =>
          rcases hkept with h | h
          · exact Or.inl (hsettled h)
          · exact hrefreshing h
      | matching => exact hsettled hkept
      | returned ending => exact fun h => hsince (hkept h)
      | _ => exact True.intro
  | _ => exact True.intro

theorem RefreshedSince.emit {shared shared' : SendShared} {j : Nat}
    (hlog : shared'.log = shared.log ++ entries)
    (hstep : SendStep handleRefreshTokens i refresh phase a refresh' entries phase')
    (hown : j = i -> phase ≠ SendPhase.notStarted) (h : RefreshedSince j shared.log) :
    RefreshedSince j shared'.log := by
  rw [hlog]
  apply h.append
  intro accessToken hmem
  rcases hstep.sendInner_mem hmem with ⟨hj, hphase⟩
  exact hown hj hphase

theorem CallKept.step {w w' : SendWorld Response} (hw : ResendKept w)
    (hworld : (sends handleRefreshTokens).worldStep w (Event.component i a) = some w')
    (hothers : RefreshesForOthers w (Event.component i a))
    (hlog : w'.shared.log = w.shared.log ++ entries)
    (hstep : SendStep handleRefreshTokens i w.shared.refresh (w.memory i) a
      w'.shared.refresh entries (w'.memory i)) :
    CallKept (exists j, Refreshes (w'.memory j)) i w'.shared (w'.memory i) := by
  have hkept := hw.calls i
  have hsame : forall j, j ≠ i -> w'.memory j = w.memory j :=
    fun j hj => memory_of_ne hworld hj
  generalize hphase : w.memory i = phase at hstep hkept
  generalize hphase' : w'.memory i = phase' at hstep
  generalize hshared : w'.shared.refresh = refresh' at hstep
  have hsince : phase ≠ SendPhase.notStarted -> RefreshedSince i w.shared.log ->
      RefreshedSince i w'.shared.log := fun hne h => h.emit hlog hstep fun _ => hne
  cases hstep with
  | refreshed hresult => exact hsince nofun (hkept ⟨_, hresult⟩)
  | refreshing hown =>
      have hcases := RefreshToken.refreshStep_of_eq_some hown
      cases hcases with
      | taken hlocked =>
          rcases hothers.meets i rfl hlocked with ⟨j, hj⟩
          have hji : j ≠ i := by
            intro hji
            subst hji
            rw [hphase] at hj
            exact hj
          refine Or.inr ⟨j, ?_⟩
          rw [hsame j hji]
          exact hj
      | acquire hlocked =>
          have hfree : ¬ Locked w.shared := by
            unfold Locked
            simp [hlocked]
          rcases hkept with (h | ⟨error, h⟩) | ⟨j, hj⟩
          · exact Or.inl (hsince nofun h)
          · refine Or.inr ⟨error, ?_⟩
            rw [hshared]
            exact h
          · exact absurd (holdsLock_of_refreshes hj) (hw.exclusive.not_holds hfree j)
      | readContent =>
          intro hanswer
          rcases hanswer with ⟨answer, hanswer⟩
          rcases hkept with h | ⟨error, h⟩
          · exact hsince nofun h
          · rw [h] at hanswer
            cases hanswer
      | refreshed tokens refreshToken response =>
          intro _
          rw [hlog]
          exact refreshedSince_tokensRefreshed i i _ response
      | noSession => exact fun ⟨_, h⟩ => nomatch h
      | noRefreshToken => exact fun ⟨_, h⟩ => nomatch h
      | noServerVersions tokens refreshToken error => exact fun ⟨_, h⟩ => nomatch h
      | serverError tokens refreshToken error => exact fun ⟨_, h⟩ => nomatch h
      | _ => exact True.intro
  | _ => exact True.intro

theorem CallKept.frame {w w' : SendWorld Response} {j : Nat} (hw : ResendKept w)
    (hworld : (sends handleRefreshTokens).worldStep w (Event.component i a) = some w')
    (hothers : RefreshesForOthers w (Event.component i a))
    (hlog : w'.shared.log = w.shared.log ++ entries)
    (hstep : SendStep handleRefreshTokens i w.shared.refresh (w.memory i) a
      w'.shared.refresh entries (w'.memory i)) (hj : j ≠ i) :
    CallKept (exists k, Refreshes (w'.memory k)) j w'.shared (w.memory j) := by
  have hsince : RefreshedSince j w.shared.log -> RefreshedSince j w'.shared.log :=
    fun h => h.emit hlog hstep fun hji => absurd hji hj
  rcases hstep.effect rfl hothers with ⟨hcontent, hrefreshes⟩ | ⟨error, herror⟩ | ⟨response, hentries⟩
  · refine (hw.calls j).mono hsince ?_ ?_
    · intro hsettled
      rcases hsettled with h | ⟨error, h⟩
      · exact Or.inl (hsince h)
      · refine Or.inr ⟨error, ?_⟩
        rw [hcontent]
        exact h
    · intro hrefreshing
      rcases hrefreshing with ⟨k, hk⟩
      refine Or.inr ⟨k, ?_⟩
      by_cases hki : k = i
      · subst hki
        exact hrefreshes hk
      · rw [memory_of_ne hworld hki]
        exact hk
  · have hsettled : Settled j w'.shared := Or.inr ⟨error, herror⟩
    exact (hw.calls j).mono hsince (fun _ => hsettled) fun _ => Or.inl hsettled
  · have hnow : RefreshedSince j w'.shared.log := by
      rw [hlog, hentries]
      exact refreshedSince_tokensRefreshed j i _ response
    exact (hw.calls j).mono hsince (fun _ => Or.inl hnow) fun _ => Or.inl (Or.inl hnow)

theorem accessTokenOf_emit (log : List Entry)
    (hstep : SendStep handleRefreshTokens i refresh phase a refresh' entries phase')
    (htoken : refresh.sessionTokens.map SessionTokens.accessToken = accessTokenOf log) :
    refresh'.sessionTokens.map SessionTokens.accessToken = accessTokenOf (log ++ entries) := by
  rcases hstep.writes with ⟨hsession, hnone⟩ | ⟨tokens, response, hentries, hsession⟩
  · rw [hsession, htoken]
    exact (Register.contentOf_append_of_forall hnone).symm
  · rw [hsession, hentries, accessTokenOf, Register.contentOf_append_singleton]
    rfl

theorem resendKept_step {w w' : SendWorld Response} {e : SendEvent Response}
    (hw : ResendKept w) (hothers : RefreshesForOthers w e)
    (hstep : (sends handleRefreshTokens).worldStep w e = some w') : ResendKept w' := by
  have hexclusive := hw.exclusive.step mutex_sends hstep
  cases e with
  | environment sessionTokens =>
      rcases worldStep_environment_eq_some.mp hstep with ⟨shared, hshared, rfl⟩
      cases hshared
      have hsince : forall i, RefreshedSince i w.shared.log ->
          RefreshedSince i (w.shared.log ++ [Entry.setSession sessionTokens]) :=
        fun i h => h.append (by simp)
      constructor
      · exact hexclusive
      · show _ = accessTokenOf (w.shared.log ++ [Entry.setSession sessionTokens])
        rw [accessTokenOf, Register.contentOf_append_singleton]
        rfl
      · exact eachEntry_append_singleton.mpr ⟨hw.sent, True.intro⟩
      · intro i
        refine (hw.calls i).mono (hsince i) ?_ Or.inr
        intro hsettled
        rcases hsettled with h | h
        · exact Or.inl (hsince i h)
        · exact Or.inr h
  | component i a =>
      rcases sendStep_of_eq_some (step_of_worldStep hstep) with ⟨entries, hlog, hown⟩
      constructor
      · exact hexclusive
      · rw [hlog]
        exact accessTokenOf_emit _ hown hw.token
      · rw [hlog]
        rcases hown.sends with ⟨attempt, hattempt, hentries⟩ | hentries
        · rw [hentries]
          refine eachEntry_append_singleton.mpr ⟨hw.sent, hw.token, ?_⟩
          intro hagain
          subst hagain
          have hkept := hw.calls i
          generalize w.memory i = phase at hattempt hkept
          cases phase <;> cases hattempt
          exact hkept
        · exact hw.sent.append_of_forall hentries
      · intro j
        by_cases hj : j = i
        · subst hj
          exact CallKept.step hw hstep hothers hlog hown
        · rw [memory_of_ne hstep hj]
          exact CallKept.frame hw hstep hothers hlog hown hj

theorem resendKept_init :
    ResendKept (sends handleRefreshTokens :
      Components Nat SendShared (SendPhase Response) _ _).system.init where
  exclusive := Exclusive.of_forall_not fun _ => id
  token := rfl
  sent := EachEntry.nil
  calls := fun _ => True.intro

/-- In a run whose waiting calls all wait for a call that refreshes the tokens and does not
return early, the tokens have been refreshed between the two times that a call reads its
access token; if no access token is set twice, it reads another one the second time.  What
it has read last is what its requests carry. -/
theorem resend_after_refresh {events : List (SendEvent Response)} {w : SendWorld Response}
    (hrun : (sends handleRefreshTokens).system.run events = some w)
    (hothers : (sends handleRefreshTokens).system.AllSteps RefreshesForOthers
      (sends handleRefreshTokens).system.init events)
    {before middle after : List Entry} {token token' : Option String}
    (hlog : w.shared.log = before ++ Entry.sendInner i Attempt.first token :: middle ++
      Entry.sendInner i Attempt.again token' :: after) :
    (exists j response, Entry.tokensRefreshed j response ∈ middle) ∧
      (EachEntry (Register.WritesNew Entry.writtenToken none) w.shared.log ->
        token' ≠ token) ∧
      EachEntry CarriesLastRead w.shared.log := by
  have hkept : ResendKept w :=
    TransitionSystem.invariant_runFrom_of_allSteps (P := ResendKept)
      (fun _ _ _ hw hothers hstep => resendKept_step hw hothers hstep) resendKept_init
      hothers hrun
  have hagain := hkept.sent _ _ after hlog
  have hfirst := hkept.sent before (Entry.sendInner i Attempt.first token)
    (middle ++ Entry.sendInner i Attempt.again token' :: after) (by simp [hlog])
  rcases hagain.2 rfl with ⟨before', j, response, after', hsplit, hafter⟩
  have hmem : Entry.tokensRefreshed j response ∈ middle :=
    mem_of_split_eq hsplit nofun (hafter token)
  have hrequests : RequestsKept w :=
    TransitionSystem.invariant_runFrom (P := RequestsKept)
      (fun _ _ _ hw hstep => requestsKept_step hw hstep) requestsKept_init hrun
  refine ⟨⟨j, response, hmem⟩, ?_, hrequests.carried⟩
  intro hnew
  rw [hlog] at hnew
  have hne := Register.contentOf_ne_of_write hnew.of_append (List.mem_cons_of_mem _ hmem) nofun
  rw [hagain.1]
  intro heq
  exact hne (heq.trans hfirst.1)

theorem refreshesForOthers_tryLock {w : SendWorld Response}
    (hfree : w.shared.refresh.locked = false) :
    RefreshesForOthers w
      (Event.component i (SendAction.refresh RefreshToken.Action.tryLock)) where
  meets := by
    intro j _ hlocked
    unfold Locked at hlocked
    simp [hfree] at hlocked
  token := nofun
  versions := nofun

theorem refreshesForOthers_readSession {w : SendWorld Response} {tokens : SessionTokens}
    {refreshToken : String} (htokens : w.shared.refresh.sessionTokens = some tokens)
    (htoken : tokens.refreshToken = some refreshToken) :
    RefreshesForOthers w
      (Event.component i (SendAction.refresh RefreshToken.Action.readSession)) where
  meets := nofun
  token := by
    intro j other _ hother
    rw [htokens] at hother
    cases hother
    simp [htoken]
  versions := nofun

def refreshedInBetween : List Entry :=
  [Entry.request 0 Attempt.first (some "a0"),
    Entry.request 0 Attempt.first (some "a0"),
    Entry.unknownTokenError 0 true,
    Entry.refreshAccessToken 0,
    Entry.refreshRequest 0 "r0",
    Entry.tokensRefreshed 0 { accessToken := "a1", refreshToken := none }]

theorem refreshesForOthers_sendRefreshSend :
    (sends true).system.AllSteps RefreshesForOthers (sends true).system.init
      sendRefreshSend := by
  have hstart : (sends true).system.AllSteps RefreshesForOthers
      (sends true).system.init (sendRefreshSend.take 5) := by
    iterate 5
      refine ⟨⟨nofun, nofun, nofun⟩, fun _ h => ?_⟩
      cases h
    exact True.intro
  have hlock := hstart.append_singleton rfl (refreshesForOthers_tryLock (i := 0) rfl)
  have hread := hlock.append_singleton rfl (refreshesForOthers_readSession (i := 0) rfl rfl)
  refine hread.append rfl (?_ : TransitionSystem.AllSteps _ _ _ (sendRefreshSend.drop 7))
  iterate 6
    refine ⟨⟨nofun, nofun, nofun⟩, fun _ h => ?_⟩
    cases h
  exact True.intro

theorem resend_after_refresh_refreshed :
    exists j response, Entry.tokensRefreshed j response ∈ refreshedInBetween := by
  have hrun : exists w, (sends true).system.run sendRefreshSend = some w ∧
      w.shared.log =
        [Entry.setSession (some { accessToken := "a0", refreshToken := some "r0" })] ++
          Entry.sendInner 0 Attempt.first (some "a0") :: refreshedInBetween ++
          Entry.sendInner 0 Attempt.again (some "a1") ::
            [Entry.request 0 Attempt.again (some "a1")] := ⟨_, rfl, rfl⟩
  rcases hrun with ⟨w, hrun, hlog⟩
  exact (resend_after_refresh hrun refreshesForOthers_sendRefreshSend hlog).1

/-- Call 2 is refused with the token that call 0 has just set, finds the lock taken by call
1, which only reads it, and sends the same token again. -/
def meetReader : List (SendEvent String) :=
  (sendRefreshSend.take 7) ++
    [Event.component 1 SendAction.sendInner,
      Event.component 1 (SendAction.serverVersions (.ok ())),
      Event.component 1 (SendAction.response (.error (SendError.unknownToken true))),
      Event.component 1 (SendAction.refresh RefreshToken.Action.tryLock)] ++
    (sendRefreshSend.drop 7).take 2 ++
    [Event.component 2 SendAction.sendInner,
      Event.component 2 (SendAction.serverVersions (.ok ())),
      Event.component 2 (SendAction.response (.error (SendError.unknownToken true))),
      Event.component 1 (SendAction.refresh RefreshToken.Action.acquire),
      Event.component 2 (SendAction.refresh RefreshToken.Action.tryLock),
      Event.component 1 (SendAction.refresh RefreshToken.Action.readContent),
      Event.component 2 (SendAction.refresh RefreshToken.Action.acquire),
      Event.component 2 (SendAction.refresh RefreshToken.Action.readContent),
      Event.component 2 SendAction.matchRefresh,
      Event.component 2 SendAction.sendInner]

example : exists w, (sends true).system.run meetReader = some w ∧
    w.shared.log[12]? = some (Entry.sendInner 2 Attempt.first (some "a1")) ∧
    w.shared.log.getLast? = some (Entry.sendInner 2 Attempt.again (some "a1")) :=
  ⟨_, rfl, rfl, rfl⟩

end Worlds

end Send
end MatrixGoose
