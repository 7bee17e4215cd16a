import Mathlib.Data.List.Count
import Mathlib.Data.List.Perm.Subperm
import MatrixGoose.Foundation.Components

/-!
# Joining the rooms

Every user of the join load test logs in, syncs once and joins the rooms that it is invited
to, with up to three attempts for each.  The transactions of all users take turns.  The
homeserver is a parameter; it may perform a request at any time after it was sent, more than
once if `send` repeats it, and whether the call succeeds is another matter.
-/

namespace MatrixGoose

open Foundation
open Foundation.Components

namespace Join

inductive Membership
  | leave
  | invite
  | join
  deriving DecidableEq

/-- What a user may rely on in a homeserver: a user that is invited to a room is in it after
joining it, and joining changes no other membership. -/
structure RoomServer (Server RoomId : Type) where
  membership : Server -> RoomId -> String -> Membership
  /-- The rooms that a user is invited to, as they come with the first sync. -/
  invites : Server -> String -> List RoomId
  join : Server -> RoomId -> String -> Server
  mem_invites : forall s user roomId,
    roomId ∈ invites s user <-> membership s roomId user = Membership.invite
  nodup_invites : forall s user, (invites s user).Nodup
  membership_join_self : forall s roomId user, membership s roomId user ≠ Membership.leave ->
    membership (join s roomId user) roomId user = Membership.join
  membership_join_of_ne : forall s roomId user room other, (room, other) ≠ (roomId, user) ->
    membership (join s roomId user) room other = membership s room other

section Transactions

variable {Server RoomId : Type}

/-!
# The transaction
-/

inductive Entry (RoomId : Type)
  | failedLogin (i : Nat)
  /-- The result of the sync is ignored; `invited` are the rooms the client knows of. -/
  | syncOnce (i : Nat) (succeeded : Bool) (invited : List RoomId)
  | joinRoomById (i : Nat) (roomId : RoomId)
  | joined (i : Nat) (roomId : RoomId)
  | couldNotJoin (i : Nat) (roomId : RoomId)
  | skipping (i : Nat) (roomId : RoomId)
  deriving DecidableEq

structure Shared (Server RoomId : Type) where
  server : Server
  log : List (Entry RoomId)

inductive Phase (RoomId : Type)
  | notStarted
  | login
  | syncOnce
  /-- The room to join, those behind it, and the attempts that are left. -/
  | joinRoomById (roomId : RoomId) (rest : List RoomId) (retries : Nat)
  | joining (roomId : RoomId) (rest : List RoomId) (retries : Nat)
  | finished
  | panicked

inductive Action (RoomId : Type)
  | newClient (succeeded : Bool)
  | login (succeeded : Bool)
  /-- `invited` are the invited rooms that the client knows of after the sync. -/
  | syncOnce (succeeded : Bool) (invited : List RoomId)
  | joinRoomById
  | response (succeeded : Bool)

/-- The homeserver performs a request of user `i`. -/
inductive Environment (RoomId : Type)
  | join (i : Nat) (roomId : RoomId)

def nextRoom : List RoomId -> Phase RoomId
  | [] => Phase.finished
  | roomId :: rest => Phase.joinRoomById roomId rest 3

def Shared.emit (shared : Shared Server RoomId) (entries : List (Entry RoomId)) :
    Shared Server RoomId :=
  { shared with log := shared.log ++ entries }

/-- An attempt that has failed: try again, or skip the room. -/
def retry (i : Nat) (shared : Shared Server RoomId) (roomId : RoomId) (rest : List RoomId) :
    Nat -> Shared Server RoomId × Phase RoomId
  | 0 => (shared.emit [Entry.couldNotJoin i roomId, Entry.skipping i roomId], nextRoom rest)
  | retries =>
      (shared.emit [Entry.couldNotJoin i roomId], Phase.joinRoomById roomId rest retries)

section Steps

variable [DecidableEq RoomId] (M : RoomServer Server RoomId) (userId : Nat -> String)

/-- The rooms that a client can know of: all that its user is invited to, or some of them if
the sync has failed. -/
def Known (s : Server) (user : String) (succeeded : Bool) (invited : List RoomId) : Prop :=
  if succeeded then invited.Perm (M.invites s user) else invited.Subperm (M.invites s user)

instance (s : Server) (user : String) (succeeded : Bool) (invited : List RoomId) :
    Decidable (Known M s user succeeded invited) :=
  inferInstanceAs (Decidable (if succeeded then _ else _))

def joinStep (i : Nat) (shared : Shared Server RoomId) (phase : Phase RoomId)
    (a : Action RoomId) : Option (Shared Server RoomId × Phase RoomId) :=
  match a, phase with
  | Action.newClient true, Phase.notStarted => some (shared, Phase.login)
  | Action.newClient false, Phase.notStarted => some (shared, Phase.panicked)
  | Action.login true, Phase.login => some (shared, Phase.syncOnce)
  | Action.login false, Phase.login =>
      some (shared.emit [Entry.failedLogin i], Phase.finished)
  | Action.syncOnce succeeded invited, Phase.syncOnce =>
      if Known M shared.server (userId i) succeeded invited then
        some (shared.emit [Entry.syncOnce i succeeded invited], nextRoom invited)
      else none
  | Action.joinRoomById, Phase.joinRoomById roomId rest retries =>
      some (shared.emit [Entry.joinRoomById i roomId], Phase.joining roomId rest retries)
  | Action.response true, Phase.joining roomId rest _ =>
      if M.membership shared.server roomId (userId i) = Membership.join then
        some (shared.emit [Entry.joined i roomId], nextRoom rest)
      else none
  | Action.response false, Phase.joining roomId rest (retries + 1) =>
      some (retry i shared roomId rest retries)
  | _, _ => none

def performJoin (shared : Shared Server RoomId) :
    Environment RoomId -> Option (Shared Server RoomId)
  | Environment.join i roomId =>
      if Entry.joinRoomById i roomId ∈ shared.log then
        some { shared with server := M.join shared.server roomId (userId i) }
      else none

def joins (start : Server) :
    Components Nat (Shared Server RoomId) (Phase RoomId) (Environment RoomId)
      (Action RoomId) where
  initShared := { server := start, log := [] }
  initMemory := fun _ => Phase.notStarted
  environment := performJoin M userId
  step := joinStep M userId

end Steps

abbrev JoinWorld (Server RoomId : Type) := World Nat (Shared Server RoomId) (Phase RoomId)

/-!
# What a step can do
-/

section Inversion

variable [DecidableEq RoomId] {M : RoomServer Server RoomId} {userId : Nat -> String}

inductive JoinStep (M : RoomServer Server RoomId) (user : String) (i : Nat) (s : Server) :
    Phase RoomId -> List (Entry RoomId) -> Phase RoomId -> Prop
  | newClient : JoinStep M user i s Phase.notStarted [] Phase.login
  | panicked : JoinStep M user i s Phase.notStarted [] Phase.panicked
  | loggedIn : JoinStep M user i s Phase.login [] Phase.syncOnce
  | failedLogin : JoinStep M user i s Phase.login [Entry.failedLogin i] Phase.finished
  | synced {succeeded : Bool} {invited : List RoomId}
      (hinvited : Known M s user succeeded invited) :
      JoinStep M user i s Phase.syncOnce [Entry.syncOnce i succeeded invited]
        (nextRoom invited)
  | called (roomId : RoomId) (rest : List RoomId) (retries : Nat) :
      JoinStep M user i s (Phase.joinRoomById roomId rest retries)
        [Entry.joinRoomById i roomId] (Phase.joining roomId rest retries)
  | joined {roomId : RoomId} (rest : List RoomId) (retries : Nat)
      (hjoined : M.membership s roomId user = Membership.join) :
      JoinStep M user i s (Phase.joining roomId rest retries) [Entry.joined i roomId]
        (nextRoom rest)
  | retried (roomId : RoomId) (rest : List RoomId) (retries : Nat) :
      JoinStep M user i s (Phase.joining roomId rest (retries + 2))
        [Entry.couldNotJoin i roomId] (Phase.joinRoomById roomId rest (retries + 1))
  | skipped (roomId : RoomId) (rest : List RoomId) :
      JoinStep M user i s (Phase.joining roomId rest 1)
        [Entry.couldNotJoin i roomId, Entry.skipping i roomId] (nextRoom rest)

variable {i : Nat} {shared shared' : Shared Server RoomId} {phase phase' : Phase RoomId}
variable {a : Action RoomId}

theorem joinStep_of_eq_some
    (hstep : joinStep M userId i shared phase a = some (shared', phase')) :
    exists entries, shared' = shared.emit entries ∧
      JoinStep M (userId i) i shared.server phase entries phase' := by
  have hnothing : shared = shared.emit [] := by simp [Shared.emit]
  cases a with
  | newClient succeeded =>
      cases phase <;> cases succeeded <;> simp only [joinStep, reduceCtorEq] at hstep
      · cases hstep
        exact ⟨[], hnothing, JoinStep.panicked⟩
      · cases hstep
        exact ⟨[], hnothing, JoinStep.newClient⟩
  | login succeeded =>
      cases phase <;> cases succeeded <;> simp only [joinStep, reduceCtorEq] at hstep
      · cases hstep
        exact ⟨_, rfl, JoinStep.failedLogin⟩
      · cases hstep
        exact ⟨[], hnothing, JoinStep.loggedIn⟩
  | syncOnce succeeded invited =>
      cases phase <;> simp only [joinStep, reduceCtorEq] at hstep
      split at hstep
      · next hknown =>
          cases hstep
          exact ⟨_, rfl, JoinStep.synced hknown⟩
      · cases hstep
  | joinRoomById =>
      cases phase <;> simp only [joinStep, reduceCtorEq] at hstep
      cases hstep
      exact ⟨_, rfl, JoinStep.called _ _ _⟩
  | response succeeded =>
      cases phase with
      | joining roomId rest retries =>
          cases succeeded with
          | true =>
              simp only [joinStep] at hstep
              split at hstep
              · next hjoined =>
                  cases hstep
                  exact ⟨_, rfl, JoinStep.joined rest retries hjoined⟩
              · cases hstep
          | false =>
              match retries with
              | 0 => cases hstep
              | 1 =>
                  cases hstep
                  exact ⟨_, rfl, JoinStep.skipped roomId rest⟩
              | retries + 2 =>
                  cases hstep
                  exact ⟨_, rfl, JoinStep.retried roomId rest retries⟩
      | _ => cases succeeded <;> cases hstep

end Inversion

/-!
# What joining does to the rooms
-/

section Rooms

variable {M : RoomServer Server RoomId} {userId : Nat -> String}
variable {start s : Server} {i : Nat} {roomId : RoomId} {user : String}

/-- All that has happened to the rooms is that users have joined who were invited. -/
def OnlyJoined (M : RoomServer Server RoomId) (start s : Server) : Prop :=
  forall roomId user, M.membership s roomId user = M.membership start roomId user ∨
    M.membership start roomId user = Membership.invite ∧
      M.membership s roomId user = Membership.join

theorem OnlyJoined.refl (M : RoomServer Server RoomId) (s : Server) : OnlyJoined M s s :=
  fun _ _ => Or.inl rfl

theorem OnlyJoined.ne_leave (h : OnlyJoined M start s)
    (hinvited : M.membership start roomId user = Membership.invite) :
    M.membership s roomId user ≠ Membership.leave := by
  rcases h roomId user with heq | ⟨_, hjoin⟩
  · rw [heq, hinvited]
    exact nofun
  · rw [hjoin]
    exact nofun

/-- Users are invited only by the transactions before. -/
theorem OnlyJoined.invited (h : OnlyJoined M start s)
    (hinvited : M.membership s roomId user = Membership.invite) :
    M.membership start roomId user = Membership.invite := by
  rcases h roomId user with heq | ⟨hstart, _⟩
  · exact heq.symm.trans hinvited
  · exact hstart

theorem OnlyJoined.join (h : OnlyJoined M start s)
    (hinvited : M.membership start roomId user = Membership.invite) :
    OnlyJoined M start (M.join s roomId user) := by
  intro room other
  by_cases heq : (room, other) = (roomId, user)
  · cases heq
    exact Or.inr ⟨hinvited, M.membership_join_self s roomId user (h.ne_leave hinvited)⟩
  · rw [M.membership_join_of_ne s roomId user room other heq]
    exact h room other

theorem invited_of_join (hmember : M.membership s roomId user ≠ Membership.leave)
    {room : RoomId} {other : String}
    (hinvited : M.membership (M.join s roomId user) room other = Membership.invite) :
    M.membership s room other = Membership.invite := by
  by_cases heq : (room, other) = (roomId, user)
  · cases heq
    rw [M.membership_join_self s roomId user hmember] at hinvited
    cases hinvited
  · rwa [M.membership_join_of_ne s roomId user room other heq] at hinvited

/-!
# What a client knows
-/

theorem Known.nodup {succeeded : Bool} {invited : List RoomId}
    (h : Known M s user succeeded invited) : invited.Nodup := by
  have hnodup := M.nodup_invites s user
  cases succeeded with
  | true =>
      have hperm : invited.Perm (M.invites s user) := h
      exact hperm.nodup_iff.mpr hnodup
  | false =>
      have hsub : invited.Subperm (M.invites s user) := h
      rcases hsub with ⟨known, hperm, hsublist⟩
      exact hperm.nodup_iff.mp (hnodup.sublist hsublist)

theorem Known.invited {succeeded : Bool} {invited : List RoomId}
    (h : Known M s user succeeded invited) {roomId : RoomId} (hmem : roomId ∈ invited) :
    M.membership s roomId user = Membership.invite := by
  rw [← M.mem_invites]
  cases succeeded with
  | true =>
      have hperm : invited.Perm (M.invites s user) := h
      exact hperm.mem_iff.mp hmem
  | false =>
      have hsub : invited.Subperm (M.invites s user) := h
      exact hsub.subset hmem

theorem Known.failed {succeeded : Bool} {invited : List RoomId}
    (h : Known M s user succeeded invited) {roomId : RoomId}
    (hinvited : M.membership s roomId user = Membership.invite) (hnot : roomId ∉ invited) :
    succeeded = false := by
  cases succeeded with
  | false => rfl
  | true =>
      have hperm : invited.Perm (M.invites s user) := h
      exact absurd (hperm.mem_iff.mpr ((M.mem_invites s user roomId).mpr hinvited)) hnot

end Rooms

/-!
# Attempts
-/

section Attempts

variable [DecidableEq RoomId]

def callsOf (i : Nat) (roomId : RoomId) (log : List (Entry RoomId)) : Nat :=
  log.count (Entry.joinRoomById i roomId)

def failuresOf (i : Nat) (roomId : RoomId) (log : List (Entry RoomId)) : Nat :=
  log.count (Entry.couldNotJoin i roomId)

/-- Why a user can still be invited to a room when its transaction has finished. -/
inductive LeftInvited (i : Nat) (roomId : RoomId) (log : List (Entry RoomId)) : Prop
  | failedLogin (hlogin : Entry.failedLogin i ∈ log)
  | failedSync {invited : List RoomId} (hsync : Entry.syncOnce i false invited ∈ log)
      (hunknown : roomId ∉ invited)
  | skipped (hskip : Entry.skipping i roomId ∈ log) (hfailures : failuresOf i roomId log = 3)

def Entry.caller : Entry RoomId -> Nat
  | Entry.failedLogin i => i
  | Entry.syncOnce i _ _ => i
  | Entry.joinRoomById i _ => i
  | Entry.joined i _ => i
  | Entry.couldNotJoin i _ => i
  | Entry.skipping i _ => i

variable {i j : Nat} {roomId other : RoomId} {log entries : List (Entry RoomId)}

structure Silent (i : Nat) (roomId : RoomId) (entries : List (Entry RoomId)) : Prop where
  calls : Entry.joinRoomById i roomId ∉ entries
  failures : Entry.couldNotJoin i roomId ∉ entries

omit [DecidableEq RoomId] in
theorem Silent.of_caller (h : forall entry, entry ∈ entries -> entry.caller = j)
    (hne : i ≠ j) (roomId : RoomId) : Silent i roomId entries :=
  ⟨fun hmem => hne (h _ hmem), fun hmem => hne (h _ hmem)⟩

theorem Silent.callsOf (h : Silent i roomId entries) :
    callsOf i roomId (log ++ entries) = callsOf i roomId log := by
  rw [Join.callsOf, List.count_append, List.count_eq_zero.mpr h.calls]
  rfl

theorem Silent.failuresOf (h : Silent i roomId entries) :
    failuresOf i roomId (log ++ entries) = failuresOf i roomId log := by
  rw [Join.failuresOf, List.count_append, List.count_eq_zero.mpr h.failures]
  rfl

theorem LeftInvited.append (h : LeftInvited i roomId log) (hsilent : Silent i roomId entries) :
    LeftInvited i roomId (log ++ entries) := by
  cases h with
  | failedLogin hlogin => exact LeftInvited.failedLogin (List.mem_append_left _ hlogin)
  | failedSync hsync hunknown =>
      exact LeftInvited.failedSync (List.mem_append_left _ hsync) hunknown
  | skipped hskip hfailures =>
      exact LeftInvited.skipped (List.mem_append_left _ hskip)
        (hsilent.failuresOf.trans hfailures)

theorem callsOf_append_self (i : Nat) (roomId : RoomId) (log : List (Entry RoomId)) :
    callsOf i roomId (log ++ [Entry.joinRoomById i roomId]) = callsOf i roomId log + 1 := by
  simp [callsOf]

theorem failuresOf_append_self (i : Nat) (roomId : RoomId) (log : List (Entry RoomId)) :
    failuresOf i roomId (log ++ [Entry.couldNotJoin i roomId]) =
      failuresOf i roomId log + 1 := by
  simp [failuresOf]

structure Untried (i : Nat) (roomId : RoomId) (log : List (Entry RoomId)) : Prop where
  calls : callsOf i roomId log = 0
  failures : failuresOf i roomId log = 0

theorem Untried.append (h : Untried i roomId log) (hsilent : Silent i roomId entries) :
    Untried i roomId (log ++ entries) :=
  ⟨hsilent.callsOf.trans h.calls, hsilent.failuresOf.trans h.failures⟩

/-- The attempts at a room while `retries` are left, of three in all; `sent` is one more once
the next call has begun. -/
structure Attempts (i : Nat) (roomId : RoomId) (rest : List RoomId)
    (log : List (Entry RoomId)) (retries sent : Nat) : Prop where
  pos : 1 <= retries
  calls : callsOf i roomId log + retries = sent
  failures : failuresOf i roomId log + retries = 3
  rest : forall other, other ∈ rest -> Untried i other log

end Attempts

/-!
# Runs
-/

section Runs

variable [DecidableEq RoomId]

/-- A transaction with these rooms still to try, and what it leaves behind of the others. -/
structure Trying (M : RoomServer Server RoomId) (start : Server) (i : Nat) (user : String)
    (shared : Shared Server RoomId) (todo : List RoomId) : Prop where
  nodup : todo.Nodup
  invited : forall roomId, roomId ∈ todo ->
    M.membership start roomId user = Membership.invite
  left : forall roomId, roomId ∉ todo ->
    M.membership shared.server roomId user = Membership.invite ->
      LeftInvited i roomId shared.log
  calls : forall roomId, roomId ∉ todo -> callsOf i roomId shared.log <= 3

def Progress (M : RoomServer Server RoomId) (start : Server) (userId : Nat -> String)
    (i : Nat) (shared : Shared Server RoomId) : Phase RoomId -> Prop
  | Phase.joinRoomById roomId rest retries =>
      Trying M start i (userId i) shared (roomId :: rest) ∧
        Attempts i roomId rest shared.log retries 3
  | Phase.joining roomId rest retries =>
      Trying M start i (userId i) shared (roomId :: rest) ∧
        Attempts i roomId rest shared.log retries 4
  | Phase.finished => Trying M start i (userId i) shared []
  | _ => forall roomId, Untried i roomId shared.log

variable {M : RoomServer Server RoomId} {userId : Nat -> String} {start : Server} {i : Nat}
variable {user : String} {shared : Shared Server RoomId} {phase phase' : Phase RoomId}
variable {s' : Server} {entries : List (Entry RoomId)}

theorem Attempts.append {roomId : RoomId} {rest : List RoomId} {log : List (Entry RoomId)}
    {retries sent : Nat} (h : Attempts i roomId rest log retries sent)
    (hsilent : forall other, Silent i other entries) :
    Attempts i roomId rest (log ++ entries) retries sent :=
  { pos := h.pos
    calls := by rw [(hsilent roomId).callsOf, h.calls]
    failures := by rw [(hsilent roomId).failuresOf, h.failures]
    rest := fun other hmem => (h.rest other hmem).append (hsilent other) }

/-- Steps that make no invites and say nothing about the rooms done with. -/
theorem Trying.grow {todo : List RoomId} (h : Trying M start i user shared todo)
    (hserver : forall roomId, M.membership s' roomId user = Membership.invite ->
      M.membership shared.server roomId user = Membership.invite)
    (hsilent : forall roomId, roomId ∉ todo -> Silent i roomId entries) :
    Trying M start i user { server := s', log := shared.log ++ entries } todo :=
  { nodup := h.nodup
    invited := h.invited
    left := fun roomId hnot hinvited =>
      (h.left roomId hnot (hserver roomId hinvited)).append (hsilent roomId hnot)
    calls := fun roomId hnot =>
      Nat.le_trans (Nat.le_of_eq (hsilent roomId hnot).callsOf) (h.calls roomId hnot) }

/-- A room is done with once its user is not invited to it any more, or skips it. -/
theorem Trying.tail {roomId : RoomId} {rest : List RoomId}
    (h : Trying M start i user shared (roomId :: rest))
    (hleft : M.membership shared.server roomId user = Membership.invite ->
      LeftInvited i roomId shared.log)
    (hcalls : callsOf i roomId shared.log <= 3) :
    Trying M start i user shared rest := by
  rcases List.nodup_cons.mp h.nodup with ⟨_, hnodup⟩
  refine ⟨hnodup, fun other hmem => h.invited other (List.mem_cons_of_mem roomId hmem), ?_, ?_⟩
  · intro other hnot hinvited
    rcases eq_or_ne other roomId with rfl | hne
    · exact hleft hinvited
    · exact h.left other (List.not_mem_cons_of_ne_of_not_mem hne hnot) hinvited
  · intro other hnot
    rcases eq_or_ne other roomId with rfl | hne
    · exact hcalls
    · exact h.calls other (List.not_mem_cons_of_ne_of_not_mem hne hnot)

theorem Trying.nextRoom {todo : List RoomId} (h : Trying M start i (userId i) shared todo)
    (huntried : forall roomId, roomId ∈ todo -> Untried i roomId shared.log) :
    Progress M start userId i shared (nextRoom todo) := by
  cases todo with
  | nil => exact h
  | cons roomId rest =>
      have hfirst := huntried roomId List.mem_cons_self
      refine ⟨h, by decide, ?_, ?_, ?_⟩
      · rw [hfirst.calls]
      · rw [hfirst.failures]
      · intro other hmem
        exact huntried other (List.mem_cons_of_mem roomId hmem)

theorem Progress.grow (h : Progress M start userId i shared phase)
    (hserver : forall roomId, M.membership s' roomId (userId i) = Membership.invite ->
      M.membership shared.server roomId (userId i) = Membership.invite)
    (hsilent : forall roomId, Silent i roomId entries) :
    Progress M start userId i { server := s', log := shared.log ++ entries } phase := by
  cases phase with
  | joinRoomById roomId rest retries =>
      exact ⟨h.1.grow hserver fun other _ => hsilent other, h.2.append hsilent⟩
  | joining roomId rest retries =>
      exact ⟨h.1.grow hserver fun other _ => hsilent other, h.2.append hsilent⟩
  | finished => exact Trying.grow h hserver fun other _ => hsilent other
  | _ => exact fun roomId => (h roomId).append (hsilent roomId)

omit [DecidableEq RoomId] in
theorem JoinStep.caller {s : Server} (hstep : JoinStep M user i s phase entries phase') :
    forall entry, entry ∈ entries -> entry.caller = i := by
  cases hstep <;> simp [Entry.caller]

theorem Trying.ne_of_mem_rest {roomId other : RoomId} {rest : List RoomId}
    (h : Trying M start i user shared (roomId :: rest)) (hmem : other ∈ rest) :
    other ≠ roomId := by
  intro heq
  subst heq
  exact (List.nodup_cons.mp h.nodup).1 hmem

theorem Trying.append {roomId : RoomId} {rest : List RoomId}
    (h : Trying M start i user shared (roomId :: rest))
    (hsilent : forall other, other ≠ roomId -> Silent i other entries) :
    Trying M start i user { shared with log := shared.log ++ entries } (roomId :: rest) := by
  apply h.grow fun _ hinvited => hinvited
  intro other hnot
  exact hsilent other (List.ne_of_not_mem_cons hnot)

theorem Attempts.rest_append {roomId : RoomId} {rest : List RoomId} {retries sent : Nat}
    (h : Attempts i roomId rest shared.log retries sent)
    (htrying : Trying M start i user shared (roomId :: rest))
    (hsilent : forall other, other ≠ roomId -> Silent i other entries) :
    forall other, other ∈ rest -> Untried i other (shared.log ++ entries) :=
  fun other hmem => (h.rest other hmem).append (hsilent other (htrying.ne_of_mem_rest hmem))

theorem progress_failedLogin (hprogress : forall roomId, Untried i roomId shared.log) :
    Trying M start i user
      { shared with log := shared.log ++ [Entry.failedLogin i] } [] := by
  refine ⟨List.nodup_nil, nofun, ?_, ?_⟩
  · intro roomId _ _
    exact LeftInvited.failedLogin (by simp)
  · intro roomId _
    have hsilent : Silent i roomId [Entry.failedLogin i] := ⟨by simp, by simp⟩
    rw [((hprogress roomId).append hsilent).calls]
    exact Nat.zero_le 3

theorem progress_synced {succeeded : Bool} {invited : List RoomId}
    (hstart : OnlyJoined M start shared.server)
    (hprogress : forall roomId, Untried i roomId shared.log)
    (hknown : Known M shared.server (userId i) succeeded invited) :
    Progress M start userId i
      { shared with log := shared.log ++ [Entry.syncOnce i succeeded invited] }
      (nextRoom invited) := by
  have huntried : forall roomId,
      Untried i roomId (shared.log ++ [Entry.syncOnce i succeeded invited]) :=
    fun roomId => (hprogress roomId).append ⟨by simp, by simp⟩
  apply Trying.nextRoom
  · refine ⟨hknown.nodup, fun roomId hmem => hstart.invited (hknown.invited hmem), ?_, ?_⟩
    · intro roomId hnot hinvited
      have hfailed := hknown.failed hinvited hnot
      subst hfailed
      exact LeftInvited.failedSync (by simp) hnot
    · intro roomId _
      rw [(huntried roomId).calls]
      exact Nat.zero_le 3
  · exact fun roomId _ => huntried roomId

theorem progress_called {roomId : RoomId} {rest : List RoomId} {retries : Nat}
    (htrying : Trying M start i user shared (roomId :: rest))
    (hattempts : Attempts i roomId rest shared.log retries 3) :
    Trying M start i user { shared with log := shared.log ++ [Entry.joinRoomById i roomId] }
        (roomId :: rest) ∧
      Attempts i roomId rest (shared.log ++ [Entry.joinRoomById i roomId]) retries 4 := by
  have hsilent : forall other, other ≠ roomId ->
      Silent i other [Entry.joinRoomById i roomId] := fun other hne => ⟨by simp [hne], by simp⟩
  refine ⟨htrying.append hsilent, hattempts.pos, ?_, ?_, hattempts.rest_append htrying hsilent⟩
  · rw [callsOf_append_self, Nat.succ_add, hattempts.calls]
  · have hnone : Entry.couldNotJoin i roomId ∉ [Entry.joinRoomById i roomId] := by simp
    rw [failuresOf, List.count_append, List.count_eq_zero.mpr hnone]
    exact hattempts.failures

theorem Attempts.calls_le {roomId : RoomId} {rest : List RoomId} {log : List (Entry RoomId)}
    {retries : Nat} (h : Attempts i roomId rest log retries 4) :
    callsOf i roomId log <= 3 := by
  have hpos := h.pos
  have hcalls := h.calls
  omega

theorem callsOf_append_of_not_mem {roomId : RoomId} {log : List (Entry RoomId)}
    (hnone : Entry.joinRoomById i roomId ∉ entries) :
    callsOf i roomId (log ++ entries) = callsOf i roomId log := by
  rw [callsOf, List.count_append, List.count_eq_zero.mpr hnone]
  rfl

theorem progress_joined {roomId : RoomId} {rest : List RoomId} {retries : Nat}
    (htrying : Trying M start i (userId i) shared (roomId :: rest))
    (hattempts : Attempts i roomId rest shared.log retries 4)
    (hjoined : M.membership shared.server roomId (userId i) = Membership.join) :
    Progress M start userId i { shared with log := shared.log ++ [Entry.joined i roomId] }
      (nextRoom rest) := by
  have hsilent : forall other, Silent i other [Entry.joined i roomId] :=
    fun other => ⟨by simp, by simp⟩
  apply Trying.nextRoom
  · apply (htrying.append fun other _ => hsilent other).tail
    · intro hinvited
      exact absurd (hjoined.symm.trans hinvited) nofun
    · exact Nat.le_trans (Nat.le_of_eq (hsilent roomId).callsOf) hattempts.calls_le
  · exact hattempts.rest_append htrying fun other _ => hsilent other

theorem progress_retried {roomId : RoomId} {rest : List RoomId} {retries : Nat}
    (htrying : Trying M start i user shared (roomId :: rest))
    (hattempts : Attempts i roomId rest shared.log (retries + 2) 4) :
    Trying M start i user { shared with log := shared.log ++ [Entry.couldNotJoin i roomId] }
        (roomId :: rest) ∧
      Attempts i roomId rest (shared.log ++ [Entry.couldNotJoin i roomId]) (retries + 1)
        3 := by
  have hsilent : forall other, other ≠ roomId ->
      Silent i other [Entry.couldNotJoin i roomId] := fun other hne => ⟨by simp, by simp [hne]⟩
  have hcalls := hattempts.calls
  have hfailures := hattempts.failures
  refine ⟨htrying.append hsilent, Nat.le_add_left 1 retries, ?_, ?_,
    hattempts.rest_append htrying hsilent⟩
  · rw [callsOf_append_of_not_mem (by simp)]
    omega
  · rw [failuresOf_append_self]
    omega

theorem progress_skipped {roomId : RoomId} {rest : List RoomId}
    (htrying : Trying M start i (userId i) shared (roomId :: rest))
    (hattempts : Attempts i roomId rest shared.log 1 4) :
    Progress M start userId i
      { shared with
        log := shared.log ++ [Entry.couldNotJoin i roomId, Entry.skipping i roomId] }
      (nextRoom rest) := by
  have hsilent : forall other, other ≠ roomId ->
      Silent i other [Entry.couldNotJoin i roomId, Entry.skipping i roomId] :=
    fun other hne => ⟨by simp, by simp [hne]⟩
  apply Trying.nextRoom
  · apply (htrying.append hsilent).tail
    · intro _
      apply LeftInvited.skipped (by simp)
      have hfailures := hattempts.failures
      rw [failuresOf, List.count_append]
      rw [failuresOf] at hfailures
      simpa using hfailures
    · rw [callsOf_append_of_not_mem (by simp)]
      exact hattempts.calls_le
  · exact hattempts.rest_append htrying hsilent

theorem JoinStep.progress (hstart : OnlyJoined M start shared.server)
    (hprogress : Progress M start userId i shared phase)
    (hstep : JoinStep M (userId i) i shared.server phase entries phase') :
    Progress M start userId i { shared with log := shared.log ++ entries } phase' := by
  cases hstep with
  | newClient => exact fun roomId => (hprogress roomId).append ⟨by simp, by simp⟩
  | panicked => exact fun roomId => (hprogress roomId).append ⟨by simp, by simp⟩
  | loggedIn => exact fun roomId => (hprogress roomId).append ⟨by simp, by simp⟩
  | failedLogin => exact progress_failedLogin hprogress
  | synced hknown => exact progress_synced hstart hprogress hknown
  | called roomId rest retries => exact progress_called hprogress.1 hprogress.2
  | joined rest retries hjoined => exact progress_joined hprogress.1 hprogress.2 hjoined
  | retried roomId rest retries => exact progress_retried hprogress.1 hprogress.2
  | skipped roomId rest => exact progress_skipped hprogress.1 hprogress.2

theorem Progress.callsOf_le (h : Progress M start userId i shared phase) (roomId : RoomId) :
    callsOf i roomId shared.log <= 3 := by
  have hrest : forall {first : RoomId} {rest : List RoomId} {retries sent : Nat},
      Trying M start i (userId i) shared (first :: rest) ->
      Attempts i first rest shared.log retries sent -> sent <= 4 ->
      callsOf i roomId shared.log <= 3 := by
    intro first rest retries sent htrying hattempts hsent
    by_cases hmem : roomId ∈ first :: rest
    · rcases List.mem_cons.mp hmem with rfl | hmem
      · have hpos := hattempts.pos
        have hcalls := hattempts.calls
        omega
      · rw [(hattempts.rest roomId hmem).calls]
        exact Nat.zero_le 3
    · exact htrying.calls roomId hmem
  cases phase with
  | joinRoomById first rest retries => exact hrest h.1 h.2 (by decide)
  | joining first rest retries => exact hrest h.1 h.2 (by decide)
  | finished => exact Trying.calls h roomId nofun
  | _ => exact Nat.le_trans (Nat.le_of_eq (h roomId).calls) (Nat.zero_le 3)

def RequestsInvited (M : RoomServer Server RoomId) (start : Server) (userId : Nat -> String)
    (log : List (Entry RoomId)) : Prop :=
  forall i roomId, Entry.joinRoomById i roomId ∈ log ->
    M.membership start roomId (userId i) = Membership.invite

theorem JoinStep.requestsInvited (hprogress : Progress M start userId i shared phase)
    (hrequests : RequestsInvited M start userId shared.log)
    (hstep : JoinStep M (userId i) i shared.server phase entries phase') :
    RequestsInvited M start userId (shared.log ++ entries) := by
  intro j roomId hmem
  rcases List.mem_append.mp hmem with hold | hnew
  · exact hrequests j roomId hold
  · cases hstep with
    | called first rest retries =>
        rw [List.mem_singleton, Entry.joinRoomById.injEq] at hnew
        rcases hnew with ⟨rfl, rfl⟩
        exact hprogress.1.invited _ List.mem_cons_self
    | _ => simp at hnew

structure JoinsKept (M : RoomServer Server RoomId) (start : Server) (userId : Nat -> String)
    (w : JoinWorld Server RoomId) : Prop where
  rooms : OnlyJoined M start w.shared.server
  requests : RequestsInvited M start userId w.shared.log
  progress : Everywhere (Progress M start userId) w

variable {w w' : JoinWorld Server RoomId}

theorem server_of_performJoin {shared' : Shared Server RoomId} {e : Environment RoomId}
    (h : performJoin M userId shared e = some shared') :
    exists roomId user, shared'.server = M.join shared.server roomId user := by
  cases e with
  | join i roomId =>
      simp only [performJoin] at h
      split at h
      · cases h
        exact ⟨roomId, userId i, rfl⟩
      · cases h

theorem joinsKept_environment {e : Environment RoomId} (hw : JoinsKept M start userId w)
    (hstep : (joins M userId start).worldStep w (Event.environment e) = some w') :
    JoinsKept M start userId w' := by
  rcases worldStep_environment_eq_some.mp hstep with ⟨shared, hshared, rfl⟩
  cases e with
  | join i roomId =>
      replace hshared : performJoin M userId w.shared (Environment.join i roomId) =
        some shared := hshared
      simp only [performJoin] at hshared
      split at hshared
      · next hsent =>
          cases hshared
          have hinvited := hw.requests i roomId hsent
          refine ⟨hw.rooms.join hinvited, hw.requests, ?_⟩
          intro j
          have hsilent : forall other : RoomId, Silent j other [] :=
            fun other => ⟨by simp, by simp⟩
          have hgrow := (hw.progress j).grow
            (fun other => invited_of_join (hw.rooms.ne_leave hinvited)) hsilent
          rwa [List.append_nil] at hgrow
      · cases hshared

theorem joinsKept_step {e : Event Nat (Environment RoomId) (Action RoomId)}
    (hw : JoinsKept M start userId w)
    (hstep : (joins M userId start).worldStep w e = some w') : JoinsKept M start userId w' := by
  cases e with
  | environment e => exact joinsKept_environment hw hstep
  | component i a =>
      rcases joinStep_of_eq_some (step_of_worldStep hstep) with ⟨entries, hshared, hown⟩
      refine ⟨?_, ?_, ?_⟩
      · rw [hshared]
        exact hw.rooms
      · rw [hshared]
        exact hown.requestsInvited (hw.progress i) hw.requests
      · intro j
        rw [hshared]
        rcases eq_or_ne j i with rfl | hne
        · exact hown.progress hw.rooms (hw.progress j)
        · rw [memory_of_ne hstep hne]
          exact (hw.progress j).grow (fun _ h => h) (Silent.of_caller hown.caller hne)

theorem joinsKept_run {events : List (Event Nat (Environment RoomId) (Action RoomId))}
    (hrun : (joins M userId start).system.run events = some w) :
    JoinsKept M start userId w := by
  apply TransitionSystem.invariant_runFrom (P := JoinsKept M start userId)
    (fun _ _ _ hw hstep => joinsKept_step hw hstep) ?_ hrun
  exact
    { rooms := OnlyJoined.refl M start
      requests := nofun
      progress := fun _ _ => ⟨rfl, rfl⟩ }

/-- However the transactions take turns and whatever fails, all that happens to the rooms is
that users join who were invited, calls are made for such rooms only, three for each at most,
and who is still invited when its transaction has finished could not log in, or does not
know of the invite as the sync has failed, or has skipped the room after three attempts that
failed. -/
theorem invites_accepted {events : List (Event Nat (Environment RoomId) (Action RoomId))}
    (hrun : (joins M userId start).system.run events = some w) :
    OnlyJoined M start w.shared.server ∧ RequestsInvited M start userId w.shared.log ∧
      (forall i roomId, callsOf i roomId w.shared.log <= 3) ∧
      forall i roomId, w.memory i = Phase.finished ->
        M.membership w.shared.server roomId (userId i) = Membership.invite ->
          LeftInvited i roomId w.shared.log := by
  have hkept := joinsKept_run hrun
  refine ⟨hkept.rooms, hkept.requests, fun i => (hkept.progress i).callsOf_le, ?_⟩
  intro i roomId hfinished
  have hprogress := hkept.progress i
  rw [hfinished] at hprogress
  exact Trying.left hprogress roomId nofun

end Runs

end Transactions

/-!
# A sample
-/

structure Room where
  name : Option String
  membership : String -> Membership

def Room.join (user : String) (room : Room) : Room :=
  { room with membership := Function.update room.membership user Membership.join }

def membershipIn (rooms : List Room) (roomId : Nat) (user : String) : Membership :=
  (rooms[roomId]?.map fun room => room.membership user).getD Membership.leave

theorem lt_length_of_membershipIn {rooms : List Room} {roomId : Nat} {user : String}
    (h : membershipIn rooms roomId user ≠ Membership.leave) : roomId < rooms.length := by
  by_contra hnot
  rw [membershipIn, List.getElem?_eq_none (Nat.le_of_not_lt hnot)] at h
  exact h rfl

def listServer : RoomServer (List Room) Nat where
  membership := membershipIn
  invites rooms user :=
    (List.range rooms.length).filter fun roomId =>
      membershipIn rooms roomId user = Membership.invite
  join rooms roomId user := rooms.modify roomId (Room.join user)
  mem_invites := by
    intro rooms user roomId
    rw [List.mem_filter, List.mem_range, decide_eq_true_eq]
    constructor
    · exact fun h => h.2
    · exact fun h => ⟨lt_length_of_membershipIn (by rw [h]; exact nofun), h⟩
  nodup_invites := fun rooms _ => List.nodup_range.filter _
  membership_join_self := by
    intro rooms roomId user h
    have hlt := lt_length_of_membershipIn h
    simp [membershipIn, Room.join, hlt]
  membership_join_of_ne := by
    intro rooms roomId user room other hne
    unfold membershipIn
    rw [List.getElem?_modify]
    rcases eq_or_ne roomId room with rfl | hroom
    · have hother : other ≠ user := fun h => hne (by rw [h])
      cases hget : rooms[roomId]? with
      | none => rfl
      | some first => simp [Room.join, hother]
    · simp [hroom]

def sampleRooms : List Room :=
  [{ name := some "Room 0",
     membership := fun user =>
       if user = "@a:x" then Membership.join
       else if user = "@b:x" then Membership.invite else Membership.leave }]

def sampleUserId (i : Nat) : String :=
  if i = 0 then "@a:x" else "@b:x"

/-- User 1 joins the room by its second request, after a sync that has failed, but only its
third call returns without an error. -/
def joinOnThirdCall : List (Event Nat (Environment Nat) (Action Nat)) :=
  [Event.component 1 (Action.newClient true), Event.component 1 (Action.login true),
    Event.component 0 (Action.newClient true), Event.component 0 (Action.login true),
    Event.component 1 (Action.syncOnce false [0]),
    Event.component 1 Action.joinRoomById, Event.component 1 (Action.response false),
    Event.component 0 (Action.syncOnce true []),
    Event.component 1 Action.joinRoomById, Event.environment (Environment.join 1 0),
    Event.component 1 (Action.response false),
    Event.component 1 Action.joinRoomById, Event.component 1 (Action.response true)]

theorem invites_accepted_third_call :
    exists w, (joins listServer sampleUserId sampleRooms).system.run joinOnThirdCall =
        some w ∧
      OnlyJoined listServer sampleRooms w.shared.server ∧
      RequestsInvited listServer sampleRooms sampleUserId w.shared.log ∧
      (forall i roomId, callsOf i roomId w.shared.log <= 3) ∧
      forall i roomId, w.memory i = Phase.finished ->
        listServer.membership w.shared.server roomId (sampleUserId i) = Membership.invite ->
          LeftInvited i roomId w.shared.log := by
  have hrun : exists w,
      (joins listServer sampleUserId sampleRooms).system.run joinOnThirdCall = some w :=
    ⟨_, rfl⟩
  rcases hrun with ⟨w, hrun⟩
  exact ⟨w, hrun, invites_accepted hrun⟩

end Join
end MatrixGoose
