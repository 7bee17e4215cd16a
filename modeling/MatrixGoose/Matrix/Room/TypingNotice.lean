import Mathlib.Logic.Function.Basic
import MatrixGoose.Foundation.TransitionSystem
import MatrixGoose.Foundation.Log
import MatrixGoose.Lib.TaskSleep
import MatrixGoose.Matrix.EventHandler.Maps

/-!
# Typing notices

A client remembers when it last told the server that its user is typing in a room, and
uses this time to decide whether a notice has to be sent again.  The server forgets a
notice after its timeout.
-/

namespace MatrixGoose

open Foundation

namespace Room

open EventHandler
open Lib

def typingNoticeTimeout : Nat := 4 * second

def typingNoticeResendTimeout : Nat := 3 * second

inductive Typing
  | yes (timeout : Nat)
  | no
  deriving DecidableEq

structure TypingRequest where
  userId : String
  roomId : RoomId
  state : Typing
  deriving DecidableEq

abbrev TypingNoticeTimes := RoomId -> Option Nat

def shouldSend (typingTime : Option Nat) (now : Nat) (typing : Bool) : Bool :=
  match typingTime with
  | some typingTime =>
      if now - typingTime > typingNoticeResendTimeout then
        typing || decide (now - typingTime <= typingNoticeTimeout)
      else !typing
  | none => typing

def sendTypingNotice (ownUserId : String) (times : TypingNoticeTimes) (roomId : RoomId)
    (now : Nat) (typing : Bool) : TypingNoticeTimes × TypingRequest :=
  if typing then
    (Function.update times roomId (some now),
      { userId := ownUserId, roomId, state := Typing.yes typingNoticeTimeout })
  else
    (Function.update times roomId none,
      { userId := ownUserId, roomId, state := Typing.no })

def typingNotice (ownUserId : String) (times : TypingNoticeTimes) (roomId : RoomId)
    (now : Nat) (typing : Bool) : TypingNoticeTimes × Option TypingRequest :=
  if shouldSend (times roomId) now typing then
    let (times, request) := sendTypingNotice ownUserId times roomId now typing
    (times, some request)
  else (times, none)

/-!
# The client and the server
-/

/-- The start and the timeout of the notice of the user in each room. -/
abbrev Notices := RoomId -> Option (Nat × Nat)

def receiveTyping (notices : Notices) (now : Nat) (request : TypingRequest) : Notices :=
  match request.state with
  | Typing.yes timeout => Function.update notices request.roomId (some (now, timeout))
  | Typing.no => Function.update notices request.roomId none

structure TypingCall where
  roomId : RoomId
  time : Nat
  typing : Bool

structure TypingState where
  now : Nat
  times : TypingNoticeTimes
  notices : Notices

/-- Whether the server shows the user as typing.  It may or may not do so at the moment
of the timeout itself. -/
def TypingState.shows (lastMoment : Bool) (s : TypingState) (roomId : RoomId)
    (now : Nat) : Bool :=
  match s.notices roomId with
  | some (start, timeout) =>
      decide (now - start < timeout) || (lastMoment && decide (now - start = timeout))
  | none => false

/-- A call whose request, if it sends one, reaches the server at once. -/
def callTypingNotice (ownUserId : String) (s : TypingState) (call : TypingCall) :
    Option TypingState :=
  if s.now <= call.time then
    let (times, request) :=
      typingNotice ownUserId s.times call.roomId call.time call.typing
    some
      { now := call.time
        times
        notices :=
          match request with
          | some request => receiveTyping s.notices call.time request
          | none => s.notices }
  else none

def typingNotices (ownUserId : String) : TransitionSystem TypingState TypingCall where
  init := { now := 0, times := fun _ => none, notices := fun _ => none }
  step := callTypingNotice ownUserId

structure SentNotice where
  time : Nat
  request : TypingRequest

def sentBy (ownUserId : String) (s : TypingState) (call : TypingCall) : List SentNotice :=
  match (typingNotice ownUserId s.times call.roomId call.time call.typing).2 with
  | some request => [{ time := call.time, request }]
  | none => []

def SentNotice.Starts (roomId : RoomId) (notice : SentNotice) : Prop :=
  notice.request.roomId = roomId ∧ exists timeout, notice.request.state = Typing.yes timeout

def SentNotice.Stops (roomId : RoomId) (notice : SentNotice) : Prop :=
  notice.request.roomId = roomId ∧ notice.request.state = Typing.no

/-- Right after a call the server shows what the call says. -/
def ShownAfter (ownUserId : String) (lastMoment : Bool) (s : TypingState)
    (call : TypingCall) : Prop :=
  forall s', callTypingNotice ownUserId s call = some s' ->
    s'.shows lastMoment call.roomId call.time = call.typing

/-- Between two notices that start typing in a room, without one that stops it, there are
more than three seconds. -/
def Spaced (before : List SentNotice) (second' : SentNotice) : Prop :=
  forall roomId, second'.Starts roomId -> forall earlier first between,
    before = earlier ++ first :: between -> first.Starts roomId ->
    (forall notice, notice ∈ between -> ¬ notice.Stops roomId) ->
    first.time + 3 * second < second'.time

/-!
# What a call does
-/

def requestOf (ownUserId : String) (call : TypingCall) : TypingRequest where
  userId := ownUserId
  roomId := call.roomId
  state := if call.typing then Typing.yes typingNoticeTimeout else Typing.no

def TypingCall.remembered (call : TypingCall) : Option Nat :=
  if call.typing then some call.time else none

def noticeAt (typingTime : Option Nat) : Option (Nat × Nat) :=
  typingTime.map fun start => (start, typingNoticeTimeout)

theorem sendTypingNotice_eq (ownUserId : String) (times : TypingNoticeTimes)
    (call : TypingCall) :
    sendTypingNotice ownUserId times call.roomId call.time call.typing =
      (Function.update times call.roomId call.remembered, requestOf ownUserId call) := by
  rcases call with ⟨roomId, time, typing⟩
  cases typing <;> rfl

theorem receiveTyping_requestOf (ownUserId : String) (notices : Notices)
    (call : TypingCall) :
    receiveTyping notices call.time (requestOf ownUserId call) =
      Function.update notices call.roomId (noticeAt call.remembered) := by
  rcases call with ⟨roomId, time, typing⟩
  cases typing <;> rfl

def TypingState.afterSending (s : TypingState) (call : TypingCall) : TypingState where
  now := call.time
  times := Function.update s.times call.roomId call.remembered
  notices := Function.update s.notices call.roomId (noticeAt call.remembered)

def TypingState.sends (s : TypingState) (call : TypingCall) : Bool :=
  shouldSend (s.times call.roomId) call.time call.typing

theorem callTypingNotice_eq {ownUserId : String} {s : TypingState} {call : TypingCall}
    (htime : s.now <= call.time) :
    callTypingNotice ownUserId s call =
      some (if s.sends call then s.afterSending call else { s with now := call.time }) := by
  rw [callTypingNotice, if_pos htime, typingNotice, TypingState.sends]
  cases shouldSend (s.times call.roomId) call.time call.typing with
  | false => rfl
  | true =>
      simp only [if_true, sendTypingNotice_eq, receiveTyping_requestOf]
      rfl

theorem sentBy_eq (ownUserId : String) (s : TypingState) (call : TypingCall) :
    sentBy ownUserId s call =
      if s.sends call then [{ time := call.time, request := requestOf ownUserId call }]
      else [] := by
  rw [sentBy, typingNotice, TypingState.sends]
  cases shouldSend (s.times call.roomId) call.time call.typing with
  | false => rfl
  | true => simp only [if_true, sendTypingNotice_eq]

theorem le_of_callTypingNotice {ownUserId : String} {s s' : TypingState}
    {call : TypingCall} (hstep : callTypingNotice ownUserId s call = some s') :
    s.now <= call.time := by
  unfold callTypingNotice at hstep
  split at hstep
  · next htime => exact htime
  · cases hstep

inductive CallStep (ownUserId : String) (s : TypingState) (call : TypingCall) :
    List SentNotice -> TypingState -> Prop
  | sent (htime : s.now <= call.time) (hsend : s.sends call = true) :
      CallStep ownUserId s call
        [{ time := call.time, request := requestOf ownUserId call }] (s.afterSending call)
  | suppressed (htime : s.now <= call.time) (hsend : s.sends call = false) :
      CallStep ownUserId s call [] { s with now := call.time }

theorem CallStep.now_eq {ownUserId : String} {s s' : TypingState} {call : TypingCall}
    {sent : List SentNotice} (hstep : CallStep ownUserId s call sent s') :
    s'.now = call.time := by
  cases hstep <;> rfl

theorem callStep_of_eq_some {ownUserId : String} {s s' : TypingState} {call : TypingCall}
    (hstep : callTypingNotice ownUserId s call = some s') :
    CallStep ownUserId s call (sentBy ownUserId s call) s' := by
  have htime := le_of_callTypingNotice hstep
  rw [callTypingNotice_eq htime] at hstep
  rw [sentBy_eq]
  cases hsend : s.sends call with
  | false =>
      rw [hsend] at hstep
      cases hstep
      exact CallStep.suppressed htime hsend
  | true =>
      rw [hsend] at hstep
      cases hstep
      exact CallStep.sent htime hsend

/-!
# The simulation

The notice of a room at the server is the one that the client remembers.
-/

structure Simulates (s : TypingState) : Prop where
  notices : forall roomId, s.notices roomId = noticeAt (s.times roomId)
  past : forall roomId start, s.times roomId = some start -> start <= s.now

theorem simulates_init (ownUserId : String) : Simulates (typingNotices ownUserId).init :=
  ⟨fun _ => rfl, nofun⟩

theorem CallStep.simulates {ownUserId : String} {s s' : TypingState} {call : TypingCall}
    {sent : List SentNotice} (hs : Simulates s)
    (hstep : CallStep ownUserId s call sent s') : Simulates s' := by
  cases hstep with
  | sent htime hsend =>
      constructor
      · intro roomId
        by_cases hroom : roomId = call.roomId
        · subst hroom
          simp only [TypingState.afterSending, Function.update_self]
        · simp only [TypingState.afterSending, Function.update_of_ne hroom]
          exact hs.notices roomId
      · intro roomId start hstart
        by_cases hroom : roomId = call.roomId
        · subst hroom
          simp only [TypingState.afterSending, Function.update_self,
            TypingCall.remembered] at hstart
          split at hstart
          · cases hstart
            exact Nat.le_refl _
          · cases hstart
        · simp only [TypingState.afterSending, Function.update_of_ne hroom] at hstart
          exact Nat.le_trans (hs.past roomId start hstart) htime
  | suppressed htime hsend =>
      exact ⟨hs.notices, fun roomId start hstart =>
        Nat.le_trans (hs.past roomId start hstart) htime⟩

theorem shouldSend_some {start now : Nat} {typing : Bool} :
    shouldSend (some start) now typing =
      if now - start > typingNoticeResendTimeout then
        typing || decide (now - start <= typingNoticeTimeout)
      else !typing := rfl

theorem Simulates.shows_none {s : TypingState} (hs : Simulates s) {roomId : RoomId}
    (h : s.times roomId = none) (lastMoment : Bool) (now : Nat) :
    s.shows lastMoment roomId now = false := by
  unfold TypingState.shows
  rw [hs.notices roomId, h]
  rfl

theorem Simulates.shows_some {s : TypingState} (hs : Simulates s) {roomId : RoomId}
    {start : Nat} (h : s.times roomId = some start) (lastMoment : Bool) (now : Nat) :
    s.shows lastMoment roomId now =
      (decide (now - start < typingNoticeTimeout) ||
        (lastMoment && decide (now - start = typingNoticeTimeout))) := by
  unfold TypingState.shows
  rw [hs.notices roomId, h]
  rfl

theorem CallStep.recent {ownUserId : String} {s s' : TypingState} {call : TypingCall}
    {sent : List SentNotice} (hstep : CallStep ownUserId s call sent s')
    (htyping : call.typing = true) :
    exists start, s'.times call.roomId = some start ∧
      call.time - start <= typingNoticeResendTimeout := by
  cases hstep with
  | sent htime hsend =>
      refine ⟨call.time, ?_, by simp [typingNoticeResendTimeout]⟩
      simp [TypingState.afterSending, TypingCall.remembered, htyping]
  | suppressed htime hsend =>
      rw [TypingState.sends, htyping] at hsend
      cases hremembered : s.times call.roomId with
      | none =>
          rw [hremembered] at hsend
          cases hsend
      | some start =>
          refine ⟨start, rfl, ?_⟩
          rw [hremembered, shouldSend_some] at hsend
          split at hsend
          · cases hsend
          · next hrecent => omega

theorem CallStep.over {ownUserId : String} {s s' : TypingState} {call : TypingCall}
    {sent : List SentNotice} (hstep : CallStep ownUserId s call sent s')
    (htyping : call.typing = false) (start : Nat)
    (hstart : s'.times call.roomId = some start) :
    typingNoticeTimeout < call.time - start := by
  cases hstep with
  | sent htime hsend =>
      simp [TypingState.afterSending, TypingCall.remembered, htyping] at hstart
  | suppressed htime hsend =>
      have hremembered : s.times call.roomId = some start := hstart
      rw [TypingState.sends, htyping, hremembered, shouldSend_some] at hsend
      split at hsend
      · simp only [Bool.false_or, decide_eq_false_iff_not] at hsend
        omega
      · cases hsend

theorem CallStep.shows_eq {ownUserId : String} {s s' : TypingState} {call : TypingCall}
    {sent : List SentNotice} (hs : Simulates s)
    (hstep : CallStep ownUserId s call sent s') (lastMoment : Bool) :
    s'.shows lastMoment call.roomId call.time = call.typing := by
  have hs' := hstep.simulates hs
  cases htyping : call.typing with
  | true =>
      rcases hstep.recent htyping with ⟨start, hstart, hrecent⟩
      have hlt : call.time - start < typingNoticeTimeout := by
        simp only [typingNoticeTimeout, typingNoticeResendTimeout, second] at hrecent ⊢
        omega
      rw [hs'.shows_some hstart, decide_eq_true hlt, Bool.true_or]
  | false =>
      cases hstart : s'.times call.roomId with
      | none => exact hs'.shows_none hstart lastMoment call.time
      | some start =>
          have hover := hstep.over htyping start hstart
          have hnotLt : ¬ call.time - start < typingNoticeTimeout := by omega
          have hne : call.time - start ≠ typingNoticeTimeout := by omega
          rw [hs'.shows_some hstart, decide_eq_false hnotLt, decide_eq_false hne,
            Bool.and_false, Bool.or_false]

/-!
# Spacing
-/

theorem starts_requestOf {ownUserId : String} {call : TypingCall} {roomId : RoomId}
    (h : (SentNotice.mk call.time (requestOf ownUserId call)).Starts roomId) :
    call.roomId = roomId ∧ call.typing = true := by
  refine ⟨h.1, ?_⟩
  cases htyping : call.typing with
  | true => rfl
  | false =>
      rcases h.2 with ⟨timeout, hstate⟩
      simp [requestOf, htyping] at hstate

theorem stops_requestOf {ownUserId : String} {call : TypingCall}
    (htyping : call.typing = false) :
    (SentNotice.mk call.time (requestOf ownUserId call)).Stops call.roomId := by
  refine ⟨rfl, ?_⟩
  simp [requestOf, htyping]

/-- A notice that was started and not stopped since is remembered, with its time or a
later one. -/
def Remembers (log : List SentNotice) (s : TypingState) : Prop :=
  forall roomId earlier first between, log = earlier ++ first :: between ->
    first.Starts roomId -> (forall notice, notice ∈ between -> ¬ notice.Stops roomId) ->
    exists start, s.times roomId = some start ∧ first.time <= start

structure NoticesKept (log : List SentNotice) (s : TypingState) : Prop where
  simulates : Simulates s
  remembers : Remembers log s
  spaced : EachEntry Spaced log

theorem remembers_sent {ownUserId : String} {s : TypingState} {call : TypingCall}
    {log : List SentNotice} (hs : Simulates s) (hlog : Remembers log s)
    (htime : s.now <= call.time) :
    Remembers (log ++ [{ time := call.time, request := requestOf ownUserId call }])
      (s.afterSending call) := by
  intro roomId earlier first between hsplit hstarts hstops
  rcases append_singleton_eq_split hsplit with ⟨_, rfl, rfl⟩ | ⟨rest, rfl, hold⟩
  · rcases starts_requestOf hstarts with ⟨hroom, htyping⟩
    subst hroom
    refine ⟨call.time, ?_, Nat.le_refl _⟩
    simp [TypingState.afterSending, TypingCall.remembered, htyping]
  · rcases hlog roomId earlier first rest hold hstarts
        fun notice hmem => hstops notice (by simp [hmem]) with ⟨start, hstart, hle⟩
    by_cases hroom : roomId = call.roomId
    · subst hroom
      have htyping : call.typing = true := by
        cases htyping : call.typing with
        | true => rfl
        | false =>
            exact absurd (stops_requestOf htyping)
              (hstops _ (List.mem_append_right rest (List.mem_singleton_self _)))
      refine ⟨call.time, ?_, ?_⟩
      · simp [TypingState.afterSending, TypingCall.remembered, htyping]
      · have hpast := hs.past call.roomId start hstart
        omega
    · refine ⟨start, ?_, hle⟩
      show Function.update s.times call.roomId _ roomId = _
      rw [Function.update_of_ne hroom]
      exact hstart

theorem spaced_sent {ownUserId : String} {s : TypingState} {call : TypingCall}
    {log : List SentNotice} (hlog : Remembers log s)
    (hsend : s.sends call = true) :
    Spaced log { time := call.time, request := requestOf ownUserId call } := by
  intro roomId hstarts earlier first between hsplit hfirst hstops
  rcases starts_requestOf hstarts with ⟨hroom, htyping⟩
  subst hroom
  rcases hlog call.roomId earlier first between hsplit hfirst hstops with
    ⟨start, hstart, hle⟩
  rw [TypingState.sends, hstart, htyping, shouldSend_some] at hsend
  split at hsend
  · next hresend =>
      show first.time + 3 * second < call.time
      unfold typingNoticeResendTimeout at hresend
      omega
  · cases hsend

theorem NoticesKept.step {ownUserId : String} {log : List SentNotice}
    {s s' : TypingState} {call : TypingCall} (hs : NoticesKept log s)
    (hstep : callTypingNotice ownUserId s call = some s') :
    NoticesKept (log ++ sentBy ownUserId s call) s' := by
  have hcall := callStep_of_eq_some hstep
  generalize sentBy ownUserId s call = sent at hcall ⊢
  have hsimulates := hcall.simulates hs.simulates
  cases hcall with
  | sent htime hsend =>
      exact ⟨hsimulates, remembers_sent hs.simulates hs.remembers htime,
        eachEntry_append_singleton.mpr ⟨hs.spaced, spaced_sent hs.remembers hsend⟩⟩
  | suppressed htime hsend =>
      rw [List.append_nil]
      exact ⟨hsimulates, hs.remembers, hs.spaced⟩

/-!
# Rooms on their own
-/

theorem CallStep.of_ne {ownUserId : String} {s s' : TypingState} {call : TypingCall}
    {sent : List SentNotice} (hstep : CallStep ownUserId s call sent s')
    {roomId : RoomId} (hroom : call.roomId ≠ roomId) :
    s'.times roomId = s.times roomId ∧ s'.notices roomId = s.notices roomId ∧
      forall notice, notice ∈ sent -> notice.request.roomId ≠ roomId := by
  cases hstep with
  | sent htime hsend =>
      refine ⟨Function.update_of_ne hroom.symm _ _, Function.update_of_ne hroom.symm _ _, ?_⟩
      intro notice hmem
      rw [List.mem_singleton] at hmem
      subst hmem
      exact hroom
  | suppressed htime hsend => exact ⟨rfl, rfl, nofun⟩

structure SameRoom (roomId : RoomId) (s alone : TypingState) : Prop where
  now : alone.now <= s.now
  times : alone.times roomId = s.times roomId
  notices : alone.notices roomId = s.notices roomId

def noticesIn (roomId : RoomId) (log : List SentNotice) : List SentNotice :=
  log.filter fun notice => notice.request.roomId = roomId

theorem SameRoom.call {ownUserId : String} {s s' alone : TypingState} {call : TypingCall}
    (hsame : SameRoom call.roomId s alone)
    (hstep : callTypingNotice ownUserId s call = some s') :
    exists alone', callTypingNotice ownUserId alone call = some alone' ∧
      SameRoom call.roomId s' alone' ∧
      sentBy ownUserId alone call = sentBy ownUserId s call := by
  have htime := le_of_callTypingNotice hstep
  have hsends : alone.sends call = s.sends call := by
    unfold TypingState.sends
    rw [hsame.times]
  rw [callTypingNotice_eq htime] at hstep
  rw [callTypingNotice_eq (Nat.le_trans hsame.now htime), sentBy_eq, sentBy_eq, hsends]
  refine ⟨_, rfl, ?_, rfl⟩
  cases hsend : s.sends call with
  | false =>
      rw [hsend] at hstep
      cases hstep
      exact ⟨Nat.le_refl _, hsame.times, hsame.notices⟩
  | true =>
      rw [hsend] at hstep
      cases hstep
      refine ⟨Nat.le_refl _, ?_, ?_⟩
      · simp [TypingState.afterSending]
      · simp [TypingState.afterSending]

/-- The calls for a room act as if there were no others. -/
theorem run_alone {ownUserId : String} {s s' alone : TypingState} {roomId : RoomId}
    {calls : List TypingCall} (hsame : SameRoom roomId s alone)
    (hrun : (typingNotices ownUserId).runFrom s calls = some s') :
    exists alone', (typingNotices ownUserId).runFrom alone
        (calls.filter fun call => call.roomId = roomId) = some alone' ∧
      SameRoom roomId s' alone' ∧
      (typingNotices ownUserId).observe (sentBy ownUserId) alone
          (calls.filter fun call => call.roomId = roomId) =
        noticesIn roomId
          ((typingNotices ownUserId).observe (sentBy ownUserId) s calls) := by
  induction calls generalizing s alone with
  | nil =>
      cases hrun
      exact ⟨alone, rfl, hsame, rfl⟩
  | cons call rest ih =>
      rcases (TransitionSystem.runFrom_cons_eq_some _).mp hrun with ⟨mid, hmid, hrest⟩
      have hcall := callStep_of_eq_some hmid
      rw [TransitionSystem.observe_cons hmid, noticesIn, List.filter_append]
      by_cases hroom : call.roomId = roomId
      · subst hroom
        rcases hsame.call hmid with ⟨next, hnext, hsameNext, hsent⟩
        rcases ih hsameNext hrest with ⟨alone', hrun', hsame', hsent'⟩
        rw [List.filter_cons_of_pos (by simp)]
        refine ⟨alone', ?_, hsame', ?_⟩
        · exact (TransitionSystem.runFrom_cons_eq_some _).mpr ⟨next, hnext, hrun'⟩
        · rw [TransitionSystem.observe_cons hnext, hsent', hsent]
          congr 1
          rw [sentBy_eq]
          split
          · rw [List.filter_cons_of_pos (by simp [requestOf])]
            rfl
          · rfl
      · rcases hcall.of_ne hroom with ⟨htimes, hnotices, hothers⟩
        have hsameMid : SameRoom roomId mid alone := by
          refine ⟨?_, hsame.times.trans htimes.symm, hsame.notices.trans hnotices.symm⟩
          rw [hcall.now_eq]
          exact Nat.le_trans hsame.now (le_of_callTypingNotice hmid)
        rcases ih hsameMid hrest with ⟨alone', hrun', hsame', hsent'⟩
        rw [List.filter_cons_of_neg (by simpa using hroom)]
        refine ⟨alone', hrun', hsame', ?_⟩
        rw [hsent', noticesIn]
        have hnone : (sentBy ownUserId s call).filter
            (fun notice => decide (notice.request.roomId = roomId)) = [] := by
          rw [List.filter_eq_nil_iff]
          intro notice hmem
          simpa using hothers notice hmem
        rw [hnone, List.nil_append]

/-!
# Runs
-/

theorem times_of_others {ownUserId : String} {s s' : TypingState} {roomId : RoomId}
    {calls : List TypingCall}
    (hrun : (typingNotices ownUserId).runFrom s calls = some s')
    (hothers : forall call, call ∈ calls -> call.roomId ≠ roomId) :
    s'.times roomId = s.times roomId := by
  induction calls generalizing s with
  | nil =>
      cases hrun
      rfl
  | cons call rest ih =>
      rcases (TransitionSystem.runFrom_cons_eq_some _).mp hrun with ⟨mid, hmid, hrest⟩
      have hcall := callStep_of_eq_some hmid
      rw [ih hrest fun other hother => hothers other (List.mem_cons_of_mem call hother)]
      exact (hcall.of_ne (hothers call List.mem_cons_self)).1

theorem shows_until_next {ownUserId : String} {before between : List TypingCall}
    {call : TypingCall} {s : TypingState}
    (hrun : (typingNotices ownUserId).run (before ++ call :: between) = some s)
    (htyping : call.typing = true)
    (hbetween : forall other, other ∈ between -> other.roomId ≠ call.roomId)
    {next : Nat} (hnext : next <= call.time + second) {now : Nat} (hnow : now < next)
    (lastMoment : Bool) : s.shows lastMoment call.roomId now = true := by
  rcases (TransitionSystem.runFrom_append_eq_some _).mp hrun with ⟨start, hbefore, hrest⟩
  rcases (TransitionSystem.runFrom_cons_eq_some _).mp hrest with ⟨mid, hmid, hafter⟩
  have hsimulates : forall s call s', Simulates s ->
      callTypingNotice ownUserId s call = some s' -> Simulates s' :=
    fun _ _ _ hs hstep => (callStep_of_eq_some hstep).simulates hs
  have hsStart : Simulates start :=
    TransitionSystem.invariant_runFrom hsimulates (simulates_init ownUserId) hbefore
  have hsMid : Simulates mid := hsimulates _ _ _ hsStart hmid
  rcases (callStep_of_eq_some hmid).recent htyping with ⟨began, hbegan, hrecent⟩
  have htimes := times_of_others hafter hbetween
  have hs : Simulates s := TransitionSystem.invariant_runFrom hsimulates hsMid hafter
  rw [hbegan] at htimes
  have hlt : now - began < typingNoticeTimeout := by
    simp only [typingNoticeTimeout, typingNoticeResendTimeout, second] at hrecent hnext ⊢
    omega
  rw [hs.shows_some htimes, decide_eq_true hlt, Bool.true_or]

structure TracksServer (ownUserId : String) (lastMoment : Bool) (calls : List TypingCall)
    (s : TypingState) : Prop where
  shown : (typingNotices ownUserId).AllSteps (ShownAfter ownUserId lastMoment)
    (typingNotices ownUserId).init calls
  spaced : EachEntry Spaced
    ((typingNotices ownUserId).observe (sentBy ownUserId)
      (typingNotices ownUserId).init calls)
  lasts : forall before call between, calls = before ++ call :: between ->
    call.typing = true ->
    (forall other, other ∈ between -> other.roomId ≠ call.roomId) ->
    forall next, next <= call.time + second -> forall now, s.now <= now -> now < next ->
      s.shows lastMoment call.roomId now = true
  alone : forall roomId, exists alone,
    (typingNotices ownUserId).run (calls.filter fun call => call.roomId = roomId) =
      some alone ∧
    (forall now, alone.shows lastMoment roomId now = s.shows lastMoment roomId now) ∧
    (typingNotices ownUserId).observe (sentBy ownUserId) (typingNotices ownUserId).init
        (calls.filter fun call => call.roomId = roomId) =
      noticesIn roomId
        ((typingNotices ownUserId).observe (sentBy ownUserId)
          (typingNotices ownUserId).init calls)

theorem allSteps_shownAfter {ownUserId : String} {lastMoment : Bool}
    {calls : List TypingCall} {s s' : TypingState} (hs : Simulates s)
    (hrun : (typingNotices ownUserId).runFrom s calls = some s') :
    (typingNotices ownUserId).AllSteps (ShownAfter ownUserId lastMoment) s calls := by
  induction calls generalizing s with
  | nil => exact True.intro
  | cons call rest ih =>
      rcases (TransitionSystem.runFrom_cons_eq_some _).mp hrun with ⟨mid, hmid, hrest⟩
      have hcall := callStep_of_eq_some hmid
      refine TransitionSystem.AllSteps.cons hmid ?_ (ih (hcall.simulates hs) hrest)
      intro next hnext
      exact (callStep_of_eq_some hnext).shows_eq hs lastMoment

/-- The notices of a client track those of the server. -/
theorem tracksServer {ownUserId : String} {calls : List TypingCall} {s : TypingState}
    (hrun : (typingNotices ownUserId).run calls = some s) (lastMoment : Bool) :
    TracksServer ownUserId lastMoment calls s where
  shown := allSteps_shownAfter (simulates_init ownUserId) hrun
  spaced := by
    have hinit : NoticesKept [] (typingNotices ownUserId).init := by
      refine ⟨simulates_init ownUserId, ?_, EachEntry.nil⟩
      intro roomId earlier first between hsplit
      cases earlier <;> cases hsplit
    have hkept : NoticesKept ([] ++ (typingNotices ownUserId).observe (sentBy ownUserId)
        (typingNotices ownUserId).init calls) s :=
      TransitionSystem.invariant_observe (P := NoticesKept)
        (fun _ _ _ _ hs hstep => hs.step hstep) hinit hrun
    exact hkept.spaced
  lasts := by
    intro before call between hcalls htyping hbetween next hnext now _ hnow
    subst hcalls
    exact shows_until_next hrun htyping hbetween hnext hnow lastMoment
  alone := by
    intro roomId
    have hinit : SameRoom roomId (typingNotices ownUserId).init
        (typingNotices ownUserId).init := ⟨Nat.le_refl _, rfl, rfl⟩
    rcases run_alone hinit hrun with ⟨alone, halone, hsame, hsent⟩
    refine ⟨alone, halone, ?_, hsent⟩
    intro now
    unfold TypingState.shows
    rw [hsame.notices]

/-- Calls in two rooms, some of them at the two thresholds of the first one. -/
def twoRooms : List TypingCall :=
  [{ roomId := "!a:x", time := 0, typing := true },
    { roomId := "!b:x", time := second, typing := true },
    { roomId := "!a:x", time := 3 * second, typing := true },
    { roomId := "!b:x", time := 5 * second, typing := false },
    { roomId := "!a:x", time := 5 * second, typing := true }]

theorem tracksServer_two_rooms :
    exists s, (typingNotices "@u:x").run twoRooms = some s ∧
      TracksServer "@u:x" false twoRooms s :=
  ⟨_, rfl, tracksServer rfl false⟩

end Room
end MatrixGoose
