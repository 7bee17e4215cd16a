import MatrixGoose.Matrix.Room.TypingNotice

/-!
# Typing notices that fail

The time of a notice is remembered before its request is sent, and the failure of the
request is handed on to the caller with this time in place.
-/

namespace MatrixGoose

open Foundation

namespace Room

open EventHandler
open Lib

variable {Error : Type}

/-- `typing_notice` up to its return, if a request that it sends gets this answer. -/
def typingNoticeAnswered (ownUserId : String) (times : TypingNoticeTimes)
    (roomId : RoomId) (now : Nat) (typing : Bool) (answer : Except Error Unit) :
    TypingNoticeTimes × Except Error Unit :=
  match typingNotice ownUserId times roomId now typing with
  | (times, some _) => (times, answer)
  | (times, none) => (times, Except.ok ())

/-- The cases in which `typing_notice` has nothing to send: a notice that is at most
three seconds old need not be sent again, and one that is not there or is over need not
be stopped. -/
def NothingToSend (typingTime : Option Nat) (now : Nat) : Bool -> Prop
  | true => exists start, typingTime = some start ∧ now - start <= typingNoticeResendTimeout
  | false => forall start, typingTime = some start -> typingNoticeTimeout < now - start

/-- If the call fails, it leaves the times as they were, and so a repetition within three
seconds sends its request again. -/
structure LeavesNoTrace (ownUserId : String) (times : TypingNoticeTimes)
    (roomId : RoomId) (now : Nat) (typing : Bool) (answer : Except Error Unit) :
    Prop where
  unchanged : forall e,
    (typingNoticeAnswered ownUserId times roomId now typing answer).2 = Except.error e ->
    (typingNoticeAnswered ownUserId times roomId now typing answer).1 = times
  repeated : forall e,
    (typingNoticeAnswered ownUserId times roomId now typing answer).2 = Except.error e ->
    forall later, now <= later -> later <= now + 3 * second ->
      exists request,
        (typingNotice ownUserId
          (typingNoticeAnswered ownUserId times roomId now typing answer).1
          roomId later typing).2 = some request

/-!
# When nothing is sent
-/

theorem shouldSend_eq_false_iff {typingTime : Option Nat} {now : Nat} {typing : Bool} :
    shouldSend typingTime now typing = false <-> NothingToSend typingTime now typing := by
  cases typingTime with
  | none =>
      cases typing with
      | true => simp [shouldSend, NothingToSend]
      | false => simp [shouldSend, NothingToSend]
  | some start =>
      rw [shouldSend_some]
      cases typing with
      | true => simp [NothingToSend]
      | false =>
          have hresend : typingNoticeResendTimeout < typingNoticeTimeout := by decide
          by_cases hold : typingNoticeResendTimeout < now - start
          · simp only [NothingToSend, hold, if_true, Bool.false_or, decide_eq_false_iff_not,
              Nat.not_le, Option.some.injEq, forall_eq']
          · have hactive : ¬ typingNoticeTimeout < now - start := by omega
            simp [NothingToSend, hold, hactive]

theorem typingNotice_of_nothingToSend {ownUserId : String} {times : TypingNoticeTimes}
    {roomId : RoomId} {now : Nat} {typing : Bool}
    (hnothing : NothingToSend (times roomId) now typing) :
    typingNotice ownUserId times roomId now typing = (times, none) := by
  have hsend := shouldSend_eq_false_iff.mpr hnothing
  rw [typingNotice, hsend]
  rfl

theorem typingNotice_of_sending {ownUserId : String} {times : TypingNoticeTimes}
    {call : TypingCall}
    (hsend : ¬ NothingToSend (times call.roomId) call.time call.typing) :
    typingNotice ownUserId times call.roomId call.time call.typing =
      (Function.update times call.roomId call.remembered,
        some (requestOf ownUserId call)) := by
  have hshould : shouldSend (times call.roomId) call.time call.typing = true := by
    rw [← Bool.not_eq_false, shouldSend_eq_false_iff]
    exact hsend
  rw [typingNotice, hshould, if_pos rfl, sendTypingNotice_eq]

/-!
# What a request leaves behind
-/

theorem remembered_ne {times : TypingNoticeTimes} {call : TypingCall}
    (hsend : ¬ NothingToSend (times call.roomId) call.time call.typing) :
    times call.roomId ≠ call.remembered := by
  intro hsame
  apply hsend
  rw [hsame, TypingCall.remembered]
  cases call.typing with
  | true => exact ⟨call.time, rfl, by simp⟩
  | false =>
      intro start hstart
      cases hstart

theorem nothingToSend_remembered (call : TypingCall) {later : Nat}
    (hlater : later <= call.time + 3 * second) :
    NothingToSend call.remembered later call.typing := by
  rw [TypingCall.remembered]
  cases call.typing with
  | true =>
      refine ⟨call.time, rfl, ?_⟩
      unfold typingNoticeResendTimeout
      omega
  | false =>
      intro start hstart
      cases hstart

theorem typingNoticeAnswered_of_nothingToSend {ownUserId : String}
    {times : TypingNoticeTimes} {roomId : RoomId} {now : Nat} {typing : Bool}
    (hnothing : NothingToSend (times roomId) now typing) (answer : Except Error Unit) :
    typingNoticeAnswered ownUserId times roomId now typing answer =
      (times, Except.ok ()) := by
  rw [typingNoticeAnswered, typingNotice_of_nothingToSend hnothing]

theorem typingNoticeAnswered_of_sending {ownUserId : String}
    {times : TypingNoticeTimes} {call : TypingCall}
    (hsend : ¬ NothingToSend (times call.roomId) call.time call.typing)
    (answer : Except Error Unit) :
    typingNoticeAnswered ownUserId times call.roomId call.time call.typing answer =
      (Function.update times call.roomId call.remembered, answer) := by
  rw [typingNoticeAnswered, typingNotice_of_sending hsend]

/-- After a failed request both halves of the property are wrong: the times have changed,
and the repetition is suppressed. -/
theorem failed_leaves_trace {ownUserId : String} {times : TypingNoticeTimes}
    {call : TypingCall}
    (hsend : ¬ NothingToSend (times call.roomId) call.time call.typing) (e : Error) :
    exists changed,
      typingNoticeAnswered ownUserId times call.roomId call.time call.typing
        (Except.error e) = (changed, Except.error e) ∧
      changed ≠ times ∧
      forall later, later <= call.time + 3 * second ->
        (typingNotice ownUserId changed call.roomId later call.typing).2 = none := by
  refine ⟨_, typingNoticeAnswered_of_sending hsend _, ?_, ?_⟩
  · intro hsame
    have hroom : call.remembered = times call.roomId := by
      rw [← Function.update_self call.roomId call.remembered times, hsame]
    exact remembered_ne hsend hroom.symm
  · intro later hlater
    rw [typingNotice_of_nothingToSend]
    rw [Function.update_self]
    exact nothingToSend_remembered call hlater

/-- A call of `typing_notice` leaves no trace of a failure exactly if it has nothing to
send or its request is answered. -/
theorem leavesNoTrace_iff {ownUserId : String} {times : TypingNoticeTimes}
    {roomId : RoomId} {now : Nat} {typing : Bool} {answer : Except Error Unit} :
    LeavesNoTrace ownUserId times roomId now typing answer <->
      NothingToSend (times roomId) now typing ∨ answer = Except.ok () := by
  constructor
  · intro hleaves
    by_cases hnothing : NothingToSend (times roomId) now typing
    · exact Or.inl hnothing
    · right
      cases answer with
      | ok => rfl
      | error e =>
          rcases @failed_leaves_trace Error ownUserId times { roomId, time := now, typing }
            hnothing e with ⟨changed, hcall, hne, _⟩
          have hsame := hleaves.unchanged e (congrArg Prod.snd hcall)
          rw [hcall] at hsame
          exact absurd hsame hne
  · intro h
    have hok : (typingNoticeAnswered ownUserId times roomId now typing answer).2 =
        Except.ok () := by
      rcases h with hnothing | hanswer
      · rw [typingNoticeAnswered_of_nothingToSend hnothing]
      · subst hanswer
        unfold typingNoticeAnswered
        split <;> rfl
    constructor
    · intro e he
      rw [hok] at he
      cases he
    · intro e he
      rw [hok] at he
      cases he

/-- The first notice of a room is sent, its request fails, and a second later the same
call sends nothing. -/
theorem failed_first_notice_is_suppressed :
    exists times : TypingNoticeTimes,
      typingNoticeAnswered "@u:x" (fun _ => none) "!a:x" 0 true (Except.error "timeout") =
        (times, Except.error "timeout") ∧
      times "!a:x" = some 0 ∧
      typingNotice "@u:x" times "!a:x" second true = (times, none) ∧
      ¬ LeavesNoTrace "@u:x" (fun _ => none) "!a:x" 0 true (Except.error "timeout") := by
  refine ⟨Function.update (fun _ => none) "!a:x" (some 0), rfl, rfl, ?_, ?_⟩
  · rfl
  · intro hleaves
    have hsame := congrFun (hleaves.unchanged "timeout" rfl) "!a:x"
    cases hsame

end Room
end MatrixGoose
