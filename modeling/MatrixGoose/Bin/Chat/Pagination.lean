import MatrixGoose.Foundation.PageChain
import MatrixGoose.Bin.Chat.SessionData

/-!
# Pagination

`paginate_room` goes on in a room from the last `end` token it was given there, whatever
happens in other rooms.  Against a server that hands out a chain of pages it walks this
chain once.
-/

namespace MatrixGoose

open Foundation
open Foundation.Components

namespace Chat

open EventHandler

variable {Message : Type}

/-!
# Answers
-/

def EndsCall : ChatEvent Message -> Prop
  | Event.component _ (UserAction.main (MainAction.callDone _)) => True
  | _ => False

/-- An event that tells how a call ends: both a failed call and an answer without `end`
leave the tokens alone. -/
inductive AnsweredEvent (Message : Type)
  | failed (u : Nat)
  | answered (u : Nat) (endToken : Option String)
  | other (e : ChatEvent Message) (hother : ¬ EndsCall e)

def AnsweredEvent.event : AnsweredEvent Message -> ChatEvent Message
  | AnsweredEvent.failed u => ChatEvent.main u (MainAction.callDone none)
  | AnsweredEvent.answered u endToken => ChatEvent.main u (MainAction.callDone endToken)
  | AnsweredEvent.other e _ => e

def answeredChat (Message : Type) (config : Config) :
    TransitionSystem (ChatWorld Message) (AnsweredEvent Message) where
  init := (chat Message config).system.init
  step := fun w a => (chat Message config).worldStep w a.event

theorem runFrom_answeredChat {config : Config} (w : ChatWorld Message)
    (actions : List (AnsweredEvent Message)) :
    (answeredChat Message config).runFrom w actions =
      (chat Message config).system.runFrom w (actions.map AnsweredEvent.event) := by
  induction actions generalizing w with
  | nil => rfl
  | cons a rest ih =>
      show ((chat Message config).worldStep w a.event).bind _ =
        ((chat Message config).worldStep w a.event).bind _
      congr 1
      funext w'
      exact ih w'

theorem exists_answered (events : List (ChatEvent Message)) :
    exists actions : List (AnsweredEvent Message),
      actions.map AnsweredEvent.event = events := by
  induction events with
  | nil => exact ⟨[], rfl⟩
  | cons e events ih =>
      rcases ih with ⟨actions, hactions⟩
      have hevent : exists a : AnsweredEvent Message, a.event = e := by
        by_cases hends : EndsCall e
        · unfold EndsCall at hends
          split at hends
          · next u token => exact ⟨AnsweredEvent.answered u token, rfl⟩
          · exact absurd hends id
        · exact ⟨AnsweredEvent.other e hends, rfl⟩
      rcases hevent with ⟨a, ha⟩
      exact ⟨a :: actions, by rw [List.map_cons, ha, hactions]⟩

/-- Every run of the chat users is one with outcomes. -/
theorem exists_run_answeredChat {config : Config} {events : List (ChatEvent Message)}
    {w : ChatWorld Message} (hrun : (chat Message config).system.run events = some w) :
    exists actions, actions.map AnsweredEvent.event = events ∧
      (answeredChat Message config).run actions = some w := by
  rcases exists_answered events with ⟨actions, hactions⟩
  refine ⟨actions, hactions, ?_⟩
  rw [TransitionSystem.run, runFrom_answeredChat, hactions]
  exact hrun

/-!
# What is seen of `paginate_room`
-/

inductive PageEvent
  | request (roomId : RoomId) (fromToken : Option String)
  | failed (roomId : RoomId) (fromToken : Option String)
  | returned (roomId : RoomId) (fromToken endToken : Option String)

def Phase.waiting : Phase Message -> Option (RoomId × Option String)
  | Phase.call (Request.messages roomId fromToken) _ => some (roomId, fromToken)
  | _ => none

def pageRequest : Pending Message -> Option PageEvent
  | Pending.call (Request.messages roomId fromToken) =>
      some (PageEvent.request roomId fromToken)
  | _ => none

def taskPages : Except Panic (TaskStart Message) -> List PageEvent
  | .ok start => start.pending.filterMap pageRequest
  | .error _ => []

/-- What user `u` asks for and gets in one event. -/
def pagesOf (config : Config) (u : Nat) (w : ChatWorld Message) :
    AnsweredEvent Message -> List PageEvent
  | AnsweredEvent.failed v =>
      match (w.memory u).phase.waiting with
      | some (roomId, fromToken) =>
          if v = u then [PageEvent.failed roomId fromToken] else []
      | none => []
  | AnsweredEvent.answered v endToken =>
      match (w.memory u).phase.waiting with
      | some (roomId, fromToken) =>
          if v = u then [PageEvent.returned roomId fromToken endToken] else []
      | none => []
  | AnsweredEvent.other
      (Event.component v (UserAction.main (MainAction.startTask draw))) _ =>
      if v = u then taskPages (runTask (viewOf config u w.shared (w.memory u)) draw)
      else []
  | _ => []

/-- The answers of a room, as the tokens of the request and of the page. -/
def PageEvent.answer (roomId : RoomId) :
    PageEvent -> Option (Option String × Option String)
  | PageEvent.returned roomId' fromToken endToken =>
      if roomId' = roomId then some (fromToken, endToken) else none
  | _ => none

def answersIn (roomId : RoomId) (log : List PageEvent) :
    List (Option String × Option String) :=
  log.filterMap (PageEvent.answer roomId)

def latestEnd (roomId : RoomId) (log : List PageEvent) : Option String :=
  PageChain.lastEnd (answersIn roomId log)

def ContinuesRoom (before : List PageEvent) : PageEvent -> Prop
  | PageEvent.request roomId fromToken => fromToken = latestEnd roomId before
  | PageEvent.failed roomId fromToken => fromToken = latestEnd roomId before
  | PageEvent.returned roomId fromToken _ => fromToken = latestEnd roomId before

def ServedFrom (tokens : RoomId -> List String) (log : List PageEvent) : Prop :=
  forall roomId answer, answer ∈ answersIn roomId log ->
    PageChain.Serves (tokens roomId) answer

structure PaginationChain (log : List PageEvent) : Prop where
  continues : EachEntry ContinuesRoom log
  pages : forall tokens : RoomId -> List String, (forall roomId, (tokens roomId).Nodup) ->
    ServedFrom tokens log -> forall roomId,
      (answersIn roomId log).map
          (fun answer => PageChain.pageAfter (tokens roomId) answer.1) =
        (List.range (answersIn roomId log).length).map
          fun i => some (min i (tokens roomId).length)

/-!
# A pager

All that matters of a user is its tokens and the call it waits for.
-/

structure Pager where
  tokens : Option (RoomId -> Option String)
  waiting : Option (RoomId × Option String)

def Pager.token (pager : Pager) (roomId : RoomId) : Option String :=
  pager.tokens.bind fun tokens => tokens roomId

def pushToken (roomId : RoomId) (tokens : RoomId -> Option String) :
    Option String -> RoomId -> Option String
  | some endToken => Function.update tokens roomId (some endToken)
  | none => tokens

inductive PagerStep : Pager -> List PageEvent -> Pager -> Prop
  | quiet (tokens : Option (RoomId -> Option String))
      (waiting waiting' : Option (RoomId × Option String))
      (hwaiting : waiting' = waiting ∨ waiting' = none) :
      PagerStep { tokens, waiting } [] { tokens, waiting := waiting' }
  | install (waiting : Option (RoomId × Option String)) :
      PagerStep { tokens := none, waiting } []
        { tokens := some fun _ => none, waiting := none }
  | request (tokens : RoomId -> Option String) (roomId : RoomId) :
      PagerStep { tokens := some tokens, waiting := none }
        [PageEvent.request roomId (tokens roomId)]
        { tokens := some tokens, waiting := some (roomId, tokens roomId) }
  | failed (tokens : Option (RoomId -> Option String)) (roomId : RoomId)
      (fromToken : Option String) :
      PagerStep { tokens, waiting := some (roomId, fromToken) }
        [PageEvent.failed roomId fromToken] { tokens, waiting := none }
  | returned (tokens : Option (RoomId -> Option String)) (roomId : RoomId)
      (fromToken endToken : Option String) :
      PagerStep { tokens, waiting := some (roomId, fromToken) }
        [PageEvent.returned roomId fromToken endToken]
        { tokens := tokens.map fun tokens => pushToken roomId tokens endToken
          waiting := none }

structure PagerKept (log : List PageEvent) (pager : Pager) : Prop where
  latest : forall roomId, pager.token roomId = latestEnd roomId log
  waits : forall roomId fromToken, pager.waiting = some (roomId, fromToken) ->
    pager.tokens.isSome = true ∧ fromToken = latestEnd roomId log
  continues : EachEntry ContinuesRoom log

theorem latestEnd_append_of_answer_none {roomId : RoomId} {log : List PageEvent}
    {event : PageEvent} (h : event.answer roomId = none) :
    latestEnd roomId (log ++ [event]) = latestEnd roomId log := by
  rw [latestEnd, answersIn, List.filterMap_append, List.filterMap_cons_none h,
    List.filterMap_nil, List.append_nil]
  rfl

theorem answer_returned (roomId other : RoomId) (fromToken endToken : Option String) :
    (PageEvent.returned roomId fromToken endToken).answer other =
      if roomId = other then some (fromToken, endToken) else none := rfl

theorem latestEnd_append_returned (roomId : RoomId) (log : List PageEvent)
    (fromToken endToken : Option String) (tokens : RoomId -> Option String)
    (htokens : forall roomId, tokens roomId = latestEnd roomId log) (other : RoomId) :
    latestEnd other (log ++ [PageEvent.returned roomId fromToken endToken]) =
      pushToken roomId tokens endToken other := by
  by_cases hroom : roomId = other
  · subst hroom
    have hanswer := answer_returned roomId roomId fromToken endToken
    rw [if_pos rfl] at hanswer
    rw [latestEnd, answersIn, List.filterMap_append, List.filterMap_cons_some hanswer,
      List.filterMap_nil]
    cases endToken with
    | none =>
        rw [PageChain.lastEnd_append_none]
        exact (htokens roomId).symm
    | some endToken =>
        rw [PageChain.lastEnd_append_some]
        exact (Function.update_self roomId (some endToken) tokens).symm
  · have hanswer := answer_returned roomId other fromToken endToken
    rw [if_neg hroom] at hanswer
    rw [latestEnd_append_of_answer_none hanswer, ← htokens other]
    cases endToken with
    | none => rfl
    | some endToken => exact (Function.update_of_ne (Ne.symm hroom) _ tokens).symm

theorem PagerKept.step {log events : List PageEvent} {pager pager' : Pager}
    (hkept : PagerKept log pager) (hstep : PagerStep pager events pager') :
    PagerKept (log ++ events) pager' := by
  cases hstep with
  | quiet tokens waiting waiting' hwaiting =>
      rw [List.append_nil]
      refine ⟨hkept.latest, ?_, hkept.continues⟩
      intro roomId fromToken hwaits
      rcases hwaiting with rfl | rfl
      · exact hkept.waits roomId fromToken hwaits
      · cases hwaits
  | install waiting =>
      rw [List.append_nil]
      exact ⟨hkept.latest, nofun, hkept.continues⟩
  | request tokens roomId =>
      have hsame : forall other, latestEnd other
          (log ++ [PageEvent.request roomId (tokens roomId)]) = latestEnd other log :=
        fun other => latestEnd_append_of_answer_none rfl
      have htoken : tokens roomId = latestEnd roomId log := hkept.latest roomId
      refine ⟨?_, ?_, eachEntry_append_singleton.mpr ⟨hkept.continues, htoken⟩⟩
      · intro other
        rw [hsame]
        exact hkept.latest other
      · intro other fromToken hwaits
        cases hwaits
        rw [hsame]
        exact ⟨rfl, htoken⟩
  | failed tokens roomId fromToken =>
      have htoken := (hkept.waits roomId fromToken rfl).2
      refine ⟨?_, nofun, eachEntry_append_singleton.mpr ⟨hkept.continues, htoken⟩⟩
      intro other
      rw [latestEnd_append_of_answer_none rfl]
      exact hkept.latest other
  | returned tokens roomId fromToken endToken =>
      rcases hkept.waits roomId fromToken rfl with ⟨hsome, htoken⟩
      refine ⟨?_, nofun, eachEntry_append_singleton.mpr ⟨hkept.continues, htoken⟩⟩
      cases tokens with
      | none => cases hsome
      | some tokens =>
          intro other
          exact (latestEnd_append_returned roomId log fromToken endToken tokens
            hkept.latest other).symm

theorem PagerKept.paginationChain {log : List PageEvent} {pager : Pager}
    (hkept : PagerKept log pager) : PaginationChain log where
  continues := hkept.continues
  pages := by
    intro tokens hnodup hserved roomId
    apply PageChain.pages_eq (hnodup roomId) _ (hserved roomId)
    refine EachEntry.filterMap hkept.continues ?_
    intro before event answer hanswer hcontinues
    cases event with
    | returned roomId' fromToken endToken =>
        simp only [PageEvent.answer] at hanswer
        split at hanswer
        · next hroom =>
            subst hroom
            cases hanswer
            exact hcontinues
        · cases hanswer
    | _ => cases hanswer

/-!
# Chat users as pagers
-/

def tokensOf (shared : Shared Message) (u : Nat) :
    Option (RoomId -> Option String) :=
  (shared.sessions u).map ClientData.roomTokens

def pagerOf (u : Nat) (shared : Shared Message) (user : ChatUser Message) : Pager where
  tokens := tokensOf shared u
  waiting := user.phase.waiting

def Phase.rest : Phase Message -> List (Pending Message)
  | Phase.call _ pending => pending
  | Phase.sleep _ (Continuation.task pending) => pending
  | _ => []

def NoPageCall (pending : List (Pending Message)) : Prop :=
  forall roomId fromToken,
    Pending.call (Request.messages roomId fromToken) ∉ pending

def FirstInTask (_u : Nat) (_shared : Shared Message) (user : ChatUser Message) : Prop :=
  NoPageCall user.phase.rest

theorem noPageCall_nil : NoPageCall ([] : List (Pending Message)) :=
  fun _ _ => List.not_mem_nil

theorem NoPageCall.tail {first : Pending Message} {rest : List (Pending Message)}
    (h : NoPageCall (first :: rest)) : NoPageCall rest :=
  fun roomId fromToken hmem => h roomId fromToken (List.mem_cons_of_mem first hmem)

theorem rest_proceed {now : Nat} {pending : List (Pending Message)}
    (h : NoPageCall pending) : NoPageCall (proceed now pending).rest := by
  cases pending with
  | nil => exact noPageCall_nil
  | cons first rest => cases first <;> exact h.tail

theorem waiting_proceed {now : Nat} {pending : List (Pending Message)}
    (h : NoPageCall pending) : (proceed now pending).waiting = none := by
  cases pending with
  | nil => rfl
  | cons first rest =>
      cases first with
      | sleep delay => rfl
      | call request =>
          cases request with
          | messages roomId fromToken =>
              exact absurd List.mem_cons_self (h roomId fromToken)
          | _ => rfl

theorem rest_resume {now : Nat} {continuation : Continuation Message} {sleep : Lib.TaskSleep}
    (h : NoPageCall (Phase.sleep sleep continuation).rest) :
    NoPageCall (resume now continuation).rest ∧
      (resume now continuation).waiting = none := by
  cases continuation with
  | stopLoop => exact ⟨noPageCall_nil, rfl⟩
  | task pending => exact ⟨rest_proceed h, waiting_proceed h⟩

inductive TaskAsks (view : View Message) (now : Nat) (start : TaskStart Message) : Prop
  | nothing (hpages : taskPages (.ok start) = [])
      (htokens : start.session.map ClientData.roomTokens =
        view.session.map ClientData.roomTokens)
      (hwaiting : (proceed now (start.pending ++ [roundEnd])).waiting = none)
  | page (clientData : ClientData Message) (roomId : RoomId)
      (hsession : view.session = some clientData)
      (hpages : taskPages (.ok start) =
        [PageEvent.request roomId (clientData.roomTokens roomId)])
      (htokens : start.session.map ClientData.roomTokens = some clientData.roomTokens)
      (hwaiting : (proceed now (start.pending ++ [roundEnd])).waiting =
        some (roomId, clientData.roomTokens roomId))

theorem TaskRuns.asks {view : View Message} {draw : Draw} {start : TaskStart Message}
    (h : TaskRuns view draw start) (now : Nat) : TaskAsks view now start := by
  cases h with
  | paginateRoom client clientData roomId hclient hsession hjoined =>
      exact TaskAsks.page clientData roomId hsession rfl rfl rfl
  | _ => exact TaskAsks.nothing rfl rfl rfl

theorem TaskRuns.noPageCall {view : View Message} {draw : Draw} {start : TaskStart Message}
    (h : TaskRuns view draw start) (now : Nat) :
    NoPageCall (proceed now (start.pending ++ [roundEnd])).rest := by
  cases h <;> intro roomId fromToken hmem <;>
    simp [proceed, Phase.rest, roundEnd] at hmem

/-- Apart from the start of a task and the end of a call a thread makes no `/messages`
call, and waits for none that it has not waited for. -/
theorem MainStep.waiting_cases {config : Config} {u : Nat}
    {shared shared' : Shared Message} {user user' : ChatUser Message} {a : MainAction}
    (hstep : MainStep config u shared user a shared' user')
    (hrest : NoPageCall user.phase.rest) :
    (exists draw start, a = MainAction.startTask draw ∧ user.phase = Phase.draw ∧
        runTask (viewOf config u shared user) draw = .ok start ∧
        shared'.sessions u = start.session ∧
        user'.phase = proceed shared.now (start.pending ++ [roundEnd])) ∨
      NoPageCall user'.phase.rest ∧
        (user'.phase.waiting = user.phase.waiting ∨ user'.phase.waiting = none) := by
  have hquiet : forall phase : Phase Message, phase.rest = [] -> phase.waiting = none ->
      NoPageCall phase.rest ∧
        (phase.waiting = user.phase.waiting ∨ phase.waiting = none) := by
    intro phase hnil hnone
    rw [hnil]
    exact ⟨noPageCall_nil, Or.inr hnone⟩
  cases hstep with
  | startTask draw start hphase hstart =>
      exact Or.inl ⟨draw, start, rfl, hphase, hstart, Function.update_self .., rfl⟩
  | newClient hphase =>
      right
      apply hquiet <;> (simp only; split <;> rfl)
  | loginFailed retries hphase =>
      right
      apply hquiet <;> (simp only; split <;> rfl)
  | enterScheduler phase hphase hnext =>
      right
      rcases hnext with rfl | rfl <;> exact hquiet _ rfl rfl
  | checkStays phase hphase hstay =>
      right
      rcases hphase with ⟨_, rfl⟩ | ⟨_, rfl⟩ <;> exact hquiet _ rfl rfl
  | request owner hphase howner => exact Or.inr ⟨hrest, Or.inl rfl⟩
  | callDone request pending token hphase =>
      rw [hphase] at hrest
      exact Or.inr ⟨rest_proceed hrest, Or.inr (waiting_proceed hrest)⟩
  | sleep sleep continuation a canceled outcome hphase hsleep =>
      right
      rw [hphase] at hrest
      cases outcome with
      | running sleep' => exact ⟨by cases continuation <;> exact hrest, Or.inr rfl⟩
      | returned => exact ⟨(rest_resume hrest).1, Or.inr (rest_resume hrest).2⟩
      | panicked => exact hquiet _ rfl rfl
  | enterOnStop hphase =>
      right
      apply hquiet <;> (simp only; split <;> rfl)
  | stopReadCanceled hphase =>
      right
      apply hquiet <;> (simp only; split <;> rfl)
  | stopPoll hphase =>
      right
      apply hquiet <;> (simp only; split <;> rfl)
  | _ => exact Or.inr (hquiet _ rfl rfl)

theorem firstInTask_step {config : Config} {w w' : ChatWorld Message}
    {e : ChatEvent Message} (hw : Everywhere FirstInTask w)
    (hstep : (chat Message config).worldStep w e = some w') :
    Everywhere FirstInTask w' := by
  refine everywhere_chatStep hw hstep ?htime ?hmain ?hmainOther ?hsync ?hsyncOther
  case htime =>
    intro duration u _ hu
    exact hu
  case hmain =>
    intro u a shared user _ hmain hu
    rcases hmain.waiting_cases hu with ⟨draw, start, _, _, hstart, _, hphase⟩ | ⟨hrest, _⟩
    · unfold FirstInTask
      rw [hphase]
      exact (taskRuns_of_runTask hstart).noPageCall _
    · exact hrest
  case hmainOther =>
    intro u a shared user v _ _ _ hother
    exact hother
  case hsync =>
    intro u a shared user _ hsync hu
    unfold FirstInTask
    rw [hsync.phase_eq]
    exact hu
  case hsyncOther =>
    intro u a shared user v _ _ _ hother
    exact hother

/-!
# Tokens of a user
-/

theorem MainStep.sessions_of_ne {config : Config} {u v : Nat}
    {shared shared' : Shared Message} {user user' : ChatUser Message} {a : MainAction}
    (hstep : MainStep config u shared user a shared' user') (hv : v ≠ u) :
    shared'.sessions v = shared.sessions v := by
  have hsessions := hstep.sessionStep
  generalize shared'.sessions = sessions at hsessions ⊢
  cases hsessions with
  | unchanged => rfl
  | install hphase => exact Function.update_of_ne hv _ _
  | startTask draw start hstart => exact Function.update_of_ne hv _ _
  | callDone request token => exact Function.update_of_ne hv _ _

/-- A thread changes the tokens of its user where it installs its session data and where
a call ends. -/
theorem MainStep.tokensOf_eq {config : Config} {u : Nat}
    {shared shared' : Shared Message} {user user' : ChatUser Message} {a : MainAction}
    (hstep : MainStep config u shared user a shared' user')
    (hset : a ≠ MainAction.setSessionData)
    (hdone : forall token, a ≠ MainAction.callDone token) :
    tokensOf shared' u = tokensOf shared u := by
  unfold tokensOf
  have hsessions := hstep.sessionStep
  generalize shared'.sessions = sessions at hsessions ⊢
  cases hsessions with
  | unchanged => rfl
  | install hphase => exact absurd rfl hset
  | callDone request token => exact absurd rfl (hdone token)
  | startTask draw start hstart =>
      rw [Function.update_self]
      cases (taskRuns_of_runTask hstart).asks shared.now with
      | nothing hpages htokens hwaiting => exact htokens
      | page clientData roomId hsession hpages htokens hwaiting =>
          have hview : shared.sessions u = some clientData := hsession
          rw [htokens, hview]
          rfl

theorem SyncStep.tokensOf_eq {u : Nat} {shared shared' : Shared Message}
    {user user' : ChatUser Message} {a : SyncTaskAction Message}
    (hstep : SyncStep u shared user a shared' user') (v : Nat) :
    tokensOf shared' v = tokensOf shared v := by
  cases hstep with
  | onRoomMessage roomId event owner clientData hphase howner hsession =>
      exact apply_update_sessions (Option.map ClientData.roomTokens)
        (by rw [hsession]; rfl) v
  | _ => rfl

theorem PagerStep.of_quiet {pager pager' : Pager} (htokens : pager'.tokens = pager.tokens)
    (hwaiting : pager'.waiting = pager.waiting ∨ pager'.waiting = none) :
    PagerStep pager [] pager' := by
  cases pager
  cases pager'
  cases htokens
  exact PagerStep.quiet _ _ _ hwaiting

theorem pagerStep_startTask {config : Config} {u : Nat} {w : ChatWorld Message}
    {draw : Draw} {start : TaskStart Message} {shared : Shared Message}
    {user : ChatUser Message} (hphase : (w.memory u).phase = Phase.draw)
    (hstart : runTask (viewOf config u w.shared (w.memory u)) draw = .ok start)
    (hsession : shared.sessions u = start.session)
    (hnext : user.phase = proceed w.shared.now (start.pending ++ [roundEnd])) :
    PagerStep (pagerOf u w.shared (w.memory u)) (taskPages (.ok start))
      (pagerOf u shared user) := by
  have hbefore : (w.memory u).phase.waiting = none := by
    rw [hphase]
    rfl
  unfold pagerOf
  rw [hbefore, hnext, tokensOf, tokensOf, hsession]
  cases (taskRuns_of_runTask hstart).asks w.shared.now with
  | nothing hpages htokens hwaiting =>
      rw [hpages, hwaiting, htokens]
      exact PagerStep.quiet _ none none (Or.inl rfl)
  | page clientData roomId hsession hpages htokens hwaiting =>
      have hview : w.shared.sessions u = some clientData := hsession
      rw [hpages, hwaiting, htokens, hview]
      exact PagerStep.request clientData.roomTokens roomId

theorem callDone_of_not_waiting {session : Option (ClientData Message)}
    {request : Request Message} {pending : List (Pending Message)}
    {token : Option String}
    (h : (Phase.call request pending).waiting = none) :
    callDone session request token = session := by
  cases request with
  | messages roomId fromToken => cases h
  | _ => cases token <;> rfl

theorem tokens_callDone (session : Option (ClientData Message)) (roomId : RoomId)
    (fromToken token : Option String) :
    (callDone session (Request.messages roomId fromToken) token).map
        ClientData.roomTokens =
      (session.map ClientData.roomTokens).map fun tokens =>
        pushToken roomId tokens token := by
  cases session with
  | none => cases token <;> rfl
  | some clientData => cases token <;> rfl

theorem pagerStep_callDone {config : Config} {u : Nat} {w : ChatWorld Message}
    {shared : Shared Message} {user : ChatUser Message} {token : Option String}
    (hrest : NoPageCall (w.memory u).phase.rest)
    (hstep : MainStep config u w.shared (w.memory u) (MainAction.callDone token) shared
      user) :
    (exists roomId fromToken, (w.memory u).phase.waiting = some (roomId, fromToken) ∧
        PagerStep (pagerOf u w.shared (w.memory u))
          [PageEvent.returned roomId fromToken token] (pagerOf u shared user) ∧
        (token = none -> PagerStep (pagerOf u w.shared (w.memory u))
          [PageEvent.failed roomId fromToken] (pagerOf u shared user))) ∨
      (w.memory u).phase.waiting = none ∧
        PagerStep (pagerOf u w.shared (w.memory u)) [] (pagerOf u shared user) := by
  cases hstep with
  | callDone request pending token hphase =>
      rw [hphase] at hrest
      have hwaiting : (proceed w.shared.now pending).waiting = none :=
        waiting_proceed hrest
      unfold pagerOf tokensOf
      rw [hphase, hwaiting]
      simp only [Function.update_self]
      cases hbefore : (Phase.call request pending).waiting with
      | none =>
          right
          rw [callDone_of_not_waiting hbefore]
          exact ⟨rfl, PagerStep.quiet _ none none (Or.inl rfl)⟩
      | some page =>
          left
          rcases page with ⟨roomId, fromToken⟩
          cases request with
          | messages roomId' fromToken' =>
              cases hbefore
              refine ⟨roomId, fromToken, rfl, ?_, ?_⟩
              · rw [tokens_callDone]
                exact PagerStep.returned _ roomId fromToken token
              · intro hnone
                subst hnone
                exact PagerStep.failed _ roomId fromToken
          | _ => cases hbefore

theorem pagerStep_main {config : Config} {u : Nat} {w : ChatWorld Message}
    {shared : Shared Message} {user : ChatUser Message} {a : MainAction}
    (htracked : SessionTracked u w.shared (w.memory u))
    (hrest : NoPageCall (w.memory u).phase.rest)
    (hstep : MainStep config u w.shared (w.memory u) a shared user)
    (hother : ¬ EndsCall (ChatEvent.main u a : ChatEvent Message)) :
    PagerStep (pagerOf u w.shared (w.memory u))
      (pagesOf config u w (AnsweredEvent.other (ChatEvent.main u a) hother))
      (pagerOf u shared user) := by
  have hdone : forall token, a ≠ MainAction.callDone token := by
    intro token ha
    subst ha
    exact hother True.intro
  rcases hstep.waiting_cases hrest with
    ⟨draw, start, rfl, hphase, hstart, hsession, hnext⟩ | ⟨_, hwaiting⟩
  · show PagerStep _ (if u = u then taskPages (runTask _ draw) else []) _
    rw [if_pos rfl, hstart]
    exact pagerStep_startTask hphase hstart hsession hnext
  · by_cases hset : a = MainAction.setSessionData
    · subst hset
      have hspawning := hstep.spawning_of_setSessionData
      cases hstep with
      | setSessionData hphase =>
          unfold pagerOf tokensOf
          rw [htracked.eq_none hspawning]
          simp only [Function.update_self]
          exact PagerStep.install _
    · have htokens := hstep.tokensOf_eq hset hdone
      cases hstep with
      | startTask draw start hphase hstart =>
          show PagerStep _ (if u = u then taskPages (runTask _ draw) else []) _
          rw [if_pos rfl, hstart]
          exact pagerStep_startTask hphase hstart (Function.update_self ..) rfl
      | taskPanics draw panic hphase hstart =>
          show PagerStep _ (if u = u then taskPages (runTask _ draw) else []) _
          rw [if_pos rfl, hstart]
          exact PagerStep.of_quiet htokens hwaiting
      | callDone request pending token hphase => exact absurd rfl (hdone token)
      | _ => exact PagerStep.of_quiet htokens hwaiting

theorem pagerStep_of_ne {config : Config} {u : Nat} {w w' : ChatWorld Message}
    {e : ChatEvent Message} (hstep : (chat Message config).worldStep w e = some w')
    (hmain : forall a, e ≠ ChatEvent.main u a) :
    PagerStep (pagerOf u w.shared (w.memory u)) [] (pagerOf u w'.shared (w'.memory u)) := by
  have hphase : (w'.memory u).phase = (w.memory u).phase := by
    rcases memory_eq_or hstep u with hsame | ⟨a, rfl, _⟩
    · rw [hsame]
    · cases a with
      | main a => exact absurd rfl (hmain a)
      | sync a => exact (syncStep_of_worldStep hstep).phase_eq
  have htokens : tokensOf w'.shared u = tokensOf w.shared u := by
    cases e with
    | environment duration =>
        rcases worldStep_environment_eq_some.mp hstep with ⟨shared, hshared, rfl⟩
        cases hshared
        rfl
    | component v a =>
        cases a with
        | main a =>
            have hv : u ≠ v := by
              intro huv
              subst huv
              exact hmain a rfl
            rw [tokensOf, (mainStep_of_worldStep hstep).sessions_of_ne hv]
            rfl
        | sync a => exact (syncStep_of_worldStep hstep).tokensOf_eq u
  refine PagerStep.of_quiet htokens (Or.inl ?_)
  show (w'.memory u).phase.waiting = (w.memory u).phase.waiting
  rw [hphase]

theorem pagesOf_of_ne {config : Config} {u : Nat} {w : ChatWorld Message}
    {a : AnsweredEvent Message} (hmain : forall b, a.event ≠ ChatEvent.main u b) :
    pagesOf config u w a = [] := by
  cases a with
  | failed v =>
      have hv : v ≠ u := by
        intro hvu
        subst hvu
        exact hmain _ rfl
      cases hwaiting : (w.memory u).phase.waiting <;> simp [pagesOf, hwaiting, hv]
  | answered v endToken =>
      have hv : v ≠ u := by
        intro hvu
        subst hvu
        exact hmain _ rfl
      cases hwaiting : (w.memory u).phase.waiting <;> simp [pagesOf, hwaiting, hv]
  | other e hother =>
      unfold pagesOf
      split
      · next heq => cases heq
      · next heq => cases heq
      · next v draw _ heq =>
          cases heq
          apply if_neg
          intro hvu
          subst hvu
          exact hmain _ rfl
      · rfl

theorem pagerStep_of_step {config : Config} {u : Nat} {w w' : ChatWorld Message}
    {a : AnsweredEvent Message} (htracked : Everywhere SessionTracked w)
    (hfirst : Everywhere FirstInTask w)
    (hstep : (chat Message config).worldStep w a.event = some w') :
    PagerStep (pagerOf u w.shared (w.memory u)) (pagesOf config u w a)
      (pagerOf u w'.shared (w'.memory u)) := by
  by_cases hmain : exists b, a.event = ChatEvent.main u b
  · cases a with
    | failed v =>
        rcases hmain with ⟨b, hb⟩
        cases hb
        rcases pagerStep_callDone (hfirst u) (mainStep_of_worldStep hstep) with
          ⟨roomId, fromToken, hwaiting, _, hfailed⟩ | ⟨hwaiting, hquiet⟩
        · simp only [pagesOf, hwaiting, if_true]
          exact hfailed rfl
        · simp only [pagesOf, hwaiting]
          exact hquiet
    | answered v endToken =>
        rcases hmain with ⟨b, hb⟩
        cases hb
        rcases pagerStep_callDone (hfirst u) (mainStep_of_worldStep hstep) with
          ⟨roomId, fromToken, hwaiting, hreturned, _⟩ | ⟨hwaiting, hquiet⟩
        · simp only [pagesOf, hwaiting, if_true]
          exact hreturned
        · simp only [pagesOf, hwaiting]
          exact hquiet
    | other e hother =>
        rcases hmain with ⟨b, hb⟩
        cases hb
        exact pagerStep_main (htracked u) (hfirst u) (mainStep_of_worldStep hstep) hother
  · have hnone : forall b, a.event ≠ ChatEvent.main u b := fun b hb => hmain ⟨b, hb⟩
    rw [pagesOf_of_ne hnone]
    exact pagerStep_of_ne hstep hnone

/-!
# Runs
-/

theorem firstInTask_init {config : Config} :
    Everywhere FirstInTask (chat Message config).system.init :=
  fun _ => noPageCall_nil

/-- In every run, whatever the calls end in, the requests of a user go on from the
latest `end` token of their room. -/
theorem paginationChain_observe {config : Config}
    {actions : List (AnsweredEvent Message)} {w : ChatWorld Message}
    (hrun : (answeredChat Message config).run actions = some w) (u : Nat) :
    PaginationChain
      ((answeredChat Message config).observe (pagesOf config u)
        (answeredChat Message config).init actions) := by
  let I := fun (log : List PageEvent) (w : ChatWorld Message) =>
    Everywhere SessionTracked w ∧ Everywhere FirstInTask w ∧
      PagerKept log (pagerOf u w.shared (w.memory u))
  have hinit : I [] (answeredChat Message config).init :=
    ⟨sessionTracked_init, firstInTask_init, fun _ => rfl, nofun, EachEntry.nil⟩
  have hkept : I ([] ++ (answeredChat Message config).observe (pagesOf config u)
      (answeredChat Message config).init actions) w := by
    refine TransitionSystem.invariant_observe (P := I) ?_ hinit hrun
    intro log w a w' hw hstep
    rcases hw with ⟨htracked, hfirst, hpager⟩
    exact ⟨sessionTracked_step htracked hstep, firstInTask_step hfirst hstep,
      hpager.step (pagerStep_of_step htracked hfirst hstep)⟩
  exact hkept.2.2.paginationChain

/-- User 0 joins a room, gets its newest page, and after the task's sleep the page
before it. -/
def twoPages : List (AnsweredEvent String) :=
  [AnsweredEvent.other (ChatEvent.main 0 MainAction.onStart) id,
    AnsweredEvent.other (ChatEvent.main 0 (MainAction.newClient true)) id,
    AnsweredEvent.other (ChatEvent.main 0 (MainAction.loginResponse (some "@a:x"))) id,
    AnsweredEvent.other (ChatEvent.main 0 MainAction.setSessionData) id,
    AnsweredEvent.other (ChatEvent.sync 0 SyncTaskAction.startSyncOnce) id,
    AnsweredEvent.other (ChatEvent.sync 0 (SyncTaskAction.receiveRooms ["!a:x"])) id,
    AnsweredEvent.other (ChatEvent.main 0 MainAction.enterScheduler) id,
    AnsweredEvent.other (ChatEvent.main 0 (MainAction.checkCanceled 1)) id,
    AnsweredEvent.other (ChatEvent.main 0 (MainAction.checkCanceled 1)) id,
    AnsweredEvent.other (ChatEvent.main 0 (MainAction.startTask ⟨3, 0, 0, 0⟩)) id,
    AnsweredEvent.answered 0 (some "t1"),
    AnsweredEvent.other (Event.environment Lib.second) id,
    AnsweredEvent.other (ChatEvent.main 0 (MainAction.sleep Lib.SleepAction.test)) id,
    AnsweredEvent.other (ChatEvent.main 0 (MainAction.checkCanceled 1)) id,
    AnsweredEvent.other (ChatEvent.main 0 (MainAction.startTask ⟨3, 0, 0, 0⟩)) id,
    AnsweredEvent.answered 0 (some "t2")]

theorem paginationChain_observe_two_pages :
    (answeredChat String sampleConfig).observe (pagesOf sampleConfig 0)
        (answeredChat String sampleConfig).init twoPages =
      [PageEvent.request "!a:x" none, PageEvent.returned "!a:x" none (some "t1"),
        PageEvent.request "!a:x" (some "t1"),
        PageEvent.returned "!a:x" (some "t1") (some "t2")] ∧
    PaginationChain
      ((answeredChat String sampleConfig).observe (pagesOf sampleConfig 0)
        (answeredChat String sampleConfig).init twoPages) :=
  ⟨rfl, paginationChain_observe rfl 0⟩

end Chat
end MatrixGoose
