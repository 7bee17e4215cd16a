import MatrixGoose.Foundation.Components
import MatrixGoose.Foundation.Register
import MatrixGoose.Matrix.MediaRepository
import MatrixGoose.Matrix.Room.Attachment

/-!
# The avatar of the account

Any number of calls that upload, set and get the avatar of the account take turns, while
other clients of the user set it, too.  The homeserver and the stores of the client are
parameters; a log keeps who has set which url, what the homeserver has answered and what the
client has put into its store.
-/

namespace MatrixGoose

open Foundation
open Foundation.Components

namespace Avatar

open Media (Bytes MediaFile MediaRepository MediaSource MediaRequest MediaFormat Keeps Coherent
  TellsApart)
open Attachment (Mime)

/-- What a client may rely on in the homeserver: the avatar of the user is what was set last,
and files and profile do not touch each other. -/
structure ProfileServer (State : Type) extends MediaRepository State where
  avatarUrl : State -> Option String
  setAvatarUrl : State -> Option String -> State
  avatarUrl_setAvatarUrl : forall s url, avatarUrl (setAvatarUrl s url) = url
  avatarUrl_upload : forall s new, avatarUrl (upload s new).1 = avatarUrl s
  file_setAvatarUrl : forall s url other, file (setAvatarUrl s url) other = file s other

inductive Call
  | uploadAvatar (contentType : Mime) (data : Bytes)
  | setAvatarUrl (url : Option String)
  | getAvatarUrl
  | getAvatar (format : MediaFormat)
  | getCachedAvatarUrl

inductive Value
  | done
  | uploaded (url : String)
  | avatarUrl (url : Option String)
  | avatar (content : Option Bytes)

inductive Entry
  /-- Call `i` hands a request to `send` that sets the url. -/
  | sendAvatarUrl (i : Nat) (url : Option String)
  /-- The homeserver sets the url for call `i`, or for another client. -/
  | setAvatarUrl (i : Option Nat) (url : Option String)
  /-- The homeserver answers call `i` with the url. -/
  | getAvatarUrl (i : Nat) (url : Option String)
  /-- Call `i` puts the url that it was answered into the store, or removes it. -/
  | setKvData (i : Nat) (url : Option String)
  /-- The store answers call `i` with the url. -/
  | getKvData (i : Nat) (url : Option String)
  deriving DecidableEq

structure Shared (State Kv Store : Type) where
  /-- The client has a user id. -/
  loggedIn : Bool
  server : State
  /-- The store that has the `UserAvatarUrl`. -/
  kv : Kv
  /-- The media in the store of the client. -/
  store : Store
  log : List Entry

inductive Phase
  | notStarted
  | upload (contentType : Mime) (data : Bytes)
  /-- The value is what the call returns once the url is set. -/
  | setAvatarUrl (call : Call) (url : Option String) (value : Value)
  | settingAvatarUrl (call : Call) (url : Option String) (value : Value)
  | getAvatarUrl (call : Call)
  | cacheAvatarUrl (call : Call) (url : Option String)
  | getMediaContent (url : String) (format : MediaFormat)
  | fetch (url : String) (format : MediaFormat)
  | addMediaContent (url : String) (format : MediaFormat) (content : Bytes)
  | getKvData
  | returned (call : Call) (value : Option Value)

inductive Action
  | call (call : Call)
  | upload (succeeds : Bool)
  | setAvatarUrl
  | response (succeeds : Bool)
  | getAvatarUrl (succeeds : Bool)
  | cacheAvatarUrl (succeeds : Bool)
  | getMediaContent (succeeds : Bool)
  | fetch (succeeds : Bool)
  | addMediaContent (succeeds : Bool)
  | getKvData (succeeds : Bool)

inductive Outside
  | logIn
  /-- A file is uploaded by somebody else, or by a request whose answer does not arrive. -/
  | upload (file : MediaFile)
  /-- The homeserver performs a request of call `i`, or of another client of the user. -/
  | setAvatarUrl (i : Option Nat) (url : Option String)
  /-- The client gets or removes other media through its store. -/
  | getMediaContent (url : String) (format : MediaFormat) (succeeds : Bool)
  | removeMediaContent (source : MediaSource) (format : MediaFormat)

def avatarFile (contentType : Mime) (data : Bytes) : MediaFile :=
  { contentType := contentType.essenceStr, data }

section Calls

variable {State Kv Store Key : Type}

def Shared.emit (shared : Shared State Kv Store) (entry : Entry) : Shared State Kv Store :=
  { shared with log := shared.log ++ [entry] }

/-- `set_avatar_url` up to its request. -/
def setAvatarUrl (shared : Shared State Kv Store) (call : Call) (url : Option String)
    (value : Value) : Phase :=
  if shared.loggedIn then Phase.setAvatarUrl call url value else Phase.returned call none

def start (shared : Shared State Kv Store) (call : Call) : Phase :=
  match call with
  | Call.uploadAvatar contentType data => Phase.upload contentType data
  | Call.setAvatarUrl url => setAvatarUrl shared call url Value.done
  | Call.getCachedAvatarUrl =>
      if shared.loggedIn then Phase.getKvData else Phase.returned call none
  | Call.getAvatarUrl | Call.getAvatar _ =>
      if shared.loggedIn then Phase.getAvatarUrl call else Phase.returned call none

/-- Once the url is known and cached. -/
def afterAvatarUrl (call : Call) (url : Option String) : Phase :=
  match call, url with
  | Call.getAvatar format, some url => Phase.getMediaContent url format
  | Call.getAvatar _, none => Phase.returned call (some (Value.avatar none))
  | _, _ => Phase.returned call (some (Value.avatarUrl url))

def cacheAvatarUrl (kvStore : KeyedStore Kv String String) (userId : String) (kv : Kv) :
    Option String -> Kv
  | some url => kvStore.add kv userId url
  | none => kvStore.remove kv userId

section Steps

variable (M : ProfileServer State) (kvStore : KeyedStore Kv String String) (userId : String)
variable (cache : KeyedStore Store Key Bytes) (uniqueKey : MediaRequest -> Key)

def accountStep (i : Nat) (shared : Shared State Kv Store) (phase : Phase) (a : Action) :
    Option (Shared State Kv Store × Phase) :=
  match a, phase with
  | Action.call call, Phase.notStarted => some (shared, start shared call)
  | Action.upload true, Phase.upload contentType data =>
      let (server, url) := M.upload shared.server (avatarFile contentType data)
      some ({ shared with server },
        setAvatarUrl shared (Call.uploadAvatar contentType data) (some url)
          (Value.uploaded url))
  | Action.upload false, Phase.upload contentType data =>
      some (shared, Phase.returned (Call.uploadAvatar contentType data) none)
  | Action.setAvatarUrl, Phase.setAvatarUrl call url value =>
      some (shared.emit (Entry.sendAvatarUrl i url), Phase.settingAvatarUrl call url value)
  | Action.response true, Phase.settingAvatarUrl call url value =>
      if Entry.setAvatarUrl (some i) url ∈ shared.log then
        some (shared, Phase.returned call (some value))
      else none
  | Action.response false, Phase.settingAvatarUrl call _ _ =>
      some (shared, Phase.returned call none)
  | Action.getAvatarUrl true, Phase.getAvatarUrl call =>
      some (shared.emit (Entry.getAvatarUrl i (M.avatarUrl shared.server)),
        Phase.cacheAvatarUrl call (M.avatarUrl shared.server))
  | Action.getAvatarUrl false, Phase.getAvatarUrl call => some (shared, Phase.returned call none)
  | Action.cacheAvatarUrl true, Phase.cacheAvatarUrl call url =>
      let kv := cacheAvatarUrl kvStore userId shared.kv url
      some ({ shared with kv }.emit (Entry.setKvData i url), afterAvatarUrl call url)
  -- an error of the store is ignored
  | Action.cacheAvatarUrl false, Phase.cacheAvatarUrl call url =>
      some (shared, afterAvatarUrl call url)
  | Action.getMediaContent true, Phase.getMediaContent url format =>
      match cache.get shared.store (uniqueKey { source := MediaSource.plain url, format }) with
      | some content =>
          some (shared,
            Phase.returned (Call.getAvatar format) (some (Value.avatar (some content))))
      | none => some (shared, Phase.fetch url format)
  | Action.getMediaContent false, Phase.getMediaContent _ format =>
      some (shared, Phase.returned (Call.getAvatar format) none)
  | Action.fetch succeeds, Phase.fetch url format =>
      match Media.fetch (M.answers shared.server succeeds)
        { source := MediaSource.plain url, format } with
      | .ok content => some (shared, Phase.addMediaContent url format content)
      | .error _ => some (shared, Phase.returned (Call.getAvatar format) none)
  | Action.addMediaContent true, Phase.addMediaContent url format content =>
      let key := uniqueKey { source := MediaSource.plain url, format }
      some ({ shared with store := cache.add shared.store key content },
        Phase.returned (Call.getAvatar format) (some (Value.avatar (some content))))
  | Action.addMediaContent false, Phase.addMediaContent _ format _ =>
      some (shared, Phase.returned (Call.getAvatar format) none)
  | Action.getKvData true, Phase.getKvData =>
      let url := kvStore.get shared.kv userId
      some (shared.emit (Entry.getKvData i url),
        Phase.returned Call.getCachedAvatarUrl (some (Value.avatarUrl url)))
  | Action.getKvData false, Phase.getKvData =>
      some (shared, Phase.returned Call.getCachedAvatarUrl none)
  | _, _ => none

/-- The homeserver performs requests that were sent, and those of others. -/
def WasSent (log : List Entry) (i : Option Nat) (url : Option String) : Prop :=
  match i with
  | some i => Entry.sendAvatarUrl i url ∈ log
  | none => True

instance (log : List Entry) (i : Option Nat) (url : Option String) :
    Decidable (WasSent log i url) :=
  match i with
  | some i => inferInstanceAs (Decidable (Entry.sendAvatarUrl i url ∈ log))
  | none => inferInstanceAs (Decidable True)

def outsideStep (shared : Shared State Kv Store) : Outside -> Option (Shared State Kv Store)
  | Outside.logIn => some { shared with loggedIn := true }
  | Outside.upload file => some { shared with server := (M.upload shared.server file).1 }
  | Outside.setAvatarUrl i url =>
      if WasSent shared.log i url then
        let server := M.setAvatarUrl shared.server url
        some ({ shared with server }.emit (Entry.setAvatarUrl i url))
      else none
  | Outside.getMediaContent url format succeeds =>
      let got := Media.getMediaContent cache uniqueKey (M.answers shared.server succeeds)
        { source := MediaSource.plain url, format } true shared.store
      some { shared with store := got.2 }
  | Outside.removeMediaContent source format =>
      some
        { shared with
          store := Media.removeMediaContent cache uniqueKey { source, format } shared.store }

def avatars (server : State) (kv : Kv) (store : Store) :
    Components Nat (Shared State Kv Store) Phase Outside Action where
  initShared := { loggedIn := false, server, kv, store, log := [] }
  initMemory := fun _ => Phase.notStarted
  environment := outsideStep M cache uniqueKey
  step := accountStep M kvStore userId cache uniqueKey

end Steps

abbrev AvatarWorld (State Kv Store : Type) := World Nat (Shared State Kv Store) Phase

def Phase.HasSent (call : Call) : Phase -> Prop
  | Phase.settingAvatarUrl other _ _ => other = call
  | Phase.returned other _ => other = call
  | _ => False

theorem Phase.HasSent.unique {call other : Call} {phase : Phase} (h : phase.HasSent call)
    (h' : phase.HasSent other) : call = other := by
  cases phase with
  | settingAvatarUrl _ _ _ => exact h.symm.trans h'
  | returned _ _ => exact h.symm.trans h'
  | _ => exact h.elim

/-!
# What a step can do
-/

section Inversion

variable (M : ProfileServer State) (kvStore : KeyedStore Kv String String) (userId : String)
variable (cache : KeyedStore Store Key Bytes) (uniqueKey : MediaRequest -> Key)

inductive AccountStep (i : Nat) (shared : Shared State Kv Store) :
    Phase -> Shared State Kv Store -> Phase -> Prop
  | call (call : Call) : AccountStep i shared Phase.notStarted shared (start shared call)
  | uploaded (contentType : Mime) (data : Bytes) :
      AccountStep i shared (Phase.upload contentType data)
        { shared with server := (M.upload shared.server (avatarFile contentType data)).1 }
        (setAvatarUrl shared (Call.uploadAvatar contentType data)
          (some (M.upload shared.server (avatarFile contentType data)).2)
          (Value.uploaded (M.upload shared.server (avatarFile contentType data)).2))
  | sent (call : Call) (url : Option String) (value : Value) :
      AccountStep i shared (Phase.setAvatarUrl call url value)
        (shared.emit (Entry.sendAvatarUrl i url)) (Phase.settingAvatarUrl call url value)
  | set (call : Call) {url : Option String} (value : Value)
      (hset : Entry.setAvatarUrl (some i) url ∈ shared.log) :
      AccountStep i shared (Phase.settingAvatarUrl call url value) shared
        (Phase.returned call (some value))
  | notSet (call : Call) (url : Option String) (value : Value) :
      AccountStep i shared (Phase.settingAvatarUrl call url value) shared
        (Phase.returned call none)
  | getAvatarUrl (call : Call) :
      AccountStep i shared (Phase.getAvatarUrl call)
        (shared.emit (Entry.getAvatarUrl i (M.avatarUrl shared.server)))
        (Phase.cacheAvatarUrl call (M.avatarUrl shared.server))
  | cacheAvatarUrl (call : Call) (url : Option String) :
      AccountStep i shared (Phase.cacheAvatarUrl call url)
        ({ shared with kv := cacheAvatarUrl kvStore userId shared.kv url }.emit
          (Entry.setKvData i url))
        (afterAvatarUrl call url)
  | notCached (call : Call) (url : Option String) :
      AccountStep i shared (Phase.cacheAvatarUrl call url) shared (afterAvatarUrl call url)
  | hit {url : String} {format : MediaFormat} {content : Bytes}
      (hget : cache.get shared.store
        (uniqueKey { source := MediaSource.plain url, format }) = some content) :
      AccountStep i shared (Phase.getMediaContent url format) shared
        (Phase.returned (Call.getAvatar format) (some (Value.avatar (some content))))
  | missed (url : String) (format : MediaFormat) :
      AccountStep i shared (Phase.getMediaContent url format) shared (Phase.fetch url format)
  | fetched {url : String} {format : MediaFormat} {content : Bytes}
      (hfetch : Media.fetch (M.server shared.server)
        { source := MediaSource.plain url, format } = .ok content) :
      AccountStep i shared (Phase.fetch url format) shared
        (Phase.addMediaContent url format content)
  | added (url : String) (format : MediaFormat) (content : Bytes) :
      AccountStep i shared (Phase.addMediaContent url format content)
        { shared with
          store := cache.add shared.store
            (uniqueKey { source := MediaSource.plain url, format }) content }
        (Phase.returned (Call.getAvatar format) (some (Value.avatar (some content))))
  | getKvData :
      AccountStep i shared Phase.getKvData
        (shared.emit (Entry.getKvData i (kvStore.get shared.kv userId)))
        (Phase.returned Call.getCachedAvatarUrl
          (some (Value.avatarUrl (kvStore.get shared.kv userId))))
  | failed {phase : Phase} (call : Call)
      (hrunning : forall other, ¬ phase.HasSent other) :
      AccountStep i shared phase shared (Phase.returned call none)

end Inversion

variable {M : ProfileServer State} {kvStore : KeyedStore Kv String String} {userId : String}
variable {cache : KeyedStore Store Key Bytes} {uniqueKey : MediaRequest -> Key}
variable {i : Nat} {shared shared' : Shared State Kv Store} {phase phase' : Phase} {a : Action}

theorem accountStep_of_eq_some
    (hstep : accountStep M kvStore userId cache uniqueKey i shared phase a =
      some (shared', phase')) :
    AccountStep M kvStore userId cache uniqueKey i shared phase shared' phase' := by
  cases a with
  | call call =>
      cases phase <;> simp only [accountStep, reduceCtorEq] at hstep
      cases hstep
      exact AccountStep.call call
  | upload succeeds =>
      cases phase <;> cases succeeds <;> simp only [accountStep, reduceCtorEq] at hstep
      · cases hstep
        exact AccountStep.failed _ (by simp [Phase.HasSent])
      · next contentType data =>
          cases hstep
          exact AccountStep.uploaded contentType data
  | setAvatarUrl =>
      cases phase <;> simp only [accountStep, reduceCtorEq] at hstep
      next call url value =>
        cases hstep
        exact AccountStep.sent call url value
  | response succeeds =>
      cases phase <;> cases succeeds <;> simp only [accountStep, reduceCtorEq] at hstep
      · next call url value =>
          cases hstep
          exact AccountStep.notSet call url value
      · next call url value =>
          split at hstep
          · next hset =>
              cases hstep
              exact AccountStep.set call value hset
          · cases hstep
  | getAvatarUrl succeeds =>
      cases phase <;> cases succeeds <;> simp only [accountStep, reduceCtorEq] at hstep
      · cases hstep
        exact AccountStep.failed _ (by simp [Phase.HasSent])
      · next call =>
          cases hstep
          exact AccountStep.getAvatarUrl call
  | cacheAvatarUrl succeeds =>
      cases phase <;> cases succeeds <;> simp only [accountStep, reduceCtorEq] at hstep
      · next call url =>
          cases hstep
          exact AccountStep.notCached call url
      · next call url =>
          cases hstep
          exact AccountStep.cacheAvatarUrl call url
  | getMediaContent succeeds =>
      cases phase <;> cases succeeds <;> simp only [accountStep, reduceCtorEq] at hstep
      · cases hstep
        exact AccountStep.failed _ (by simp [Phase.HasSent])
      · split at hstep
        · next hget =>
            cases hstep
            exact AccountStep.hit hget
        · cases hstep
          exact AccountStep.missed _ _
  | fetch succeeds =>
      cases phase <;> simp only [accountStep, reduceCtorEq] at hstep
      split at hstep
      · next hfetch =>
          cases hstep
          cases succeeds with
          | true => exact AccountStep.fetched hfetch
          | false => exact absurd ((Media.fetch_unreachable _).symm.trans hfetch) nofun
      · cases hstep
        exact AccountStep.failed _ (by simp [Phase.HasSent])
  | addMediaContent succeeds =>
      cases phase <;> cases succeeds <;> simp only [accountStep, reduceCtorEq] at hstep
      · cases hstep
        exact AccountStep.failed _ (by simp [Phase.HasSent])
      · next url format content =>
          cases hstep
          exact AccountStep.added url format content
  | getKvData succeeds =>
      cases phase <;> cases succeeds <;> simp only [accountStep, reduceCtorEq] at hstep
      · cases hstep
        exact AccountStep.failed _ (by simp [Phase.HasSent])
      · cases hstep
        exact AccountStep.getKvData

/-!
# What the calls come to
-/

def Entry.sets : Entry -> Option (Option String)
  | Entry.setAvatarUrl _ url => some url
  | _ => none

def avatarUrlOf (first : Option String) (log : List Entry) : Option String :=
  Register.contentOf Entry.sets first log

def Entry.caches : Entry -> Option (Option String)
  | Entry.setKvData _ url => some url
  | _ => none

def userAvatarUrlOf (first : Option String) (log : List Entry) : Option String :=
  Register.contentOf Entry.caches first log

/-- A url is set after its request was sent, the homeserver answers with the url that was set
last, a call puts into the store what it was answered, and the store answers with what was
put into it last. -/
def Answers (firstUrl firstCached : Option String) (before : List Entry) : Entry -> Prop
  | Entry.sendAvatarUrl _ _ => True
  | Entry.setAvatarUrl i url => WasSent before i url
  | Entry.getAvatarUrl _ url => url = avatarUrlOf firstUrl before
  | Entry.setKvData i url => Entry.getAvatarUrl i url ∈ before
  | Entry.getKvData _ url => url = userAvatarUrlOf firstCached before

/-- A call that sets this url is given it, or has uploaded its data under it. -/
def Sets (M : ProfileServer State) (s : State) (url : Option String) : Call -> Value -> Prop
  | Call.uploadAvatar contentType data, value =>
      exists uploaded, url = some uploaded ∧ value = Value.uploaded uploaded ∧
        M.file s uploaded = some (avatarFile contentType data)
  | Call.setAvatarUrl given, value => url = given ∧ value = Value.done
  | _, _ => False

def Shows (M : ProfileServer State) (s : State) (url : Option String) (format : MediaFormat)
    (content : Option Bytes) : Prop :=
  match url, content with
  | none, none => True
  | some url, some content =>
      Media.fetch (M.server s) { source := MediaSource.plain url, format } = .ok content
  | _, _ => False

def Returns (M : ProfileServer State) (i : Nat) (s : State) (log : List Entry) :
    Call -> Value -> Prop
  | Call.uploadAvatar contentType data, value =>
      exists url, value = Value.uploaded url ∧ Entry.setAvatarUrl (some i) (some url) ∈ log ∧
        M.file s url = some (avatarFile contentType data)
  | Call.setAvatarUrl url, value =>
      value = Value.done ∧ Entry.setAvatarUrl (some i) url ∈ log
  | Call.getAvatarUrl, value =>
      exists url, value = Value.avatarUrl url ∧ Entry.getAvatarUrl i url ∈ log
  | Call.getAvatar format, value =>
      exists url content, value = Value.avatar content ∧ Entry.getAvatarUrl i url ∈ log ∧
        Shows M s url format content
  | Call.getCachedAvatarUrl, value =>
      exists url, value = Value.avatarUrl url ∧ Entry.getKvData i url ∈ log

def Known (M : ProfileServer State) (i : Nat) (s : State) (log : List Entry) : Phase -> Prop
  | Phase.setAvatarUrl call url value => Sets M s url call value
  | Phase.settingAvatarUrl call url value => Sets M s url call value
  | Phase.getAvatarUrl call =>
      call = Call.getAvatarUrl ∨ exists format, call = Call.getAvatar format
  | Phase.cacheAvatarUrl call url =>
      (call = Call.getAvatarUrl ∨ exists format, call = Call.getAvatar format) ∧
        Entry.getAvatarUrl i url ∈ log
  | Phase.getMediaContent url _ => Entry.getAvatarUrl i (some url) ∈ log
  | Phase.fetch url _ => Entry.getAvatarUrl i (some url) ∈ log
  | Phase.addMediaContent url format content =>
      Entry.getAvatarUrl i (some url) ∈ log ∧ Shows M s (some url) format (some content)
  | Phase.returned call (some value) => Returns M i s log call value
  | _ => True

structure LogKept (M : ProfileServer State) (kvStore : KeyedStore Kv String String)
    (userId : String) (firstUrl firstCached : Option String) (shared : Shared State Kv Store) :
    Prop where
  avatarUrl : M.avatarUrl shared.server = avatarUrlOf firstUrl shared.log
  userAvatarUrl : kvStore.get shared.kv userId = userAvatarUrlOf firstCached shared.log
  answers : EachEntry (Answers firstUrl firstCached) shared.log

variable {s s' : State} {log log' : List Entry}
variable {url : Option String} {format : MediaFormat} {content : Option Bytes}

theorem Sets.keep {call : Call} {value : Value} (hkeeps : Keeps M.toMediaRepository s s')
    (h : Sets M s url call value) : Sets M s' url call value := by
  cases call with
  | uploadAvatar contentType data =>
      rcases h with ⟨uploaded, hurl, hvalue, hfile⟩
      exact ⟨uploaded, hurl, hvalue, hkeeps _ _ hfile⟩
  | setAvatarUrl given => exact h
  | getAvatarUrl => exact h.elim
  | getAvatar format => exact h.elim
  | getCachedAvatarUrl => exact h.elim

theorem Shows.keep (hkeeps : Keeps M.toMediaRepository s s') (h : Shows M s url format content) :
    Shows M s' url format content := by
  cases url <;> cases content
  · exact True.intro
  · exact h.elim
  · exact h.elim
  · exact Media.fetch_keep hkeeps h

theorem Returns.keep {call : Call} {value : Value} (hkeeps : Keeps M.toMediaRepository s s')
    (hlog : forall entry, entry ∈ log -> entry ∈ log')
    (h : Returns M i s log call value) : Returns M i s' log' call value := by
  cases call with
  | uploadAvatar contentType data =>
      rcases h with ⟨url, hvalue, hset, hfile⟩
      exact ⟨url, hvalue, hlog _ hset, hkeeps _ _ hfile⟩
  | setAvatarUrl url => exact ⟨h.1, hlog _ h.2⟩
  | getAvatarUrl =>
      rcases h with ⟨url, hvalue, hanswered⟩
      exact ⟨url, hvalue, hlog _ hanswered⟩
  | getAvatar format =>
      rcases h with ⟨url, content, hvalue, hanswered, hshows⟩
      exact ⟨url, content, hvalue, hlog _ hanswered, hshows.keep hkeeps⟩
  | getCachedAvatarUrl =>
      rcases h with ⟨url, hvalue, hanswered⟩
      exact ⟨url, hvalue, hlog _ hanswered⟩

theorem Known.keep (hkeeps : Keeps M.toMediaRepository s s')
    (hlog : forall entry, entry ∈ log -> entry ∈ log') (h : Known M i s log phase) :
    Known M i s' log' phase := by
  cases phase with
  | setAvatarUrl call url value => exact Sets.keep hkeeps h
  | settingAvatarUrl call url value => exact Sets.keep hkeeps h
  | getAvatarUrl call => exact h
  | cacheAvatarUrl call url => exact ⟨h.1, hlog _ h.2⟩
  | getMediaContent url format => exact hlog _ h
  | fetch url format => exact hlog _ h
  | addMediaContent url format content => exact ⟨hlog _ h.1, h.2.keep hkeeps⟩
  | returned call value =>
      cases value with
      | none => exact True.intro
      | some value => exact Returns.keep hkeeps hlog h
  | _ => exact True.intro

theorem keeps_setAvatarUrl (s : State) (url : Option String) :
    Keeps M.toMediaRepository s (M.setAvatarUrl s url) := by
  intro other file hfile
  rw [M.file_setAvatarUrl]
  exact hfile

theorem get_cacheAvatarUrl (kv : Kv) (url : Option String) :
    kvStore.get (cacheAvatarUrl kvStore userId kv url) userId = url := by
  cases url with
  | none => exact kvStore.get_remove_self kv userId
  | some url => exact kvStore.get_add_self kv userId url

section AccountSteps

variable (hstep : AccountStep M kvStore userId cache uniqueKey i shared phase shared' phase')

include hstep

theorem AccountStep.hasSent {call : Call} (h : phase.HasSent call) : phase'.HasSent call := by
  cases hstep with
  | set other value hset => exact h
  | notSet other url value => exact h
  | failed _ hrunning => exact absurd h (hrunning call)
  | _ => exact h.elim

theorem AccountStep.keeps : Keeps M.toMediaRepository shared.server shared'.server := by
  cases hstep with
  | uploaded contentType data => exact Media.keeps_upload _ _
  | _ => exact Keeps.refl _

theorem AccountStep.log_eq :
    shared'.log = shared.log ∨ exists entry, shared'.log = shared.log ++ [entry] := by
  cases hstep with
  | sent call url value => exact Or.inr ⟨_, rfl⟩
  | getAvatarUrl call => exact Or.inr ⟨_, rfl⟩
  | cacheAvatarUrl call url => exact Or.inr ⟨_, rfl⟩
  | getKvData => exact Or.inr ⟨_, rfl⟩
  | _ => exact Or.inl rfl

theorem AccountStep.mem_log {entry : Entry} (hmem : entry ∈ shared.log) :
    entry ∈ shared'.log := by
  rcases hstep.log_eq with h | ⟨other, h⟩
  · rw [h]
    exact hmem
  · rw [h]
    exact List.mem_append_left _ hmem

end AccountSteps

theorem known_setAvatarUrl {call : Call} {value : Value} (shared : Shared State Kv Store)
    (hsets : Sets M s url call value) :
    Known M i s log (setAvatarUrl shared call url value) := by
  unfold setAvatarUrl
  split
  · exact hsets
  · exact True.intro

theorem known_start (shared : Shared State Kv Store) (call : Call) :
    Known M i s log (start shared call) := by
  cases call with
  | uploadAvatar contentType data => exact True.intro
  | setAvatarUrl url => exact known_setAvatarUrl shared ⟨rfl, rfl⟩
  | getAvatarUrl =>
      rw [start]
      split
      · exact Or.inl rfl
      · exact True.intro
  | getAvatar format =>
      rw [start]
      split
      · exact Or.inr ⟨format, rfl⟩
      · exact True.intro
  | getCachedAvatarUrl =>
      rw [start]
      split <;> exact True.intro

theorem known_afterAvatarUrl {call : Call}
    (hcall : call = Call.getAvatarUrl ∨ exists format, call = Call.getAvatar format)
    (hanswered : Entry.getAvatarUrl i url ∈ log) :
    Known M i s log (afterAvatarUrl call url) := by
  rcases hcall with rfl | ⟨format, rfl⟩
  · exact ⟨url, rfl, hanswered⟩
  · cases url with
    | none => exact ⟨none, none, rfl, hanswered, True.intro⟩
    | some url => exact hanswered

theorem returns_of_sets {call : Call} {value : Value} (hsets : Sets M s url call value)
    (hset : Entry.setAvatarUrl (some i) url ∈ log) : Returns M i s log call value := by
  cases call with
  | uploadAvatar contentType data =>
      rcases hsets with ⟨uploaded, rfl, rfl, hfile⟩
      exact ⟨uploaded, rfl, hset, hfile⟩
  | setAvatarUrl given =>
      rcases hsets with ⟨rfl, rfl⟩
      exact ⟨rfl, hset⟩
  | getAvatarUrl => exact hsets.elim
  | getAvatar format => exact hsets.elim
  | getCachedAvatarUrl => exact hsets.elim

theorem AccountStep.known
    (hcoherent : Coherent M.toMediaRepository cache uniqueKey shared.server shared.store)
    (hknown : Known M i shared.server shared.log phase)
    (hstep : AccountStep M kvStore userId cache uniqueKey i shared phase shared' phase') :
    Known M i shared'.server shared'.log phase' := by
  cases hstep with
  | call call => exact known_start shared call
  | uploaded contentType data =>
      exact known_setAvatarUrl shared ⟨_, rfl, rfl, M.file_upload_self _ _⟩
  | sent call url value => exact hknown
  | set call value hset => exact returns_of_sets hknown hset
  | getAvatarUrl call => exact ⟨hknown, List.mem_append_right _ (List.mem_singleton_self _)⟩
  | cacheAvatarUrl call url =>
      exact known_afterAvatarUrl hknown.1 (List.mem_append_left _ hknown.2)
  | notCached call url => exact known_afterAvatarUrl hknown.1 hknown.2
  | hit hget => exact ⟨_, _, rfl, hknown, hcoherent _ _ _ hget⟩
  | missed url format => exact hknown
  | fetched hfetch => exact ⟨hknown, hfetch⟩
  | added url format content => exact ⟨_, _, rfl, hknown.1, hknown.2⟩
  | getKvData => exact ⟨_, rfl, List.mem_append_right _ (List.mem_singleton_self _)⟩
  | _ => exact True.intro

variable {firstUrl firstCached : Option String}

theorem LogKept.emit {entry : Entry} (h : LogKept M kvStore userId firstUrl firstCached shared)
    {kv : Kv}
    (hsets : M.avatarUrl s = entry.sets.getD (M.avatarUrl shared.server))
    (hcaches : kvStore.get kv userId = entry.caches.getD (kvStore.get shared.kv userId))
    (hanswers : Answers firstUrl firstCached shared.log entry) :
    LogKept M kvStore userId firstUrl firstCached
      ({ shared with server := s, kv }.emit entry) where
  avatarUrl := by
    show M.avatarUrl s = _
    rw [hsets, h.avatarUrl]
    exact (Register.contentOf_append_singleton _ _).symm
  userAvatarUrl := by
    show kvStore.get kv userId = _
    rw [hcaches, h.userAvatarUrl]
    exact (Register.contentOf_append_singleton _ _).symm
  answers := eachEntry_append_singleton.mpr ⟨h.answers, hanswers⟩

theorem AccountStep.logKept (hknown : Known M i shared.server shared.log phase)
    (hstep : AccountStep M kvStore userId cache uniqueKey i shared phase shared' phase')
    (h : LogKept M kvStore userId firstUrl firstCached shared) :
    LogKept M kvStore userId firstUrl firstCached shared' := by
  cases hstep with
  | uploaded contentType data =>
      exact ⟨(M.avatarUrl_upload _ _).trans h.avatarUrl, h.userAvatarUrl, h.answers⟩
  | sent call url value => exact h.emit rfl rfl True.intro
  | getAvatarUrl call => exact h.emit rfl rfl h.avatarUrl
  | cacheAvatarUrl call url => exact h.emit rfl (get_cacheAvatarUrl _ url) hknown.2
  | getKvData => exact h.emit rfl rfl h.userAvatarUrl
  | _ => exact ⟨h.avatarUrl, h.userAvatarUrl, h.answers⟩

theorem AccountStep.coherent (htells : TellsApart uniqueKey)
    (hcoherent : Coherent M.toMediaRepository cache uniqueKey shared.server shared.store)
    (hknown : Known M i shared.server shared.log phase)
    (hstep : AccountStep M kvStore userId cache uniqueKey i shared phase shared' phase') :
    Coherent M.toMediaRepository cache uniqueKey shared'.server shared'.store := by
  have hkeep := hcoherent.keep hstep.keeps
  cases hstep with
  | added url format content => exact hcoherent.add htells hknown.2
  | _ => exact hkeep

theorem mem_of_mem_emit {entry other : Entry} (hmem : entry ∈ (shared.emit other).log)
    (hne : entry ≠ other) : entry ∈ shared.log := by
  rcases List.mem_append.mp hmem with h | h
  · exact h
  · exact absurd (List.mem_singleton.mp h) hne

theorem AccountStep.setter (hknown : Known M i shared.server shared.log phase)
    (hstep : AccountStep M kvStore userId cache uniqueKey i shared phase shared' phase')
    {j : Nat} (hmem : Entry.sendAvatarUrl j url ∈ shared'.log) :
    Entry.sendAvatarUrl j url ∈ shared.log ∨
      j = i ∧ exists call value, phase'.HasSent call ∧
        Sets M shared'.server url call value := by
  cases hstep with
  | sent call set value =>
      rcases List.mem_append.mp hmem with h | h
      · exact Or.inl h
      · cases List.mem_singleton.mp h
        exact Or.inr ⟨rfl, call, value, rfl, hknown⟩
  | getAvatarUrl call => exact Or.inl (mem_of_mem_emit hmem nofun)
  | cacheAvatarUrl call cached => exact Or.inl (mem_of_mem_emit hmem nofun)
  | getKvData => exact Or.inl (mem_of_mem_emit hmem nofun)
  | _ => exact Or.inl hmem

/-!
# Runs
-/

structure AvatarsKept (M : ProfileServer State) (kvStore : KeyedStore Kv String String)
    (userId : String) (cache : KeyedStore Store Key Bytes) (uniqueKey : MediaRequest -> Key)
    (firstUrl firstCached : Option String)
    (w : AvatarWorld State Kv Store) : Prop where
  logKept : LogKept M kvStore userId firstUrl firstCached w.shared
  coherent : Coherent M.toMediaRepository cache uniqueKey w.shared.server w.shared.store
  known : Everywhere (fun i shared phase => Known M i shared.server shared.log phase) w
  /-- The url of a call that has sent one. -/
  setters : forall i url, Entry.sendAvatarUrl i url ∈ w.shared.log ->
    exists call value, (w.memory i).HasSent call ∧ Sets M w.shared.server url call value

variable {server : State} {kv : Kv} {store : Store} {w w' : AvatarWorld State Kv Store}

theorem avatarsKept_component (htells : TellsApart uniqueKey)
    (hw : AvatarsKept M kvStore userId cache uniqueKey firstUrl firstCached w)
    (hstep : (avatars M kvStore userId cache uniqueKey server kv store).worldStep w
      (Event.component i a) = some w') :
    AvatarsKept M kvStore userId cache uniqueKey firstUrl firstCached w' := by
  have hown := accountStep_of_eq_some (step_of_worldStep hstep)
  have hkeeps := hown.keeps
  refine ⟨hown.logKept (hw.known i) hw.logKept,
    hown.coherent htells hw.coherent (hw.known i), ?_, ?_⟩
  · intro j
    rcases eq_or_ne j i with rfl | hne
    · exact hown.known hw.coherent (hw.known j)
    · rw [memory_of_ne hstep hne]
      exact (hw.known j).keep hkeeps fun _ hmem => hown.mem_log hmem
  · intro j url hmem
    rcases hown.setter (hw.known i) hmem with hold | ⟨hsetter, hnew⟩
    · rcases hw.setters j url hold with ⟨call, value, hsent, hsets⟩
      refine ⟨call, value, ?_, hsets.keep hkeeps⟩
      rcases eq_or_ne j i with rfl | hne
      · exact hown.hasSent hsent
      · rw [memory_of_ne hstep hne]
        exact hsent
    · rw [hsetter]
      exact hnew

theorem AvatarsKept.outside {shared : Shared State Kv Store}
    (hw : AvatarsKept M kvStore userId cache uniqueKey firstUrl firstCached w)
    (hlogKept : LogKept M kvStore userId firstUrl firstCached shared)
    (hcoherent : Coherent M.toMediaRepository cache uniqueKey shared.server shared.store)
    (hkeeps : Keeps M.toMediaRepository w.shared.server shared.server)
    (hlog : forall entry, entry ∈ w.shared.log -> entry ∈ shared.log)
    (hsent : forall j url, Entry.sendAvatarUrl j url ∈ shared.log ->
      Entry.sendAvatarUrl j url ∈ w.shared.log) :
    AvatarsKept M kvStore userId cache uniqueKey firstUrl firstCached { w with shared } := by
  refine ⟨hlogKept, hcoherent, fun j => (hw.known j).keep hkeeps hlog, ?_⟩
  intro j url hmem
  rcases hw.setters j url (hsent j url hmem) with ⟨call, value, hcall, hsets⟩
  exact ⟨call, value, hcall, hsets.keep hkeeps⟩

theorem avatarsKept_environment (htells : TellsApart uniqueKey) {e : Outside}
    (hw : AvatarsKept M kvStore userId cache uniqueKey firstUrl firstCached w)
    (hstep : (avatars M kvStore userId cache uniqueKey server kv store).worldStep w
      (Event.environment e) = some w') :
    AvatarsKept M kvStore userId cache uniqueKey firstUrl firstCached w' := by
  have hkept := hw.logKept
  rcases worldStep_environment_eq_some.mp hstep with ⟨shared, hshared, rfl⟩
  cases e with
  | logIn =>
      cases hshared
      exact hw.outside ⟨hkept.avatarUrl, hkept.userAvatarUrl, hkept.answers⟩ hw.coherent
        (Keeps.refl _) (fun _ h => h) (fun _ _ h => h)
  | upload file =>
      cases hshared
      have hkeeps := Media.keeps_upload (M := M.toMediaRepository) w.shared.server file
      exact hw.outside
        ⟨(M.avatarUrl_upload _ _).trans hkept.avatarUrl, hkept.userAvatarUrl, hkept.answers⟩
        (hw.coherent.keep hkeeps) hkeeps (fun _ h => h) (fun _ _ h => h)
  | setAvatarUrl k url =>
      replace hshared : outsideStep M cache uniqueKey w.shared (Outside.setAvatarUrl k url) =
        some shared := hshared
      simp only [outsideStep] at hshared
      split at hshared
      · next hsent =>
          cases hshared
          have hkeeps := keeps_setAvatarUrl (M := M) w.shared.server url
          have hanswers : Answers firstUrl firstCached w.shared.log
            (Entry.setAvatarUrl k url) := hsent
          apply hw.outside (hkept.emit (M.avatarUrl_setAvatarUrl _ url) rfl hanswers)
            (hw.coherent.keep hkeeps) hkeeps (fun _ h => List.mem_append_left _ h)
          intro j other hmem
          rcases List.mem_append.mp hmem with h | h
          · exact h
          · cases List.mem_singleton.mp h
      · cases hshared
  | getMediaContent url format succeeds =>
      cases hshared
      exact hw.outside ⟨hkept.avatarUrl, hkept.userAvatarUrl, hkept.answers⟩
        (hw.coherent.getMediaContent htells succeeds url format) (Keeps.refl _)
        (fun _ h => h) (fun _ _ h => h)
  | removeMediaContent source format =>
      cases hshared
      exact hw.outside ⟨hkept.avatarUrl, hkept.userAvatarUrl, hkept.answers⟩
        (hw.coherent.removeMediaContent { source, format }) (Keeps.refl _)
        (fun _ h => h) (fun _ _ h => h)

theorem avatarsKept_run (htells : TellsApart uniqueKey)
    (hempty : forall k, cache.get store k = none)
    {events : List (Event Nat Outside Action)}
    (hrun : (avatars M kvStore userId cache uniqueKey server kv store).system.run events =
      some w) :
    AvatarsKept M kvStore userId cache uniqueKey (M.avatarUrl server) (kvStore.get kv userId)
      w := by
  apply TransitionSystem.invariant_runFrom
    (P := AvatarsKept M kvStore userId cache uniqueKey (M.avatarUrl server)
      (kvStore.get kv userId)) ?_ ?_ hrun
  · intro w e w' hw hstep
    cases e with
    | environment e => exact avatarsKept_environment htells hw hstep
    | component i a => exact avatarsKept_component htells hw hstep
  · show AvatarsKept M kvStore userId cache uniqueKey (M.avatarUrl server)
      (kvStore.get kv userId)
      { shared := { loggedIn := false, server, kv, store, log := [] },
        memory := fun _ => Phase.notStarted }
    constructor
    · exact ⟨rfl, rfl, EachEntry.nil⟩
    · exact Coherent.of_empty hempty
    · exact fun _ => True.intro
    · intro i url hmem
      cases hmem

theorem Shows.eq_shown {url : String} {file : MediaFile} (hfile : M.file s url = some file)
    (h : Shows M s (some url) format content) :
    content = some (M.shown format file.data) := by
  cases content with
  | none => exact h.elim
  | some content =>
      have hfetch : Media.fetch (M.server s) { source := MediaSource.plain url, format } =
        .ok content := h
      rw [Media.fetch_of_file hfile] at hfetch
      cases hfetch
      rfl

/-- However the calls and the use of the stores take turns, a call that gets the avatar gets
what the homeserver has under the url that was set last when it answered the call, or
nothing if there was none; and that is the data of each call by whose upload and request
this url was set. -/
theorem avatar_of_last_set (htells : TellsApart uniqueKey)
    (hempty : forall k, cache.get store k = none)
    {events : List (Event Nat Outside Action)}
    (hrun : (avatars M kvStore userId cache uniqueKey server kv store).system.run events =
      some w) {value : Value}
    (hreturned : w.memory i = Phase.returned (Call.getAvatar format) (some value)) :
    exists before url after content,
      w.shared.log = before ++ Entry.getAvatarUrl i url :: after ∧
      url = avatarUrlOf (M.avatarUrl server) before ∧ value = Value.avatar content ∧
      Shows M w.shared.server url format content ∧
      forall j contentType data, Entry.setAvatarUrl (some j) url ∈ w.shared.log ->
        (w.memory j).HasSent (Call.uploadAvatar contentType data) ->
          content = some (M.shown format data) := by
  have hkept := avatarsKept_run htells hempty hrun
  have hknown := hkept.known i
  rw [hreturned] at hknown
  rcases hknown with ⟨url, content, rfl, hanswered, hshows⟩
  rcases List.append_of_mem hanswered with ⟨before, after, hsplit⟩
  refine ⟨before, url, after, content, hsplit, hkept.logKept.answers _ _ _ hsplit, rfl, hshows,
    ?_⟩
  intro j contentType data hset hupload
  rcases List.append_of_mem hset with ⟨front, rest, hfront⟩
  have hsent : Entry.sendAvatarUrl j url ∈ front := hkept.logKept.answers _ _ _ hfront
  have hmem : Entry.sendAvatarUrl j url ∈ w.shared.log := by
    rw [hfront]
    exact List.mem_append_left _ hsent
  rcases hkept.setters j url hmem with ⟨call, value, hcall, hsets⟩
  cases hupload.unique hcall
  rcases hsets with ⟨uploaded, rfl, _, hfile⟩
  exact hshows.eq_shown hfile

/-- The url that `get_cached_avatar_url` returns was cached at first, or a call has been
answered with it before. -/
theorem cached_url_answered (htells : TellsApart uniqueKey)
    (hempty : forall k, cache.get store k = none)
    {events : List (Event Nat Outside Action)}
    (hrun : (avatars M kvStore userId cache uniqueKey server kv store).system.run events =
      some w) {value : Value}
    (hreturned : w.memory i = Phase.returned Call.getCachedAvatarUrl (some value)) :
    exists before url after, w.shared.log = before ++ Entry.getKvData i url :: after ∧
      value = Value.avatarUrl url ∧
      (url = kvStore.get kv userId ∨ exists j, Entry.getAvatarUrl j url ∈ before) := by
  have hkept := avatarsKept_run htells hempty hrun
  have hknown := hkept.known i
  rw [hreturned] at hknown
  rcases hknown with ⟨url, rfl, hanswered⟩
  rcases List.append_of_mem hanswered with ⟨before, after, hsplit⟩
  refine ⟨before, url, after, hsplit, rfl, ?_⟩
  have hurl : url = userAvatarUrlOf (kvStore.get kv userId) before :=
    hkept.logKept.answers _ _ _ hsplit
  have hcontent : url = kvStore.get kv userId ∨ url ∈ before.filterMap Entry.caches := by
    rw [hurl]
    exact Register.contentOf_mem before
  rcases hcontent with hfirst | hcached
  · exact Or.inl hfirst
  · right
    rcases List.mem_filterMap.mp hcached with ⟨entry, hmem, hcaches⟩
    cases entry <;> simp only [Entry.caches, reduceCtorEq, Option.some.injEq] at hcaches
    next j cached =>
      subst hcaches
      rcases List.append_of_mem hmem with ⟨front, rest, hfront⟩
      have hbefore : Entry.getAvatarUrl j cached ∈ front := by
        apply hkept.logKept.answers front (Entry.setKvData j cached)
          (rest ++ Entry.getKvData i cached :: after)
        rw [hsplit, hfront, List.append_assoc]
        rfl
      refine ⟨j, ?_⟩
      rw [hfront]
      exact List.mem_append_left _ hbefore

/-!
# A sample
-/

def sampleServer : ProfileServer (List MediaFile × Option String) where
  file s := Attachment.sampleMedia.file s.1
  upload s new :=
    let uploaded := Attachment.sampleMedia.upload s.1 new
    ((uploaded.1, s.2), uploaded.2)
  scale := Attachment.sampleMedia.scale
  server s := Attachment.sampleMedia.server s.1
  avatarUrl := Prod.snd
  setAvatarUrl s url := (s.1, url)
  file_upload_self s := Attachment.sampleMedia.file_upload_self s.1
  file_upload_of_some s := Attachment.sampleMedia.file_upload_of_some s.1
  getContent_eq_ok_iff s := Attachment.sampleMedia.getContent_eq_ok_iff s.1
  getContentThumbnail_eq_ok_iff s :=
    Attachment.sampleMedia.getContentThumbnail_eq_ok_iff s.1
  avatarUrl_setAvatarUrl _ _ := rfl
  avatarUrl_upload _ _ := rfl
  file_setAvatarUrl _ _ _ := rfl

/-- An avatar is uploaded and got, and removed by another client before the url is cached.
The request that sets the url is performed although its call fails. -/
def removedAfterAnswer : List (Event Nat Outside Action) :=
  [Event.environment Outside.logIn,
    Event.component 0 (Action.call (Call.uploadAvatar
      { type_ := "image", subtype := "jpeg", params := "" } [1, 2, 3])),
    Event.component 0 (Action.upload true),
    Event.component 0 Action.setAvatarUrl,
    Event.component 0 (Action.response false),
    Event.environment (Outside.setAvatarUrl (some 0) (some "mxc://h/")),
    Event.component 1 (Action.call (Call.getAvatar MediaFormat.file)),
    Event.component 1 (Action.getAvatarUrl true),
    Event.environment (Outside.setAvatarUrl none none),
    Event.component 1 (Action.cacheAvatarUrl true),
    Event.component 1 (Action.getMediaContent true),
    Event.component 1 (Action.fetch true),
    Event.component 1 (Action.addMediaContent true),
    Event.component 2 (Action.call Call.getCachedAvatarUrl),
    Event.component 2 (Action.getKvData true)]

/-- A client that caches each request under the request itself. -/
def selfieCalls :
    Components Nat
      (Shared (List MediaFile × Option String) (String -> Option String)
        (MediaRequest -> Option Bytes)) Phase Outside Action :=
  avatars sampleServer (KeyedStore.ofFunction String String) "@a:x"
    (KeyedStore.ofFunction MediaRequest Bytes) id ([], none) (fun _ => none) fun _ => none

theorem run_removedAfterAnswer :
    exists w, selfieCalls.system.run removedAfterAnswer = some w ∧
      w.memory 1 = Phase.returned (Call.getAvatar MediaFormat.file)
        (some (Value.avatar (some [1, 2, 3]))) ∧
      w.memory 2 = Phase.returned Call.getCachedAvatarUrl
        (some (Value.avatarUrl (some "mxc://h/"))) :=
  ⟨_, rfl, rfl, rfl⟩

theorem avatar_of_last_set_removed :
    exists w before url after content, selfieCalls.system.run removedAfterAnswer = some w ∧
      w.shared.log = before ++ Entry.getAvatarUrl 1 url :: after ∧
      url = avatarUrlOf none before ∧
      Value.avatar (some [1, 2, 3]) = Value.avatar content ∧
      Shows sampleServer w.shared.server url MediaFormat.file content := by
  rcases run_removedAfterAnswer with ⟨w, hrun, hreturned, _⟩
  rcases avatar_of_last_set Media.tellsApart_id (fun _ => rfl) hrun hreturned with
    ⟨before, url, after, content, hsplit, hurl, hvalue, hshows, _⟩
  exact ⟨w, before, url, after, content, hrun, hsplit, hurl, hvalue, hshows⟩

theorem cached_url_answered_removed :
    exists w before url after, selfieCalls.system.run removedAfterAnswer = some w ∧
      w.shared.log = before ++ Entry.getKvData 2 url :: after ∧
      Value.avatarUrl (some "mxc://h/") = Value.avatarUrl url ∧
      (url = none ∨ exists j, Entry.getAvatarUrl j url ∈ before) := by
  rcases run_removedAfterAnswer with ⟨w, hrun, _, hreturned⟩
  rcases cached_url_answered Media.tellsApart_id (fun _ => rfl) hrun hreturned with
    ⟨before, url, after, hsplit, hvalue, hanswered⟩
  exact ⟨w, before, url, after, hrun, hsplit, hvalue, hanswered⟩

end Calls

end Avatar
end MatrixGoose
