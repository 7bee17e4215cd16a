import MatrixGoose.Foundation.Components
import MatrixGoose.Bin.UsersCsv

/-!
# Registering the users

The transactions of the register load test take turns with others who create accounts on
the homeserver, which is a parameter.  It may perform a request at any time after it was
sent, so that an account is created although the call fails; the name is then taken at the
next attempt, and the transaction reports a user as skipped that has its account.
-/

namespace MatrixGoose

open Foundation
open Foundation.Components

namespace RegisterUsers

open UsersCsv (User)

/-- What the load test may rely on in a homeserver: it registers a user only under a free
name, who can then log in with the password, and leaves the other accounts alone. -/
structure AccountServer (Server : Type) where
  /-- The password of the account of this name. -/
  account : Server -> String -> Option String
  register : Server -> User -> Option Server
  free_of_register : forall s s' user, register s user = some s' ->
    account s user.username = none
  account_register_self : forall s s' user, register s user = some s' ->
    account s' user.username = some user.password
  account_register_of_ne : forall s s' user name, register s user = some s' ->
    name ≠ user.username -> account s' name = account s name

inductive Entry
  /-- An account is created, by a request of transaction `i` or by somebody else. -/
  | created (i : Option Nat) (user : User)
  | register (i : Nat) (user : User)
  | success (i : Nat)
  | couldNotRegister (i : Nat)
  | skipping (i : Nat)
  deriving DecidableEq

structure Shared (Server : Type) where
  server : Server
  log : List Entry

inductive Phase
  | notStarted
  /-- The attempts that are left. -/
  | register (user : User) (retries : Nat)
  | registering (user : User) (retries : Nat)
  | finished (user : User) (succeeded : Bool)
  | panicked

inductive Action
  /-- The transaction reads its user and makes a client. -/
  | start (newClient : Bool)
  | register
  | response (succeeded : Bool)

inductive Environment
  /-- The homeserver performs a request of transaction `i`. -/
  | register (i : Nat) (user : User)
  | other (user : User)

section Transactions

variable {Server : Type}

def Shared.emit (shared : Shared Server) (entries : List Entry) : Shared Server :=
  { shared with log := shared.log ++ entries }

/-- An attempt that has failed: try again, or skip the user. -/
def retry (i : Nat) (shared : Shared Server) (user : User) : Nat -> Shared Server × Phase
  | 0 =>
      (shared.emit [Entry.couldNotRegister i, Entry.skipping i], Phase.finished user false)
  | retries => (shared.emit [Entry.couldNotRegister i], Phase.register user retries)

section Steps

variable (M : AccountServer Server) (users : List User)

def registerStep (i : Nat) (shared : Shared Server) (phase : Phase) (a : Action) :
    Option (Shared Server × Phase) :=
  match a, phase with
  | Action.start newClient, Phase.notStarted =>
      match users[i]?, newClient with
      | some user, true => some (shared, Phase.register user 3)
      | _, _ => some (shared, Phase.panicked)
  | Action.register, Phase.register user retries =>
      some (shared.emit [Entry.register i user], Phase.registering user retries)
  | Action.response true, Phase.registering user _ =>
      if Entry.created (some i) user ∈ shared.log then
        some (shared.emit [Entry.success i], Phase.finished user true)
      else none
  | Action.response false, Phase.registering user (retries + 1) =>
      some (retry i shared user retries)
  | _, _ => none

def createAccount (shared : Shared Server) (i : Option Nat) (user : User) :
    Option (Shared Server) :=
  (M.register shared.server user).map fun server =>
    { server, log := shared.log ++ [Entry.created i user] }

def environmentStep (shared : Shared Server) : Environment -> Option (Shared Server)
  | Environment.register i user =>
      if Entry.register i user ∈ shared.log then createAccount M shared (some i) user else none
  | Environment.other user => createAccount M shared none user

def registrations (start : Server) :
    Components Nat (Shared Server) Phase Environment Action where
  initShared := { server := start, log := [] }
  initMemory := fun _ => Phase.notStarted
  environment := environmentStep M
  step := registerStep users

end Steps

abbrev RegisterWorld (Server : Type) := World Nat (Shared Server) Phase

/-!
# What a step can do
-/

inductive RegisterStep (users : List User) (i : Nat) (log : List Entry) :
    Phase -> List Entry -> Phase -> Prop
  | start {user : User} (huser : users[i]? = some user) :
      RegisterStep users i log Phase.notStarted [] (Phase.register user 3)
  | panicked : RegisterStep users i log Phase.notStarted [] Phase.panicked
  | called (user : User) (retries : Nat) :
      RegisterStep users i log (Phase.register user retries) [Entry.register i user]
        (Phase.registering user retries)
  | registered {user : User} (retries : Nat) (hcreated : Entry.created (some i) user ∈ log) :
      RegisterStep users i log (Phase.registering user retries) [Entry.success i]
        (Phase.finished user true)
  | retried (user : User) (retries : Nat) :
      RegisterStep users i log (Phase.registering user (retries + 2))
        [Entry.couldNotRegister i] (Phase.register user (retries + 1))
  | skipped (user : User) :
      RegisterStep users i log (Phase.registering user 1)
        [Entry.couldNotRegister i, Entry.skipping i] (Phase.finished user false)

variable {M : AccountServer Server} {users : List User}
variable {i : Nat} {shared shared' : Shared Server} {phase phase' : Phase} {a : Action}

theorem registerStep_of_eq_some
    (hstep : registerStep users i shared phase a = some (shared', phase')) :
    exists entries, shared' = shared.emit entries ∧
      RegisterStep users i shared.log phase entries phase' := by
  have hnothing : shared = shared.emit [] := by simp [Shared.emit]
  cases a with
  | start newClient =>
      cases phase <;> simp only [registerStep, reduceCtorEq] at hstep
      split at hstep
      · next huser =>
          cases hstep
          exact ⟨[], hnothing, RegisterStep.start huser⟩
      · cases hstep
        exact ⟨[], hnothing, RegisterStep.panicked⟩
  | register =>
      cases phase <;> simp only [registerStep, reduceCtorEq] at hstep
      cases hstep
      exact ⟨_, rfl, RegisterStep.called _ _⟩
  | response succeeded =>
      cases phase with
      | registering user retries =>
          cases succeeded with
          | true =>
              simp only [registerStep] at hstep
              split at hstep
              · next hcreated =>
                  cases hstep
                  exact ⟨_, rfl, RegisterStep.registered retries hcreated⟩
              · cases hstep
          | false =>
              match retries with
              | 0 => cases hstep
              | 1 =>
                  cases hstep
                  exact ⟨_, rfl, RegisterStep.skipped user⟩
              | retries + 2 =>
                  cases hstep
                  exact ⟨_, rfl, RegisterStep.retried user retries⟩
      | _ => cases succeeded <;> cases hstep

theorem environmentStep_of_eq_some {e : Environment}
    (hstep : environmentStep M shared e = some shared') :
    exists k user, createAccount M shared k user = some shared' ∧
      forall j, k = some j -> Entry.register j user ∈ shared.log := by
  cases e with
  | register j user =>
      simp only [environmentStep] at hstep
      split at hstep
      · next hsent =>
          refine ⟨some j, user, hstep, ?_⟩
          intro k hk
          cases hk
          exact hsent
      · cases hstep
  | other user => exact ⟨none, user, hstep, nofun⟩

/-!
# The accounts
-/

def AccountsKept (M : AccountServer Server) (start : Server) (shared : Shared Server) : Prop :=
  forall user : User, M.account shared.server user.username = some user.password <->
    M.account start user.username = some user.password ∨
      exists j, Entry.created j user ∈ shared.log

variable {start : Server} {entries : List Entry}

theorem exists_created_append (log : List Entry) (k : Option Nat) (user other : User) :
    (exists j, Entry.created j other ∈ log ++ [Entry.created k user]) <->
      (exists j, Entry.created j other ∈ log) ∨ other = user := by
  simp [exists_or]

theorem AccountsKept.create {k : Option Nat} {user : User} (h : AccountsKept M start shared)
    (hcreated : createAccount M shared k user = some shared') :
    AccountsKept M start shared' := by
  rcases Option.map_eq_some_iff.mp hcreated with ⟨server, hregister, rfl⟩
  intro other
  show M.account server other.username = _ <->
    _ ∨ exists j, Entry.created j other ∈ shared.log ++ [Entry.created k user]
  rw [exists_created_append, ← or_assoc, ← h other]
  rcases eq_or_ne other.username user.username with hname | hname
  · have hfree := M.free_of_register _ _ _ hregister
    have hself := M.account_register_self _ _ _ hregister
    rw [← hname] at hfree hself
    rw [hfree, hself]
    constructor
    · intro hpassword
      right
      cases other
      cases user
      cases hname
      cases hpassword
      rfl
    · intro hsame
      rcases hsame with hsame | hsame
      · cases hsame
      · rw [hsame]
  · have hne : ¬ other = user := fun hsame => hname (congrArg User.username hsame)
    rw [M.account_register_of_ne _ _ _ _ hregister hname, or_iff_left hne]

theorem RegisterStep.created_iff
    (hstep : RegisterStep users i shared.log phase entries phase') (k : Option Nat)
    (user : User) :
    Entry.created k user ∈ shared.log ++ entries <-> Entry.created k user ∈ shared.log := by
  rw [List.mem_append, or_iff_left]
  cases hstep <;> simp

theorem AccountsKept.append (h : AccountsKept M start shared)
    (hstep : RegisterStep users i shared.log phase entries phase') :
    AccountsKept M start (shared.emit entries) := by
  intro user
  rw [show (shared.emit entries).server = shared.server from rfl, h user]
  apply or_congr_right
  exact exists_congr fun k => (hstep.created_iff k user).symm

/-!
# Attempts
-/

def callsOf (i : Nat) (user : User) (log : List Entry) : Nat :=
  log.count (Entry.register i user)

def failuresOf (i : Nat) (log : List Entry) : Nat :=
  log.count (Entry.couldNotRegister i)

def Progress (users : List User) (i : Nat) (log : List Entry) : Phase -> Prop
  | Phase.notStarted => failuresOf i log = 0 ∧ forall user, callsOf i user log = 0
  | Phase.register user retries => users[i]? = some user ∧
      failuresOf i log + retries = 3 ∧ callsOf i user log + retries = 3
  | Phase.registering user retries => users[i]? = some user ∧
      failuresOf i log + retries = 3 ∧ callsOf i user log + retries = 4
  | Phase.finished user true => users[i]? = some user ∧ Entry.created (some i) user ∈ log
  | Phase.finished user false => users[i]? = some user ∧
      failuresOf i log = 3 ∧ callsOf i user log = 3
  | Phase.panicked => True

variable {log : List Entry}

theorem Progress.append (hfailed : Entry.couldNotRegister i ∉ entries)
    (hcalled : forall user, Entry.register i user ∉ entries)
    (h : Progress users i log phase) : Progress users i (log ++ entries) phase := by
  have hfailures : failuresOf i (log ++ entries) = failuresOf i log := by
    rw [failuresOf, List.count_append, List.count_eq_zero.mpr hfailed]
    rfl
  have hcalls : forall user, callsOf i user (log ++ entries) = callsOf i user log := by
    intro user
    rw [callsOf, List.count_append, List.count_eq_zero.mpr (hcalled user)]
    rfl
  cases phase with
  | notStarted => exact ⟨hfailures.trans h.1, fun user => (hcalls user).trans (h.2 user)⟩
  | register user retries => exact ⟨h.1, by rw [hfailures, h.2.1], by rw [hcalls, h.2.2]⟩
  | registering user retries => exact ⟨h.1, by rw [hfailures, h.2.1], by rw [hcalls, h.2.2]⟩
  | finished user succeeded =>
      cases succeeded with
      | true => exact ⟨h.1, List.mem_append_left _ h.2⟩
      | false => exact ⟨h.1, hfailures.trans h.2.1, (hcalls user).trans h.2.2⟩
  | panicked => exact True.intro

theorem RegisterStep.progress
    (hstep : RegisterStep users i log phase entries phase') (h : Progress users i log phase) :
    Progress users i (log ++ entries) phase' := by
  cases hstep with
  | start huser =>
      rw [List.append_nil]
      exact ⟨huser, by rw [h.1], by rw [h.2]⟩
  | panicked => exact True.intro
  | called user retries =>
      have hfailures := h.2.1
      have hcalls := h.2.2
      refine ⟨h.1, ?_, ?_⟩
      · simpa [failuresOf] using hfailures
      · simp only [callsOf, List.count_append, List.count_singleton_self] at hcalls ⊢
        omega
  | registered retries hcreated => exact ⟨h.1, List.mem_append_left _ hcreated⟩
  | retried user retries =>
      have hfailures := h.2.1
      have hcalls := h.2.2
      refine ⟨h.1, ?_, ?_⟩
      · simp only [failuresOf, List.count_append, List.count_singleton_self] at hfailures ⊢
        omega
      · simp only [callsOf, List.count_append] at hcalls ⊢
        simp only [List.count_singleton, beq_iff_eq, reduceCtorEq, if_false]
        omega
  | skipped user =>
      have hfailures := h.2.1
      have hcalls := h.2.2
      refine ⟨h.1, ?_, ?_⟩
      · simpa [failuresOf] using hfailures
      · simpa [callsOf] using hcalls

theorem RegisterStep.not_mem_of_ne {j : Nat}
    (hstep : RegisterStep users i log phase entries phase') (hne : j ≠ i) :
    Entry.couldNotRegister j ∉ entries ∧ forall user, Entry.register j user ∉ entries := by
  cases hstep <;> simp [hne]

theorem RegisterStep.requests (hprogress : Progress users i log phase)
    (hstep : RegisterStep users i log phase entries phase') {j : Nat} {user : User}
    (hmem : Entry.register j user ∈ log ++ entries) :
    Entry.register j user ∈ log ∨ users[j]? = some user := by
  rcases List.mem_append.mp hmem with hold | hnew
  · exact Or.inl hold
  · cases hstep with
    | called user' retries =>
        cases List.mem_singleton.mp hnew
        exact Or.inr hprogress.1
    | _ => simp at hnew

/-!
# Runs
-/

structure RegistrationsKept (M : AccountServer Server) (users : List User) (start : Server)
    (w : RegisterWorld Server) : Prop where
  accounts : AccountsKept M start w.shared
  progress : Everywhere (fun i shared phase => Progress users i shared.log phase) w
  requests : forall i user, Entry.register i user ∈ w.shared.log -> users[i]? = some user
  creators : forall i user, Entry.created (some i) user ∈ w.shared.log ->
    users[i]? = some user

variable {w w' : RegisterWorld Server}

theorem registrationsKept_component (hw : RegistrationsKept M users start w)
    (hstep : (registrations M users start).worldStep w (Event.component i a) = some w') :
    RegistrationsKept M users start w' := by
  rcases registerStep_of_eq_some (step_of_worldStep hstep) with ⟨entries, hshared, hown⟩
  refine ⟨?_, ?_, ?_, ?_⟩
  · rw [hshared]
    exact hw.accounts.append hown
  · intro j
    rw [hshared]
    rcases eq_or_ne j i with rfl | hne
    · exact hown.progress (hw.progress j)
    · rw [memory_of_ne hstep hne]
      rcases hown.not_mem_of_ne hne with ⟨hfailed, hcalled⟩
      exact (hw.progress j).append hfailed hcalled
  · intro j user hmem
    rw [hshared] at hmem
    rcases hown.requests (hw.progress i) hmem with hold | huser
    · exact hw.requests j user hold
    · exact huser
  · intro j user hmem
    rw [hshared] at hmem
    exact hw.creators j user ((hown.created_iff (some j) user).mp hmem)

theorem registrationsKept_environment {e : Environment} (hw : RegistrationsKept M users start w)
    (hstep : (registrations M users start).worldStep w (Event.environment e) = some w') :
    RegistrationsKept M users start w' := by
  rcases worldStep_environment_eq_some.mp hstep with ⟨shared, hshared, rfl⟩
  rcases environmentStep_of_eq_some hshared with ⟨k, user, hcreated, hsent⟩
  refine ⟨hw.accounts.create hcreated, ?_, ?_, ?_⟩
  all_goals rcases Option.map_eq_some_iff.mp hcreated with ⟨server, _, rfl⟩
  · intro j
    exact (hw.progress j).append (by simp) (by simp)
  · intro j other hmem
    apply hw.requests j other
    simpa using hmem
  · intro j other hmem
    rcases List.mem_append.mp hmem with hold | hnew
    · exact hw.creators j other hold
    · cases List.mem_singleton.mp hnew
      exact hw.requests j _ (hsent j rfl)

theorem registrationsKept_run {events : List (Event Nat Environment Action)}
    (hrun : (registrations M users start).system.run events = some w) :
    RegistrationsKept M users start w := by
  apply TransitionSystem.invariant_runFrom (P := RegistrationsKept M users start) ?_ ?_ hrun
  · intro w e w' hw hstep
    cases e with
    | environment e => exact registrationsKept_environment hw hstep
    | component i a => exact registrationsKept_component hw hstep
  · refine ⟨?_, fun _ => ⟨rfl, fun _ => rfl⟩, nofun, nofun⟩
    intro user
    show M.account start user.username = some user.password <->
      _ ∨ exists j, Entry.created j user ∈ []
    simp

theorem eq_of_getElem?_users (hnames : (users.map User.username).Nodup) {i j : Nat}
    {user : User} (hi : users[i]? = some user) (hj : users[j]? = some user) : i = j := by
  have hlt := (List.getElem?_eq_some_iff.mp hi).1
  exact (List.getElem?_inj hlt hnames.of_map).mp (hi.trans hj.symm)

/-- However the transactions and others take turns and whatever fails, a transaction that
reports a success has created the account of its user, and one that skips its user has made
three calls that failed.  Either way its user can log in exactly if the account was there at
first, or somebody else has created it with the same password, or a request of the
transaction has created it. -/
theorem accounts_after_register {reader : UsersCsv.CsvReader} {numUsers : Int}
    {draws : GenerateUsers.Draws}
    (hsetup : UsersCsv.setup reader (GenerateUsers.generateUsers numUsers draws) = .ok users)
    {events : List (Event Nat Environment Action)}
    (hrun : (registrations M users start).system.run events = some w) {user : User}
    {succeeded : Bool} (hfinished : w.memory i = Phase.finished user succeeded) :
    users[i]? = some user ∧
      (succeeded = true -> Entry.created (some i) user ∈ w.shared.log) ∧
      (succeeded = false -> callsOf i user w.shared.log = 3 ∧
        failuresOf i w.shared.log = 3) ∧
      (M.account w.shared.server user.username = some user.password <->
        M.account start user.username = some user.password ∨
          Entry.created none user ∈ w.shared.log ∨
          Entry.created (some i) user ∈ w.shared.log) := by
  have hkept := registrationsKept_run hrun
  have hprogress := hkept.progress i
  rw [hfinished] at hprogress
  have huser : users[i]? = some user := by
    cases succeeded <;> exact hprogress.1
  refine ⟨huser, ?_, ?_, ?_⟩
  · intro hsucceeded
    subst hsucceeded
    exact hprogress.2
  · intro hsucceeded
    subst hsucceeded
    exact ⟨hprogress.2.2, hprogress.2.1⟩
  · rw [hkept.accounts user]
    apply or_congr_right
    constructor
    · intro hcreated
      rcases hcreated with ⟨_ | j, hmem⟩
      · exact Or.inl hmem
      · have hsame := eq_of_getElem?_users (UsersCsv.nodup_of_setup hsetup) huser
          (hkept.creators j user hmem)
        rw [hsame]
        exact Or.inr hmem
    · intro hcreated
      rcases hcreated with hmem | hmem
      · exact ⟨none, hmem⟩
      · exact ⟨some i, hmem⟩

end Transactions

/-!
# A sample
-/

def tableServer : AccountServer (String -> Option String) where
  account accounts name := accounts name
  register accounts user :=
    match accounts user.username with
    | some _ => none
    | none => some (Function.update accounts user.username (some user.password))
  free_of_register := by
    intro accounts accounts' user h
    split at h
    · cases h
    · assumption
  account_register_self := by
    intro accounts accounts' user h
    split at h
    · cases h
    · cases h
      exact Function.update_self ..
  account_register_of_ne := by
    intro accounts accounts' user name h hne
    split at h
    · cases h
    · cases h
      exact Function.update_of_ne hne ..

def firstUser : User :=
  { username := "user.000000", password := String.ofList (UsersCsv.samplePasswords.password 0) }

/-- The first request creates the account, but only after its call has failed. -/
def answerLost : List (Event Nat Environment Action) :=
  [Event.component 0 (Action.start true),
    Event.component 0 Action.register, Event.component 0 (Action.response false),
    Event.component 0 Action.register,
    Event.environment (Environment.register 0 firstUser),
    Event.component 0 (Action.response false),
    Event.environment (Environment.other { username := "admin", password := "secret" }),
    Event.component 0 Action.register, Event.component 0 (Action.response false)]

theorem accounts_after_register_answer_lost :
    exists users w,
      UsersCsv.setup UsersCsv.rfc4180
        (GenerateUsers.generateUsers 1 UsersCsv.samplePasswords) = .ok users ∧
      (registrations tableServer users fun _ => none).system.run answerLost = some w ∧
      users[0]? = some firstUser ∧ callsOf 0 firstUser w.shared.log = 3 ∧
      failuresOf 0 w.shared.log = 3 ∧
      tableServer.account w.shared.server firstUser.username = some firstUser.password := by
  have hsetup := UsersCsv.setup_generateUsers UsersCsv.rfc4180 1 UsersCsv.samplePasswords
  have hrun : exists w,
      (registrations tableServer
        ((GenerateUsers.users 1 UsersCsv.samplePasswords).map UsersCsv.userOf)
        fun _ => none).system.run answerLost = some w ∧
      w.memory 0 = Phase.finished firstUser false ∧
      Entry.created (some 0) firstUser ∈ w.shared.log :=
    ⟨_, rfl, rfl, by decide⟩
  rcases hrun with ⟨w, hrun, hfinished, hcreated⟩
  rcases accounts_after_register hsetup hrun hfinished with ⟨huser, _, hskipped, haccount⟩
  rcases hskipped rfl with ⟨hcalls, hfailures⟩
  exact ⟨_, w, hsetup, hrun, huser, hcalls, hfailures,
    haccount.mpr (Or.inr (Or.inr hcreated))⟩

end RegisterUsers
end MatrixGoose
