import Mathlib.Data.List.Nodup
import Mathlib.Data.List.Perm.Subperm
import MatrixGoose.Foundation.Components
import MatrixGoose.Foundation.KeyedStore
import MatrixGoose.Foundation.Log

/-!
# Getting or uploading a filter

Any number of concurrent `get_or_upload_filter` calls of one client.  A call looks for the
id of the filter in the store, and uploads the definition if it finds none.  The store is
that of the base client; a log keeps what each call does.
-/

namespace MatrixGoose

open Foundation
open Foundation.Components

namespace FilterUpload

inductive Error
  | authenticationRequired
  | http
  | stateStore

section Calls

variable {Definition Store : Type}

inductive Entry (Definition : Type)
  /-- The store answers `get_filter`. -/
  | getFilter (i : Nat) (filterName : String) (filter : Option String)
  /-- `send` is called, which may perform its request several times. -/
  | send (i : Nat) (filterName : String) (definition : Definition)
  | response (i : Nat) (filterId : String)
  /-- `receive_filter_upload` has put the id into the store. -/
  | receiveFilterUpload (i : Nat) (filterName filterId : String)

structure Shared (Definition Store : Type) where
  /-- The client has a user id. -/
  loggedIn : Bool
  filters : Store
  log : List (Entry Definition)

inductive Phase (Definition : Type)
  | notStarted
  | getFilter (filterName : String) (definition : Definition)
  | notFound (filterName : String) (definition : Definition)
  | send (filterName : String) (definition : Definition)
  | receiveFilterUpload (filterName : String) (definition : Definition) (filterId : String)
  | returned (filterName : String) (result : Except Error String)

inductive Action (Definition : Type)
  | call (filterName : String) (definition : Definition)
  | getFilter (result : Except Error Unit)
  | send
  | response (result : Except Error String)
  | receiveFilterUpload (result : Except Error Unit)

def Shared.emit (shared : Shared Definition Store) (entry : Entry Definition) :
    Shared Definition Store :=
  { shared with log := shared.log ++ [entry] }

section Steps

variable (store : KeyedStore Store String String)

def getOrUploadFilter (i : Nat) (shared : Shared Definition Store) (phase : Phase Definition)
    (a : Action Definition) : Option (Shared Definition Store × Phase Definition) :=
  match a, phase with
  | Action.call filterName definition, Phase.notStarted =>
      some (shared, Phase.getFilter filterName definition)
  | Action.getFilter (.error error), Phase.getFilter filterName _ =>
      some (shared, Phase.returned filterName (.error error))
  | Action.getFilter (.ok _), Phase.getFilter filterName definition =>
      match store.get shared.filters filterName with
      | some filter =>
          some (shared.emit (Entry.getFilter i filterName (some filter)),
            Phase.returned filterName (.ok filter))
      | none =>
          some (shared.emit (Entry.getFilter i filterName none),
            Phase.notFound filterName definition)
  | Action.send, Phase.notFound filterName definition =>
      if shared.loggedIn then
        some (shared.emit (Entry.send i filterName definition),
          Phase.send filterName definition)
      else some (shared, Phase.returned filterName (.error Error.authenticationRequired))
  | Action.response (.error error), Phase.send filterName _ =>
      some (shared, Phase.returned filterName (.error error))
  | Action.response (.ok filterId), Phase.send filterName definition =>
      some (shared.emit (Entry.response i filterId),
        Phase.receiveFilterUpload filterName definition filterId)
  | Action.receiveFilterUpload (.error error), Phase.receiveFilterUpload filterName _ _ =>
      some (shared, Phase.returned filterName (.error error))
  | Action.receiveFilterUpload (.ok _),
      Phase.receiveFilterUpload filterName _ filterId =>
      let filters := store.add shared.filters filterName filterId
      some
        ({ shared with filters }.emit (Entry.receiveFilterUpload i filterName filterId),
          Phase.returned filterName (.ok filterId))
  | _, _ => none

def filterCalls (filters : Store) :
    Components Nat (Shared Definition Store) (Phase Definition) Unit (Action Definition) where
  initShared := { loggedIn := false, filters, log := [] }
  initMemory := fun _ => Phase.notStarted
  environment := fun shared _ => some { shared with loggedIn := true }
  step := getOrUploadFilter store

end Steps

abbrev FilterWorld (Definition Store : Type) :=
  World Nat (Shared Definition Store) (Phase Definition)

/-!
# What a step can do
-/

def Phase.running : Phase Definition -> Option String
  | Phase.getFilter filterName _ => some filterName
  | Phase.notFound filterName _ => some filterName
  | Phase.send filterName _ => some filterName
  | Phase.receiveFilterUpload filterName _ _ => some filterName
  | _ => none

inductive FilterStep (store : KeyedStore Store String String) (i : Nat) (filters : Store) :
    Phase Definition -> Store -> List (Entry Definition) -> Phase Definition -> Prop
  | call (filterName : String) (definition : Definition) :
      FilterStep store i filters Phase.notStarted filters []
        (Phase.getFilter filterName definition)
  | found {filterName filter : String} (definition : Definition)
      (hfound : store.get filters filterName = some filter) :
      FilterStep store i filters (Phase.getFilter filterName definition) filters
        [Entry.getFilter i filterName (some filter)]
        (Phase.returned filterName (.ok filter))
  | notFound {filterName : String} (definition : Definition)
      (hfound : store.get filters filterName = none) :
      FilterStep store i filters (Phase.getFilter filterName definition) filters
        [Entry.getFilter i filterName none] (Phase.notFound filterName definition)
  | request (filterName : String) (definition : Definition) :
      FilterStep store i filters (Phase.notFound filterName definition) filters
        [Entry.send i filterName definition] (Phase.send filterName definition)
  | response (filterName : String) (definition : Definition) (filterId : String) :
      FilterStep store i filters (Phase.send filterName definition) filters
        [Entry.response i filterId]
        (Phase.receiveFilterUpload filterName definition filterId)
  | saved (filterName : String) (definition : Definition) (filterId : String) :
      FilterStep store i filters (Phase.receiveFilterUpload filterName definition filterId)
        (store.add filters filterName filterId)
        [Entry.receiveFilterUpload i filterName filterId]
        (Phase.returned filterName (.ok filterId))
  | failed {phase : Phase Definition} {filterName : String} (error : Error)
      (hrunning : phase.running = some filterName) :
      FilterStep store i filters phase filters [] (Phase.returned filterName (.error error))

variable {store : KeyedStore Store String String}
variable {i : Nat} {shared shared' : Shared Definition Store} {phase phase' : Phase Definition}
variable {a : Action Definition}

theorem getOrUploadFilter_of_eq_some
    (hstep : getOrUploadFilter store i shared phase a = some (shared', phase')) :
    exists entries, shared'.log = shared.log ++ entries ∧
      FilterStep store i shared.filters phase shared'.filters entries phase' := by
  have hnothing : shared.log = shared.log ++ [] := (List.append_nil _).symm
  cases a with
  | call filterName definition =>
      cases phase <;> simp only [getOrUploadFilter, reduceCtorEq] at hstep
      cases hstep
      exact ⟨[], hnothing, FilterStep.call filterName definition⟩
  | getFilter result =>
      cases phase <;> cases result <;> simp only [getOrUploadFilter, reduceCtorEq] at hstep
      · next error =>
          cases hstep
          exact ⟨[], hnothing, FilterStep.failed error rfl⟩
      · next filterName definition _ =>
          cases hfound : store.get shared.filters filterName with
          | some filter =>
              rw [hfound] at hstep
              cases hstep
              exact ⟨_, rfl, FilterStep.found definition hfound⟩
          | none =>
              rw [hfound] at hstep
              cases hstep
              exact ⟨_, rfl, FilterStep.notFound definition hfound⟩
  | send =>
      cases phase <;> simp only [getOrUploadFilter, reduceCtorEq] at hstep
      next filterName definition =>
        split at hstep
        · cases hstep
          exact ⟨_, rfl, FilterStep.request filterName definition⟩
        · cases hstep
          exact ⟨[], hnothing, FilterStep.failed Error.authenticationRequired rfl⟩
  | response result =>
      cases phase <;> cases result <;> simp only [getOrUploadFilter, reduceCtorEq] at hstep
      · next error =>
          cases hstep
          exact ⟨[], hnothing, FilterStep.failed error rfl⟩
      · next filterName definition filterId =>
          cases hstep
          exact ⟨_, rfl, FilterStep.response filterName definition filterId⟩
  | receiveFilterUpload result =>
      cases phase <;> cases result <;> simp only [getOrUploadFilter, reduceCtorEq] at hstep
      · next error =>
          cases hstep
          exact ⟨[], hnothing, FilterStep.failed error rfl⟩
      · next filterName definition filterId _ =>
          cases hstep
          exact ⟨_, rfl, FilterStep.saved filterName definition filterId⟩

/-!
# What a call records
-/

def Entry.caller : Entry Definition -> Nat
  | Entry.getFilter i _ _ => i
  | Entry.send i _ _ => i
  | Entry.response i _ => i
  | Entry.receiveFilterUpload i _ _ => i

def entriesOf (i : Nat) (log : List (Entry Definition)) : List (Entry Definition) :=
  log.filter fun entry => entry.caller = i

def uploadEntries (i : Nat) (filterName : String) (definition : Definition)
    (filterId : String) : List (Entry Definition) :=
  [Entry.getFilter i filterName none, Entry.send i filterName definition,
    Entry.response i filterId, Entry.receiveFilterUpload i filterName filterId]

def Records (i : Nat) (entries : List (Entry Definition)) : Phase Definition -> Prop
  | Phase.notStarted => entries = []
  | Phase.getFilter _ _ => entries = []
  | Phase.notFound filterName _ => entries = [Entry.getFilter i filterName none]
  | Phase.send filterName definition =>
      entries = [Entry.getFilter i filterName none, Entry.send i filterName definition]
  | Phase.receiveFilterUpload filterName definition filterId =>
      entries =
        [Entry.getFilter i filterName none, Entry.send i filterName definition,
          Entry.response i filterId]
  | Phase.returned filterName (.ok filterId) =>
      entries = [Entry.getFilter i filterName (some filterId)] ∨
        exists definition, entries = uploadEntries i filterName definition filterId
  | Phase.returned _ (.error _) => True

variable {filters filters' : Store} {entries log : List (Entry Definition)}

theorem FilterStep.caller (hstep : FilterStep store i filters phase filters' entries phase') :
    forall entry, entry ∈ entries -> entry.caller = i := by
  cases hstep <;> simp [Entry.caller]

theorem FilterStep.entriesOf_self
    (hstep : FilterStep store i filters phase filters' entries phase') :
    entriesOf i (log ++ entries) = entriesOf i log ++ entries := by
  have hall : entries.filter (fun entry => entry.caller = i) = entries := by
    rw [List.filter_eq_self]
    intro entry hmem
    simp [hstep.caller entry hmem]
  rw [entriesOf, List.filter_append, hall]
  rfl

theorem FilterStep.entriesOf_of_ne
    (hstep : FilterStep store i filters phase filters' entries phase') {j : Nat} (hne : j ≠ i) :
    entriesOf j (log ++ entries) = entriesOf j log := by
  have hnone : entries.filter (fun entry => entry.caller = j) = [] := by
    rw [List.filter_eq_nil_iff]
    intro entry hmem
    simp [hstep.caller entry hmem, Ne.symm hne]
  rw [entriesOf, List.filter_append, hnone, List.append_nil]
  rfl

theorem FilterStep.records (hstep : FilterStep store i filters phase filters' entries phase')
    (hrecords : Records i (entriesOf i log) phase) :
    Records i (entriesOf i (log ++ entries)) phase' := by
  rw [hstep.entriesOf_self]
  cases hstep with
  | call filterName definition => exact List.append_eq_nil_iff.mpr ⟨hrecords, rfl⟩
  | found definition hfound =>
      have hnone : entriesOf i log = [] := hrecords
      rw [hnone]
      exact Or.inl rfl
  | notFound definition hfound =>
      have hnone : entriesOf i log = [] := hrecords
      rw [hnone]
      exact rfl
  | request filterName definition =>
      have hbefore : entriesOf i log = [Entry.getFilter i filterName none] := hrecords
      rw [hbefore]
      exact rfl
  | response filterName definition filterId =>
      have hbefore : entriesOf i log =
        [Entry.getFilter i filterName none, Entry.send i filterName definition] := hrecords
      rw [hbefore]
      exact rfl
  | saved filterName definition filterId =>
      have hbefore : entriesOf i log =
        [Entry.getFilter i filterName none, Entry.send i filterName definition,
          Entry.response i filterId] := hrecords
      rw [hbefore]
      exact Or.inr ⟨definition, rfl⟩
  | failed error hrunning => exact True.intro

/-!
# The store
-/

def Entry.savedAs (filterName : String) : Entry Definition -> Option String
  | Entry.receiveFilterUpload _ other filterId => if other = filterName then some filterId else none
  | _ => none

def savedFilter (filterName : String) (log : List (Entry Definition)) : Option String :=
  (log.filterMap (Entry.savedAs filterName)).getLast?

def Entry.uploader (filterName : String) : Entry Definition -> Option Nat
  | Entry.send i other _ => if other = filterName then some i else none
  | _ => none

def uploadersOf (filterName : String) (log : List (Entry Definition)) : List Nat :=
  log.filterMap (Entry.uploader filterName)

def Entry.misser (filterName : String) : Entry Definition -> Option Nat
  | Entry.getFilter i other none => if other = filterName then some i else none
  | _ => none

def missersOf (filterName : String) (log : List (Entry Definition)) : List Nat :=
  log.filterMap (Entry.misser filterName)

/-- The store answers with the id that was put into it last. -/
def Answered (before : List (Entry Definition)) : Entry Definition -> Prop
  | Entry.getFilter _ filterName filter => filter = savedFilter filterName before
  | _ => True

/-- A request is sent by a call that has found no filter and has sent none before. -/
def UploadsMissing (before : List (Entry Definition)) : Entry Definition -> Prop
  | Entry.send i filterName _ =>
      i ∈ missersOf filterName before ∧ i ∉ uploadersOf filterName before
  | _ => True

theorem mem_log_of_entriesOf {entry : Entry Definition}
    (hmem : entry ∈ entriesOf i log) : entry ∈ log :=
  (List.mem_filter.mp hmem).1

theorem mem_missersOf {filterName : String}
    (hentry : Entry.getFilter i filterName none ∈ log) : i ∈ missersOf filterName log :=
  List.mem_filterMap.mpr ⟨_, hentry, by simp [Entry.misser]⟩

theorem mem_entriesOf_of_uploadersOf {filterName : String}
    (hmem : i ∈ uploadersOf filterName log) :
    exists definition, Entry.send i filterName definition ∈ entriesOf i log := by
  rcases List.mem_filterMap.mp hmem with ⟨entry, hentry, huploader⟩
  cases entry with
  | send j other definition =>
      simp only [Entry.uploader, Option.ite_none_right_eq_some, Option.some.injEq] at huploader
      rcases huploader with ⟨rfl, rfl⟩
      exact ⟨definition, List.mem_filter.mpr ⟨hentry, by simp [Entry.caller]⟩⟩
  | _ => cases huploader

theorem FilterStep.keepsLog (hstep : FilterStep store i filters phase filters' entries phase')
    (hrecords : Records i (entriesOf i log) phase)
    (hsaved : forall filterName, store.get filters filterName = savedFilter filterName log)
    (hanswered : EachEntry Answered log) (huploads : EachEntry UploadsMissing log) :
    (forall filterName, store.get filters' filterName =
        savedFilter filterName (log ++ entries)) ∧
      EachEntry Answered (log ++ entries) ∧ EachEntry UploadsMissing (log ++ entries) := by
  cases hstep with
  | call filterName definition =>
      rw [List.append_nil]
      exact ⟨hsaved, hanswered, huploads⟩
  | failed error hrunning =>
      rw [List.append_nil]
      exact ⟨hsaved, hanswered, huploads⟩
  | found definition hfound =>
      rw [hsaved] at hfound
      refine ⟨?_, eachEntry_append_singleton.mpr ⟨hanswered, hfound.symm⟩,
        eachEntry_append_singleton.mpr ⟨huploads, True.intro⟩⟩
      intro filterName
      simp [hsaved, savedFilter, Entry.savedAs]
  | notFound definition hfound =>
      rw [hsaved] at hfound
      refine ⟨?_, eachEntry_append_singleton.mpr ⟨hanswered, hfound.symm⟩,
        eachEntry_append_singleton.mpr ⟨huploads, True.intro⟩⟩
      intro filterName
      simp [hsaved, savedFilter, Entry.savedAs]
  | request filterName definition =>
      have hbefore : entriesOf i log = [Entry.getFilter i filterName none] := hrecords
      have hmiss : i ∈ missersOf filterName log := by
        apply mem_missersOf
        apply mem_log_of_entriesOf (i := i)
        simp [hbefore]
      have hnew : i ∉ uploadersOf filterName log := by
        intro hmem
        rcases mem_entriesOf_of_uploadersOf hmem with ⟨other, hother⟩
        simp [hbefore] at hother
      refine ⟨?_, eachEntry_append_singleton.mpr ⟨hanswered, True.intro⟩,
        eachEntry_append_singleton.mpr ⟨huploads, hmiss, hnew⟩⟩
      intro filterName
      simp [hsaved, savedFilter, Entry.savedAs]
  | response filterName definition filterId =>
      refine ⟨?_, eachEntry_append_singleton.mpr ⟨hanswered, True.intro⟩,
        eachEntry_append_singleton.mpr ⟨huploads, True.intro⟩⟩
      intro filterName
      simp [hsaved, savedFilter, Entry.savedAs]
  | saved filterName definition filterId =>
      refine ⟨?_, eachEntry_append_singleton.mpr ⟨hanswered, True.intro⟩,
        eachEntry_append_singleton.mpr ⟨huploads, True.intro⟩⟩
      intro other
      rcases eq_or_ne other filterName with hname | hname
      · subst hname
        rw [store.get_add_self]
        simp [savedFilter, Entry.savedAs]
      · rw [store.get_add_of_ne _ _ _ _ hname, hsaved]
        simp [savedFilter, Entry.savedAs, Ne.symm hname]

def Uploaded (w : FilterWorld Definition Store) (filterName filterId : String) : Prop :=
  exists j definition, w.memory j = Phase.returned filterName (.ok filterId) ∧
    entriesOf j w.shared.log = uploadEntries j filterName definition filterId

structure FiltersKept (store : KeyedStore Store String String)
    (w : FilterWorld Definition Store) : Prop where
  records : Everywhere (fun i shared phase => Records i (entriesOf i shared.log) phase) w
  saved : forall filterName,
    store.get w.shared.filters filterName = savedFilter filterName w.shared.log
  answered : EachEntry Answered w.shared.log
  uploads : EachEntry UploadsMissing w.shared.log
  stored : forall filterName filterId, store.get w.shared.filters filterName = some filterId ->
    Uploaded w filterName filterId
  returned : forall i filterName filterId,
    w.memory i = Phase.returned filterName (.ok filterId) -> Uploaded w filterName filterId

theorem FilterStep.not_returned
    (hstep : FilterStep store i filters phase filters' entries phase') (filterName : String)
    (result : Except Error String) : phase ≠ Phase.returned filterName result := by
  intro hphase
  subst hphase
  cases hstep with
  | failed error hrunning => cases hrunning

variable {first : Store} {w w' : FilterWorld Definition Store}

theorem Uploaded.step {filterName filterId : String} (h : Uploaded w filterName filterId)
    (hstep : (filterCalls store first).worldStep w (Event.component i a) = some w') :
    Uploaded w' filterName filterId := by
  rcases h with ⟨j, definition, hmemory, hentries⟩
  rcases getOrUploadFilter_of_eq_some (step_of_worldStep hstep) with ⟨entries, hlog, hown⟩
  have hne : j ≠ i := by
    intro hj
    subst hj
    exact hown.not_returned filterName (.ok filterId) hmemory
  refine ⟨j, definition, ?_, ?_⟩
  · rw [memory_of_ne hstep hne]
    exact hmemory
  · rw [hlog, hown.entriesOf_of_ne hne]
    exact hentries

theorem FilterStep.stored_of_returned {filterName filterId : String}
    (hstep : FilterStep store i filters phase filters' entries
      (Phase.returned filterName (.ok filterId))) :
    store.get filters' filterName = some filterId := by
  cases hstep with
  | found definition hfound => exact hfound
  | saved _ definition _ => exact store.get_add_self _ _ _

theorem FilterStep.stored {filterName filterId : String}
    (hstep : FilterStep store i filters phase filters' entries phase')
    (hstored : store.get filters' filterName = some filterId) :
    store.get filters filterName = some filterId ∨
      phase' = Phase.returned filterName (.ok filterId) ∧
        exists definition, phase = Phase.receiveFilterUpload filterName definition filterId ∧
          entries = [Entry.receiveFilterUpload i filterName filterId] := by
  cases hstep with
  | saved other definition otherId =>
      rcases eq_or_ne filterName other with hname | hname
      · subst hname
        rw [store.get_add_self] at hstored
        cases hstored
        exact Or.inr ⟨rfl, definition, rfl, rfl⟩
      · rw [store.get_add_of_ne _ _ _ _ hname] at hstored
        exact Or.inl hstored
  | _ => exact Or.inl hstored

theorem filtersKept_component (hw : FiltersKept store w)
    (hstep : (filterCalls store first).worldStep w (Event.component i a) = some w') :
    FiltersKept store w' := by
  have hlocal := step_of_worldStep hstep
  rcases getOrUploadFilter_of_eq_some hlocal with ⟨entries, hlog, hown⟩
  have hrecords := hw.records i
  rcases hown.keepsLog hrecords hw.saved hw.answered hw.uploads with
    ⟨hsaved, hanswered, huploads⟩
  rw [← hlog] at hanswered huploads
  have hstored : forall filterName filterId,
      store.get w'.shared.filters filterName = some filterId ->
      Uploaded w' filterName filterId := by
    intro filterName filterId hfilter
    rcases hown.stored hfilter with hold | ⟨hreturned, definition, hphase, hentries⟩
    · exact (hw.stored filterName filterId hold).step hstep
    · have hbefore : entriesOf i w.shared.log =
          [Entry.getFilter i filterName none, Entry.send i filterName definition,
            Entry.response i filterId] := by
        rw [hphase] at hrecords
        exact hrecords
      refine ⟨i, definition, hreturned, ?_⟩
      rw [hlog, hown.entriesOf_self, hbefore, hentries]
      rfl
  refine ⟨?_, ?_, hanswered, huploads, hstored, ?_⟩
  · intro j
    rw [hlog]
    rcases eq_or_ne j i with rfl | hj
    · exact hown.records hrecords
    · rw [memory_of_ne hstep hj, hown.entriesOf_of_ne hj]
      exact hw.records j
  · intro filterName
    rw [hlog]
    exact hsaved filterName
  · intro j filterName filterId hreturned
    rcases memory_eq_or hstep j with h | ⟨b, h, _⟩
    · rw [h] at hreturned
      exact (hw.returned j filterName filterId hreturned).step hstep
    · cases h
      rw [hreturned] at hown
      exact hstored filterName filterId hown.stored_of_returned

theorem filtersKept_step {e : Event Nat Unit (Action Definition)} (hw : FiltersKept store w)
    (hstep : (filterCalls store first).worldStep w e = some w') : FiltersKept store w' := by
  cases e with
  | component i a => exact filtersKept_component hw hstep
  | environment login =>
      rcases worldStep_environment_eq_some.mp hstep with ⟨shared, hshared, rfl⟩
      cases hshared
      exact ⟨hw.records, hw.saved, hw.answered, hw.uploads, hw.stored, hw.returned⟩

theorem filtersKept_run {events : List (Event Nat Unit (Action Definition))}
    (hempty : forall filterName, store.get first filterName = none)
    (hrun : (filterCalls store first).system.run events = some w) : FiltersKept store w := by
  apply TransitionSystem.invariant_runFrom (P := FiltersKept store)
    (fun _ _ _ hw hstep => filtersKept_step hw hstep) ?_ hrun
  exact
    { records := fun _ => rfl
      saved := hempty
      answered := EachEntry.nil
      uploads := EachEntry.nil
      stored := fun filterName filterId hstored =>
        absurd ((hempty filterName).symm.trans hstored) nofun
      returned := nofun }

/-- Where the store has no filter at first, every id that a call returns is the answer of
the server to an upload of a filter of that name, by the call itself or by one whose answer
the call has found in the store. -/
theorem returned_filter_uploaded {events : List (Event Nat Unit (Action Definition))}
    (hempty : forall filterName, store.get first filterName = none)
    (hrun : (filterCalls store first).system.run events = some w) {filterName filterId : String}
    (hreturned : w.memory i = Phase.returned filterName (.ok filterId)) :
    exists j definition,
      entriesOf j w.shared.log = uploadEntries j filterName definition filterId ∧
        (j = i ∨
          entriesOf i w.shared.log = [Entry.getFilter i filterName (some filterId)]) := by
  have hkept := filtersKept_run hempty hrun
  have hrecords := hkept.records i
  rw [hreturned] at hrecords
  rcases hrecords with hfound | ⟨definition, huploaded⟩
  · rcases hkept.returned i filterName filterId hreturned with ⟨j, definition, _, hentries⟩
    exact ⟨j, definition, hentries, Or.inr hfound⟩
  · exact ⟨i, definition, huploaded, Or.inl rfl⟩

/-!
# How often a filter is uploaded
-/

theorem uploadersOf_append_singleton (filterName : String) (log : List (Entry Definition))
    (entry : Entry Definition) :
    uploadersOf filterName (log ++ [entry]) =
      uploadersOf filterName log ++ (entry.uploader filterName).toList := by
  rw [uploadersOf, List.filterMap_append]
  cases h : entry.uploader filterName <;> simp [uploadersOf, h]

theorem uploaders_nodup_subset (huploads : EachEntry UploadsMissing log)
    (filterName : String) :
    (uploadersOf filterName log).Nodup ∧
      uploadersOf filterName log ⊆ missersOf filterName log := by
  induction log using List.reverseRecOn with
  | nil => exact ⟨List.nodup_nil, List.nil_subset _⟩
  | append_singleton log entry ih =>
      rcases eachEntry_append_singleton.mp huploads with ⟨hlog, hentry⟩
      rcases ih hlog with ⟨hnodup, hsubset⟩
      have hmore : missersOf filterName log ⊆ missersOf filterName (log ++ [entry]) := by
        rw [missersOf, missersOf, List.filterMap_append]
        exact List.subset_append_left _ _
      rw [uploadersOf_append_singleton]
      cases huploader : entry.uploader filterName with
      | none =>
          rw [Option.toList_none, List.append_nil]
          exact ⟨hnodup, List.Subset.trans hsubset hmore⟩
      | some i =>
          cases entry with
          | send j other definition =>
              simp only [Entry.uploader, Option.ite_none_right_eq_some,
                Option.some.injEq] at huploader
              rcases huploader with ⟨rfl, rfl⟩
              rcases hentry with ⟨hmiss, hnew⟩
              constructor
              · rw [Option.toList_some, ← List.concat_eq_append]
                exact hnodup.concat hnew
              · intro k hk
                rcases List.mem_append.mp hk with h | h
                · exact hmore (hsubset h)
                · rw [List.mem_singleton.mp h]
                  exact hmore hmiss
          | _ => cases huploader

/-- The call has looked for the filter when no id was saved under its name. -/
def LooksBeforeSaves (before : List (Entry Definition)) : Entry Definition -> Prop
  | Entry.send i filterName _ =>
      exists earlier later,
        before = earlier ++ Entry.getFilter i filterName none :: later ∧
          savedFilter filterName earlier = none
  | _ => True

theorem mem_log_of_missersOf {filterName : String} (hmem : i ∈ missersOf filterName log) :
    Entry.getFilter i filterName none ∈ log := by
  rcases List.mem_filterMap.mp hmem with ⟨entry, hentry, hmisser⟩
  cases entry with
  | getFilter j other filter =>
      cases filter with
      | some filterId => cases hmisser
      | none =>
          simp only [Entry.misser, Option.ite_none_right_eq_some, Option.some.injEq] at hmisser
          rcases hmisser with ⟨rfl, rfl⟩
          exact hentry
  | _ => cases hmisser

theorem looksBeforeSaves_of_answered (hanswered : EachEntry Answered log)
    (huploads : EachEntry UploadsMissing log) : EachEntry LooksBeforeSaves log := by
  intro before entry after hsplit
  have hentry := huploads before entry after hsplit
  cases entry with
  | send i filterName definition =>
      rcases List.append_of_mem (mem_log_of_missersOf hentry.1) with ⟨earlier, later, hbefore⟩
      refine ⟨earlier, later, hbefore, ?_⟩
      have hlook := hanswered earlier (Entry.getFilter i filterName none)
        (later ++ Entry.send i filterName definition :: after) (by rw [hsplit, hbefore]; simp)
      exact hlook.symm
  | _ => exact True.intro

/-- However the calls take turns, a call uploads a filter only if it has looked for it
before any id was saved under its name, and `send` gets no more requests for a filter than
calls have missed it. -/
theorem uploads_subperm_misses {events : List (Event Nat Unit (Action Definition))}
    (hempty : forall filterName, store.get first filterName = none)
    (hrun : (filterCalls store first).system.run events = some w) :
    EachEntry LooksBeforeSaves w.shared.log ∧
      forall filterName, (uploadersOf filterName w.shared.log).Subperm
        (missersOf filterName w.shared.log) := by
  have hkept := filtersKept_run hempty hrun
  refine ⟨looksBeforeSaves_of_answered hkept.answered hkept.uploads, ?_⟩
  intro filterName
  rcases uploaders_nodup_subset hkept.uploads filterName with ⟨hnodup, hsubset⟩
  exact hnodup.subperm hsubset

/-- Two calls look for the same filter; the second one finds what the first one has
uploaded. -/
def twoCalls : List (Event Nat Unit (Action String)) :=
  [Event.environment (),
    Event.component 0 (Action.call "sync" "lazy"),
    Event.component 0 (Action.getFilter (.ok ())),
    Event.component 0 Action.send,
    Event.component 1 (Action.call "sync" "eager"),
    Event.component 0 (Action.response (.ok "f0")),
    Event.component 0 (Action.receiveFilterUpload (.ok ())),
    Event.component 1 (Action.getFilter (.ok ()))]

def filterStore : KeyedStore (String -> Option String) String String :=
  KeyedStore.ofFunction String String

theorem returned_filter_uploaded_two_calls :
    exists w, (filterCalls filterStore fun _ => none).system.run twoCalls = some w ∧
      exists j definition,
        entriesOf j w.shared.log = uploadEntries j "sync" definition "f0" ∧
          (j = 1 ∨ entriesOf 1 w.shared.log = [Entry.getFilter 1 "sync" (some "f0")]) := by
  have hrun : exists w, (filterCalls filterStore fun _ => none).system.run twoCalls = some w ∧
      w.memory 1 = Phase.returned "sync" (.ok "f0") := ⟨_, rfl, rfl⟩
  rcases hrun with ⟨w, hrun, hreturned⟩
  exact ⟨w, hrun, returned_filter_uploaded (fun _ => rfl) hrun hreturned⟩

theorem uploads_subperm_misses_two_calls :
    exists w, (filterCalls filterStore fun _ => none).system.run twoCalls = some w ∧
      EachEntry LooksBeforeSaves w.shared.log ∧
      forall filterName, (uploadersOf filterName w.shared.log).Subperm
        (missersOf filterName w.shared.log) := by
  have hrun : exists w,
      (filterCalls filterStore fun _ => none).system.run twoCalls = some w := ⟨_, rfl⟩
  rcases hrun with ⟨w, hrun⟩
  exact ⟨w, hrun, uploads_subperm_misses (fun _ => rfl) hrun⟩

end Calls

end FilterUpload
end MatrixGoose
