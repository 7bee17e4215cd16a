import Mathlib.Data.List.Basic

/-!
# Comma-separated values

Records of fields as text.  The writer quotes a field that has a special character in it;
the reader goes over the text one character at a time.
-/

namespace Foundation

namespace Csv

abbrev Field := List Char

abbrev Record := List Field

/-!
# Writing
-/

def special (c : Char) : Bool :=
  c = ',' || c = '"' || c = '\r' || c = '\n'

def escape (c : Char) : List Char :=
  if c = '"' then ['"', '"'] else [c]

def writeField (field : Field) : List Char :=
  if field.any special then '"' :: field.flatMap escape ++ ['"'] else field

def writeRecord : Record -> List Char
  | [] => "\r\n".toList
  | [field] => writeField field ++ "\r\n".toList
  | field :: rest => writeField field ++ ',' :: writeRecord rest

def write (records : List Record) : List Char :=
  records.flatMap writeRecord

/-!
# Reading
-/

inductive State
  | startRecord
  | startField
  | unquoted
  | quoted
  /-- Behind a quote in a quoted field. -/
  | quoteInQuoted
  deriving DecidableEq

/-- The records read, the fields of the record that is read, and the field that is read. -/
structure Reading where
  records : List Record
  record : Record
  field : Field
  state : State

namespace Reading

def start (records : List Record) : Reading where
  records := records
  record := []
  field := []
  state := State.startRecord

def endField (r : Reading) : Reading :=
  { r with record := r.record ++ [r.field], field := [], state := State.startField }

def endRecord (r : Reading) : Reading :=
  start (r.records ++ [r.record ++ [r.field]])

def add (r : Reading) (c : Char) (state : State) : Reading :=
  { r with field := r.field ++ [c], state := state }

def stepUnquoted (r : Reading) (c : Char) : Reading :=
  if c = ',' then r.endField
  else if c = '\r' ∨ c = '\n' then r.endRecord
  else r.add c State.unquoted

def step (r : Reading) (c : Char) : Reading :=
  match r.state with
  | State.startRecord =>
      -- Empty lines are no records.
      if c = '\r' ∨ c = '\n' then r
      else if c = '"' then { r with state := State.quoted }
      else r.stepUnquoted c
  | State.startField =>
      if c = '"' then { r with state := State.quoted } else r.stepUnquoted c
  | State.unquoted => r.stepUnquoted c
  | State.quoted =>
      if c = '"' then { r with state := State.quoteInQuoted } else r.add c State.quoted
  | State.quoteInQuoted =>
      if c = '"' then r.add c State.quoted else r.stepUnquoted c

def finish (r : Reading) : List Record :=
  match r.state with
  | State.startRecord => r.records
  | _ => r.records ++ [r.record ++ [r.field]]

end Reading

def readFrom (r : Reading) (text : List Char) : Reading :=
  text.foldl Reading.step r

def read (text : List Char) : List Record :=
  (readFrom (Reading.start []) text).finish

/-!
# A field is read as it was written
-/

theorem readFrom_append (r : Reading) (first second : List Char) :
    readFrom r (first ++ second) = readFrom (readFrom r first) second :=
  List.foldl_append

theorem readFrom_cons (r : Reading) (c : Char) (rest : List Char) :
    readFrom r (c :: rest) = readFrom (r.step c) rest := rfl

theorem not_special {c : Char} (h : special c = false) :
    c ≠ ',' ∧ c ≠ '"' ∧ c ≠ '\r' ∧ c ≠ '\n' := by
  simpa [special, and_assoc] using h

theorem stepUnquoted_of_not_special {c : Char} (h : special c = false) (r : Reading) :
    r.stepUnquoted c = r.add c State.unquoted := by
  rcases not_special h with ⟨hcomma, _, hreturn, hnewline⟩
  simp [Reading.stepUnquoted, hcomma, hreturn, hnewline]

theorem readFrom_unquoted {field : Field} (h : field.any special = false) (r : Reading)
    (hstate : r.state = State.unquoted) :
    readFrom r field = { r with field := r.field ++ field } := by
  induction field generalizing r with
  | nil => simp [readFrom]
  | cons c rest ih =>
      rw [List.any_cons, Bool.or_eq_false_iff] at h
      have hstep : r.step c = r.add c State.unquoted := by
        rw [Reading.step, hstate]
        exact stepUnquoted_of_not_special h.1 r
      rw [readFrom_cons, hstep, ih h.2 _ rfl]
      simp [Reading.add, hstate]

theorem readFrom_quoted (field : Field) (r : Reading) (hstate : r.state = State.quoted) :
    readFrom r (field.flatMap escape) = { r with field := r.field ++ field } := by
  induction field generalizing r with
  | nil => simp [readFrom]
  | cons c rest ih =>
      have hstep : readFrom r (escape c) = r.add c State.quoted := by
        unfold escape
        split
        · next hquote =>
            subst hquote
            simp [readFrom, Reading.step, hstate, Reading.add]
        · next hquote => simp [readFrom, Reading.step, hstate, hquote]
      rw [List.flatMap_cons, readFrom_append, hstep, ih _ rfl]
      simp [Reading.add, hstate]

/-- Between two fields of a record, or in front of the first one. -/
structure Fresh (r : Reading) : Prop where
  field : r.field = []
  state : r.state = State.startRecord ∨ r.state = State.startField

/-- A reading that has come to the end of a field. -/
structure Behind (r : Reading) (field : Field) (r' : Reading) : Prop where
  records : r'.records = r.records
  record : r'.record = r.record
  content : r'.field = field
  /-- Unless nothing was written, the next character is not the first one of a field. -/
  state : r'.state = State.unquoted ∨ r'.state = State.quoteInQuoted ∨
    field = [] ∧ r'.state = r.state

theorem behind_of_fresh {r : Reading} (h : Fresh r) (field : Field) :
    Behind r field (readFrom r (writeField field)) := by
  unfold writeField
  split
  · have hopen : r.step '"' = { r with state := State.quoted } := by
      rcases h.state with hstate | hstate
      · simp [Reading.step, hstate]
      · simp [Reading.step, hstate]
    rw [List.cons_append, readFrom_cons, hopen, readFrom_append,
      readFrom_quoted field _ rfl, h.field]
    simp only [List.nil_append, readFrom, List.foldl_cons, List.foldl_nil, Reading.step]
    exact ⟨rfl, rfl, rfl, Or.inr (Or.inl rfl)⟩
  · next hplain =>
      rw [Bool.not_eq_true] at hplain
      cases field with
      | nil => exact ⟨rfl, rfl, h.field, Or.inr (Or.inr ⟨rfl, rfl⟩)⟩
      | cons c rest =>
          rw [List.any_cons, Bool.or_eq_false_iff] at hplain
          rcases not_special hplain.1 with ⟨_, hquote, hreturn, hnewline⟩
          have hstep : r.step c = r.add c State.unquoted := by
            rcases h.state with hstate | hstate
            · simp [Reading.step, hstate, hquote, hreturn, hnewline,
                stepUnquoted_of_not_special hplain.1]
            · simp [Reading.step, hstate, hquote, stepUnquoted_of_not_special hplain.1]
          rw [readFrom_cons, hstep, readFrom_unquoted hplain.2 _ rfl]
          exact ⟨rfl, rfl, by simp [Reading.add, h.field], Or.inl rfl⟩

/-!
# A file is read as it was written
-/

theorem Behind.step_comma {r r' : Reading} {field : Field} (hr : Fresh r)
    (h : Behind r field r') :
    r'.step ',' =
      { records := r.records, record := r.record ++ [field], field := [],
        state := State.startField } := by
  have hend : r'.step ',' = r'.endField := by
    rcases h.state with hstate | hstate | ⟨_, hstate⟩
    · simp [Reading.step, hstate, Reading.stepUnquoted]
    · simp [Reading.step, hstate, Reading.stepUnquoted]
    · rcases hr.state with hr | hr <;>
        simp [Reading.step, hstate, hr, Reading.stepUnquoted]
  rw [hend, Reading.endField, h.records, h.record, h.content]

theorem Behind.readFrom_lineBreak {r r' : Reading} {field : Field}
    (h : Behind r field r') (hline : field ≠ [] ∨ r.state = State.startField) :
    readFrom r' "\r\n".toList = Reading.start (r.records ++ [r.record ++ [field]]) := by
  have hend : r'.step '\r' = r'.endRecord := by
    rcases h.state with hstate | hstate | ⟨hempty, hstate⟩
    · simp [Reading.step, hstate, Reading.stepUnquoted]
    · simp [Reading.step, hstate, Reading.stepUnquoted]
    · rcases hline with hline | hline
      · exact absurd hempty hline
      · simp [Reading.step, hstate, hline, Reading.stepUnquoted]
  show (r'.step '\r').step '\n' = _
  rw [hend, Reading.endRecord, h.records, h.record, h.content]
  rfl

theorem readFrom_writeRecord {r : Reading} (hr : Fresh r) {record : Record}
    (hne : record ≠ []) (hline : record ≠ [[]] ∨ r.state = State.startField) :
    readFrom r (writeRecord record) =
      Reading.start (r.records ++ [r.record ++ record]) := by
  induction record generalizing r with
  | nil => exact absurd rfl hne
  | cons field rest ih =>
      have hbehind := behind_of_fresh hr field
      cases rest with
      | nil =>
          have hfield : field ≠ [] ∨ r.state = State.startField := by
            rcases hline with h | h
            · left
              intro hempty
              rw [hempty] at h
              exact h rfl
            · exact Or.inr h
          rw [writeRecord, readFrom_append]
          exact hbehind.readFrom_lineBreak hfield
      | cons next rest =>
          rw [writeRecord, readFrom_append, readFrom_cons, hbehind.step_comma hr,
            ih ⟨rfl, Or.inr rfl⟩ (List.cons_ne_nil next rest) (Or.inr rfl)]
          · simp
          · exact nofun

def HasLine (record : Record) : Prop :=
  record ≠ [] ∧ record ≠ [[]]

theorem readFrom_write {records : List Record}
    (h : forall record, record ∈ records -> HasLine record) (before : List Record) :
    readFrom (Reading.start before) (write records) = Reading.start (before ++ records) := by
  induction records generalizing before with
  | nil => simp [write, readFrom]
  | cons record rest ih =>
      have hrecord := h record List.mem_cons_self
      rw [write, List.flatMap_cons, readFrom_append,
        readFrom_writeRecord ⟨rfl, Or.inl rfl⟩ hrecord.1 (Or.inl hrecord.2)]
      have hrest := ih (fun other hmem => h other (List.mem_cons_of_mem record hmem))
        (before ++ [record])
      rw [List.append_assoc] at hrest
      exact hrest

/-- Whatever characters the fields are made of, a file is read as it was written. -/
theorem read_write {records : List Record}
    (h : forall record, record ∈ records -> HasLine record) :
    read (write records) = records := by
  rw [read, readFrom_write h]
  rfl

end Csv

end Foundation
