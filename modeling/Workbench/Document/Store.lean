import Workbench.Document.Status

/-!
# The document store

The state of the three documents: their texts and statuses, and for each draft a snapshot of the
text that the service last found valid. Changing a draft's text drops its snapshot. A draft that is
written is the only part of the store that changes, and each way of writing it comes down to setting
the draft as a whole.
-/
namespace Workbench.Document

/-- A document that the user writes. -/
structure DraftState where
  text : String
  /-- The text that was found valid, while it is still there. -/
  snapshot : Option String
  status : Status
  deriving DecidableEq, Repr

/-- The documents of a session. -/
structure Store where
  input : DraftState := { text := "", snapshot := none, status := .ready }
  spec : DraftState := { text := "", snapshot := none, status := .required }
  outputText : String := ""
  outputStatus : Status := .ready
  /-- Is a transform to start by itself once both drafts are valid? -/
  armed : Bool := false
  executionTime : Option Int := none
  rating : Option Rating := none
  deriving DecidableEq, Repr

namespace Store

def draft (s : Store) : Draft → DraftState
  | .input => s.input
  | .spec => s.spec

def setDraft (s : Store) (d : Draft) (st : DraftState) : Store :=
  match d with
  | .input => { s with input := st }
  | .spec => { s with spec := st }

@[simp]
theorem draft_setDraft (s : Store) (d e : Draft) (st : DraftState) :
    (s.setDraft d st).draft e = if d = e then st else s.draft e := by
  cases d <;> cases e <;> rfl

def text (s : Store) : Buffer → String
  | .input => s.input.text
  | .spec => s.spec.text
  | .output => s.outputText

/-- Replace a text; a draft loses its snapshot. -/
def setText (s : Store) (b : Buffer) (t : String) : Store :=
  match b.draft? with
  | some d => s.setDraft d { s.draft d with text := t, snapshot := none }
  | none => { s with outputText := t }

/-- The snapshot of a buffer; the output has none. -/
def snapshot (s : Store) (b : Buffer) : Option String :=
  b.draft?.bind fun d => (s.draft d).snapshot

def setSnapshot (s : Store) (d : Draft) (t : Option String) : Store :=
  s.setDraft d { s.draft d with snapshot := t }

/-- Set the snapshot of a buffer that has one. -/
def setSnapshot? (s : Store) (b : Buffer) (t : Option String) : Option Store :=
  b.draft?.map fun d => s.setSnapshot d t

/-- Why the snapshot of the output cannot be set. -/
def noSnapshot : String := "output buffer has no validation snapshot"

def status (s : Store) : Buffer → Status
  | .input => s.input.status
  | .spec => s.spec.status
  | .output => s.outputStatus

def setStatus (s : Store) (b : Buffer) (st : Status) : Store :=
  match b.draft? with
  | some d => s.setDraft d { s.draft d with status := st }
  | none => { s with outputStatus := st }

/-- Is there a snapshot, and is it not empty? -/
def hasSnapshot (s : Store) (d : Draft) : Bool :=
  match (s.draft d).snapshot with
  | some t => !t.isEmpty
  | none => false

/-- Are both drafts valid as they stand? -/
def bothValid (s : Store) : Bool := s.hasSnapshot .input && s.hasSnapshot .spec

/-- Read a store out of the members of an object. -/
def read (ms : Json.Members) : Record.Checked Store :=
  let text (name : String) := Record.defaulted { name } Record.readString "" ms
  let snapshot (name : String) :=
    Record.defaulted { name } (Record.optional Record.readString) none ms
  let status (name : String) (value : Status) :=
    Record.defaulted { name } (Record.ofObject Status.read) value ms
  (fun it st ot vi vs armed is ss os time rating =>
      { input := ⟨it, vi, is⟩, spec := ⟨st, vs, ss⟩, outputText := ot, outputStatus := os, armed,
        executionTime := time, rating : Store })
    <$> text "input_text" <*> text "spec_text" <*> text "output_text"
    <*> snapshot "last_valid_input" <*> snapshot "last_valid_spec"
    <*> Record.defaulted { name := "auto_transform_armed" } Record.readBool false ms
    <*> status "input_status" .ready <*> status "spec_status" .required
    <*> status "output_status" .ready
    <*> Record.defaulted { name := "execution_time_ms" } (Record.optional Record.readInt) none ms
    <*> Record.defaulted { name := "complexity" }
          (Record.optional (Record.readNamed Rating.named?)) none ms

end Store

/-! ## Writing into the store -/

@[simp]
theorem draft?_buffer (d : Draft) : d.buffer.draft? = some d := by
  cases d <;> rfl

namespace Store

@[simp]
theorem setDraft_draft (s : Store) (d : Draft) : s.setDraft d (s.draft d) = s := by
  cases d <;> rfl

@[simp]
theorem setDraft_setDraft (s : Store) (d : Draft) (a b : DraftState) :
    (s.setDraft d a).setDraft d b = s.setDraft d b := by
  cases d <;> rfl

@[simp]
theorem armed_setDraft (s : Store) (d : Draft) (a : DraftState) :
    (s.setDraft d a).armed = s.armed := by
  cases d <;> rfl

@[simp]
theorem outputText_setDraft (s : Store) (d : Draft) (a : DraftState) :
    (s.setDraft d a).outputText = s.outputText := by
  cases d <;> rfl

@[simp]
theorem outputStatus_setDraft (s : Store) (d : Draft) (a : DraftState) :
    (s.setDraft d a).outputStatus = s.outputStatus := by
  cases d <;> rfl

theorem setText_buffer (s : Store) (d : Draft) (t : String) :
    s.setText d.buffer t = s.setDraft d { s.draft d with text := t, snapshot := none } := by
  simp [setText]

theorem setStatus_buffer (s : Store) (d : Draft) (st : Status) :
    s.setStatus d.buffer st = s.setDraft d { s.draft d with status := st } := by
  simp [setStatus]

theorem bothValid_eq_true {s : Store} (h : s.bothValid = true) (d : Draft) :
    ∃ t, (s.draft d).snapshot = some t ∧ t.isEmpty = false := by
  have hd : s.hasSnapshot d = true := by
    simp only [bothValid, Bool.and_eq_true] at h
    cases d
    · exact h.1
    · exact h.2
  unfold hasSnapshot at hd
  split at hd
  · rename_i t ht
    exact ⟨t, ht, by simpa using hd⟩
  · cases hd

theorem bothValid_of_snapshot_none {s : Store} {d : Draft} (h : (s.draft d).snapshot = none) :
    s.bothValid = false := by
  cases hb : s.bothValid with
  | false => rfl
  | true =>
    obtain ⟨t, ht, -⟩ := bothValid_eq_true hb d
    rw [h] at ht
    cases ht

end Store

end Workbench.Document
