import Workbench.Document.Store
import Workbench.Proofs.Coalescing.Scheduler
import Workbench.Session.Action

/-!
# What the steps of a session change

For each step that changes documents, timers or the history: what becomes of a draft, of the timers,
of the output and of the history.
-/
namespace Workbench.Session

/-! ## One draft at a time

What a session does to a draft, told of the draft alone: it gets a text, or the validation of a text
ends. The other draft is left as it is. -/

open Document (Draft DraftState Status Store)
open Service (Verdict)

variable {V : Type}

/-- A draft that has just got a text. -/
def freshDraft (d : Draft) (text : String) : DraftState :=
  { text, snapshot := none, status := if Text.isBlank text then .ofBlank d else .validating }

/-- A draft after the validation of its text has ended. -/
def judgedDraft (d : Draft) (st : DraftState) : Except Failure Verdict → DraftState
  | .ok v =>
    if v.valid then { st with snapshot := some st.text, status := validStatus v }
    else { st with snapshot := none, status := .error "Error" v.detail? }
  | .error (.transport _ reason) =>
    { st with snapshot := none, status := .error "Validation Error" (some (faultDetail d reason)) }
  | .error _ => st

@[simp]
theorem text_judgedDraft (d : Draft) (st : DraftState) (result : Except Failure Verdict) :
    (judgedDraft d st result).text = st.text := by
  unfold judgedDraft
  split
  · split <;> rfl
  · rfl
  · rfl

theorem heard_eq (d : Draft) (text : String) (result : Except Failure Verdict) (s : Store) :
    heard d text result s =
      if (s.draft d).text = text then s.setDraft d (judgedDraft d (s.draft d) result) else s := by
  unfold heard
  split
  case isTrue h =>
    cases result with
    | ok v =>
      dsimp only [judgedDraft, judged]
      cases v.valid
      · simp [Store.setSnapshot, Store.setStatus_buffer]
      · simp [Store.setSnapshot, Store.setStatus_buffer, h]
    | error f =>
      cases f with
      | transport endpoint reason =>
        simp [judgedDraft, unjudged, Store.setSnapshot, Store.setStatus_buffer]
      | _ => simp [judgedDraft]
  case isFalse => rfl

/-- A new text changes the draft, its timer and the history. A note says so if it replaces one that
waits. -/
theorem putText_eq (d : Draft) (text : String) (s : Session V) :
    ∃ journal, s.putText d text =
      { s with
        store := s.store.setDraft d (freshDraft d text)
        scheduler :=
          (if Text.isBlank text then s.scheduler.cancel d s.board
            else s.scheduler.schedule d text s.board).1
        board :=
          (if Text.isBlank text then s.scheduler.cancel d s.board
            else s.scheduler.schedule d text s.board).2
        history := s.history ++ [.edited s.board.now d text]
        journal } := by
  have hstore (status : Status) :
      ((s.store.setText d.buffer text).setSnapshot d none).setStatus d.buffer status =
        s.store.setDraft d { text, snapshot := none, status } := by
    simp [Store.setText_buffer, Store.setSnapshot, Store.setStatus_buffer]
  unfold putText expectVerdict freshDraft
  cases Text.isBlank text
  · rw [← hstore]
    simp only [Bool.false_eq_true, if_false]
    split <;> exact ⟨_, rfl⟩
  · rw [← hstore]
    exact ⟨_, rfl⟩

theorem store_putText (d : Draft) (text : String) (s : Session V) :
    (s.putText d text).store = s.store.setDraft d (freshDraft d text) := by
  obtain ⟨journal, h⟩ := putText_eq d text s
  rw [h]

end Workbench.Session

namespace Workbench.Session

open Coalescing (Scheduler)
open Document (Draft DraftState Store)
open Service (Outcome Verdict)

variable {V : Type} (s : Session V) (d e : Draft) (text : String)

/-! ## A new text -/

@[simp]
theorem draft_putText :
    (s.putText d text).store.draft e = if d = e then freshDraft d text else s.store.draft e := by
  rw [store_putText, Store.draft_setDraft]

@[simp]
theorem outputText_putText : (s.putText d text).store.outputText = s.store.outputText := by
  rw [store_putText, Store.outputText_setDraft]

@[simp]
theorem outputStatus_putText : (s.putText d text).store.outputStatus = s.store.outputStatus := by
  rw [store_putText, Store.outputStatus_setDraft]

theorem timers_putText :
    ((s.putText d text).scheduler, (s.putText d text).board) =
      if Text.isBlank text then s.scheduler.cancel d s.board
      else s.scheduler.schedule d text s.board := by
  obtain ⟨journal, h⟩ := putText_eq d text s
  rw [h]

theorem pending_putText :
    (s.putText d text).scheduler.pending =
      (s.scheduler.drop d).pending ++ if Text.isBlank text then [] else [(d, text)] := by
  have htimers := congrArg Prod.fst (timers_putText s d text)
  dsimp only at htimers
  rw [htimers]
  cases Text.isBlank text
  · rfl
  · exact (List.append_nil _).symm

@[simp]
theorem history_putText :
    (s.putText d text).history = s.history ++ [.edited s.board.now d text] := by
  obtain ⟨journal, h⟩ := putText_eq d text s
  rw [h]

@[simp]
theorem generation_putText : (s.putText d text).generation = s.generation := by
  obtain ⟨journal, h⟩ := putText_eq d text s
  rw [h]

theorem desk_putText :
    (s.putText d text).editors = s.editors ∧ (s.putText d text).attached = s.attached ∧
      (s.putText d text).known = s.known := by
  obtain ⟨journal, h⟩ := putText_eq d text s
  rw [h]
  exact ⟨rfl, rfl, rfl⟩

theorem board_putText :
    (s.putText d text).board =
      if Text.isBlank text then s.board.disarm d
      else (s.board.disarm d).arm s.scheduler.window d := by
  have htimers := congrArg Prod.snd (timers_putText s d text)
  dsimp only at htimers
  rw [htimers]
  split <;> rfl

theorem activities_putText : (s.putText d text).board.activities = s.board.activities := by
  rw [board_putText]
  split <;> rfl

theorem client_putText : (s.putText d text).client = s.client := by
  obtain ⟨journal, h⟩ := putText_eq d text s
  rw [h]

theorem finished_putText : (s.putText d text).finished = s.finished := by
  obtain ⟨journal, h⟩ := putText_eq d text s
  rw [h]

theorem ownsClient_putText : (s.putText d text).ownsClient = s.ownsClient := by
  obtain ⟨journal, h⟩ := putText_eq d text s
  rw [h]

theorem lastWarning_putText : (s.putText d text).lastWarning = s.lastWarning := by
  obtain ⟨journal, h⟩ := putText_eq d text s
  rw [h]

theorem window_putText : (s.putText d text).scheduler.window = s.scheduler.window := by
  have htimers := congrArg Prod.fst (timers_putText s d text)
  dsimp only at htimers
  rw [htimers]
  split <;> rfl

theorem work?_putText :
    (s.putText d text).scheduler.work? e =
      if d = e then if Text.isBlank text then none else some text
      else s.scheduler.work? e := by
  unfold Scheduler.work?
  rw [pending_putText, List.lookup_append]
  have hdrop : (s.scheduler.drop d).pending.lookup e = (s.scheduler.drop d).work? e := rfl
  by_cases he : d = e
  · subst he
    rw [hdrop, Scheduler.work?_drop_self, if_pos rfl]
    cases Text.isBlank text <;> simp
  · have hlast : (if Text.isBlank text then [] else [(d, text)]).lookup e = none := by
      split
      · rfl
      · have hne : (e == d) = false := by simpa using fun h : e = d => he h.symm
        simp [List.lookup_cons, hne]
    rw [hdrop, Scheduler.work?_drop_of_ne _ fun h => he h.symm, hlast, if_neg he,
      Option.or_none]
    rfl

/-! ## Editors -/

/-- Nothing is told to a buffer without an editor. -/
theorem syncEditor_of_none {b : Document.Buffer} (h : s.attached b = none) :
    s.syncEditor b text = s := by
  unfold syncEditor
  rw [h]

theorem store_syncEditor (b : Document.Buffer) : (s.syncEditor b text).store = s.store := by
  unfold syncEditor
  split
  · rfl
  split
  · rfl
  split
  · rfl
  · dsimp only
    split <;> rfl

theorem store_overwrite : (s.overwrite d text).store = s.store := by
  unfold overwrite
  dsimp only
  rw [store_syncEditor]
  split <;> rfl

/-! ## A verdict -/

section Verdict

variable (result : Except Failure Verdict)

theorem store_hearVerdict : (s.hearVerdict d text result).store = heard d text result s.store := rfl

theorem draft_hearVerdict :
    (s.hearVerdict d text result).store.draft e =
      if d = e ∧ (s.store.draft e).text = text then judgedDraft e (s.store.draft e) result
      else s.store.draft e := by
  rw [store_hearVerdict, heard_eq]
  by_cases he : d = e
  · subst he
    by_cases htext : (s.store.draft d).text = text <;> simp [htext]
  · split <;> simp [he]

@[simp]
theorem text_hearVerdict :
    ((s.hearVerdict d text result).store.draft e).text = (s.store.draft e).text := by
  rw [draft_hearVerdict]
  split
  · exact text_judgedDraft ..
  · rfl

@[simp]
theorem armed_hearVerdict : (s.hearVerdict d text result).store.armed = s.store.armed := by
  rw [store_hearVerdict, heard_eq]
  split <;> simp

@[simp]
theorem outputText_hearVerdict :
    (s.hearVerdict d text result).store.outputText = s.store.outputText := by
  rw [store_hearVerdict, heard_eq]
  split <;> simp

@[simp]
theorem outputStatus_hearVerdict :
    (s.hearVerdict d text result).store.outputStatus = s.store.outputStatus := by
  rw [store_hearVerdict, heard_eq]
  split <;> simp

@[simp]
theorem history_hearVerdict :
    (s.hearVerdict d text result).history = s.history ++ [.judged d text result] := rfl

end Verdict

/-! ## A transform -/

@[simp]
theorem draft_begin : s.begin.store.draft d = s.store.draft d := by
  cases d <;> rfl

@[simp]
theorem history_begin :
    s.begin.history = s.history ++ [.began (s.generation + 1) s.request] := rfl

@[simp]
theorem draft_transformed (result : Except Failure Outcome) (st : Store) :
    (transformed result st).draft d = st.draft d := by
  unfold transformed
  split
  · split <;> cases d <;> rfl
  · cases d <;> rfl
  · rfl

@[simp]
theorem armed_transformed (result : Except Failure Outcome) (st : Store) :
    (transformed result st).armed = st.armed := by
  unfold transformed
  split
  · split <;> rfl
  · rfl
  · rfl

theorem store_hearOutcome (generation : Nat) (result : Except Failure Outcome) :
    (s.hearOutcome generation result).store =
      if generation = s.generation then transformed result s.store else s.store := by
  unfold hearOutcome setStore
  split <;> rfl

@[simp]
theorem draft_hearOutcome (generation : Nat) (result : Except Failure Outcome) :
    (s.hearOutcome generation result).store.draft d = s.store.draft d := by
  rw [store_hearOutcome]
  split
  · exact draft_transformed ..
  · rfl

@[simp]
theorem armed_hearOutcome (generation : Nat) (result : Except Failure Outcome) :
    (s.hearOutcome generation result).store.armed = s.store.armed := by
  rw [store_hearOutcome]
  split
  · exact armed_transformed ..
  · rfl

@[simp]
theorem history_hearOutcome (generation : Nat) (result : Except Failure Outcome) :
    (s.hearOutcome generation result).history = s.history ++ [.answered generation result] := rfl

/-! ## Arming and closing -/

@[simp]
theorem draft_switch (armed : Bool) : (s.switch armed).store.draft d = s.store.draft d := by
  cases d <;> rfl

@[simp]
theorem history_switch (armed : Bool) :
    (s.switch armed).history = s.history ++ [.switched armed] := rfl

@[simp]
theorem history_close : s.close.history = s.history ++ [.closed s.scheduler.pending] := rfl

end Workbench.Session
