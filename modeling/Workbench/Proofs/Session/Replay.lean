import Workbench.Proofs.Service.Sending
import Workbench.Proofs.Session.Shift

/-!
# Sessions read off their histories

All that becomes of the documents is entered in the history: what has happened to a new session
tells what its documents are and how many transforms have begun. What can be entered next depends
only on the documents and on what the activities have in hand. So what is to be shown of documents
and history is shown of the possible histories, with no session left in them.
-/
namespace Workbench.Session

open Document (Draft Store)
open Service (Reaction TransformRequest)

variable {V : Type} {view : View V}

/-- The documents, and the number of the latest transform. -/
structure Documents where
  store : Store
  latest : Nat

def documents (s : Session V) : Documents := ⟨s.store, s.generation⟩

namespace Documents

/-- The documents of a new session. -/
def new (armed : Bool) : Documents := ⟨{ armed }, 0⟩

/-- The documents after something has happened. -/
def next (x : Documents) : Happening → Documents
  | .edited _ d text => { x with store := x.store.setDraft d (freshDraft d text) }
  | .switched armed => { x with store := { x.store with armed } }
  | .judged d text result => { x with store := heard d text result x.store }
  | .began generation _ => ⟨transforming x.store, generation⟩
  | .answered generation result =>
    if generation = x.latest then { x with store := transformed result x.store } else x
  | _ => x

/-- The documents after all that has happened. -/
def after (x : Documents) (history : List Happening) : Documents := history.foldl next x

@[simp]
theorem after_nil (x : Documents) : x.after [] = x := rfl

@[simp]
theorem after_cons (x : Documents) (h : Happening) (hs : List Happening) :
    x.after (h :: hs) = (x.next h).after hs := rfl

theorem after_append (x : Documents) (hs hs' : List Happening) :
    x.after (hs ++ hs') = (x.after hs).after hs' := List.foldl_append

/-- Is a transform to start by itself? -/
def isPrimed (x : Documents) : Bool := x.store.armed && x.store.bothValid

/-- The request that the drafts make. -/
def request (x : Documents) : TransformRequest := .ofDrafts x.store.input.text x.store.spec.text

/-- A transform is due when it is to start by itself after something has happened, and was not
before. -/
def handAfter (x : Documents) (h : Happening) : Hand :=
  if (x.next h).isPrimed && !x.isPrimed then .owing else .free

end Documents

/-! ## Possible histories -/

/-- Where something stands in a history that has grown. -/
theorem append_eq_append_cons {α : Type} {xs ys before after : List α} {a : α}
    (h : xs ++ ys = before ++ a :: after) :
    (∃ rest, xs = before ++ a :: rest ∧ after = rest ++ ys) ∨
      ∃ rest, before = xs ++ rest ∧ ys = rest ++ a :: after := by
  obtain ⟨rest, hbefore, hys⟩ | ⟨rest, hxs, hafter⟩ := List.append_eq_append_iff.mp h
  · exact .inr ⟨rest, hbefore, hys⟩
  · cases rest with
    | nil => exact .inr ⟨[], by simpa using hxs.symm, hafter.symm⟩
    | cons b rest =>
      obtain ⟨rfl, rfl⟩ := List.cons.inj hafter
      exact .inl ⟨rest, hxs, rfl⟩

theorem singleton_eq_append_cons {α : Type} {before after : List α} {a b : α} :
    [b] = before ++ a :: after ↔ before = [] ∧ b = a ∧ after = [] := by
  cases before <;> simp [eq_comm]

/-- What an activity enters in the history while the documents are so, with what it has in hand
before and after. -/
inductive Entry (view : View V) (x : Documents) : Hand → List Happening → Hand → Prop
  | nothing (k) : Entry view x k [] k
  | edit (k time d text) : Entry view x k [.edited time d text] k
  | overtake (k d) : Entry view x k [.overtook d] k
  | close (k dropped) : Entry view x k [.closed dropped] k
  | switch (armed) : Entry view x .free [.switched armed] (x.handAfter (.switched armed))
  | take (a) (h : a.isFair = true) : Entry view x .free [] (Stage.start a).hand
  | send {k c sent} (reply) (hk : k.call? = some c ∨ k = .free)
      (h : c.request? = some sent.outgoing.request) :
      Entry view x k [.sent sent reply] (k.sent reply.reaction)
  | refuse {k c} (f) (hk : k.call? = some c ∨ k = .free) : Entry view x k [.refused c f] .free
  | hear (d text r) :
      Entry view x (.judging d text r) [.judged d text (Service.Client.readVerdict d r).2]
        (x.handAfter (.judged d text (Service.Client.readVerdict d r).2))
  | begin (h : missing? x.store = none) :
      Entry view x .free [.began (x.latest + 1) x.request] (.calling (x.latest + 1) x.request)
  | trigger (hx : x.isPrimed = true) (h : missing? x.store = none) :
      Entry view x .owing [.triggered, .began (x.latest + 1) x.request]
        (.calling (x.latest + 1) x.request)
  | warn (hx : x.isPrimed = true) (h : missing? x.store ≠ none) :
      Entry view x .owing [.triggered] .free
  | conclude (g r) :
      Entry view x (.awaiting g r) [.answered g (Service.Client.readOutcome r).2] .free
  | drop (k) (h : View.CanBreak view) : Entry view x k [] .free

/-- The possible histories with what is in hand after them, where the documents were so at first. -/
inductive IsPossible (view : View V) (start : Documents) : List Happening → Hands → Prop
  | new : IsPossible view start [] 0
  | enter {history H role k new k'} (h : IsPossible view start history (Hands.add H role k))
      (hentry : Entry view (start.after history) k new k') :
      IsPossible view start (history ++ new) (Hands.add H role k')
  | fire {history H} (h : IsPossible view start history H) (d text) :
      IsPossible view start history (Hands.add H .validation (.asking d text))

/-! ## Sessions have possible histories -/

theorem documents_congr {s t : Session V} (hstore : t.store = s.store)
    (hgeneration : t.generation = s.generation) : t.documents = s.documents := by
  rw [documents, documents, hstore, hgeneration]

theorem handAfter_eq_documents {s t : Session V} {h : Happening}
    (ht : t.documents = s.documents.next h) : t.handAfter s = s.documents.handAfter h := by
  have hprimed : t.isPrimed = t.documents.isPrimed := rfl
  unfold handAfter Documents.handAfter
  rw [hprimed, ht]
  rfl

theorem documents_putText (s : Session V) (d : Draft) (text : String) :
    (s.putText d text).documents = s.documents.next (.edited s.board.now d text) := by
  rw [documents, store_putText, generation_putText]
  rfl

theorem documents_hearOutcome (s : Session V) (generation : Nat)
    (result : Except Failure Service.Outcome) :
    (s.hearOutcome generation result).documents = s.documents.next (.answered generation result) := by
  have hstore := store_hearOutcome s generation result
  have hgeneration : (s.hearOutcome generation result).generation = s.generation := rfl
  unfold documents Documents.next
  rw [hstore, hgeneration]
  dsimp only
  split <;> rfl

/-- Whatever a move does to the documents is entered in the history. -/
theorem Move.entry {s t : Session V} {k k' : Hand} (h : Move view (s, k) (t, k')) :
    ∃ new, t.history = s.history ++ new ∧ t.documents = s.documents.after new ∧
      Entry view s.documents k new k' := by
  -- nothing is entered, and the documents stay as they are
  have hstill {t : Session V} {k' : Hand} (hhistory : t.history = s.history)
      (hdocuments : t.documents = s.documents) (hentry : Entry view s.documents k [] k') :
      ∃ new, t.history = s.history ++ new ∧ t.documents = s.documents.after new ∧
        Entry view s.documents k new k' :=
    ⟨[], by rw [hhistory, List.append_nil], hdocuments, hentry⟩
  cases h with
  | quiet _ hq => exact hstill hq.history (documents_congr hq.store hq.generation) (.nothing k)
  | spawn _ role plan hp hq =>
    exact hstill hq.history (documents_congr hq.store hq.generation) (.nothing k)
  | edit _ _ d text => exact ⟨_, history_putText s d text, documents_putText s d text, .edit ..⟩
  | overtake => exact ⟨_, rfl, rfl, .overtake ..⟩
  | close => exact ⟨_, history_close s, rfl, .close ..⟩
  | arm _ armed =>
    refine ⟨_, history_switch s armed, rfl, ?_⟩
    rw [handAfter_eq_documents (h := .switched armed) rfl]
    exact .switch armed
  | take _ a ha => exact hstill rfl rfl (.take a ha)
  | send hk h => exact ⟨_, rfl, rfl, .send _ hk (Service.Client.request_of_send h)⟩
  | refuse hk h => exact ⟨_, rfl, rfl, .refuse _ hk⟩
  | hear _ d text r =>
    refine ⟨_, history_hearVerdict .., rfl, ?_⟩
    rw [handAfter_eq_documents (h := .judged d text (Service.Client.readVerdict d r).2) rfl]
    exact .hear d text r
  | begin h => exact ⟨_, history_begin s, rfl, .begin h⟩
  | trigger hs h => exact ⟨_, List.append_assoc .., rfl, .trigger hs h⟩
  | warn hs h => exact ⟨_, rfl, rfl, .warn hs h⟩
  | conclude _ g r =>
    exact ⟨_, history_hearOutcome .., documents_hearOutcome .., .conclude g r⟩
  | drop _ _ hk h => exact hstill rfl rfl (.drop k h)

/-- The documents of a session, its history and what is in hand belong together. -/
structure IsRecorded (view : View V) (start : Documents) (x : Session V × Hands) : Prop where
  documents : x.1.documents = start.after x.1.history
  possible : IsPossible view start x.1.history x.2

theorem IsRecorded.shift {start : Documents} {x y : Session V × Hands}
    (hx : IsRecorded view start x) (h : Shift view x y) : IsRecorded view start y := by
  cases h with
  | move H role h =>
    obtain ⟨new, hhistory, hdocuments, hentry⟩ := h.entry
    have hbefore := hx.documents
    dsimp only at hbefore
    rw [hbefore] at hdocuments hentry
    refine ⟨?_, ?_⟩
    · dsimp only
      rw [hhistory, hdocuments, Documents.after_append]
    · dsimp only
      rw [hhistory]
      exact hx.possible.enter hentry
  | fire H hwork hq =>
    refine ⟨?_, ?_⟩
    · dsimp only
      rw [hq.history, documents_congr hq.store hq.generation]
      exact hx.documents
    · dsimp only
      rw [hq.history]
      exact hx.possible.fire _ _
  | board H hq =>
    refine ⟨?_, ?_⟩
    · dsimp only
      rw [hq.history, documents_congr hq.store hq.generation]
      exact hx.documents
    · dsimp only
      rw [hq.history]
      exact hx.possible

theorem IsRecorded.shifts {start : Documents} {x y : Session V × Hands}
    (hx : IsRecorded view start x) (h : Shifts view x y) : IsRecorded view start y := by
  induction h with
  | refl => exact hx
  | tail _ hstep ih => exact ih.shift hstep

theorem isRecorded_new (settings : Settings) (window : Nat) (armed : Bool) (client : Service.Client)
    (server : Service.Server) (ownsClient watched : Bool) (v : V) :
    IsRecorded view (.new armed)
      (.new settings window armed client server ownsClient watched v, 0) := ⟨rfl, .new⟩

theorem Run.isRecorded {settings : Settings} {window : Nat} {armed : Bool} {client : Service.Client}
    {server : Service.Server} {ownsClient watched : Bool} {v : V} {s : Session V}
    (h : Run view (.new settings window armed client server ownsClient watched v) s) :
    IsRecorded view (.new armed) (s, s.hands) :=
  (isRecorded_new ..).shifts (h.byShifts (isOrderly_new ..)).2

theorem Attained.isRecorded {x : Session V × Hands} (hx : Attained view x) :
    ∃ armed, IsRecorded view (.new armed) x := by
  induction hx with
  | new settings window armed => exact ⟨armed, isRecorded_new ..⟩
  | shift _ h ih =>
    obtain ⟨armed, ih⟩ := ih
    exact ⟨armed, ih.shift h⟩

end Workbench.Session
