import Mathlib.Logic.Relation
import Workbench.Proofs.Turn.Board
import Workbench.Session.Run

/-!
# What a stretch of work can do

An activity works on a session until it has to wait. All it can do there to the documents, the
timers and the history is one of a few moves. Which of them come next depends only on what it has
in hand: a text to be validated, a verdict to be heard, a transform that is due or under way.
-/
namespace Workbench.Session

open Document (Buffer Draft Store)
open Service (Reaction TransformRequest)
open Turn (Task)

variable {V : Type}

/-- What an activity has in hand. -/
inductive Hand where
  | free
  /-- A text of a draft is to be validated. -/
  | asking (draft : Draft) (text : String)
  /-- The reply to the validation of a text is to be heard. -/
  | judging (draft : Draft) (text : String) (reaction : Reaction)
  /-- Both drafts have become valid, or the automatic transform was armed: a transform is due. -/
  | owing
  /-- A transform has begun, but its request is not sent yet. -/
  | calling (generation : Nat) (request : TransformRequest)
  /-- The reply to a transform is to be heard. -/
  | awaiting (generation : Nat) (reaction : Reaction)

def Stage.hand : Stage → Hand
  | .start (.validate b text) => b.draft?.elim .free fun d => .asking d text
  | .verdict d text r => .judging d text r
  | .outcome generation _ r => .awaiting generation r
  | _ => .free

/-- The call that the hand is about to make. -/
def Hand.call? : Hand → Option Service.Call
  | .asking d text => some (.validate d text)
  | .calling _ request => some (.transform request)
  | _ => none

/-- The hand once its call has been sent. -/
def Hand.sent (r : Reaction) : Hand → Hand
  | .asking d text => .judging d text r
  | .calling generation _ => .awaiting generation r
  | k => k

/-- Is the view told of something with this in hand? It is not while a call is made or heard. -/
def Hand.isOfView : Hand → Bool
  | .free | .owing | .calling .. => true
  | _ => false

def Progress.hand : Progress → Hand
  | .done _ => .free
  | .paused _ next => next.hand

/-- Is it not a question for a verdict on a blank text? -/
def Action.isFair : Action → Bool
  | .validate _ text => !Text.isBlank text
  | _ => true

/-- The plan of an activity that has no call in hand and nothing else to do after it. -/
structure Plan.IsLight (p : Plan) : Prop where
  hand : p.stage.hand = .free
  rest : p.rest = []

/-- The two sessions have the same documents, timers, activities and history. -/
structure Quiet (s t : Session V) : Prop where
  store : t.store = s.store
  scheduler : t.scheduler = s.scheduler
  board : t.board = s.board
  generation : t.generation = s.generation
  history : t.history = s.history

/-- Is a transform to start by itself? -/
def isPrimed (s : Session V) : Bool := s.store.armed && s.store.bothValid

/-- Nothing has become of the editors either. -/
structure Still (s t : Session V) : Prop extends Quiet s t where
  editors : t.editors = s.editors
  attached : t.attached = s.attached
  known : t.known = s.known

theorem Quiet.refl (s : Session V) : Quiet s s := ⟨rfl, rfl, rfl, rfl, rfl⟩

theorem Quiet.trans {s t u : Session V} (h : Quiet s t) (h' : Quiet t u) : Quiet s u :=
  ⟨h'.store.trans h.store, h'.scheduler.trans h.scheduler, h'.board.trans h.board,
    h'.generation.trans h.generation, h'.history.trans h.history⟩

theorem Still.refl (s : Session V) : Still s s := ⟨.refl s, rfl, rfl, rfl⟩

theorem Still.trans {s t u : Session V} (h : Still s t) (h' : Still t u) : Still s u :=
  ⟨h.toQuiet.trans h'.toQuiet, h'.editors.trans h.editors, h'.attached.trans h.attached,
    h'.known.trans h.known⟩

/-- A transform is due when it is to start by itself now, and was not before. -/
def handAfter (t s : Session V) : Hand := if t.isPrimed && !s.isPrimed then .owing else .free

theorem isOfView_handAfter (s t : Session V) : (t.handAfter s).isOfView = true := by
  unfold handAfter
  split <;> rfl

theorem handAfter_of_armed {s t : Session V} (h : t.store.armed = s.store.armed) :
    t.handAfter s =
      if t.store.armed && t.store.bothValid && !s.store.bothValid then .owing else .free := by
  unfold handAfter isPrimed
  rw [h]
  cases s.store.armed <;> simp

theorem handAfter_of_store {s t : Session V} (h : t.store = s.store) : t.handAfter s = .free := by
  rw [handAfter_of_armed (by rw [h]), h]
  simp

/-- The view breaks on some event. -/
def View.CanBreak (view : View V) : Prop := ∃ store e v, (view store e v).2.isSome

/-- The view breaks on some event with this failure. -/
def View.BreaksWith (view : View V) (f : Failure) : Prop := ∃ store e v, (view store e v).2 = some f

theorem View.BreaksWith.canBreak {view : View V} {f : Failure} (h : view.BreaksWith f) :
    view.CanBreak := by
  obtain ⟨store, e, v, h⟩ := h
  exact ⟨store, e, v, by rw [h]; rfl⟩

/-- One thing that an activity does, and what it has in hand before and after. -/
inductive Move (view : View V) : Session V × Hand → Session V × Hand → Prop
  | quiet {s t} (k) (h : Quiet s t) : Move view (s, k) (t, k)
  | spawn {s t} (k role plan) (hp : Plan.IsLight plan)
      (h : Quiet { s with board := s.board.spawn role plan } t) : Move view (s, k) (t, k)
  | edit (s k d text) : Move view (s, k) (s.putText d text, k)
  | overtake (s k d) : Move view (s, k) (s.record (.overtook d), k)
  | close (s k) : Move view (s, k) (s.close, k)
  | arm (s armed) :
      Move view (s, .free) (s.switch armed, (s.switch armed).handAfter s)
  | take (s a) (h : a.isFair = true) : Move view (s, .free) (s, (Stage.start a).hand)
  | send {s k c out reply server} (hk : k.call? = some c ∨ k = .free)
      (h : s.client.send s.server c = .ok (out, reply, server)) :
      Move view (s, k)
        (record (.sent ⟨s.board.now, out⟩ reply) { s with server }, k.sent reply.reaction)
  | refuse {s k c f} (hk : k.call? = some c ∨ k = .free)
      (h : s.client.send s.server c = .error f) : Move view (s, k) (s.record (.refused c f), .free)
  | hear (s d text r) :
      Move view (s, .judging d text r)
        (s.hearVerdict d text (Service.Client.readVerdict d r).2,
          (s.hearVerdict d text (Service.Client.readVerdict d r).2).handAfter s)
  | begin {s} (h : missing? s.store = none) :
      Move view (s, .free) (s.begin, .calling (s.generation + 1) s.request)
  /-- A transform that is due is asked for, and begins. -/
  | trigger {s} (hs : s.isPrimed = true) (h : missing? s.store = none) :
      Move view (s, .owing)
        ((s.record .triggered).begin, .calling (s.generation + 1) s.request)
  /-- A transform that is due is asked for, but cannot begin. -/
  | warn {s} (hs : s.isPrimed = true) (h : missing? s.store ≠ none) :
      Move view (s, .owing) (s.record .triggered, .free)
  | conclude (s g r) :
      Move view (s, .awaiting g r) (s.hearOutcome g (Service.Client.readOutcome r).2, .free)
  /-- The view breaks, and with it what was being done. -/
  | drop (s k) (hk : k.isOfView = true) (h : View.CanBreak view) : Move view (s, k) (s, .free)

/-- Any number of moves. -/
abbrev Moves (view : View V) : Session V × Hand → Session V × Hand → Prop :=
  Relation.ReflTransGen (Move view)

end Workbench.Session
