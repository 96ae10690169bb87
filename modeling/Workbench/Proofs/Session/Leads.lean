import Workbench.Proofs.Session.Move

/-!
# Following a stretch of work

How moves are followed through a stretch of work, from one statement to the next. What only tells
of something leaves everything as it was; it can fail only with the view, and what was in hand is
then dropped.
-/
namespace Workbench.Session

open Document (Buffer Draft Store)
open Service (Reaction TransformRequest)

variable {V : Type} {α β : Type}

/-- What is in hand after a stretch of work; nothing if it has failed. -/
def landing (after : α → Hand) : Except Failure α → Hand
  | .ok a => after a
  | .error _ => .free

namespace Act

/-- A stretch of work goes by moves from what is in hand to what is in hand after it. -/
def Leads (view : View V) (x : Act V α) (s : Session V) (k : Hand) (after : α → Hand) : Prop :=
  Moves view (s, k) ((x.run s).2, landing after (x.run s).1)

/-- A stretch of work that only tells of something. It fails only with the view. -/
structure IsQuiet (view : View V) (x : Act V α) : Prop where
  still : ∀ s, Still s (x.run s).2
  failure : ∀ s f, (x.run s).1 = .error f → View.BreaksWith view f

theorem run_pure (a : α) (s : Session V) : (pure a : Act V α).run s = (.ok a, s) := rfl

theorem run_change (g : Session V → Session V) (s : Session V) :
    (change g).run s = (.ok (), g s) := rfl

theorem run_get (s : Session V) : (get : Act V (Session V)).run s = (.ok s, s) := rfl

theorem run_set (s t : Session V) : (set t : Act V PUnit).run s = (.ok (), t) := rfl

theorem run_bind (x : Act V α) (f : α → Act V β) (s : Session V) :
    (x >>= f).run s = match x.run s with
      | (.ok a, t) => (f a).run t
      | (.error e, t) => (.error e, t) := by
  change (ExceptT.bindCont f (x.run s).1).run (x.run s).2 = _
  rcases x.run s with ⟨_ | _, t⟩ <;> rfl

/-- The client is asked for the request, and what it says is written down. -/
theorem run_send_eq (c : Service.Call) (s : Session V) :
    (send c).run s = match s.client.send s.server c with
      | .error f => (.error f, record (.refused c f) (s.noteAll c.notes))
      | .ok (out, reply, server) =>
        (.ok reply, record (.sent ⟨s.board.now, out⟩ reply) { s.noteAll c.notes with server }) := by
  have hasks : (s.noteAll c.notes).client.send (s.noteAll c.notes).server c =
      s.client.send s.server c := rfl
  unfold send
  rw [run_bind, run_change]
  dsimp only
  rw [run_bind, run_get]
  dsimp only
  rw [hasks]
  cases s.client.send s.server c <;> rfl

/-- A request goes out. -/
theorem run_send {s : Session V} {c : Service.Call} {out : Service.Outgoing}
    {reply : Service.Reply} {server : Service.Server}
    (h : s.client.send s.server c = .ok (out, reply, server)) :
    (send c).run s =
      (.ok reply, record (.sent ⟨s.board.now, out⟩ reply) { s.noteAll c.notes with server }) := by
  rw [run_send_eq, h]

/-- A request cannot be sent. -/
theorem run_send_of_error {s : Session V} {c : Service.Call} {f : Failure}
    (h : s.client.send s.server c = .error f) :
    (send c).run s = (.error f, record (.refused c f) (s.noteAll c.notes)) := by
  rw [run_send_eq, h]

variable {view : View V} {s : Session V} {k : Hand} {after : β → Hand}

/-! ## Putting stretches of work together -/

theorem leads_pure {a : β} (h : after a = k) : Leads view (pure a) s k after := by
  subst h
  exact .refl

theorem leads_pure_bind {a : α} {f : α → Act V β} (h : Leads view (f a) s k after) :
    Leads view (pure a >>= f) s k after := by
  rwa [pure_bind]

theorem leads_throw {f : Failure} : Leads view (throw f) s .free after := .refl

theorem leads_bind {x : Act V α} {f : α → Act V β} {mid : α → Hand} (hx : Leads view x s k mid)
    (hf : ∀ a t, Leads view (f a) t (mid a) after) : Leads view (x >>= f) s k after := by
  unfold Leads at hx ⊢
  rw [run_bind]
  rcases h : x.run s with ⟨e | a, t⟩
  · rw [h] at hx
    exact hx
  · rw [h] at hx
    exact hx.trans (hf a t)

theorem leads_get {f : Session V → Act V β} (h : Leads view (f s) s k after) :
    Leads view (get >>= f) s k after := h

theorem leads_change {g : Session V → Session V} {f : Unit → Act V β} {k' : Hand}
    (hg : Move view (s, k) (g s, k')) (h : Leads view (f ()) (g s) k' after) :
    Leads view (change g >>= f) s k after := .head hg h

theorem leads_moves {g : Session V → Session V} {f : Unit → Act V β} {k' : Hand}
    (hg : Moves view (s, k) (g s, k')) (h : Leads view (f ()) (g s) k' after) :
    Leads view (change g >>= f) s k after := hg.trans h

/-- What only tells of something comes before the rest. If it fails, what was in hand is dropped. -/
theorem leads_quiet {x : Act V α} {f : α → Act V β} (hk : k.isOfView = true) (hx : IsQuiet view x)
    (h : ∀ a t, Quiet s t → Leads view (f a) t k after) : Leads view (x >>= f) s k after := by
  have hq := (hx.still s).toQuiet
  have hf := hx.failure s
  unfold Leads
  rw [run_bind]
  rcases hr : x.run s with ⟨e | a, t⟩
  · rw [hr] at hq hf
    exact .trans (.single (.quiet k hq)) (.single (.drop t k hk (hf e rfl).canBreak))
  · rw [hr] at hq
    exact .head (.quiet k hq) (h a t hq)

theorem leads_noteAll {ns : List Note} {f : Unit → Act V β}
    (h : ∀ t, Quiet s t → Leads view (f ()) t k after) :
    Leads view (change (noteAll ns) >>= f) s k after := by
  have hq : Quiet s (s.noteAll ns) := ⟨rfl, rfl, rfl, rfl, rfl⟩
  exact leads_change (.quiet k hq) (h _ hq)

/-! ## Telling of something -/

theorem isQuiet_pure (a : α) : IsQuiet view (pure a : Act V α) where
  still s := by rw [run_pure]; exact .refl s
  failure s f h := by rw [run_pure] at h; cases h

theorem isQuiet_change {g : Session V → Session V} (h : ∀ s, Still s (g s)) :
    IsQuiet view (change g) where
  still s := by rw [run_change]; exact h s
  failure s f h := by rw [run_change] at h; cases h

theorem isQuiet_write (n : Note) : IsQuiet view (write n : Act V Unit) :=
  isQuiet_change fun _ => ⟨⟨rfl, rfl, rfl, rfl, rfl⟩, rfl, rfl, rfl⟩

theorem IsQuiet.bind {x : Act V α} {f : α → Act V β} (hx : IsQuiet view x)
    (hf : ∀ a, IsQuiet view (f a)) : IsQuiet view (x >>= f) where
  still s := by
    have hq := hx.still s
    rw [run_bind]
    rcases hr : x.run s with ⟨e | a, t⟩
    · rwa [hr] at hq
    · rw [hr] at hq
      exact hq.trans ((hf a).still t)
  failure s f hfails := by
    rw [run_bind] at hfails
    rcases hr : x.run s with ⟨e | a, t⟩
    · rw [hr] at hfails
      cases hfails
      exact hx.failure s f (by rw [hr])
    · rw [hr] at hfails
      exact (hf a).failure t _ hfails

theorem isQuiet_get {f : Session V → Act V β} (h : ∀ s, IsQuiet view (f s)) :
    IsQuiet view (get >>= f) :=
  ⟨fun s => (h s).still s, fun s => (h s).failure s⟩

theorem isQuiet_dispatch (b : Bus Handler) (e : Event) {run : Handler → Act V β} {dropped : β}
    (h : ∀ r, IsQuiet view (run r)) : IsQuiet view (b.dispatch e write run dropped) := by
  unfold Bus.dispatch
  split
  · exact (isQuiet_write _).bind fun _ => h _
  · exact (isQuiet_write _).bind fun _ => isQuiet_pure _

theorem run_present (e : Event) (s : Session V) :
    (present view e).run s =
      ((view s.store e s.view).2.elim (.ok ()) .error,
        { s with view := (view s.store e s.view).1 }) := by
  unfold present
  simp only [run_bind, run_get, run_set]
  cases (view s.store e s.view).2 <;> rfl

theorem isQuiet_present (e : Event) : IsQuiet view (present view e) where
  still s := by
    rw [run_present]
    exact ⟨⟨rfl, rfl, rfl, rfl, rfl⟩, rfl, rfl, rfl⟩
  failure s f hf := by
    rw [run_present] at hf
    refine ⟨s.store, e, s.view, ?_⟩
    cases h : (view s.store e s.view).2 with
    | none => simp [h] at hf
    | some g =>
      rw [h] at hf
      cases hf
      rfl

theorem isQuiet_announce (e : Event) : IsQuiet view (announce view e) :=
  isQuiet_get fun _ => isQuiet_dispatch _ e fun _ => isQuiet_present e

theorem isQuiet_announceState (b : Buffer) : IsQuiet view (announceState view b) :=
  isQuiet_announce _

theorem isQuiet_announceNotice (message : String) (level : NoticeLevel) :
    IsQuiet view (announceNotice view message level) :=
  isQuiet_announce _

/-- An edit of a draft is told of once the text is in. -/
theorem run_edit (d : Draft) (text : String) (s : Session V) :
    (edit view d.buffer text).run s =
      (announceState view d.buffer >>= fun _ => pure (.done .nothing)).run
        ((s.note (Bus.dispatchNote (.edited d.buffer text false))).applyEdit d text false) := by
  have hhandle : (edit view d.buffer text).run s =
      (handleEdit view (.edited d.buffer text false)).run
        (s.note (Bus.dispatchNote (.edited d.buffer text false))) := rfl
  rw [hhandle]
  cases d <;> rfl

end Act

end Workbench.Session
