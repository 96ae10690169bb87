import Workbench.Proofs.Coalescing.Course
import Workbench.Proofs.Coalescing.Timing
import Workbench.Proofs.Turn.Burden
import Workbench.Proofs.Turn.Run

/-!
# Watching a workshop

What is so of a workshop whatever has been done with it, and that it never keeps at one moment: each
job leaves less to be done, so time passes as far as it is wanted to.
-/
namespace Workbench.Coalescing

open Turn (Activity Board Job Phase Machine)

namespace Incident

/-- What is entered in the record. -/
def record? (time : Nat) : Incident → Option Entry
  | .started _ e => some ⟨e.label, false, time⟩
  | .ended _ e => if e.succeeds then some ⟨e.label, true, time⟩ else none
  | _ => none

end Incident

/-- The record of what has happened. -/
def recordOf (τ : Account) : List Entry := τ.filterMap fun x => x.2.record? x.1

/-- What is so of a workshop and the account of what has happened in it. -/
structure IsFaithful (window : Nat) (x : Watched) : Prop where
  manned : IsManned x.workshop.board
  timed : IsTimed window x.workshop x.account
  stands : IsOnCourse x.workshop.board x.account
  order : IsInOrder x.workshop.board x.account
  record : x.workshop.record = recordOf x.account

variable {window : Nat} {x : Watched} {w v : Workshop} {j : Job String} {new : List Incident}

theorem recordOf_append (τ σ : Account) : recordOf (τ ++ σ) = recordOf τ ++ recordOf σ :=
  List.filterMap_append

theorem recordOf_endings (id t : Nat) (e : Errand) :
    recordOf ((e.endings id).map (t, ·)) = if e.succeeds then [⟨e.label, true, t⟩] else [] := by
  unfold Errand.endings recordOf
  cases e.next? <;> cases hs : e.succeeds <;> simp [Incident.record?, hs]

theorem record_hand (w : Workshop) (next? : Option (String × Errand)) :
    (w.hand next?).record = w.record := by
  cases next? with
  | none => rfl
  | some next => exact w.record_schedule next.1 next.2

theorem record_conclude (w : Workshop) (id : Nat) (e : Errand) :
    (w.conclude id e).record = w.record ++ recordOf ((e.endings id).map (w.board.now, ·)) := by
  rw [w.conclude_eq, recordOf_endings, ← w.now_hand e.next?]
  dsimp only
  rw [record_hand]

theorem Does.record (h : Does w j new v) :
    v.record = w.record ++ recordOf (new.map (w.board.now, ·)) := by
  cases h with
  | @start id e hphase =>
    have hfirst : recordOf ((e.startings id).map (w.board.now, ·)) =
        ⟨e.label, false, w.board.now⟩ ::
          if e.takes = 0 then recordOf ((e.endings id).map (w.board.now, ·)) else [] := by
      unfold Errand.startings
      split <;> rfl
    rw [w.start_eq, hfirst]
    dsimp only
    split
    · rw [record_conclude]
      simp [Workshop.enter]
    · rfl
  | conclude hphase => exact record_conclude w _ _
  | leave hfind hover => rw [(w.leave_eq _).2.2]; simp [recordOf, Incident.record?]
  | wake hphase => simp [recordOf]
  | fire hwork => simp [recordOf, Incident.record?]
  | count id => simp [recordOf]
  | absent hnone => simp [recordOf]
  | idle hnone => simp [recordOf]

/-! ## When nothing is to be done -/

theorem next?_of_step (h : w.step = none) : w.board.agenda.next? = none := by
  unfold Workshop.step Board.next? at h
  simpa using h

theorem step_eq_none (h : w.board.agenda.next? = none) : w.step = none := by
  unfold Workshop.step Board.next?
  rw [h]
  rfl

theorem Watched.next?_of_rests (h : x.rests = true) : x.workshop.board.agenda.next? = none :=
  next?_of_step (Option.isNone_iff_eq_none.mp h)

/-! ## What is done with a workshop -/

namespace IsFaithful

theorem opened (window : Nat) : IsFaithful window (Watched.opened window) where
  manned := ⟨Board.isSound_empty, Board.isRostered_empty, ⟨by simp [Watched.opened],
    by simp [Watched.opened], by simp [Watched.opened], by simp [Watched.opened]⟩,
    fun a ha => by cases ha⟩
  timed := .opened window
  stands := .opened window
  order := rfl
  record := rfl

theorem schedule (h : IsFaithful window x) (key : String) (e : Errand) :
    IsFaithful window (x.act (.schedule key e)) where
  manned := h.manned.schedule key e
  timed := h.timed.schedule h.manned.tidy key e
  stands := h.stands.tell (fun i => spares_hand i _ (some (key, e))) rfl
  order := h.order.append (upcoming_hand _ (some (key, e))) rfl rfl
  record := by
    change (x.workshop.schedule key e).record = recordOf (x.account ++ [(x.now, .scheduled key e)])
    rw [x.workshop.record_schedule, h.record, recordOf_append]
    exact (List.append_nil _).symm

theorem cancel (h : IsFaithful window x) (key : String) :
    IsFaithful window (x.act (.cancel key)) where
  manned := h.manned.disarm key
  timed := h.timed.cancel h.manned.tidy key
  stands := h.stands.tell (fun i => .disarm i _ key) rfl
  order := h.order.append (upcoming_congr (Board.sameLine_disarm _ key).line rfl fun _ _ => rfl) rfl rfl
  record := by
    refine h.record.trans ?_
    exact (List.append_nil _).symm.trans (recordOf_append _ [(x.now, .cancelled key)]).symm

theorem cancelAll (h : IsFaithful window x) : IsFaithful window (x.act .cancelAll) where
  manned := h.manned.disarmAll x.workshop.scheduler.keys
  timed := h.timed.cancelAll h.manned.tidy
  stands := h.stands.tell (fun i => .disarmAll i x.workshop.scheduler.keys _) rfl
  order := by
    have hsame := Board.sameLine_disarmAll x.workshop.scheduler.keys x.workshop.board
    refine h.order.append (upcoming_congr hsame.line (Board.now_disarmAll _ _) fun i _ => ?_) rfl rfl
    exact Board.phase?_of_activities hsame.activities i
  record := by
    refine h.record.trans ?_
    exact (List.append_nil _).symm.trans (recordOf_append _ [(x.now, .cleared)]).symm

/-- What the next job does. -/
theorem does (h : IsFaithful window x) {b : Board Hand Stage String}
    (hnext : x.workshop.board.next? = some (j, b)) :
    let w : Workshop := { x.workshop with board := b }
    Does w j (w.incidents j) (w.perform j) := by
  obtain ⟨hb, hsuits, -⟩ := h.manned.next hnext
  refine IsManned.does (w := { x.workshop with board := b }) hb hsuits fun id hid => ?_
  rw [Board.activities_of_next? hnext]
  exact h.manned.isOver_of_ended (hid ▸ Board.mem_jobs_of_next? hnext)

theorem job (h : IsFaithful window x) : IsFaithful window x.job := by
  unfold Watched.job
  split
  case h_2 => exact h
  case h_1 j b hnext =>
    obtain ⟨hb, -, hfree⟩ := h.manned.next hnext
    have hnow : b.now = x.workshop.board.now := (Board.outlook_of_next? h.manned.tidy hnext).2.2
    have hdoes := h.does hnext
    refine ⟨hdoes.manned hb hfree, h.timed.does h.manned hnext hdoes,
      h.stands.does h.manned hnext hdoes, h.order.does h.manned hnext hdoes, ?_⟩
    have hrecord := hdoes.record
    dsimp only at hrecord
    rw [hnow] at hrecord
    exact (hrecord.trans (congrArg (· ++ _) h.record)).trans (recordOf_append _ _).symm

theorem wait (h : IsFaithful window x) (time : Nat) : IsFaithful window (x.wait time) := by
  unfold Watched.wait
  split
  case isFalse => exact h
  case isTrue hrests =>
    have hrest := Watched.next?_of_rests hrests
    refine ⟨h.manned.moveTo fun y hy => ?_, h.timed.moveTo h.manned.tidy hrest _,
      h.stands.moveTo h.manned.tidy hrest _, h.order.moveTo hrest _, h.record⟩
    change min time ((x.workshop.board.agenda.nextDue?).getD time) ≤ y.due
    cases hdue : x.workshop.board.agenda.nextDue? with
    | none =>
      have halarms : x.workshop.board.agenda.alarms = [] := by
        simpa [Turn.Agenda.nextDue?] using hdue
      rw [halarms] at hy
      cases hy
    | some due =>
      exact Nat.le_trans (Nat.min_le_right _ _) (Turn.Agenda.le_of_nextDue? h.manned.tidy hdue y hy)

theorem follow (h : IsFaithful window x) (moves : List Move) :
    IsFaithful window (x.follow moves) := by
  refine List.foldlRecOn (motive := IsFaithful window) moves Watched.act h fun y hy move _ => ?_
  cases move with
  | schedule key e => exact hy.schedule key e
  | cancel key => exact hy.cancel key
  | cancelAll => exact hy.cancelAll
  | job => exact hy.job
  | wait time => exact hy.wait time

end IsFaithful

end Workbench.Coalescing
