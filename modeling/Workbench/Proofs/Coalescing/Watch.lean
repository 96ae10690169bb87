import Workbench.Proofs.Coalescing.Incident
import Workbench.Proofs.Turn.Roster
import Workbench.Proofs.Turn.Timers

/-!
# A watched workshop

A workshop together with the account of what has happened in it. Errands may be scheduled and
cancelled at any moment, also between two jobs of one turn; time passes when nothing is to be done,
and no further than to the next alarm. What a job does, and what it adds to the account, is said once
for each kind of job.
-/
namespace Workbench.Coalescing

open Turn (Activity Board Job Phase)

namespace Errand

/-- What happens at the end of an errand. -/
def endings (id : Nat) (e : Errand) : List Incident :=
  (e.next?.map fun next => .scheduled next.1 next.2).toList ++ [.ended id e]

/-- What happens when an errand starts. -/
def startings (id : Nat) (e : Errand) : List Incident :=
  .started id e :: if e.takes = 0 then e.endings id else []

end Errand

namespace Workshop

/-- What happens in a workshop by a job. -/
def incidents (w : Workshop) : Job String → List Incident
  | .run id =>
    match w.board.phase? id with
    | some (.ready (.start e)) => e.startings id
    | some (.ready (.conclude e)) => e.endings id
    | _ => []
  | .fire key => ((w.scheduler.work? key).map (.fired w.board.nextId key ·)).toList
  | .ended id => if (w.board.find? id).isSome then [.left id] else []
  | _ => []

end Workshop

/-- What can be done with a workshop, and what it does when it is left alone. -/
inductive Move where
  | schedule (key : String) (e : Errand)
  | cancel (key : String)
  | cancelAll
  /-- The next job is done, if there is one. -/
  | job
  /-- Time passes, up to this moment at most. -/
  | wait (time : Nat)

/-- Does it come about when the workshop is left alone? -/
def Move.isIdle : Move → Bool
  | .job | .wait _ => true
  | _ => false

/-- A workshop, and what has happened in it. -/
structure Watched where
  workshop : Workshop
  account : Account := []

namespace Watched

def now (x : Watched) : Nat := x.workshop.board.now

/-- Is nothing to be done at the moment? -/
def rests (x : Watched) : Bool := x.workshop.step.isNone

/-- The workshop after some incidents. -/
def tell (x : Watched) (w : Workshop) (new : List Incident) : Watched :=
  ⟨w, x.account ++ new.map (x.now, ·)⟩

/-- The next job is done. -/
def job (x : Watched) : Watched :=
  match x.workshop.board.next? with
  | some (j, board) =>
    let w : Workshop := { x.workshop with board }
    x.tell (w.perform j) (w.incidents j)
  | none => x

/-- Time passes, but nothing is left undone. -/
def wait (x : Watched) (time : Nat) : Watched :=
  if x.rests then
    let limit := (Workshop.machine.nextDue? x.workshop).getD time
    { x with workshop := Workshop.machine.moveTo x.workshop (min time limit) }
  else x

def act (x : Watched) : Move → Watched
  | .schedule key e => x.tell (x.workshop.schedule key e) [.scheduled key e]
  | .cancel key => x.tell (x.workshop.cancel key).2 [.cancelled key]
  | .cancelAll => x.tell x.workshop.cancelAll [.cleared]
  | .job => x.job
  | .wait time => x.wait time

def follow (x : Watched) (moves : List Move) : Watched := moves.foldl act x

/-- A new workshop with this window. -/
def opened (window : Nat) : Watched := ⟨{ scheduler := { window } }, []⟩

end Watched

/-- The window is given in milliseconds, and time passes in microseconds. -/
theorem ofWindow_eq {milliseconds : Int} (h : 0 ≤ milliseconds) :
    Workshop.ofWindow milliseconds = .ok (Watched.opened (milliseconds.toNat * 1000)).workshop :=
  if_neg (Int.not_lt.mpr h)

/-! ## What a job does -/

/-- An errand is to start or to end, or is over; between its start and its end it sleeps. -/
def IsErrand (role : Hand) (p : Phase Stage) : Prop :=
  role = .errand ∧
    ((∃ e, p = .ready (.start e)) ∨ (∃ e, p = .ready (.conclude e)) ∨
      (∃ e, p = .asleep (.conclude e)) ∨ ∃ failure, p = .over failure)

theorem IsErrand.goOn {role : Hand} {next : Stage} (h : IsErrand role (.asleep next)) :
    IsErrand role (.ready next) := by
  obtain ⟨hrole, ⟨e, he⟩ | ⟨e, he⟩ | ⟨e, he⟩ | ⟨failure, hover⟩⟩ := h
  · cases he
  · cases he
  · cases he
    exact ⟨hrole, .inr (.inl ⟨e, rfl⟩)⟩
  · cases hover

/-- What a job does in a workshop where only errands are under way, and what happens by it. -/
inductive Does (w : Workshop) : Job String → List Incident → Workshop → Prop
  | start {id : Nat} {e : Errand} (h : w.board.phase? id = some (.ready (.start e))) :
    Does w (.run id) (e.startings id) (w.start id e)
  | conclude {id : Nat} {e : Errand} (h : w.board.phase? id = some (.ready (.conclude e))) :
    Does w (.run id) (e.endings id) (w.conclude id e)
  | wake {id : Nat} {e : Errand} (h : w.board.phase? id = some (.asleep (.conclude e))) :
    Does w (.wake id) [] { w with board := w.board.wake id }
  | leave {id : Nat} {a : Activity Hand Stage} {failure : Option Failure}
    (h : w.board.find? id = some a) (hover : a.phase = .over failure) :
    Does w (.ended id) [.left id] (w.leave a)
  | fire {key : String} {e : Errand} (h : w.scheduler.work? key = some e) :
    Does w (.fire key) [.fired w.board.nextId key e]
      { w with
        scheduler := w.scheduler.drop key
        board := w.board.spawn .errand (.start e) }
  /-- Nobody is there to count an end, -/
  | count (id : Nat) : Does w (.count id) [] w
  /-- or to leave, -/
  | absent {id : Nat} (h : w.board.find? id = none) : Does w (.ended id) [] w
  /-- or no errand waits under the key. -/
  | idle {key : String} (h : w.scheduler.work? key = none) : Does w (.fire key) [] w

namespace Errand

/-- What it fails with, if it does. -/
def failure? : Errand → Option Failure
  | .mk _ _ failure _ => if failure.isEmpty then none else some (.broken .runtime failure)

end Errand

namespace Workshop

/-- The workshop after an errand has scheduled the next one, if it does. -/
def hand (w : Workshop) (next? : Option (String × Errand)) : Workshop :=
  next?.elim w fun next => w.schedule next.1 next.2

theorem conclude_eq (w : Workshop) (id : Nat) (e : Errand) :
    w.conclude id e =
      let v := w.hand e.next?
      { v with
        board := v.board.finish id e.failure?
        record := v.record ++ if e.succeeds then [⟨e.label, true, v.board.now⟩] else [] } := by
  obtain ⟨label, takes, failure, next⟩ := e
  by_cases hfailure : failure.isEmpty
  · cases next <;>
      simp [conclude, hand, enter, Errand.next?, Errand.failure?, Errand.succeeds, Errand.label,
        hfailure]
  · simp [conclude, hand, Errand.next?, Errand.failure?, Errand.succeeds, hfailure]

theorem start_eq (w : Workshop) (id : Nat) (e : Errand) :
    w.start id e =
      let v := w.enter e.label false
      if e.takes = 0 then v.conclude id e
      else { v with board := v.board.sleep id e.takes (.conclude e) } := by
  obtain ⟨label, takes, failure, next⟩ := e
  rfl

end Workshop

/-! ## A board where only errands are under way -/

/-- Only errands are under way, and the agenda and the activities fit together. -/
structure IsManned (b : Board Hand Stage String) : Prop where
  sound : b.IsSound
  rostered : b.IsRostered
  tidy : b.agenda.IsTidy
  errands : b.Each IsErrand

namespace IsManned

variable {b c : Board Hand Stage String} {id : Nat}

theorem isErrand (h : IsManned b) {p : Phase Stage} (hp : b.phase? id = some p) :
    IsErrand .errand p := by
  obtain ⟨a, ha, -, rfl⟩ := Board.exists_of_phase? hp
  have herrand := h.errands a ha
  rwa [herrand.1] at herrand

/-- The next job has been taken up; the errand that goes on by it has no other one. -/
theorem next (h : IsManned b) {j : Job String} (hnext : b.next? = some (j, c)) :
    IsManned c ∧ c.Suits j ∧ ∀ i, j.goer? = some i → i ∉ c.goers := by
  obtain ⟨hrostered, hsuits, hfree⟩ := h.rostered.next hnext
  have hsound := h.sound.retimed (Board.retimed_of_next? hnext)
  have htidy := (Board.outlook_of_next? h.tidy hnext).2.1
  exact ⟨⟨hsound, hrostered, htidy, h.errands.of_eq (Board.activities_of_next? hnext)⟩, hsuits,
    hfree⟩

theorem disarm (h : IsManned b) (key : String) : IsManned (b.disarm key) :=
  ⟨h.sound.retimed (Board.retimed_disarm b key), h.rostered.disarm key,
    Turn.Agenda.isTidy_disarm h.tidy _, h.errands.of_eq rfl⟩

theorem disarmAll (h : IsManned b) (keys : List String) : IsManned (keys.foldl Board.disarm b) :=
  ⟨h.sound.retimed (Board.retimed_disarmAll keys b), h.rostered.disarmAll keys,
    Board.isTidy_disarmAll h.tidy keys, h.errands.of_eq (Board.activities_disarmAll keys b)⟩

theorem arm (h : IsManned b) (delay : Nat) (key : String) : IsManned (b.arm delay key) :=
  ⟨h.sound.retimed (Board.retimed_arm b delay key), h.rostered.arm delay key,
    Turn.Agenda.isTidy_arm h.tidy delay rfl, h.errands.of_eq rfl⟩

theorem spawn (h : IsManned b) (e : Errand) : IsManned (b.spawn .errand (.start e)) :=
  ⟨h.sound.spawn _ _, h.rostered.spawn h.sound _ _, Turn.Agenda.isTidy_queue h.tidy rfl,
    h.errands.spawn ⟨rfl, .inl ⟨e, rfl⟩⟩⟩

theorem moveTo (h : IsManned b) {time : Nat} (htime : ∀ x ∈ b.agenda.alarms, time ≤ x.due) :
    IsManned (b.moveTo time) :=
  ⟨h.sound.retimed ⟨rfl, rfl, fun _ hid => hid⟩, h.rostered.of_sublist (.refl _) rfl,
    Turn.Agenda.isTidy_moveTo h.tidy htime, h.errands.of_eq rfl⟩

section Off

variable {p : Phase Stage} (hid : id ∉ b.goers)

include hid

theorem sleep (h : IsManned b) {s : Stage} (hp : b.phase? id = some (.ready s)) (time : Nat)
    (e : Errand) : IsManned (b.sleep id time (.conclude e)) := by
  obtain ⟨a, ha, rfl, hready⟩ := Board.exists_of_phase? hp
  have hplan : a.task.plan? ≠ none := by simp [Turn.Activity.task, hready, Turn.Phase.plan?]
  have hsound := h.sound.wait (List.mem_map_of_mem ha) hplan
    (Board.tasks_sleep b a.id time (.conclude e)) rfl (Board.addsTurns_sleep b a.id time _)
  refine ⟨hsound, h.rostered.sleep hid hp time _, Turn.Agenda.isTidy_arm h.tidy time rfl, ?_⟩
  exact h.errands.setPhase fun x hx _ => ⟨(h.errands x hx).1, .inr (.inr (.inl ⟨e, rfl⟩))⟩

theorem finish (h : IsManned b) (hp : b.phase? id = some p) (failure : Option Failure) :
    IsManned (b.finish id failure) := by
  obtain ⟨a, ha, rfl, -⟩ := Board.exists_of_phase? hp
  refine ⟨h.sound.finish (List.mem_map_of_mem ha) failure, h.rostered.finish hid failure,
    Board.isTidy_finish h.tidy a.id failure, ?_⟩
  exact h.errands.finish fun x hx _ => ⟨(h.errands x hx).1, .inr (.inr (.inr ⟨failure, rfl⟩))⟩

theorem wake (h : IsManned b) : IsManned (b.wake id) := by
  have hsound := h.sound.retimed ⟨h.sound.tasks_wake id, Board.nextId_wake b id, fun i hi =>
    ((Board.addsTurns_wake b id).mem_iff (j := .ended i) rfl).mp hi⟩
  refine ⟨hsound, h.rostered.wake hid, (Board.keepsTimers_wake h.tidy id).tidy, ?_⟩
  exact h.errands.wake h.sound id fun _ _ => IsErrand.goOn

theorem remove (h : IsManned b) : IsManned (b.remove id) :=
  ⟨h.sound.remove id, h.rostered.remove hid, h.tidy, h.errands.remove id⟩

end Off

end IsManned

/-! ## What a job does -/

variable {w v : Workshop} {j : Job String} {new : List Incident} {id : Nat}

namespace Workshop

theorem board_schedule (w : Workshop) (key : String) (e : Errand) :
    (w.schedule key e).board = (w.board.disarm key).arm w.scheduler.window key := by
  unfold schedule
  split <;> rfl

theorem activities_hand (w : Workshop) (next? : Option (String × Errand)) :
    (w.hand next?).board.activities = w.board.activities := by
  cases next? with
  | none => rfl
  | some next =>
    change (w.schedule next.1 next.2).board.activities = _
    rw [board_schedule]
    rfl

theorem leave_eq (w : Workshop) (a : Activity Hand Stage) :
    (w.leave a).scheduler = w.scheduler ∧ (w.leave a).board = w.board.remove a.id ∧
      (w.leave a).record = w.record := by
  unfold leave
  dsimp only
  split <;> exact ⟨rfl, rfl, rfl⟩

/-- Nobody gets on the roster when another errand is scheduled. -/
theorem goers_hand_subset (w : Workshop) (next? : Option (String × Errand)) :
    (w.hand next?).board.goers ⊆ w.board.goers := by
  cases next? with
  | none => exact fun _ hi => hi
  | some next =>
    intro i hi
    obtain ⟨j, hj, hgoer⟩ := List.mem_filterMap.mp hi
    change j ∈ (w.schedule next.1 next.2).board.jobs at hj
    rw [board_schedule] at hj
    obtain rfl | hj := List.mem_cons.mp ((Board.jobs_arm _ _ _).mem_iff.mp hj)
    · cases hgoer
    · rw [Board.jobs_disarm] at hj
      exact Board.mem_goers (List.mem_filter.mp hj).1 hgoer

end Workshop

namespace IsManned

theorem schedule (h : IsManned w.board) (key : String) (e : Errand) :
    IsManned (w.schedule key e).board := by
  rw [Workshop.board_schedule]
  exact (h.disarm key).arm _ _

theorem hand (h : IsManned w.board) (next? : Option (String × Errand)) :
    IsManned (w.hand next?).board := by
  cases next? with
  | none => exact h
  | some next => exact h.schedule next.1 next.2

/-- An errand ends, whether or not it has scheduled another one before. -/
theorem conclude (h : IsManned w.board) (hid : id ∉ w.board.goers) {p : Phase Stage}
    (hp : w.board.phase? id = some p) (e : Errand) : IsManned (w.conclude id e).board := by
  have hphase : (w.hand e.next?).board.phase? id = some p :=
    (Board.phase?_of_activities (w.activities_hand e.next?) id).trans hp
  rw [Workshop.conclude_eq]
  exact (h.hand e.next?).finish (fun hi => hid (w.goers_hand_subset _ hi)) hphase _

end IsManned

/-- What a job does in a workshop. -/
theorem IsManned.does (h : IsManned w.board) (hj : w.board.Suits j) (hended : ∀ id, j = .ended id →
    ∀ a ∈ w.board.activities, a.id = id → a.isOver = true) :
    Does w j (w.incidents j) (w.perform j) := by
  cases j with
  | run id =>
    obtain ⟨next, hnext⟩ := hj
    obtain ⟨a, hfind, hphase⟩ := Option.map_eq_some_iff.mp hnext
    have hid : a.id = id := by simpa using List.find?_some hfind
    have hperform : w.perform (.run id) = w.proceed a := by simp [Workshop.perform, hfind]
    rw [hperform, Workshop.incidents, hnext]
    obtain ⟨-, ⟨e, he⟩ | ⟨e, he⟩ | ⟨e, he⟩ | ⟨failure, he⟩⟩ := h.isErrand hnext
    · cases he
      have hproceed : w.proceed a = w.start id e := by simp [Workshop.proceed, hphase, hid]
      rw [hproceed]
      exact .start hnext
    · cases he
      have hproceed : w.proceed a = w.conclude id e := by simp [Workshop.proceed, hphase, hid]
      rw [hproceed]
      exact .conclude hnext
    · cases he
    · cases he
  | wake id =>
    obtain ⟨next, hnext⟩ := hj
    obtain ⟨-, ⟨e, he⟩ | ⟨e, he⟩ | ⟨e, he⟩ | ⟨failure, he⟩⟩ := h.isErrand hnext <;> cases he
    exact .wake hnext
  | count id =>
    have hsame : w.board.count id = w.board := by
      unfold Board.count
      split
      case h_1 n next hphase =>
        obtain ⟨-, ⟨e, he⟩ | ⟨e, he⟩ | ⟨e, he⟩ | ⟨failure, he⟩⟩ := h.isErrand hphase <;> cases he
      case h_2 => rfl
    rw [Workshop.perform, hsame]
    exact .count id
  | ended id =>
    cases hfind : w.board.find? id with
    | none =>
      simp only [Workshop.incidents, Workshop.perform, hfind]
      exact .absent hfind
    | some a =>
      have hid : a.id = id := by simpa using List.find?_some hfind
      have hover := hended id rfl a (List.mem_of_find?_eq_some hfind) hid
      simp only [Workshop.incidents, Workshop.perform, hfind]
      cases hphase : a.phase with
      | ready | asleep | waiting => simp [Turn.Activity.isOver, hphase] at hover
      | _ => exact .leave hfind hphase
  | fire key =>
    cases hwork : w.scheduler.work? key with
    | none =>
      simp only [Workshop.incidents, Workshop.perform, Scheduler.take?, hwork]
      exact .idle hwork
    | some e =>
      simp only [Workshop.incidents, Workshop.perform, Scheduler.take?, hwork]
      exact .fire hwork

/-- The end of an errand that is to be noticed has come about. -/
theorem IsManned.isOver_of_ended {b : Board Hand Stage String} (h : IsManned b) {id : Nat}
    (hid : .ended id ∈ b.jobs) : ∀ a ∈ b.activities, a.id = id → a.isOver = true := by
  intro a ha heq
  exact Turn.Activity.isOver_iff.mpr ((h.sound.ended id hid).2 a.task (List.mem_map_of_mem ha) heq)

theorem Does.manned (h : Does w j new v) (hw : IsManned w.board)
    (hfree : ∀ i, j.goer? = some i → i ∉ w.board.goers) : IsManned v.board := by
  cases h with
  | @start id e hphase =>
    have hentered : IsManned (w.enter e.label false).board := hw
    rw [Workshop.start_eq]
    dsimp only
    split
    · exact hentered.conclude (hfree id rfl) hphase e
    · exact hentered.sleep (hfree id rfl) hphase e.takes e
  | conclude hphase => exact hw.conclude (hfree _ rfl) hphase _
  | wake hphase => exact hw.wake (hfree _ rfl)
  | @leave id a failure hfind hover =>
    have hphase : w.board.phase? id = some (.over failure) := by
      simp [Board.phase?, hfind, hover]
    have hid : a.id = id := by simpa using List.find?_some hfind
    rw [(w.leave_eq a).2.1, hid]
    exact hw.remove (hw.rostered.not_mem_goers hphase (by simp) (by simp))
  | fire hwork => exact hw.spawn _
  | count id => exact hw
  | absent hnone => exact hw
  | idle hnone => exact hw

end Workbench.Coalescing
