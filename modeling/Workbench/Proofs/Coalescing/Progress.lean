import Workbench.Proofs.Coalescing.Reach
import Workbench.Proofs.Turn.Burden
import Workbench.Proofs.Turn.Run

/-!
# Time passes in a workshop

An errand schedules one other at most, so there is an end to all that comes of it. Each job leaves less
to be done, and to let time pass leaves as much; so a workshop does not keep at one moment, and as much
time passes in it as it is given steps for.
-/
namespace Workbench.Coalescing

open Turn (Board Job Machine)

/-! ## What is left to be done -/

namespace Errand

/-- What an errand takes, with all that comes of it. -/
def work : Errand → Nat
  | .mk _ _ _ (some next) => next.2.work + 5
  | .mk _ _ _ none => 5

/-- What comes of an errand. -/
def rest (e : Errand) : Nat := e.next?.elim 0 fun next => next.2.work

theorem rest_add_le_work (e : Errand) : e.rest + 5 ≤ e.work := by
  obtain ⟨label, takes, failure, next⟩ := e
  cases next with
  | none => simp [rest, next?, work]
  | some next => by_cases hfailure : failure.isEmpty <;> simp [rest, next?, work, hfailure]

end Errand

def Stage.work : Stage → Nat
  | .start e => e.rest + 4
  | .conclude e => e.rest + 2
  | .drain => 0

namespace Scheduler

variable {K W R C : Type} [DecidableEq K] {f : W → Nat}

/-- What the work of the armed timers weighs together. -/
def load (f : W → Nat) (s : Scheduler K W) : Nat := (s.pending.map fun p => f p.2).sum

theorem load_drop_add {s : Scheduler K W} {key : K} {work : W} (h : (key, work) ∈ s.pending) :
    (s.drop key).load f + f work ≤ s.load f := by
  obtain ⟨before, after, hsplit⟩ := List.append_of_mem h
  have hless (xs : List (K × W)) :
      ((xs.filter (·.1 ≠ key)).map fun p => f p.2).sum ≤ (xs.map fun p => f p.2).sum :=
    List.Sublist.sum_le_sum ((List.filter_sublist).map _) fun _ _ => Nat.zero_le _
  have hbefore := hless before
  have hafter := hless after
  unfold load drop
  dsimp only
  rw [hsplit, List.filter_append, List.filter_cons_of_neg (by simp)]
  simp only [List.map_append, List.map_cons, List.sum_append, List.sum_cons]
  omega

theorem load_drop_le (s : Scheduler K W) (key : K) : (s.drop key).load f ≤ s.load f :=
  List.Sublist.sum_le_sum ((List.filter_sublist).map _) fun _ _ => Nat.zero_le _

theorem load_schedule (s : Scheduler K W) (key : K) (work : W) (b : Board R C K) :
    (s.schedule key work b).1.load f = (s.drop key).load f + f work := by
  simp [load, schedule]

end Scheduler

variable {window : Nat} {x : Watched} {w v : Workshop} {j : Job String} {new : List Incident}
  {id : Nat}

namespace Workshop

/-- What is left to be done: by the activities, by the jobs, and by the errands of armed timers. -/
def left (w : Workshop) : Nat := w.board.total Stage.work + w.scheduler.load Errand.work

theorem left_schedule (w : Workshop) (key : String) (e : Errand) :
    (w.schedule key e).left ≤ w.left + e.work + 1 := by
  have hboard := Board.total_arm (w := Stage.work) (w.board.disarm key) w.scheduler.window key
  have hdisarm := Board.total_disarm (w := Stage.work) w.board key
  have hdrop := w.scheduler.load_drop_le key (f := Errand.work)
  unfold left
  rw [w.board_schedule, w.scheduler_schedule, Scheduler.load_schedule]
  omega

theorem left_hand (w : Workshop) (e : Errand) : (w.hand e.next?).left ≤ w.left + e.rest + 1 := by
  unfold Errand.rest
  cases e.next? with
  | none => exact Nat.le_succ _
  | some next => exact w.left_schedule next.1 next.2

theorem left_conclude (hw : IsManned w.board) {s : Stage}
    (hphase : w.board.phase? id = some (.ready s)) (e : Errand) :
    (w.conclude id e).left + s.work ≤ w.left + e.rest + 2 := by
  have hhand := w.left_hand e
  have hlast := (spares_hand id w e.next?).phase.trans hphase
  have hfinish := (hw.hand e.next?).sound.total_finish (w := Stage.work) hlast e.failure?
  rw [w.conclude_eq]
  unfold left at *
  dsimp only
  omega

end Workshop

/-- A job does not leave more to be done than there was besides it. -/
theorem Does.left_le (h : Does w j new v) (hw : IsManned w.board) : v.left ≤ w.left := by
  cases h with
  | @start id e hphase =>
    rw [w.start_eq]
    dsimp only
    split
    · have hless := Workshop.left_conclude (w := w.enter e.label false) hw hphase e
      change _ ≤ w.left + e.rest + 2 at hless
      simp only [Stage.work] at hless
      omega
    · have hsleep := hw.sound.total_sleep (w := Stage.work) hphase e.takes (.conclude e)
      simp only [Stage.work] at hsleep
      unfold Workshop.left Workshop.enter
      dsimp only
      omega
  | @conclude id e hphase =>
    have hless := Workshop.left_conclude hw hphase e
    simp only [Stage.work] at hless
    omega
  | @wake id e hphase =>
    exact Nat.le_of_eq (congrArg (· + _) (hw.sound.total_wake (w := Stage.work) hphase))
  | @leave id a failure hfind hover =>
    have hless := Board.total_remove (w := Stage.work) w.board a.id
    obtain ⟨hs, hboard, -⟩ := w.leave_eq a
    unfold Workshop.left
    rw [hs, hboard]
    omega
  | @fire key e hwork =>
    have hspawn := Board.total_spawn (b := w.board) (w := Stage.work) .errand (.start e)
    have hdrop := Scheduler.load_drop_add (f := Errand.work) (Scheduler.mem_pending_of_work? hwork)
    have hwork := e.rest_add_le_work
    unfold Workshop.left
    simp only [Stage.work] at hspawn
    dsimp only
    omega
  | count id => exact Nat.le_refl _
  | absent hnone => exact Nat.le_refl _
  | idle hnone => exact Nat.le_refl _

namespace IsFaithful

theorem left_job (h : IsFaithful window x) {b : Board Hand Stage String}
    (hnext : x.workshop.board.next? = some (j, b)) :
    x.job.workshop.left < x.workshop.left := by
  have hless := (h.does hnext).left_le (h.manned.next hnext).1
  have htaken : b.total Stage.work < x.workshop.board.total Stage.work :=
    Nat.lt_of_succ_le (Nat.le_of_eq (Board.total_next hnext))
  have hjob : x.job.workshop = Workshop.perform { x.workshop with board := b } j := by
    rw [Watched.job, hnext]
    rfl
  rw [hjob]
  exact Nat.lt_of_le_of_lt hless (Nat.add_lt_add_right htaken _)

end IsFaithful

/-! ## Letting time pass -/

theorem Does.now (h : Does w j new v) (hw : IsManned w.board) : v.board.now = w.board.now := by
  have hconclude (u : Workshop) (id : Nat) (e : Errand) : (u.conclude id e).board.now = u.board.now := by
    rw [u.conclude_eq]
    exact (Board.now_finish _ _ _).trans (u.now_hand e.next?)
  cases h with
  | @start id e hphase =>
    rw [w.start_eq]
    dsimp only
    split
    · exact hconclude _ id e
    · rfl
  | conclude hphase => exact hconclude w _ _
  | wake hphase => exact (Board.keepsTimers_wake hw.tidy _).now
  | leave hfind hover =>
    rw [(w.leave_eq _).2.1]
    rfl
  | fire hwork => rfl
  | count id => rfl
  | absent hnone => rfl
  | idle hnone => rfl

namespace Watched

theorem follow_concat (x : Watched) (moves : List Move) (m : Move) :
    x.follow (moves ++ [m]) = (x.follow moves).act m := List.foldl_append ..

theorem rests_of_step (h : x.workshop.step = none) : x.rests = true := by
  rw [rests, h]
  rfl

/-- Time passes up to this moment, if the next alarm is not before it. -/
theorem wait_eq (hrests : x.rests = true) {time : Nat}
    (htime : ∀ due, Workshop.machine.nextDue? x.workshop = some due → time ≤ due) :
    x.wait time = { x with workshop := Workshop.machine.moveTo x.workshop time } := by
  have hmin : min time ((Workshop.machine.nextDue? x.workshop).getD time) = time := by
    cases hdue : Workshop.machine.nextDue? x.workshop with
    | none => exact Nat.min_self time
    | some due => exact Nat.min_eq_left (htime due hdue)
  rw [wait, if_pos hrests]
  dsimp only
  rw [hmin]

end Watched

/-- A workshop that comes about when another one is left alone up to some time. -/
structure ComesOf (x : Watched) (time : Nat) (w : Workshop) : Prop where
  moves : ∃ moves : List Move, (∀ m ∈ moves, m.isIdle = true) ∧ (x.follow moves).workshop = w
  le_now : x.now ≤ w.board.now
  now_le : w.board.now ≤ max x.now time

namespace ComesOf

variable {time : Nat}

theorem refl (x : Watched) (time : Nat) : ComesOf x time x.workshop :=
  ⟨⟨[], by simp, rfl⟩, Nat.le_refl _, Nat.le_max_left _ _⟩

/-- One more thing comes about. -/
theorem act (h : ComesOf x time w) {m : Move} (hm : m.isIdle = true)
    (hact : ∀ y : Watched, y.workshop = w → (y.act m).workshop = v)
    (hle : w.board.now ≤ v.board.now) (htime : v.board.now ≤ max x.now time) : ComesOf x time v := by
  obtain ⟨moves, hidle, hw⟩ := h.moves
  refine ⟨⟨moves ++ [m], fun k hk => ?_, ?_⟩, Nat.le_trans h.le_now hle, htime⟩
  · obtain hk | hk := List.mem_append.mp hk
    · exact hidle k hk
    · rwa [List.mem_singleton.mp hk]
  · rw [Watched.follow_concat]
    exact hact _ hw

theorem exists_watched (h : ComesOf x time w) (hx : IsFaithful window x) :
    ∃ y : Watched, IsFaithful window y ∧ y.workshop = w := by
  obtain ⟨moves, -, hw⟩ := h.moves
  exact ⟨x.follow moves, hx.follow moves, hw⟩

theorem step (h : ComesOf x time w) (hx : IsFaithful window x) (hstep : w.step = some v) :
    ComesOf x time v ∧ v.left < w.left := by
  obtain ⟨y, hy, rfl⟩ := h.exists_watched hx
  obtain ⟨⟨j, b⟩, hnext, rfl⟩ := Option.map_eq_some_iff.mp hstep
  have hjob (z : Watched) (hz : z.workshop = y.workshop) :
      z.job.workshop = Workshop.perform { y.workshop with board := b } j := by
    rw [← hz] at hnext
    rw [Watched.job, hnext]
    exact congrArg (fun u : Workshop => Workshop.perform { u with board := b } j) hz
  have hnow : (Workshop.perform { y.workshop with board := b } j).board.now = y.workshop.board.now :=
    ((hy.does hnext).now (hy.manned.next hnext).1).trans
      (Board.outlook_of_next? hy.manned.tidy hnext).2.2
  refine ⟨h.act (m := .job) rfl hjob (Nat.le_of_eq hnow.symm) ?_, ?_⟩
  · rw [hnow]
    exact h.now_le
  · have hless := hy.left_job hnext
    rwa [hjob y rfl] at hless

theorem move (h : ComesOf x time w) (hrest : w.step = none) {limit : Nat}
    (hdue : ∀ due, Workshop.machine.nextDue? w = some due → limit ≤ due) (htime : limit ≤ time) :
    ComesOf x time (Workshop.machine.moveTo w limit) := by
  refine h.act (m := .wait limit) rfl (fun z hz => ?_) (Nat.le_max_left _ _) ?_
  · subst hz
    exact congrArg Watched.workshop (Watched.wait_eq (Watched.rests_of_step hrest) hdue)
  · refine Nat.max_le.mpr ⟨h.now_le, ?_⟩
    exact Nat.le_trans htime (Nat.le_max_right _ _)

end ComesOf

/-- Time passes as far as it is wanted to, within the steps that are needed; and what happens then
is what comes about when the workshop is left alone. -/
theorem IsFaithful.passTo (h : IsFaithful window x) (time : Nat) {budget : Nat}
    (hbudget : 2 * x.workshop.left + 1 ≤ budget) :
    let w := Workshop.machine.passTo budget time x.workshop
    (∃ moves : List Move, (∀ m ∈ moves, m.isIdle = true) ∧ (x.follow moves).workshop = w) ∧
      w.step = none ∧ w.board.now = max x.now time := by
  have hjob : ∀ s t, ComesOf x time s → Workshop.machine.step s = some t →
      ComesOf x time t ∧ t.left < s.left := fun _ _ hs hstep => hs.step h hstep
  have hmove : ∀ s due, ComesOf x time s → Workshop.machine.step s = none →
      Workshop.machine.nextDue? s = some due → decide (due ≤ time) = true →
      ComesOf x time (Workshop.machine.moveTo s due) ∧
        (Workshop.machine.moveTo s due).left = s.left ∧
        Workshop.machine.step (Workshop.machine.moveTo s due) ≠ none := by
    intro s due hs hrest hdue hmay
    refine ⟨hs.move hrest (fun due' hdue' => ?_) (of_decide_eq_true hmay), rfl, fun hnone => ?_⟩
    · exact Nat.le_of_eq (Option.some.inj (hdue.symm.trans hdue'))
    · exact Turn.Agenda.next?_moveTo_ne_none hdue (next?_of_step hnone)
  obtain ⟨hw, hrest, hlater⟩ :=
    Machine.iterate_stepOrMove_rests hjob hmove (.refl x time) hbudget
  have hdue : ∀ due, Workshop.machine.nextDue? _ = some due → time < due := fun due hdue =>
    Nat.not_le.mp (of_decide_eq_false (hlater due hdue))
  have hlast := hw.move hrest (fun due h => Nat.le_of_lt (hdue due h)) (Nat.le_refl time)
  refine ⟨hlast.moves, ?_, ?_⟩
  · obtain ⟨y, hy, hyw⟩ := hw.exists_watched h
    have htidy := hyw ▸ hy.manned.tidy
    have hnone := Turn.Agenda.next?_moveTo_eq_none (next?_of_step hrest) htidy hdue
    exact step_eq_none hnone
  · exact Nat.le_antisymm hlast.now_le (Nat.max_le.mpr ⟨hlast.le_now, Nat.le_max_right _ _⟩)

end Workbench.Coalescing
