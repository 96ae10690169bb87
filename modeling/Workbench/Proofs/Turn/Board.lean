import Mathlib.Data.List.Nodup
import Mathlib.Data.List.Perm.Basic
import Workbench.Turn.Board

/-!
# The jobs of an agenda and the tasks of a board

An agenda holds jobs for this turn, for the next one and for later. What is left of an activity as long as
it has not ended is its plan. The tasks of a board are its activities with their plans, whatever they wait
for: waking and counting leave them as they are, and an end takes the plan out.
-/
namespace Workbench.Turn.Agenda

/-! ## The jobs of an agenda

Order does not matter here: each operation puts in or takes out single jobs, and letting time pass does
neither. -/

variable {J : Type}

/-- The jobs that are still to be done, now or later. -/
def jobs (a : Agenda J) : List J := a.turn ++ a.queued ++ a.alarms.map (·.job)

theorem jobs_queue (a : Agenda J) (j : J) : (a.queue j).jobs.Perm (j :: a.jobs) := by
  simp only [jobs, queue, ← List.append_assoc]
  rw [List.append_assoc _ [j]]
  exact List.perm_middle

theorem insertAlarm_perm (x : Alarm J) (xs : List (Alarm J)) :
    (insertAlarm x xs).Perm (x :: xs) := by
  induction xs with
  | nil => exact List.Perm.refl _
  | cons y ys ih =>
    simp only [insertAlarm]
    split
    · exact (ih.cons y).trans (List.Perm.swap x y ys)
    · exact List.Perm.refl _

theorem jobs_arm (a : Agenda J) (delay : Nat) (j : J) :
    (a.arm delay j).jobs.Perm (j :: a.jobs) := by
  have h := (insertAlarm_perm ⟨a.now + delay, j⟩ a.alarms).map (·.job)
  exact (h.append_left _).trans List.perm_middle

@[simp]
theorem jobs_disarm [DecidableEq J] (a : Agenda J) (j : J) :
    (a.disarm j).jobs = a.jobs.filter (· ≠ j) := by
  simp [jobs, disarm, List.filter_map, Function.comp_def]

/-- Nothing but the job that is taken up leaves the agenda. -/
theorem jobs_of_next? {a b : Agenda J} {j : J} (h : a.next? = some (j, b)) :
    a.jobs = j :: b.jobs := by
  unfold next? at h
  cases ht : a.turn with
  | cons i rest =>
    simp only [ht, Option.some.injEq, Prod.mk.injEq] at h
    obtain ⟨rfl, rfl⟩ := h
    simp [jobs, ht]
  | nil =>
    -- a new turn begins: what was queued, and then the alarms that are due
    have hjobs : a.jobs = a.nextTurn ++ (a.alarms.dropWhile a.isDue).map (·.job) := by
      rw [jobs, nextTurn, ht, List.nil_append, List.append_assoc, ← List.map_append,
        List.takeWhile_append_dropWhile]
    cases hn : a.nextTurn with
    | nil => simp [ht, hn] at h
    | cons i rest =>
      simp only [ht, hn, Option.some.injEq, Prod.mk.injEq] at h
      obtain ⟨rfl, rfl⟩ := h
      rw [hjobs, hn]
      simp [jobs]

end Workbench.Turn.Agenda

namespace Workbench.Turn

/-- What an activity in this phase does when it goes on; nothing if it is over. -/
def Phase.plan? {C : Type} : Phase C → Option C
  | .ready next => some next
  | .asleep next => some next
  | .waiting _ next => some next
  | .over _ => none

/-- An activity without what it waits for and who waits for it. -/
structure Task (R C : Type) where
  id : Nat
  role : R
  plan? : Option C

/-- The task with another plan, if it has this number. -/
def Task.put {R C : Type} (id : Nat) (plan? : Option C) (t : Task R C) : Task R C :=
  if t.id = id then { t with plan? } else t

@[simp]
theorem Task.put_id {R C : Type} (id : Nat) (p : Option C) (t : Task R C) :
    (t.put id p).id = t.id := by
  unfold Task.put
  split <;> rfl

@[simp]
theorem Task.put_role {R C : Type} (id : Nat) (p : Option C) (t : Task R C) :
    (t.put id p).role = t.role := by
  unfold Task.put
  split <;> rfl

def Activity.task {R C : Type} (a : Activity R C) : Task R C := ⟨a.id, a.role, a.phase.plan?⟩

theorem Activity.isOver_iff {R C : Type} {a : Activity R C} :
    a.isOver = true ↔ a.phase.plan? = none := by
  unfold Activity.isOver Phase.plan?
  cases a.phase <;> simp

namespace Board

variable {R C K : Type}

def tasks (b : Board R C K) : List (Task R C) := b.activities.map Activity.task

/-- The tasks without the plan of one of them. -/
def tasksBut (b : Board R C K) (id : Nat) : List (Task R C) := b.tasks.map (Task.put id none)

/-! ## What each operation does to the tasks -/

@[simp]
theorem tasks_queue (b : Board R C K) (j : Job K) : (b.queue j).tasks = b.tasks := rfl

/-- What holds of a board, and still does when one of the jobs is queued, holds when all of them
are. -/
theorem queueAll_induction {motive : Board R C K → Prop} {b : Board R C K} {js : List (Job K)}
    (base : motive b) (step : ∀ c, ∀ j ∈ js, motive c → motive (c.queue j)) :
    motive (b.queueAll js) :=
  List.foldlRecOn js queue base fun c hc j hj => step c j hj hc

theorem activities_queueAll (b : Board R C K) (js : List (Job K)) :
    (b.queueAll js).activities = b.activities :=
  queueAll_induction (motive := (·.activities = b.activities)) rfl fun _ _ _ hc => hc

@[simp]
theorem tasks_queueAll (b : Board R C K) (js : List (Job K)) : (b.queueAll js).tasks = b.tasks :=
  congrArg (List.map Activity.task) (activities_queueAll b js)

theorem activities_of_next? {b c : Board R C K} {j : Job K} (h : b.next? = some (j, c)) :
    c.activities = b.activities := by
  obtain ⟨⟨i, a⟩, -, heq⟩ := Option.map_eq_some_iff.mp h
  cases heq
  rfl

@[simp]
theorem tasks_spawn (b : Board R C K) (role : R) (next : C) :
    (b.spawn role next).tasks = b.tasks ++ [⟨b.nextId, role, some next⟩] := by
  simp [tasks, spawn, Activity.task, Phase.plan?]

@[simp]
theorem tasks_setPhase (b : Board R C K) (id : Nat) (p : Phase C) :
    (b.setPhase id p).tasks = b.tasks.map (Task.put id p.plan?) := by
  simp only [tasks, setPhase, modify, List.map_map]
  refine List.map_congr_left fun a _ => ?_
  by_cases h : a.id = id <;> simp [Activity.task, Task.put, h]

theorem tasks_modify (b : Board R C K) (id : Nat) (f : Activity R C → Activity R C)
    (hf : ∀ a, (f a).task = a.task) : (b.modify id f).tasks = b.tasks := by
  simp only [tasks, modify, List.map_map]
  refine List.map_congr_left fun a _ => ?_
  simp only [Function.comp_apply]
  split
  · exact hf a
  · rfl

@[simp]
theorem tasks_watch (b : Board R C K) (id : Nat) (other : Activity R C) :
    (watch id b other).tasks = b.tasks := by
  unfold watch
  split
  · rfl
  · exact tasks_modify b other.id _ fun _ => rfl

@[simp]
theorem tasks_sleep (b : Board R C K) (id time : Nat) (next : C) :
    (b.sleep id time next).tasks = b.tasks.map (Task.put id (some next)) :=
  tasks_setPhase b id (.asleep next)

/-- What holds when an activity begins to wait, and still does when it watches one more of the
others, holds when it waits for all of them. -/
theorem await_induction {motive : Board R C K → Prop} {b : Board R C K} {id : Nat}
    {others : List (Activity R C)} {next : C}
    (base : motive (b.setPhase id (.waiting others.length next)))
    (step : ∀ c other, motive c → motive (watch id c other)) : motive (b.await id others next) :=
  List.foldlRecOn others (watch id) base fun c hc other _ => step c other hc

@[simp]
theorem tasks_await (b : Board R C K) (id : Nat) (others : List (Activity R C)) (next : C) :
    (b.await id others next).tasks = b.tasks.map (Task.put id (some next)) := by
  refine await_induction (motive := (·.tasks = b.tasks.map (Task.put id (some next)))) ?_ ?_
  · exact tasks_setPhase b id _
  · intro c other hc
    rw [tasks_watch, hc]

@[simp]
theorem tasks_finish (b : Board R C K) (id : Nat) (failure : Option Failure) :
    (b.finish id failure).tasks = b.tasksBut id := by
  simp [finish, tasksBut, Phase.plan?]

@[simp]
theorem tasks_remove (b : Board R C K) (id : Nat) :
    (b.remove id).tasks = b.tasks.filter (·.id ≠ id) := by
  simp only [tasks, remove, List.filter_map]
  rfl

end Board

end Workbench.Turn
