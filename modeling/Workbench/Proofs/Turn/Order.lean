import Workbench.Proofs.Turn.Board

/-!
# Boards in order

The numbers of activities are their own, and an end that is still to be noticed is the end of an
activity that is over. Whatever is done with a board keeps it in order; most of it adds only jobs by
which activities go on.
-/
namespace Workbench.Turn

/-- Is it a job by which an activity goes on? -/
def Job.isTurn {K : Type} : Job K → Bool
  | .run _ | .wake _ | .count _ => true
  | .ended _ | .fire _ => false

namespace Board

variable {R C K : Type} {b c d : Board R C K}

/-- The jobs that are still to be done, now or later. -/
def jobs (b : Board R C K) : List (Job K) := b.agenda.jobs

/-- The jobs of the second board are those of the first and some by which activities go on. -/
def AddsTurns (b c : Board R C K) : Prop :=
  ∃ js : List (Job K), c.jobs.Perm (js ++ b.jobs) ∧ ∀ j ∈ js, j.isTurn = true

theorem AddsTurns.of_eq (h : c.jobs = b.jobs) : AddsTurns b c :=
  ⟨[], by rw [h, List.nil_append], by simp⟩

theorem AddsTurns.cons {j : Job K} (h : c.jobs.Perm (j :: b.jobs)) (hj : j.isTurn = true) :
    AddsTurns b c := ⟨[j], h, by simpa using hj⟩

theorem AddsTurns.trans (h : AddsTurns b c) (h' : AddsTurns c d) : AddsTurns b d := by
  obtain ⟨js, hjs, hturn⟩ := h
  obtain ⟨ks, hks, hturn'⟩ := h'
  refine ⟨ks ++ js, ?_, ?_⟩
  · rw [List.append_assoc]
    exact hks.trans (hjs.append_left ks)
  · simpa [or_imp, forall_and] using And.intro hturn' hturn

theorem AddsTurns.mem_iff (h : AddsTurns b c) {j : Job K} (hj : j.isTurn = false) :
    j ∈ c.jobs ↔ j ∈ b.jobs := by
  obtain ⟨js, hjs, hturn⟩ := h
  rw [hjs.mem_iff, List.mem_append, or_iff_right]
  intro hmem
  rw [hturn j hmem] at hj
  cases hj

theorem AddsTurns.count_eq [DecidableEq K] (h : AddsTurns b c) {j : Job K} (hj : j.isTurn = false) :
    c.jobs.count j = b.jobs.count j := by
  obtain ⟨js, hjs, hturn⟩ := h
  have hzero : js.count j = 0 := by
    refine List.count_eq_zero.mpr fun hmem => ?_
    rw [hturn j hmem] at hj
    cases hj
  rw [hjs.count_eq, List.count_append, hzero, Nat.zero_add]

/-! ## What each operation does to the jobs -/

theorem jobs_queue (b : Board R C K) (j : Job K) : (b.queue j).jobs.Perm (j :: b.jobs) :=
  Agenda.jobs_queue b.agenda j

theorem jobs_queueAll (b : Board R C K) (js : List (Job K)) :
    (b.queueAll js).jobs.Perm (js ++ b.jobs) := by
  induction js generalizing b with
  | nil => exact .refl _
  | cons j js ih =>
    refine (ih (b.queue j)).trans ?_
    exact ((jobs_queue b j).append_left js).trans List.perm_middle

theorem nextId_queueAll (b : Board R C K) (js : List (Job K)) :
    (b.queueAll js).nextId = b.nextId :=
  queueAll_induction (motive := (·.nextId = b.nextId)) rfl fun _ _ _ hc => hc

theorem jobs_finish (b : Board R C K) (id : Nat) (failure : Option Failure) :
    ∃ js : List (Job K), (b.finish id failure).jobs.Perm (js ++ .ended id :: b.jobs) ∧
      ∀ j ∈ js, j.isTurn = true := by
  refine ⟨((b.find? id).elim [] (·.watchers)).map .count, ?_, ?_⟩
  · exact (jobs_queueAll _ _).trans List.perm_middle.symm
  · intro j hj
    obtain ⟨i, -, rfl⟩ := List.mem_map.mp hj
    rfl

theorem addsTurns_spawn (b : Board R C K) (role : R) (next : C) :
    AddsTurns b (b.spawn role next) := .cons (jobs_queue b (.run b.nextId)) rfl

theorem addsTurns_sleep (b : Board R C K) (id time : Nat) (next : C) :
    AddsTurns b (b.sleep id time next) := .cons (Agenda.jobs_arm b.agenda time (.wake id)) rfl

theorem addsTurns_watch (b : Board R C K) (id : Nat) (other : Activity R C) :
    AddsTurns b (watch id b other) := by
  unfold watch
  split
  · exact .cons (jobs_queue b (.count id)) rfl
  · exact .of_eq rfl

theorem addsTurns_await (b : Board R C K) (id : Nat) (others : List (Activity R C)) (next : C) :
    AddsTurns b (b.await id others next) :=
  await_induction (.of_eq rfl) fun c other hc => hc.trans (addsTurns_watch c id other)

theorem nextId_watch (b : Board R C K) (id : Nat) (other : Activity R C) :
    (watch id b other).nextId = b.nextId := by
  unfold watch
  split <;> rfl

theorem nextId_await (b : Board R C K) (id : Nat) (others : List (Activity R C)) (next : C) :
    (b.await id others next).nextId = b.nextId :=
  await_induction (motive := (·.nextId = b.nextId)) rfl fun c other hc =>
    (nextId_watch c id other).trans hc

theorem addsTurns_wake (b : Board R C K) (id : Nat) : AddsTurns b (b.wake id) := by
  unfold wake
  split
  · exact .cons (jobs_queue (b.setPhase id _) (.run id)) rfl
  · exact .of_eq rfl

theorem addsTurns_count (b : Board R C K) (id : Nat) : AddsTurns b (b.count id) := by
  unfold count
  split
  · split
    · exact .cons (jobs_queue (b.setPhase id _) (.run id)) rfl
    · exact .of_eq rfl
  · exact .of_eq rfl

theorem jobs_arm (b : Board R C K) (delay : Nat) (key : K) :
    (b.arm delay key).jobs.Perm (.fire key :: b.jobs) := Agenda.jobs_arm b.agenda delay _

theorem jobs_disarm [DecidableEq K] (b : Board R C K) (key : K) :
    (b.disarm key).jobs = b.jobs.filter (· ≠ .fire key) := Agenda.jobs_disarm b.agenda _

theorem jobs_of_next? {j : Job K} (h : b.next? = some (j, c)) : b.jobs = j :: c.jobs := by
  obtain ⟨⟨i, a⟩, ha, heq⟩ := Option.map_eq_some_iff.mp h
  cases heq
  exact Agenda.jobs_of_next? ha

theorem mem_jobs_of_next? {j : Job K} (h : b.next? = some (j, c)) : j ∈ b.jobs := by
  rw [jobs_of_next? h]
  exact List.mem_cons_self

/-- The boards differ at most in their timers, and no end is to be noticed on the second that was
not on the first. -/
structure Retimed (b c : Board R C K) : Prop where
  tasks : c.tasks = b.tasks
  nextId : c.nextId = b.nextId
  ended : ∀ id, .ended id ∈ c.jobs → .ended id ∈ b.jobs

theorem Retimed.refl (b : Board R C K) : Retimed b b := ⟨rfl, rfl, fun _ h => h⟩

theorem Retimed.trans (h : Retimed b c) (h' : Retimed c d) : Retimed b d :=
  ⟨h'.tasks.trans h.tasks, h'.nextId.trans h.nextId, fun id hid => h.ended id (h'.ended id hid)⟩

theorem retimed_disarm [DecidableEq K] (b : Board R C K) (key : K) : Retimed b (b.disarm key) := by
  refine ⟨rfl, rfl, fun id hid => ?_⟩
  rw [jobs_disarm] at hid
  exact (List.mem_filter.mp hid).1

theorem retimed_arm (b : Board R C K) (delay : Nat) (key : K) : Retimed b (b.arm delay key) := by
  refine ⟨rfl, rfl, fun id hid => ?_⟩
  obtain heq | hmem := List.mem_cons.mp ((jobs_arm b delay key).mem_iff.mp hid)
  · cases heq
  · exact hmem

theorem retimed_disarmAll [DecidableEq K] (ks : List K) (b : Board R C K) :
    Retimed b (ks.foldl disarm b) := by
  induction ks generalizing b with
  | nil => exact .refl b
  | cons k ks ih => exact (retimed_disarm b k).trans (ih _)

theorem now_disarmAll [DecidableEq K] (ks : List K) (b : Board R C K) :
    (ks.foldl disarm b).now = b.now := by
  induction ks generalizing b with
  | nil => rfl
  | cons k ks ih => exact ih _

theorem activities_disarmAll [DecidableEq K] (ks : List K) (b : Board R C K) :
    (ks.foldl disarm b).activities = b.activities := by
  induction ks generalizing b with
  | nil => rfl
  | cons k ks ih => exact ih _

theorem jobs_disarmAll_sublist [DecidableEq K] (ks : List K) (b : Board R C K) :
    (ks.foldl disarm b).jobs.Sublist b.jobs := by
  induction ks generalizing b with
  | nil => exact .refl _
  | cons k ks ih =>
    refine (ih _).trans ?_
    rw [jobs_disarm]
    exact List.filter_sublist

theorem retimed_of_next? {j : Job K} (h : b.next? = some (j, c)) : Retimed b c := by
  have hjobs := jobs_of_next? h
  obtain ⟨⟨i, a⟩, -, heq⟩ := Option.map_eq_some_iff.mp h
  cases heq
  refine ⟨rfl, rfl, fun id hid => ?_⟩
  rw [hjobs]
  exact List.mem_cons_of_mem _ hid

theorem nextId_wake (b : Board R C K) (id : Nat) : (b.wake id).nextId = b.nextId := by
  unfold wake
  split <;> rfl

theorem nextId_count (b : Board R C K) (id : Nat) : (b.count id).nextId = b.nextId := by
  unfold count
  split
  · split <;> rfl
  · rfl

/-! ## Order -/

/-- The numbers of the activities are their own and were given out, and an end that is to be
noticed has come about. -/
structure IsSound (b : Board R C K) : Prop where
  nodup : (b.tasks.map (·.id)).Nodup
  lt_nextId : ∀ t ∈ b.tasks, t.id < b.nextId
  ended : ∀ id, .ended id ∈ b.jobs → id < b.nextId ∧ ∀ t ∈ b.tasks, t.id = id → t.plan? = none

theorem isSound_empty : IsSound ({} : Board R C K) := by
  refine ⟨List.nodup_nil, ?_, ?_⟩
  · intro t ht
    cases ht
  · intro id h
    cases h

namespace IsSound

theorem retimed (h : b.IsSound) (hc : Retimed b c) : c.IsSound := by
  refine ⟨by rw [hc.tasks]; exact h.nodup, ?_, ?_⟩
  · rw [hc.tasks, hc.nextId]
    exact h.lt_nextId
  · intro id hid
    rw [hc.tasks, hc.nextId]
    exact h.ended id (hc.ended id hid)

/-- Whoever has its end noticed has nothing left to do. -/
theorem over_of_next? (h : b.IsSound) {id : Nat} (hnext : b.next? = some (.ended id, c)) :
    ∀ t ∈ c.tasks, t.id = id → t.plan? = none := by
  rw [(retimed_of_next? hnext).tasks]
  exact (h.ended id (mem_jobs_of_next? hnext)).2

theorem eq_of_id (h : b.IsSound) {t u : Task R C} (ht : t ∈ b.tasks) (hu : u ∈ b.tasks)
    (hid : t.id = u.id) : t = u := List.inj_on_of_nodup_map h.nodup ht hu hid

/-- Giving an activity the plan that it has changes nothing. -/
theorem map_put_self (h : b.IsSound) {t : Task R C} (ht : t ∈ b.tasks) :
    b.tasks.map (Task.put t.id t.plan?) = b.tasks := by
  conv_rhs => rw [← List.map_id b.tasks]
  refine List.map_congr_left fun u hu => ?_
  unfold Task.put
  split
  · rename_i hid
    rw [h.eq_of_id hu ht hid]
    rfl
  · rfl

/-- The end of an activity that has a plan is not to be noticed. -/
theorem not_ended (h : b.IsSound) {t : Task R C} (ht : t ∈ b.tasks) (hp : t.plan? ≠ none) :
    .ended t.id ∉ b.jobs := fun hmem => hp ((h.ended t.id hmem).2 t ht rfl)

theorem task_of_find? {id : Nat} {a : Activity R C} (h : b.find? id = some a) :
    a.task ∈ b.tasks ∧ a.id = id :=
  ⟨List.mem_map_of_mem (List.mem_of_find?_eq_some h), by simpa using List.find?_some h⟩

theorem task_of_phase? {id : Nat} {p : Phase C} (h : b.phase? id = some p) :
    ∃ role, ⟨id, role, p.plan?⟩ ∈ b.tasks := by
  obtain ⟨a, ha, rfl⟩ := Option.map_eq_some_iff.mp h
  obtain ⟨hmem, rfl⟩ := task_of_find? ha
  exact ⟨a.role, hmem⟩

theorem spawn (h : b.IsSound) (role : R) (next : C) : (b.spawn role next).IsSound := by
  have hmem := fun id => (addsTurns_spawn b role next).mem_iff (j := .ended id) rfl
  refine ⟨?_, ?_, ?_⟩
  · rw [tasks_spawn, List.map_append, List.nodup_append]
    refine ⟨h.nodup, List.nodup_singleton _, ?_⟩
    intro i hi j hj
    obtain ⟨t, ht, rfl⟩ := List.mem_map.mp hi
    obtain rfl := List.mem_singleton.mp hj
    exact Nat.ne_of_lt (h.lt_nextId t ht)
  · intro t ht
    rw [tasks_spawn, List.mem_append, List.mem_singleton] at ht
    change t.id < b.nextId + 1
    obtain ht | rfl := ht
    · exact Nat.lt_succ_of_lt (h.lt_nextId t ht)
    · exact Nat.lt_succ_self _
  · intro id hid
    obtain ⟨hlt, hnone⟩ := h.ended id ((hmem id).mp hid)
    refine ⟨Nat.lt_succ_of_lt hlt, fun t ht hti => ?_⟩
    rw [tasks_spawn, List.mem_append, List.mem_singleton] at ht
    obtain ht | rfl := ht
    · exact hnone t ht hti
    · exact absurd hti (Nat.ne_of_gt hlt)

/-- An activity gets another plan; if it gets one at all, its end is not to be noticed. -/
theorem put (h : b.IsSound) {id : Nat} {plan? : Option C}
    (htasks : c.tasks = b.tasks.map (Task.put id plan?)) (hnext : c.nextId = b.nextId)
    (hjobs : ∀ i, .ended i ∈ c.jobs → (i = id ∧ id < b.nextId) ∨ .ended i ∈ b.jobs)
    (hplan : .ended id ∈ c.jobs → plan? = none) : c.IsSound := by
  refine ⟨?_, ?_, ?_⟩
  · rw [htasks, List.map_map]
    have hids : (fun t : Task R C => t.id) ∘ Task.put id plan? = fun t => t.id :=
      funext fun t => Task.put_id id plan? t
    rw [hids]
    exact h.nodup
  · intro t ht
    rw [htasks] at ht
    obtain ⟨u, hu, rfl⟩ := List.mem_map.mp ht
    rw [Task.put_id, hnext]
    exact h.lt_nextId u hu
  · intro i hi
    rw [hnext]
    refine ⟨?_, ?_⟩
    · obtain ⟨rfl, hlt⟩ | hmem := hjobs i hi
      · exact hlt
      · exact (h.ended i hmem).1
    · intro t ht hti
      rw [htasks] at ht
      obtain ⟨u, hu, rfl⟩ := List.mem_map.mp ht
      rw [Task.put_id] at hti
      by_cases hid : i = id
      · subst hid
        rw [Task.put, if_pos hti]
        exact hplan hi
      · obtain ⟨rfl, -⟩ | hmem := hjobs i hi
        · exact absurd rfl hid
        · rw [Task.put, if_neg (by rw [hti]; exact hid)]
          exact (h.ended i hmem).2 u hu hti

theorem finish (h : b.IsSound) {t : Task R C} (ht : t ∈ b.tasks) (failure : Option Failure) :
    (b.finish t.id failure).IsSound := by
  obtain ⟨js, hjs, hturn⟩ := jobs_finish b t.id failure
  refine h.put (tasks_finish b t.id failure) (nextId_queueAll _ _) ?_ fun _ => rfl
  intro i hi
  rw [hjs.mem_iff, List.mem_append, List.mem_cons, Job.ended.injEq] at hi
  obtain hmem | rfl | hmem := hi
  · cases hturn _ hmem
  · exact .inl ⟨rfl, h.lt_nextId t ht⟩
  · exact .inr hmem

theorem remove (h : b.IsSound) (id : Nat) : (b.remove id).IsSound := by
  have hsub : ∀ t ∈ (b.remove id).tasks, t ∈ b.tasks := by
    intro t ht
    rw [tasks_remove] at ht
    exact (List.mem_filter.mp ht).1
  refine ⟨?_, fun t ht => h.lt_nextId t (hsub t ht), fun i hi => ?_⟩
  · rw [tasks_remove]
    exact h.nodup.sublist ((List.filter_sublist).map _)
  · obtain ⟨hlt, hnone⟩ := h.ended i hi
    exact ⟨hlt, fun t ht => hnone t (hsub t ht)⟩

/-! ## Going on -/

theorem tasks_wake (h : b.IsSound) (id : Nat) : (b.wake id).tasks = b.tasks := by
  unfold wake
  split
  case h_1 next hphase =>
    obtain ⟨role, hmem⟩ := task_of_phase? hphase
    rw [tasks_queue, tasks_setPhase]
    exact h.map_put_self hmem
  case h_2 => rfl

theorem tasks_count (h : b.IsSound) (id : Nat) : (b.count id).tasks = b.tasks := by
  unfold count
  split
  case h_1 n next hphase =>
    obtain ⟨role, hmem⟩ := task_of_phase? hphase
    split
    · rw [tasks_queue, tasks_setPhase]
      exact h.map_put_self hmem
    · rw [tasks_setPhase]
      exact h.map_put_self hmem
  case h_2 => rfl

/-- An activity that has to wait. -/
theorem wait (h : b.IsSound) {t : Task R C} {next : C} (ht : t ∈ b.tasks) (hp : t.plan? ≠ none)
    (htasks : c.tasks = b.tasks.map (Task.put t.id (some next))) (hnext : c.nextId = b.nextId)
    (hjobs : AddsTurns b c) : c.IsSound := by
  have hmem := fun i => (hjobs.mem_iff (j := .ended i) rfl).mp
  refine h.put htasks hnext (fun i hi => .inr (hmem i hi)) fun hend => ?_
  exact absurd (hmem _ hend) (h.not_ended ht hp)

end IsSound

end Board

end Workbench.Turn
