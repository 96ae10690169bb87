import Workbench.Proofs.Turn.Each

/-!
# The roster of a board

The agenda and the activities of a board fit together: an activity that is to go on by a job on the
agenda is ready, one that is to wake by it is asleep, and for none of them there is a second job.
-/
namespace Workbench.Turn

/-- The activity that goes on by this job, or wakes by it. -/
def Job.goer? {K : Type} : Job K → Option Nat
  | .run id | .wake id => some id
  | _ => none

namespace Board

variable {R C K : Type} {b c : Board R C K}

/-! ## How it stands with an activity after each operation -/

/-- What an activity does when it goes on. -/
def plan? (b : Board R C K) (id : Nat) : Option C := (b.phase? id).bind Phase.plan?

theorem plan?_of_phase? {id : Nat} {q : Phase C} (h : b.phase? id = some q) :
    b.plan? id = q.plan? := by
  simp [plan?, h]

theorem phase?_of_activities (h : c.activities = b.activities) (id : Nat) :
    c.phase? id = b.phase? id := by
  simp only [phase?, find?, h]

theorem find?_modify (b : Board R C K) (id i : Nat) {f : Activity R C → Activity R C}
    (hf : ∀ t, (f t).id = t.id) :
    (b.modify id f).find? i = (b.find? i).map fun t => if t.id = id then f t else t := by
  have hid (t : Activity R C) : (if t.id = id then f t else t).id = t.id := by
    split
    · exact hf t
    · rfl
  simp only [find?, modify, List.find?_map, Function.comp_def, hid]

theorem phase?_setPhase (b : Board R C K) (id : Nat) (q : Phase C) (i : Nat) :
    (b.setPhase id q).phase? i = if i = id then (b.phase? i).map fun _ => q else b.phase? i := by
  have hfind : (b.setPhase id q).find? i = _ := find?_modify b id i fun _ => rfl
  rw [phase?, hfind, phase?]
  cases hfind : b.find? i with
  | none => simp
  | some t =>
    have hti : t.id = i := by simpa using List.find?_some hfind
    by_cases hid : i = id <;> simp [hti, hid]

theorem phase?_setPhase_of_ne (b : Board R C K) {id : Nat} (q : Phase C) {i : Nat} (h : i ≠ id) :
    (b.setPhase id q).phase? i = b.phase? i := by
  rw [phase?_setPhase, if_neg h]

theorem phase?_setPhase_self {i : Nat} {p : Phase C} (h : b.phase? i = some p) (q : Phase C) :
    (b.setPhase i q).phase? i = some q := by
  rw [phase?_setPhase, if_pos rfl, h]
  rfl

theorem phase?_watch (b : Board R C K) (id : Nat) (other : Activity R C) (i : Nat) :
    (watch id b other).phase? i = b.phase? i := by
  unfold watch
  split
  · rfl
  · have hfind := find?_modify b other.id i
      (f := fun t => { t with watchers := t.watchers ++ [id] }) fun _ => rfl
    rw [phase?, hfind, phase?]
    cases b.find? i with
    | none => rfl
    | some t =>
      simp only [Option.map_some]
      split <;> rfl

theorem phase?_await (b : Board R C K) {id : Nat} (others : List (Activity R C)) (next : C)
    {i : Nat} (h : i ≠ id) : (b.await id others next).phase? i = b.phase? i :=
  await_induction (motive := fun c => c.phase? i = b.phase? i) (phase?_setPhase_of_ne b _ h)
    fun c other hc => (phase?_watch c id other i).trans hc

theorem phase?_await_self {id : Nat} {p : Phase C} (h : b.phase? id = some p)
    (others : List (Activity R C)) (next : C) :
    (b.await id others next).phase? id = some (.waiting others.length next) :=
  await_induction (motive := fun c => c.phase? id = some (.waiting others.length next))
    (phase?_setPhase_self h _) fun c other hc => (phase?_watch c id other id).trans hc

theorem phase?_finish (b : Board R C K) {id : Nat} (failure : Option Failure) {i : Nat}
    (h : i ≠ id) : (b.finish id failure).phase? i = b.phase? i :=
  (phase?_of_activities (activities_queueAll _ _) i).trans (phase?_setPhase_of_ne b _ h)

theorem phase?_finish_self {id : Nat} {p : Phase C} (h : b.phase? id = some p) (failure : Option Failure) :
    (b.finish id failure).phase? id = some (.over failure) :=
  (phase?_of_activities (activities_queueAll _ _) _).trans (phase?_setPhase_self h _)

theorem phase?_spawn {i : Nat} (h : b.phase? i ≠ none) (role : R) (next : C) :
    (b.spawn role next).phase? i = b.phase? i := by
  obtain ⟨t, ht⟩ : ∃ t, b.find? i = some t := by
    cases hfind : b.find? i with
    | some t => exact ⟨t, rfl⟩
    | none => simp [phase?, hfind] at h
  have hspawn : (b.spawn role next).find? i = some t := by
    unfold find? spawn
    rw [List.find?_append]
    exact Option.or_eq_some_iff.mpr (.inl ht)
  simp [phase?, hspawn, ht]

theorem phase?_spawn_of_ne {i : Nat} (hi : i ≠ b.nextId) (role : R) (next : C) :
    (b.spawn role next).phase? i = b.phase? i := by
  unfold phase? find? spawn
  rw [List.find?_append]
  simp [Ne.symm hi]

theorem IsSound.phase?_nextId (h : b.IsSound) : b.phase? b.nextId = none := by
  cases hphase : b.phase? b.nextId with
  | none => rfl
  | some q =>
    obtain ⟨role, hmem⟩ := IsSound.task_of_phase? hphase
    exact absurd (h.lt_nextId _ hmem) (Nat.lt_irrefl _)

theorem IsSound.phase?_spawn_self (h : b.IsSound) (role : R) (next : C) :
    (b.spawn role next).phase? b.nextId = some (.ready next) := by
  have hnone : b.find? b.nextId = none := by
    have hphase := h.phase?_nextId
    rwa [phase?, Option.map_eq_none_iff] at hphase
  have hspawn : (b.spawn role next).find? b.nextId =
      some { id := b.nextId, role, phase := .ready next } := by
    unfold find? at hnone ⊢
    unfold Board.spawn
    rw [List.find?_append, hnone]
    simp
  simp [phase?, hspawn]

theorem phase?_remove (b : Board R C K) {id i : Nat} (h : i ≠ id) :
    (b.remove id).phase? i = b.phase? i := by
  have hfind : (b.remove id).find? i = b.find? i := by
    simp only [find?, remove, List.find?_filter]
    congr 1
    funext t
    by_cases hti : t.id = i <;> simp [hti, h]
  rw [phase?, hfind, phase?]

theorem phase?_remove_self (b : Board R C K) (id : Nat) : (b.remove id).phase? id = none := by
  have hfind : (b.remove id).find? id = none := by
    simp [find?, remove]
  rw [phase?, hfind, Option.map_none]

theorem plan?_goOn {id : Nat} {q r : Phase C} (hphase : b.phase? id = some q)
    (hplan : r.plan? = q.plan?) (i : Nat) : (b.setPhase id r).plan? i = b.plan? i := by
  by_cases hi : i = id
  · subst hi
    rw [plan?, phase?_setPhase, if_pos rfl, plan?_of_phase? hphase, hphase]
    exact hplan
  · rw [plan?, phase?_setPhase_of_ne b r hi, plan?]

/-- Waking changes nothing about what the activities do when they go on. -/
theorem plan?_wake (b : Board R C K) (id i : Nat) : (b.wake id).plan? i = b.plan? i := by
  unfold wake
  split
  case h_1 next hphase => exact plan?_goOn hphase (r := .ready next) rfl i
  case h_2 => rfl

theorem plan?_count (b : Board R C K) (id i : Nat) : (b.count id).plan? i = b.plan? i := by
  unfold count
  split
  case h_1 n next hphase =>
    split
    · exact plan?_goOn hphase (r := .ready next) rfl i
    · exact plan?_goOn hphase (r := .waiting (n - 1) next) rfl i
  case h_2 => rfl

/-! ## The roster -/

/-- The activities that are to go on or to wake by a job on the agenda. -/
def goers (b : Board R C K) : List Nat := b.jobs.filterMap Job.goer?

/-- Is the activity of a job in the phase for it? -/
def Suits (b : Board R C K) : Job K → Prop
  | .run id => ∃ next, b.phase? id = some (.ready next)
  | .wake id => ∃ next, b.phase? id = some (.asleep next)
  | _ => True

/-- The activities are in the phases that the agenda has them in, and on it once at most. -/
structure IsRostered (b : Board R C K) : Prop where
  nodup : b.goers.Nodup
  suits : ∀ j ∈ b.jobs, b.Suits j

theorem isRostered_empty : IsRostered ({} : Board R C K) := by
  refine ⟨List.nodup_nil, fun j hj => ?_⟩
  cases hj

theorem suits_congr {j : Job K} (h : b.Suits j)
    (hphase : ∀ i, j.goer? = some i → c.phase? i = b.phase? i) : c.Suits j := by
  cases j with
  | run id =>
    obtain ⟨next, hnext⟩ := h
    exact ⟨next, (hphase id rfl).trans hnext⟩
  | wake id =>
    obtain ⟨next, hnext⟩ := h
    exact ⟨next, (hphase id rfl).trans hnext⟩
  | _ => trivial

theorem suits_of_goer?_eq_none {j : Job K} (h : j.goer? = none) : b.Suits j := by
  cases j with
  | run id => cases h
  | wake id => cases h
  | _ => trivial

theorem mem_goers {j : Job K} (hj : j ∈ b.jobs) {i : Nat} (hi : j.goer? = some i) : i ∈ b.goers :=
  List.mem_filterMap.mpr ⟨j, hj, hi⟩

namespace IsRostered

/-- Who is to go on or to wake is ready or asleep. -/
theorem phase?_of_mem_goers (h : b.IsRostered) {i : Nat} (hi : i ∈ b.goers) :
    ∃ next, b.phase? i = some (.ready next) ∨ b.phase? i = some (.asleep next) := by
  obtain ⟨j, hj, hgoer⟩ := List.mem_filterMap.mp hi
  have hsuits := h.suits j hj
  cases j with
  | run id =>
    cases hgoer
    obtain ⟨next, hnext⟩ := hsuits
    exact ⟨next, .inl hnext⟩
  | wake id =>
    cases hgoer
    obtain ⟨next, hnext⟩ := hsuits
    exact ⟨next, .inr hnext⟩
  | _ => cases hgoer

/-- Who is to go on or to wake is there. -/
theorem phase?_ne_none (h : b.IsRostered) {i : Nat} (hi : i ∈ b.goers) : b.phase? i ≠ none := by
  obtain ⟨next, hphase | hphase⟩ := h.phase?_of_mem_goers hi <;> simp [hphase]

theorem not_mem_goers (h : b.IsRostered) {i : Nat} {q : Phase C} (hphase : b.phase? i = some q)
    (hready : ∀ next, q ≠ .ready next) (hasleep : ∀ next, q ≠ .asleep next) : i ∉ b.goers := by
  intro hi
  obtain ⟨next, hnext | hnext⟩ := h.phase?_of_mem_goers hi
  · exact hready next (Option.some.inj (hphase.symm.trans hnext))
  · exact hasleep next (Option.some.inj (hphase.symm.trans hnext))

/-- Who has nothing left to do is not to go on. -/
theorem not_mem_goers_of_over (h : b.IsRostered) {i : Nat}
    (hover : ∀ t ∈ b.tasks, t.id = i → t.plan? = none) : i ∉ b.goers := by
  intro hi
  obtain ⟨next, hphase | hphase⟩ := h.phase?_of_mem_goers hi <;>
    obtain ⟨role, htask⟩ := IsSound.task_of_phase? hphase <;>
    cases hover _ htask rfl

/-- Other jobs may come up. -/
theorem of_perm (h : b.IsRostered) (js : List (Job K)) (hjobs : c.jobs.Perm (js ++ b.jobs))
    (hjs : ∀ j ∈ js, j.goer? = none) (hphase : ∀ i ∈ b.goers, c.phase? i = b.phase? i) :
    c.IsRostered := by
  refine ⟨?_, fun j hj => ?_⟩
  · have hgoers : c.goers.Perm b.goers := by
      refine (hjobs.filterMap Job.goer?).trans ?_
      rw [List.filterMap_append, List.filterMap_eq_nil_iff.mpr hjs]
      exact .refl _
    exact hgoers.nodup_iff.mpr h.nodup
  · obtain hj | hj := List.mem_append.mp (hjobs.mem_iff.mp hj)
    · exact suits_of_goer?_eq_none (hjs j hj)
    · exact suits_congr (h.suits j hj) fun i hi => hphase i (mem_goers hj hi)

/-- A job comes up for an activity that has none. -/
theorem join (h : b.IsRostered) {j : Job K} (hjobs : c.jobs.Perm (j :: b.jobs)) {id : Nat}
    (hgoer : j.goer? = some id) (hid : id ∉ b.goers) (hsuits : c.Suits j)
    (hphase : ∀ i ∈ b.goers, c.phase? i = b.phase? i) : c.IsRostered := by
  refine ⟨?_, fun i hi => ?_⟩
  · have hgoers : c.goers.Perm (id :: b.goers) := by
      refine (hjobs.filterMap Job.goer?).trans ?_
      rw [List.filterMap_cons_some hgoer]
      exact .refl _
    exact hgoers.nodup_iff.mpr (List.nodup_cons.mpr ⟨hid, h.nodup⟩)
  · obtain rfl | hi := List.mem_cons.mp (hjobs.mem_iff.mp hi)
    · exact hsuits
    · exact suits_congr (h.suits i hi) fun k hk => hphase k (mem_goers hi hk)

theorem of_sublist (h : b.IsRostered) (hjobs : c.jobs.Sublist b.jobs)
    (hactivities : c.activities = b.activities) : c.IsRostered :=
  ⟨h.nodup.sublist (hjobs.filterMap _), fun j hj =>
    suits_congr (h.suits j (hjobs.subset hj)) fun i _ => phase?_of_activities hactivities i⟩

theorem disarm [DecidableEq K] (h : b.IsRostered) (key : K) : (b.disarm key).IsRostered := by
  refine h.of_sublist ?_ rfl
  rw [jobs_disarm]
  exact List.filter_sublist

theorem disarmAll [DecidableEq K] (h : b.IsRostered) (keys : List K) :
    (keys.foldl Board.disarm b).IsRostered :=
  h.of_sublist (jobs_disarmAll_sublist keys b) (activities_disarmAll keys b)

theorem arm (h : b.IsRostered) (delay : Nat) (key : K) : (b.arm delay key).IsRostered :=
  h.of_perm [.fire key] (jobs_arm b delay key) (by simp [Job.goer?]) fun _ _ => rfl

/-- Whoever is next is not on the roster any more. -/
theorem next (h : b.IsRostered) {j : Job K} (hnext : b.next? = some (j, c)) :
    c.IsRostered ∧ c.Suits j ∧ ∀ i, j.goer? = some i → i ∉ c.goers := by
  have hjobs := jobs_of_next? hnext
  have hactivities := activities_of_next? hnext
  refine ⟨h.of_sublist ?_ hactivities, ?_, fun i hi => ?_⟩
  · rw [hjobs]
    exact List.sublist_cons_self _ _
  · exact suits_congr (h.suits j (mem_jobs_of_next? hnext)) fun i _ => phase?_of_activities hactivities i
  · have hnodup := h.nodup
    rw [goers, hjobs, List.filterMap_cons_some hi] at hnodup
    exact (List.nodup_cons.mp hnodup).1

theorem spawn (h : b.IsRostered) (hsound : b.IsSound) (role : R) (next : C) :
    (b.spawn role next).IsRostered := by
  refine h.join (jobs_queue b (.run b.nextId)) rfl (fun hmem => ?_) ⟨next, ?_⟩ fun i hi => ?_
  · exact h.phase?_ne_none hmem hsound.phase?_nextId
  · exact hsound.phase?_spawn_self role next
  · exact phase?_spawn (h.phase?_ne_none hi) role next

/-! ### An activity that is not on the roster -/

section Off

variable {id : Nat} (hid : id ∉ b.goers)

include hid

theorem sleep (h : b.IsRostered) {q : Phase C} (hphase : b.phase? id = some q) (time : Nat)
    (next : C) : (b.sleep id time next).IsRostered := by
  have hself : (b.sleep id time next).phase? id = some (.asleep next) := by
    refine (phase?_setPhase b id (.asleep next) id).trans ?_
    rw [if_pos rfl, hphase, Option.map_some]
  refine h.join (Agenda.jobs_arm b.agenda time (.wake id)) rfl hid ⟨next, hself⟩ fun i hi => ?_
  exact phase?_setPhase_of_ne b _ fun heq => hid (heq ▸ hi)

theorem await (h : b.IsRostered) (others : List (Activity R C)) (next : C) :
    (b.await id others next).IsRostered := by
  have hwait : (b.setPhase id (.waiting others.length next)).IsRostered :=
    h.of_perm [] (.refl _) (by simp) fun i hi =>
      phase?_setPhase_of_ne b _ fun heq => hid (heq ▸ hi)
  refine await_induction (motive := IsRostered) hwait fun c other hc => ?_
  refine hc.of_perm (if other.isOver then [.count id] else []) ?_ ?_ fun i _ =>
    phase?_watch c id other i
  · unfold watch
    split
    · exact jobs_queue c (.count id)
    · exact .refl _
  · intro j hj
    split at hj
    · rw [List.mem_singleton.mp hj]
      rfl
    · cases hj

theorem finish (h : b.IsRostered) (failure : Option Failure) :
    (b.finish id failure).IsRostered := by
  refine h.of_perm _ (jobs_queueAll _ _) (fun j hj => ?_) fun i hi =>
    phase?_finish b failure fun heq => hid (heq ▸ hi)
  obtain rfl | hj := List.mem_cons.mp hj
  · rfl
  · obtain ⟨i, -, rfl⟩ := List.mem_map.mp hj
    rfl

theorem remove (h : b.IsRostered) : (b.remove id).IsRostered :=
  h.of_perm [] (.refl _) (by simp) fun i hi => phase?_remove b fun heq => hid (heq ▸ hi)

/-- It goes on. -/
theorem goOn (h : b.IsRostered) {q : Phase C} (hphase : b.phase? id = some q) (next : C) :
    ((b.setPhase id (.ready next)).queue (.run id)).IsRostered := by
  refine h.join (jobs_queue (b.setPhase id (.ready next)) (.run id)) rfl hid ⟨next, ?_⟩
    fun i hi => ?_
  · refine (phase?_setPhase b id (.ready next) id).trans ?_
    rw [if_pos rfl, hphase, Option.map_some]
  · exact phase?_setPhase_of_ne b _ fun heq => hid (heq ▸ hi)

theorem wake (h : b.IsRostered) : (b.wake id).IsRostered := by
  unfold Board.wake
  split
  case h_1 next hphase => exact goOn hid h hphase next
  case h_2 => exact h

end Off

theorem count (h : b.IsRostered) (id : Nat) : (b.count id).IsRostered := by
  unfold Board.count
  split
  case h_1 n next hphase =>
    have hid : id ∉ b.goers := h.not_mem_goers hphase (by simp) (by simp)
    split
    · exact goOn hid h hphase next
    · exact h.of_perm [] (.refl _) (by simp) fun i hi =>
        phase?_setPhase_of_ne b _ fun heq => hid (heq ▸ hi)
  case h_2 => exact h

end IsRostered

end Board

end Workbench.Turn
