import Mathlib.Algebra.Order.BigOperators.Group.List
import Mathlib.Algebra.Order.Group.Nat
import Workbench.Proofs.Turn.Gathering

/-!
# What is left to be done on a board

Each activity has so much left to do, and each job is to be done. An activity that waits for others has
to be told of the end of each; so that this is no additional burden, two are counted for each of the
others as long as nobody waits for them.
-/
namespace Workbench.Turn

variable {R C K : Type} {w : C → Nat} {u i : Nat}

/-- What is left to be done in a phase. To go on after a pause is one thing more. -/
def Phase.burden (w : C → Nat) : Phase C → Nat
  | .ready next => w next
  | .asleep next | .waiting _ next => w next + 1
  | .over _ => 0

/-- What an activity has left to do. When it ends, those who wait for that are told. -/
def Activity.burden (w : C → Nat) (a : Activity R C) : Nat :=
  a.phase.burden w + if a.isOver then 0 else a.watchers.length

theorem Activity.burden_watched {a : Activity R C} (h : a.isOver = false) :
    Activity.burden w { a with watchers := a.watchers ++ [u] } = a.burden w + 1 := by
  have hlive : Activity.isOver { a with watchers := a.watchers ++ [u] } = false := h
  unfold Activity.burden
  rw [hlive, h]
  simp [Nat.add_assoc]

namespace Board

variable {b c : Board R C K}

/-! ## The load of all jobs -/

/-- What the activities have left to do, and the number of the jobs. -/
def total (w : C → Nat) (b : Board R C K) : Nat := b.load (Activity.burden w) fun _ => true

/-- A job is taken up. -/
theorem total_next {j : Job K} (hnext : b.next? = some (j, c)) : c.total w + 1 = b.total w :=
  (load_of_next? hnext).symm

/-- One that sleeps is woken. -/
theorem IsSound.total_wake (h : b.IsSound) {next : C} (hphase : b.phase? i = some (.asleep next)) :
    (b.wake i).total w = b.total w := by
  obtain ⟨a, -, ha, rfl, hasleep⟩ := find?_of_phase? hphase
  have hwake : b.wake a.id = (b.setPhase a.id (.ready next)).queue (.run a.id) := by
    unfold wake
    rw [hphase]
  have hload := h.load_setPhase (w := Activity.burden w) (p := fun _ => true) ha (.ready next)
  have hqueue := load_queue (b := b.setPhase a.id (.ready next)) (w := Activity.burden w)
    (p := fun _ => true) (.run a.id)
  rw [total, hwake, total]
  simp only [Activity.burden, Activity.isOver, hasleep, Phase.burden, List.countP_singleton,
    if_true] at hload hqueue
  simp only [Bool.false_eq_true, if_false] at hload
  omega

/-- One begins to sleep. -/
theorem IsSound.total_sleep (h : b.IsSound) {next : C} (hphase : b.phase? i = some (.ready next))
    (time : Nat) (next' : C) :
    (b.sleep i time next').total w + w next = b.total w + (w next' + 2) := by
  obtain ⟨a, -, ha, rfl, hready⟩ := find?_of_phase? hphase
  have hload := h.load_sleep (w := Activity.burden w) (p := fun _ => true) ha time next'
  rw [total, total]
  simp only [Activity.burden, Activity.isOver, hready, Phase.burden, List.countP_singleton,
    if_true] at hload
  simp only [Bool.false_eq_true, if_false] at hload
  omega

/-- One ends. -/
theorem IsSound.total_finish (h : b.IsSound) {next : C} (hphase : b.phase? i = some (.ready next))
    (failure : Option Failure) : (b.finish i failure).total w + w next = b.total w + 1 := by
  obtain ⟨a, hfind, ha, rfl, hready⟩ := find?_of_phase? hphase
  have hload := h.load_finish (w := Activity.burden w) (p := fun _ => true) hfind failure
  rw [total, total]
  simp only [Activity.burden, Activity.isOver, hready, Phase.burden, List.countP_cons,
    List.countP_true, List.length_map, if_true] at hload
  simp only [Bool.false_eq_true, if_false] at hload
  omega

theorem total_remove (b : Board R C K) (i : Nat) : (b.remove i).total w ≤ b.total w :=
  Nat.add_le_add_right (List.Sublist.sum_le_sum ((List.filter_sublist).map _)
    fun _ _ => Nat.zero_le _) _

/-- Another one comes. -/
theorem total_spawn (role : R) (next : C) :
    (b.spawn role next).total w = b.total w + w next + 1 := by
  have hload := load_spawn (b := b) (w := Activity.burden w) (p := fun _ => true) role next
  rw [total, hload]
  simp only [Activity.burden, Activity.isOver, Phase.burden, List.countP_singleton, if_true,
    List.length_nil]
  simp only [Bool.false_eq_true, if_false, Nat.add_zero]
  rfl

theorem total_arm (b : Board R C K) (delay : Nat) (key : K) :
    (b.arm delay key).total w = b.total w + 1 := by
  have hjobs : (b.arm delay key).jobs.Perm ([.fire key] ++ b.jobs) := jobs_arm b delay key
  exact load_of_perm (b := b) (c := b.arm delay key) rfl hjobs

theorem total_disarm [DecidableEq K] (b : Board R C K) (key : K) :
    (b.disarm key).total w ≤ b.total w := by
  refine Nat.add_le_add_left ?_ _
  rw [jobs_disarm]
  exact (List.filter_sublist).countP_le

/-! ## One that may wait for the others -/

/-- The number of the other activities. -/
def others (u : Nat) (b : Board R C K) : Nat := (b.tasks.map (·.id)).countP (· ≠ u)

/-- What is left to be done, with one activity that may wait for the others. -/
def burden (w : C → Nat) (u : Nat) (b : Board R C K) : Nat :=
  b.total w + if b.awaited u = 0 then 2 * b.others u else 0

theorem others_put {plan? : Option C} (h : c.tasks = b.tasks.map (Task.put i plan?)) :
    c.others u = b.others u := by
  have hid : ((fun t : Task R C => t.id) ∘ Task.put i plan?) = fun t => t.id :=
    funext fun t => Task.put_id i plan? t
  rw [others, h, List.map_map, hid, others]

/-- One that does not wait gets into a phase in which it does not wait. -/
theorem awaited_change {p : Phase C} (hphase : b.phase? i = some p) (hp : p.awaited = 0) {q : Phase C}
    (hself : c.phase? i = some q) (hq : q.awaited = 0) (hother : i ≠ u → c.phase? u = b.phase? u) :
    c.awaited u = b.awaited u := by
  by_cases hi : i = u
  · subst hi
    rw [awaited_of_phase? hself, awaited_of_phase? hphase, hp, hq]
  · exact awaited_congr (hother hi)

/-- How the burden changes with the total while the others stay and nobody begins to wait. -/
theorem burden_add {m n : Nat} (hawaited : c.awaited u = b.awaited u)
    (hothers : c.others u = b.others u)
    (htotal : c.total w + m = b.total w + n) :
    c.burden w u + m = b.burden w u + n := by
  unfold burden
  rw [hawaited, hothers]
  omega

/-- A job is taken up. -/
theorem burden_next {j : Job K} (hnext : b.next? = some (j, c)) :
    c.burden w u + 1 = b.burden w u := by
  have hactivities := activities_of_next? hnext
  have hothers : c.others u = b.others u := by rw [others, tasks, hactivities, others, tasks]
  exact burden_add (m := 1) (n := 0) (awaited_congr (phase?_of_activities hactivities u)) hothers
    (total_next hnext)

/-- One that sleeps is woken. -/
theorem IsSound.burden_wake (h : b.IsSound) {next : C} (hphase : b.phase? i = some (.asleep next)) :
    (b.wake i).burden w u = b.burden w u := by
  have hwake : b.wake i = (b.setPhase i (.ready next)).queue (.run i) := by
    unfold wake
    rw [hphase]
  have hself := phase?_setPhase_self hphase (.ready next)
  have htotal := h.total_wake (w := w) hphase
  rw [hwake] at htotal ⊢
  refine burden_add (m := 0) (n := 0) (awaited_change hphase rfl hself rfl fun hi => ?_) ?_ htotal
  · exact phase?_setPhase_of_ne b _ (Ne.symm hi)
  · exact others_put (tasks_setPhase b i (.ready next))

/-- One begins to sleep. -/
theorem IsSound.burden_sleep (h : b.IsSound) {next : C} (hphase : b.phase? i = some (.ready next))
    (time : Nat) (next' : C) :
    (b.sleep i time next').burden w u + w next = b.burden w u + (w next' + 2) := by
  refine burden_add (awaited_change hphase rfl (phase?_setPhase_self hphase (.asleep next')) rfl
    fun hi => ?_) ?_ (h.total_sleep hphase time next')
  · exact phase?_setPhase_of_ne b _ (Ne.symm hi)
  · exact others_put (tasks_sleep b i time next')

/-- One ends. -/
theorem IsSound.burden_finish (h : b.IsSound) {next : C} (hphase : b.phase? i = some (.ready next))
    (failure : Option Failure) :
    (b.finish i failure).burden w u + w next = b.burden w u + 1 := by
  refine burden_add (awaited_change hphase rfl (phase?_finish_self hphase failure) rfl fun hi => ?_) ?_
    (h.total_finish hphase failure)
  · exact phase?_finish b failure (Ne.symm hi)
  · exact others_put (tasks_finish b i failure)

/-- One that is over leaves. -/
theorem IsSound.burden_remove (h : b.IsSound)
    (hover : ∀ a ∈ b.activities, a.id = i → a.isOver = true) :
    (b.remove i).burden w u ≤ b.burden w u := by
  by_cases hi : ∃ a ∈ b.activities, a.id = i
  · obtain ⟨a, ha, rfl⟩ := hi
    have htotal := total_remove (w := w) b a.id
    have hawaited : (b.remove a.id).awaited u = b.awaited u := by
      by_cases hu : a.id = u
      · subst hu
        have hplan := Activity.isOver_iff.mp (hover a ha rfl)
        rw [awaited, phase?_remove_self, awaited_of_phase? (h.phase?_of_mem ha)]
        cases hphase : a.phase <;> simp_all [Phase.plan?, Phase.awaited]
      · exact awaited_congr (phase?_remove b (Ne.symm hu))
    have hothers : (b.remove a.id).others u ≤ b.others u := by
      unfold others
      rw [tasks_remove]
      exact (List.filter_sublist.map _).countP_le
    unfold burden
    rw [hawaited]
    split <;> omega
  · have hsame : b.remove i = b := by
      have hkeep : b.activities.filter (·.id ≠ i) = b.activities :=
        List.filter_eq_self.mpr fun x hx => by simpa using fun hid => hi ⟨x, hx, hid⟩
      rw [Board.remove, hkeep]
    rw [hsame]

/-- Another one comes while nobody waits. -/
theorem burden_spawn (hwait : b.awaited u = 0) (hne : b.nextId ≠ u) (role : R) (next : C) :
    (b.spawn role next).burden w u = b.burden w u + w next + 3 := by
  have hawaited := awaited_congr (phase?_spawn_of_ne (Ne.symm hne) role next)
  have hothers : (b.spawn role next).others u = b.others u + 1 := by
    simp [others, hne]
  unfold burden
  rw [hawaited, hwait, hothers, total_spawn, if_pos rfl, if_pos rfl]
  omega

/-- One begins to wait for all others. -/
theorem IsSound.burden_await (h : b.IsSound) {next : C} (hphase : b.phase? u = some (.ready next))
    {others : List (Activity R C)} (hothers : others = b.activities.filter (·.id ≠ u))
    (hsome : others ≠ []) (next' : C) :
    (b.await u others next').burden w u + w next + others.length =
      b.burden w u + w next' + 1 := by
  obtain ⟨a, -, ha, rfl, hready⟩ := find?_of_phase? hphase
  have hmem (x : Activity R C) (hx : x ∈ others) : x ∈ b.activities ∧ x.id ≠ a.id := by
    rw [hothers] at hx
    simpa using List.mem_filter.mp hx
  have hload := h.load_await (w := Activity.burden w) (p := fun _ => true) ha
    (by simp [hready, Phase.plan?]) hmem (fun x _ hlive => Activity.burden_watched hlive) rfl next'
  have hself := phase?_await_self hphase others next'
  have hcount : b.others a.id = others.length := by
    rw [hothers, Board.others, tasks, List.map_map, List.countP_map, List.countP_eq_length_filter]
    rfl
  have hzero : (b.await a.id others next').awaited a.id ≠ 0 := by
    rw [awaited_of_phase? hself]
    exact fun hlength => hsome (List.length_eq_zero_iff.mp hlength)
  have hidle : b.awaited a.id = 0 := awaited_of_phase? hphase
  unfold burden total
  rw [if_neg hzero, if_pos hidle, hcount]
  simp only [Activity.burden, Activity.isOver, hready, Phase.burden] at hload
  simp only [Bool.false_eq_true, if_false] at hload
  omega

/-- The end of one of the others is counted. -/
theorem Gathers.burden_count (h : Gathers u none b) {k : Nat} (hnext : b.next? = some (.count k, c)) :
    (c.count k).burden w u = c.burden w u := by
  have hactivities := activities_of_next? hnext
  have hsound : c.IsSound := h.sound.retimed (retimed_of_next? hnext)
  have hphases := phase?_of_activities hactivities
  unfold Board.count
  split
  case h_2 => rfl
  case h_1 n next hphase =>
  have hgone := (h.count hnext).2
  unfold Board.count at hgone
  obtain ⟨a, -, ha, rfl, hwaiting⟩ := find?_of_phase? hphase
  obtain rfl : a.id = u := by
    refine Decidable.of_not_not fun hne => h.alone a (hactivities ▸ ha) hne ?_
    rw [Activity.job?, hwaiting]
  have hpos : n ≠ 0 := by
    rintro rfl
    exact h.positive next ((hphases a.id).symm.trans hphase)
  have hawaited : c.awaited a.id = n := awaited_of_phase? hphase
  rw [hphase] at hgone
  dsimp only at hgone
  split
  case isTrue hlast =>
    rw [if_pos hlast] at hgone
    have hself : ((c.setPhase a.id (.ready next)).queue (.run a.id)).phase? a.id =
      some (.ready next) := phase?_setPhase_self hphase _
    have hnobody := hgone (by rw [← awaited_congr (hphases a.id), hawaited]; omega)
      (awaited_of_phase? hself)
    have hothers : ((c.setPhase a.id (.ready next)).queue (.run a.id)).others a.id = 0 := by
      refine List.countP_eq_zero.mpr fun k hk => ?_
      obtain ⟨t, ht, rfl⟩ := List.mem_map.mp hk
      obtain ⟨x, hx, rfl⟩ := List.mem_map.mp ht
      simp [Activity.task, hnobody x hx]
    have hload := hsound.load_setPhase (w := Activity.burden w) (p := fun _ => true) ha
      (.ready next)
    have hqueue := load_queue (b := c.setPhase a.id (.ready next)) (w := Activity.burden w)
      (p := fun _ => true) (.run a.id)
    unfold burden total
    rw [hothers, awaited_of_phase? hself, hawaited, if_neg hpos]
    simp only [Activity.burden, Activity.isOver, hwaiting, Phase.burden, List.countP_singleton,
      if_true] at hload hqueue
    simp only [Bool.false_eq_true, if_false] at hload
    simp only [Phase.awaited, if_true]
    omega
  case isFalse hmore =>
    have hself : (c.setPhase a.id (.waiting (n - 1) next)).phase? a.id =
      some (.waiting (n - 1) next) := phase?_setPhase_self hphase _
    have hload := hsound.load_setPhase (w := Activity.burden w) (p := fun _ => true) ha
      (.waiting (n - 1) next)
    unfold burden total
    rw [awaited_of_phase? hself, hawaited, if_neg hpos, if_neg (by simp only [Phase.awaited]; omega)]
    simp only [Activity.burden, Activity.isOver, hwaiting, Phase.burden, Bool.false_eq_true,
      if_false] at hload
    omega

end Board

/-! ## The effort that is left

What the activities have left to do and the ends that are still to be noticed, whoever waits for whom.
Only those who look whether others are done wake up for nothing. Timers count for nothing here. -/

variable {idle : C → Bool}

/-- What is left to be done in a phase, its end included. To wake up is one thing more, but not for
those who only look. -/
def Phase.effort (w : C → Nat) (idle : C → Bool) : Phase C → Nat
  | .ready next | .waiting _ next => w next + 1
  | .asleep next => w next + if idle next then 1 else 2
  | .over _ => 0

/-- Is it that an end is noticed? -/
def Job.isEnd : Job K → Bool
  | .ended _ => true
  | _ => false

namespace Board

variable {b c : Board R C K} {i : Nat}

def effort (w : C → Nat) (idle : C → Bool) (b : Board R C K) : Nat :=
  b.load (fun a => a.phase.effort w idle) Job.isEnd

variable (w : C → Nat) (idle : C → Bool)

theorem effort_next {j : Job K} (hnext : b.next? = some (j, c)) :
    b.effort w idle = c.effort w idle + if j.isEnd then 1 else 0 := by
  rw [effort, load_of_next? hnext, List.countP_singleton]
  rfl

/-- Another job comes that is no end. -/
theorem effort_cons (hactivities : c.activities = b.activities) {j : Job K}
    (hjobs : c.jobs.Perm (j :: b.jobs)) (hj : j.isEnd = false) : c.effort w idle = b.effort w idle := by
  have hperm : c.jobs.Perm ([j] ++ b.jobs) := hjobs
  rw [effort, load_of_perm hactivities hperm, List.countP_singleton, hj]
  rfl

theorem effort_queue (b : Board R C K) {j : Job K} (hj : j.isEnd = false) :
    (b.queue j).effort w idle = b.effort w idle := effort_cons w idle rfl (jobs_queue b j) hj

theorem effort_spawn (b : Board R C K) (role : R) (next : C) :
    (b.spawn role next).effort w idle = b.effort w idle + (w next + 1) := by
  rw [effort, load_spawn, List.countP_singleton]
  rfl

/-! ## An activity gets on -/

theorem IsSound.effort_setPhase (h : b.IsSound) {p : Phase C} (hphase : b.phase? i = some p) (q : Phase C) :
    (b.setPhase i q).effort w idle + p.effort w idle = b.effort w idle + q.effort w idle := by
  obtain ⟨a, -, ha, rfl, rfl⟩ := find?_of_phase? hphase
  exact h.load_setPhase (w := fun a => a.phase.effort w idle) ha q

/-- One that sleeps is woken. -/
theorem IsSound.effort_wake (h : b.IsSound) {next : C} (hphase : b.phase? i = some (.asleep next)) :
    (b.wake i).effort w idle + (if idle next then 0 else 1) = b.effort w idle := by
  have hwake : b.wake i = (b.setPhase i (.ready next)).queue (.run i) := by
    unfold wake
    rw [hphase]
  have hset : (b.setPhase i (.ready next)).effort w idle + _ = _ :=
    h.effort_setPhase w idle hphase (.ready next)
  rw [hwake, effort_queue w idle _ rfl]
  simp only [Phase.effort] at hset
  split at hset <;> split <;> first | contradiction | omega

/-- An end is counted by one that waits. -/
theorem IsSound.effort_count (h : b.IsSound) {n : Nat} {next : C}
    (hphase : b.phase? i = some (.waiting n next)) : (b.count i).effort w idle = b.effort w idle := by
  have hset (q : Phase C) (hq : q.effort w idle = w next + 1) :
      (b.setPhase i q).effort w idle = b.effort w idle := by
    have hchange : (b.setPhase i q).effort w idle + _ = _ := h.effort_setPhase w idle hphase q
    rw [hq] at hchange
    exact Nat.add_right_cancel hchange
  unfold count
  rw [hphase]
  dsimp only
  split
  · rw [effort_queue w idle _ rfl]
    exact hset _ rfl
  · exact hset _ rfl

/-- One begins to sleep. -/
theorem IsSound.effort_sleep (h : b.IsSound) {p : C} (hphase : b.phase? i = some (.ready p)) (time : Nat)
    (q : C) : (b.sleep i time q).effort w idle + w p = b.effort w idle + w q + if idle q then 0 else 1 := by
  have hset : (b.setPhase i (.asleep q)).effort w idle + _ = _ := h.effort_setPhase w idle hphase (.asleep q)
  have harm : (b.sleep i time q).effort w idle = (b.setPhase i (.asleep q)).effort w idle :=
    effort_cons w idle (c := b.sleep i time q) rfl (Agenda.jobs_arm b.agenda time (.wake i)) rfl
  simp only [Phase.effort] at hset
  split at hset <;> split <;> first | contradiction | omega

theorem effort_watch (b : Board R C K) (i : Nat) (other : Activity R C) :
    (watch i b other).effort w idle = b.effort w idle := by
  unfold watch
  split
  · exact effort_queue w idle b rfl
  · unfold effort load modify
    congr 2
    rw [List.map_map]
    refine List.map_congr_left fun a _ => ?_
    rw [Function.comp_apply]
    split <;> rfl

/-- One begins to wait for others. -/
theorem IsSound.effort_await (h : b.IsSound) {p : C} (hphase : b.phase? i = some (.ready p))
    (others : List (Activity R C)) (q : C) :
    (b.await i others q).effort w idle + w p = b.effort w idle + w q := by
  have hset : (b.setPhase i (.waiting others.length q)).effort w idle + _ = _ :=
    h.effort_setPhase w idle hphase (.waiting others.length q)
  have hwatch : (b.await i others q).effort w idle =
      (b.setPhase i (.waiting others.length q)).effort w idle :=
    await_induction (motive := fun c => c.effort w idle = _) rfl fun c other hc =>
      (effort_watch w idle c i other).trans hc
  simp only [Phase.effort] at hset
  omega

/-- One ends. That is still to be noticed. -/
theorem IsSound.effort_finish (h : b.IsSound) {p : C} (hphase : b.phase? i = some (.ready p))
    (failure : Option Failure) : (b.finish i failure).effort w idle + w p = b.effort w idle := by
  obtain ⟨a, hfind, -, rfl, hready⟩ := find?_of_phase? hphase
  have hload := h.load_finish (w := fun a => a.phase.effort w idle) (p := Job.isEnd) hfind failure
  have hcounts : (.ended a.id :: a.watchers.map .count : List (Job K)).countP Job.isEnd = 1 := by
    rw [List.countP_cons_of_pos rfl, List.countP_eq_zero.mpr]
    intro j hj
    obtain ⟨u, -, rfl⟩ := List.mem_map.mp hj
    exact Bool.false_ne_true
  have hpaid : (b.finish a.id failure).effort w idle + (w p + 1) = b.effort w idle + 0 + 1 := by
    rw [hcounts] at hload
    dsimp only at hload
    rw [hready] at hload
    exact hload
  omega

theorem effort_remove (b : Board R C K) (i : Nat) : (b.remove i).effort w idle ≤ b.effort w idle :=
  Nat.add_le_add_right (List.Sublist.sum_le_sum ((List.filter_sublist).map _)
    fun _ _ => Nat.zero_le _) _

/-! ## Timers -/

theorem effort_arm (b : Board R C K) (delay : Nat) (key : K) :
    (b.arm delay key).effort w idle = b.effort w idle :=
  effort_cons w idle (c := b.arm delay key) rfl (jobs_arm b delay key) rfl

theorem effort_disarm [DecidableEq K] (b : Board R C K) (key : K) :
    (b.disarm key).effort w idle = b.effort w idle := by
  unfold effort load
  congr 1
  rw [jobs_disarm, List.countP_filter]
  refine List.countP_congr fun j _ => ?_
  cases j <;> simp [Job.isEnd]

theorem effort_disarmAll [DecidableEq K] (keys : List K) (b : Board R C K) :
    (keys.foldl disarm b).effort w idle = b.effort w idle := by
  induction keys generalizing b with
  | nil => rfl
  | cons key keys ih => rw [List.foldl_cons, ih, effort_disarm]

end Board

end Workbench.Turn
