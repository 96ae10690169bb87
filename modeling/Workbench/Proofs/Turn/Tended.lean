import Workbench.Proofs.Turn.Gathering

/-!
# Boards on which nobody is forgotten

Any number of activities may wait for others. Those that do not wait have a job on the agenda, and
those that do wait for as many ends as are still going to be counted for them. Only activities in
some roles are ever waited for. Alarms are in order, though some may be overdue.
-/
namespace Workbench.Turn

namespace Agenda

variable {K : Type} {a b : Agenda (Job K)}

theorem isSorted_arm (h : a.IsSorted) (delay : Nat) {j : Job K} (hj : j.isAlarm = true) :
    (a.arm delay j).IsSorted := by
  have htidy := isTidy_arm h.isTidy (a.now + delay) hj
  have halarms : (arm { a with now := 0, queued := [] } (a.now + delay) j).alarms =
      (a.arm delay j).alarms := by
    simp [arm]
  refine ⟨?_, ?_⟩ <;> rw [← halarms]
  · exact htidy.alarms
  · exact htidy.sorted

theorem alarms_of_next? {j : Job K} (h : a.next? = some (j, b)) : b.alarms <:+ a.alarms := by
  unfold next? at h
  split at h
  · cases h
    exact List.suffix_rfl
  · split at h
    · cases h
    · cases h
      exact List.dropWhile_suffix _

end Agenda

namespace Board

variable {R C K : Type} {b c : Board R C K} {u i : Nat} {off : Option Nat} {awaitable : R → Bool}

/-- Only activities in some roles are watched. -/
def IsWatched (awaitable : R → Bool) (b : Board R C K) : Prop :=
  ∀ a ∈ b.activities, a.watchers ≠ [] → awaitable a.role = true

/-- Whoever waits does so for as many ends as are going to be counted. -/
structure IsTallied (b : Board R C K) : Prop where
  tally : ∀ u, b.expected u = b.awaited u
  positive : ∀ u next, b.phase? u ≠ some (.waiting 0 next)

/-- Everybody has a job, perhaps but for one who has been taken up, or waits for what will come. -/
structure IsTended (awaitable : R → Bool) (off : Option Nat) (b : Board R C K) : Prop
    extends IsTallied b where
  sound : b.IsSound
  rostered : b.IsRostered
  sorted : b.agenda.IsSorted
  free : ∀ i, off = some i → i ∉ b.goers ∧ i < b.nextId
  manned : b.IsManned off
  watched : b.IsWatched awaitable

theorem IsSound.lt_nextId_of_phase? (h : b.IsSound) {p : Phase C} (hphase : b.phase? i = some p) :
    i < b.nextId := by
  obtain ⟨role, hmem⟩ := IsSound.task_of_phase? hphase
  exact h.lt_nextId _ hmem

/-! ## Who is watched -/

namespace IsWatched

theorem of_modify {f : Activity R C → Activity R C} (h : b.IsWatched awaitable)
    (hf : ∀ a ∈ b.activities, a.id = i → (f a).watchers ≠ [] → awaitable (f a).role = true) :
    (b.modify i f).IsWatched awaitable := by
  intro a ha
  obtain ⟨x, hx, rfl⟩ := List.mem_map.mp ha
  split
  case isTrue hid => exact hf x hx hid
  case isFalse => exact h x hx

theorem setPhase (h : b.IsWatched awaitable) (i : Nat) (q : Phase C) :
    (b.setPhase i q).IsWatched awaitable := h.of_modify fun a ha _ => h a ha

theorem spawn (h : b.IsWatched awaitable) (role : R) (next : C) :
    (b.spawn role next).IsWatched awaitable := by
  intro a ha hsome
  obtain ha | rfl := mem_spawn ha
  · exact h a ha hsome
  · exact absurd rfl hsome

theorem watch (h : b.IsWatched awaitable) {other : Activity R C}
    (hother : ∀ t ∈ b.tasks, t.id = other.id → awaitable t.role = true) :
    (Board.watch i b other).IsWatched awaitable := by
  unfold Board.watch
  split
  · exact h
  · exact h.of_modify fun a ha hid _ => hother a.task (List.mem_map_of_mem ha) hid

theorem watchAll {others : List (Activity R C)} (h : b.IsWatched awaitable)
    (hothers : ∀ o ∈ others, ∀ t ∈ b.tasks, t.id = o.id → awaitable t.role = true) :
    (others.foldl (Board.watch i) b).IsWatched awaitable := by
  induction others generalizing b with
  | nil => exact h
  | cons o os ih =>
    obtain ⟨ho, hos⟩ := List.forall_mem_cons.mp hothers
    refine ih (h.watch ho) fun p hp t ht => hos p hp t ?_
    rwa [tasks_watch] at ht

end IsWatched

/-! ## Ends to be counted -/

/-- To watch another means nothing to a third one. -/
theorem expected_watch_of_ne (hne : u ≠ i) (b : Board R C K) (other : Activity R C) :
    (watch i b other).expected u = b.expected u := by
  unfold watch
  split
  · have hcount : (.count i : Job K).isCountOf u = false := by simpa [Job.isCountOf] using Ne.symm hne
    unfold expected
    rw [load_queue, List.countP_singleton, if_neg (by simp [hcount])]
    rfl
  · unfold expected load modify
    congr 2
    rw [List.map_map]
    refine List.map_congr_left fun a _ => ?_
    rw [Function.comp_apply]
    dsimp only
    split
    · have hover : Activity.isOver { a with watchers := a.watchers ++ [i] } = a.isOver := rfl
      unfold Activity.owes
      rw [hover]
      simp [Ne.symm hne]
    · rfl

namespace IsTallied

theorem of_expected (h : b.IsTallied) (hphase : ∀ u, c.phase? u = b.phase? u)
    (hexpected : ∀ u, c.expected u = b.expected u) : c.IsTallied := by
  refine ⟨fun u => ?_, fun u next => ?_⟩
  · rw [hexpected, h.tally, awaited_congr (hphase u)]
  · rw [hphase]
    exact h.positive u next

/-- How it stands changes with one activity, which now waits for as many ends as are to be counted. -/
theorem of_change (h : b.IsTallied) {q : Phase C} (hself : c.phase? i = some q)
    (hphase : ∀ u, u ≠ i → c.phase? u = b.phase? u)
    (hexpected : ∀ u, u ≠ i → c.expected u = b.expected u) (hq : c.expected i = q.awaited)
    (hpos : ∀ next, q ≠ .waiting 0 next) : c.IsTallied := by
  refine ⟨fun u => ?_, fun u next => ?_⟩ <;> by_cases hu : u = i
  · rw [hu, hq, awaited_of_phase? hself]
  · rw [hexpected u hu, h.tally, awaited_congr (hphase u hu)]
  · rw [hu, hself]
    exact fun heq => hpos next (Option.some.inj heq)
  · rw [hphase u hu]
    exact h.positive u next

/-- No end is to be counted for one who does not wait. -/
theorem expected_eq_zero (h : b.IsTallied) {p : Phase C} (hphase : b.phase? i = some p)
    (hp : p.awaited = 0) : b.expected i = 0 := by
  rw [h.tally, awaited_of_phase? hphase, hp]

/-- One who goes on after a pause, or begins one. -/
theorem change (h : b.IsTallied) (hsound : b.IsSound) {p q : Phase C} (hphase : b.phase? i = some p)
    (hp : p.plan? ≠ none) (hwait : p.awaited = 0) (hq : q.plan? ≠ none)
    (hwait' : ∀ n next, q ≠ .waiting n next) {j : Job K}
    (hactivities : c.activities = (b.setPhase i q).activities) (hjobs : c.jobs.Perm (j :: b.jobs))
    (hcount : ∀ u, j.isCountOf u = false) : c.IsTallied := by
  have hphases (u : Nat) : c.phase? u = (b.setPhase i q).phase? u := phase?_of_activities hactivities u
  have hexpected (u : Nat) : c.expected u = b.expected u :=
    hsound.expected_change hphase hp hq hactivities hjobs (hcount u)
  refine h.of_change (i := i) (q := q) ?_ (fun u hu => ?_) (fun u _ => hexpected u) ?_ (hwait' 0)
  · rw [hphases, phase?_setPhase_self hphase]
  · rw [hphases, phase?_setPhase_of_ne b q hu]
  · rw [hexpected, h.expected_eq_zero hphase hwait]
    cases q with
    | waiting n next => exact absurd rfl (hwait' n next)
    | _ => rfl

theorem finish (h : b.IsTallied) (hsound : b.IsSound) {next : C}
    (hphase : b.phase? i = some (.ready next)) (failure : Option Failure) :
    (b.finish i failure).IsTallied := by
  have hexpected (u : Nat) : (b.finish i failure).expected u = b.expected u :=
    hsound.expected_finish hphase (by simp [Phase.plan?]) failure
  refine h.of_change (q := .over failure) ?_ (fun u hu => phase?_finish b failure hu)
    (fun u _ => hexpected u) ?_ (by simp)
  · exact phase?_finish_self hphase failure
  · rw [hexpected, h.expected_eq_zero hphase rfl]
    rfl

theorem remove (h : b.IsTallied) (hsound : b.IsSound)
    (hover : ∀ a ∈ b.activities, a.id = i → a.isOver = true) : (b.remove i).IsTallied := by
  have hexpected (u : Nat) : (b.remove i).expected u = b.expected u := hsound.expected_remove hover
  refine ⟨fun u => ?_, fun u next => ?_⟩ <;> by_cases hu : u = i
  · -- it did not wait, and is not there any more
    have hzero : b.awaited u = 0 := by
      refine awaited_eq_zero fun n next hwait => ?_
      obtain ⟨a, -, ha, hid, hphase⟩ := find?_of_phase? hwait
      have hplan := Activity.isOver_iff.mp (hover a ha (hid.trans hu))
      rw [hphase] at hplan
      cases hplan
    rw [hexpected, h.tally, hzero, awaited, hu, phase?_remove_self]
    rfl
  · rw [hexpected, h.tally, awaited_congr (phase?_remove b hu)]
  · rw [hu, phase?_remove_self]
    simp
  · rw [phase?_remove b hu]
    exact h.positive u next

theorem spawn (h : b.IsTallied) (hsound : b.IsSound) (role : R) (next : C) :
    (b.spawn role next).IsTallied := by
  refine h.of_change (hsound.phase?_spawn_self role next) (fun u hu => phase?_spawn_of_ne hu role next)
    (fun u _ => expected_spawn b u role next) ?_ (by simp)
  rw [expected_spawn, h.tally, awaited, hsound.phase?_nextId]
  rfl

/-- One begins to wait for others. -/
theorem await (h : b.IsTallied) (hsound : b.IsSound) {next : C}
    (hphase : b.phase? i = some (.ready next)) {others : List (Activity R C)} (hsome : others ≠ [])
    (hothers : ∀ x ∈ others, x ∈ b.activities ∧ x.id ≠ i) (next' : C) :
    (b.await i others next').IsTallied := by
  obtain ⟨a, -, ha, rfl, hready⟩ := find?_of_phase? hphase
  refine h.of_change (phase?_await_self hphase others next')
    (fun u hu => phase?_await b others next' hu) (fun u hu => ?_) ?_ fun _ heq => ?_
  · refine await_induction (motive := fun c => c.expected u = b.expected u) ?_ fun c other hc =>
      (expected_watch_of_ne hu c other).trans hc
    exact hsound.expected_setPhase hphase (by simp [Phase.plan?]) (by simp [Phase.plan?])
  · have hload := hsound.load_await (w := Activity.owes a.id) (p := Job.isCountOf a.id) ha
      (by simp [hready, Phase.plan?]) hothers (fun x _ hlive => Activity.owes_watched hlive)
      (by simp [Job.isCountOf]) next'
    have hnone : b.expected a.id = 0 := h.expected_eq_zero hphase rfl
    have hsame : Activity.owes a.id { a with phase := .waiting others.length next' } = a.owes a.id := by
      simp [Activity.owes, Activity.isOver, hready]
    unfold expected at hnone ⊢
    change _ = others.length
    omega
  · have hlength := (Phase.waiting.inj heq).1
    exact hsome (List.length_eq_zero_iff.mp hlength)

end IsTallied

/-! ## Nobody is forgotten -/

namespace IsTended

/-- The one who has been taken up is given another phase. -/
theorem change (h : b.IsTended awaitable (some i)) (hc : c.IsTallied) {q : Phase C}
    (hactivities : c.activities = (b.setPhase i q).activities) (hsound : c.IsSound)
    (hrostered : c.IsRostered) (hsorted : c.agenda.IsSorted) (hmanned : c.IsManned none) :
    c.IsTended awaitable none := by
  refine ⟨hc, hsound, hrostered, hsorted, by simp, hmanned, fun a ha => ?_⟩
  rw [hactivities] at ha
  exact h.watched.setPhase i q a ha

/-- A job that counts nothing is taken up, and with it whom it is about. -/
theorem next (h : b.IsTended awaitable none) {j : Job K} (hnext : b.next? = some (j, c))
    (hcount : ∀ u, j.isCountOf u = false) : c.IsTended awaitable j.about? := by
  have hactivities := activities_of_next? hnext
  have hretimed := retimed_of_next? hnext
  have hsound := h.sound.retimed hretimed
  obtain ⟨hrostered, hsuits, hoff⟩ := h.rostered.next hnext
  refine ⟨?_, hsound, hrostered, ?_, fun i hi => ?_, h.manned.next hnext, ?_⟩
  · refine h.toIsTallied.of_expected (phase?_of_activities hactivities) fun u => ?_
    rw [expected_next (u := u) hnext, hcount]
    simp
  · obtain ⟨⟨k, a⟩, ha, heq⟩ := Option.map_eq_some_iff.mp hnext
    cases heq
    exact h.sorted.sublist (Agenda.alarms_of_next? ha).sublist
  · cases j with
    | run id =>
      cases hi
      obtain ⟨next, hphase⟩ := hsuits
      exact ⟨hoff i rfl, hsound.lt_nextId_of_phase? hphase⟩
    | wake id =>
      cases hi
      obtain ⟨next, hphase⟩ := hsuits
      exact ⟨hoff i rfl, hsound.lt_nextId_of_phase? hphase⟩
    | ended id =>
      cases hi
      refine ⟨hrostered.not_mem_goers_of_over (h.sound.over_of_next? hnext), ?_⟩
      rw [hretimed.nextId]
      exact (h.sound.ended i (mem_jobs_of_next? hnext)).1
    | _ => cases hi
  · intro a ha
    rw [hactivities] at ha
    exact h.watched a ha

theorem wake (h : b.IsTended awaitable (some i)) {next : C} (hphase : b.phase? i = some (.asleep next)) :
    (b.wake i).IsTended awaitable none := by
  obtain ⟨hfree, -⟩ := h.free i rfl
  obtain ⟨role, htask⟩ := IsSound.task_of_phase? hphase
  have hadds : AddsTurns b ((b.setPhase i (.ready next)).queue (.run i)) :=
    .cons (jobs_queue (b.setPhase i (.ready next)) (.run i)) rfl
  have hwake : b.wake i = (b.setPhase i (.ready next)).queue (.run i) := by
    unfold Board.wake
    rw [hphase]
  rw [hwake]
  refine h.change (q := .ready next) ?_ rfl ?_ (h.rostered.goOn hfree hphase next)
    (h.sorted.sublist (.refl _)) (h.manned.goOn (.inr rfl) next)
  · exact h.toIsTallied.change h.sound hphase (by simp [Phase.plan?]) rfl (q := .ready next)
      (by simp [Phase.plan?]) (by simp) rfl (jobs_queue (b.setPhase i (.ready next)) (.run i))
      fun _ => rfl
  · exact h.sound.wait htask (by simp [Phase.plan?]) (tasks_setPhase b i (.ready next)) rfl hadds

theorem sleep (h : b.IsTended awaitable (some i)) {next : C} (hphase : b.phase? i = some (.ready next))
    (time : Nat) (next' : C) : (b.sleep i time next').IsTended awaitable none := by
  obtain ⟨hfree, -⟩ := h.free i rfl
  obtain ⟨role, htask⟩ := IsSound.task_of_phase? hphase
  refine h.change (q := .asleep next') ?_ rfl ?_ (h.rostered.sleep hfree hphase time next')
    (Agenda.isSorted_arm h.sorted time rfl) (h.manned.sleep time next')
  · exact h.toIsTallied.change h.sound hphase (by simp [Phase.plan?]) rfl (q := .asleep next')
      (by simp [Phase.plan?]) (by simp) rfl (Agenda.jobs_arm b.agenda time (.wake i)) fun _ => rfl
  · exact h.sound.wait htask (by simp [Phase.plan?]) (tasks_sleep b i time next') rfl
      (addsTurns_sleep b i time next')

theorem finish (h : b.IsTended awaitable (some i)) {next : C} (hphase : b.phase? i = some (.ready next))
    (failure : Option Failure) : (b.finish i failure).IsTended awaitable none := by
  obtain ⟨hfree, -⟩ := h.free i rfl
  obtain ⟨role, htask⟩ := IsSound.task_of_phase? hphase
  have hagenda : (b.finish i failure).agenda.alarms = b.agenda.alarms :=
    queueAll_induction (motive := (·.agenda.alarms = b.agenda.alarms)) rfl fun _ _ _ hc => hc
  exact h.change (h.toIsTallied.finish h.sound hphase failure) (q := .over failure)
    (activities_queueAll _ _) (h.sound.finish htask failure) (h.rostered.finish hfree failure)
    (h.sorted.sublist (by rw [hagenda])) (h.manned.finish failure)

/-- One that is over leaves. -/
theorem remove (h : b.IsTended awaitable (some i))
    (hover : ∀ a ∈ b.activities, a.id = i → a.isOver = true) :
    (b.remove i).IsTended awaitable none :=
  ⟨h.toIsTallied.remove h.sound hover, h.sound.remove i, h.rostered.remove (h.free i rfl).1, h.sorted,
    by simp, h.manned.remove, fun a ha => h.watched a (mem_remove ha).1⟩

/-- Another one comes, also while one is taken up. -/
theorem spawn (h : b.IsTended awaitable off) (role : R) (next : C) :
    (b.spawn role next).IsTended awaitable off := by
  refine ⟨h.toIsTallied.spawn h.sound role next, h.sound.spawn role next,
    h.rostered.spawn h.sound role next, h.sorted.sublist (.refl _), fun i hi => ?_,
    h.manned.spawn role next, h.watched.spawn role next⟩
  obtain ⟨hfree, hlt⟩ := h.free i hi
  refine ⟨fun hgo => ?_, Nat.lt_succ_of_lt hlt⟩
  obtain ⟨j, hj, hgoer⟩ := List.mem_filterMap.mp hgo
  obtain rfl | hj := List.mem_cons.mp ((jobs_queue b (.run b.nextId)).mem_iff.mp hj)
  · cases hgoer
    exact Nat.lt_irrefl _ hlt
  · exact hfree (mem_goers hj hgoer)

/-- The one who has been taken up begins to wait for others. -/
theorem await (h : b.IsTended awaitable (some i)) {a : Activity R C} (ha : a ∈ b.activities)
    (hid : a.id = i) {next : C} (hphase : a.phase = .ready next) (hrole : awaitable a.role = false)
    {others : List (Activity R C)} (hsome : others ≠ [])
    (hothers : ∀ x ∈ others, x ∈ b.activities ∧ awaitable x.role = true) (next' : C) :
    (b.await i others next').IsTended awaitable none := by
  subst hid
  have hready : b.phase? a.id = some (.ready next) := by rw [h.sound.phase?_of_mem ha, hphase]
  have htask : a.task ∈ b.tasks := List.mem_map_of_mem ha
  have hne (x : Activity R C) (hx : x ∈ others) : x.id ≠ a.id := by
    obtain ⟨hmem, hxrole⟩ := hothers x hx
    intro hid
    rw [h.sound.activity_eq hmem ha hid, hrole] at hxrole
    cases hxrole
  have hattends : Attends a.id (b.setPhase a.id (.waiting others.length next'))
      (b.await a.id others next') := .watchAll hne
  have hwaits : (b.setPhase a.id (.waiting others.length next')).IsManned none :=
    h.manned.waitOn (.inr rfl) others.length next'
  have halarms : (b.await a.id others next').agenda.alarms = b.agenda.alarms :=
    await_induction (motive := (·.agenda.alarms = b.agenda.alarms)) rfl fun c other hc => by
      refine Eq.trans ?_ hc
      unfold Board.watch
      split <;> rfl
  refine ⟨?_, ?_, h.rostered.await (h.free a.id rfl).1 others next', h.sorted.sublist (by rw [halarms]),
    by simp, ?_, ?_⟩
  · exact h.toIsTallied.await h.sound hready hsome (fun x hx => ⟨(hothers x hx).1, hne x hx⟩) next'
  · exact h.sound.wait htask (by simp [Activity.task, hphase, Phase.plan?]) (tasks_await ..)
      (nextId_await ..) (addsTurns_await ..)
  · intro x hx _ j hj
    obtain ⟨y, hy, hyid, hyphase, -⟩ := hattends.origin x hx
    refine hattends.jobs.subset (hwaits y hy (by simp) j ?_)
    unfold Activity.job? at hj ⊢
    rwa [hyid, hyphase]
  · refine (h.watched.setPhase a.id (.waiting others.length next')).watchAll fun o ho t ht hid => ?_
    rw [tasks_setPhase] at ht
    obtain ⟨v, hv, rfl⟩ := List.mem_map.mp ht
    obtain ⟨hmem, horole⟩ := hothers o ho
    rw [Task.put_id] at hid
    obtain rfl := h.sound.eq_of_id hv (List.mem_map_of_mem hmem) hid
    rwa [Task.put_role]

/-- Whoever an end is counted for waits for it, and for those that are counted after it. -/
theorem waiting_of_count (h : b.IsTended awaitable none) (hnext : b.next? = some (.count i, c)) :
    ∃ n next, c.phase? i = some (.waiting n next) ∧ n = c.expected i + 1 := by
  have hexpected : b.expected i = c.expected i + 1 := by
    rw [expected_next (u := i) hnext, if_pos (by simp [Job.isCountOf])]
  have hawaited := h.tally i
  obtain ⟨n, next, hwait, hn⟩ := exists_of_awaited_pos (b := b) (u := i) (by omega)
  refine ⟨n, next, ?_, by omega⟩
  rwa [phase?_of_activities (activities_of_next? hnext)]

/-- An end is counted by one who waits. -/
theorem count (h : b.IsTended awaitable none) (hnext : b.next? = some (.count i, c)) :
    (c.count i).IsTended awaitable none := by
  have hactivities := activities_of_next? hnext
  have hretimed := retimed_of_next? hnext
  have hsound := h.sound.retimed hretimed
  have hphases := phase?_of_activities hactivities
  have hsorted : c.agenda.IsSorted := by
    obtain ⟨⟨k, a⟩, ha, heq⟩ := Option.map_eq_some_iff.mp hnext
    cases heq
    exact h.sorted.sublist (Agenda.alarms_of_next? ha).sublist
  have hmanned : c.IsManned none := h.manned.next hnext
  have hwatched : c.IsWatched awaitable := fun a ha => h.watched a (hactivities ▸ ha)
  have hrostered := (h.rostered.next hnext).1
  have hexpected (u : Nat) (hu : u ≠ i) : b.expected u = c.expected u := by
    rw [expected_next (u := u) hnext, if_neg (by simpa [Job.isCountOf] using Ne.symm hu)]
    rfl
  obtain ⟨n, next, hwait, hn⟩ := h.waiting_of_count hnext
  have hcount : c.count i = if n ≤ 1 then (c.setPhase i (.ready next)).queue (.run i)
      else c.setPhase i (.waiting (n - 1) next) := by
    unfold Board.count
    rw [hwait]
  have hsame (u : Nat) (q : Phase C) (hq : q.plan? ≠ none) :
      (c.setPhase i q).expected u = c.expected u :=
    hsound.expected_setPhase hwait (by simp [Phase.plan?]) hq
  have hother (u : Nat) (hu : u ≠ i) (q : Phase C) : (c.setPhase i q).phase? u = b.phase? u := by
    rw [phase?_setPhase_of_ne c q hu, hphases]
  refine ⟨?_, ?_, hrostered.count i, ?_, by simp, ?_, ?_⟩
  · rw [hcount]
    split
    case isTrue hlast =>
      have hqueue (u : Nat) : ((c.setPhase i (.ready next)).queue (.run i)).expected u = c.expected u :=
        load_queue (.run i) |>.trans (hsame u (.ready next) (by simp [Phase.plan?]))
      refine h.toIsTallied.of_change (i := i) (q := .ready next) (phase?_setPhase_self hwait _)
        (fun u hu => hother u hu (.ready next)) (fun u hu => ?_) ?_ (by simp)
      · rw [hqueue, hexpected u hu]
      · rw [hqueue]
        change _ = 0
        omega
    case isFalse hmore =>
      refine h.toIsTallied.of_change (i := i) (q := .waiting (n - 1) next)
        (phase?_setPhase_self hwait _) (fun u hu => hother u hu _) (fun u hu => ?_) ?_ fun _ heq => ?_
      · rw [hsame u _ (by simp [Phase.plan?]), hexpected u hu]
      · rw [hsame i _ (by simp [Phase.plan?])]
        change _ = n - 1
        omega
      · have hzero := (Phase.waiting.inj heq).1
        omega
  · exact hsound.retimed ⟨hsound.tasks_count i, nextId_count c i, fun _ hend =>
      ((addsTurns_count c i).mem_iff rfl).mp hend⟩
  · rw [hcount]
    split <;> exact hsorted.sublist (.refl _)
  · rw [hcount]
    split
    · exact hmanned.goOn (.inl rfl) next
    · exact hmanned.waitOn (.inl rfl) (n - 1) next
  · rw [hcount]
    split <;> exact hwatched.setPhase i _

/-! ### Timers -/

/-- The activities stay as they are, and no job comes or goes that is one of theirs. -/
theorem retime (h : b.IsTended awaitable off) (hc : Retimed b c)
    (hactivities : c.activities = b.activities) (hsorted : c.agenda.IsSorted)
    (hrostered : c.IsRostered) (hgoers : c.goers ⊆ b.goers)
    (hcounts : ∀ u, c.jobs.countP (Job.isCountOf u) = b.jobs.countP (Job.isCountOf u))
    (hmanned : c.IsManned off) : c.IsTended awaitable off := by
  refine ⟨?_, h.sound.retimed hc, hrostered, hsorted, ?_, hmanned, ?_⟩
  · refine h.toIsTallied.of_expected (phase?_of_activities hactivities) fun u => ?_
    unfold expected load
    rw [hactivities, hcounts]
  · intro i hi
    obtain ⟨hfree, hlt⟩ := h.free i hi
    exact ⟨fun hgo => hfree (hgoers hgo), by rw [hc.nextId]; exact hlt⟩
  · intro a ha
    exact h.watched a (hactivities ▸ ha)

theorem arm (h : b.IsTended awaitable off) (delay : Nat) (key : K) :
    (b.arm delay key).IsTended awaitable off := by
  have hjobs : (b.arm delay key).jobs.Perm (.fire key :: b.jobs) := jobs_arm b delay key
  refine h.retime (retimed_arm b delay key) rfl (Agenda.isSorted_arm h.sorted delay rfl)
    (h.rostered.arm delay key) (fun i hi => ?_) (fun u => ?_) fun a ha hoff j hj => ?_
  · obtain ⟨j, hj, hgoer⟩ := List.mem_filterMap.mp hi
    obtain rfl | hj := List.mem_cons.mp (hjobs.mem_iff.mp hj)
    · cases hgoer
    · exact mem_goers hj hgoer
  · rw [hjobs.countP_eq, List.countP_cons_of_neg (by simp [Job.isCountOf])]
  · exact hjobs.mem_iff.mpr (List.mem_cons_of_mem _ (h.manned a ha hoff j hj))

theorem disarm [DecidableEq K] (h : b.IsTended awaitable off) (key : K) :
    (b.disarm key).IsTended awaitable off := by
  refine h.retime (retimed_disarm b key) rfl (h.sorted.sublist List.filter_sublist)
    (h.rostered.disarm key) ?_ (fun u => ?_) fun a ha hoff j hj => ?_
  · unfold goers
    rw [jobs_disarm]
    exact (List.filter_sublist.filterMap _).subset
  · rw [jobs_disarm, List.countP_filter]
    refine List.countP_congr fun j _ => ?_
    cases j <;> simp [Job.isCountOf]
  · rw [jobs_disarm, List.mem_filter]
    refine ⟨h.manned a ha hoff j hj, ?_⟩
    unfold Activity.job? at hj
    split at hj <;> cases hj <;> simp

theorem disarmAll [DecidableEq K] (h : b.IsTended awaitable off) (keys : List K) :
    (keys.foldl Board.disarm b).IsTended awaitable off := by
  induction keys generalizing b with
  | nil => exact h
  | cons key keys ih => exact ih (h.disarm key)

theorem moveTo (h : b.IsTended awaitable off) (time : Nat) :
    (b.moveTo time).IsTended awaitable off :=
  h.retime ⟨rfl, rfl, fun _ hend => hend⟩ rfl (h.sorted.sublist (.refl _))
    (h.rostered.of_sublist (.refl _) rfl) (List.Subset.refl _) (fun _ => rfl) h.manned

/-! ### Somebody is there -/

end IsTended

end Board

end Workbench.Turn
