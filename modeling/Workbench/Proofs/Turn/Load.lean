import Mathlib.Algebra.BigOperators.Group.List.Basic
import Mathlib.Algebra.GroupWithZero.Nat
import Workbench.Proofs.Turn.Each

/-!
# The load of a board

What the activities of a board weigh together, and with them the jobs of some kind. Weights that fall
as an activity gets on tell how much is left to be done; the watchers of an activity, weighed with the
jobs that come of them, tell how many ends are still to be counted.
-/
namespace Workbench.Turn.Board

variable {R C K : Type} {b c : Board R C K} {w : Activity R C → Nat} {p : Job K → Bool}

/-- The weights of the activities, and the number of the jobs of some kind. -/
def load (w : Activity R C → Nat) (p : Job K → Bool) (b : Board R C K) : Nat :=
  (b.activities.map w).sum + b.jobs.countP p

theorem load_of_perm (hactivities : c.activities = b.activities) {js : List (Job K)}
    (hjobs : c.jobs.Perm (js ++ b.jobs)) : c.load w p = b.load w p + js.countP p := by
  unfold load
  rw [hactivities, hjobs.countP_eq, List.countP_append]
  omega

/-- A job that is taken up is a load less. -/
theorem load_of_next? {j : Job K} (h : b.next? = some (j, c)) :
    b.load w p = c.load w p + [j].countP p := by
  have hjobs : b.jobs.Perm ([j] ++ c.jobs) := by rw [jobs_of_next? h]; rfl
  exact load_of_perm (activities_of_next? h).symm hjobs

theorem load_queue (j : Job K) : (b.queue j).load w p = b.load w p + [j].countP p :=
  load_of_perm (b := b) (c := b.queue j) rfl (jobs_queue b j)

theorem load_queueAll (js : List (Job K)) : (b.queueAll js).load w p = b.load w p + js.countP p :=
  load_of_perm (activities_queueAll b js) (jobs_queueAll b js)

theorem load_spawn (role : R) (next : C) :
    (b.spawn role next).load w p =
      b.load w p + w { id := b.nextId, role, phase := .ready next } +
        [Job.run b.nextId].countP p := by
  have hjobs := (jobs_queue b (.run b.nextId)).countP_eq p
  change (b.spawn role next).jobs.countP p = _ at hjobs
  unfold load
  rw [hjobs, ← List.singleton_append, List.countP_append]
  simp only [spawn, List.map_append, List.map_cons, List.map_nil, List.sum_append, List.sum_cons,
    List.sum_nil]
  omega

/-! ## One activity changes -/

/-- An activity among the others, whose numbers are other ones. -/
theorem IsSound.split (h : b.IsSound) {a : Activity R C} (ha : a ∈ b.activities) :
    ∃ before after, b.activities = before ++ a :: after ∧
      ∀ x ∈ before ++ after, x.id ≠ a.id := by
  obtain ⟨before, after, hsplit⟩ := List.append_of_mem ha
  have hnodup := h.nodup_activities
  rw [hsplit, List.map_append, List.map_cons, List.nodup_middle, List.nodup_cons, ← List.map_append]
    at hnodup
  refine ⟨before, after, hsplit, fun x hx hid => hnodup.1 ?_⟩
  rw [← hid]
  exact List.mem_map_of_mem hx

theorem IsSound.load_modify (h : b.IsSound) {a : Activity R C} (ha : a ∈ b.activities)
    (f : Activity R C → Activity R C) :
    (b.modify a.id f).load w p + w a = b.load w p + w (f a) := by
  obtain ⟨before, after, hsplit, hother⟩ := h.split ha
  have hkeep (xs : List (Activity R C)) (hxs : ∀ x ∈ xs, x.id ≠ a.id) :
      xs.map (fun x => if x.id = a.id then f x else x) = xs := by
    rw [List.map_congr_left fun x hx => if_neg (hxs x hx)]
    exact List.map_id' xs
  have hjobs : (b.modify a.id f).jobs = b.jobs := rfl
  have hactivities : (b.modify a.id f).activities = before ++ f a :: after := by
    unfold modify
    rw [hsplit, List.map_append, List.map_cons, if_pos rfl,
      hkeep before fun x hx => hother x (List.mem_append_left _ hx),
      hkeep after fun x hx => hother x (List.mem_append_right _ hx)]
  unfold load
  rw [hjobs, hactivities, hsplit]
  simp only [List.map_append, List.map_cons, List.sum_append, List.sum_cons]
  omega

theorem IsSound.load_setPhase (h : b.IsSound) {a : Activity R C} (ha : a ∈ b.activities)
    (q : Phase C) :
    (b.setPhase a.id q).load w p + w a = b.load w p + w { a with phase := q } :=
  h.load_modify ha _

theorem IsSound.load_remove (h : b.IsSound) {a : Activity R C} (ha : a ∈ b.activities) :
    (b.remove a.id).load w p + w a = b.load w p := by
  obtain ⟨before, after, hsplit, hother⟩ := h.split ha
  have hkeep (xs : List (Activity R C)) (hxs : ∀ x ∈ xs, x.id ≠ a.id) :
      xs.filter (·.id ≠ a.id) = xs := List.filter_eq_self.mpr fun x hx => by simpa using hxs x hx
  have hjobs : (b.remove a.id).jobs = b.jobs := rfl
  have hactivities : (b.remove a.id).activities = before ++ after := by
    unfold Board.remove
    rw [hsplit, List.filter_append, List.filter_cons_of_neg (by simp),
      hkeep before fun x hx => hother x (List.mem_append_left _ hx),
      hkeep after fun x hx => hother x (List.mem_append_right _ hx)]
  unfold load
  rw [hjobs, hactivities, hsplit]
  simp only [List.map_append, List.map_cons, List.sum_append, List.sum_cons]
  omega

theorem IsSound.load_sleep (h : b.IsSound) {a : Activity R C} (ha : a ∈ b.activities) (time : Nat)
    (next : C) :
    (b.sleep a.id time next).load w p + w a =
      b.load w p + w { a with phase := .asleep next } + [Job.wake (K := K) a.id].countP p := by
  have hset := h.load_setPhase (w := w) (p := p) ha (.asleep next)
  have harm : (b.sleep a.id time next).load w p =
      (b.setPhase a.id (.asleep next)).load w p + [Job.wake a.id].countP p :=
    load_of_perm (b := b.setPhase a.id (.asleep next)) (c := b.sleep a.id time next) rfl
      (Agenda.jobs_arm b.agenda time (.wake a.id))
  omega

theorem IsSound.load_finish (h : b.IsSound) {a : Activity R C} (ha : b.find? a.id = some a)
    (failure : Option Failure) :
    (b.finish a.id failure).load w p + w a =
      b.load w p + w { a with phase := .over failure } +
        (.ended a.id :: a.watchers.map .count : List (Job K)).countP p := by
  have hset := h.load_setPhase (w := w) (p := p) (List.mem_of_find?_eq_some ha) (.over failure)
  unfold Board.finish
  rw [ha, load_queueAll]
  dsimp only [Option.elim]
  omega

/-! ## Waiting for others -/

theorem IsSound.watch (h : b.IsSound) (id : Nat) (other : Activity R C) :
    (Board.watch id b other).IsSound :=
  h.retimed ⟨tasks_watch b id other, nextId_watch b id other, fun _ hend =>
    ((addsTurns_watch b id other).mem_iff rfl).mp hend⟩

/-- The other is on the board, perhaps with other watchers, and has ended or not. -/
def Knows (b : Board R C K) (other : Activity R C) : Prop :=
  ∃ x ∈ b.activities, x.id = other.id ∧ x.isOver = other.isOver

theorem Knows.watch {other x : Activity R C} (h : b.Knows x) (id : Nat) :
    (Board.watch id b other).Knows x := by
  obtain ⟨y, hy, hid, hover⟩ := h
  unfold Board.watch
  split
  · exact ⟨y, hy, hid, hover⟩
  · refine ⟨_, List.mem_map_of_mem hy, ?_, ?_⟩ <;> split
    · exact hid
    · exact hid
    · exact hover
    · exact hover

/-- Another is watched: its end is one more to be counted. -/
theorem IsSound.load_watch (h : b.IsSound) {id : Nat} {other : Activity R C} (hknown : b.Knows other)
    (hw : ∀ x, x.id = other.id → x.isOver = false →
      w { x with watchers := x.watchers ++ [id] } = w x + 1)
    (hp : p (.count id) = true) : (Board.watch id b other).load w p = b.load w p + 1 := by
  obtain ⟨x, hx, hid, hover⟩ := hknown
  unfold Board.watch
  split
  case isTrue => rw [load_queue, List.countP_singleton, if_pos hp]
  case isFalse hlive =>
    have hmodify := h.load_modify (w := w) (p := p) hx
      fun y => { y with watchers := y.watchers ++ [id] }
    have hone := hw x hid (by rw [hover]; exact Bool.eq_false_iff.mpr hlive)
    rw [← hid]
    omega

theorem IsSound.load_watchAll (h : b.IsSound) {id : Nat} {others : List (Activity R C)}
    (hknown : ∀ x ∈ others, b.Knows x)
    (hw : ∀ x, x.id ≠ id → x.isOver = false →
      w { x with watchers := x.watchers ++ [id] } = w x + 1)
    (hother : ∀ x ∈ others, x.id ≠ id) (hp : p (.count id) = true) :
    (others.foldl (Board.watch id) b).load w p = b.load w p + others.length := by
  induction others generalizing b with
  | nil => rfl
  | cons x xs ih =>
    obtain ⟨hx, hxs⟩ := List.forall_mem_cons.mp hknown
    obtain ⟨hne, hnes⟩ := List.forall_mem_cons.mp hother
    have hrest := ih (h.watch id x) (fun y hy => (hxs y hy).watch id) hnes
    have hone := h.load_watch hx (fun y hy => hw y (by rw [hy]; exact hne)) hp
    rw [List.foldl_cons, List.length_cons]
    omega

theorem IsSound.load_await (h : b.IsSound) {a : Activity R C} (ha : a ∈ b.activities)
    (hlive : a.phase.plan? ≠ none) {others : List (Activity R C)}
    (hothers : ∀ x ∈ others, x ∈ b.activities ∧ x.id ≠ a.id)
    (hw : ∀ x, x.id ≠ a.id → x.isOver = false →
      w { x with watchers := x.watchers ++ [a.id] } = w x + 1)
    (hp : p (.count a.id) = true) (next : C) :
    (b.await a.id others next).load w p + w a =
      b.load w p + w { a with phase := .waiting others.length next } + others.length := by
  have hset := h.load_setPhase (w := w) (p := p) ha (.waiting others.length next)
  have hsound : (b.setPhase a.id (.waiting others.length next)).IsSound := by
    have htask : a.task ∈ b.tasks := List.mem_map_of_mem ha
    exact h.wait htask hlive (tasks_setPhase ..) rfl (.of_eq rfl)
  have hknown : ∀ x ∈ others, (b.setPhase a.id (.waiting others.length next)).Knows x := by
    intro x hx
    obtain ⟨hmem, hne⟩ := hothers x hx
    refine ⟨x, ?_, rfl, rfl⟩
    have hmap := List.mem_map_of_mem
      (f := fun t => if t.id = a.id then { t with phase := .waiting others.length next } else t) hmem
    rwa [if_neg hne] at hmap
  have hwatch := hsound.load_watchAll hknown hw (fun x hx => (hothers x hx).2) hp
  unfold Board.await
  omega

end Workbench.Turn.Board
