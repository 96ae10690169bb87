import Workbench.Proofs.Session.Effect
import Workbench.Proofs.Session.Hands

/-!
# Sessions in order

The board of a session stays in order while an activity works, and when it ends or has to wait. The
others keep what they have in hand meanwhile.
-/
namespace Workbench.Session

open Document (Draft)
open Turn (Activity Board Task)

variable {V : Type} {view : View V}

/-- The board of a session is in order: besides numbers and ends, the timers on the agenda are those
of the scheduler, and what activities have to do after their stages is fair. -/
structure IsOrderly (s : Session V) : Prop where
  sound : s.board.IsSound
  tallies : s.scheduler.Tallies s.board
  fair : ∀ t ∈ s.board.tasks, ∀ p, t.plan? = some p → ∀ a ∈ p.rest, a.isFair = true

/-- What the activities have to do is still fair when one of them ends or has something fair to
do. -/
theorem fair_put {ts : List (Task Role Plan)}
    (h : ∀ t ∈ ts, ∀ p, t.plan? = some p → ∀ a ∈ p.rest, a.isFair = true) (id : Nat)
    {plan? : Option Plan} (hplan : ∀ p, plan? = some p → ∀ a ∈ p.rest, a.isFair = true) :
    ∀ t ∈ ts.map (Task.put id plan?), ∀ p, t.plan? = some p → ∀ a ∈ p.rest, a.isFair = true := by
  intro u hu p hp
  obtain ⟨v, hv, rfl⟩ := List.mem_map.mp hu
  unfold Task.put at hp
  split at hp
  · exact hplan p hp
  · exact h v hv p hp

/-! ## Moves keep the order -/

theorem retimed_putText (s : Session V) (d : Draft) (text : String) :
    Board.Retimed s.board (s.putText d text).board := by
  have hboard := congrArg Prod.snd (timers_putText s d text)
  dsimp only at hboard
  rw [hboard]
  split
  · exact Board.retimed_disarm s.board d
  · exact (Board.retimed_disarm s.board d).trans (Board.retimed_arm _ _ d)

theorem tallies_putText {s : Session V} (h : s.scheduler.Tallies s.board) (d : Draft)
    (text : String) : (s.putText d text).scheduler.Tallies (s.putText d text).board := by
  have htimers := timers_putText s d text
  split at htimers
  · obtain ⟨hscheduler, hboard⟩ := Prod.mk.inj htimers
    rw [hscheduler, hboard]
    exact h.cancel d
  · obtain ⟨hscheduler, hboard⟩ := Prod.mk.inj htimers
    rw [hscheduler, hboard]
    exact h.schedule d text

theorem isOrderly_retimed {s t : Session V} (hs : s.IsOrderly)
    (htallies : t.scheduler.Tallies t.board) (h : Board.Retimed s.board t.board) : t.IsOrderly :=
  ⟨hs.sound.retimed h, htallies, by rw [h.tasks]; exact hs.fair⟩

theorem isOrderly_of_eq {s t : Session V} (hs : s.IsOrderly) (hboard : t.board = s.board)
    (hscheduler : t.scheduler = s.scheduler) : t.IsOrderly := by
  refine isOrderly_retimed hs ?_ (by rw [hboard]; exact .refl _)
  rw [hboard, hscheduler]
  exact hs.tallies

theorem isOrderly_spawn {s t : Session V} (hs : s.IsOrderly) {role : Role} {plan : Plan}
    (hplan : ∀ a ∈ plan.rest, a.isFair = true) (hboard : t.board = s.board.spawn role plan)
    (hscheduler : t.scheduler = s.scheduler) : t.IsOrderly := by
  refine ⟨by rw [hboard]; exact hs.sound.spawn role plan, ?_, ?_⟩
  · rw [hboard, hscheduler]
    exact hs.tallies.of_addsTurns (Board.addsTurns_spawn s.board role plan)
  · intro u hu p hp
    rw [hboard, Board.tasks_spawn, List.mem_append, List.mem_singleton] at hu
    obtain hu | rfl := hu
    · exact hs.fair u hu p hp
    · cases hp
      exact hplan

theorem Move.isOrderly {s t : Session V} {k k' : Hand} (h : Move view (s, k) (t, k'))
    (hs : s.IsOrderly) : t.IsOrderly := by
  cases h with
  | quiet _ hq => exact isOrderly_of_eq hs hq.board hq.scheduler
  | spawn _ role plan hp hq =>
    exact isOrderly_spawn hs (by simp [hp.rest]) hq.board hq.scheduler
  | edit _ _ d text =>
    exact isOrderly_retimed hs (tallies_putText hs.tallies d text) (retimed_putText s d text)
  | close => exact isOrderly_retimed hs hs.tallies.cancelAll (Board.retimed_disarmAll _ s.board)
  | _ => exact isOrderly_of_eq hs rfl rfl

/-- If anything, a move adds an activity that has nothing in hand. -/
theorem Move.tasks {s t : Session V} {k k' : Hand} (h : Move view (s, k) (t, k')) :
    t.board.tasks = s.board.tasks ∨ ∃ role plan, Plan.IsLight plan ∧
      t.board.tasks = s.board.tasks ++ [⟨s.board.nextId, role, some plan⟩] := by
  cases h with
  | quiet _ hq => exact .inl (by rw [hq.board])
  | spawn _ role plan hp hq => exact .inr ⟨role, plan, hp, by rw [hq.board, Board.tasks_spawn]⟩
  | edit _ _ d text => exact .inl (retimed_putText s d text).tasks
  | close => exact .inl (Board.retimed_disarmAll _ s.board).tasks
  | _ => exact .inl rfl

/-! ## An activity at work -/

theorem Move.hands_eq {s t : Session V} {k k' : Hand} (h : Move view (s, k) (t, k')) :
    t.hands = s.hands := by
  unfold hands
  obtain htasks | ⟨role, plan, hplan, htasks⟩ := h.tasks
  · rw [htasks]
  · rw [htasks, Hands.ofTasks_concat, hplan.hand, Hands.add_free]

/-- The activity of a task is at work, and the others have something in hand. -/
structure AtWork (task : Task Role Plan) (H : Hands) (s : Session V) : Prop where
  orderly : s.IsOrderly
  mem : task ∈ s.board.tasks
  others : Hands.ofTasks (s.board.tasksBut task.id) = H

theorem AtWork.move {task : Task Role Plan} {H : Hands} {s t : Session V} {k k' : Hand}
    (hs : AtWork task H s) (h : Move view (s, k) (t, k')) : AtWork task H t := by
  refine ⟨h.isOrderly hs.orderly, ?_, ?_⟩
  · obtain htasks | ⟨role, plan, -, htasks⟩ := h.tasks
    · rw [htasks]
      exact hs.mem
    · rw [htasks]
      exact List.mem_append_left _ hs.mem
  · obtain htasks | ⟨role, plan, hplan, htasks⟩ := h.tasks
    · rw [Board.tasksBut, htasks]
      exact hs.others
    · rw [Board.tasksBut, htasks, List.map_append, List.map_singleton,
        Hands.ofTasks_append_of_free]
      · exact hs.others
      · intro p hp
        unfold Task.put at hp
        split at hp
        · cases hp
        · cases hp
          exact hplan.hand

theorem AtWork.moves {task : Task Role Plan} {H : Hands} {x y : Session V × Hand}
    (hs : AtWork task H x.1) (h : Moves view x y) : AtWork task H y.1 := by
  induction h with
  | refl => exact hs
  | tail _ hm ih => exact ih.move hm

/-- An activity that is taken up has its plan in hand. -/
theorem IsOrderly.atWork {s : Session V} (hs : s.IsOrderly) {task : Task Role Plan}
    (ht : task ∈ s.board.tasks) {plan : Plan} (hplan : task.plan? = some plan) :
    ∃ H, AtWork task H s ∧ s.hands = H.add task.role plan.stage.hand := by
  refine ⟨_, ⟨hs, ht, rfl⟩, ?_⟩
  have hself := hs.sound.map_put_self ht
  rw [hplan] at hself
  have hput := Hands.ofTasks_put ht hs.sound.nodup plan
  rw [hself] at hput
  exact hput

/-- It ends: nothing of it is left in hand. -/
theorem AtWork.finish {task : Task Role Plan} {H : Hands} {s : Session V} (hs : AtWork task H s)
    {a : Activity Role Plan} (ha : a.id = task.id) (result : Except Failure (List Answer)) :
    (s.finish a result).IsOrderly ∧ (s.finish a result).hands = H ∧
      Quiet { s with board := (s.finish a result).board } (s.finish a result) := by
  have hshape : ∃ failure, (s.finish a result).board = s.board.finish task.id failure ∧
      (s.finish a result).scheduler = s.scheduler ∧
      Quiet { s with board := (s.finish a result).board } (s.finish a result) := by
    unfold Session.finish
    rw [ha]
    cases result <;> cases a.role <;> exact ⟨_, rfl, rfl, ⟨rfl, rfl, rfl, rfl, rfl⟩⟩
  obtain ⟨failure, hboard, hscheduler, hquiet⟩ := hshape
  refine ⟨⟨?_, ?_, ?_⟩, ?_, hquiet⟩
  · rw [hboard]
    exact hs.orderly.sound.finish hs.mem failure
  · rw [hboard, hscheduler]
    exact hs.orderly.tallies.finish task.id failure
  · rw [hboard, Board.tasks_finish]
    exact fair_put hs.orderly.fair task.id fun p hp => by cases hp
  · rw [hands, hboard, Board.tasks_finish]
    exact hs.others

/-- It has to wait, with something in hand. -/
theorem AtWork.suspend {task : Task Role Plan} {H : Hands} {s : Session V} (hs : AtWork task H s)
    (hplan : task.plan? ≠ none) {a : Activity Role Plan} (ha : a.id = task.id) {next : Plan}
    (hnext : ∀ a ∈ next.rest, a.isFair = true) (pause : Pause) :
    (s.suspend a next pause).IsOrderly ∧
      (s.suspend a next pause).hands = H.add task.role next.stage.hand ∧
      Quiet { s with board := (s.suspend a next pause).board } (s.suspend a next pause) := by
  have hshape : (s.suspend a next pause).board.tasks =
        s.board.tasks.map (Task.put task.id (some next)) ∧
      (s.suspend a next pause).board.nextId = s.board.nextId ∧
      s.board.AddsTurns (s.suspend a next pause).board ∧
      (s.suspend a next pause).scheduler = s.scheduler ∧
      Quiet { s with board := (s.suspend a next pause).board } (s.suspend a next pause) := by
    rw [← ha]
    cases pause with
    | time duration =>
      exact ⟨Board.tasks_sleep .., rfl, Board.addsTurns_sleep .., rfl, ⟨rfl, rfl, rfl, rfl, rfl⟩⟩
    | activities others =>
      exact ⟨Board.tasks_await .., Board.nextId_await .., Board.addsTurns_await .., rfl,
        ⟨rfl, rfl, rfl, rfl, rfl⟩⟩
  obtain ⟨htasks, hid, hturns, hscheduler, hquiet⟩ := hshape
  refine ⟨⟨hs.orderly.sound.wait hs.mem hplan htasks hid hturns, ?_, ?_⟩, ?_, hquiet⟩
  · rw [hscheduler]
    exact hs.orderly.tallies.of_addsTurns hturns
  · rw [htasks]
    refine fair_put hs.orderly.fair task.id fun p hp => ?_
    cases hp
    exact hnext
  · have hput := Hands.ofTasks_put hs.mem hs.orderly.sound.nodup next
    have hothers := hs.others
    unfold Board.tasksBut at hothers
    rw [hothers] at hput
    rw [hands, htasks, hput]

end Workbench.Session
