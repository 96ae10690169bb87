import Workbench.Proofs.Session.Orderly
import Workbench.Proofs.Session.Reach
import Workbench.Proofs.Session.Work

/-!
# Sessions by shifts

A session as a whole, told by the moves of its activities. All that matters about the board is what
its activities have in hand and in which role: an activity that goes on moves, a timer that fires
puts a text in hand, and whatever else is done with the board leaves everything as it was. Hence
what every such shift preserves holds in all states of a session.
-/
namespace Workbench.Session

open Document (Draft)
open Turn (Activity Board Task)

variable {V : Type} {view : View V}

/-- A change of a session as far as its activities' hands are concerned. -/
inductive Shift (view : View V) : Session V × Hands → Session V × Hands → Prop
  | move {s t k k'} (H role) (h : Move view (s, k) (t, k')) :
      Shift view (s, Hands.add H role k) (t, Hands.add H role k')
  | fire {s t d text} (H) (h : s.scheduler.work? d = some text)
      (ht : Quiet { s with scheduler := s.scheduler.drop d, board := t.board } t) :
      Shift view (s, H) (t, Hands.add H .validation (.asking d text))
  | board {s t} (H) (h : Quiet { s with board := t.board } t) : Shift view (s, H) (t, H)

abbrev Shifts (view : View V) : Session V × Hands → Session V × Hands → Prop :=
  Relation.ReflTransGen (Shift view)

theorem Moves.shifts {s t : Session V} {k k' : Hand} (h : Moves view (s, k) (t, k')) (H : Hands)
    (role : Role) : Shifts view (s, H.add role k) (t, H.add role k') :=
  h.lift (fun x => (x.1, H.add role x.2)) fun _ _ hm => .move H role hm

/-- The second session comes from the first by shifts, and its board is in order, too. -/
def ByShifts (view : View V) (s t : Session V) : Prop :=
  t.IsOrderly ∧ Shifts view (s, s.hands) (t, t.hands)

theorem ByShifts.of_hands {s t : Session V} (ht : t.IsOrderly) (hhands : t.hands = s.hands)
    (h : Quiet { s with board := t.board } t) : ByShifts view s t := by
  refine ⟨ht, ?_⟩
  rw [hhands]
  exact .single (.board _ h)

theorem ByShifts.trans {s t u : Session V} (h : ByShifts view s t) (h' : ByShifts view t u) :
    ByShifts view s u := ⟨h'.1, h.2.trans h'.2⟩

/-- The moves of an activity at rest. -/
theorem ByShifts.of_moves {s t : Session V} (hs : s.IsOrderly)
    (h : Moves view (s, .free) (t, .free)) : ByShifts view s t := by
  have hkeep {x y : Session V × Hand} (h : Moves view x y) (hx : x.1.IsOrderly) :
      y.1.IsOrderly ∧ y.1.hands = x.1.hands := by
    induction h with
    | refl => exact ⟨hx, rfl⟩
    | tail _ hm ih => exact ⟨hm.isOrderly ih.1, hm.hands_eq.trans ih.2⟩
  obtain ⟨ht, hhands⟩ := hkeep h hs
  refine ⟨ht, ?_⟩
  have hshifts := h.shifts s.hands .echo
  rw [Hands.add_free] at hshifts
  rw [hhands]
  exact hshifts

/-- An activity goes on. -/
theorem byShifts_proceed {s : Session V} (hs : s.IsOrderly) {id : Nat} {a : Activity Role Plan}
    (ha : s.board.find? id = some a) : ByShifts view s (s.proceed view a) := by
  obtain ⟨hmem, -⟩ := Board.IsSound.task_of_find? ha
  unfold proceed
  split
  case h_2 => exact .of_hands hs rfl (.refl s)
  case h_1 plan hphase =>
    have hplan : a.task.plan? = some plan := by simp [Activity.task, Turn.Phase.plan?, hphase]
    obtain ⟨H, hwork, hhands⟩ := hs.atWork hmem hplan
    have hrest := hs.fair _ hmem plan hplan
    have hfollow : Act.Leads view _ s _ _ := leads_follow hrest plan.stage plan.answers s
    unfold Act.Leads at hfollow
    rcases hrun : (follow view plan.rest plan.stage plan.answers).run s with ⟨result, t⟩
    rw [hrun] at hfollow
    have hwork' := hwork.moves hfollow
    have hshifts := hfollow.shifts H a.task.role
    rw [← hhands] at hshifts
    dsimp only at hwork' hshifts ⊢
    obtain f | course := result
    · obtain ⟨horderly, hhands', hquiet⟩ := hwork'.finish rfl (.error f)
      refine ⟨horderly, hshifts.trans ?_⟩
      rw [hhands', landing, Hands.add_free]
      exact .single (.board H hquiet)
    cases course with
    | done answers =>
      obtain ⟨horderly, hhands', hquiet⟩ := hwork'.finish rfl (.ok answers)
      refine ⟨horderly, hshifts.trans ?_⟩
      rw [hhands', landing, Course.hand, Hands.add_free]
      exact .single (.board H hquiet)
    | paused pause next =>
      have hnext : ∀ a ∈ next.rest, a.isFair = true := fun b hb =>
        hrest b (rest_of_follow hrun b hb)
      obtain ⟨horderly, hhands', hquiet⟩ :=
        hwork'.suspend (by simp [hplan]) (a := a) rfl hnext pause
      refine ⟨horderly, hshifts.trans ?_⟩
      rw [hhands']
      exact .single (.board _ hquiet)

/-- Besides the board only the journal changes when an activity leaves. -/
theorem leave_eq (s : Session V) (a : Activity Role Plan) :
    ∃ journal, s.leave a = { s with board := s.board.remove a.id, journal } := by
  unfold leave
  split <;> exact ⟨_, rfl⟩

/-- Who leaves has nothing in hand any more. -/
theorem hands_leave {s : Session V} (hs : s.IsOrderly) {a : Activity Role Plan}
    (hmem : a.task ∈ s.board.tasks) (hover : a.task.plan? = none) :
    (s.leave a).hands = s.hands := by
  obtain ⟨journal, heq⟩ := leave_eq s a
  rw [heq, hands, Board.tasks_remove]
  refine Hands.ofTasks_filter fun t ht hid => ?_
  -- only the one that leaves is taken out, and it has no plan any more
  obtain rfl := hs.sound.eq_of_id ht hmem (by simpa [Activity.task] using hid)
  exact hover

/-- An activity that has ended leaves. -/
theorem byShifts_leave {s : Session V} (hs : s.IsOrderly) {id : Nat} {a : Activity Role Plan}
    (ha : s.board.find? id = some a) (hover : a.task.plan? = none) :
    ByShifts view s (s.leave a) := by
  obtain ⟨hmem, -⟩ := Board.IsSound.task_of_find? ha
  have hhands := hands_leave hs hmem hover
  obtain ⟨journal, heq⟩ := leave_eq s a
  rw [heq] at hhands ⊢
  refine .of_hands ⟨hs.sound.remove a.id, hs.tallies.of_addsTurns (.of_eq rfl), fun t ht => ?_⟩ hhands
    ⟨rfl, rfl, rfl, rfl, rfl⟩
  rw [Board.tasks_remove] at ht
  exact hs.fair t (List.mem_filter.mp ht).1

/-- A timer that goes off has a text to validate. -/
theorem fire_eq {s : Session V} (hs : s.scheduler.Tallies s.board) {d : Draft}
    {board : Board Role Plan Draft} (h : s.board.next? = some (.fire d, board)) :
    ∃ text, s.scheduler.work? d = some text ∧ (s.scheduler.drop d).Tallies board ∧
      fire d { s with board } = { s with
        scheduler := s.scheduler.drop d
        board := board.spawn .validation { stage := .start (.validate d.buffer text) } } := by
  obtain ⟨text, htake, htallies⟩ := hs.fire h
  obtain ⟨w, hwork, heq⟩ := Option.map_eq_some_iff.mp htake
  cases heq
  refine ⟨text, hwork, htallies, ?_⟩
  unfold fire
  dsimp only
  rw [htake]

/-- A timer fires. -/
theorem byShifts_fire {s : Session V} (hs : s.IsOrderly) {d : Draft} {board : Board Role Plan Draft}
    (h : s.board.next? = some (.fire d, board)) :
    ByShifts view s (fire d { s with board }) := by
  obtain ⟨text, hwork, htallies, heq⟩ := fire_eq hs.tallies h
  have hretimed := Board.retimed_of_next? h
  rw [heq]
  refine ⟨⟨(hs.sound.retimed hretimed).spawn .validation _, ?_, ?_⟩, ?_⟩
  · exact htallies.of_addsTurns (Board.addsTurns_spawn board .validation _)
  · intro u hu p hp
    rw [Board.tasks_spawn, List.mem_append, List.mem_singleton, hretimed.tasks] at hu
    obtain hu | rfl := hu
    · exact hs.fair u hu p hp
    · cases hp
      simp
  · have hhand : (Stage.start (.validate d.buffer text)).hand = .asking d text := by
      simp [Stage.hand]
    unfold hands
    dsimp only
    rw [Board.tasks_spawn, Hands.ofTasks_concat, hretimed.tasks, hhand]
    exact .single (.fire _ hwork ⟨rfl, rfl, rfl, rfl, rfl⟩)

/-- Actions of the user are started. -/
theorem byShifts_launch (view : View V) {s : Session V} (hs : s.IsOrderly) (number : Nat)
    {actions : List Action} (h : ∀ a ∈ actions, a.isFair = true) :
    ByShifts view s (s.launch number actions) := by
  cases actions with
  | nil => exact .of_hands (isOrderly_of_eq hs rfl rfl) rfl ⟨rfl, rfl, rfl, rfl, rfl⟩
  | cons first rest =>
    obtain ⟨hfirst, hrest⟩ := List.forall_mem_cons.mp h
    refine ⟨isOrderly_spawn hs hrest rfl rfl, ?_⟩
    have hboard : Shift view (s, s.hands) (s.launch number (first :: rest), s.hands) :=
      .board _ ⟨rfl, rfl, rfl, rfl, rfl⟩
    have htake : Shift view _ _ := .move s.hands (.user number)
      (.take (s.launch number (first :: rest)) first hfirst)
    rw [Hands.add_free] at htake
    have hhands : (s.launch number (first :: rest)).hands =
        s.hands.add (.user number) (Stage.start first).hand := by
      rw [hands, launch, Board.tasks_spawn, Hands.ofTasks_concat]
      rfl
    rw [hhands]
    exact (Relation.ReflTransGen.single hboard).tail htake

theorem byShifts_retimed (view : View V) {s : Session V} (hs : s.IsOrderly)
    {board : Board Role Plan Draft} (htallies : s.scheduler.Tallies board)
    (h : Board.Retimed s.board board) : ByShifts view s { s with board } :=
  .of_hands (isOrderly_retimed hs htallies h) (by rw [hands, hands, h.tasks])
    ⟨rfl, rfl, rfl, rfl, rfl⟩

theorem step_of_next? {s : Session V} {j : Turn.Job Draft} {board : Board Role Plan Draft}
    (h : s.board.next? = some (j, board)) : s.step view = some (perform view { s with board } j) := by
  rw [step, h]
  rfl

/-- A job is done. -/
theorem byShifts_step {s t : Session V} (hs : s.IsOrderly) (h : s.step view = some t) :
    ByShifts view s t := by
  obtain ⟨⟨j, board⟩, hnext, rfl⟩ := Option.map_eq_some_iff.mp h
  have hretimed := Board.retimed_of_next? hnext
  have htail (hj : ∀ d, j ≠ .fire d) : ByShifts view s { s with board } :=
    byShifts_retimed view hs (hs.tallies.tail hnext hj) hretimed
  dsimp only
  cases j with
  | run id =>
    have hu := htail (by simp)
    unfold perform
    dsimp only
    cases hfind : board.find? id with
    | none => exact hu
    | some a => exact hu.trans (byShifts_proceed hu.1 hfind)
  | wake id =>
    have hu := htail (by simp)
    have hwoken := Board.addsTurns_wake board id
    refine hu.trans (byShifts_retimed view hu.1 (hu.1.tallies.of_addsTurns hwoken) ⟨?_, ?_, ?_⟩)
    · exact hu.1.sound.tasks_wake id
    · exact Board.nextId_wake board id
    · exact fun i => (hwoken.mem_iff rfl).mp
  | count id =>
    have hu := htail (by simp)
    have hcounted := Board.addsTurns_count board id
    refine hu.trans (byShifts_retimed view hu.1 (hu.1.tallies.of_addsTurns hcounted) ⟨?_, ?_, ?_⟩)
    · exact hu.1.sound.tasks_count id
    · exact Board.nextId_count board id
    · exact fun i => (hcounted.mem_iff rfl).mp
  | ended id =>
    have hu := htail (by simp)
    unfold perform
    dsimp only
    cases hfind : board.find? id with
    | none => exact hu
    | some a =>
      obtain ⟨hmem, hid⟩ := Board.IsSound.task_of_find? hfind
      exact hu.trans (byShifts_leave hu.1 hfind (hs.sound.over_of_next? hnext _ hmem hid))
  | fire d => exact byShifts_fire hs hnext

theorem Next.byShifts {s t : Session V} (h : Next view s t) (hs : s.IsOrderly) :
    ByShifts view s t := by
  cases h with
  | job h => exact byShifts_step hs h
  | wait time =>
    exact byShifts_retimed view hs ⟨hs.tallies.nodup, hs.tallies.fires⟩ ⟨rfl, rfl, fun _ h => h⟩
  | launch number h => exact byShifts_launch view hs number h
  | attach b name => exact .of_moves hs (Act.moves_attach b name)
  | type name text => exact .of_moves hs (Act.moves_typeInto name text)
  | report name => exact .of_moves hs (Act.moves_report name)
  | close => exact .of_moves hs (.single (.close s .free))
  | around h =>
    refine .of_hands (isOrderly_of_eq hs h.board h.scheduler) (by rw [hands, hands, h.board]) ?_
    exact ⟨h.store, h.scheduler, rfl, h.generation, h.history⟩

theorem Run.byShifts {s t : Session V} (h : Run view s t) (hs : s.IsOrderly) :
    ByShifts view s t := by
  induction h with
  | refl => exact ⟨hs, .refl⟩
  | tail _ hnext ih => exact ih.trans (hnext.byShifts ih.1)

theorem isOrderly_new (settings : Settings) (window : Nat) (armed : Bool) (client : Service.Client)
    (server : Service.Server) (ownsClient watched : Bool) (v : V) :
    (new settings window armed client server ownsClient watched v).IsOrderly := by
  refine ⟨Board.isSound_empty, ⟨List.nodup_nil, fun _ => rfl⟩, ?_⟩
  intro t ht
  cases ht

/-- The sessions, with what is in hand, that are made from a new session by shifts. -/
inductive Attained (view : View V) : Session V × Hands → Prop
  | new (settings window armed client server ownsClient watched v) :
      Attained view (.new settings window armed client server ownsClient watched v, 0)
  | shift {x y} (hx : Attained view x) (h : Shift view x y) : Attained view y

theorem Attained.shifts {x y : Session V × Hands} (hx : Attained view x) (h : Shifts view x y) :
    Attained view y := by
  induction h with
  | refl => exact hx
  | tail _ hstep ih => exact ih.shift hstep

/-- Every state of a session is in order and attained by shifts. -/
theorem Reachable.isOrderly_and_attained {s : Session V} (hs : Reachable view s) :
    s.IsOrderly ∧ Attained view (s, s.hands) := by
  induction hs with
  | new settings window armed client server ownsClient watched v =>
    refine ⟨isOrderly_new .., ?_⟩
    rw [hands]
    exact Hands.ofTasks_nil ▸ .new ..
  | next _ h ih =>
    obtain ⟨horderly, hshifts⟩ := h.byShifts ih.1
    exact ⟨horderly, ih.2.shifts hshifts⟩

theorem Reachable.isOrderly {s : Session V} (hs : Reachable view s) : s.IsOrderly :=
  hs.isOrderly_and_attained.1

theorem Reachable.attained {s : Session V} (hs : Reachable view s) : Attained view (s, s.hands) :=
  hs.isOrderly_and_attained.2

end Workbench.Session
