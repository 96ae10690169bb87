import Workbench.Proofs.Session.Settling
import Workbench.Proofs.Session.Shift
import Workbench.Proofs.Session.Spending
import Workbench.Proofs.Turn.Polling

/-!
# What a job leaves to be done

Each job of a session leaves less to be done than before, unless somebody has only looked whether the
session has settled. Nobody else is touched by it, and no action of the user begins. Main results:
`furthers` and `Attainable.isOngoing`.
-/
namespace Workbench.Session

open Document (Draft)
open Turn (Activity Board Job Phase Task)

variable {V : Type} {view : View V} {w : Wiring} {s t u : Session V} {a : Activity Role Plan}
  {plan : Plan} {c : Board Role Plan Draft} {j : Job Draft} {n k i : Nat}

theorem isSettled_congr (hboard : t.board.activities = s.board.activities)
    (hscheduler : t.scheduler = s.scheduler) : IsSettled t ↔ IsSettled s := by
  unfold IsSettled isIdle validations pendingEdits Board.withRole
  rw [hboard, hscheduler]

/-! ## An activity goes on -/

/-- An activity has been taken off the agenda to go on with its plan. -/
structure GoesOn (a : Activity Role Plan) (plan : Plan) (s : Session V) : Prop where
  ongoing : s.IsOngoing (some a.id)
  mem : a ∈ s.board.activities
  ready : a.phase = .ready plan

namespace GoesOn

theorem fares (h : GoesOn a plan s) (hfares : Fares w n k s t) : GoesOn a plan t :=
  ⟨hfares.ongoing _ h.ongoing, hfares.stays h.mem, h.ready⟩

theorem phase (h : GoesOn a plan s) : s.board.phase? a.id = some (.ready plan) := by
  rw [h.ongoing.tended.sound.phase?_of_mem h.mem, h.ready]

theorem isBrief (h : GoesOn a plan s) (hrole : a.role.isAwaited = true) : plan.IsBrief :=
  (h.ongoing.steady a h.mem).brief hrole plan (by rw [h.ready]; rfl)

/-- There is only one activity with its number. -/
theorem eq_of_id (h : GoesOn a plan s) {x : Activity Role Plan} (hx : x ∈ s.board.activities)
    (hid : x.id = a.id) : x = a := h.ongoing.tended.sound.activity_eq hx h.mem hid

end GoesOn

theorem finish_board (a : Activity Role Plan) (result : Except Failure (List Answer)) (s : Session V) :
    ∃ failure finished, s.finish a result =
      { s with board := s.board.finish a.id failure, finished } := by
  unfold finish
  dsimp only
  cases a.role <;> exact ⟨_, _, rfl⟩

/-- What becomes of one who goes on, after a stretch of work: nobody is forgotten, and what is left to be
done is told by the plan it had and the one it has now. -/
structure Stops (w : Wiring) (a : Activity Role Plan) (less more : Nat) (s t : Session V) : Prop where
  ongoing : t.IsOngoing none
  tasks : ∃ p?, t.board.tasks = s.board.tasks.map (Task.put a.id p?)
  wired : s.Wired w → t.Wired w ∧ t.toil w + less ≤ s.toil w + more

namespace GoesOn

/-- It ends. -/
theorem finish (h : GoesOn a plan s) (result : Except Failure (List Answer)) :
    Stops w a (plan.toil w) 0 s (s.finish a result) := by
  obtain ⟨failure, finished, heq⟩ := finish_board a result s
  rw [heq]
  refine ⟨⟨h.ongoing.tended.finish h.phase failure, ?_, h.ongoing.tallies.finish a.id failure⟩,
    ⟨none, Board.tasks_finish ..⟩, fun hs => ⟨?_, ?_⟩⟩
  · exact h.ongoing.steady.finish fun x _ _ => isSteady_over x.role failure
  · exact ⟨hs.feeds, hs.late, hs.output, hs.plans.finish fun _ _ _ p hp => by cases hp⟩
  · have heffort := h.ongoing.tended.sound.effort_finish (Plan.toil w) Plan.looks h.phase failure
    unfold toil
    dsimp only
    omega

/-- It has to wait. -/
theorem suspend (h : GoesOn a plan s) {pause : Pause} {next : Plan} (hsuits : next.Suits w)
    (hbrief : a.role.isAwaited = true → next.IsBrief)
    (hlook : ∀ others, pause = .activities others → next.looks = true ∧ pause.IsLook s) :
    Stops w a (plan.toil w) (next.toil w + if next.looks then 0 else 1) s (s.suspend a next pause) := by
  have hsteady (q : Phase Plan) (hq : q.plan? = some next)
      (hwait : ∀ n p, q = .waiting n p → next.looks = true) : IsSteady a.role q := by
    refine ⟨fun hrole p hp => ?_, fun n p heq => ?_⟩
    · cases hq.symm.trans hp
      exact hbrief hrole
    · have hlooks := hwait n p heq
      rw [heq] at hq
      cases hq
      exact hlooks
  have hplans (q : Phase Plan) (hq : q.plan? = some next) (p : Plan) (hp : q.plan? = some p) :
      p.Suits w := by
    cases hq.symm.trans hp
    exact hsuits
  cases pause with
  | time duration =>
    refine ⟨⟨h.ongoing.tended.sleep h.phase duration next, ?_,
      h.ongoing.tallies.of_addsTurns (Board.addsTurns_sleep ..)⟩, ⟨some next, Board.tasks_sleep ..⟩,
      fun hs => ⟨?_, ?_⟩⟩
    · refine (h.ongoing.steady.setPhase fun x hx hid => ?_).of_eq rfl
      rw [h.eq_of_id hx hid]
      exact hsteady (.asleep next) rfl fun _ _ heq => by cases heq
    · exact ⟨hs.feeds, hs.late, hs.output,
        (hs.plans.setPhase fun _ _ _ => hplans (.asleep next) rfl).of_eq rfl⟩
    · have heffort := h.ongoing.tended.sound.effort_sleep (Plan.toil w) Plan.looks h.phase duration next
      unfold toil Session.suspend
      dsimp only
      omega
  | activities others =>
    obtain ⟨hlooks, hsome, hothers⟩ := hlook others rfl
    have hfree : a.role.isAwaited = false :=
      Bool.eq_false_iff.mpr fun hrole => Plan.not_isBrief_of_looks hlooks (hbrief hrole)
    refine ⟨⟨?_, ?_, h.ongoing.tallies.of_addsTurns (Board.addsTurns_await ..)⟩,
      ⟨some next, Board.tasks_await ..⟩, fun hs => ⟨?_, ?_⟩⟩
    · exact h.ongoing.tended.await h.mem rfl h.ready hfree hsome hothers next
    · refine h.ongoing.steady.await fun x hx hid => ?_
      rw [h.eq_of_id hx hid]
      exact hsteady (.waiting others.length next) rfl fun _ _ _ => hlooks
    · exact ⟨hs.feeds, hs.late, hs.output,
        hs.plans.await fun _ _ _ => hplans (.waiting others.length next) rfl⟩
    · have heffort := h.ongoing.tended.sound.effort_await (Plan.toil w) Plan.looks h.phase others next
      unfold toil Session.suspend
      dsimp only
      omega

end GoesOn

/-! ## What comes of a job -/

/-- Who has something left to do keeps it, unless it goes on; and no action of the user begins. -/
structure LeavesOthers (j : Job Draft) (s t : Session V) : Prop where
  stays : ∀ x ∈ s.board.tasks, x.plan? ≠ none → j ≠ .run x.id → x ∈ t.board.tasks
  users : ∀ x ∈ t.board.tasks, x.role.isUser = true →
    ∃ y ∈ s.board.tasks, y.id = x.id ∧ y.role = x.role

theorem leavesOthers_of_tasks (h : t.board.tasks = s.board.tasks) : LeavesOthers j s t :=
  ⟨fun _ hx _ _ => h ▸ hx, fun x hx _ => ⟨x, h ▸ hx, rfl, rfl⟩⟩

/-- Somebody has only looked whether the session has settled, which it has not. -/
structure Lingers (w : Wiring) (s : Session V) (j : Job Draft) (c : Board Role Plan Draft)
    (t : Session V) : Prop where
  toil : t.toil w ≤ s.toil w
  polls : s.board.Polls Plan.looks j
  idles : Board.Idles Plan.looks j c t.board
  unsettled : ∀ i, j = .run i → ¬ IsSettled s

/-- There is less to be done after a job, which has left the board `c`; or somebody has only looked. -/
structure Furthers (w : Wiring) (s : Session V) (j : Job Draft) (c : Board Role Plan Draft)
    (t : Session V) : Prop extends LeavesOthers j s t where
  ongoing : t.IsOngoing none
  wired : s.Wired w → t.Wired w ∧ (t.toil w < s.toil w ∨ Lingers w s j c t)

/-! ### A job is taken up -/

theorem IsOngoing.next (hs : s.IsOngoing none) (hnext : s.board.next? = some (j, c))
    (hcount : ∀ u, j.isCountOf u = false) (hfire : ∀ d, j ≠ .fire d) :
    ({ s with board := c } : Session V).IsOngoing j.about? :=
  ⟨hs.tended.next hnext hcount, hs.steady.of_eq (Board.activities_of_next? hnext),
    hs.tallies.tail hnext hfire⟩

theorem Wired.next (hs : s.Wired w) (hnext : s.board.next? = some (j, c)) :
    ({ s with board := c } : Session V).Wired w := hs.congr rfl rfl (Board.activities_of_next? hnext)

theorem toil_next (hnext : s.board.next? = some (j, c)) :
    s.toil w = ({ s with board := c } : Session V).toil w + if j.isEnd then 1 else 0 := by
  have heffort := Board.effort_next (Plan.toil w) Plan.looks hnext
  unfold toil
  dsimp only
  omega

theorem tasks_of_next? (hnext : s.board.next? = some (j, c)) : c.tasks = s.board.tasks :=
  congrArg (List.map Activity.task) (Board.activities_of_next? hnext)

/-! ### An activity goes on -/

section Run

variable (hnext : s.board.next? = some (.run a.id, c)) {r : Session V}
  (hr : r = { s with board := c })

include hnext hr

/-- Others keep what they have to do when one of them works and then ends or waits. -/
theorem leavesOthers_of_stops {less more : Nat} (hfares : Fares w n k r t)
    (hstops : Stops w a less more t u) : LeavesOthers (.run a.id) s u := by
  obtain ⟨p?, htasks⟩ := hstops.tasks
  have hsame : r.board.tasks = s.board.tasks := by
    rw [hr]
    exact tasks_of_next? hnext
  refine ⟨fun x hx _ hne => ?_, fun x hx huser => ?_⟩
  · rw [← hsame] at hx
    obtain ⟨y, hy, rfl⟩ := List.mem_map.mp hx
    rw [htasks]
    refine List.mem_map.mpr ⟨y.task, List.mem_map_of_mem (hfares.stays hy), ?_⟩
    exact if_neg fun hid => hne (by rw [hid])
  · rw [htasks] at hx
    obtain ⟨y, hy, rfl⟩ := List.mem_map.mp hx
    obtain ⟨z, hz, rfl⟩ := List.mem_map.mp hy
    rw [Task.put_role] at huser
    obtain hold | hnew := hfares.newcomers z hz
    · rw [← hsame, Task.put_id, Task.put_role]
      exact ⟨z.task, List.mem_map_of_mem hold, rfl, rfl⟩
    · rw [Activity.task, hnew] at huser
      cases huser

/-- There is less to be done once it has ended, or waits. -/
theorem furthers_of_stops {less more : Nat} (hfares : Fares w n k r t)
    (hstops : Stops w a less more t u) (hless : n + more < k + less) :
    Furthers w s (.run a.id) c u := by
  refine ⟨leavesOthers_of_stops hnext hr hfares hstops, hstops.ongoing, fun hw => ?_⟩
  obtain ⟨ht, htoil⟩ := hfares.wired (hr ▸ hw.next hnext)
  obtain ⟨hu, htoil'⟩ := hstops.wired ht
  have hsame : s.toil w = r.toil w := hr ▸ toil_next hnext
  exact ⟨hu, .inl (by omega)⟩

/-- One who only looks does so again. -/
theorem furthers_of_looks {pause : Pause} (hgo : GoesOn a plan r) (hsuits : plan.Suits w)
    (hlooks : plan.looks = true) (hpause : pause.IsLook r) (hsettled : ¬ IsSettled r) :
    Furthers w s (.run a.id) c (r.suspend a plan pause) := by
  have hstops : Stops w a (plan.toil w) _ r (r.suspend a plan pause) :=
    hgo.suspend hsuits hgo.isBrief fun _ _ => ⟨hlooks, hpause⟩
  have hactivities : r.board.activities = s.board.activities := by
    rw [hr]
    exact Board.activities_of_next? hnext
  have hplan : r.board.plan? a.id = some plan := Board.plan?_of_phase? hgo.phase
  have hsame : s.toil w = r.toil w := hr ▸ toil_next hnext
  refine ⟨leavesOthers_of_stops hnext hr (.refl w 0 r) hstops, hstops.ongoing, fun hw => ?_⟩
  obtain ⟨hu, htoil⟩ := hstops.wired (hr ▸ hw.next hnext)
  rw [if_pos hlooks] at htoil
  refine ⟨hu, .inr ⟨by omega, ?_, ?_, fun _ _ => ?_⟩⟩
  · exact ⟨plan, (Board.plan?_of_activities hactivities _).symm.trans hplan, hlooks⟩
  · subst hr
    cases pause with
    | time duration => exact Board.idles_sleep hgo.phase hlooks hlooks hpause
    | activities others => exact Board.idles_await hgo.phase hlooks hlooks fun x hx => (hpause.2 x hx).1
  · rwa [← isSettled_congr hactivities (by rw [hr])]

/-- It goes on, until it ends or has to wait. -/
theorem furthers_proceed (hgo : GoesOn a plan r) (hsuits : plan.Suits w) :
    Furthers w s (.run a.id) c (r.proceed view a) := by
  have hgoes := goes_follow view hsuits r
  rcases hrun : (follow view plan.rest plan.stage plan.answers).run r with ⟨result, t⟩
  rw [hrun] at hgoes
  cases hgoes with
  | looks hlooks hpause hsettled =>
    rw [proceed_of_paused hgo.ready hrun]
    exact furthers_of_looks hnext hr hgo hsuits hlooks hpause hsettled
  | ends hresult hfares =>
    have hends (last : Except Failure (List Answer)) :
        Furthers w s (.run a.id) c (t.finish a last) :=
      furthers_of_stops hnext hr hfares ((hgo.fares hfares).finish last) (by omega)
    obtain f | answers | ⟨pause, next⟩ := result
    · rw [proceed_of_error hgo.ready hrun]
      exact hends (.error f)
    · rw [proceed_of_done hgo.ready hrun]
      exact hends (.ok answers)
    · exact absurd rfl (hresult pause next)
  | sleeps hstage hrest hnextsuits hfares =>
    rw [proceed_of_paused hgo.ready hrun]
    refine furthers_of_stops hnext hr hfares ((hgo.fares hfares).suspend hnextsuits ?_ ?_) ?_
    · exact fun hrole => ⟨hstage, hrest (hgo.isBrief hrole).rest⟩
    · intro others heq
      cases heq
    · split <;> omega
  | settles hlooks hlong hnextsuits hpause hfares =>
    rw [proceed_of_paused hgo.ready hrun]
    refine furthers_of_stops hnext hr hfares ((hgo.fares hfares).suspend hnextsuits ?_ ?_) ?_
    · exact fun hrole => absurd (hgo.isBrief hrole) hlong
    · exact fun _ _ => ⟨hlooks, hpause⟩
    · rw [if_pos hlooks]
      omega

end Run

/-- Whoever is to go on does so. -/
theorem IsOngoing.goesOn (view : View V) (hs : s.IsOngoing none) (hnext : s.board.next? = some (.run i, c)) :
    ∃ a plan, a.id = i ∧ GoesOn a plan { s with board := c } ∧
      perform view { s with board := c } (.run i) = proceed view { s with board := c } a := by
  obtain ⟨-, ⟨plan, hphase⟩, -⟩ := hs.tended.rostered.next hnext
  obtain ⟨a, hfind, hmem, rfl, hready⟩ := Board.find?_of_phase? hphase
  refine ⟨a, plan, rfl, ⟨hs.next hnext (fun _ => rfl) (by simp), hmem, hready⟩, ?_⟩
  unfold perform
  dsimp only
  rw [hfind]
  rfl

theorem furthers_run (hs : s.IsOngoing none)
    (hplans : s.board.Each fun _ phase => ∀ p, phase.plan? = some p → p.Suits w)
    (hnext : s.board.next? = some (.run i, c)) :
    Furthers w s (.run i) c (perform view { s with board := c } (.run i)) := by
  obtain ⟨a, plan, rfl, hgo, heq⟩ := hs.goesOn view hnext
  rw [heq]
  refine furthers_proceed hnext rfl hgo ?_
  exact hplans.of_eq (Board.activities_of_next? hnext) a hgo.mem plan (by rw [hgo.ready]; rfl)

/-! ### The other jobs -/

/-- Somebody is woken: for something, unless he looks whether the session has settled. -/
theorem furthers_wake (hs : s.IsOngoing none) (hnext : s.board.next? = some (.wake i, c)) :
    Furthers w s (.wake i) c { s with board := c.wake i } := by
  obtain ⟨-, ⟨plan, hphase⟩, -⟩ := hs.tended.rostered.next hnext
  have hc := hs.next hnext (fun _ => rfl) (by simp)
  have hsound : c.IsSound := hc.tended.sound
  have htasks : (c.wake i).tasks = s.board.tasks := (hsound.tasks_wake i).trans (tasks_of_next? hnext)
  refine ⟨leavesOthers_of_tasks htasks, ⟨hc.tended.wake hphase, ?_,
    hc.tallies.of_addsTurns (Board.addsTurns_wake c i)⟩, fun hw => ⟨?_, ?_⟩⟩
  · exact hc.steady.wake hsound i fun role p h => ⟨h.brief, fun _ _ heq => by cases heq⟩
  · have hw' := hw.next hnext
    exact ⟨hw'.feeds, hw'.late, hw'.output, hw'.plans.wake hsound i fun _ _ h => h⟩
  · have heffort := hsound.effort_wake (Plan.toil w) Plan.looks hphase
    have hsame : s.toil w = ({ s with board := c } : Session V).toil w := toil_next hnext
    have hplan : c.plan? i = some plan := Board.plan?_of_phase? hphase
    unfold toil at hsame ⊢
    dsimp only at hsame ⊢
    cases hlooks : plan.looks with
    | false =>
      rw [hlooks, if_neg Bool.false_ne_true] at heffort
      exact .inl (by omega)
    | true =>
      refine .inr ⟨?_, ?_, Board.idles_wake hplan hlooks, fun _ heq => by cases heq⟩
      · unfold toil
        dsimp only
        omega
      · exact (Board.polls_of_next? hnext _).mp ⟨plan, hplan, hlooks⟩

/-- An end is counted, by somebody who looks whether the session has settled. -/
theorem furthers_count (hs : s.IsOngoing none) (hnext : s.board.next? = some (.count i, c)) :
    Furthers w s (.count i) c { s with board := c.count i } := by
  obtain ⟨n, plan, hphase, -⟩ := hs.tended.waiting_of_count hnext
  have hactivities := Board.activities_of_next? hnext
  have hsound : c.IsSound := hs.tended.sound.retimed (Board.retimed_of_next? hnext)
  have hsteady : c.Each IsSteady := hs.steady.of_eq hactivities
  have htasks : (c.count i).tasks = s.board.tasks := (hsound.tasks_count i).trans (tasks_of_next? hnext)
  have htallies : s.scheduler.Tallies c := hs.tallies.tail hnext (by simp)
  refine ⟨leavesOthers_of_tasks htasks, ⟨hs.tended.count hnext, ?_,
    htallies.of_addsTurns (Board.addsTurns_count c i)⟩, fun hw => ⟨?_, .inr ?_⟩⟩
  · refine hsteady.count hsound i (fun role n m p h => ⟨h.brief, fun _ _ heq => ?_⟩) fun role n p h =>
      ⟨h.brief, fun _ _ heq => by cases heq⟩
    cases heq
    exact h.looks n p rfl
  · have hw' := hw.next hnext
    exact ⟨hw'.feeds, hw'.late, hw'.output,
      hw'.plans.count hsound i (fun _ _ _ _ h => h) fun _ _ _ h => h⟩
  · have heffort := hsound.effort_count (Plan.toil w) Plan.looks hphase
    have hsame : s.toil w = ({ s with board := c } : Session V).toil w := toil_next hnext
    have hplan : c.plan? i = some plan := Board.plan?_of_phase? hphase
    obtain ⟨x, hx, -, hwait⟩ := Board.exists_of_phase? hphase
    have hlooks := (hsteady x hx).looks n plan hwait
    refine ⟨?_, ?_, Board.idles_count hplan hlooks, fun _ heq => by cases heq⟩
    · unfold toil at hsame ⊢
      dsimp only at hsame ⊢
      omega
    · exact (Board.polls_of_next? hnext _).mp ⟨plan, hplan, hlooks⟩

/-- The end of somebody is noticed. -/
theorem furthers_ended (hs : s.IsOngoing none) (hnext : s.board.next? = some (.ended i, c)) :
    Furthers w s (.ended i) c (perform view { s with board := c } (.ended i)) := by
  have hc := hs.next hnext (fun _ => rfl) (by simp)
  have htasks := tasks_of_next? hnext
  have hover := hs.tended.sound.over_of_next? hnext
  obtain ⟨journal, heq⟩ := ended_eq view { s with board := c } i
  rw [heq]
  dsimp only
  refine ⟨⟨fun x hx hplan _ => ?_, fun x hx _ => ?_⟩,
    ⟨?_, hc.steady.remove i, hc.tallies.of_addsTurns (.of_eq rfl)⟩, fun hw => ⟨?_, .inl ?_⟩⟩
  · dsimp only
    rw [← htasks] at hx
    rw [Board.tasks_remove, List.mem_filter]
    exact ⟨hx, by simpa using fun hid => hplan (hover x hx hid)⟩
  · dsimp only at hx
    rw [Board.tasks_remove, List.mem_filter, htasks] at hx
    exact ⟨x, hx.1, rfl, rfl⟩
  · exact hc.tended.remove fun x hx hid =>
      Activity.isOver_iff.mpr (hover x.task (List.mem_map_of_mem hx) hid)
  · have hw' := hw.next hnext
    exact ⟨hw'.feeds, hw'.late, hw'.output, hw'.plans.remove i⟩
  · have heffort := Board.effort_remove (Plan.toil w) Plan.looks c i
    have hend : s.toil w = ({ s with board := c } : Session V).toil w + 1 := toil_next hnext
    unfold toil at hend ⊢
    dsimp only at hend ⊢
    omega

/-- A timer fires, and a validation begins. -/
theorem furthers_fire {d : Draft} (hs : s.IsOngoing none) (hnext : s.board.next? = some (.fire d, c)) :
    Furthers w s (.fire d) c (fire d { s with board := c }) := by
  obtain ⟨text, hwork, htallies, heq⟩ := fire_eq hs.tallies hnext
  have htended : c.IsTended Role.isAwaited none := hs.tended.next hnext fun _ => rfl
  have hsteady : c.Each IsSteady := hs.steady.of_eq (Board.activities_of_next? hnext)
  rw [heq]
  have htasks := Board.tasks_spawn c Role.validation ({ stage := .start (.validate d.buffer text) } : Plan)
  rw [tasks_of_next? hnext] at htasks
  refine ⟨⟨fun x hx _ _ => ?_, fun x hx huser => ?_⟩,
    ⟨htended.spawn _ _, ?_, htallies.of_addsTurns (Board.addsTurns_spawn c _ _)⟩,
    fun hw => ⟨?_, .inl ?_⟩⟩
  · rw [htasks]
    exact List.mem_append_left _ hx
  · rw [htasks, List.mem_append, List.mem_singleton] at hx
    obtain hx | rfl := hx
    · exact ⟨x, hx, rfl, rfl⟩
    · cases huser
  · exact hsteady.spawn (isSteady_brief .validation ⟨rfl, rfl⟩ rfl (by simp))
  · have hw' := hw.next hnext
    refine ⟨hw'.feeds, hw'.late, hw'.output, hw'.plans.spawn fun p hp => ?_⟩
    cases hp
    exact ⟨trivial, by simp⟩
  · have heffort := Board.effort_spawn (Plan.toil w) Plan.looks c Role.validation
      ({ stage := .start (.validate d.buffer text) } : Plan)
    have hseven : Plan.toil w { stage := .start (.validate d.buffer text) } = 7 := rfl
    have hpending : (s.scheduler.drop d).pending.length < s.scheduler.pending.length := by
      refine List.length_filter_lt_length_iff_exists.mpr ⟨(d, text), ?_, by simp⟩
      exact Coalescing.Scheduler.mem_pending_of_work? hwork
    have hsame : s.toil w = ({ s with board := c } : Session V).toil w := toil_next hnext
    unfold toil at hsame ⊢
    dsimp only at hsame ⊢
    omega

/-- What comes of any job. -/
theorem furthers (view : View V) (hs : s.IsOngoing none)
    (hplans : s.board.Each fun _ phase => ∀ p, phase.plan? = some p → p.Suits w)
    (hnext : s.board.next? = some (j, c)) : Furthers w s j c (perform view { s with board := c } j) := by
  cases j with
  | run i => exact furthers_run hs hplans hnext
  | wake i => exact furthers_wake hs hnext
  | count i => exact furthers_count hs hnext
  | ended i => exact furthers_ended hs hnext
  | fire d => exact furthers_fire hs hnext

/-! ## All states of a session -/

/-- All editors may feed drafts, and none reports later: that is how everybody has it. -/
def Wiring.any : Wiring := ⟨fun _ => true, fun _ => false⟩

theorem IsOngoing.moveTo (hs : s.IsOngoing none) (time : Nat) :
    ({ s with board := s.board.moveTo time } : Session V).IsOngoing none :=
  ⟨hs.tended.moveTo time, hs.steady, ⟨hs.tallies.nodup, hs.tallies.fires⟩⟩

theorem IsOngoing.launch (hs : s.IsOngoing none) (number : Nat) (actions : List Action) :
    (s.launch number actions).IsOngoing none := by
  cases actions with
  | nil => exact ⟨hs.tended, hs.steady, hs.tallies⟩
  | cons first rest =>
    exact ⟨hs.tended.spawn _ _, hs.steady.spawn (isSteady_of_free rfl (by simp)),
      hs.tallies.of_addsTurns (Board.addsTurns_spawn s.board _ _)⟩

end Workbench.Session
