import Workbench.Proofs.Session.Closing
import Workbench.Proofs.Turn.Burden
import Workbench.Proofs.Turn.Run

/-!
# A session that settles

The user has given the drafts their texts and waits until the session has settled, and asks for a
transform then or not. Timers fire, validations go on, and the user waits for them. With each job less is
left to do, so the user's turn comes: nothing is left of the validations then.
-/
namespace Workbench.Session

open Document (Draft)
open Service (Reaction Request)
open Turn (Activity Board Job Task)

variable {V : Type} {view : View V} {s t u : Session V} {given : Draft → Option String}
  {armed asks : Bool} {own : List Request}

/-! ## What is going on -/

/-- What the user does when the session has settled. -/
def closing (asks : Bool) : List Action := if asks then [.requestTransform] else []

/-- The requests for a transform that come of that. -/
def closingCalls (given : Draft → Option String) (asks : Bool) : List Request :=
  if asks && (!Text.isBlank ((given .input).getD "") && !Text.isBlank ((given .spec).getD "")) then
    (Request.transform? (givenRequest given)).toList
  else []

/-- The activities of a session that settles: the first one is the user's, and the others validate. -/
inductive Fits (asks : Bool) : Task Role Plan → Prop
  | settles (answers : List Answer) : Fits asks ⟨0, .user 0, some ⟨.drain, closing asks, answers⟩⟩
  | transforms {stage : Stage} (h : stage.IsOutcome) (answers : List Answer) :
      Fits asks ⟨0, .user 0, some ⟨stage, [], answers⟩⟩
  | ended : Fits asks ⟨0, .user 0, none⟩
  | validates {id : Nat} (hid : id ≠ 0) {stage : Stage} (h : stage.IsOfVerdict)
      (answers : List Answer) : Fits asks ⟨id, .validation, some ⟨stage, [], answers⟩⟩
  | judged {id : Nat} (hid : id ≠ 0) : Fits asks ⟨id, .validation, none⟩

theorem Fits.role {k : Task Role Plan} (h : Fits asks k) :
    k.id = 0 ∧ k.role = .user 0 ∨ k.id ≠ 0 ∧ k.role = .validation := by
  cases h with
  | validates hid | judged hid => exact .inr ⟨hid, rfl⟩
  | _ => exact .inl ⟨rfl, rfl⟩

/-- Who has something left to do. -/
theorem Fits.cases_of_plan {id : Nat} {role : Role} {plan : Plan}
    (h : Fits asks ⟨id, role, some plan⟩) :
    (id = 0 ∧ role = .user 0 ∧ plan.stage = .drain ∧ plan.rest = closing asks) ∨
      (id = 0 ∧ role = .user 0 ∧ plan.stage.IsOutcome ∧ plan.rest = []) ∨
      (id ≠ 0 ∧ role = .validation ∧ plan.stage.IsOfVerdict ∧ plan.rest = []) := by
  cases h with
  | settles answers => exact .inl ⟨rfl, rfl, rfl, rfl⟩
  | transforms h answers => exact .inr (.inl ⟨rfl, rfl, h, rfl⟩)
  | validates hid h answers => exact .inr (.inr ⟨hid, rfl, h, rfl⟩)

/-! ## An activity has gone on -/

/-- How much is left to be done by a plan. -/
def Plan.work (p : Plan) : Nat := p.stage.work

/-- An activity that was taken off the agenda has gone on: it has ended, or sleeps before a stage of some
kind, and no more is left to do than before. -/
structure Lands (given : Draft → Option String) (armed : Bool) (own : List Request)
    (P : Stage → Prop) (a : Activity Role Plan) (s u : Session V) : Prop where
  orderly : u.IsOrderly
  gathers : u.board.Gathers 0 none
  scheduler : u.scheduler = s.scheduler
  attached : u.attached = s.attached
  client : u.client = s.client
  keeps : Keeps given armed own u u.hands
  jobs : s.board.jobs.Sublist u.board.jobs
  burden : u.board.burden Plan.work 0 ≤ s.board.burden Plan.work 0
  tasks : (u.board.tasks = s.board.tasks.map (Task.put a.id none) ∧
      ∃ result, u.finished = s.finished ++ if a.role = .user 0 then [(0, result)] else []) ∨
    ∃ next, P next.stage ∧ next.rest = [] ∧ u.finished = s.finished ∧
      u.board.tasks = s.board.tasks.map (Task.put a.id (some next))

theorem finish_eq {a : Activity Role Plan} (hrole : a.role = .user 0 ∨ a.role = .validation)
    (result : Except Failure (List Answer)) (s : Session V) :
    ∃ failure, s.finish a result = { s with
      board := s.board.finish a.id failure
      finished := s.finished ++ if a.role = .user 0 then [(0, result)] else [] } := by
  unfold finish
  obtain hrole | hrole := hrole <;> rw [hrole]
  · exact ⟨_, rfl⟩
  · simp

section Lands

variable {a : Activity Role Plan} {plan : Plan} {H : Hands} {P : Stage → Prop} {work : Nat}
  {new : List Happening}

theorem proceed_of_error (hphase : a.phase = .ready plan) {f : Failure}
    (hrun : (follow view plan.rest plan.stage plan.answers).run s = (.error f, t)) :
    s.proceed view a = t.finish a (.error f) := by
  unfold proceed
  rw [hphase]
  dsimp only
  rw [hrun]

theorem proceed_of_done (hphase : a.phase = .ready plan) {answers : List Answer}
    (hrun : (follow view plan.rest plan.stage plan.answers).run s = (.ok (.done answers), t)) :
    s.proceed view a = t.finish a (.ok answers) := by
  unfold proceed
  rw [hphase]
  dsimp only
  rw [hrun]

theorem proceed_of_paused (hphase : a.phase = .ready plan) {pause : Pause} {next : Plan}
    (hrun : (follow view plan.rest plan.stage plan.answers).run s = (.ok (.paused pause next), t)) :
    s.proceed view a = t.suspend a next pause := by
  unfold proceed
  rw [hphase]
  dsimp only
  rw [hrun]

/-- The user has gone on as far as possible, with nobody else left. -/
theorem reports_of_told {r : Session V} (hready : a.phase = .ready plan) (hid : a.id = 0)
    (hrole : a.role = .user 0) {result : Except Failure Course}
    (hrun : (follow view plan.rest plan.stage plan.answers).run r = (result, t))
    (htold : ToldLast asks t result) (hfinished : t.finished = [])
    (hmem : a.task ∈ t.board.tasks) (halone : ∀ k ∈ t.board.tasks, k.id = 0) :
    Reports asks (r.proceed view a) := by
  have hends {last : Except Failure (List Answer)} (h : Ends asks t last) :
      Reports asks (t.finish a last) := by
    obtain ⟨failure, heq⟩ := finish_eq (.inl hrole) last t
    rw [heq]
    refine .ended last (fun k hk => ?_) ?_ (h.congr ⟨rfl, rfl, rfl, rfl⟩)
    · dsimp only at hk
      rw [Board.tasks_finish] at hk
      obtain ⟨x, hx, rfl⟩ := List.mem_map.mp hk
      rw [Task.put, if_pos ((halone x hx).trans hid.symm)]
    · dsimp only
      rw [hfinished, if_pos hrole]
      rfl
  cases result with
  | error f =>
    rw [proceed_of_error hready hrun]
    exact hends htold
  | ok course =>
    cases course with
    | done answers =>
      rw [proceed_of_done hready hrun]
      exact hends htold
    | paused pause next =>
      rw [proceed_of_paused hready hrun]
      cases pause with
      | activities others => exact htold.elim
      | time duration =>
        obtain ⟨hasks, generation, requested, r, answers, rfl, hexpects⟩ := htold
        refine .waits generation requested r answers ?_ hfinished hasks
          (hexpects.congr ⟨rfl, rfl, rfl, rfl⟩)
        unfold suspend
        dsimp only
        rw [Board.tasks_sleep]
        refine List.mem_map.mpr ⟨a.task, hmem, ?_⟩
        rw [Task.put, if_pos (by rfl)]
        unfold Activity.task
        dsimp only
        rw [hid, hrole]

/-- An activity has been taken off the agenda and goes on with its plan. -/
structure TakenUp (a : Activity Role Plan) (plan : Plan) (H : Hands) (s : Session V) : Prop where
  gathers : s.board.Gathers 0 (some a.id)
  ready : a.phase = .ready plan
  phase : s.board.phase? a.id = some (.ready plan)
  free : a.id ∉ s.board.goers
  work : AtWork a.task H s
  fair : ∀ b ∈ plan.rest, b.isFair = true
  role : a.role = .user 0 ∨ a.role = .validation

namespace TakenUp

theorem plan?_eq (h : TakenUp a plan H s) : a.task.plan? = some plan := by
  simp [Activity.task, h.ready, Turn.Phase.plan?]

theorem finish (h : TakenUp a plan H s) (hadds : Enters new s t) (hwork : AtWork a.task H t)
    (hpos : 1 ≤ plan.work) (hkeeps : Keeps given armed own t H)
    (result : Except Failure (List Answer)) :
    Lands given armed own P a s (t.finish a result) := by
  obtain ⟨horderly, hhands, hquiet⟩ := hwork.finish rfl result
  obtain ⟨failure, heq⟩ := finish_eq h.role result t
  have hkeeps' := hkeeps.quiet hquiet (by rw [heq])
  rw [← hhands] at hkeeps'
  rw [heq] at horderly hkeeps' ⊢
  have hburden := h.gathers.sound.burden_finish (w := Plan.work) (u := 0) h.phase failure
  refine ⟨horderly, ?_, hadds.scheduler, hadds.attached, hadds.client, hkeeps', ?_, ?_,
    .inl ⟨?_, ?_⟩⟩ <;> dsimp only <;> (try rw [hadds.board])
  · exact h.gathers.finish h.phase h.free failure
  · exact Board.sublist_finish ..
  · omega
  · exact Board.tasks_finish ..
  · exact ⟨result, by rw [hadds.finished]⟩

theorem sleep (h : TakenUp a plan H s) (hadds : Enters new s t) (hwork : AtWork a.task H t)
    {next : Plan} (hstage : P next.stage) (hrest : next.rest = [])
    (hless : next.stage.work + 2 ≤ plan.work)
    (hkeeps : Keeps given armed own t (H.add a.role next.stage.hand)) (time : Nat) :
    Lands given armed own P a s (t.suspend a next (.time time)) := by
  have hfair : ∀ b ∈ next.rest, b.isFair = true := by simp [hrest]
  obtain ⟨horderly, hhands, hquiet⟩ :=
    hwork.suspend (by simp [h.plan?_eq]) (a := a) rfl hfair (.time time)
  have hkeeps' := hkeeps.quiet hquiet rfl
  change _ = H.add a.role _ at hhands
  rw [← hhands] at hkeeps'
  have hburden := h.gathers.sound.burden_sleep (w := Plan.work) (u := 0) h.phase time next
  have hwork' : next.work = next.stage.work := rfl
  refine ⟨horderly, ?_, hadds.scheduler, hadds.attached, hadds.client, hkeeps', ?_, ?_,
    .inr ⟨next, hstage, hrest, hadds.finished, ?_⟩⟩ <;> unfold suspend <;> dsimp only <;>
    rw [hadds.board]
  · exact h.gathers.sleep h.phase h.free time next
  · exact Turn.Agenda.sublist_arm s.board.agenda time (.wake a.id)
  · omega
  · exact Board.tasks_sleep ..

/-- What comes of a stint is that the activity lands, also where the stint is the end of a longer
one. -/
theorem lands_of_run {r : Session V} {last : Plan} (h : TakenUp a plan H s)
    (hrun : (follow view plan.rest plan.stage plan.answers).run r =
      (follow view last.rest last.stage last.answers).run s)
    (hfair : ∀ b ∈ last.rest, b.isFair = true) (hpos : 1 ≤ plan.work) (hle : work ≤ plan.work)
    (hstint : Stint view given armed own H a.role P work last s) :
    Lands given armed own P a s (r.proceed view a) := by
  obtain ⟨⟨new, hadds⟩, hcomes⟩ := hstint
  have hleads : Act.Leads view _ s _ _ := leads_follow hfair last.stage last.answers s
  have hwork := h.work.moves hleads
  generalize hlast : (follow view last.rest last.stage last.answers).run s = x at hrun hadds hcomes hwork
  obtain ⟨result, t⟩ := x
  dsimp only at hadds hcomes hwork
  cases hcomes with
  | failed f hkeeps =>
    rw [proceed_of_error h.ready hrun]
    exact h.finish hadds hwork hpos hkeeps _
  | done answers hkeeps =>
    rw [proceed_of_done h.ready hrun]
    exact h.finish hadds hwork hpos hkeeps _
  | asleep time next hstage hrest hless hkeeps =>
    rw [proceed_of_paused h.ready hrun]
    exact h.sleep hadds hwork hstage hrest (hless.trans hle) hkeeps time

theorem lands (h : TakenUp a plan H s) (hpos : 1 ≤ plan.work) (hle : work ≤ plan.work)
    (hstint : Stint view given armed own H a.role P work plan s) :
    Lands given armed own P a s (s.proceed view a) := h.lands_of_run rfl h.fair hpos hle hstint

/-- The user, with nobody else left, has gone on as far as possible. -/
theorem reports {r : Session V} {last : Plan} (h : TakenUp a plan H s) (hid : a.id = 0)
    (hrole : a.role = .user 0)
    (hrun : (follow view plan.rest plan.stage plan.answers).run r =
      (follow view last.rest last.stage last.answers).run s)
    (henters : ∃ new, Enters new s ((follow view last.rest last.stage last.answers).run s).2)
    (htold : ToldLast asks ((follow view last.rest last.stage last.answers).run s).2
      ((follow view last.rest last.stage last.answers).run s).1)
    (hfinished : s.finished = []) (halone : ∀ k ∈ s.board.tasks, k.id = 0) :
    Reports asks (r.proceed view a) := by
  obtain ⟨new, henters⟩ := henters
  generalize (follow view last.rest last.stage last.answers).run s = x at hrun henters htold
  obtain ⟨result, t⟩ := x
  refine reports_of_told h.ready hid hrole hrun htold ?_ ?_ ?_
  · rw [henters.finished, hfinished]
  · rw [henters.board]
    exact h.work.mem
  · rw [henters.board]
    exact halone

end TakenUp

end Lands

/-! ## The end of the wait -/

/-- Nothing is left to wait for. -/
theorem run_drain (hidle : s.scheduler.pending = []) (hvalidations : s.validations = [])
    (hedits : s.pendingEdits = []) :
    (Act.drain : Act V Progress).run s = (.ok (.done .nothing), s) := by
  have hwait : s.scheduler.wait s.validations = .nothing := by
    unfold Coalescing.Scheduler.wait
    rw [hvalidations, hidle]
    rfl
  unfold Act.drain
  rw [Act.run_bind, Act.run_get]
  dsimp only
  rw [hwait]
  unfold Act.awaitEdits
  rw [Act.run_bind, Act.run_get]
  dsimp only
  rw [hedits]
  rfl

/-- The validations that run are waited for. -/
theorem run_drain_of_validations (hsome : s.validations ≠ []) :
    (Act.drain : Act V Progress).run s =
      (.ok (.paused (.activities s.validations) .drain), s) := by
  have hwait : s.scheduler.wait s.validations = .activities s.validations := by
    unfold Coalescing.Scheduler.wait
    rw [if_neg]
    simpa using hsome
  unfold Act.drain
  rw [Act.run_bind, Act.run_get]
  dsimp only
  rw [hwait]
  rfl

/-- The transform at the end can be sent, if nothing is missing for it. -/
theorem Serves.transforms_of_asks {H : Hands} (h : Serves given armed true s)
    (hs : Keeps given armed own s H) (hnone : missing? s.store = none) :
    s.client.canSend .transform = true := h.transforms (Bool.or_true _) (hs.textsOf_ne_nil hnone)

/-- The user goes on when nothing is left to wait for. -/
theorem stint_closing (hview : ¬ View.CanBreak view) (hserves : Serves given armed asks s) {H : Hands}
    (hs : Keeps given armed [] s H) {stage : Stage} {a : Answer}
    (hdone : (Act.goOn view stage).run s = (.ok (.done a), s)) (role : Role) (answers : List Answer) :
    Stint view given armed (closingCalls given asks) H role Stage.IsOutcome 3
      ⟨stage, closing asks, answers⟩ s := by
  cases asks with
  | false =>
    have hfollow := run_follow_of_done answers hdone
    refine ⟨?_, ?_⟩ <;> unfold closing <;> dsimp only <;> rw [if_neg Bool.false_ne_true, hfollow]
    · exact ⟨[], .refl s⟩
    · exact .done _ hs
  | true =>
    have hfollow := run_follow_cons .requestTransform [] answers hdone
    obtain ⟨hadds, hcomes⟩ := stint_requestTransform hview hserves.silent
      (hserves.transforms_of_asks hs) hs role (answers ++ [a])
    have hcalls : closingCalls given true =
        if (missing? s.store).isNone then (Request.transform? s.request).toList else [] := by
      rw [closingCalls, Bool.true_and, hs.missing?_eq, hs.request_eq]
    refine ⟨?_, ?_⟩ <;> unfold closing <;> dsimp only <;> rw [if_pos rfl, hfollow]
    · exact hadds
    · rw [hcalls]
      exact hcomes

/-- What is told of it. -/
theorem toldLast_closing (hview : ¬ View.CanBreak view) (hserves : Serves given armed asks s) {H : Hands}
    (hs : Keeps given armed [] s H) {stage : Stage} {a : Answer}
    (hdone : (Act.goOn view stage).run s = (.ok (.done a), s)) (answers : List Answer) :
    ToldLast asks ((follow view (closing asks) stage answers).run s).2
      ((follow view (closing asks) stage answers).run s).1 := by
  cases asks with
  | false =>
    have hfollow : (follow view (closing false) stage answers).run s = _ :=
      run_follow_of_done answers hdone
    rw [hfollow]
    exact .rests rfl _
  | true =>
    have hfollow : (follow view (closing true) stage answers).run s = _ :=
      run_follow_cons .requestTransform [] answers hdone
    rw [hfollow]
    have htells : Act.Tells (Act.goOn view (.start .requestTransform)) s :=
      Act.tells_requestTransform hview hserves.silent (hserves.transforms_of_asks hs)
    exact toldLast_follow htells _

/-! ## How it stands -/

/-- The user waits for the session to settle. -/
structure IsDraining (given : Draft → Option String) (armed asks : Bool) (s : Session V) : Prop where
  settles : ∃ answers, ⟨0, .user 0, some ⟨.drain, closing asks, answers⟩⟩ ∈ s.board.tasks
  unfinished : s.finished = []
  keeps : Keeps given armed [] s s.hands

/-- The session has settled: only the user is left, who has ended or waits for the answer to a
transform. -/
structure IsClosing (given : Draft → Option String) (armed asks : Bool) (s : Session V) : Prop where
  idle : s.scheduler.keys = []
  alone : ∀ k ∈ s.board.tasks, k.id = 0 ∧ ∀ p, k.plan? = some p → p.stage.IsOutcome
  reports : Reports asks s
  keeps : Keeps given armed (closingCalls given asks) s s.hands

/-- The user who goes on then has waited for the last answer to a transform. -/
theorem IsClosing.expects (h : IsClosing given armed asks s) (hsound : s.board.IsSound) {id : Nat}
    {role : Role} {generation : Nat} {requested : Bool} {r : Reaction} {rest : List Action}
    {answers : List Answer}
    (hmem : ⟨id, role, some ⟨.outcome generation requested r, rest, answers⟩⟩ ∈ s.board.tasks)
    (hid : id = 0) : asks = true ∧ s.finished = [] ∧ Expects s generation r := by
  cases h.reports with
  | ended result hover => cases hover _ hmem
  | waits generation' requested' r' answers' hmem' hfinished hasks hexpects =>
    cases hsound.eq_of_id hmem hmem' hid
    exact ⟨hasks, hfinished, hexpects⟩

/-- The session has settled, and the user has come to an end. -/
structure HasSettled (given : Draft → Option String) (armed asks : Bool) (s : Session V) : Prop where
  ended : ∃ result, s.finished = [(0, result)] ∧ Ends asks s result
  hands : s.hands = 0
  idle : s.scheduler.keys = []
  keeps : Keeps given armed (closingCalls given asks) s 0

/-- While timers are armed the user sleeps, and wakes after them. -/
structure IsSettling (given : Draft → Option String) (armed asks : Bool) (s : Session V) : Prop
    extends Serves given armed asks s where
  orderly : s.IsOrderly
  gathers : s.board.Gathers 0 none
  fits : ∀ k ∈ s.board.tasks, Fits asks k
  timed : ∀ d ∈ s.scheduler.keys, [.fire d, .wake 0].Sublist s.board.jobs
  course : IsDraining given armed asks s ∨ IsClosing given armed asks s

/-- What is left to be done: the timers that are armed lead to a validation each. -/
def left (s : Session V) : Nat := s.board.burden Plan.work 0 + 10 * s.scheduler.pending.length

namespace Lands

variable {a : Activity Role Plan} {P : Stage → Prop}

/-- Less is left when an activity that was taken off the agenda has landed. -/
theorem left_lt {id : Nat} {b : Board Role Plan Draft} (hnext : s.board.next? = some (.run id, b))
    (hl : Lands given armed own P a { s with board := b } u) : left u < left s := by
  have hburden := hl.burden
  have hless := Board.burden_next (w := Plan.work) (u := 0) hnext
  unfold left
  rw [hl.scheduler]
  dsimp only at hburden ⊢
  omega

/-- How it stands when an activity has landed. -/
theorem settles (hl : Lands given armed own P a s u) (hserves : Serves given armed asks s)
    (hsound : s.board.IsSound)
    (hmem : a.task ∈ s.board.tasks) (hothers : ∀ k ∈ s.board.tasks, k.id ≠ a.id → Fits asks k)
    (hover : Fits asks ⟨a.id, a.role, none⟩)
    (hP : ∀ next : Plan, P next.stage → next.rest = [] → Fits asks ⟨a.id, a.role, some next⟩)
    (htimed : ∀ d ∈ s.scheduler.keys, [.fire d, .wake 0].Sublist s.board.jobs)
    (hcourse : IsDraining given armed asks u ∨ IsClosing given armed asks u) :
    IsSettling given armed asks u := by
  have hput {plan? : Option Plan} (hself : Fits asks ⟨a.id, a.role, plan?⟩) {k : Task Role Plan}
      (hk : k ∈ s.board.tasks.map (Task.put a.id plan?)) : Fits asks k := by
    obtain ⟨x, hx, rfl⟩ := List.mem_map.mp hk
    unfold Task.put
    split
    case isTrue hid =>
      obtain rfl := hsound.eq_of_id hx hmem hid
      exact hself
    case isFalse hid => exact hothers x hx hid
  refine ⟨hserves.of_eq hl.attached hl.client, hl.orderly, hl.gathers, fun k hk => ?_, fun d hd => ?_,
    hcourse⟩
  · obtain ⟨heq, -⟩ | ⟨next, hstage, hrest, -, heq⟩ := hl.tasks <;> rw [heq] at hk
    · exact hput hover hk
    · exact hput (hP next hstage hrest) hk
  · rw [hl.scheduler] at hd
    exact (htimed d hd).trans hl.jobs

/-- The user has landed, with nobody else left. -/
theorem closes (hl : Lands given armed (closingCalls given asks) Stage.IsOutcome a s u)
    (hserves : Serves given armed asks s) (hsound : s.board.IsSound) (hmem : a.task ∈ s.board.tasks)
    (hid : a.id = 0) (hrole : a.role = .user 0) (halone : ∀ k ∈ s.board.tasks, k.id = 0)
    (hidle : s.scheduler.keys = []) (hreports : Reports asks u) : IsSettling given armed asks u := by
  have hput (plan? : Option Plan) {k : Task Role Plan}
      (hk : k ∈ s.board.tasks.map (Task.put a.id plan?)) : k.id = 0 ∧ k.plan? = plan? := by
    obtain ⟨x, hx, rfl⟩ := List.mem_map.mp hk
    refine ⟨by rw [Task.put_id, halone x hx], ?_⟩
    rw [Task.put, if_pos ((halone x hx).trans hid.symm)]
  refine hl.settles hserves hsound hmem (fun k hk hne => ?_) (by rw [hid, hrole]; exact .ended)
    (fun next hstage hrest => ?_) (fun d hd => ?_)
    (.inr ⟨by rw [hl.scheduler, hidle], fun k hk => ?_, hreports, hl.keeps⟩)
  · exact absurd ((halone k hk).trans hid.symm) hne
  · obtain ⟨stage, rest, answers⟩ := next
    obtain rfl : rest = [] := hrest
    rw [hid, hrole]
    exact .transforms hstage answers
  · rw [hidle] at hd
    cases hd
  · obtain ⟨heq, -⟩ | ⟨next, hstage, -, -, heq⟩ := hl.tasks <;> rw [heq] at hk
    · obtain ⟨hzero, hnone⟩ := hput none hk
      exact ⟨hzero, fun p hp => by rw [hnone] at hp; cases hp⟩
    · obtain ⟨hzero, hsome⟩ := hput (some next) hk
      refine ⟨hzero, fun p hp => ?_⟩
      rw [hsome] at hp
      cases hp
      exact hstage

end Lands

theorem isOrderly_perform (view : View V) (hs : s.IsOrderly) {j : Job Draft} {b : Board Role Plan Draft}
    (hnext : s.board.next? = some (j, b)) : (perform view { s with board := b } j).IsOrderly :=
  (byShifts_step hs (step_of_next? hnext)).1

/-- The end of an activity is noticed: it leaves, if it is there. -/
theorem ended_eq (view : View V) (s : Session V) (id : Nat) :
    ∃ journal, perform view s (.ended id) = { s with board := s.board.remove id, journal } := by
  unfold perform
  dsimp only
  cases hfind : s.board.find? id with
  | none =>
    have hkeep : s.board.activities.filter (·.id ≠ id) = s.board.activities :=
      List.filter_eq_self.mpr fun x hx => by simpa using List.find?_eq_none.mp hfind x hx
    refine ⟨s.journal, ?_⟩
    rw [Board.remove, hkeep]
    rfl
  | some a =>
    obtain ⟨-, rfl⟩ := Board.IsSound.task_of_find? hfind
    exact leave_eq s a

namespace IsSettling

variable {j : Job Draft} {b : Board Role Plan Draft} {id : Nat}

/-- Only the jobs and the phases change, and the user does not wake before the timers. -/
theorem retimed (hs : IsSettling given armed asks s) {c : Board Role Plan Draft}
    (horderly : ({ s with board := c } : Session V).IsOrderly) (hgathers : c.Gathers 0 none)
    (htasks : c.tasks = s.board.tasks)
    (htimed : ∀ d ∈ s.scheduler.keys, [.fire d, .wake 0].Sublist c.jobs) :
    IsSettling given armed asks { s with board := c } := by
  have hhands : hands ({ s with board := c } : Session V) = s.hands := by rw [hands, htasks, hands]
  refine ⟨hs.of_eq rfl rfl, horderly, hgathers, by rw [htasks]; exact hs.fits, htimed, ?_⟩
  obtain h | h := hs.course
  · refine .inl ⟨by rw [htasks]; exact h.settles, h.unfinished, ?_⟩
    rw [hhands]
    exact h.keeps.quiet ⟨rfl, rfl, rfl, rfl, rfl⟩ rfl
  · have hreports : Reports asks { s with board := c } := by
      refine h.reports.congr ⟨rfl, rfl, rfl, rfl⟩ rfl (fun k hk => ?_) fun k hk _ => ?_
      · exact htasks ▸ hk
      · exact htasks.symm ▸ hk
    refine .inr ⟨h.idle, by rw [htasks]; exact h.alone, hreports, ?_⟩
    rw [hhands]
    exact h.keeps.quiet ⟨rfl, rfl, rfl, rfl, rfl⟩ rfl

/-- Another job is taken up. -/
theorem timed_next (hs : IsSettling given armed asks s) (hnext : s.board.next? = some (j, b))
    {d : Draft} (hd : d ∈ s.scheduler.keys) (hj : j ≠ .fire d) :
    [.fire d, .wake 0].Sublist b.jobs := Board.pair_sublist_of_next? (hs.timed d hd) hnext hj

theorem wake (hs : IsSettling given armed asks s) (hnext : s.board.next? = some (.wake id, b)) :
    IsSettling given armed asks (perform view { s with board := b } (.wake id)) ∧
      left (perform view { s with board := b } (.wake id)) < left s := by
  have horderly := isOrderly_perform view hs.orderly hnext
  have hgathers : b.Gathers 0 (some id) := hs.gathers.next hnext rfl
  obtain ⟨-, ⟨next, hphase⟩, hfree⟩ := hs.gathers.rostered.next hnext
  have hburden := hgathers.sound.burden_wake (w := Plan.work) (u := 0) hphase
  have hless := Board.burden_next (w := Plan.work) (u := 0) hnext
  refine ⟨hs.retimed horderly (hgathers.wake hphase (hfree id rfl)) ?_ fun d hd => ?_, ?_⟩
  · rw [hgathers.sound.tasks_wake, (Board.retimed_of_next? hnext).tasks]
  · refine (hs.timed_next hnext hd (by simp)).trans ?_
    unfold Board.wake
    rw [hphase]
    exact Turn.Agenda.sublist_queue b.agenda (.run id)
  · unfold left
    change (b.wake id).burden Plan.work 0 + 10 * s.scheduler.pending.length < _
    omega

theorem count (hs : IsSettling given armed asks s) (hnext : s.board.next? = some (.count id, b)) :
    IsSettling given armed asks (perform view { s with board := b } (.count id)) ∧
      left (perform view { s with board := b } (.count id)) < left s := by
  have horderly := isOrderly_perform view hs.orderly hnext
  have hsound := hs.gathers.sound.retimed (Board.retimed_of_next? hnext)
  have hburden := hs.gathers.burden_count (w := Plan.work) hnext
  have hless := Board.burden_next (w := Plan.work) (u := 0) hnext
  refine ⟨hs.retimed horderly (hs.gathers.count hnext).1 ?_ fun d hd => ?_, ?_⟩
  · rw [hsound.tasks_count, (Board.retimed_of_next? hnext).tasks]
  · refine (hs.timed_next hnext hd (by simp)).trans ?_
    unfold Board.count
    split
    · split
      · exact Turn.Agenda.sublist_queue b.agenda (.run id)
      · exact .refl _
    · exact .refl _
  · unfold left
    change (b.count id).burden Plan.work 0 + 10 * s.scheduler.pending.length < _
    omega

theorem ended (hs : IsSettling given armed asks s) (hnext : s.board.next? = some (.ended id, b)) :
    IsSettling given armed asks (perform view { s with board := b } (.ended id)) ∧
      left (perform view { s with board := b } (.ended id)) < left s := by
  have horderly := isOrderly_perform view hs.orderly hnext
  have hretimed := Board.retimed_of_next? hnext
  have hgathers : b.Gathers 0 (some id) := hs.gathers.next hnext rfl
  have hended := hs.orderly.sound.over_of_next? hnext
  have hover : ∀ a ∈ b.activities, a.id = id → a.isOver = true := fun a ha hid =>
    Turn.Activity.isOver_iff.mpr (hended a.task (List.mem_map_of_mem ha) hid)
  have hfree : id ∉ b.goers := hgathers.rostered.not_mem_goers_of_over hended
  have hburden := hgathers.sound.burden_remove (w := Plan.work) (u := 0) hover
  have hless := Board.burden_next (w := Plan.work) (u := 0) hnext
  obtain ⟨journal, heq⟩ := ended_eq view { s with board := b } id
  rw [heq] at horderly ⊢
  have htasks : (b.remove id).tasks = s.board.tasks.filter (·.id ≠ id) := by
    rw [Board.tasks_remove, hretimed.tasks]
  have hstays {k : Task Role Plan} (hk : k ∈ s.board.tasks) (hplan : k.plan? ≠ none) :
      k ∈ (b.remove id).tasks := by
    rw [htasks, List.mem_filter]
    refine ⟨hk, ?_⟩
    simpa using fun hid => hplan (hended k (by rwa [hretimed.tasks]) hid)
  have hsub {k : Task Role Plan} (hk : k ∈ (b.remove id).tasks) : k ∈ s.board.tasks := by
    rw [htasks] at hk
    exact (List.mem_filter.mp hk).1
  have hhands : hands ({ s with board := b.remove id, journal } : Session V) = s.hands := by
    rw [hands, hands, htasks]
    refine Hands.ofTasks_filter fun k hk hid => hended k (by rwa [hretimed.tasks]) ?_
    simpa using hid
  refine ⟨⟨hs.of_eq rfl rfl, horderly, hgathers.leave hover hfree, fun k hk => hs.fits k (hsub hk),
    fun d hd => hs.timed_next hnext hd (by simp), ?_⟩, ?_⟩
  · obtain h | h := hs.course
    · obtain ⟨answers, hmem⟩ := h.settles
      refine .inl ⟨⟨answers, hstays hmem (by simp)⟩, h.unfinished, ?_⟩
      rw [hhands]
      exact h.keeps.quiet ⟨rfl, rfl, rfl, rfl, rfl⟩ rfl
    · refine .inr ⟨h.idle, fun k hk => h.alone k (hsub hk), ?_, ?_⟩
      · exact h.reports.congr ⟨rfl, rfl, rfl, rfl⟩ rfl (fun k hk => hsub hk) fun k hk => hstays hk
      · rw [hhands]
        exact h.keeps.quiet ⟨rfl, rfl, rfl, rfl, rfl⟩ rfl
  · unfold left
    dsimp only
    omega

theorem fire {d : Draft} (hs : IsSettling given armed asks s)
    (hnext : s.board.next? = some (.fire d, b)) :
    IsSettling given armed asks (perform view { s with board := b } (.fire d)) ∧
      left (perform view { s with board := b } (.fire d)) < left s := by
  have horderly := isOrderly_perform view hs.orderly hnext
  have hretimed := Board.retimed_of_next? hnext
  obtain ⟨text, hwork, -, heq⟩ := fire_eq hs.orderly.tallies hnext
  have hd : d ∈ s.scheduler.keys := by
    refine Decidable.of_not_not fun hd => ?_
    rw [Coalescing.Scheduler.work?_eq_none.mpr hd] at hwork
    cases hwork
  -- the user sleeps now
  have hwait : b.awaited 0 = 0 := by
    obtain ⟨next, hphase⟩ := hs.gathers.rostered.suits (.wake 0) ((hs.timed d hd).subset (by simp))
    rw [Board.awaited_congr (Board.phase?_of_activities (Board.activities_of_next? hnext) 0)]
    exact Board.awaited_of_phase? hphase
  have h : IsDraining given armed asks s := by
    refine hs.course.resolve_right fun h => ?_
    rw [h.idle] at hd
    cases hd
  obtain ⟨answers, hmem⟩ := h.settles
  have hid : b.nextId ≠ 0 := by
    rw [hretimed.nextId]
    exact Nat.ne_of_gt (hs.orderly.sound.lt_nextId _ hmem)
  have hgathers : b.Gathers 0 none := hs.gathers.next hnext rfl
  have hburden := Board.burden_spawn (w := Plan.work) hwait hid .validation
    { stage := .start (.validate d.buffer text) }
  have hless := Board.burden_next (w := Plan.work) (u := 0) hnext
  unfold perform at horderly ⊢
  dsimp only at horderly ⊢
  rw [heq] at horderly ⊢
  have htasks := Board.tasks_spawn b .validation ({ stage := .start (.validate d.buffer text) } : Plan)
  rw [hretimed.tasks] at htasks
  refine ⟨⟨hs.of_eq rfl rfl, horderly, hgathers.spawn hwait _ _, fun k hk => ?_, fun e he => ?_, .inl ⟨⟨answers, ?_⟩, h.unfinished, ?_⟩⟩, ?_⟩
  · rw [htasks, List.mem_append, List.mem_singleton] at hk
    obtain hk | rfl := hk
    · exact hs.fits k hk
    · exact .validates hid (.ask d text) []
  · dsimp only at he
    rw [Coalescing.Scheduler.keys_drop, List.mem_filter] at he
    have hne : d ≠ e := by simpa using Ne.symm (by simpa using he.2)
    exact (hs.timed_next hnext he.1 (by simpa using hne)).trans
      (Turn.Agenda.sublist_queue b.agenda (.run b.nextId))
  · rw [htasks]
    exact List.mem_append_left _ hmem
  · have hhand : (Stage.start (.validate d.buffer text)).hand = .asking d text := by simp [Stage.hand]
    rw [hands, htasks, Hands.ofTasks_concat, hhand]
    have hkeeps := h.keeps
    exact hkeeps.fire hwork ⟨rfl, rfl, rfl, rfl, rfl⟩ rfl
  · have hpending : (s.scheduler.drop d).pending.length < s.scheduler.pending.length := by
      refine List.length_filter_lt_length_iff_exists.mpr ⟨(d, text), ?_, by simp⟩
      exact Coalescing.Scheduler.mem_pending_of_work? hwork
    have hfive : Plan.work { stage := .start (.validate d.buffer text) } = 5 := rfl
    unfold left
    dsimp only
    omega

/-- When the user goes on no timer is armed. -/
theorem keys_eq_nil (hs : IsSettling given armed asks s)
    (hnext : s.board.next? = some (.run 0, b)) : s.scheduler.keys = [] := by
  refine List.eq_nil_iff_forall_not_mem.mpr fun d hd => ?_
  have hpair := hs.timed_next hnext hd (by simp)
  have hwake : .wake 0 ∈ b.jobs := hpair.subset (by simp)
  exact (hs.gathers.rostered.next hnext).2.2 0 rfl (Board.mem_goers hwake rfl)

/-- The validation of a text has gone on. -/
theorem of_lands_verdict (hs : IsSettling given armed asks s)
    (hnext : s.board.next? = some (.run id, b)) {a : Activity Role Plan} {plan : Plan} {H : Hands}
    (hup : TakenUp a plan H { s with board := b }) (hne : a.id ≠ 0) (hrole : a.role = .validation)
    (h : IsDraining given armed asks s)
    (hl : Lands given armed [] Stage.IsOfVerdict a { s with board := b } u) :
    IsSettling given armed asks u ∧ left u < left s := by
  have htasks := (Board.retimed_of_next? hnext).tasks
  obtain ⟨answers, hmem⟩ := h.settles
  have hstays (plan? : Option Plan) : ⟨0, .user 0, some ⟨.drain, closing asks, answers⟩⟩ ∈
      b.tasks.map (Task.put a.id plan?) := by
    rw [htasks]
    exact List.mem_map.mpr ⟨_, hmem, if_neg (Ne.symm hne)⟩
  have hdraining : IsDraining given armed asks u := by
    have hfinished : u.finished = s.finished := by
      obtain ⟨-, result, hfinished⟩ | ⟨next, -, -, hfinished, -⟩ := hl.tasks
      · rw [hfinished, hrole]
        simp
      · exact hfinished
    refine ⟨⟨answers, ?_⟩, hfinished.trans h.unfinished, hl.keeps⟩
    obtain ⟨heq, -⟩ | ⟨next, -, -, -, heq⟩ := hl.tasks
    · rw [heq]
      exact hstays none
    · rw [heq]
      exact hstays (some next)
  refine ⟨hl.settles (hs.of_eq rfl rfl) hup.gathers.sound hup.work.mem (fun k hk _ => ?_)
    (by rw [hrole]; exact .judged hne) (fun next hstage hrest => ?_)
    (fun d hd => hs.timed_next hnext hd (by simp)) (.inl hdraining), hl.left_lt hnext⟩
  · exact hs.fits k (by rw [← htasks]; exact hk)
  · obtain ⟨stage, rest, answers'⟩ := next
    obtain rfl : rest = [] := hrest
    rw [hrole]
    exact .validates hne hstage answers'

/-- The user has gone on, with nobody else left. -/
theorem of_lands_user (hs : IsSettling given armed asks s) {a : Activity Role Plan}
    (hnext : s.board.next? = some (.run a.id, b)) {plan : Plan} {H : Hands}
    (hup : TakenUp a plan H { s with board := b }) (hid : a.id = 0) (hrole : a.role = .user 0)
    (halone : ∀ k ∈ s.board.tasks, k.id = 0)
    (hl : Lands given armed (closingCalls given asks) Stage.IsOutcome a { s with board := b } u)
    (hreports : Reports asks u) : IsSettling given armed asks u ∧ left u < left s := by
  rw [← (Board.retimed_of_next? hnext).tasks] at halone
  have hidle := hs.keys_eq_nil (by rw [← hid]; exact hnext)
  exact ⟨hl.closes (hs.of_eq rfl rfl) hup.gathers.sound hup.work.mem hid hrole halone hidle hreports,
    hl.left_lt hnext⟩

/-- The validations are all activities but that of the user. -/
theorem validations_eq (hs : IsSettling given armed asks s) (htasks : b.tasks = s.board.tasks) :
    validations ({ s with board := b } : Session V) = b.activities.filter (·.id ≠ 0) := by
  refine List.filter_congr fun x hx => ?_
  have hfits := hs.fits x.task (by rw [← htasks]; exact List.mem_map_of_mem hx)
  obtain ⟨hid, hrole⟩ | ⟨hid, hrole⟩ := hfits.role
  · have hid' : x.id = 0 := hid
    have hrole' : x.role = .user 0 := hrole
    rw [hid', hrole']
    rfl
  · have hid' : x.id ≠ 0 := hid
    have hrole' : x.role = .validation := hrole
    rw [hrole', decide_eq_true hid']
    rfl

theorem pendingEdits_eq_nil (hs : IsSettling given armed asks s) (htasks : b.tasks = s.board.tasks) :
    pendingEdits ({ s with board := b } : Session V) = [] := by
  refine List.filter_eq_nil_iff.mpr fun x hx hedit => ?_
  have hfits := hs.fits x.task (by rw [← htasks]; exact List.mem_map_of_mem hx)
  have hrole : x.role = .edit := by simpa using hedit
  obtain ⟨-, hrole'⟩ | ⟨-, hrole'⟩ := hfits.role <;> cases hrole.symm.trans hrole'

/-- The user waits for all validations. -/
theorem await (hs : IsSettling given armed asks s) {a : Activity Role Plan}
    (hnext : s.board.next? = some (.run a.id, b)) (hid : a.id = 0) {plan : Plan} {H : Hands}
    (hup : TakenUp a plan H { s with board := b })
    (hsome : validations ({ s with board := b } : Session V) ≠ []) :
    let u := suspend a plan { s with board := b }
      (.activities (validations ({ s with board := b } : Session V)))
    IsSettling given armed asks u ∧ left u < left s := by
  have hretimed := Board.retimed_of_next? hnext
  have horderly := (hup.work.suspend (by simp [hup.plan?_eq]) (a := a) rfl hup.fair
    (.activities (validations ({ s with board := b } : Session V)))).1
  have hothers := hs.validations_eq hretimed.tasks
  generalize validations ({ s with board := b } : Session V) = others at horderly hothers hsome
  have hidle := hs.keys_eq_nil (by rw [← hid]; exact hnext)
  have hgathers := hup.gathers
  have hphase := hup.phase
  have hfree := hup.free
  rw [hid] at hgathers hphase hfree
  have hless := Board.burden_next (w := Plan.work) (u := 0) hnext
  have hburden := hgathers.sound.burden_await (w := Plan.work) hphase hothers hsome plan
  have hpos := List.length_pos_iff.mpr hsome
  refine ⟨hs.retimed horderly ?_ ?_ fun d hd => ?_, ?_⟩
  · rw [hid]
    refine hgathers.await hphase hfree hsome (fun x => ?_) plan
    rw [hothers, List.mem_filter]
    simp
  · rw [Board.tasks_await, hretimed.tasks]
    have hself := hs.orderly.sound.map_put_self (t := a.task) (by rw [← hretimed.tasks]; exact hup.work.mem)
    rw [hup.plan?_eq] at hself
    exact hself
  · rw [hidle] at hd
    cases hd
  · unfold left suspend
    rw [hid]
    dsimp only at hburden ⊢
    omega

/-- An activity is taken up, with what it has in hand. -/
theorem takenUp (view : View V) (hs : IsSettling given armed asks s)
    (hnext : s.board.next? = some (.run id, b)) :
    ∃ a plan H, a.id = id ∧ TakenUp a plan H { s with board := b } ∧
      ⟨a.id, a.role, some plan⟩ ∈ s.board.tasks ∧ s.hands = H.add a.role plan.stage.hand ∧
      perform view { s with board := b } (.run id) = proceed view { s with board := b } a := by
  have hretimed := Board.retimed_of_next? hnext
  obtain ⟨-, ⟨plan, hphase⟩, hfree⟩ := hs.gathers.rostered.next hnext
  obtain ⟨a, hfind, ha, rfl, hready⟩ := Board.find?_of_phase? hphase
  have horderly : ({ s with board := b } : Session V).IsOrderly :=
    (byShifts_retimed view hs.orderly (hs.orderly.tallies.tail hnext (by simp)) hretimed).1
  have htask : a.task = ⟨a.id, a.role, some plan⟩ := by
    simp [Activity.task, hready, Turn.Phase.plan?]
  have hplan : a.task.plan? = some plan := by rw [htask]
  have hmem : a.task ∈ b.tasks := List.mem_map_of_mem ha
  obtain ⟨H, hwork, hhands⟩ := horderly.atWork hmem hplan
  rw [htask, hretimed.tasks] at hmem
  refine ⟨a, plan, H, rfl, ⟨hs.gathers.next hnext rfl, hready, hphase, hfree a.id rfl, hwork,
    hs.orderly.fair _ hmem plan rfl, (hs.fits _ hmem).role.imp (·.2) (·.2)⟩, hmem, ?_, ?_⟩
  · rw [hands, ← hretimed.tasks]
    exact hhands
  · unfold perform
    dsimp only
    rw [hfind]
    rfl

/-- The user goes on to wait, or has waited for everything. -/
theorem run_drain (hview : ¬ View.CanBreak view) (hs : IsSettling given armed asks s)
    {a : Activity Role Plan} (hnext : s.board.next? = some (.run a.id, b)) {answers : List Answer}
    {H : Hands} (hup : TakenUp a ⟨.drain, closing asks, answers⟩ H { s with board := b })
    (hmem : ⟨a.id, a.role, some ⟨.drain, closing asks, answers⟩⟩ ∈ s.board.tasks)
    (hhands : s.hands = H) (hid : a.id = 0) (hrole : a.role = .user 0) :
    IsSettling given armed asks (proceed view { s with board := b } a) ∧
      left (proceed view { s with board := b } a) < left s := by
  have htasks := (Board.retimed_of_next? hnext).tasks
  have hothers := hs.validations_eq htasks
  by_cases hsome : validations ({ s with board := b } : Session V) = []
  case neg =>
    have hdrain : (Act.goOn view .drain).run _ = _ := run_drain_of_validations hsome
    have hrun := run_follow_of_paused (closing asks) answers hdrain
    rw [proceed_of_paused hup.ready hrun]
    exact hs.await hnext hid hup hsome
  case pos =>
    have hidle := hs.keys_eq_nil (by rw [← hid]; exact hnext)
    have halone : ∀ k ∈ s.board.tasks, k.id = 0 := by
      intro k hk
      rw [← htasks] at hk
      obtain ⟨x, hx, rfl⟩ := List.mem_map.mp hk
      rw [hothers, List.filter_eq_nil_iff] at hsome
      exact Decidable.of_not_not fun hne => hsome x hx (decide_eq_true hne)
    have h : IsDraining given armed asks s := by
      refine hs.course.resolve_right fun h => ?_
      obtain ⟨generation, requested, r, hstage⟩ := (h.alone _ hmem).2 _ rfl
      cases hstage
    have hserves : Serves given armed asks { s with board := b } := hs.of_eq rfl rfl
    have hkeeps : Keeps given armed [] { s with board := b } H := by
      rw [← hhands]
      exact h.keeps.quiet ⟨rfl, rfl, rfl, rfl, rfl⟩ rfl
    have hdone : (Act.goOn view .drain).run { s with board := b } = _ :=
      Session.run_drain (List.map_eq_nil_iff.mp hidle) hsome (hs.pendingEdits_eq_nil htasks)
    have hstint := stint_closing hview hserves hkeeps hdone a.role answers
    have hlands := hup.lands (by simp [Plan.work, Stage.work]) (Nat.le_refl 3) hstint
    refine hs.of_lands_user hnext hup hid hrole halone hlands ?_
    exact hup.reports hid hrole rfl hstint.enters (toldLast_closing hview hserves hkeeps hdone answers)
      h.unfinished (by rw [htasks]; exact halone)

/-- An activity goes on. -/
theorem run (hview : ¬ View.CanBreak view) (hs : IsSettling given armed asks s)
    (hnext : s.board.next? = some (.run id, b)) :
    IsSettling given armed asks (perform view { s with board := b } (.run id)) ∧
      left (perform view { s with board := b } (.run id)) < left s := by
  obtain ⟨a, plan, H, rfl, hup, hmem, hhands, hperform⟩ := hs.takenUp view hnext
  have htasks := (Board.retimed_of_next? hnext).tasks
  rw [hperform]
  obtain ⟨stage, rest, answers⟩ := plan
  obtain ⟨hid, hrole, rfl, rfl⟩ | ⟨hid, hrole, hstage, rfl⟩ | ⟨hid, hrole, hstage, rfl⟩ :=
    (hs.fits _ hmem).cases_of_plan
  · exact hs.run_drain hview hnext hup hmem hhands hid hrole
  · have h : IsClosing given armed asks s := by
      refine hs.course.resolve_left fun h => ?_
      obtain ⟨answers', hmem'⟩ := h.settles
      have heq := congrArg Task.plan? (hs.orderly.sound.eq_of_id hmem hmem' hid)
      obtain ⟨generation, requested, r, rfl⟩ := hstage
      cases heq
    have hserves : Serves given armed asks { s with board := b } := hs.of_eq rfl rfl
    have hkeeps := h.keeps.quiet (t := { s with board := b }) ⟨rfl, rfl, rfl, rfl, rfl⟩ rfl
    rw [hhands] at hkeeps
    obtain ⟨generation, requested, r, rfl⟩ := hstage
    obtain ⟨rfl, hfinished, hexpects⟩ := h.expects (hs.orderly.sound) hmem hid
    have hstint := stint_outcome hview hserves.silent hkeeps requested Stage.IsOutcome 1 answers
    have hlands := hup.lands (Nat.le_refl 1) (Nat.le_refl 1) hstint
    have halone : ∀ k ∈ s.board.tasks, k.id = 0 := fun k hk => (h.alone k hk).1
    have htells : Act.Tells (Act.goOn view (.outcome generation requested r)) { s with board := b } :=
      Act.tells_finishTransform hview hserves.silent (hexpects.congr ⟨rfl, rfl, rfl, rfl⟩) requested
    refine hs.of_lands_user hnext hup hid hrole halone hlands ?_
    exact hup.reports hid hrole rfl hstint.enters (toldLast_follow htells answers) hfinished
      (by rw [htasks]; exact halone)
  · have h : IsDraining given armed asks s :=
      hs.course.resolve_right fun h => hid (h.alone _ hmem).1
    have hserves : Serves given armed asks { s with board := b } := hs.of_eq rfl rfl
    have hkeeps := h.keeps.quiet (t := { s with board := b }) ⟨rfl, rfl, rfl, rfl, rfl⟩ rfl
    rw [hhands] at hkeeps
    have hstint := stint_verdict hview hserves hstage hkeeps answers
    have hlands := hup.lands hstage.work_pos (Nat.le_refl _) hstint
    exact hs.of_lands_verdict hnext hup hid hrole h hlands

/-! ## Coming to rest -/

/-- A job is done: less is left. -/
theorem step (hview : ¬ View.CanBreak view) (hs : IsSettling given armed asks s)
    (h : s.step view = some t) : IsSettling given armed asks t ∧ left t < left s := by
  obtain ⟨⟨j, b⟩, hnext, rfl⟩ := Option.map_eq_some_iff.mp h
  cases j with
  | run id => exact hs.run hview hnext
  | wake id => exact hs.wake hnext
  | count id => exact hs.count hnext
  | ended id => exact hs.ended hnext
  | fire d => exact hs.fire hnext

/-- Nothing is left to be done at the moment. -/
theorem next?_of_step (h : s.step view = none) : s.board.agenda.next? = none := by
  unfold Session.step Board.next? at h
  simpa using h

/-- Time passes until the next alarm is due, and then there is something to be done. -/
theorem move (hs : IsSettling given armed asks s) {due : Nat}
    (hdue : s.board.agenda.nextDue? = some due) :
    IsSettling given armed asks ((machine view).moveTo s due) ∧
      left ((machine view).moveTo s due) = left s ∧
      (machine view).step ((machine view).moveTo s due) ≠ none := by
  have htime := Turn.Agenda.le_of_nextDue? hs.gathers.tidy hdue
  refine ⟨hs.retimed ?_ (hs.gathers.moveTo htime) rfl hs.timed, rfl, fun hstep => ?_⟩
  · exact isOrderly_retimed hs.orderly ⟨hs.orderly.tallies.nodup, hs.orderly.tallies.fires⟩
      ⟨rfl, rfl, fun _ h => h⟩
  · exact Turn.Agenda.next?_moveTo_ne_none hdue (next?_of_step hstep)

/-- The user comes to an end within the steps that are needed: then the session has settled. -/
theorem passUntil (hview : ¬ View.CanBreak view) (hs : IsSettling given armed asks s) {budget : Nat}
    (hbudget : 2 * left s + 1 ≤ budget) :
    HasSettled given armed asks ((machine view).passUntil budget (hasFinished 0) s) := by
  have hrests := Turn.Machine.passUntil_rests (m := machine view) (I := IsSettling given armed asks)
    (fun _ _ hs h => hs.step hview h) (fun _ _ hs _ hdue => hs.move hdue)
    (hasFinished 0) hs hbudget
  generalize (machine view).passUntil budget (hasFinished 0) s = t at hrests
  obtain ⟨ht, hnone, hdue⟩ := hrests
  have hfinished : t.hasFinished 0 = true := by
    refine Bool.of_not_eq_false fun hunfinished => ?_
    obtain ⟨hturn, hqueued, -⟩ := Turn.Agenda.of_next?_eq_none ht.gathers.tidy (next?_of_step hnone)
    have halarms : t.board.agenda.alarms = [] := by
      have hlast : t.board.agenda.nextDue? = none := hdue hunfinished
      simpa [Turn.Agenda.nextDue?] using hlast
    have hjobs : t.board.jobs = [] := by
      simp [Board.jobs, Turn.Agenda.jobs, hturn, hqueued, halarms]
    have htasks : t.board.tasks = [] := by rw [Board.tasks, ht.gathers.activities_eq_nil hjobs, List.map_nil]
    obtain h | h := ht.course
    · obtain ⟨answers, hmem⟩ := h.settles
      rw [htasks] at hmem
      cases hmem
    · cases h.reports with
      | ended result hover hdone =>
        rw [hasFinished, hdone] at hunfinished
        cases hunfinished
      | waits generation requested r answers hmem =>
        rw [htasks] at hmem
        cases hmem
  have h : IsClosing given armed asks t := by
    refine ht.course.resolve_left fun h => ?_
    rw [hasFinished, h.unfinished] at hfinished
    cases hfinished
  cases h.reports with
  | ended result hover hdone hends =>
    have hhands : t.hands = 0 := by
      refine Multiset.eq_zero_iff_forall_notMem.mpr fun x hx => ?_
      obtain ⟨-, k, hk, -, p, hp, -⟩ := Hands.mem_ofTasks.mp hx
      rw [hover k hk] at hp
      cases hp
    exact ⟨⟨result, hdone, hends⟩, hhands, h.idle, hhands ▸ h.keeps⟩
  | waits generation requested r answers hmem hlast =>
    rw [hasFinished, hlast] at hfinished
    cases hfinished

end IsSettling

end Workbench.Session
