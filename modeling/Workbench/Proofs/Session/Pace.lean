import Workbench.Proofs.Session.Shift
import Workbench.Proofs.Session.Timely

/-!
# A draft keeps pace with its session

Each job of a session is followed in the lane of a draft: by a job that is next in the lane, a timer
fires, a verdict is asked for or is heard; by any other, nothing comes between what is to come.
-/
namespace Workbench.Session

open Document (Draft)
open Service (Reaction)
open Turn

variable {V : Type} {view : View V} {d : Draft} {w : Nat} {o : Bool}
  {s t : Session V}

/-! ## The end of a stretch of work -/

/-- An activity has come through its stretch of work, or has to wait. -/
def resume (a : Activity Role Plan) (result : Except Failure Course) (s : Session V) : Session V :=
  match result with
  | .ok (.done answers) => s.finish a (.ok answers)
  | .ok (.paused pause next) => s.suspend a next pause
  | .error f => s.finish a (.error f)

theorem proceed_eq {a : Activity Role Plan} {plan : Plan} (h : a.phase = .ready plan) :
    s.proceed view a =
      resume a ((follow view plan.rest plan.stage plan.answers).run s).1
        ((follow view plan.rest plan.stage plan.answers).run s).2 := by
  unfold proceed resume
  rw [h]
  dsimp only
  rcases (follow view plan.rest plan.stage plan.answers).run s with ⟨f | _ | _, t⟩ <;> rfl

/-- The activity at work is there, with a plan. -/
theorem IsOff.task {id : Nat} (h : s.IsOff id) :
    ∃ task ∈ s.board.tasks, task.id = id ∧ task.plan? ≠ none := by
  obtain ⟨plan, hplan⟩ := h.ready
  obtain ⟨role, hmem⟩ := Board.IsSound.task_of_phase? hplan
  exact ⟨_, hmem, rfl, by simp [Phase.plan?]⟩

/-- What the others have to do is not changed by what is done about the one at work. -/
theorem IsOff.plan?_of_ne {id : Nat} (h : s.IsOff id) {board : Board Role Plan Draft}
    (hphase : ∀ i, i ≠ id → board.phase? i = s.board.phase? i) :
    ∀ i ∈ s.board.goers, board.plan? i = s.board.plan? i := by
  intro i hi
  have hne : i ≠ id := fun heq => h.off (heq ▸ hi)
  rw [Board.plan?, hphase i hne, Board.plan?]

theorem IsTimely.finish (h : IsTimely d w o s) {a : Activity Role Plan} (hoff : s.IsOff a.id)
    (result : Except Failure (List Answer)) : Advances d w o (s.lane d) s (s.finish a result) := by
  have hfinish (failure : Option Failure) :
      Advances d w o (s.lane d) s { s with board := s.board.finish a.id failure } := by
    obtain ⟨task, hmem, hid, -⟩ := hoff.task
    refine .silent h ⟨?_, Board.isTidy_finish h.tidy a.id failure,
      h.rostered.finish hoff.off failure, h.plans.finish fun _ _ _ => trivial, h.window, h.owns⟩
      ?_ (List.append_nil _).symm (by simp)
    · rw [← hid]
      exact h.sound.finish hmem failure
    · exact lane_eq rfl (Board.now_finish ..) rfl (Board.outlook_finish ..)
        (hoff.plan?_of_ne fun i hi => Board.phase?_finish s.board failure hi) rfl
  unfold Session.finish
  dsimp only
  split
  · exact (hfinish _).trans ((hfinish _).timely.aside (.of_store rfl rfl rfl rfl rfl rfl))
  · exact hfinish _

theorem IsTimely.await (h : IsTimely d w o s) {a : Activity Role Plan} (hoff : s.IsOff a.id)
    {next : Plan} (hnext : next.IsBeside d) (others : List (Activity Role Plan)) :
    Advances d w o (s.lane d) s (s.suspend a next (.activities others)) := by
  obtain ⟨task, hmem, hid, hplan⟩ := hoff.task
  refine .silent h ⟨?_, Board.isTidy_await h.tidy a.id others next,
    h.rostered.await hoff.off others next, h.plans.await fun _ _ _ => hnext, h.window, h.owns⟩ ?_
    (List.append_nil _).symm (by simp)
  · have htasks : (s.board.await a.id others next).tasks =
        s.board.tasks.map (Task.put task.id (some next)) := by
      rw [hid]
      exact Board.tasks_await ..
    exact h.sound.wait hmem hplan htasks (Board.nextId_await ..) (Board.addsTurns_await ..)
  · exact lane_eq rfl (Board.later_await ..).2 rfl (Board.outlook_await ..)
      (hoff.plan?_of_ne fun i hi => Board.phase?_await s.board others next hi) rfl

/-- What the activity does after a while joins the lane, if it is something to the draft. -/
theorem IsTimely.sleep (h : IsTimely d w o s) {a : Activity Role Plan} (hoff : s.IsOff a.id)
    {next : Plan} (hnext : next.IsBeside d ∨ next.IsOwn d) (duration : Nat) :
    IsTimely d w o (s.suspend a next (.time duration)) ∧
      (s.suspend a next (.time duration)).lane d =
        { s.lane d with
          line :=
            (next.stage.due? d).elim (s.lane d).line fun x =>
              insertDue (s.board.now + duration, x) (s.lane d).line } := by
  obtain ⟨task, hmem, hid, hplan⟩ := hoff.task
  obtain ⟨plan, hready⟩ := hoff.ready
  have hothers := hoff.plan?_of_ne fun i hi => Board.phase?_setPhase_of_ne s.board (.asleep next) hi
  refine ⟨⟨?_, Agenda.isTidy_arm h.tidy duration rfl,
    h.rostered.sleep hoff.off hready duration next, h.plans.setPhase fun _ _ _ => hnext, h.window,
    h.owns⟩, ?_⟩
  · have htasks : (s.board.sleep a.id duration next).tasks =
        s.board.tasks.map (Task.put task.id (some next)) := by
      rw [hid]
      exact Board.tasks_sleep ..
    exact h.sound.wait hmem hplan htasks rfl (Board.addsTurns_sleep ..)
  · have hself : (s.board.sleep a.id duration next).phase? a.id = some (.asleep next) := by
      refine (Board.phase?_setPhase s.board a.id (.asleep next) a.id).trans ?_
      rw [if_pos rfl, hready, Option.map_some]
    have hwake : (s.suspend a next (.time duration)).due? d (.wake a.id) = next.stage.due? d := by
      change ((s.board.sleep a.id duration next).plan? a.id).bind _ = _
      rw [Board.plan?_of_phase? hself]
      rfl
    have hkept : relabel ((s.suspend a next (.time duration)).due? d) s.board.outlook =
        (s.lane d).line := relabel_due?_congr (fun _ hx => hx) hothers rfl
    unfold lane at hkept ⊢
    have houtlook : (s.suspend a next (.time duration)).board.outlook =
        insertDue (s.board.now + duration, .wake a.id) s.board.outlook := Board.outlook_sleep ..
    rw [houtlook, relabel_insertDue (Board.isByTime_outlook h.tidy), hwake, hkept]
    cases next.stage.due? d <;> rfl

/-- After work beside the validation of the draft, nothing changes in its lane. -/
theorem IsTimely.resume (h : IsTimely d w o s) {a : Activity Role Plan} (hoff : s.IsOff a.id)
    {result : Except Failure Course} (hresult : ∀ c, result = .ok c → c.IsBeside d) :
    Advances d w o (s.lane d) s (s.resume a result) := by
  unfold Session.resume
  split
  · exact h.finish hoff _
  case h_2 pause next =>
    have hnext : next.IsBeside d := hresult _ rfl
    cases pause with
    | time duration =>
      obtain ⟨htimely, hlane⟩ := h.sleep hoff (.inl hnext) duration
      refine .silent h htimely ?_ (List.append_nil _).symm (by simp)
      rw [hlane, Stage.due?_of_isBeside hnext.stage]
      rfl
    | activities others => exact h.await hoff hnext others
  · exact h.finish hoff _

/-! ## The validation of the draft -/

/-- How far a stage got, as the course of an activity with nothing to do after it. -/
def Progress.course (answers : List Answer) : Progress → Course
  | .done a => .done (answers ++ [a])
  | .paused pause next => .paused pause ⟨next, [], answers⟩

theorem run_follow_nil (view : View V) (stage : Stage) (answers : List Answer) (s : Session V) :
    (follow view [] stage answers).run s =
      (((Act.goOn view stage).run s).1.map (Progress.course answers),
        ((Act.goOn view stage).run s).2) := by
  unfold follow
  rw [Act.run_bind]
  rcases (Act.goOn view stage).run s with ⟨f | _ | _, t⟩ <;> rfl

theorem isBeside_course {result : Except Failure Progress}
    (h : ∀ p, result = .ok p → p.isBeside d) (answers : List Answer) :
    ∀ c, result.map (Progress.course answers) = .ok c → c.IsBeside d := by
  intro c hc
  cases result with
  | error f => cases hc
  | ok p =>
    cases hc
    have hp := h p rfl
    cases p with
    | done a => exact trivial
    | paused pause next => exact ⟨hp, by simp⟩

/-- The draft hears a verdict, and then what comes of it is told. -/
theorem IsTimely.hear (h : IsTimely d w o s) (view : View V) (text : String)
    (r : Reaction) {id : Nat} (hoff : s.IsOff id) :
    Advances d w o
        { s.lane d with line := (s.board.now, .verdict text r) :: (s.lane d).line } s
        ((Act.finishValidation view d text r).run s).2 ∧
      ((Act.finishValidation view d text r).run s).2.IsOff id ∧
      ∀ p, ((Act.finishValidation view d text r).run s).1 = .ok p → p.isBeside d := by
  obtain ⟨tell, htell, hrun⟩ := Act.run_finishValidation view d text r s
  rw [hrun]
  generalize hnotes : s.noteAll (Service.Client.readVerdict d r).1 = u
  have hnoted : Aside d s u := hnotes ▸ aside_noteAll s _
  have hu := (h.aside hnoted).timely
  have hlane : u.lane d = s.lane d :=
    lane_eq hnoted.client (by rw [hnoted.board]) hnoted.draft (by rw [hnoted.board])
      (fun i _ => by rw [hnoted.board]) (by rw [hnoted.scheduler])
  have hv : IsTimely d w o (u.hearVerdict d text (Service.Client.readVerdict d r).2) :=
    hu.of_eq rfl rfl rfl
  have hheard : Advances d w o
      { s.lane d with line := (s.board.now, .verdict text r) :: (s.lane d).line } s
      (u.hearVerdict d text (Service.Client.readVerdict d r).2) := by
    refine ⟨hv, congrArg Lane.now hlane,
      [.judged d text (Service.Client.readVerdict d r).2], ?_, ?_⟩
    · rw [history_hearVerdict, ← hnotes]
      rfl
    · rw [momentsAt_singleton _ (m := .heard text (Service.Client.readVerdict d r).2)
        (by simp [Happening.moment?])]
      refine Lane.Passes.single (fun x hx => ?_) ?_ hv.ahead
      · obtain rfl | hx := List.mem_cons.mp hx
        · exact Nat.le_refl _
        · exact h.ahead x hx
      · have hafter : (u.hearVerdict d text (Service.Client.readVerdict d r).2).lane d =
            { s.lane d with
              draft :=
                if (s.lane d).draft.text = text then
                  judgedDraft d (s.lane d).draft (Service.Client.readVerdict d r).2
                else (s.lane d).draft } := by
          have hdraft := draft_hearVerdict u d d text (Service.Client.readVerdict d r).2
          rw [← hlane]
          unfold lane
          rw [hdraft]
          simp only [true_and]
          rfl
        rw [hafter]
        exact .hear (r := r) rfl
  have hstrokes := (htell d).strokes (u.hearVerdict d text (Service.Client.readVerdict d r).2)
  refine ⟨hheard.trans (hv.strokes hstrokes), hv.off_strokes hstrokes ?_, (htell d).result _⟩
  exact hoff.of_eq hnoted.board

/-- An activity takes up the verdict on a text of the draft. -/
theorem IsTimely.verdict (h : IsTimely d w o s) (view : View V) {a : Activity Role Plan}
    (hoff : s.IsOff a.id) (text : String) (r : Reaction) (answers : List Answer) :
    Advances d w o
      { s.lane d with line := (s.board.now, .verdict text r) :: (s.lane d).line } s
      (Session.resume a ((follow view [] (.verdict d text r) answers).run s).1
        ((follow view [] (.verdict d text r) answers).run s).2) := by
  obtain ⟨hheard, hoff', hbeside⟩ := h.hear view text r hoff
  rw [run_follow_nil]
  exact hheard.trans (hheard.timely.resume hoff' (isBeside_course hbeside answers))

/-- A stretch of work that asks for a verdict does nothing else until the request is sent, and its
reply is taken up, or it cannot be sent. -/
theorem run_validate (s : Session V) (view : View V) (d : Draft) (text : String) :
    (∃ out reply u, s.client.canSend (.validate d) = true ∧ out.request = .validate d text ∧
      u.history = s.history ++ [.sent ⟨s.board.now, out⟩ reply] ∧ u.store = s.store ∧
      u.scheduler = s.scheduler ∧ u.board = s.board ∧ u.client = s.client ∧
      u.ownsClient = s.ownsClient ∧
      (Act.validate view d.buffer text).run s =
        (Act.receive reply (Act.finishValidation view d text) (.verdict d text)).run u) ∨
    ∃ f u, s.client.canSend (.validate d) = false ∧
      u.history = s.history ++ [.refused (.validate d text) f] ∧ u.store = s.store ∧
      u.scheduler = s.scheduler ∧ u.board = s.board ∧ u.client = s.client ∧
      u.ownsClient = s.ownsClient ∧
      (Act.validate view d.buffer text).run s = (.error f, u) := by
  have hvalidate : Act.validate view d.buffer text = Act.send (.validate d text) >>=
      fun reply => Act.receive reply (Act.finishValidation view d text) (.verdict d text) := by
    unfold Act.validate
    rw [Document.draft?_buffer]
  rw [hvalidate, Act.run_bind]
  cases hcan : s.client.canSend (.validate d) with
  | true =>
    obtain ⟨out, reply, server, hout, hcall⟩ :=
      Service.Client.send_validate_of_canSend hcan s.server text
    rw [Act.run_send hcall]
    exact .inl ⟨out, reply, record (.sent ⟨s.board.now, out⟩ reply)
      { s.noteAll (Service.Call.validate d text).notes with server },
      rfl, hout, rfl, rfl, rfl, rfl, rfl, rfl, rfl⟩
  | false =>
    obtain ⟨f, hcall⟩ := Service.Client.send_validate_of_not_canSend hcan s.server text
    rw [Act.run_send_of_error hcall]
    exact .inr ⟨f, record (.refused (.validate d text) f)
      (s.noteAll (Service.Call.validate d text).notes), rfl, rfl, rfl, rfl, rfl, rfl, rfl, rfl⟩

/-- Something has happened in the lane before the session goes on. -/
theorem Advances.after {u : Session V} {σ τ : Lane} {x : Happening} (h : Advances d w o τ u t)
    (hnow : u.board.now = s.board.now) (hhistory : u.history = s.history ++ [x])
    (hpasses : Lane.Passes (Lane.Does d w o) σ (momentsAt d s.board.now [x]) τ) :
    Advances d w o σ s t := by
  obtain ⟨new, hnew, hrest⟩ := h.passes
  rw [hnow] at hrest
  refine ⟨h.timely, h.now.trans hnow, [x] ++ new, ?_, ?_⟩
  · rw [hnew, hhistory, List.append_assoc]
  · rw [momentsAt_append]
    exact hpasses.trans hrest

/-- An activity asks for the verdict on a text of the draft. -/
theorem IsTimely.ask (h : IsTimely d w o s) (view : View V) {a : Activity Role Plan}
    (hoff : s.IsOff a.id) (text : String) (answers : List Answer) :
    Advances d w o
      { s.lane d with line := (s.board.now, .question text) :: (s.lane d).line } s
      (Session.resume a ((follow view [] (.start (.validate d.buffer text)) answers).run s).1
        ((follow view [] (.start (.validate d.buffer text)) answers).run s).2) := by
  have hahead : ∀ x ∈ (s.board.now, Due.question text) :: (s.lane d).line, s.board.now ≤ x.1 := by
    intro x hx
    obtain rfl | hx := List.mem_cons.mp hx
    · exact Nat.le_refl _
    · exact h.ahead x hx
  have hgoOn : (Act.goOn view (.start (.validate d.buffer text))).run s =
      (Act.validate view d.buffer text).run s := rfl
  rw [run_follow_nil, hgoOn]
  obtain ⟨out, reply, u, hsend, hout, hhistory, hstore, hscheduler, hboard, hclient, howns, hrun⟩ |
      ⟨f, u, hsend, hhistory, hstore, hscheduler, hboard, hclient, howns, hrun⟩ :=
    s.run_validate view d text
  all_goals
    have hu : IsTimely d w o u := h.of_eq hboard hscheduler howns
    have hoffu : u.IsOff a.id := hoff.of_eq hboard
    have hlane : u.lane d = s.lane d :=
      lane_eq hclient (by rw [hboard]) (by rw [hstore]) (by rw [hboard]) (fun i _ => by rw [hboard])
        (by rw [hscheduler])
  case inr =>
    -- the request cannot be sent, and the activity ends
    have hended : ∀ p, (Except.error f : Except Failure Progress) = .ok p → p.isBeside d :=
      fun p hp => by cases hp
    have hresumed := hu.resume hoffu (isBeside_course hended answers)
    rw [hrun]
    refine hresumed.after (by rw [hboard]) hhistory ?_
    have hmoment : momentsAt d s.board.now [.refused (.validate d text) f] =
        [(s.board.now, .refused text)] := momentsAt_singleton _ (if_pos rfl)
    rw [hmoment, hlane]
    exact Lane.Passes.single hahead (.refuse rfl hsend) h.ahead
  have hmoment : momentsAt d s.board.now [.sent ⟨s.board.now, out⟩ reply] =
      [(s.board.now, .asked s.board.now (.validate d text) reply)] := by
    refine momentsAt_singleton _ ?_
    simp only [Happening.moment?, hout]
    cases d <;> rfl
  have hask := Lane.Does.ask (d := d) (w := w) (o := o)
    (σ := { s.lane d with line := (s.board.now, .question text) :: (s.lane d).line }) rfl hsend
    reply
  rw [hrun]
  unfold Act.receive
  split
  case isTrue hdelay =>
    -- the verdict is heard at once
    obtain ⟨hheard, hoff', hbeside⟩ := hu.hear view text reply.reaction hoffu
    have hresumed := hheard.timely.resume hoff' (isBeside_course hbeside answers)
    refine (hheard.trans hresumed).after (by rw [hboard]) hhistory ?_
    rw [hmoment, hlane, hboard]
    refine Lane.Passes.single hahead ?_ fun x hx => ?_
    · rw [Lane.expect, if_pos hdelay] at hask
      exact hask
    · obtain rfl | hx := List.mem_cons.mp hx
      · exact Nat.le_refl _
      · exact h.ahead x hx
  case isFalse hdelay =>
    -- it is waited for
    have hown : Plan.IsOwn d ⟨.verdict d text reply.reaction, [], answers⟩ :=
      ⟨.inr ⟨_, _, rfl⟩, rfl⟩
    obtain ⟨htimely, hline⟩ := hu.sleep hoffu (.inr hown) reply.delay
    have hnow : u.board.now = s.board.now := by rw [hboard]
    refine ⟨htimely, hnow, _, hhistory, ?_⟩
    rw [hmoment]
    refine Lane.Passes.single hahead ?_ htimely.ahead
    rw [Lane.expect, if_neg hdelay] at hask
    change Lane.Does d w o _ _ ((u.suspend a _ (.time reply.delay)).lane d)
    have hdue : (Stage.verdict d text reply.reaction).due? d =
        some (.verdict text reply.reaction) := if_pos rfl
    rw [hline, hlane, hnow]
    dsimp only
    rw [hdue]
    exact hask

/-! ## Jobs -/

theorem Advances.of_start {u : Session V} {σ : Lane} (h : Advances d w o σ u t)
    (hnow : u.board.now = s.board.now) (hhistory : u.history = s.history) :
    Advances d w o σ s t := by
  obtain ⟨new, hnew, hpasses⟩ := h.passes
  rw [hnow] at hpasses
  exact ⟨h.timely, h.now.trans hnow, new, hhistory ▸ hnew, hpasses⟩

theorem due?_of_activities {board : Board Role Plan Draft}
    (h : board.activities = s.board.activities) :
    due? d { s with board } = s.due? d := by
  funext j
  cases j with
  | run id => simp only [due?, Board.plan?, Board.phase?_of_activities h]
  | wake id => simp only [due?, Board.plan?, Board.phase?_of_activities h]
  | _ => rfl

/-- The next job is taken up. -/
theorem IsTimely.next (h : IsTimely d w o s) {j : Job Draft} {board : Board Role Plan Draft}
    (hnext : s.board.next? = some (j, board)) :
    IsTimely d w o { s with board } ∧ board.now = s.board.now ∧
      (s.lane d).line = relabel (s.due? d)
        ((j.run?.toList.map fun id => (s.board.now, .run id)) ++ board.runs ++
          (if j.isAlarm then [(s.board.now, j)] else []) ++ board.agenda.later) := by
  obtain ⟨houtlook, htidy, hnow⟩ := Board.outlook_of_next? h.tidy hnext
  refine ⟨⟨h.sound.retimed (Board.retimed_of_next? hnext), htidy, (h.rostered.next hnext).1,
    h.plans.of_eq (Board.activities_of_next? hnext), h.window, h.owns⟩, hnow, ?_⟩
  rw [lane, houtlook]

/-- An activity goes on. -/
theorem IsTimely.run (h : IsTimely d w o s) {id : Nat} {board : Board Role Plan Draft}
    (hnext : s.board.next? = some (.run id, board)) :
    Advances d w o (s.lane d) s (perform view { s with board } (.run id)) := by
  obtain ⟨htimely, hnow, hline⟩ := h.next hnext
  obtain ⟨-, ⟨plan, hready⟩, hoff⟩ := h.rostered.next hnext
  have hactivities := Board.activities_of_next? hnext
  obtain ⟨a, hfind, hphase⟩ := Option.map_eq_some_iff.mp hready
  obtain ⟨-, haid⟩ := Board.IsSound.task_of_find? hfind
  have hfit : IsFit d (.ready plan) := by
    have ha := htimely.plans a (List.mem_of_find?_eq_some hfind)
    rwa [hphase] at ha
  have hoff' : IsOff { s with board } a.id := by
    rw [haid]
    exact ⟨hoff id rfl, plan, hready⟩
  -- it is in front, and what it is to the draft is what its stage is
  have hdue : s.due? d (.run id) = plan.stage.due? d := by
    rw [← due?_of_activities hactivities]
    simp only [due?, Board.plan?_of_phase? hready, Phase.plan?, Option.bind_some]
  have hlane : s.lane d =
      { lane d { s with board } with
        line := ((plan.stage.due? d).map (s.board.now, ·)).toList ++
          (lane d { s with board }).line } := by
    have hrest : (s.lane d).line = ((plan.stage.due? d).map (s.board.now, ·)).toList ++
        (lane d { s with board }).line := by
      rw [hline, lane, Board.outlook, due?_of_activities hactivities]
      simp [Job.run?, Job.isAlarm, relabel_cons, hdue]
    rw [← hrest]
    unfold lane
    dsimp only
    rw [hnow]
  have hperform : perform view { s with board } (.run id) = proceed view { s with board } a := by
    simp only [perform, hfind, Option.elim_some]
  rw [hperform, proceed_eq hphase]
  obtain hbeside | hown := hfit
  · -- it goes on beside the validation of the draft
    rw [Stage.due?_of_isBeside hbeside.stage] at hlane
    have hfollow : Act.ByStrokes d (follow view plan.rest plan.stage plan.answers)
        (Course.IsBeside d) := byStrokes_follow hbeside.rest hbeside.stage plan.answers
    have hstrokes := hfollow.strokes { s with board }
    refine Advances.of_start (u := { s with board }) ?_ hnow rfl
    have hsame : s.lane d = lane d { s with board } := hlane
    rw [hsame]
    have hworked := htimely.strokes hstrokes
    exact hworked.trans
      (hworked.timely.resume (htimely.off_strokes hstrokes hoff') (hfollow.result _))
  · rw [hown.rest]
    obtain ⟨text, hstage⟩ | ⟨text, r, hstage⟩ := hown.stage
    · rw [hstage] at hlane ⊢
      have hask := htimely.ask view hoff' text plan.answers
      refine Advances.of_start (u := { s with board }) ?_ hnow rfl
      have hsame : s.lane d =
          { lane d { s with board } with
            line := (board.now, .question text) :: (lane d { s with board }).line } := by
        rw [hlane, hnow]
        simp [Stage.due?]
      rw [hsame]
      exact hask
    · rw [hstage] at hlane ⊢
      have hverdict := htimely.verdict view hoff' text r plan.answers
      refine Advances.of_start (u := { s with board }) ?_ hnow rfl
      have hsame : s.lane d =
          { lane d { s with board } with
            line := (board.now, .verdict text r) :: (lane d { s with board }).line } := by
        rw [hlane, hnow]
        simp [Stage.due?]
      rw [hsame]
      exact hverdict

/-- An activity wakes: it is in line now for what it had to wait for. -/
theorem IsTimely.wake (h : IsTimely d w o s) {id : Nat} {board : Board Role Plan Draft}
    (hnext : s.board.next? = some (.wake id, board)) :
    Advances d w o (s.lane d) s (perform view { s with board } (.wake id)) := by
  obtain ⟨htimely, hnow, hline⟩ := h.next hnext
  obtain ⟨-, ⟨plan, hasleep⟩, hoff⟩ := h.rostered.next hnext
  have hactivities := Board.activities_of_next? hnext
  have hwoken := Board.addsTurns_wake board id
  have hwake : board.wake id = (board.setPhase id (.ready plan)).queue (.run id) := by
    unfold Board.wake
    rw [hasleep]
  have hretimed : Board.Retimed board (board.wake id) :=
    ⟨htimely.sound.tasks_wake id, Board.nextId_wake board id, fun i => (hwoken.mem_iff rfl).mp⟩
  have hdue : due? d { s with board := board.wake id } = s.due? d := by
    rw [← due?_of_activities hactivities]
    funext j
    cases j <;> simp only [due?, Board.plan?_wake]
  have htidy : (board.wake id).agenda.IsTidy := by
    rw [hwake]
    exact Agenda.isTidy_queue htimely.tidy rfl
  refine .silent h ⟨htimely.sound.retimed hretimed, htidy, htimely.rostered.wake (hoff id rfl),
    htimely.plans.wake htimely.sound id fun _ _ hfit => hfit, htimely.window, htimely.owns⟩ ?_
    (List.append_nil _).symm (by simp)
  · have houtlook : (board.wake id).outlook =
        board.runs ++ (board.now, .run id) :: board.agenda.later := by
      rw [hwake]
      exact Board.outlook_queue_run _ id
    have hsame : (lane d { s with board := board.wake id }).line = (s.lane d).line := by
      rw [hline, lane, hdue, houtlook, hnow]
      simp only [Job.run?, Job.isAlarm, Option.toList_none, List.map_nil, List.nil_append, if_true,
        relabel_append, relabel_cons, relabel_nil, List.append_nil, List.append_assoc]
      rfl
    have hnow' : (board.wake id).now = s.board.now := by
      rw [hwake]
      exact hnow
    exact Lane.ext hnow' rfl hsame rfl

/-- One of those that an activity waits for has ended. -/
theorem IsTimely.count (h : IsTimely d w o s) {id : Nat} {board : Board Role Plan Draft}
    (hnext : s.board.next? = some (.count id, board)) :
    Advances d w o (s.lane d) s (perform view { s with board } (.count id)) := by
  obtain ⟨htimely, hnow, hline⟩ := h.next hnext
  have hactivities := Board.activities_of_next? hnext
  have hcounted := Board.addsTurns_count board id
  have hretimed : Board.Retimed board (board.count id) :=
    ⟨htimely.sound.tasks_count id, Board.nextId_count board id, fun i => (hcounted.mem_iff rfl).mp⟩
  have hlane : lane d { s with board } = s.lane d := by
    refine Lane.ext hnow rfl ?_ rfl
    rw [hline, lane, due?_of_activities hactivities, Board.outlook]
    simp [Job.run?, Job.isAlarm]
  have htidy : (board.count id).agenda.IsTidy := by
    unfold Board.count
    split
    · split
      · exact Agenda.isTidy_queue htimely.tidy rfl
      · exact htimely.tidy
    · exact htimely.tidy
  have hcount : IsTimely d w o { s with board := board.count id } :=
    ⟨htimely.sound.retimed hretimed, htidy, htimely.rostered.count id,
      htimely.plans.count htimely.sound id (fun _ _ _ _ hfit => hfit) fun _ _ _ hfit => .inl hfit,
      htimely.window, htimely.owns⟩
  refine .silent h hcount ?_ (List.append_nil _).symm (by simp)
  rw [← hlane]
  unfold perform
  dsimp only
  have hplan : ∀ i ∈ board.goers, (board.count id).plan? i = board.plan? i :=
    fun i _ => Board.plan?_count board id i
  unfold Board.count at hplan ⊢
  split
  case h_1 n next hphase =>
    rw [hphase] at hplan
    dsimp only at hplan
    split
    case isTrue hlast =>
      rw [if_pos hlast] at hplan
      refine lane_eq_of_join rfl rfl rfl (Board.outlook_queue_run _ id) ?_ hplan rfl
      -- whoever has waited for others does not validate the draft
      obtain ⟨a, ha, -, hwaiting⟩ := Board.exists_of_phase? hphase
      have hfit := htimely.plans a ha
      rw [hwaiting] at hfit
      have hgo : ((board.setPhase id (.ready next)).queue (.run id)).plan? id = some next := by
        have hready := Board.plan?_goOn hphase (r := .ready next) rfl id
        exact hready.trans (Board.plan?_of_phase? hphase)
      simp only [due?, hgo, Option.bind_some]
      exact Stage.due?_of_isBeside (Plan.IsBeside.stage hfit)
    case isFalse hmore =>
      rw [if_neg hmore] at hplan
      exact lane_eq rfl rfl rfl rfl hplan rfl
  case h_2 => rfl

/-- The end of an activity is noticed. -/
theorem IsTimely.ended (h : IsTimely d w o s) {id : Nat} {board : Board Role Plan Draft}
    (hnext : s.board.next? = some (.ended id, board)) :
    Advances d w o (s.lane d) s (perform view { s with board } (.ended id)) := by
  obtain ⟨htimely, hnow, hline⟩ := h.next hnext
  have hactivities := Board.activities_of_next? hnext
  have hlane : lane d { s with board } = s.lane d := by
    refine Lane.ext hnow rfl ?_ rfl
    rw [hline, lane, due?_of_activities hactivities, Board.outlook]
    simp [Job.run?, Job.isAlarm]
  unfold perform
  dsimp only
  cases hfind : board.find? id with
  | none => exact .silent h htimely hlane (List.append_nil _).symm (by simp)
  | some a =>
    obtain ⟨-, haid⟩ := Board.IsSound.task_of_find? hfind
    -- it is over, so that it is on the agenda no more
    have hoff : a.id ∉ board.goers := by
      rw [haid]
      exact htimely.rostered.not_mem_goers_of_over (h.sound.over_of_next? hnext)
    have hremoved : Advances d w o (s.lane d) s { s with board := board.remove a.id } := by
      refine .silent h ⟨htimely.sound.remove a.id, htimely.tidy, htimely.rostered.remove hoff,
        htimely.plans.remove a.id, htimely.window, htimely.owns⟩ ?_
        (List.append_nil _).symm (by simp)
      rw [← hlane]
      refine lane_eq rfl rfl rfl rfl (fun i hi => ?_) rfl
      have hne : i ≠ a.id := fun heq => hoff (heq ▸ hi)
      change (board.remove a.id).plan? i = board.plan? i
      rw [Board.plan?, Board.phase?_remove board hne, Board.plan?]
    simp only [Option.elim_some, leave]
    split
    · exact hremoved.trans (hremoved.timely.aside (.of_store rfl rfl rfl rfl rfl rfl))
    · exact hremoved.trans (hremoved.timely.aside (.of_store rfl rfl rfl rfl rfl rfl))
    · exact hremoved

/-- The timer of another draft fires. -/
theorem IsTimely.fire_of_ne (h : IsTimely d w o s) (hs : s.IsOrderly) {e : Draft} (he : e ≠ d)
    {board : Board Role Plan Draft} (hnext : s.board.next? = some (.fire e, board)) :
    Advances d w o (s.lane d) s (perform view { s with board } (.fire e)) := by
  obtain ⟨htimely, hnow, hline⟩ := h.next hnext
  obtain ⟨text, -, -, heq⟩ := fire_eq hs.tallies hnext
  have hactivities := Board.activities_of_next? hnext
  have hdropped : IsTimely d w o { s with board, scheduler := s.scheduler.drop e } :=
    ⟨htimely.sound, htimely.tidy, htimely.rostered, htimely.plans, htimely.window, htimely.owns⟩
  have hlane : lane d { s with board, scheduler := s.scheduler.drop e } = s.lane d := by
    have hsame : lane d { s with board, scheduler := s.scheduler.drop e } =
        lane d { s with board } :=
      lane_eq rfl rfl rfl rfl (fun _ _ => rfl)
        (Coalescing.Scheduler.work?_drop_of_ne _ fun heq => he heq.symm)
    rw [hsame]
    refine Lane.ext hnow rfl ?_ rfl
    rw [hline, lane, due?_of_activities hactivities, Board.outlook]
    have hfire : s.due? d (.fire e) = none := if_neg he
    simp [Job.run?, Job.isAlarm, relabel_cons, hfire]
  have hbeside : Plan.IsBeside d { stage := .start (.validate e.buffer text) } := by
    refine .single ?_
    simp [Stage.isBeside, he]
  have hspawned := hdropped.spawn .validation hbeside
  rw [hlane] at hspawned
  unfold perform
  dsimp only
  rw [heq]
  exact hspawned.of_start hnow rfl

/-- The timer of the draft fires. -/
theorem IsTimely.fire_self (h : IsTimely d w o s) (hs : s.IsOrderly) {board : Board Role Plan Draft}
    (hnext : s.board.next? = some (.fire d, board)) :
    IsTimely d w o (perform view { s with board } (.fire d)) ∧
      (perform view { s with board } (.fire d)).history = s.history ∧
      Lane.Does d w o (s.lane d) .fired ((perform view { s with board } (.fire d)).lane d) := by
  obtain ⟨htimely, hnow, hline⟩ := h.next hnext
  obtain ⟨text, hwork, htallies, hperform⟩ := fire_eq hs.tallies hnext
  have hactivities := Board.activities_of_next? hnext
  have hdropped : IsTimely d w o { s with board, scheduler := s.scheduler.drop d } :=
    ⟨htimely.sound, htimely.tidy, htimely.rostered, htimely.plans, htimely.window, htimely.owns⟩
  have hown : Plan.IsOwn d { stage := .start (.validate d.buffer text) } := ⟨.inl ⟨text, rfl⟩, rfl⟩
  unfold perform
  dsimp only
  rw [hperform]
  refine ⟨hdropped.join .validation (.inr hown), rfl, ?_⟩
  obtain ⟨hself, hothers⟩ := hdropped.plan?_spawn .validation
    { stage := .start (.validate d.buffer text) }
  -- no other timer of the draft is on the agenda
  have hlast : .fire d ∉ board.jobs := by
    refine List.count_eq_zero.mp ?_
    rw [htallies.fires, List.count_eq_zero, Coalescing.Scheduler.keys_drop]
    simp
  have hkept {xs : List (Nat × Job Draft)} (hxs : ∀ x ∈ xs, x.2 ∈ board.jobs) :
      relabel (due? d { s with
          scheduler := s.scheduler.drop d
          board := board.spawn .validation { stage := .start (.validate d.buffer text) } }) xs =
        relabel (s.due? d) xs := by
    refine relabel_congr fun x hx => ?_
    obtain ⟨time, j⟩ := x
    have hj := hxs _ hx
    rw [← due?_of_activities hactivities]
    cases j with
    | run id => simp only [due?, hothers id (Board.mem_goers hj rfl)]
    | wake id => simp only [due?, hothers id (Board.mem_goers hj rfl)]
    | fire e =>
      have he : e ≠ d := fun heq => hlast (heq ▸ hj)
      simp only [due?, if_neg he]
    | _ => rfl
  have hruns : ∀ x ∈ board.runs, x.2 ∈ board.jobs := fun x hx =>
    Board.mem_jobs_of_mem_outlook (List.mem_append_left _ hx)
  have hlater : ∀ x ∈ board.agenda.later, x.2 ∈ board.jobs := fun x hx =>
    Board.mem_jobs_of_mem_outlook (List.mem_append_right _ hx)
  have hfire : s.due? d (.fire d) = some (.timer text) := by simp [due?, hwork]
  have hbefore : (s.lane d).line = relabel (s.due? d) board.runs ++
      ((s.lane d).now, .timer text) :: relabel (s.due? d) board.agenda.later := by
    rw [hline]
    simp only [Job.run?, Job.isAlarm, Option.toList_none, List.map_nil, List.nil_append, if_true,
      relabel_append, relabel_cons, hfire, relabel_nil, List.append_nil, List.append_assoc]
    rfl
  have hafter : lane d { s with
        scheduler := s.scheduler.drop d
        board := board.spawn .validation { stage := .start (.validate d.buffer text) } } =
      { s.lane d with
        line := relabel (s.due? d) board.runs ++
          ((s.lane d).now, .question text) :: relabel (s.due? d) board.agenda.later } := by
    refine Lane.ext hnow rfl ?_ rfl
    have hquestion : due? d { s with
        scheduler := s.scheduler.drop d
        board := board.spawn .validation { stage := .start (.validate d.buffer text) } }
          (.run board.nextId) = some (.question text) := by
      have hplan := hself
      simp only [due?, hplan, Option.bind_some]
      exact if_pos rfl
    change relabel _ (board.spawn _ _).outlook = _
    rw [Board.outlook_spawn, relabel_append, relabel_cons, hquestion, hkept hruns, hkept hlater,
      hnow]
    rfl
  rw [hafter]
  exact .fire hbefore

/-- The draft whose timer fires by the next job, if it is a timer. -/
def firing? (s : Session V) : Option Draft :=
  match s.board.next? with
  | some (.fire e, _) => some e
  | _ => none

/-- A job is done. Unless it is the firing of the draft's timer, the draft goes on by what is
entered in the history. -/
theorem IsTimely.step (h : IsTimely d w o s) (hs : s.IsOrderly) (hstep : s.step view = some t) :
    (s.firing? ≠ some d → Advances d w o (s.lane d) s t) ∧
      (s.firing? = some d → IsTimely d w o t ∧ t.history = s.history ∧
        Lane.Does d w o (s.lane d) .fired (t.lane d)) := by
  obtain ⟨⟨j, board⟩, hnext, rfl⟩ := Option.map_eq_some_iff.mp hstep
  dsimp only
  unfold firing?
  rw [hnext]
  cases j with
  | run id => exact ⟨fun _ => h.run hnext, fun hfire => by cases hfire⟩
  | wake id => exact ⟨fun _ => h.wake hnext, fun hfire => by cases hfire⟩
  | count id => exact ⟨fun _ => h.count hnext, fun hfire => by cases hfire⟩
  | ended id => exact ⟨fun _ => h.ended hnext, fun hfire => by cases hfire⟩
  | fire e =>
    refine ⟨fun hfire => h.fire_of_ne hs (fun heq => hfire (by rw [heq])) hnext, fun hfire => ?_⟩
    cases hfire
    exact h.fire_self hs hnext

end Workbench.Session
