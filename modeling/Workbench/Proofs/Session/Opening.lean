import Workbench.Proofs.Session.Settling

/-!
# The first stretch of the user

In a session that validates at once the user gives the drafts their texts, and waits then for the session
to settle. The timers are all due before the user wakes.
-/
namespace Workbench.Turn

/-- An alarm that is due no earlier than the others is the last one. -/
theorem Agenda.insertAlarm_of_le {J : Type} {x : Alarm J} {xs : List (Alarm J)}
    (h : ∀ y ∈ xs, y.due ≤ x.due) : insertAlarm x xs = xs ++ [x] := by
  induction xs with
  | nil => rfl
  | cons y ys ih =>
    obtain ⟨hy, hys⟩ := List.forall_mem_cons.mp h
    rw [insertAlarm, if_pos hy, ih hys, List.cons_append]

end Workbench.Turn

namespace Workbench.Session

open Document (Draft)
open Turn (Activity Agenda Board Job Task)

variable {V : Type} {view : View V} {s t u : Session V} {given : Draft → Option String}
  {armed asks : Bool} {H : Hands} {d : Draft} {text : String} {plan : Plan}

/-- The timers with these keys are due at the beginning of time. -/
def alarmsOf (keys : List Draft) : Agenda (Job Draft) :=
  { alarms := keys.map fun d => ⟨0, .fire d⟩ }

/-- The user is alone on the board and has been taken off the agenda. All armed timers are due now. -/
structure Opens (plan : Plan) (s : Session V) : Prop where
  activities : s.board.activities = [{ id := 0, role := .user 0, phase := .ready plan }]
  agenda : s.board.agenda = alarmsOf s.scheduler.keys
  window : s.scheduler.window = 0
  attached : ∀ b, s.attached b = none
  unwarned : s.lastWarning = none

theorem keys_putText (s : Session V) (d : Draft) (text : String) :
    (s.putText d text).scheduler.keys =
      s.scheduler.keys.filter (· ≠ d) ++ if Text.isBlank text then [] else [d] := by
  rw [Coalescing.Scheduler.keys, pending_putText, List.map_append, ← Coalescing.Scheduler.keys,
    Coalescing.Scheduler.keys_drop]
  split <;> rfl

theorem disarm_alarmsOf (keys : List Draft) (d : Draft) :
    (alarmsOf keys).disarm (.fire d) = alarmsOf (keys.filter (· ≠ d)) := by
  simp [alarmsOf, Agenda.disarm, List.filter_map, Function.comp_def]

theorem arm_alarmsOf (keys : List Draft) (d : Draft) :
    (alarmsOf keys).arm 0 (.fire d) = alarmsOf (keys ++ [d]) := by
  have hlast : Agenda.insertAlarm ⟨0, .fire d⟩ (keys.map fun d => ⟨0, Job.fire d⟩) =
      (keys ++ [d]).map fun d => ⟨0, Job.fire d⟩ := by
    rw [Agenda.insertAlarm_of_le (by simp), List.map_append]
    rfl
  unfold alarmsOf Agenda.arm
  dsimp only
  rw [Nat.zero_add, hlast]

namespace Opens

theorem tasks (h : Opens plan s) : s.board.tasks = [⟨0, .user 0, some plan⟩] := by
  rw [Board.tasks, h.activities]
  rfl

theorem jobs (h : Opens plan s) : s.board.jobs = s.scheduler.keys.map .fire := by
  rw [Board.jobs, h.agenda]
  simp [alarmsOf, Agenda.jobs]

theorem withRole (h : Opens plan s) (role : Role) (hrole : role ≠ .user 0) :
    s.board.withRole (· == role) = [] := by
  rw [Board.withRole, h.activities]
  simpa using Ne.symm hrole

/-- A text is put into a draft. -/
theorem putText (h : Opens plan s) (d : Draft) (text : String) : Opens plan (s.putText d text) := by
  refine ⟨by rw [activities_putText, h.activities], ?_, by rw [window_putText, h.window], fun b => ?_,
    by rw [lastWarning_putText, h.unwarned]⟩
  · rw [board_putText, keys_putText]
    split
    · change s.board.agenda.disarm (.fire d) = _
      rw [h.agenda, disarm_alarmsOf, List.append_nil]
    · change (s.board.agenda.disarm (.fire d)).arm s.scheduler.window (.fire d) = _
      rw [h.agenda, h.window, disarm_alarmsOf, arm_alarmsOf]
  · rw [(desk_putText s d text).2.1, h.attached]

theorem of_adds (h : Opens plan s) {new : List Happening} (ht : Adds new s t) : Opens plan t :=
  ⟨by rw [ht.board, h.activities], by rw [ht.board, ht.scheduler, h.agenda],
    by rw [ht.scheduler, h.window], by rw [ht.attached]; exact h.attached,
    by rw [ht.warning, h.unwarned]⟩

/-- The user goes on with one text in place. -/
theorem edit (hview : ¬ View.CanBreak view) (h : Opens plan s) (d : Draft) (text : String) :
    ∃ t, (Act.goOn view (.start (.edit d.buffer text))).run s = (.ok (.done .nothing), t) ∧
      Opens plan t ∧ t.client = s.client ∧ t.finished = s.finished ∧
      ∀ given armed H, Keeps given armed [] s H → given d = none →
        Keeps (Function.update given d (some text)) armed [] t H := by
  let u := s.note (Bus.dispatchNote (.edited d.buffer text false))
  -- no change in an editor is still to be applied, and there is no editor to be told
  have hoverwrite : u.overwrite d text = u.setKnown d text := by
    have hbacklog : u.backlog d = [] := by
      have hedits : u.pendingEdits = [] := h.withRole .edit (by simp)
      rw [backlog, hedits, List.filterMap_nil]
    rw [overwrite, hbacklog]
    exact syncEditor_of_none (u.setKnown d text) text (h.attached d.buffer)
  have hquiet : Quiet s (u.setKnown d text) := ⟨rfl, rfl, rfl, rfl, rfl⟩
  have hknown : Opens plan (u.setKnown d text) :=
    ⟨h.activities, h.agenda, h.window, h.attached, h.unwarned⟩
  obtain ⟨hadds, a, ha⟩ :=
    Act.isMute_announce hview (.stateChanged d.buffer) ((u.setKnown d text).putText d text)
  refine ⟨_, ?_, (hknown.putText d text).of_adds hadds, ?_, ?_, fun given armed H hs hgiven => ?_⟩
  · have hrun : (Act.edit view d.buffer text).run s = _ := Act.run_edit d text s
    have happly : u.applyEdit d text false = (u.setKnown d text).putText d text := by
      rw [← hoverwrite]
      rfl
    refine hrun.trans ?_
    change (Act.announce view (.stateChanged d.buffer) >>= fun _ =>
      (pure (Progress.done .nothing) : Act V Progress)).run (u.applyEdit d text false) = _
    rw [happly, Act.run_bind]
    generalize (Act.announce view (.stateChanged d.buffer)).run ((u.setKnown d text).putText d text) =
      x at ha
    obtain ⟨r, w⟩ := x
    obtain rfl : r = .ok a := ha
    rfl
  · rw [hadds.client, client_putText]
    rfl
  · rw [hadds.finished, finished_putText]
    rfl
  · have hkept : Keeps given armed [] (u.setKnown d text) H := hs.quiet hquiet rfl
    exact (hkept.edit hgiven text hknown.unwarned).beside hadds.beside

/-- The user goes on with all texts in place. -/
theorem edits (hview : ¬ View.CanBreak view) (h : Opens plan s)
    (hwork : AtWork ⟨0, .user 0, some plan⟩ H s) (hkeeps : Keeps given armed [] s H)
    {texts : List (Draft × String)} (hnodup : (texts.map Prod.fst).Nodup)
    (hfresh : ∀ x ∈ texts, given x.1 = none) {first : Action} {rest last : List Action}
    (hactions : texts.map (fun x => .edit x.1.buffer x.2) ++ .settle :: last = first :: rest)
    (answers : List Answer) :
    ∃ t answers', (follow view rest (.start first) answers).run s =
        (follow view last (.start .settle) answers').run t ∧
      Opens plan t ∧ t.client = s.client ∧ t.finished = s.finished ∧
      AtWork ⟨0, .user 0, some plan⟩ H t ∧
      Keeps (texts.foldl (fun g x => Function.update g x.1 (some x.2)) given) armed [] t H := by
  induction texts generalizing given s first rest answers with
  | nil =>
    obtain ⟨rfl, rfl⟩ := List.cons.inj hactions
    exact ⟨s, answers, rfl, h, rfl, rfl, hwork, hkeeps⟩
  | cons x xs ih =>
    obtain ⟨rfl, hrest⟩ := List.cons.inj hactions
    obtain ⟨hx, hxs⟩ := List.nodup_cons.mp hnodup
    obtain ⟨hnone, hnones⟩ := List.forall_mem_cons.mp hfresh
    obtain ⟨t, hrun, ht, hclient, hfinished, hedited⟩ := h.edit hview x.1 x.2
    have hleads : Act.Leads view _ s _ _ := Act.leads_goOn (.start (.edit x.1.buffer x.2))
    have hwork' := hwork.moves hleads
    rw [hrun] at hwork'
    obtain ⟨first', rest', hrest'⟩ : ∃ first' rest', rest = first' :: rest' := by
      rw [← hrest]
      cases xs with
      | nil => exact ⟨_, _, rfl⟩
      | cons y ys => exact ⟨_, _, rfl⟩
    subst hrest'
    have hfresh' : ∀ y ∈ xs, Function.update given x.1 (some x.2) y.1 = none := fun y hy => by
      rw [Function.update_of_ne]
      · exact hnones y hy
      · rintro heq
        exact hx (heq ▸ List.mem_map_of_mem hy)
    obtain ⟨u, answers', hrun', hu, hclient', hfinished', hwork'', hkeeps'⟩ :=
      ih ht hwork' (hedited given armed H hkeeps hnone) hxs hfresh' hrest (answers ++ [.nothing])
    refine ⟨u, answers', ?_, hu, hclient'.trans hclient, hfinished'.trans hfinished, hwork'', hkeeps'⟩
    rw [run_follow_cons _ _ _ hrun, hrun']


/-! ## Then the session is waited for -/

variable (h : Opens plan s)

include h

theorem phase?_eq : s.board.phase? 0 = some (.ready plan) := by
  simp [Board.phase?, Board.find?, h.activities]

theorem goers_eq : s.board.goers = [] := by
  rw [Board.goers, h.jobs, List.filterMap_map]
  exact List.filterMap_eq_nil_iff.mpr fun _ _ => rfl

theorem isTidy : s.board.agenda.IsTidy := by
  rw [h.agenda]
  refine ⟨fun x hx => ?_, List.pairwise_map.mpr (List.pairwise_of_forall fun _ _ => Nat.le_refl 0),
    fun x hx => Nat.zero_le _, fun j hj => by cases hj⟩
  obtain ⟨d, -, rfl⟩ := List.mem_map.mp hx
  rfl

theorem gathers (hsound : s.board.IsSound) : s.board.Gathers 0 (some 0) := by
  have hrostered : s.board.IsRostered := by
    refine ⟨by rw [h.goers_eq]; exact List.nodup_nil, fun j hj => ?_⟩
    rw [h.jobs] at hj
    obtain ⟨d, -, rfl⟩ := List.mem_map.mp hj
    trivial
  have honly : ∀ a ∈ s.board.activities, a.id = 0 ∧ a.watchers = [] := by
    rw [h.activities]
    simp
  have hstaffed : s.board.IsStaffed 0 (some 0) :=
    ⟨hsound, hrostered, h.isTidy, fun a ha hne => absurd (congrArg some (honly a ha).1) hne,
      fun a ha hne => absurd (honly a ha).1 hne, fun a ha _ => by simp [(honly a ha).2]⟩
  refine .of_idle hstaffed (fun n next hphase => ?_) ?_
  · rw [h.phase?_eq] at hphase
    cases hphase
  · unfold Board.expected Board.load
    rw [h.activities, h.jobs, List.countP_map]
    simp [Activity.owes, Activity.isOver, Job.isCountOf]

theorem burden_eq : s.board.burden Plan.work 0 = plan.work + s.scheduler.keys.length := by
  unfold Board.burden
  rw [Board.awaited_of_phase? h.phase?_eq]
  unfold Board.total Board.load Board.others
  rw [h.tasks, h.activities, h.jobs]
  simp [Activity.burden, Activity.isOver, Turn.Phase.burden, Turn.Phase.awaited]

/-- What is left to be done is bounded, since there are but two drafts. -/
theorem left_le (hs : s.IsOrderly) : left s ≤ plan.work + 22 := by
  have hkeys : s.scheduler.keys.length ≤ [Draft.input, Draft.spec].length :=
    (hs.tallies.nodup.subperm fun d _ => by cases d <;> simp).length_le
  have hpending : s.scheduler.keys.length = s.scheduler.pending.length := List.length_map _
  simp only [List.length_cons, List.length_nil] at hkeys
  unfold left
  rw [h.burden_eq]
  omega

omit h in
theorem takenUp (h : Opens plan s) (hwork : AtWork ⟨0, .user 0, some plan⟩ H s)
    (hfair : ∀ a ∈ plan.rest, a.isFair = true) :
    TakenUp { id := 0, role := .user 0, phase := .ready plan } plan H s :=
  ⟨h.gathers hwork.orderly.sound, rfl, h.phase?_eq, by simp [h.goers_eq], hwork, hfair, .inl rfl⟩

/-- The user waits: first of all the timers fire. -/
theorem run_settle (view : View V) :
    (Act.goOn view (.start .settle)).run s = (Act.drain : Act V Progress).run s := by
  have hedits : s.pendingEdits.isEmpty = true := List.isEmpty_iff.mpr (h.withRole .edit (by simp))
  have hstart : Act.goOn view (.start .settle) = (Act.settle : Act V Progress) := rfl
  rw [hstart, Act.settle, Act.run_bind, Act.run_get]
  dsimp only
  rw [if_pos hedits]

theorem run_drain_of_keys (hkeys : s.scheduler.keys ≠ []) :
    (Act.drain : Act V Progress).run s = (.ok (.paused (.time s.scheduler.pollTime) .drain), s) := by
  have hwait : s.scheduler.wait s.validations = .time s.scheduler.pollTime := by
    have hvalidations : s.validations = [] := h.withRole .validation (by simp)
    have hpending : ¬ s.scheduler.pending.isEmpty = true := fun hempty =>
      hkeys (List.map_eq_nil_iff.mpr (List.isEmpty_iff.mp hempty))
    unfold Coalescing.Scheduler.wait
    rw [hvalidations, List.isEmpty_nil, if_pos rfl, if_neg hpending]
  unfold Act.drain
  rw [Act.run_bind, Act.run_get]
  dsimp only
  rw [hwait]
  rfl

/-- The jobs when the user sleeps: the timers come first. -/
theorem jobs_sleep (time : Nat) (next : Plan) :
    (s.board.sleep 0 time next).jobs = s.scheduler.keys.map .fire ++ [.wake 0] := by
  have hlast : Agenda.insertAlarm ⟨0 + time, .wake 0⟩ (s.scheduler.keys.map fun d => ⟨0, Job.fire d⟩) =
      (s.scheduler.keys.map fun d => ⟨0, Job.fire d⟩) ++ [⟨0 + time, .wake 0⟩] :=
    Agenda.insertAlarm_of_le (by simp)
  have hagenda : (s.board.sleep 0 time next).agenda = s.board.agenda.arm time (.wake 0) := rfl
  rw [Board.jobs, hagenda, h.agenda]
  unfold alarmsOf Agenda.arm Agenda.jobs
  dsimp only
  rw [hlast]
  simp

end Opens

/-- The user has given the texts, in one stretch from another session on, and begins to wait. -/
structure Awaits (view : View V) (given : Draft → Option String) (armed asks : Bool) (plan : Plan)
    (r s : Session V) : Prop extends Opens plan s, Serves given armed asks s where
  work : AtWork ⟨0, .user 0, some plan⟩ 0 s
  keeps : Keeps given armed [] s 0
  unfinished : s.finished = []
  fair : ∀ a ∈ plan.rest, a.isFair = true
  starts : plan.work = 5
  run : ∃ answers, (follow view plan.rest plan.stage plan.answers).run r =
    (follow view (closing asks) (.start .settle) answers).run s

theorem isFair_closing (asks : Bool) : ∀ a ∈ closing asks, a.isFair = true := by
  cases asks <;> simp [closing, Action.isFair]

namespace Awaits

variable {r : Session V}

/-- No timer is armed, so the user goes on at once. -/
theorem settles_of_idle (hview : ¬ View.CanBreak view) (h : Awaits view given armed asks plan r s)
    (hidle : s.scheduler.keys = []) :
    let u := r.proceed view { id := 0, role := .user 0, phase := .ready plan }
    IsSettling given armed asks u ∧ left u ≤ left s := by
  obtain ⟨answers, hrun⟩ := h.run
  have hdone : (Act.goOn view (.start .settle)).run s = (.ok (.done .nothing), s) := by
    rw [h.run_settle]
    exact run_drain (List.map_eq_nil_iff.mp hidle) (h.withRole .validation (by simp))
      (h.withRole .edit (by simp))
  have hstint := stint_closing hview h.toServes h.keeps hdone (.user 0) answers
  have hup := h.takenUp h.work h.fair
  have hpos : 3 ≤ plan.work := by
    rw [h.starts]
    decide
  have hlands := hup.lands_of_run hrun (isFair_closing asks) (by omega) hpos hstint
  have halone : ∀ k ∈ s.board.tasks, k.id = 0 := by
    rw [h.tasks]
    simp
  have hreports := hup.reports rfl rfl hrun hstint.enters
    (toldLast_closing hview h.toServes h.keeps hdone answers) h.unfinished halone
  refine ⟨hlands.closes h.toServes h.work.orderly.sound h.work.mem rfl rfl halone hidle hreports, ?_⟩
  · have hburden := hlands.burden
    unfold left
    rw [hlands.scheduler]
    omega

/-- While timers are armed the user sleeps. -/
theorem settles_of_armed (h : Awaits view given armed asks plan r s)
    (hkeys : s.scheduler.keys ≠ []) :
    let u := r.proceed view { id := 0, role := .user 0, phase := .ready plan }
    IsSettling given armed asks u ∧ left u ≤ left s := by
  obtain ⟨answers, hrun⟩ := h.run
  have hpause : (Act.goOn view (.start .settle)).run s = _ :=
    (h.run_settle view).trans (h.run_drain_of_keys hkeys)
  have hfollow := run_follow_of_paused (closing asks) answers hpause
  have hup := h.takenUp h.work h.fair
  rw [proceed_of_paused hup.ready (hrun.trans hfollow)]
  have hfair : ∀ a ∈ (⟨.drain, closing asks, answers⟩ : Plan).rest, a.isFair = true :=
    isFair_closing asks
  obtain ⟨horderly, hhands, hquiet⟩ := h.work.suspend (by simp)
    (a := { id := 0, role := .user 0, phase := .ready plan }) rfl hfair (.time s.scheduler.pollTime)
  have hkeeps := h.keeps.quiet hquiet rfl
  generalize s.scheduler.pollTime = time at horderly hhands hkeeps
  have htasks : (s.board.sleep 0 time ⟨.drain, closing asks, answers⟩).tasks =
      [⟨0, .user 0, some ⟨.drain, closing asks, answers⟩⟩] := by
    rw [Board.tasks_sleep, h.tasks]
    rfl
  have hburden := hup.gathers.sound.burden_sleep (w := Plan.work) (u := 0) hup.phase time
    ⟨.drain, closing asks, answers⟩
  refine ⟨⟨h.toServes.of_eq rfl rfl, horderly, hup.gathers.sleep hup.phase hup.free time _,
    fun k hk => ?_, fun d hd => ?_, .inl ⟨⟨answers, ?_⟩, h.unfinished, ?_⟩⟩, ?_⟩
  · have hmem := htasks ▸ hk
    obtain rfl := List.mem_singleton.mp hmem
    exact .settles answers
  · have hjobs := h.jobs_sleep time ⟨.drain, closing asks, answers⟩
    have hpair : [Job.fire d, .wake 0].Sublist (s.scheduler.keys.map .fire ++ [.wake 0]) :=
      (List.singleton_sublist.mpr (List.mem_map_of_mem hd)).append (.refl _)
    exact hjobs ▸ hpair
  · have hself : (⟨0, .user 0, some ⟨.drain, closing asks, answers⟩⟩ : Task Role Plan) ∈
        (s.board.sleep 0 time ⟨.drain, closing asks, answers⟩).tasks := by
      rw [htasks]
      exact List.mem_singleton_self _
    exact hself
  · rw [hhands]
    exact hkeeps
  · have hstarts := h.starts
    have hthree : Plan.work ⟨.drain, closing asks, answers⟩ = 3 := rfl
    unfold left suspend
    dsimp only at hburden ⊢
    omega

/-- In both cases the session settles from then on. -/
theorem settles (hview : ¬ View.CanBreak view) (h : Awaits view given armed asks plan r s) :
    let u := r.proceed view { id := 0, role := .user 0, phase := .ready plan }
    IsSettling given armed asks u ∧ left u ≤ 27 := by
  have hbound := h.left_le h.work.orderly
  rw [h.starts] at hbound
  by_cases hkeys : s.scheduler.keys = []
  · exact (h.settles_of_idle hview hkeys).imp_right fun hleft => hleft.trans hbound
  · exact (h.settles_of_armed hkeys).imp_right fun hleft => hleft.trans hbound

end Awaits

/-! ## The first step -/

/-- The texts that are given to the drafts by edits. -/
def givenBy (texts : List (Draft × String)) : Draft → Option String :=
  texts.foldl (fun g x => Function.update g x.1 (some x.2)) fun _ => none

/-- Nothing is given to begin with. -/
theorem keeps_new (settings : Settings) (window : Nat) (armed : Bool) (client : Service.Client)
    (server : Service.Server) (ownsClient watched : Bool) (v : V) :
    Keeps (fun _ => none) armed []
      (new settings window armed client server ownsClient watched v) 0 := by
  have hfresh (d : Draft) : (({ armed } : Document.Store).draft d).snapshot = none := by
    cases d <;> rfl
  refine {
    text := fun d => by cases d <;> rfl
    named := fun x hx => by cases hx
    waiting := fun d text htext => by cases htext
    valid := fun d text htext => by cases (hfresh d).symm.trans htext
    sent := fun d r hr => by cases hr
    asked := fun d => rfl
    once := fun d => ?once
    replies := fun role d text r hmem => by cases hmem
    hearing := fun d => ?hearing
    warned := fun _ => rfl
    armed := rfl
    calls := ?calls
    listed := rfl }
  case once =>
    have hnone : (((new settings window armed client server ownsClient watched v).store.draft
        d).snapshot.isSome).toNat = 0 := by
      cases d <;> rfl
    rw [hnone]
    exact Nat.zero_le 1
  case hearing =>
    refine .of_none ?_ fun text r hr => ?_
    · cases d <;> rfl
    · obtain ⟨sent, reply, hmem, -⟩ := hr
      cases hmem
  case calls =>
    have hprimed : (new settings window armed client server ownsClient watched v).isPrimed = false := by
      cases armed <;> rfl
    rw [hprimed]
    rfl

/-- A session in which the user gives texts, waits and asks for a transform or not: it settles after its
first step. -/
theorem exists_isSettling (hview : ¬ View.CanBreak view) (settings : Settings) (armed : Bool)
    {client : Service.Client} (server : Service.Server) (ownsClient watched : Bool) (v : V)
    {texts : List (Draft × String)} (hnodup : (texts.map Prod.fst).Nodup) {asks : Bool}
    (hvalidate : ∀ d, textsOf (givenBy texts) d ≠ [] → client.canSend (.validate d) = true)
    (htransform : (armed || asks) = true → (∀ d, textsOf (givenBy texts) d ≠ []) →
      client.canSend .transform = true) :
    ∃ t, ((new settings 0 armed client server ownsClient watched v).launch 0
        (texts.map (fun x => .edit x.1.buffer x.2) ++ .settle :: closing asks)).step view = some t ∧
      IsSettling (givenBy texts) armed asks t ∧ left t ≤ 27 := by
  obtain ⟨first, rest, hactions⟩ : ∃ first rest,
      texts.map (fun x => Action.edit x.1.buffer x.2) ++ .settle :: closing asks = first :: rest := by
    cases texts with
    | nil => exact ⟨_, _, rfl⟩
    | cons x xs => exact ⟨_, _, rfl⟩
  have hfair : ∀ a ∈ first :: rest, a.isFair = true := by
    rw [← hactions]
    intro a ha
    obtain ha | ha := List.mem_append.mp ha
    · obtain ⟨x, -, rfl⟩ := List.mem_map.mp ha
      rfl
    · obtain rfl | ha := List.mem_cons.mp ha
      · rfl
      · exact isFair_closing asks a ha
  rw [hactions]
  -- the user is taken off the agenda
  let r : Session V := { new settings 0 armed client server ownsClient watched v with
    board := { activities := [{ id := 0, role := .user 0, phase := .ready ⟨.start first, rest, []⟩ }]
               nextId := 1 } }
  have hr : r.IsOrderly := by
    have hnew := isOrderly_new settings 0 armed client server ownsClient watched v
    exact isOrderly_retimed (byShifts_launch view hnew 0 hfair).1
      ⟨List.nodup_nil, fun _ => rfl⟩ ⟨rfl, rfl, fun id hid => by cases hid⟩
  have hopens : Opens ⟨.start first, rest, []⟩ r := ⟨rfl, rfl, rfl, fun _ => rfl, rfl⟩
  have hwork : AtWork ⟨0, .user 0, some ⟨.start first, rest, []⟩⟩ 0 r :=
    ⟨hr, List.mem_singleton_self _, rfl⟩
  have hkeeps : Keeps (fun _ => none) armed [] r 0 :=
    (keeps_new settings 0 armed client server ownsClient watched v).quiet
      ⟨rfl, rfl, rfl, rfl, rfl⟩ rfl
  obtain ⟨s, answers, hrun, hs, hclient, hfinished, hwork', hkeeps'⟩ :=
    hopens.edits hview hwork hkeeps hnodup (fun _ _ => rfl) hactions []
  have hawaits : Awaits view (givenBy texts) armed asks ⟨.start first, rest, []⟩ r s := by
    refine ⟨hs, ⟨hs.attached .output, ?_, ?_⟩, hwork', hkeeps', ?_, ?_, rfl, answers, hrun⟩
    · rw [hclient]
      exact hvalidate
    · rw [hclient]
      exact htransform
    · rw [hfinished]
      rfl
    · exact fun a ha => hfair a (List.mem_cons_of_mem _ ha)
  exact ⟨_, rfl, hawaits.settles hview⟩

end Workbench.Session
