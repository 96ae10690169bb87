import Workbench.Proofs.Session.Orderly
import Workbench.Proofs.Session.Stroke
import Workbench.Proofs.Turn.Outlook
import Workbench.Proofs.Turn.Roster

/-!
# The lane of a draft in a session

What is to come for a draft in a session is read off its board: timers, validations that are to go
on, and those that wait for a reply. Whatever is done in a session, a draft goes on as its lane
does.
-/
namespace Workbench.Session

open Document (Draft DraftState)
open Service (Reaction Reply)
open Turn

variable {V : Type} {view : View V} {d : Draft} {w : Nat} {o : Bool}
  {s t u : Session V}

/-- What a stage is to a draft, if it is one of its validation. -/
def Stage.due? (d : Draft) : Stage → Option Due
  | .start (.validate b text) => if b = d.buffer then some (.question text) else none
  | .verdict e text r => if e = d then some (.verdict text r) else none
  | _ => none

/-- What a job is to a draft. -/
def due? (d : Draft) (s : Session V) : Job Draft → Option Due
  | .run id | .wake id => (s.board.plan? id).bind fun p => p.stage.due? d
  | .fire e => if e = d then (s.scheduler.work? d).map .timer else none
  | _ => none

/-- The lane of a draft. -/
def lane (d : Draft) (s : Session V) : Lane :=
  ⟨s.board.now, s.store.draft d, relabel (s.due? d) s.board.outlook, s.client.canSend (.validate d)⟩

theorem Stage.due?_of_isBeside {stage : Stage} (h : stage.isBeside d = true) :
    stage.due? d = none := by
  cases stage with
  | start a =>
    cases a with
    | validate b text =>
      refine if_neg ?_
      rintro rfl
      simp [Stage.isBeside] at h
    | _ => rfl
  | verdict e text r => exact if_neg (by simpa [Stage.isBeside] using h)
  | _ => rfl

/-! ## When the lane is the same -/

/-- A job is to the draft what it was if its plan and the timer's text are what they were. -/
theorem due?_congr {j : Job Draft} (hj : j ∈ s.board.jobs)
    (hplan : ∀ i ∈ s.board.goers, t.board.plan? i = s.board.plan? i)
    (hwork : t.scheduler.work? d = s.scheduler.work? d) : t.due? d j = s.due? d j := by
  cases j with
  | run id => simp only [due?, hplan id (Board.mem_goers hj rfl)]
  | wake id => simp only [due?, hplan id (Board.mem_goers hj rfl)]
  | fire e => simp only [due?, hwork]
  | _ => rfl

theorem relabel_due?_congr {xs : List (Nat × Job Draft)} (hxs : ∀ x ∈ xs, x ∈ s.board.outlook)
    (hplan : ∀ i ∈ s.board.goers, t.board.plan? i = s.board.plan? i)
    (hwork : t.scheduler.work? d = s.scheduler.work? d) :
    relabel (t.due? d) xs = relabel (s.due? d) xs :=
  relabel_congr fun x hx =>
    due?_congr (Board.mem_jobs_of_mem_outlook (hxs x hx)) hplan hwork

theorem lane_eq (hclient : t.client = s.client) (hnow : t.board.now = s.board.now)
    (hdraft : t.store.draft d = s.store.draft d)
    (houtlook : t.board.outlook = s.board.outlook)
    (hplan : ∀ i ∈ s.board.goers, t.board.plan? i = s.board.plan? i)
    (hwork : t.scheduler.work? d = s.scheduler.work? d) : t.lane d = s.lane d := by
  unfold lane
  rw [hclient, hnow, hdraft, houtlook, relabel_due?_congr (fun _ hx => hx) hplan hwork]

/-- Somebody joins the line who has nothing to do with the validation of the draft. -/
theorem lane_eq_of_join (hclient : t.client = s.client) (hnow : t.board.now = s.board.now)
    (hdraft : t.store.draft d = s.store.draft d) {x : Nat × Job Draft}
    (houtlook : t.board.outlook = s.board.runs ++ x :: s.board.agenda.later)
    (hx : t.due? d x.2 = none) (hplan : ∀ i ∈ s.board.goers, t.board.plan? i = s.board.plan? i)
    (hwork : t.scheduler.work? d = s.scheduler.work? d) : t.lane d = s.lane d := by
  have hskip : relabel (t.due? d) t.board.outlook = relabel (t.due? d) s.board.outlook := by
    rw [houtlook, relabel_append, relabel_cons, hx, Board.outlook, relabel_append]
    rfl
  unfold lane
  rw [hclient, hnow, hdraft, hskip, relabel_due?_congr (fun _ hx => hx) hplan hwork]

/-- A job that is no timer of the draft is to it what it was, and no timer at all. -/
theorem due?_of_ne_fire (hplan : ∀ i, t.board.plan? i = s.board.plan? i) {j : Job Draft}
    (hj : j ≠ .fire d) :
    t.due? d j = s.due? d j ∧ ∀ x, s.due? d j = some x → x.isTimer = false := by
  have hstage (stage : Stage) (x : Due) (hx : stage.due? d = some x) : x.isTimer = false := by
    unfold Stage.due? at hx
    split at hx
    · split at hx <;> cases hx
      rfl
    · split at hx <;> cases hx
      rfl
    · cases hx
  cases j with
  | run id | wake id =>
    refine ⟨by simp only [due?, hplan], fun x hx => ?_⟩
    obtain ⟨p, -, hp⟩ := Option.bind_eq_some_iff.mp hx
    exact hstage _ _ hp
  | fire e =>
    have he : e ≠ d := fun h => hj (by rw [h])
    refine ⟨by simp only [due?, if_neg he], fun x hx => ?_⟩
    rw [due?, if_neg he] at hx
    cases hx
  | _ =>
    refine ⟨rfl, fun x hx => ?_⟩
    cases hx

/-- When the timer of the draft goes, and only timers do, all else that is to come for it stays. -/
theorem relabel_filter_due? (hplan : ∀ i, t.board.plan? i = s.board.plan? i)
    {keep : Nat × Job Draft → Bool}
    (hgone : ∀ x, keep x = true → x.2 ≠ .fire d ∨ t.due? d (.fire d) = none)
    (hkept : ∀ x, keep x = false → ∃ e, x.2 = .fire e) (xs : List (Nat × Job Draft)) :
    relabel (t.due? d) (xs.filter keep) = (relabel (s.due? d) xs).filter (!·.2.isTimer) := by
  rw [relabel, List.filterMap_filter, relabel, List.filter_filterMap]
  refine List.filterMap_congr fun x _ => ?_
  by_cases hx : x.2 = .fire d
  · have hnone : (if keep x = true then (t.due? d x.2).map (x.1, ·) else none) = none := by
      split
      case isTrue hkeep =>
        obtain hne | hnone := hgone x hkeep
        · exact absurd hx hne
        · rw [hx, hnone]
          rfl
      case isFalse => rfl
    rw [hnone]
    simp only [hx, due?, if_true]
    cases s.scheduler.work? d <;> simp [Due.isTimer, Option.filter]
  · obtain ⟨hsame, hno⟩ := due?_of_ne_fire hplan hx
    rw [hsame]
    cases hdue : s.due? d x.2 with
    | none => simp
    | some y =>
      have hkeep : keep x = true := by
        refine Bool.not_eq_false _ |>.mp fun hdrop => ?_
        obtain ⟨e, he⟩ := hkept x hdrop
        have hed : e ≠ d := fun h => hx (by rw [he, h])
        rw [he, due?, if_neg hed] at hdue
        cases hdue
      simp [Option.filter, hno y hdue, hkeep]

/-! ## Sessions on time -/

/-- A plan that is a stage of the validation of a draft, and nothing else. -/
structure Plan.IsOwn (d : Draft) (p : Plan) : Prop where
  stage : (∃ text, p.stage = .start (.validate d.buffer text)) ∨
    ∃ text r, p.stage = .verdict d text r
  rest : p.rest = []

/-- Whoever has to wait for others does not validate the draft; the others may. -/
def IsFit (d : Draft) : Phase Plan → Prop
  | .ready p | .asleep p => p.IsBeside d ∨ p.IsOwn d
  | .waiting _ p => p.IsBeside d
  | .over _ => True

/-- A session whose board is in order, in which the draft is validated for its timers only, after
the window `w`; `o` tells whether it owns its client. -/
structure IsTimely (d : Draft) (w : Nat) (o : Bool) (s : Session V) : Prop where
  sound : s.board.IsSound
  tidy : s.board.agenda.IsTidy
  rostered : s.board.IsRostered
  plans : s.board.Each fun _ q => IsFit d q
  window : s.scheduler.window = w
  owns : s.ownsClient = o

/-- The activity that is at work. No job is on the agenda for it. -/
structure IsOff (s : Session V) (id : Nat) : Prop where
  off : id ∉ s.board.goers
  ready : ∃ plan, s.board.phase? id = some (.ready plan)

/-- What has just been entered in the history, as far as it concerns the draft. -/
def momentsAt (d : Draft) (now : Nat) (new : List Happening) : List (Nat × Moment) :=
  relabel (Happening.moment? d) (new.map (now, ·))

theorem momentsAt_append (now : Nat) (new new' : List Happening) :
    momentsAt d now (new ++ new') = momentsAt d now new ++ momentsAt d now new' := by
  rw [momentsAt, List.map_append, relabel_append]
  rfl

theorem momentsAt_eq_nil (now : Nat) {new : List Happening} (h : ∀ x ∈ new, x.moment? d = none) :
    momentsAt d now new = [] := by
  refine List.filterMap_eq_nil_iff.mpr fun x hx => ?_
  obtain ⟨y, hy, rfl⟩ := List.mem_map.mp hx
  rw [h y hy]
  rfl

theorem momentsAt_singleton (now : Nat) {x : Happening} {m : Moment} (h : x.moment? d = some m) :
    momentsAt d now [x] = [(now, m)] := by
  simp [momentsAt, relabel_cons, h]

/-- The session goes on in the present moment, from a lane of the draft to its own. -/
structure Advances (d : Draft) (w : Nat) (o : Bool) (σ : Lane) (s t : Session V) : Prop where
  timely : IsTimely d w o t
  now : t.board.now = s.board.now
  passes : ∃ new, t.history = s.history ++ new ∧
    Lane.Passes (Lane.Does d w o) σ (momentsAt d s.board.now new) (t.lane d)

theorem IsTimely.ahead (h : IsTimely d w o s) : ∀ x ∈ (s.lane d).line, (s.lane d).now ≤ x.1 := by
  intro x hx
  obtain ⟨j, hj, -⟩ := mem_relabel.mp hx
  exact Board.now_le_of_mem_outlook h.tidy hj

/-- Nothing happens that concerns the draft. -/
theorem Advances.silent (hs : IsTimely d w o s) (ht : IsTimely d w o t)
    (hlane : t.lane d = s.lane d) {new : List Happening} (hhistory : t.history = s.history ++ new)
    (hnew : ∀ x ∈ new, x.moment? d = none) : Advances d w o (s.lane d) s t := by
  refine ⟨ht, congrArg Lane.now hlane, new, hhistory, ?_⟩
  rw [momentsAt_eq_nil _ hnew, hlane]
  exact .refl hs.ahead

theorem Advances.refl (h : IsTimely d w o s) : Advances d w o (s.lane d) s s :=
  .silent h h rfl (List.append_nil _).symm (by simp)

theorem Advances.trans {σ : Lane} (h : Advances d w o σ s t) (h' : Advances d w o (t.lane d) t u) :
    Advances d w o σ s u := by
  obtain ⟨new, hnew, hpasses⟩ := h.passes
  obtain ⟨new', hnew', hpasses'⟩ := h'.passes
  refine ⟨h'.timely, h'.now.trans h.now, new ++ new', ?_, ?_⟩
  · rw [hnew', hnew, List.append_assoc]
  · rw [momentsAt_append]
    rw [h.now] at hpasses'
    exact hpasses.trans hpasses'

/-! ## Strokes -/

/-- A session on time is still so with the same board, timers and client. -/
theorem IsTimely.of_eq (h : IsTimely d w o s) (hboard : t.board = s.board)
    (hscheduler : t.scheduler = s.scheduler) (howns : t.ownsClient = s.ownsClient) :
    IsTimely d w o t where
  sound := by rw [hboard]; exact h.sound
  tidy := by rw [hboard]; exact h.tidy
  rostered := by rw [hboard]; exact h.rostered
  plans := by rw [hboard]; exact h.plans
  window := by rw [hscheduler]; exact h.window
  owns := by rw [howns]; exact h.owns

theorem IsOff.of_eq {id : Nat} (h : s.IsOff id) (hboard : t.board = s.board) : t.IsOff id where
  off := by rw [hboard]; exact h.off
  ready := by rw [hboard]; exact h.ready

theorem IsTimely.aside (h : IsTimely d w o s) (ha : Aside d s t) :
    Advances d w o (s.lane d) s t := by
  obtain ⟨new, hhistory, hnew⟩ := ha.history
  refine .silent h (h.of_eq ha.board ha.scheduler ha.ownsClient) ?_ hhistory hnew
  exact lane_eq ha.client (by rw [ha.board]) ha.draft (by rw [ha.board])
    (fun i _ => by rw [ha.board]) (by rw [ha.scheduler])

theorem goers_subset {b c : Board Role Plan Draft} (js : List (Job Draft))
    (hjobs : ∀ j ∈ c.jobs, j ∈ js ∨ j ∈ b.jobs) (hjs : ∀ j ∈ js, j.goer? = none) {i : Nat}
    (hi : i ∈ c.goers) : i ∈ b.goers := by
  obtain ⟨j, hj, hgoer⟩ := List.mem_filterMap.mp hi
  obtain hj | hj := hjobs j hj
  · rw [hjs j hj] at hgoer
    cases hgoer
  · exact Board.mem_goers hj hgoer

theorem IsTimely.join (h : IsTimely d w o s) (role : Role) {plan : Plan}
    (hplan : plan.IsBeside d ∨ plan.IsOwn d) :
    IsTimely d w o { s with board := s.board.spawn role plan } :=
  ⟨h.sound.spawn role plan, Agenda.isTidy_queue h.tidy rfl, h.rostered.spawn h.sound role plan,
    h.plans.spawn hplan, h.window, h.owns⟩

/-- A new activity does what its plan says, and the others what they did. -/
theorem IsTimely.plan?_spawn (h : IsTimely d w o s) (role : Role) (plan : Plan) :
    (s.board.spawn role plan).plan? s.board.nextId = some plan ∧
      ∀ i ∈ s.board.goers, (s.board.spawn role plan).plan? i = s.board.plan? i := by
  refine ⟨Board.plan?_of_phase? (h.sound.phase?_spawn_self role plan), fun i hi => ?_⟩
  rw [Board.plan?, Board.phase?_spawn (h.rostered.phase?_ne_none hi) role plan, Board.plan?]

theorem IsTimely.spawn (h : IsTimely d w o s) (role : Role) {plan : Plan}
    (hplan : plan.IsBeside d) :
    Advances d w o (s.lane d) s { s with board := s.board.spawn role plan } := by
  obtain ⟨hself, hothers⟩ := h.plan?_spawn role plan
  refine .silent h (h.join role (.inl hplan)) ?_ (List.append_nil _).symm (by simp)
  refine lane_eq_of_join rfl rfl rfl (Board.outlook_spawn ..) ?_ hothers rfl
  simp only [due?, hself, Option.bind_some]
  exact Stage.due?_of_isBeside hplan.stage

theorem IsTimely.off_spawn (h : IsTimely d w o s) {id : Nat} (hid : s.IsOff id) {role : Role}
    {plan : Plan}
    (hboard : t.board = s.board.spawn role plan) : t.IsOff id := by
  refine IsOff.of_eq (s := { s with board := s.board.spawn role plan }) ⟨fun hgoer => ?_, ?_⟩ hboard
  · -- its number is given out for the first time
    obtain ⟨j, hj, hgoer⟩ := List.mem_filterMap.mp hgoer
    obtain rfl | hj := List.mem_cons.mp ((Board.jobs_queue s.board _).mem_iff.mp hj)
    · cases hgoer
      obtain ⟨p, hp⟩ := hid.ready
      rw [h.sound.phase?_nextId] at hp
      cases hp
    · exact hid.off (Board.mem_goers hj hgoer)
  · obtain ⟨p, hp⟩ := hid.ready
    exact ⟨p, (Board.phase?_spawn (by simp [hp]) role plan).trans hp⟩

/-! ### A text is put into a draft -/

section Edit

variable (s) (e : Draft) (text : String)

theorem runs_putText :
    (s.putText e text).board.runs = s.board.runs := by
  have hline : (s.putText e text).board.line = s.board.line := by
    rw [board_putText]
    split
    · exact (Board.sameLine_disarm s.board e).line
    · exact ((Board.sameLine_disarm s.board e).trans (Board.sameLine_arm _ _ e)).line
  have hnow : (s.putText e text).board.now = s.board.now := by
    rw [board_putText]
    split <;> rfl
  rw [Board.runs, hline, hnow, Board.runs]

theorem later_putText :
    (s.putText e text).board.agenda.later =
      if Text.isBlank text then s.board.agenda.later.filter (·.2 ≠ .fire e)
      else insertDue (s.board.now + s.scheduler.window, .fire e)
        (s.board.agenda.later.filter (·.2 ≠ .fire e)) := by
  rw [board_putText]
  split
  · exact Agenda.later_disarm _ _
  · exact (Agenda.later_arm _ _ _).trans (congrArg _ (Agenda.later_disarm _ _))

theorem plan?_putText (i : Nat) : (s.putText e text).board.plan? i = s.board.plan? i := by
  rw [Board.plan?, Board.phase?_of_activities (activities_putText s e text), Board.plan?]

end Edit

theorem IsTimely.putText (h : IsTimely d w o s) (e : Draft) (text : String) :
    IsTimely d w o (s.putText e text) := by
  refine ⟨h.sound.retimed (retimed_putText s e text), ?_, ?_, ?_, ?_, ?_⟩
  · rw [board_putText]
    split
    · exact Agenda.isTidy_disarm h.tidy _
    · exact Agenda.isTidy_arm (Agenda.isTidy_disarm h.tidy _) _ rfl
  · rw [board_putText]
    split
    · exact h.rostered.disarm e
    · exact (h.rostered.disarm e).arm _ e
  · exact h.plans.of_eq (activities_putText s e text)
  · rw [window_putText, h.window]
  · rw [ownsClient_putText]
    exact h.owns

theorem off_putText {id : Nat} (h : s.IsOff id) (e : Draft) (text : String) :
    (s.putText e text).IsOff id := by
  refine ⟨fun hgoer => h.off (goers_subset [.fire e] (fun j hj => ?_) ?_ hgoer), ?_⟩
  · rw [board_putText] at hj
    split at hj
    · rw [Board.jobs_disarm] at hj
      exact .inr (List.mem_filter.mp hj).1
    · obtain rfl | hj := List.mem_cons.mp ((Board.jobs_arm _ _ e).mem_iff.mp hj)
      · exact .inl List.mem_cons_self
      · rw [Board.jobs_disarm] at hj
        exact .inr (List.mem_filter.mp hj).1
  · simp [Job.goer?]
  · obtain ⟨p, hp⟩ := h.ready
    exact ⟨p, (Board.phase?_of_activities (activities_putText s e text) id).trans hp⟩

/-- A text that is put into another draft is nothing to this one. -/
theorem IsTimely.lane_putText_of_ne (h : IsTimely d w o s) {e : Draft} (he : e ≠ d)
    (text : String) : (s.putText e text).lane d = s.lane d := by
  have hfire : (s.putText e text).due? d (.fire e) = none := if_neg he
  have hwork : (s.putText e text).scheduler.work? d = s.scheduler.work? d := by
    rw [work?_putText, if_neg he]
  have hkept : relabel ((s.putText e text).due? d) (s.putText e text).board.outlook =
      relabel ((s.putText e text).due? d) s.board.outlook := by
    have hfilter : relabel ((s.putText e text).due? d)
          (s.board.agenda.later.filter (·.2 ≠ .fire e)) =
        relabel ((s.putText e text).due? d) s.board.agenda.later := by
      rw [relabel, List.filterMap_filter]
      refine List.filterMap_congr fun x _ => ?_
      by_cases hx : x.2 = .fire e
      · simp [hx, hfire]
      · simp [hx]
    rw [Board.outlook, runs_putText, later_putText, relabel_append, Board.outlook, relabel_append]
    congr 1
    split
    · exact hfilter
    · rw [relabel_insertDue (h.tidy.isByTime.sublist List.filter_sublist), hfire]
      exact hfilter
  have hnow : (s.putText e text).board.now = s.board.now := by
    rw [board_putText]
    split <;> rfl
  unfold lane
  rw [hkept, hnow, client_putText, draft_putText, if_neg he,
    relabel_due?_congr (fun _ hx => hx) (fun i _ => plan?_putText s e text i) hwork]

/-- A text that is put into the draft replaces its timer. -/
theorem IsTimely.lane_putText_self (h : IsTimely d w o s) (text : String) :
    (s.putText d text).lane d = (s.lane d).edit d w text := by
  have hnow : (s.putText d text).board.now = s.board.now := by
    rw [board_putText]
    split <;> rfl
  have hfilter (xs : List (Nat × Job Draft)) :
      relabel ((s.putText d text).due? d) (xs.filter (·.2 ≠ .fire d)) =
        (relabel (s.due? d) xs).filter (!·.2.isTimer) :=
    relabel_filter_due? (fun i => plan?_putText s d text i) (fun x hx => .inl (by simpa using hx))
      (fun x hx => ⟨d, by simpa using hx⟩) xs
  have hruns : relabel ((s.putText d text).due? d) s.board.runs =
      (relabel (s.due? d) s.board.runs).filter (!·.2.isTimer) := by
    rw [← hfilter, List.filter_eq_self.mpr]
    intro x hx
    obtain ⟨id, -, rfl⟩ := Board.mem_runs.mp hx
    simp
  have hline : relabel ((s.putText d text).due? d) (s.putText d text).board.outlook =
      ((s.lane d).edit d w text).line := by
    rw [Board.outlook, runs_putText, later_putText, relabel_append, hruns]
    unfold Lane.edit Lane.kept lane
    dsimp only
    rw [Board.outlook, relabel_append, List.filter_append]
    cases hblank : Text.isBlank text
    · simp only [Bool.false_eq_true, if_false]
      have hfire : (s.putText d text).due? d (.fire d) = some (.timer text) := by
        simp [due?, work?_putText, hblank]
      rw [relabel_insertDue (h.tidy.isByTime.sublist List.filter_sublist), hfire, h.window]
      dsimp only
      rw [hfilter, insertDue_append]
      intro x hx
      obtain ⟨j, hj, -⟩ := mem_relabel.mp (List.mem_filter.mp hx).1
      obtain ⟨id, -, heq⟩ := Board.mem_runs.mp hj
      have hdue : s.board.now = x.1 := congrArg Prod.fst heq
      rw [← hdue]
      exact Nat.le_add_right _ _
    · simp only [if_true]
      rw [hfilter]
  have hdraft : (s.putText d text).store.draft d = freshDraft d text := by
    rw [draft_putText, if_pos rfl]
  rw [lane, hline, hnow, hdraft, client_putText]
  rfl

theorem IsTimely.edit (h : IsTimely d w o s) (e : Draft) (text : String) :
    Advances d w o (s.lane d) s (s.putText e text) := by
  have hnext := h.putText e text
  by_cases he : e = d
  · subst he
    have hlane := h.lane_putText_self text
    refine ⟨hnext, congrArg Lane.now hlane, _, history_putText s e text, ?_⟩
    rw [momentsAt_singleton _ (m := .edited text) (by simp [Happening.moment?])]
    refine Lane.Passes.single h.ahead ?_ hnext.ahead
    rw [hlane]
    exact .edit _ text
  · exact .silent h hnext (h.lane_putText_of_ne he text) (history_putText s e text)
      (by simp [Happening.moment?, he])

/-! ### The session is closed -/

theorem activities_close (s : Session V) : s.close.board.activities = s.board.activities :=
  Board.activities_disarmAll _ s.board

theorem plan?_close (s : Session V) (i : Nat) : s.close.board.plan? i = s.board.plan? i := by
  rw [Board.plan?, Board.phase?_of_activities (activities_close s), Board.plan?]

theorem IsTimely.lane_close (h : IsTimely d w o s) : s.close.lane d = (s.lane d).close o := by
  have hnone : s.close.due? d (.fire d) = none := by
    rw [due?, if_pos rfl]
    rfl
  have hline : relabel (s.close.due? d) s.close.board.outlook = (s.lane d).kept := by
    have houtlook := Board.outlook_disarmAll (s.scheduler.pending.map Prod.fst) s.board
    change s.close.board.outlook = _ at houtlook
    rw [houtlook]
    refine relabel_filter_due? (plan?_close s) (fun x _ => .inr hnone) (fun x hx => ?_) _
    obtain ⟨e, -, he⟩ : ∃ e ∈ s.scheduler.pending.map Prod.fst, x.2 = .fire e := by
      simpa using hx
    exact ⟨e, he⟩
  have hsends : s.close.client.canSend (.validate d) =
      (s.client.canSend (.validate d) && !o) := by
    rw [← h.owns]
    change (if s.ownsClient then s.client.close else s.client).canSend _ = _
    cases s.ownsClient
    · simp
    · simp [Service.Client.canSend, Service.Client.close]
  exact Lane.ext (Board.now_disarmAll _ s.board) rfl hline hsends

theorem IsTimely.close (h : IsTimely d w o s) : Advances d w o (s.lane d) s s.close := by
  have hnext : IsTimely d w o s.close :=
    ⟨h.sound.retimed (Board.retimed_disarmAll _ s.board), Board.isTidy_disarmAll h.tidy _,
      h.rostered.disarmAll _, h.plans.of_eq (activities_close s), h.window, h.owns⟩
  refine ⟨hnext, (Board.now_disarmAll _ s.board), _, history_close s, ?_⟩
  rw [momentsAt_singleton _ (m := .closed) rfl]
  refine Lane.Passes.single h.ahead ?_ hnext.ahead
  rw [h.lane_close]
  exact .close _

theorem off_close {id : Nat} (h : s.IsOff id) : s.close.IsOff id := by
  refine ⟨fun hgoer => h.off (goers_subset [] (fun j hj => ?_) ?_ hgoer), ?_⟩
  · exact .inr ((Board.jobs_disarmAll_sublist _ s.board).subset hj)
  · simp
  · obtain ⟨p, hp⟩ := h.ready
    exact ⟨p, (Board.phase?_of_activities (activities_close s) id).trans hp⟩

theorem IsTimely.stroke (h : IsTimely d w o s) (hst : Stroke d s t) :
    Advances d w o (s.lane d) s t := by
  cases hst with
  | aside ha => exact h.aside ha
  | spawn role hplan ha =>
    have hspawn := h.spawn role hplan
    exact hspawn.trans (hspawn.timely.aside ha)
  | edit e text => exact h.edit e text
  | close => exact h.close

theorem IsTimely.strokes (h : IsTimely d w o s) (hst : Strokes d s t) :
    Advances d w o (s.lane d) s t := by
  induction hst with
  | refl => exact .refl h
  | tail _ hstroke ih => exact ih.trans (ih.timely.stroke hstroke)

/-- Whoever is at work stays so. -/
theorem IsTimely.off_strokes (h : IsTimely d w o s) (hst : Strokes d s t) {id : Nat}
    (hid : s.IsOff id) : t.IsOff id := by
  induction hst with
  | refl => exact hid
  | tail hsome hstroke ih =>
    have htimely := (h.strokes hsome).timely
    cases hstroke with
    | aside ha => exact ih.of_eq ha.board
    | spawn role hplan ha => exact htimely.off_spawn ih ha.board
    | edit e text => exact off_putText ih e text
    | close => exact off_close ih

end Workbench.Session
