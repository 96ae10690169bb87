import Workbench.Proofs.Session.Pace

/-!
# Chronicles of a session

What happens in a session, told from outside, each thing with its time. Time passes only once
nothing is left to be done, and never past the next alarm; actions are started and editors are used
at any moment, and the session may be closed. Nothing is validated but for the timers.
-/
namespace Workbench.Session

open Document (Buffer Draft DraftState)
open Turn (relabel relabel_append)

variable {V : Type} {view : View V} {d : Draft} {w : Nat} {o : Bool}
  {s t u : Session V}

/-- Something that happens: a timer fires, or something is entered in the history. -/
inductive Incident where
  | fired (draft : Draft)
  | happened (h : Happening)

/-- Incidents with their times. -/
abbrev Log := List (Nat × Incident)

/-- What an incident is to a draft, if it concerns it. -/
def Incident.moment? (d : Draft) : Incident → Option Moment
  | .fired e => if e = d then some .fired else none
  | .happened h => h.moment? d

def Incident.happening? : Incident → Option Happening
  | .fired _ => none
  | .happened h => some h

/-- The moments of a draft in a log. -/
def moments (d : Draft) (log : Log) : List (Nat × Moment) := relabel (Incident.moment? d) log

/-- What there is to tell when a session has gone on to another within a moment. -/
def account (s t : Session V) : Log :=
  (t.history.drop s.history.length).map fun h => (s.board.now, .happened h)

/-- What there is to tell of a timer that fires. -/
def firings (s : Session V) : Log := s.firing?.toList.map fun d => (s.board.now, .fired d)

/-- What can happen next, and what there is to tell of it. Around the session all may change but the
client. -/
inductive Proceeds (view : View V) : Session V → Log → Session V → Prop
  | job {s t : Session V} (h : s.step view = some t) :
      Proceeds view s (s.firings ++ s.account t) t
  | wait {s : Session V} (time : Nat) (hrest : s.step view = none)
      (hdue : ∀ due, s.board.agenda.nextDue? = some due → time ≤ due) :
      Proceeds view s [] { s with board := s.board.moveTo time }
  | launch (s : Session V) (number) {actions} (h : ∀ a ∈ actions, a.isOrdinary = true) :
      Proceeds view s [] (s.launch number actions)
  | attach (s : Session V) (b name) : Proceeds view s [] (s.attach b name)
  | type (s : Session V) (name text) : Proceeds view s [] (s.typeInto name text)
  | report (s : Session V) (name) : Proceeds view s [] (s.report name)
  | close (s : Session V) : Proceeds view s (s.account s.close) s.close
  | around {s t : Session V} (h : Quiet s t) (hclient : t.client = s.client)
      (howns : t.ownsClient = s.ownsClient) : Proceeds view s [] t

/-- A stretch of the life of a session, with all that there is to tell of it. -/
inductive Chronicle (view : View V) (s : Session V) : Log → Session V → Prop
  | start : Chronicle view s [] s
  | next {t u log new} (h : Chronicle view s log t) (hnext : Proceeds view t new u) :
      Chronicle view s (log ++ new) u

/-- Nothing is left to be done: no job is next. -/
theorem next?_eq_none_of_rest (h : s.step view = none) : s.board.agenda.next? = none := by
  simpa [step, Turn.Board.next?] using h

theorem isFair_of_isOrdinary {a : Action} (h : a.isOrdinary = true) : a.isFair = true := by
  cases a with
  | validate b text => cases h
  | _ => rfl

theorem Proceeds.toNext {new : Log} (h : Proceeds view s new t) : Next view s t := by
  cases h with
  | job h => exact .job h
  | wait time => exact .wait s time
  | launch number h => exact .launch s number fun a ha => isFair_of_isOrdinary (h a ha)
  | attach b name => exact .attach s b name
  | type name text => exact .type s name text
  | report name => exact .report s name
  | close => exact .close s
  | around h => exact .around h

/-! ## Editors have no history -/

theorem history_syncEditor (b : Buffer) (text : String) (s : Session V) :
    (s.syncEditor b text).history = s.history := by
  unfold syncEditor
  split
  · rfl
  split
  · rfl
  split
  · rfl
  dsimp only
  split <;> rfl

theorem history_hear (text : String) (e : Draft) (s : Session V) :
    (s.hear text e).history = s.history := by
  unfold hear
  split <;> rfl

theorem history_report (name : String) (s : Session V) : (s.report name).history = s.history := by
  have hall (text : String) (es : List Draft) (t : Session V) :
      (es.foldl (hear text) t).history = t.history := by
    induction es generalizing t with
    | nil => rfl
    | cons e es ih => exact (ih _).trans (history_hear text e t)
  unfold report
  split
  · exact hall _ _ _
  · rfl

theorem history_typeInto (name text : String) (s : Session V) :
    (s.typeInto name text).history = s.history := history_report name _

theorem history_attach (b : Buffer) (name : String) (s : Session V) :
    (s.attach b name).history = s.history := by
  unfold attach
  split
  · exact history_syncEditor _ _ _
  · dsimp only
    split
    · exact history_hear _ _ _
    · rfl

/-! ## A draft goes on as its lane does -/

/-- A session has come from another, and one of its drafts as its lane tells. -/
structure Follows (d : Draft) (w : Nat) (o : Bool) (s : Session V) (log : Log) (t : Session V) :
    Prop where
  orderly : t.IsOrderly
  timely : IsTimely d w o t
  history : t.history = s.history ++ log.filterMap (·.2.happening?)
  passes : Lane.Passes (Lane.Does d w o) (s.lane d) (moments d log) (t.lane d)

theorem Follows.trans {log new : Log} (h : Follows d w o s log t) (h' : Follows d w o t new u) :
    Follows d w o s (log ++ new) u := by
  refine ⟨h'.orderly, h'.timely, ?_, ?_⟩
  · rw [h'.history, h.history, List.filterMap_append, List.append_assoc]
  · rw [moments, relabel_append]
    exact h.passes.trans h'.passes

/-- Nothing is told that concerns the draft. -/
theorem Follows.of_advances (hadvance : Advances d w o (s.lane d) s t) (ht : t.IsOrderly)
    (hhistory : t.history = s.history) : Follows d w o s [] t := by
  obtain ⟨new, hnew, hpasses⟩ := hadvance.passes
  obtain rfl : new = [] := by simpa [hnew] using hhistory
  exact ⟨ht, hadvance.timely, by rw [hhistory]; simp, hpasses⟩

theorem account_eq {new : List Happening} (h : t.history = s.history ++ new) :
    s.account t = new.map fun x => (s.board.now, .happened x) := by
  rw [account, h, List.drop_left]

theorem happenings_account {new : List Happening} (h : t.history = s.history ++ new) :
    (s.account t).filterMap (·.2.happening?) = new := by
  rw [account_eq h, List.filterMap_map]
  simp [Incident.happening?, Function.comp_def]

theorem moments_account {new : List Happening} (h : t.history = s.history ++ new) :
    moments d (s.account t) = momentsAt d s.board.now new := by
  rw [account_eq h, moments, momentsAt, relabel, relabel, List.filterMap_map, List.filterMap_map]
  rfl

theorem happenings_firings (s : Session V) : s.firings.filterMap (·.2.happening?) = [] := by
  unfold firings
  cases s.firing? <;> rfl

theorem moments_firings (d : Draft) (s : Session V) :
    moments d s.firings = if s.firing? = some d then [(s.board.now, .fired)] else [] := by
  unfold firings
  cases hfire : s.firing? with
  | none => rfl
  | some e =>
    by_cases he : e = d
    · subst he
      simp [moments, Turn.relabel_cons, Incident.moment?]
    · simp [moments, Turn.relabel_cons, Incident.moment?, he]

/-- What is told of a session that goes on within a moment, the draft has gone through. -/
theorem Follows.account_of_advances (hadvance : Advances d w o (s.lane d) s t) (ht : t.IsOrderly) :
    Follows d w o s (s.account t) t := by
  obtain ⟨new, hnew, hpasses⟩ := hadvance.passes
  refine ⟨ht, hadvance.timely, by rw [happenings_account hnew, hnew], ?_⟩
  rw [moments_account hnew]
  exact hpasses

theorem Follows.job (h : IsTimely d w o s) (hs : s.IsOrderly) (hstep : s.step view = some t) :
    Follows d w o s (s.firings ++ s.account t) t := by
  have ht := (byShifts_step hs hstep).1
  obtain ⟨hother, hself⟩ := h.step hs hstep
  have hfirings := moments_firings d s
  by_cases hfire : s.firing? = some d
  · obtain ⟨htimely, hhistory, hdoes⟩ := hself hfire
    have hnew : t.history = s.history ++ [] := by rw [hhistory, List.append_nil]
    have haccount : s.account t = [] := account_eq hnew
    rw [if_pos hfire] at hfirings
    rw [haccount, List.append_nil]
    refine ⟨ht, htimely, by rw [happenings_firings, hnew], ?_⟩
    rw [hfirings]
    exact .single h.ahead hdoes htimely.ahead
  · have htold := account_of_advances (hother hfire) ht
    rw [if_neg hfire] at hfirings
    refine ⟨ht, htold.timely, ?_, ?_⟩
    · rw [List.filterMap_append, happenings_firings, htold.history, List.nil_append]
    · rw [moments, relabel_append]
      change Lane.Passes _ _ (moments d s.firings ++ moments d (s.account t)) _
      rw [hfirings, List.nil_append]
      exact htold.passes

/-- Time passes. -/
theorem Follows.wait (h : IsTimely d w o s) (hs : s.IsOrderly) {time : Nat}
    (hrest : s.step view = none)
    (hdue : ∀ due, s.board.agenda.nextDue? = some due → time ≤ due) :
    Follows d w o s [] { s with board := s.board.moveTo time } := by
  have hnone := next?_eq_none_of_rest hrest
  obtain ⟨hturn, -, hlater⟩ := Turn.Agenda.of_next?_eq_none h.tidy hnone
  have hahead : ∀ x ∈ s.board.agenda.later, max s.board.now time ≤ x.1 := by
    intro x hx
    obtain ⟨due, hnext, hle⟩ := Turn.Agenda.nextDue?_le h.tidy hturn hx
    exact Nat.max_le.mpr ⟨Nat.le_of_lt (hlater x hx), Nat.le_trans (hdue due hnext) hle⟩
  have htidy : (s.board.moveTo time).agenda.IsTidy := by
    refine Turn.Agenda.isTidy_moveTo h.tidy fun x hx => ?_
    have hmem : (x.due, x.job) ∈ s.board.agenda.later :=
      List.mem_append_right _ (List.mem_map_of_mem hx)
    exact Nat.le_trans (Nat.le_max_right _ _) (hahead _ hmem)
  have houtlook := Turn.Board.outlook_moveTo h.tidy hnone time
  have hlane : lane d { s with board := s.board.moveTo time } =
      (s.lane d).moveTo (max s.board.now time) := by
    refine Lane.ext rfl rfl ?_ rfl
    have hdue : due? d { s with board := s.board.moveTo time } = s.due? d :=
      due?_of_activities rfl
    rw [lane, houtlook, hdue]
    rfl
  have hnext : Next view s { s with board := s.board.moveTo time } := .wait s time
  have ht := hnext.byShifts hs
  refine ⟨ht.1, ⟨?_, htidy, ?_, h.plans, h.window, h.owns⟩, by simp, ?_⟩
  · exact h.sound.retimed ⟨rfl, rfl, fun _ hid => hid⟩
  · exact h.rostered.of_sublist (.refl _) rfl
  · rw [hlane]
    refine .pass ⟨Nat.le_max_left _ _, fun x hx => ?_⟩
    obtain ⟨j, hj, -⟩ := Turn.mem_relabel.mp hx
    obtain hj | hj := List.mem_append.mp hj
    · -- nobody is in line
      obtain ⟨id, hid, -⟩ := Turn.Board.mem_runs.mp hj
      rw [Turn.Board.line, hturn] at hid
      have hqueued := (Turn.Agenda.of_next?_eq_none h.tidy hnone).2.1
      rw [hqueued] at hid
      cases hid
    · exact hahead _ hj

theorem Follows.launch (h : IsTimely d w o s) (hs : s.IsOrderly) (number : Nat)
    {actions : List Action} (hactions : ∀ a ∈ actions, a.isOrdinary = true) :
    Follows d w o s [] (s.launch number actions) := by
  have hnext : Next (fun _ _ v => (v, none)) s (s.launch number actions) :=
    .launch s number fun a ha => isFair_of_isOrdinary (hactions a ha)
  have ht := hnext.byShifts hs
  cases actions with
  | nil => exact .of_advances (h.aside (.of_store rfl rfl rfl rfl rfl rfl)) ht.1 rfl
  | cons first rest =>
    obtain ⟨hfirst, hrest⟩ := List.forall_mem_cons.mp hactions
    exact .of_advances (h.spawn (.user number) ⟨Stage.isBeside_start hfirst, hrest⟩) ht.1 rfl

theorem Follows.proceeds {new : Log} (h : IsTimely d w o s) (hs : s.IsOrderly)
    (hnext : Proceeds view s new t) : Follows d w o s new t := by
  have ht := (hnext.toNext.byShifts hs).1
  cases hnext with
  | job hstep => exact .job h hs hstep
  | wait time hrest hdue => exact .wait h hs hrest hdue
  | launch number hactions => exact .launch h hs number hactions
  | attach b name =>
    exact .of_advances (h.strokes (Act.strokes_attach b name s)) ht (history_attach b name s)
  | type name text =>
    exact .of_advances (h.strokes (Act.strokes_typeInto name text s)) ht
      (history_typeInto name text s)
  | report name =>
    exact .of_advances (h.strokes (Act.strokes_report name s)) ht (history_report name s)
  | close => exact .account_of_advances h.close ht
  | around hquiet hclient howns =>
    have haside : Aside d s t :=
      .of_store hquiet.store hquiet.scheduler hquiet.board hclient howns hquiet.history
    exact .of_advances (h.aside haside) ht hquiet.history

theorem Chronicle.follows {log : Log} (h : Chronicle view s log t) (hs : s.IsOrderly)
    (htimely : IsTimely d w o s) : Follows d w o s log t := by
  induction h with
  | start => exact ⟨hs, htimely, by simp, .refl htimely.ahead⟩
  | next _ hnext ih => exact ih.trans (.proceeds ih.timely ih.orderly hnext)

/-! ## New sessions -/

theorem isTimely_new (settings : Settings) (window : Nat) (armed : Bool)
    (client : Service.Client) (server : Service.Server) (ownsClient watched : Bool) (v : V) :
    IsTimely d window ownsClient
      (new settings window armed client server ownsClient watched v) := by
  refine ⟨Turn.Board.isSound_empty, ⟨?_, ?_, ?_, ?_⟩, Turn.Board.isRostered_empty, ?_, rfl, rfl⟩
  · intro x hx
    cases hx
  · exact .nil
  · intro x hx
    cases hx
  · intro x hx
    cases hx
  · intro a ha
    cases ha

/-- The lane of a draft in a new session: nothing has been done, and nothing is to come. -/
def Lane.new (d : Draft) (client : Service.Client) : Lane :=
  ⟨0, freshDraft d "", [], client.canSend (.validate d)⟩

theorem lane_new (settings : Settings) (window : Nat) (armed : Bool) (client : Service.Client)
    (server : Service.Server) (ownsClient watched : Bool) (v : V) :
    (new settings window armed client server ownsClient watched v).lane d = .new d client := by
  cases d <;> rfl

theorem Lane.isInOrder_new (d : Draft) (client : Service.Client) :
    (Lane.new d client).IsInOrder := by
  refine ⟨.nil, ?_, ?_, .nil⟩
  · intro x hx
    cases hx
  · intro x hx
    cases hx

/-- Whatever there is to tell of a new session, it is on time, the draft has come to where its lane
has, and the history is in the log. -/
theorem Chronicle.of_new {settings : Settings} {window : Nat} {armed : Bool}
    {client : Service.Client} {server : Service.Server} {ownsClient watched : Bool} {v : V}
    {log : Log}
    (h : Chronicle view (new settings window armed client server ownsClient watched v) log s)
    (d : Draft) :
    IsTimely d window ownsClient s ∧ s.history = log.filterMap (·.2.happening?) ∧
      Lane.Passes (Lane.Does d window ownsClient) (.new d client) (moments d log) (s.lane d) := by
  have hfollows := h.follows (isOrderly_new ..) (isTimely_new (d := d) ..)
  have hpasses := hfollows.passes
  rw [lane_new] at hpasses
  exact ⟨hfollows.timely, hfollows.history, hpasses⟩

/-- When nothing is left to be done, nothing in the lane is due. -/
theorem IsTimely.lt_of_rest (h : IsTimely d w o s) (hrest : s.step view = none) :
    ∀ x ∈ (s.lane d).line, (s.lane d).now < x.1 := by
  have hnone := next?_eq_none_of_rest hrest
  obtain ⟨hturn, hqueued, hlater⟩ := Turn.Agenda.of_next?_eq_none h.tidy hnone
  intro x hx
  obtain ⟨j, hj, -⟩ := Turn.mem_relabel.mp hx
  obtain hj | hj := List.mem_append.mp hj
  · obtain ⟨id, hid, -⟩ := Turn.Board.mem_runs.mp hj
    rw [Turn.Board.line, hturn, hqueued] at hid
    cases hid
  · exact hlater _ hj

/-! ## Chronicles to look at -/

/-- The session goes on up to a time, with all that happens then; what there is to tell is added to
the log. Time passes from alarm to alarm. -/
def tellTo (view : View V) (time : Nat) : Nat → Log × Session V → Log × Session V
  | 0, x => x
  | budget + 1, (log, s) =>
    match s.step view with
    | some t => tellTo view time budget (log ++ (s.firings ++ s.account t), t)
    | none =>
      if s.board.now < time then
        let next := (s.board.agenda.nextDue?.map (min time)).getD time
        tellTo view time budget (log, { s with board := s.board.moveTo next })
      else (log, s)

/-- The session as it goes on up to a time, with actions that are started at some times before. -/
def tell (view : View V) (s : Session V) (entries : List (Nat × List Action)) (time : Nat) :
    Log × Session V :=
  let start (x : Log × Session V) (e : Nat × List Action) : Log × Session V :=
    let x := tellTo view e.1 200 x
    (x.1, x.2.launch 0 e.2)
  tellTo view time 200 (entries.foldl start ([], s))

theorem Chronicle.silent {log : Log} (h : Chronicle view s log t) (hnext : Proceeds view t [] u) :
    Chronicle view s log u := by
  have happended := h.next hnext
  rwa [List.append_nil] at happended

theorem Chronicle.tellTo {x : Log × Session V} (h : Chronicle view s x.1 x.2) (time budget : Nat) :
    Chronicle view s (tellTo view time budget x).1 (tellTo view time budget x).2 := by
  induction budget generalizing x with
  | zero => exact h
  | succ budget ih =>
    obtain ⟨log, t⟩ := x
    unfold Session.tellTo
    split
    case h_1 u hu => exact ih (h.next (.job hu))
    case h_2 hrest =>
      split
      · refine ih (h.silent (.wait _ hrest fun due hdue => ?_))
        rw [hdue]
        exact Nat.min_le_right time due
      · exact h

theorem Chronicle.tell (s : Session V) {entries : List (Nat × List Action)}
    (hentries : ∀ e ∈ entries, ∀ a ∈ e.2, a.isOrdinary = true) (time : Nat) :
    Chronicle view s (tell view s entries time).1 (tell view s entries time).2 := by
  refine Chronicle.tellTo ?_ time 200
  suffices hall : ∀ x : Log × Session V, Chronicle view s x.1 x.2 →
      Chronicle view s (entries.foldl _ x).1 (entries.foldl _ x).2 from hall ([], s) .start
  induction entries with
  | nil => exact fun x hx => hx
  | cons e entries ih =>
    obtain ⟨he, hentries⟩ := List.forall_mem_cons.mp hentries
    exact fun x hx => ih hentries _ ((hx.tellTo e.1 200).silent (.launch _ 0 he))

end Workbench.Session
