import Workbench.Proofs.Session.Beat

/-!
# The drafts of a session do not depend on each other

What happens to a draft, and which requests go out for it, follows from its own edits, with what of
its own came before each of them in the same moment, from the replies to its own requests and from
when the session is closed. The other draft, the transforms, the editors and the view may differ in
any way.
-/
namespace Workbench.Session

open Document (Draft DraftState)
open Service (Reply Request)

variable {V V' : Type} {view : View V} {view' : View V'} {d : Draft} {w : Nat}
  {o : Bool} {answer : List (Nat × Request) → Reply}

/-- What is told of the beats as moments. -/
def told (bs : List (Nat × Beat)) : List (Nat × Moment) := bs.map fun x => (x.1, x.2.moment)

/-- What comes from outside is no request. -/
theorem IsAnswered.of_outer {past : List (Nat × Request)} {time : Nat} {text : Option String}
    {overtakes : Bool} {bs : List (Nat × Beat)}
    (h : IsAnswered answer past (told ((time, .outer text overtakes) :: bs))) :
    IsAnswered answer past (told bs) := by
  cases text <;> exact h

namespace Lane

variable {σ τ υ υ' τ' : Lane} {M : Type} {Step : Lane → M → Lane → Prop}

/-! ## Time on the way of a lane -/

theorem Plays.now_eq {b : Beat} (h : Plays d w o σ b υ) : υ.now = σ.now := by
  cases h with
  | outer text => cases text <;> rfl
  | own h => exact h.now_eq

/-- Time does not go back. -/
theorem Passes.now_le (hstep : ∀ σ m υ, Step σ m υ → υ.now = σ.now) {ms : List (Nat × M)}
    (h : Passes Step σ ms τ) : σ.now ≤ τ.now ∧ ∀ x ∈ ms, σ.now ≤ x.1 ∧ x.1 ≤ τ.now := by
  induction h with
  | pass hawaits =>
    refine ⟨hawaits.1, fun x hx => ?_⟩
    cases hx
  | @step σ υ τ time m ms hawaits hm _ ih =>
    obtain ⟨hle, hall⟩ := ih
    have hnow : υ.now = time := hstep _ _ _ hm
    rw [hnow] at hle hall
    refine ⟨Nat.le_trans hawaits.1 hle, fun x hx => ?_⟩
    obtain rfl | hx := List.mem_cons.mp hx
    · exact ⟨hawaits.1, hle⟩
    · exact ⟨Nat.le_trans hawaits.1 (hall x hx).1, (hall x hx).2⟩

/-- The way of a lane up to a time before which nothing is left in line. -/
theorem Passes.cut (hstep : ∀ σ m υ, Step σ m υ → υ.now = σ.now) {ms : List (Nat × M)} {T : Nat}
    (h : Passes Step σ ms τ) (hdone : ∀ x ∈ τ.line, T ≤ x.1) :
    ∃ ρ, Passes Step σ (ms.filter (·.1 < T)) ρ ∧ ∀ x ∈ ρ.line, T ≤ x.1 := by
  induction h with
  | pass hawaits => exact ⟨_, .pass hawaits, hdone⟩
  | @step σ υ τ time m ms hawaits hm hms ih =>
    by_cases hT : time < T
    · obtain ⟨ρ, hρ, hρdone⟩ := ih hdone
      refine ⟨ρ, ?_, hρdone⟩
      rw [List.filter_cons_of_pos (by simpa using hT)]
      exact .step hawaits hm hρ
    · have hT := Nat.le_of_not_lt hT
      have hlate : ((time, m) :: ms).filter (·.1 < T) = [] := by
        refine List.filter_eq_nil_iff.mpr fun x hx => ?_
        have hle : time ≤ x.1 := by
          obtain rfl | hx := List.mem_cons.mp hx
          · exact Nat.le_refl _
          · have hnow : υ.now = time := hstep _ _ _ hm
            exact hnow ▸ ((hms.now_le hstep).2 x hx).1
        simpa using Nat.le_trans hT hle
      rw [hlate]
      exact ⟨σ.moveTo time, .pass hawaits, fun x hx => Nat.le_trans hT (hawaits.2 x hx)⟩

/-! ## There is only one way to go on -/

theorem Does.exists_head {m : Moment} (h : Does d w o σ m υ) (hm : m.isOwn = true) :
    ∃ due rest, σ.line = (σ.now, due) :: rest := by
  cases h with
  | edit | fire | close => cases hm
  | ask hline => exact ⟨_, _, hline⟩
  | refuse hline => exact ⟨_, _, hline⟩
  | hear hline => exact ⟨_, _, hline⟩

theorem Does.exists_mem_line {m : Moment} {time : Nat} (h : Does d w o (σ.moveTo time) m υ)
    (hm : m.isOwn = true) : ∃ due, (time, due) ∈ σ.line := by
  obtain ⟨due, rest, hline⟩ : ∃ due rest, σ.line = (time, due) :: rest := h.exists_head hm
  refine ⟨due, ?_⟩
  rw [hline]
  exact List.mem_cons_self

/-- What is first in line comes next, and in one way only but for the reply. -/
theorem Does.unique {m m' : Moment} (h : Does d w o σ m υ) (h' : Does d w o σ m' υ')
    (hm : m.isOwn = true) (hm' : m'.isOwn = true)
    (hreply : ∀ time request reply reply', m = .asked time request reply →
      m' = .asked time request reply' → reply = reply') : m = m' ∧ υ = υ' := by
  cases h with
  | edit | fire | close => cases hm
  | ask hline hsend reply =>
    cases h' with
    | edit | fire | close => cases hm'
    | ask hline' hsend' reply' =>
      rw [hline] at hline'
      cases hline'
      cases hreply _ _ _ _ rfl rfl
      exact ⟨rfl, rfl⟩
    | refuse hline' hsend' =>
      rw [hsend] at hsend'
      cases hsend'
    | hear hline' =>
      rw [hline] at hline'
      cases hline'
  | refuse hline hsend =>
    cases h' with
    | edit | fire | close => cases hm'
    | ask hline' hsend' =>
      rw [hsend] at hsend'
      cases hsend'
    | refuse hline' =>
      rw [hline] at hline'
      cases hline'
      exact ⟨rfl, rfl⟩
    | hear hline' =>
      rw [hline] at hline'
      cases hline'
  | hear hline =>
    cases h' with
    | edit | fire | close => cases hm'
    | ask hline' | refuse hline' =>
      rw [hline] at hline'
      cases hline'
    | hear hline' =>
      rw [hline] at hline'
      cases hline'
      exact ⟨rfl, rfl⟩

/-- What comes from outside next is told from what something else of the same time comes before. -/
theorem marks_ne {past : List Nat} {t t' : Nat} {text : Option String} {overtakes : Bool}
    {m : Moment} {bs bs' : List (Nat × Beat)} (hawaits : σ.Awaits t)
    (hm : Does d w o (σ.moveTo t') m υ')
    (hown : m.isOwn = true) (hrest : Passes (Plays d w o) υ' bs' τ') :
    marks past ((t, .outer text overtakes) :: bs) ≠ marks past ((t', .own m) :: bs') := by
  intro hmarks
  have hmem : (⟨t, text, overtakes, past.count t⟩ : Mark) ∈ marks (t' :: past) bs' := by
    have hfirst : marks (t' :: past) bs' = ⟨t, text, overtakes, past.count t⟩ :: marks past bs :=
      hmarks.symm
    rw [hfirst]
    exact List.mem_cons_self
  obtain ⟨⟨b, hb⟩, hcount⟩ := of_mem_marks hmem
  dsimp only at hb hcount
  obtain ⟨due, hdue⟩ := hm.exists_mem_line hown
  have hle : t ≤ t' := hawaits.2 _ hdue
  have hge : t' ≤ t := by
    have hnow : υ'.now = t' := hm.now_eq
    exact hnow ▸ ((hrest.now_le fun _ _ _ => Plays.now_eq).2 _ hb).1
  obtain rfl := Nat.le_antisymm hle hge
  rw [List.count_cons_self] at hcount
  omega

/-- Two ways of a lane without timers are the same up to a time, if what comes from outside is, with
what came before it in the same moment, and all requests are answered alike. -/
theorem Passes.unique {bs bs' : List (Nat × Beat)} {past : List Nat}
    {asked : List (Nat × Request)} {T : Nat} (h : Passes (Plays d w o) σ bs τ)
    (h' : Passes (Plays d w o) σ bs' τ') (hmarks : marks past bs = marks past bs')
    (hanswered : IsAnswered answer asked (told bs))
    (hanswered' : IsAnswered answer asked (told bs')) (hbefore : ∀ x ∈ bs, x.1 < T)
    (hbefore' : ∀ x ∈ bs', x.1 < T) (hdone : ∀ x ∈ τ.line, T ≤ x.1)
    (hdone' : ∀ x ∈ τ'.line, T ≤ x.1) : bs = bs' := by
  -- by induction on the first way; what comes next in the second is compared with what does in it
  induction h generalizing bs' past asked with
  | @pass σ time hawaits =>
    cases h' with
    | pass => rfl
    | @step _ υ' _ t' b' bs' hawaits' hb' hrest' =>
      cases hb' with
      | outer => cases hmarks
      | own hm' hown' =>
        obtain ⟨due, hdue⟩ := hm'.exists_mem_line hown'
        exact absurd (hbefore' _ List.mem_cons_self) (Nat.not_lt.mpr (hdone (t', due) hdue))
  | @step σ υ τ t b bs hawaits hb hrest ih =>
    have hbefores := fun x hx => hbefore x (List.mem_cons_of_mem _ hx)
    cases h' with
    | @pass _ time hawaits' =>
      cases hb with
      | outer => cases hmarks
      | own hm hown =>
        obtain ⟨due, hdue⟩ := hm.exists_mem_line hown
        exact absurd (hbefore _ List.mem_cons_self) (Nat.not_lt.mpr (hdone' (t, due) hdue))
    | @step _ υ' _ t' b' bs' hawaits' hb' hrest' =>
      have hbefores' := fun x hx => hbefore' x (List.mem_cons_of_mem _ hx)
      cases hb with
      | outer text overtakes =>
        cases hb' with
        | outer text' overtakes' =>
          obtain ⟨hmark, hlater⟩ := List.cons.inj hmarks
          cases hmark
          rw [ih hrest' hlater hanswered.of_outer hanswered'.of_outer hbefores hbefores' hdone]
        | own hm' hown' => exact absurd hmarks (marks_ne hawaits hm' hown' hrest')
      | own hm hown =>
        cases hb' with
        | outer => exact absurd hmarks.symm (marks_ne hawaits' hm hown hrest)
        | own hm' hown' =>
          -- both are first in line
          obtain ⟨due, rest, hline⟩ : ∃ due rest, σ.line = (t, due) :: rest := hm.exists_head hown
          obtain ⟨due', rest', hline'⟩ : ∃ due rest, σ.line = (t', due) :: rest :=
            hm'.exists_head hown'
          rw [hline] at hline'
          cases hline'
          obtain ⟨rfl, rfl⟩ := hm.unique hm' hown hown' fun time request reply reply' hm hm' => by
            subst hm hm'
            exact hanswered.reply_eq.trans hanswered'.reply_eq.symm
          rw [ih hrest' hmarks hanswered.tail hanswered'.tail hbefores hbefores' hdone]

end Lane

/-! ## What becomes of a draft -/

/-- The draft each time that it is edited or that a verdict on it is heard. -/
def standings (d : Draft) (draft : DraftState) : List (Nat × Moment) → List (Nat × DraftState)
  | [] => []
  | (time, .edited text) :: ms => (time, freshDraft d text) :: standings d (freshDraft d text) ms
  | (time, .heard text result) :: ms =>
    let next := if draft.text = text then judgedDraft d draft result else draft
    (time, next) :: standings d next ms
  | _ :: ms => standings d draft ms

/-- The last of some standings; the draft as it was if there is none. -/
def lastStanding (draft : DraftState) (xs : List (Nat × DraftState)) : DraftState :=
  xs.foldl (fun _ x => x.2) draft

theorem standings_filter (d : Draft) (draft : DraftState) (ms : List (Nat × Moment)) :
    standings d draft (ms.filter (!·.2.isFiring)) = standings d draft ms := by
  induction ms generalizing draft with
  | nil => rfl
  | cons x ms ih =>
    obtain ⟨time, m⟩ := x
    cases m with
    | edited text => exact congrArg (List.cons _) (ih _)
    | heard text result => exact congrArg (List.cons _) (ih _)
    | _ => exact ih draft

namespace Lane

variable {σ τ : Lane} {ms : List (Nat × Moment)}

/-- The draft of a lane is its last standing. -/
theorem Passes.lastStanding_eq (h : Passes (Does d w o) σ ms τ) :
    lastStanding σ.draft (standings d σ.draft ms) = τ.draft := by
  induction h with
  | pass => rfl
  | step hawaits hm hms ih =>
    cases hm with
    | edit | fire | ask | refuse | hear | close => exact ih

theorem Passes.filter_requests (h : Passes (Does d w o) σ ms τ) (T : Nat) :
    (requests ms).filter (·.1 < T) = requests (ms.filter (·.1 < T)) := by
  induction h with
  | pass => rfl
  | @step σ υ τ time m ms hawaits hm hms ih =>
    unfold requests at ih ⊢
    cases hm with
    | edit | fire | ask | refuse | hear | close =>
      by_cases hT : time < T <;> simpa [List.filter_cons, Moment.request?, moveTo, hT] using ih

end Lane

/-! ## Two sessions -/

/-- Has all been done that was to be done before a time? -/
def HasPassed (view : View V) (T : Nat) (s : Session V) : Prop :=
  T ≤ s.board.now ∨ s.step view = none ∧ T = s.board.now + 1

/-- What comes from outside among some moments from the start of a session, each with what came
before it in the same moment. -/
def editMarks (ms : List (Nat × Moment)) : List Mark := marks [] (beats false ms)

/-- The moments before a time. -/
def priorTo (T : Nat) (ms : List (Nat × Moment)) : List (Nat × Moment) := ms.filter (·.1 < T)

variable {s : Session V} {s' : Session V'} {T : Nat}

theorem IsTimely.le_of_hasPassed (h : IsTimely d w o s) (hT : s.HasPassed view T) :
    ∀ x ∈ (s.lane d).line, T ≤ x.1 := by
  intro x hx
  obtain hT | ⟨hrest, hT⟩ := hT
  · exact Nat.le_trans hT (h.ahead x hx)
  · rw [hT]
    exact h.lt_of_rest hrest x hx

/-- The beats of a new session up to a time are a way of a lane without timers. -/
theorem Chronicle.exists_beats {settings : Settings} {window : Nat} {armed : Bool}
    {client : Service.Client} {server : Service.Server} {ownsClient watched : Bool} {v : V}
    {log : Log}
    (h : Chronicle view (new settings window armed client server ownsClient watched v) log s)
    (d : Draft) (hT : s.HasPassed view T) :
    ∃ τ, Lane.Passes (Lane.Plays d window ownsClient) (Lane.new d client)
        (beats false (priorTo T (moments d log))) τ ∧ ∀ x ∈ τ.line, T ≤ x.1 := by
  obtain ⟨htimely, -, hpasses⟩ := h.of_new d
  obtain ⟨ρ, hρ, hdone⟩ := hpasses.cut (fun _ _ _ => Lane.Does.now_eq) (htimely.le_of_hasPassed hT)
  refine ⟨ρ.ripe, hρ.ripe (Lane.isInOrder_new d client), fun x hx => ?_⟩
  obtain ⟨due, hdue, -⟩ := Lane.mem_ripen.mp hx
  exact hdone (x.1, due) hdue

theorem lt_of_mem_beats {armed : Bool} {ms : List (Nat × Moment)} (h : ∀ x ∈ ms, x.1 < T) :
    ∀ x ∈ beats armed ms, x.1 < T := by
  intro x hx
  have hmem : (x.1, x.2.moment) ∈ ms.filter (!·.2.isFiring) := by
    rw [← map_moment_beats armed]
    exact List.mem_map_of_mem hx
  exact h (x.1, x.2.moment) (List.mem_filter.mp hmem).1

/-- Moments before a time are found in two sessions alike, but for the timers. -/
theorem Chronicle.filter_moments_eq {settings settings' : Settings} {window : Nat}
    {armed armed' : Bool} {client : Service.Client} {server server' : Service.Server}
    {ownsClient watched watched' : Bool} {v : V} {v' : V'} {log log' : Log}
    (h : Chronicle view (new settings window armed client server ownsClient watched v) log s)
    (h' : Chronicle view' (new settings' window armed' client server' ownsClient watched' v') log'
      s')
    (hT : s.HasPassed view T) (hT' : s'.HasPassed view' T)
    (hedits : editMarks (priorTo T (moments d log)) = editMarks (priorTo T (moments d log')))
    (hanswered : IsAnswered answer [] (priorTo T (moments d log)))
    (hanswered' : IsAnswered answer [] (priorTo T (moments d log'))) :
    (priorTo T (moments d log)).filter (!·.2.isFiring) =
      (priorTo T (moments d log')).filter (!·.2.isFiring) := by
  obtain ⟨τ, hbeats, hdone⟩ := h.exists_beats d hT
  obtain ⟨τ', hbeats', hdone'⟩ := h'.exists_beats d hT'
  have hbefore (log : Log) : ∀ x ∈ beats false (priorTo T (moments d log)), x.1 < T :=
    lt_of_mem_beats fun x hx => by simpa using (List.mem_filter.mp hx).2
  have htold (log : Log) : told (beats false (priorTo T (moments d log))) =
      (priorTo T (moments d log)).filter (!·.2.isFiring) := map_moment_beats false _
  have htellsAnswered {log : Log} (h : IsAnswered answer [] (priorTo T (moments d log))) :
      IsAnswered answer [] (told (beats false (priorTo T (moments d log)))) := by
    rw [htold, isAnswered_filter]
    exact h
  rw [← htold, ← htold, hbeats.unique hbeats' hedits (htellsAnswered hanswered)
    (htellsAnswered hanswered') (hbefore log) (hbefore log') hdone hdone']

/-- The requests that have been sent before a time, as moments tell of them. -/
theorem Chronicle.requestsFor_eq {settings : Settings} {window : Nat} {armed : Bool}
    {client : Service.Client} {server : Service.Server} {ownsClient watched : Bool} {v : V}
    {log : Log}
    (h : Chronicle view (new settings window armed client server ownsClient watched v) log s)
    (d : Draft) (T : Nat) :
    (s.requestsFor d).filter (·.1 < T) =
      requests ((priorTo T (moments d log)).filter (!·.2.isFiring)) := by
  obtain ⟨-, hhistory, hpasses⟩ := h.of_new d
  rw [Session.requestsFor_eq hhistory, hpasses.filter_requests, requests_filter]
  rfl

/-- A draft is its last standing. -/
theorem Chronicle.lastStanding_eq {settings : Settings} {window : Nat} {armed : Bool}
    {client : Service.Client} {server : Service.Server} {ownsClient watched : Bool} {v : V}
    {log : Log}
    (h : Chronicle view (new settings window armed client server ownsClient watched v) log s)
    (d : Draft) (hT : s.board.now < T) :
    lastStanding (freshDraft d "") (standings d (freshDraft d "") (priorTo T (moments d log))) =
      s.store.draft d := by
  obtain ⟨-, -, hpasses⟩ := h.of_new d
  have hall : priorTo T (moments d log) = moments d log := by
    refine List.filter_eq_self.mpr fun x hx => ?_
    have hle := ((hpasses.now_le fun _ _ _ => Lane.Does.now_eq).2 x hx).2
    simpa using Nat.lt_of_le_of_lt hle hT
  rw [hall]
  exact hpasses.lastStanding_eq

/-- Two sessions may differ in all but the window, the client and whether they own it: in the edits
of the other draft, in the transforms, the service, the settings, the editors and the view. Up to a
time that both have passed, the requests for verdicts on a draft are the same with their times, and
so is the draft each time that something becomes of it, if its edits are the same, with what of its
own came before each of them in the same moment, its requests are answered alike, and the sessions
are closed alike. -/
theorem draft_independent {settings settings' : Settings} {window : Nat} {armed armed' : Bool}
    {client : Service.Client} {server server' : Service.Server}
    {ownsClient watched watched' : Bool} {v : V} {v' : V'} {log log' : Log}
    (h : Chronicle view (new settings window armed client server ownsClient watched v) log s)
    (h' : Chronicle view' (new settings' window armed' client server' ownsClient watched' v') log'
      s')
    (hT : s.HasPassed view T) (hT' : s'.HasPassed view' T)
    (hedits : editMarks (priorTo T (moments d log)) = editMarks (priorTo T (moments d log')))
    (hanswered : IsAnswered answer [] (priorTo T (moments d log)))
    (hanswered' : IsAnswered answer [] (priorTo T (moments d log'))) :
    (s.requestsFor d).filter (·.1 < T) = (s'.requestsFor d).filter (·.1 < T) ∧
      standings d (freshDraft d "") (priorTo T (moments d log)) =
        standings d (freshDraft d "") (priorTo T (moments d log')) ∧
      (s.board.now < T → s'.board.now < T → s.store.draft d = s'.store.draft d) := by
  have hmoments := h.filter_moments_eq h' hT hT' hedits hanswered hanswered'
  have hstandings : standings d (freshDraft d "") (priorTo T (moments d log)) =
      standings d (freshDraft d "") (priorTo T (moments d log')) := by
    rw [← standings_filter d _ (priorTo T (moments d log)), hmoments, standings_filter]
  refine ⟨?_, hstandings, fun hnow hnow' => ?_⟩
  · rw [h.requestsFor_eq, h'.requestsFor_eq, hmoments]
  · rw [← h.lastStanding_eq d hnow, ← h'.lastStanding_eq d hnow', hstandings]

/-- That service when a verdict takes it a time of five, and a transform as long as is said. -/
def slowServer (delay : Nat) : Service.Server :=
  { easyServer with
    usual := fun request =>
      { easyServer.usual request with
        delay := match request.endpoint with
          | .transform => delay
          | _ => 5 } }

/-- What that service makes of requests for a verdict. -/
def slowAnswer : List (Nat × Request) → Reply := fun _ =>
  (slowServer 0).usual (.validateInput "")

/-- A session in which the input is edited twice, and other things are done besides. -/
def busySession (delay : Nat) (besides : List Action) : Log × Session Unit :=
  tell blindView (localSession (slowServer delay) 2 false)
    [(0, [.edit .input "A"]), (1, besides), (4, [.edit .input "B"])] 20

theorem chronicle_busySession (delay : Nat) {besides : List Action}
    (h : ∀ a ∈ besides, a.isOrdinary = true) :
    Chronicle blindView (localSession (slowServer delay) 2 false) (busySession delay besides).1
      (busySession delay besides).2 := by
  refine .tell _ ?_ 20
  simpa [Action.isOrdinary] using h

/-- A specification and transforms besides. -/
def otherWork : List Action := [.edit .spec "[]", .requestTransform, .setArmed true]

/-- The input is the same with and without other work. -/
theorem draft_independent_of_transforms :
    ((busySession 0 []).2.requestsFor .input).filter (·.1 < 21) =
        ((busySession 3 otherWork).2.requestsFor .input).filter (·.1 < 21) ∧
      (busySession 0 []).2.store.draft .input =
        (busySession 3 otherWork).2.store.draft .input := by
  have hrest : ((busySession 0 []).2.step blindView).isNone = true ∧
      ((busySession 3 otherWork).2.step blindView).isNone = true := by decide +kernel
  have hnow : (busySession 0 []).2.board.now = 20 ∧
      (busySession 3 otherWork).2.board.now = 20 := by decide +kernel
  have hedits : editMarks (priorTo 21 (moments .input (busySession 0 []).1)) =
      editMarks (priorTo 21 (moments .input (busySession 3 otherWork).1)) := by decide +kernel
  have hanswered : IsAnswered slowAnswer [] (priorTo 21 (moments .input (busySession 0 []).1)) ∧
      IsAnswered slowAnswer [] (priorTo 21 (moments .input (busySession 3 otherWork).1)) := by
    decide +kernel
  obtain ⟨hrequests, -, hdraft⟩ := draft_independent
    (chronicle_busySession 0 (by decide)) (chronicle_busySession 3 (by decide))
    (.inr ⟨Option.isNone_iff_eq_none.mp hrest.1, by rw [hnow.1]⟩)
    (.inr ⟨Option.isNone_iff_eq_none.mp hrest.2, by rw [hnow.2]⟩) hedits hanswered.1 hanswered.2
  refine ⟨hrequests, hdraft ?_ ?_⟩
  · rw [hnow.1]
    decide
  · rw [hnow.2]
    decide

/-- A session in which the input gets back the text whose verdict is due, in the moment when it is
due: the edit follows a transform that starts at some time and takes some time. -/
def tieSession (start delay : Nat) : Log × Session Unit :=
  tell blindView (localSession (slowServer delay) 2 false)
    [(0, [.edit .input "A", .edit .spec "[]"]), (start, [.requestTransform, .edit .input "A"]),
      (6, [.edit .input "B"])] 8

theorem chronicle_tieSession (start delay : Nat) :
    Chronicle blindView (localSession (slowServer delay) 2 false) (tieSession start delay).1
      (tieSession start delay).2 := by
  refine .tell _ ?_ 8
  simp [Action.isOrdinary]

/-- What comes from outside among some moments, with its times. -/
def edits (ms : List (Nat × Moment)) : List (Nat × Option String) :=
  (editMarks ms).map fun m => (m.time, m.text)

/-- The edits of the input are the same with their times, and so are the answers, but a transform
that starts later lets the verdict come first: then it is not heard. -/
theorem draft_depends_within_moment :
    (Chronicle blindView (localSession (slowServer 7) 2 false) (tieSession 0 7).1
        (tieSession 0 7).2 ∧
      Chronicle blindView (localSession (slowServer 4) 2 false) (tieSession 3 4).1
        (tieSession 3 4).2) ∧
    (((tieSession 0 7).2.step blindView).isNone = true ∧ (tieSession 0 7).2.board.now = 8) ∧
    (((tieSession 3 4).2.step blindView).isNone = true ∧ (tieSession 3 4).2.board.now = 8) ∧
    edits (moments .input (tieSession 0 7).1) = edits (moments .input (tieSession 3 4).1) ∧
    IsAnswered slowAnswer [] (moments .input (tieSession 0 7).1) ∧
    IsAnswered slowAnswer [] (moments .input (tieSession 3 4).1) ∧
    (tieSession 0 7).2.store.draft .input ≠ (tieSession 3 4).2.store.draft .input := by
  refine ⟨⟨chronicle_tieSession 0 7, chronicle_tieSession 3 4⟩, ?_⟩
  decide +kernel

end Workbench.Session
