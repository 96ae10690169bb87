import Workbench.Proofs.Session.Chronicle

/-!
# The validation traffic of a session

A request for a verdict goes out for each text that outlasts the window, in the moment its timer
fires, and for no other text. A timer fires after exactly the window, unless another text of the
same draft comes first.
-/
namespace Workbench.Session

open Document (Draft DraftState)
open Service (Reply Request)
open Turn (insertDue relabel relabel_append relabel_cons relabel_insertDue)

variable {V : Type} {view : View V} {d : Draft} {w : Nat} {o : Bool} {s : Session V}

/-- What becomes of a timer. -/
inductive Fate where
  | fired (time : Nat)
  /-- Another text comes first. -/
  | overtaken (time : Nat)
  /-- The session is closed first. -/
  | dropped (time : Nat)
  | armed
  deriving DecidableEq

/-- The texts that have waited, with the time when their timers fire, if they do. -/
def Fate.takes : Fate → List (Nat × String) → List (Nat × String)
  | .fired time, xs => xs.map fun x => (time, x.2)
  | _, _ => []

/-- What becomes of the timer that is armed before these moments. -/
def fate : List (Nat × Moment) → Fate
  | [] => .armed
  | (time, .fired) :: _ => .fired time
  | (time, .edited _) :: _ => .overtaken time
  | (time, .closed) :: _ => .dropped time
  | _ :: ms => fate ms

/-- The request that goes out, with its time, if that is what happens. -/
def Moment.request? : Moment → Option (Nat × Request)
  | .asked time request _ => some (time, request)
  | _ => none

/-- The requests that go out. -/
def requests (ms : List (Nat × Moment)) : List (Nat × Request) := ms.filterMap (·.2.request?)

/-- The requests that have been sent to where a draft is validated. -/
def requestsFor (d : Draft) (s : Session V) : List (Nat × Request) :=
  s.sent.filterMap fun x =>
    if x.outgoing.request.endpoint = .validate d then some (x.time, x.outgoing.request) else none

theorem requestsFor_eq {log : Log} (h : s.history = log.filterMap (·.2.happening?)) (d : Draft) :
    s.requestsFor d = requests (moments d log) := by
  unfold requestsFor sent requests moments relabel
  rw [h, List.filterMap_filterMap, List.filterMap_filterMap, List.filterMap_filterMap]
  refine List.filterMap_congr fun x _ => ?_
  obtain ⟨time, incident⟩ := x
  cases incident with
  | fired e =>
    by_cases he : e = d <;> simp [Incident.happening?, Incident.moment?, Moment.request?, he]
  | happened happening =>
    cases happening with
    | sent x reply =>
      by_cases hx : x.outgoing.request.endpoint = .validate d <;>
        simp [Incident.happening?, Happening.sent?, Incident.moment?, Happening.moment?,
          Moment.request?, hx]
    | edited t e text =>
      by_cases he : e = d <;>
        simp [Incident.happening?, Happening.sent?, Incident.moment?, Happening.moment?,
          Moment.request?, he]
    | judged e text result =>
      by_cases he : e = d <;>
        simp [Incident.happening?, Happening.sent?, Incident.moment?, Happening.moment?,
          Moment.request?, he]
    | refused call f =>
      cases call with
      | validate e text =>
        by_cases he : e = d <;>
          simp [Incident.happening?, Happening.sent?, Incident.moment?, Happening.moment?,
            Moment.request?, he]
      | _ => rfl
    | _ => rfl

/-! ## Timers and questions of a lane -/

def Due.timer? : Due → Option String
  | .timer text => some text
  | _ => none

def Due.question? : Due → Option String
  | .question text => some text
  | _ => none

theorem Due.isTimer_of_isVerdict {x : Due} (h : x.isVerdict = true) : x.isTimer = false := by
  cases x with
  | timer => cases h
  | _ => rfl

namespace Lane

variable {σ τ υ : Lane} {m : Moment} {ms : List (Nat × Moment)}

/-- The timers in a lane. -/
def timers (σ : Lane) : List (Nat × String) := relabel Due.timer? σ.line

/-- The questions in a lane. -/
def questions (σ : Lane) : List (Nat × String) := relabel Due.question? σ.line

theorem relabel_timer?_eq_nil {line : List (Nat × Due)} (h : ∀ x ∈ line, x.2.isTimer = false) :
    relabel Due.timer? line = [] := by
  refine List.filterMap_eq_nil_iff.mpr fun x hx => ?_
  have hnot := h x hx
  cases hdue : x.2 with
  | timer text =>
    rw [hdue] at hnot
    cases hnot
  | _ => rfl

theorem relabel_question?_eq_nil {line : List (Nat × Due)}
    (h : ∀ x ∈ line, x.2.isVerdict = true) : relabel Due.question? line = [] := by
  refine List.filterMap_eq_nil_iff.mpr fun x hx => ?_
  have hverdict := h x hx
  cases hdue : x.2 with
  | question text =>
    rw [hdue] at hverdict
    cases hverdict
  | _ => rfl

/-- Questions stay when the timers go. -/
theorem relabel_question?_filter (line : List (Nat × Due)) :
    relabel Due.question? (line.filter (!·.2.isTimer)) = relabel Due.question? line := by
  unfold relabel
  rw [List.filterMap_filter]
  refine List.filterMap_congr fun x _ => ?_
  obtain ⟨time, due⟩ := x
  cases due <;> rfl

/-- In front of a timer there is no other, and behind it there are only verdicts. -/
theorem IsInOrder.around_timer {now : Nat} {draft : DraftState} {before after : List (Nat × Due)}
    {sends : Bool} {x : Nat × Due} (h : IsInOrder ⟨now, draft, before ++ x :: after, sends⟩)
    (hx : x.2.isTimer = true) :
    (∀ y ∈ before, y.2.isTimer = false) ∧ ∀ y ∈ after, y.2.isVerdict = true := by
  have hbehind := h.behind
  rw [List.pairwise_append, List.pairwise_cons] at hbehind
  refine ⟨fun y hy => ?_, fun y hy => hbehind.2.1.1 y hy hx⟩
  cases hyt : y.2.isTimer with
  | false => rfl
  | true =>
    rw [Due.isTimer_of_isVerdict (hbehind.2.2 y hy x List.mem_cons_self hyt)] at hx
    cases hx

theorem relabel_timer?_kept (σ : Lane) : relabel Due.timer? σ.kept = [] :=
  relabel_timer?_eq_nil fun x hx => by simpa using (List.mem_filter.mp hx).2

theorem questions_edit (h : σ.IsInOrder) (text : String) :
    (σ.edit d w text).questions = σ.questions := by
  unfold edit questions
  dsimp only
  split
  · exact relabel_question?_filter σ.line
  · rw [relabel_insertDue h.sorted_kept]
    exact relabel_question?_filter σ.line

theorem timers_edit (h : σ.IsInOrder) (text : String) :
    (σ.edit d w text).timers = if Text.isBlank text then [] else [(σ.now + w, text)] := by
  unfold edit timers
  dsimp only
  split
  · exact relabel_timer?_kept σ
  · rw [relabel_insertDue h.sorted_kept, relabel_timer?_kept]
    rfl

theorem timers_expect (h : σ.IsInOrder) {text : String} {rest : List (Nat × Due)}
    (hline : σ.line = (σ.now, .question text) :: rest) (reply : Reply) :
    relabel Due.timer? (σ.expect text reply rest) = σ.timers := by
  have hrest := h.sorted_rest hline
  have htimers : σ.timers = relabel Due.timer? rest := by
    rw [timers, hline, relabel_cons]
    rfl
  unfold expect
  rw [htimers]
  split
  · rw [relabel_cons]
    rfl
  · rw [relabel_insertDue hrest]
    rfl

theorem questions_expect (h : σ.IsInOrder) {text : String} {rest : List (Nat × Due)}
    (hline : σ.line = (σ.now, .question text) :: rest) (reply : Reply) :
    σ.questions = (σ.now, text) :: relabel Due.question? (σ.expect text reply rest) := by
  have hrest := h.sorted_rest hline
  have hquestions : σ.questions = (σ.now, text) :: relabel Due.question? rest := by
    rw [questions, hline, relabel_cons]
    rfl
  unfold expect
  rw [hquestions]
  split
  · rw [relabel_cons]
    rfl
  · rw [relabel_insertDue hrest]
    rfl

theorem timers_of_fire (h : σ.IsInOrder) {before after : List (Nat × Due)} {text : String}
    (hline : σ.line = before ++ (σ.now, .timer text) :: after) :
    σ.timers = [(σ.now, text)] := by
  obtain ⟨now, draft, line, sends⟩ := σ
  dsimp only at hline
  subst hline
  obtain ⟨hbefore, hafter⟩ := h.around_timer rfl
  have hnone : ∀ x ∈ after, x.2.isTimer = false := fun x hx =>
    Due.isTimer_of_isVerdict (hafter x hx)
  rw [timers, relabel_append, relabel_cons, relabel_timer?_eq_nil hbefore,
    relabel_timer?_eq_nil hnone]
  rfl

/-- A timer that fires becomes the last question. -/
theorem of_fire (h : σ.IsInOrder) {before after : List (Nat × Due)} {text : String}
    (hline : σ.line = before ++ (σ.now, .timer text) :: after) :
    relabel Due.timer? (before ++ (σ.now, .question text) :: after) = [] ∧
      relabel Due.question? (before ++ (σ.now, .question text) :: after) =
        σ.questions ++ [(σ.now, text)] := by
  obtain ⟨now, draft, line, sends⟩ := σ
  dsimp only at hline
  subst hline
  obtain ⟨hbefore, hafter⟩ := h.around_timer rfl
  have hnone : ∀ x ∈ after, x.2.isTimer = false := fun x hx =>
    Due.isTimer_of_isVerdict (hafter x hx)
  refine ⟨?_, ?_⟩
  · rw [relabel_append, relabel_cons, relabel_timer?_eq_nil hbefore, relabel_timer?_eq_nil hnone]
    rfl
  · rw [questions, relabel_append, relabel_append, relabel_cons, relabel_cons,
      relabel_question?_eq_nil hafter]
    simp [Due.question?]

/-! ## Traffic of a lane -/

/-- The request for the verdict on a text, with its time. -/
def asking (d : Draft) (x : Nat × String) : Nat × Request := (x.1, .validate d x.2)

/-- What a moment does to the timers and the questions of a lane. -/
def Turns (d : Draft) (w : Nat) (σ υ : Lane) : Moment → Prop
  | .edited text =>
    υ.timers = (if Text.isBlank text then [] else [(σ.now + w, text)]) ∧ υ.questions = σ.questions
  | .fired =>
    ∃ text, σ.timers = [(σ.now, text)] ∧ υ.timers = [] ∧
      υ.questions = σ.questions ++ [(σ.now, text)]
  | .asked time request _ =>
    ∃ text, (time, request) = asking d (σ.now, text) ∧ υ.timers = σ.timers ∧
      σ.questions = (σ.now, text) :: υ.questions
  | .refused _ => σ.sends = false ∧ υ.timers = σ.timers
  | .heard .. => υ.timers = σ.timers ∧ υ.questions = σ.questions
  | .closed => υ.timers = [] ∧ υ.questions = σ.questions

theorem Does.turns (h : Does d w o σ m υ) (hσ : σ.IsInOrder) : Turns d w σ υ m := by
  cases h with
  | edit text => exact ⟨timers_edit hσ text, questions_edit hσ text⟩
  | fire hline => exact ⟨_, timers_of_fire hσ hline, of_fire hσ hline⟩
  | ask hline hsend reply =>
    exact ⟨_, rfl, timers_expect hσ hline reply, questions_expect hσ hline reply⟩
  | refuse hline hsend =>
    refine ⟨hsend, ?_⟩
    unfold timers
    rw [hline, relabel_cons]
    rfl
  | hear hline =>
    refine ⟨?_, ?_⟩
    · unfold timers
      rw [hline, relabel_cons]
      rfl
    · unfold questions
      rw [hline, relabel_cons]
      rfl
  | close => exact ⟨relabel_timer?_kept σ, relabel_question?_filter σ.line⟩

end Lane

/-! ## Traffic of a session -/

end Workbench.Session
