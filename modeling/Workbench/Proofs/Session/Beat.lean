import Workbench.Proofs.Session.Traffic

/-!
# Beats of a draft

What happens to a draft, told without its timers: a timer counts as the question that it becomes, so
that it makes no difference when in its moment it fires. What comes from outside, edits and the
close of the session, has to tell whether the timer was still armed, and how many requests and
verdicts of the same moment came before it. The rest of what happens follows from that and from the
replies of the service.
-/
namespace Workbench.Session

open Document (Draft DraftState)
open Service (Reply Request)
open Turn (insertDue relabel relabel_append relabel_cons relabel_insertDue)

variable {d : Draft} {w : Nat} {o : Bool}

def Moment.isFiring : Moment → Bool
  | .fired => true
  | _ => false

/-- A moment that is no timer and does not come from outside: a request goes out or cannot, or a
verdict is heard. -/
def Moment.isOwn : Moment → Bool
  | .edited _ | .fired | .closed => false
  | _ => true

/-- What happens to a draft, but for the timers. -/
inductive Beat where
  /-- A text is put in, or, without a text, the session is closed; was a timer still armed? -/
  | outer (text : Option String) (overtakes : Bool)
  | own (m : Moment)

def Beat.moment : Beat → Moment
  | .outer (some text) _ => .edited text
  | .outer none _ => .closed
  | .own m => m

/-- The beats among some moments; `armed` tells whether a timer is armed before them. -/
def beats (armed : Bool) : List (Nat × Moment) → List (Nat × Beat)
  | [] => []
  | (time, .edited text) :: ms => (time, .outer (some text) armed) :: beats (!Text.isBlank text) ms
  | (time, .closed) :: ms => (time, .outer none armed) :: beats false ms
  | (_, .fired) :: ms => beats false ms
  | (time, m) :: ms => (time, .own m) :: beats armed ms

theorem map_moment_beats (armed : Bool) (ms : List (Nat × Moment)) :
    (beats armed ms).map (fun x => (x.1, x.2.moment)) = ms.filter (!·.2.isFiring) := by
  induction ms generalizing armed with
  | nil => rfl
  | cons x ms ih =>
    obtain ⟨time, m⟩ := x
    cases m with
    | fired => exact ih false
    | edited text => exact congrArg ((time, .edited text) :: ·) (ih _)
    | closed => exact congrArg ((time, .closed) :: ·) (ih _)
    | asked t request reply => exact congrArg ((time, .asked t request reply) :: ·) (ih armed)
    | refused text => exact congrArg ((time, .refused text) :: ·) (ih armed)
    | heard text result => exact congrArg ((time, .heard text result) :: ·) (ih armed)

/-- What comes from outside: an edit with its text, or, without a text, the close of the session;
with its time, whether a timer was still armed, and how many requests and verdicts of the same time
came before it. -/
structure Mark where
  time : Nat
  text : Option String
  overtakes : Bool
  earlier : Nat
  deriving DecidableEq

/-- What comes from outside among some beats; `past` are the times of the requests and verdicts
before them. -/
def marks (past : List Nat) : List (Nat × Beat) → List Mark
  | [] => []
  | (time, .outer text overtakes) :: bs =>
    ⟨time, text, overtakes, past.count time⟩ :: marks past bs
  | (time, .own _) :: bs => marks (time :: past) bs

/-- The reply that comes back for a request, if that is what happens. -/
def Moment.reply? : Moment → Option Reply
  | .asked _ _ reply => some reply
  | _ => none

/-- The replies to the requests that go out. -/
def replies (ms : List (Nat × Moment)) : List Reply := ms.filterMap (·.2.reply?)

/-- What a service makes of requests that come after some others, each told of all up to it. -/
def replyAll (answer : List (Nat × Request) → Reply) (past : List (Nat × Request)) :
    List (Nat × Request) → List Reply
  | [] => []
  | x :: xs => answer (past ++ [x]) :: replyAll answer (past ++ [x]) xs

/-- Each reply is what the service makes of the requests up to then. -/
def IsAnswered (answer : List (Nat × Request) → Reply) (past : List (Nat × Request))
    (ms : List (Nat × Moment)) : Prop := replies ms = replyAll answer past (requests ms)

instance (answer : List (Nat × Request) → Reply) (past : List (Nat × Request))
    (ms : List (Nat × Moment)) : Decidable (IsAnswered answer past ms) :=
  inferInstanceAs (Decidable (replies ms = replyAll answer past (requests ms)))

theorem requests_filter (ms : List (Nat × Moment)) :
    requests (ms.filter (!·.2.isFiring)) = requests ms := by
  unfold requests
  rw [List.filterMap_filter]
  refine List.filterMap_congr fun x _ => ?_
  obtain ⟨time, m⟩ := x
  cases m <;> rfl

theorem replies_filter (ms : List (Nat × Moment)) :
    replies (ms.filter (!·.2.isFiring)) = replies ms := by
  unfold replies
  rw [List.filterMap_filter]
  refine List.filterMap_congr fun x _ => ?_
  obtain ⟨time, m⟩ := x
  cases m <;> rfl

theorem isAnswered_filter (answer : List (Nat × Request) → Reply) (past : List (Nat × Request))
    (ms : List (Nat × Moment)) :
    IsAnswered answer past (ms.filter (!·.2.isFiring)) ↔ IsAnswered answer past ms := by
  unfold IsAnswered
  rw [replies_filter, requests_filter]

theorem IsAnswered.tail {answer : List (Nat × Request) → Reply} {past : List (Nat × Request)}
    {x : Nat × Moment} {ms : List (Nat × Moment)} (h : IsAnswered answer past (x :: ms)) :
    IsAnswered answer (past ++ x.2.request?.toList) ms := by
  obtain ⟨time, m⟩ := x
  cases m with
  | asked t request reply => exact (List.cons.inj h).2
  | _ =>
    change IsAnswered answer (past ++ []) ms
    rw [List.append_nil]
    exact h

theorem IsAnswered.reply_eq {answer : List (Nat × Request) → Reply} {past : List (Nat × Request)}
    {time t : Nat} {request : Request} {reply : Reply} {ms : List (Nat × Moment)}
    (h : IsAnswered answer past ((time, .asked t request reply) :: ms)) :
    reply = answer (past ++ [(t, request)]) := (List.cons.inj h).1

/-- A mark tells of a beat, and counts all that came before. -/
theorem of_mem_marks {past : List Nat} {bs : List (Nat × Beat)} {x : Mark}
    (h : x ∈ marks past bs) : (∃ b, (x.time, b) ∈ bs) ∧ past.count x.time ≤ x.earlier := by
  induction bs generalizing past with
  | nil => cases h
  | cons y bs ih =>
    obtain ⟨time, b⟩ := y
    cases b with
    | outer text overtakes =>
      obtain rfl | h := List.mem_cons.mp h
      · exact ⟨⟨_, List.mem_cons_self⟩, Nat.le_refl _⟩
      · obtain ⟨⟨b, hb⟩, hle⟩ := ih h
        exact ⟨⟨b, List.mem_cons_of_mem _ hb⟩, hle⟩
    | own m =>
      obtain ⟨⟨b, hb⟩, hle⟩ := ih h
      exact ⟨⟨b, List.mem_cons_of_mem _ hb⟩,
        Nat.le_trans ((List.sublist_cons_self _ _).count_le _) hle⟩

/-! ## Lanes without timers -/

/-- A timer counts as the question that it is to become. -/
def Due.ripe : Due → Due
  | .timer text => .question text
  | x => x

namespace Lane

variable {σ τ υ : Lane} {M : Type} {Step : Lane → M → Lane → Prop}

/-- A line in which the timer is a question. -/
def ripen (line : List (Nat × Due)) : List (Nat × Due) := relabel (some ·.ripe) line

/-- A lane in which the timer is a question. -/
def ripe (σ : Lane) : Lane := { σ with line := ripen σ.line }

/-- A line without its last question. -/
def dropQuestion (line : List (Nat × Due)) : List (Nat × Due) :=
  (line.reverse.eraseP (·.2.isQuestion)).reverse

/-- What comes from outside, in a lane without timers: a text, or the close of the session. -/
def take (d : Draft) (w : Nat) (o : Bool) (text : Option String) (overtakes : Bool) (σ : Lane) :
    Lane :=
  let kept := if overtakes then dropQuestion σ.line else σ.line
  match text with
  | some text =>
    { σ with
      draft := freshDraft d text
      line := if Text.isBlank text then kept else insertDue (σ.now + w, .question text) kept }
  | none => { σ with line := kept, sends := σ.sends && !o }

/-- What can happen to a draft whose timers are questions. -/
inductive Plays (d : Draft) (w : Nat) (o : Bool) : Lane → Beat → Lane → Prop
  | outer (σ : Lane) (text overtakes) :
      Plays d w o σ (.outer text overtakes) (σ.take d w o text overtakes)
  | own {σ m υ} (h : Does d w o σ m υ) (hm : m.isOwn = true) : Plays d w o σ (.own m) υ

theorem ripen_append (xs ys : List (Nat × Due)) : ripen (xs ++ ys) = ripen xs ++ ripen ys :=
  relabel_append _ xs ys

theorem ripen_cons (x : Nat × Due) (xs : List (Nat × Due)) :
    ripen (x :: xs) = (x.1, x.2.ripe) :: ripen xs := relabel_cons _ x xs

theorem ripen_insertDue {line : List (Nat × Due)} (h : Turn.IsByTime line) (x : Nat × Due) :
    ripen (insertDue x line) = insertDue (x.1, x.2.ripe) (ripen line) := relabel_insertDue h _ x

theorem mem_ripen {line : List (Nat × Due)} {x : Nat × Due} :
    x ∈ ripen line ↔ ∃ due, (x.1, due) ∈ line ∧ due.ripe = x.2 := by
  simp [ripen, Turn.mem_relabel]

theorem dropQuestion_append {before after : List (Nat × Due)} {x : Nat × Due}
    (hx : x.2.isQuestion = true) (hafter : ∀ y ∈ after, y.2.isQuestion = false) :
    dropQuestion (before ++ x :: after) = before ++ after := by
  unfold dropQuestion
  have hnot : ∀ y ∈ after.reverse, ¬ y.2.isQuestion = true := fun y hy => by
    rw [hafter y (List.mem_reverse.mp hy)]
    exact Bool.false_ne_true
  have hfirst : (x :: before.reverse).eraseP (·.2.isQuestion) = before.reverse :=
    List.eraseP_cons_of_pos (p := fun y : Nat × Due => y.2.isQuestion) hx
  rw [List.reverse_append, List.reverse_cons, List.append_assoc, List.eraseP_append_right _ hnot,
    List.singleton_append, hfirst, List.reverse_append, List.reverse_reverse, List.reverse_reverse]

theorem isQuestion_ripe_of_isVerdict {x : Due} (h : x.isVerdict = true) :
    x.ripe.isQuestion = false := by
  cases x with
  | verdict => rfl
  | _ => cases h

/-- Without its timer, a line is what is left without the question that the timer counts as. -/
theorem ripen_kept (h : σ.IsInOrder) :
    ripen σ.kept =
      if (!σ.timers.isEmpty) = true then dropQuestion σ.ripe.line else σ.ripe.line := by
  suffices hripe : ripen σ.kept =
      if σ.timers = [] then ripen σ.line else dropQuestion (ripen σ.line) by
    rw [hripe]
    cases htimers : σ.timers <;> rfl
  obtain ⟨now, draft, line, sends⟩ := σ
  dsimp only [kept]
  by_cases hany : ∃ x ∈ line, x.2.isTimer = true
  · obtain ⟨x, hx, htimer⟩ := hany
    obtain ⟨before, after, rfl⟩ := List.append_of_mem hx
    obtain ⟨hbefore, hafter⟩ := h.around_timer htimer
    obtain ⟨time, due⟩ := x
    cases due with
    | timer text =>
      have hkept : (before ++ (time, Due.timer text) :: after).filter (!·.2.isTimer) =
          before ++ after := by
        rw [List.filter_append, List.filter_cons_of_neg (by simp [Due.isTimer]),
          List.filter_eq_self.mpr fun y hy => by simp [hbefore y hy],
          List.filter_eq_self.mpr fun y hy => by simp [Due.isTimer_of_isVerdict (hafter y hy)]]
      have htimers : timers ⟨now, draft, before ++ (time, .timer text) :: after, sends⟩ ≠ [] := by
        rw [timers, relabel_append, relabel_cons]
        simp [Due.timer?]
      rw [if_neg htimers]
      rw [hkept, ripen_append, ripen_append, ripen_cons]
      refine (dropQuestion_append rfl fun y hy => ?_).symm
      obtain ⟨due, hdue, hripe⟩ := mem_ripen.mp hy
      rw [← hripe]
      exact isQuestion_ripe_of_isVerdict (hafter _ hdue)
    | _ => cases htimer
  · have hnone : ∀ x ∈ line, x.2.isTimer = false := fun x hx =>
      Bool.eq_false_iff.mpr fun htimer => hany ⟨x, hx, htimer⟩
    have htimers : timers ⟨now, draft, line, sends⟩ = [] := relabel_timer?_eq_nil hnone
    rw [if_pos htimers]
    rw [List.filter_eq_self.mpr fun y hy => by simp [hnone y hy]]

theorem ripe_edit (h : σ.IsInOrder) (text : String) :
    (σ.edit d w text).ripe = σ.ripe.take d w o (some text) (!σ.timers.isEmpty) := by
  refine Lane.ext rfl rfl ?_ rfl
  unfold edit take
  dsimp only
  rw [← ripen_kept h]
  dsimp only [ripe]
  split
  · rfl
  · exact ripen_insertDue h.sorted_kept _

theorem ripe_close (h : σ.IsInOrder) :
    (σ.close o).ripe = σ.ripe.take d w o none (!σ.timers.isEmpty) := by
  refine Lane.ext rfl rfl ?_ rfl
  exact ripen_kept h

/-- A timer that fires is a question before and after. -/
theorem ripe_of_fire (h : Does d w o σ .fired υ) : υ.ripe = σ.ripe := by
  cases h with
  | fire hline =>
    refine Lane.ext rfl rfl ?_ rfl
    dsimp only [ripe]
    rw [hline, ripen_append, ripen_append, ripen_cons, ripen_cons]
    rfl

theorem ripen_expect (h : σ.IsInOrder) {text : String} {rest : List (Nat × Due)}
    (hline : σ.line = (σ.now, .question text) :: rest) (reply : Reply) :
    ripen (σ.expect text reply rest) = σ.ripe.expect text reply (ripen rest) := by
  have hrest := h.sorted_rest hline
  unfold expect
  split
  · exact ripen_cons _ _
  · exact ripen_insertDue hrest _

/-- What else happens, happens in the same way when the timers are questions. -/
theorem Does.ripe {m : Moment} (h : Does d w o σ m υ) (hσ : σ.IsInOrder) (hm : m.isOwn = true) :
    Does d w o σ.ripe m υ.ripe := by
  cases h with
  | edit | fire | close => cases hm
  | ask hline hsend reply =>
    have hask := Does.ask (d := d) (w := w) (o := o) (σ := σ.ripe)
      (by rw [Lane.ripe, hline, ripen_cons]; rfl) hsend reply
    rw [← ripen_expect hσ hline] at hask
    exact hask
  | refuse hline hsend =>
    exact Does.refuse (σ := σ.ripe) (by rw [Lane.ripe, hline, ripen_cons]; rfl) hsend
  | hear hline => exact Does.hear (σ := σ.ripe) (by rw [Lane.ripe, hline, ripen_cons]; rfl)

theorem Awaits.ripe {time : Nat} (h : σ.Awaits time) : σ.ripe.Awaits time := by
  refine ⟨h.1, fun x hx => ?_⟩
  obtain ⟨due, hdue, -⟩ := mem_ripen.mp hx
  exact h.2 (x.1, due) hdue

/-- A lane without timers goes on by beats. -/
theorem Passes.ripe {ms : List (Nat × Moment)} (h : Passes (Does d w o) σ ms τ)
    (hσ : σ.IsInOrder) : Passes (Plays d w o) σ.ripe (beats (!σ.timers.isEmpty) ms) τ.ripe := by
  induction h with
  | pass hawaits => exact .pass hawaits.ripe
  | @step σ υ τ time m ms hawaits hm hms ih =>
    have hmoved := hσ.moveTo hawaits
    have hturns : Turns d w (σ.moveTo time) υ m := hm.turns hmoved
    have ih := ih (hmoved.does hm)
    have hown (hisOwn : m.isOwn = true) (htimers : υ.timers = (σ.moveTo time).timers) :
        Passes (Plays d w o) σ.ripe ((time, .own m) :: beats (!σ.timers.isEmpty) ms) τ.ripe := by
      rw [htimers] at ih
      exact .step hawaits.ripe (.own (hm.ripe hmoved hisOwn) hisOwn) ih
    cases m with
    | edited text =>
      have hedit : υ = (σ.moveTo time).edit d w text := by
        cases hm
        rfl
      have harmed : (!υ.timers.isEmpty) = !Text.isBlank text := by
        rw [hturns.1]
        cases Text.isBlank text <;> rfl
      rw [harmed] at ih
      refine .step hawaits.ripe ?_ ih
      rw [hedit, ripe_edit hmoved]
      exact .outer _ (some text) _
    | closed =>
      have hclose : υ = (σ.moveTo time).close o := by
        cases hm
        rfl
      rw [hturns.1] at ih
      refine .step hawaits.ripe ?_ ih
      rw [hclose, ripe_close hmoved]
      exact .outer _ none _
    | fired =>
      obtain ⟨text, -, hnone, -⟩ := hturns
      rw [hnone, ripe_of_fire hm] at ih
      exact (Passes.pass hawaits.ripe).trans ih
    | asked t request reply =>
      obtain ⟨text, -, htimers, -⟩ := hturns
      exact hown rfl htimers
    | refused text => exact hown rfl hturns.2
    | heard text result => exact hown rfl hturns.1

end Lane

end Workbench.Session
