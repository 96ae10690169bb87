import Workbench.Proofs.Service.Sending
import Workbench.Proofs.Session.Effect
import Workbench.Proofs.Turn.Outlook

/-!
# The lane of a draft

A draft as if it were alone: its text, snapshot and status, and what is to come for it, by time. A
text that is put into it replaces the timer that may be armed; a timer that fires becomes a question
at once, an asked question becomes a verdict to come, and a verdict that comes is heard. A client
that cannot send requests drops the questions.
-/
namespace Workbench.Session

open Document (Draft DraftState)
open Service (Reaction Reply Request Verdict)
open Turn (IsByTime exists_insertDue insertDue isByTime_insertDue mem_insertDue)

/-- What is to come for a draft. -/
inductive Due where
  /-- The timer fires; this text waits for it. -/
  | timer (text : String)
  /-- A verdict on the text is asked for. -/
  | question (text : String)
  /-- The verdict on the text comes. -/
  | verdict (text : String) (reaction : Reaction)

def Due.isTimer : Due → Bool
  | .timer _ => true
  | _ => false

def Due.isQuestion : Due → Bool
  | .question _ => true
  | _ => false

def Due.isVerdict : Due → Bool
  | .verdict _ _ => true
  | _ => false

theorem Due.isVerdict_of {x : Due} (ht : x.isTimer = false) (hq : x.isQuestion = false) :
    x.isVerdict = true := by
  cases x with
  | timer => cases ht
  | question => cases hq
  | verdict => rfl

/-- What happens to a draft. -/
inductive Moment where
  | edited (text : String)
  /-- Its timer fires. -/
  | fired
  /-- A request for a verdict goes out at this time, and this comes back for it. -/
  | asked (time : Nat) (request : Request) (reply : Reply)
  /-- The request for the verdict on a text cannot be sent. -/
  | refused (text : String)
  /-- The validation of a text ends. -/
  | heard (text : String) (result : Except Failure Verdict)
  /-- The session is closed. -/
  | closed

/-- The present time, a draft, what is to come for it, and whether requests can be sent for it. -/
@[ext]
structure Lane where
  now : Nat
  draft : DraftState
  line : List (Nat × Due)
  sends : Bool

namespace Lane

variable {d : Draft} {w : Nat} {o : Bool} {σ τ υ : Lane} {M : Type}

/-- The lane at a later time. -/
def moveTo (σ : Lane) (time : Nat) : Lane := { σ with now := time }

/-- That time may come next: nothing in line is due before it. -/
def Awaits (σ : Lane) (time : Nat) : Prop := σ.now ≤ time ∧ ∀ x ∈ σ.line, time ≤ x.1

/-- What is to come without the timer that may be armed. -/
def kept (σ : Lane) : List (Nat × Due) := σ.line.filter (!·.2.isTimer)

/-- A new text. Its timer, if it needs one, replaces the one that may be armed. -/
def edit (d : Draft) (w : Nat) (text : String) (σ : Lane) : Lane :=
  { σ with
    draft := freshDraft d text
    line := if Text.isBlank text then σ.kept else insertDue (σ.now + w, .timer text) σ.kept }

/-- The session is closed: the timer is dropped, and so is the client if the session owns it. -/
def close (owned : Bool) (σ : Lane) : Lane :=
  { σ with line := σ.kept, sends := σ.sends && !owned }

/-- The verdict that a reply brings is heard at once or comes later. -/
def expect (σ : Lane) (text : String) (reply : Reply) (rest : List (Nat × Due)) :
    List (Nat × Due) :=
  if reply.delay = 0 then (σ.now, .verdict text reply.reaction) :: rest
  else insertDue (σ.now + reply.delay, .verdict text reply.reaction) rest

/-- What can happen to a draft now, and what becomes of it. The window is `w`, and `o` tells whether
the session owns its client. -/
inductive Does (d : Draft) (w : Nat) (o : Bool) : Lane → Moment → Lane → Prop
  | edit (σ : Lane) (text) : Does d w o σ (.edited text) (σ.edit d w text)
  | fire {σ : Lane} {before after text} (h : σ.line = before ++ (σ.now, .timer text) :: after) :
      Does d w o σ .fired { σ with line := before ++ (σ.now, .question text) :: after }
  | ask {σ : Lane} {text rest} (h : σ.line = (σ.now, .question text) :: rest)
      (hsend : σ.sends = true) (reply) :
      Does d w o σ (.asked σ.now (.validate d text) reply)
        { σ with line := σ.expect text reply rest }
  | refuse {σ : Lane} {text rest} (h : σ.line = (σ.now, .question text) :: rest)
      (hsend : σ.sends = false) :
      Does d w o σ (.refused text) { σ with line := rest }
  | hear {σ : Lane} {text r rest} (h : σ.line = (σ.now, .verdict text r) :: rest) :
      Does d w o σ (.heard text (Service.Client.readVerdict d r).2)
        { σ with
          draft :=
            if σ.draft.text = text then
              judgedDraft d σ.draft (Service.Client.readVerdict d r).2
            else σ.draft
          line := rest }
  | close (σ : Lane) : Does d w o σ .closed (σ.close o)

/-- A lane goes on for a while, by moments of some sort: time passes, and never past something that
is due. Each moment is told with its time. -/
inductive Passes (Step : Lane → M → Lane → Prop) : Lane → List (Nat × M) → Lane → Prop
  | pass {σ time} (h : σ.Awaits time) : Passes Step σ [] (σ.moveTo time)
  | step {σ υ τ time m ms} (h : σ.Awaits time) (hm : Step (σ.moveTo time) m υ)
      (hms : Passes Step υ ms τ) : Passes Step σ ((time, m) :: ms) τ

namespace Passes

variable {Step : Lane → M → Lane → Prop} {ms ns : List (Nat × M)}

theorem refl (h : ∀ x ∈ σ.line, σ.now ≤ x.1) : Passes Step σ [] σ := .pass ⟨Nat.le_refl _, h⟩

theorem trans (h : Passes Step σ ms τ) (h' : Passes Step τ ns υ) :
    Passes Step σ (ms ++ ns) υ := by
  induction h with
  | pass hσ =>
    cases h' with
    | pass hτ => exact .pass ⟨Nat.le_trans hσ.1 hτ.1, hτ.2⟩
    | step hτ hm hms => exact .step ⟨Nat.le_trans hσ.1 hτ.1, hτ.2⟩ hm hms
  | step hσ hm _ ih => exact .step hσ hm (ih h')

/-- A single moment, now. -/
theorem single {m : M} (h : ∀ x ∈ σ.line, σ.now ≤ x.1) (hm : Step σ m τ)
    (h' : ∀ x ∈ τ.line, τ.now ≤ x.1) : Passes Step σ [(σ.now, m)] τ :=
  .step ⟨Nat.le_refl _, h⟩ hm (.refl h')

/-- What every moment keeps, and time that passes, a lane keeps on its way. -/
theorem keeps {P : Lane → Prop} (hpass : ∀ σ time, σ.Awaits time → P σ → P (σ.moveTo time))
    (hstep : ∀ σ m υ, Step σ m υ → P σ → P υ) (h : Passes Step σ ms τ) (hσ : P σ) : P τ := by
  induction h with
  | pass hawaits => exact hpass _ _ hawaits hσ
  | step hawaits hm _ ih => exact ih (hstep _ _ _ hm (hpass _ _ hawaits hσ))

end Passes

theorem Does.now_eq {m : Moment} (h : Does d w o σ m τ) : τ.now = σ.now := by
  cases h <;> rfl

/-! ## Lanes in order -/

/-- What is to come stands by time. Nothing is overdue, a question is due at once, and only verdicts
stand behind a timer. -/
structure IsInOrder (σ : Lane) : Prop where
  sorted : IsByTime σ.line
  ahead : ∀ x ∈ σ.line, σ.now ≤ x.1
  prompt : ∀ x ∈ σ.line, x.2.isQuestion = true → x.1 = σ.now
  behind : σ.line.Pairwise fun x y => x.2.isTimer = true → y.2.isVerdict = true

/-- Something for a later time is put in. It is no question, and if it is a timer, it is the only
one. -/
theorem IsInOrder.insert {now : Nat} {draft : DraftState} {line : List (Nat × Due)} {sends : Bool}
    (h : IsInOrder ⟨now, draft, line, sends⟩) {time : Nat} (htime : now ≤ time) {x : Due}
    (hx : x.isQuestion = false) (honly : x.isTimer = true → ∀ y ∈ line, y.2.isTimer = false) :
    IsInOrder ⟨now, draft, insertDue (time, x) line, sends⟩ := by
  refine ⟨isByTime_insertDue h.sorted _, fun y hy => ?_, fun y hy hquestion => ?_, ?_⟩
  · obtain rfl | hy := mem_insertDue.mp hy
    · exact htime
    · exact h.ahead y hy
  · obtain rfl | hy := mem_insertDue.mp hy
    · rw [hx] at hquestion
      cases hquestion
    · exact h.prompt y hy hquestion
  · obtain ⟨before, after, rfl, hinsert, hafter⟩ := exists_insertDue h.sorted (time, x)
    have hbehind := h.behind
    dsimp only at hbehind hinsert ⊢
    rw [hinsert]
    rw [List.pairwise_append] at hbehind ⊢
    refine ⟨hbehind.1, List.pairwise_cons.mpr ⟨fun y hy htimer => ?_, hbehind.2.1⟩, ?_⟩
    · -- what stands behind is due later, so it is no question either
      refine Due.isVerdict_of (honly htimer y (List.mem_append_right _ hy)) ?_
      cases hquestion : y.2.isQuestion with
      | false => rfl
      | true =>
        have hnow : y.1 = now := h.prompt y (List.mem_append_right _ hy) hquestion
        have hlater : time < y.1 := hafter y hy
        omega
    · intro y hy z hz htimer
      obtain rfl | hz := List.mem_cons.mp hz
      · refine Due.isVerdict_of ?_ hx
        cases hxt : x.isTimer with
        | false => rfl
        | true =>
          rw [honly hxt y (List.mem_append_left _ hy)] at htimer
          cases htimer
      · exact hbehind.2.2 y hy z hz htimer

theorem IsInOrder.sublist {line : List (Nat × Due)} (h : IsInOrder σ) (hline : line.Sublist σ.line)
    (draft : DraftState) (sends : Bool) : IsInOrder ⟨σ.now, draft, line, sends⟩ :=
  ⟨h.sorted.sublist hline, fun x hx => h.ahead x (hline.subset hx),
    fun x hx => h.prompt x (hline.subset hx), h.behind.sublist hline⟩

theorem IsInOrder.sorted_kept (h : IsInOrder σ) : IsByTime σ.kept :=
  h.sorted.sublist List.filter_sublist

theorem IsInOrder.sorted_rest (h : IsInOrder σ) {x : Nat × Due} {rest : List (Nat × Due)}
    (hline : σ.line = x :: rest) : IsByTime rest := by
  refine h.sorted.sublist ?_
  rw [hline]
  exact List.sublist_cons_self x rest

theorem IsInOrder.moveTo (h : IsInOrder σ) {time : Nat} (hawaits : σ.Awaits time) :
    IsInOrder (σ.moveTo time) := by
  refine ⟨h.sorted, hawaits.2, fun x hx hquestion => ?_, h.behind⟩
  have hdue := h.prompt x hx hquestion
  have htime := hawaits.2 x hx
  have hnow := hawaits.1
  change x.1 = time
  omega

theorem IsInOrder.does (h : IsInOrder σ) {m : Moment} (hm : Does d w o σ m τ) : IsInOrder τ := by
  cases hm with
  | edit text =>
    have hkept : IsInOrder ⟨σ.now, freshDraft d text, σ.kept, σ.sends⟩ :=
      h.sublist List.filter_sublist _ _
    unfold edit
    cases Text.isBlank text
    · refine hkept.insert (x := .timer text) (Nat.le_add_right _ _) rfl fun _ y hy => ?_
      simpa using (List.mem_filter.mp hy).2
    · exact hkept
  | fire hline =>
    obtain ⟨now, draft, line, sends⟩ := σ
    dsimp only at hline ⊢
    subst hline
    rename_i before after text
    have hbehind := h.behind
    dsimp only at hbehind
    rw [List.pairwise_append, List.pairwise_cons] at hbehind
    refine ⟨?_, fun x hx => ?_, fun x hx hquestion => ?_, ?_⟩
    · have hsorted := h.sorted
      dsimp only [IsByTime] at hsorted ⊢
      rw [List.pairwise_append, List.pairwise_cons] at hsorted ⊢
      refine ⟨hsorted.1, hsorted.2.1, fun x hx y hy => ?_⟩
      obtain rfl | hy := List.mem_cons.mp hy
      · exact hsorted.2.2 x hx (now, .timer text) List.mem_cons_self
      · exact hsorted.2.2 x hx y (List.mem_cons_of_mem _ hy)
    · simp only [List.mem_append, List.mem_cons] at hx
      obtain hx | rfl | hx := hx
      · exact h.ahead x (List.mem_append_left _ hx)
      · exact Nat.le_refl _
      · exact h.ahead x (List.mem_append_right _ (List.mem_cons_of_mem _ hx))
    · simp only [List.mem_append, List.mem_cons] at hx
      obtain hx | rfl | hx := hx
      · exact h.prompt x (List.mem_append_left _ hx) hquestion
      · rfl
      · exact h.prompt x (List.mem_append_right _ (List.mem_cons_of_mem _ hx)) hquestion
    · rw [List.pairwise_append, List.pairwise_cons]
      refine ⟨hbehind.1, ⟨fun y _ htimer => (by cases htimer), hbehind.2.1.2⟩, ?_⟩
      intro x hx y hy htimer
      -- a timer in front of it would be in front of a timer
      cases hbehind.2.2 x hx (now, .timer text) List.mem_cons_self htimer
  | ask hline hsend reply =>
    obtain ⟨now, draft, line, sends⟩ := σ
    dsimp only at hline ⊢
    subst hline
    clear hsend
    rename_i text rest
    have hrest : IsInOrder ⟨now, draft, rest, sends⟩ :=
      h.sublist (List.sublist_cons_self _ _) draft sends
    unfold expect
    split
    · refine ⟨List.pairwise_cons.mpr ⟨hrest.ahead, hrest.sorted⟩, fun x hx => ?_,
        fun x hx hquestion => ?_, List.pairwise_cons.mpr ⟨fun y _ htimer => ?_, hrest.behind⟩⟩
      · obtain rfl | hx := List.mem_cons.mp hx
        · exact Nat.le_refl _
        · exact hrest.ahead x hx
      · obtain rfl | hx := List.mem_cons.mp hx
        · cases hquestion
        · exact hrest.prompt x hx hquestion
      · cases htimer
    · exact hrest.insert (x := .verdict text reply.reaction) (Nat.le_add_right _ _) rfl
        fun htimer => by cases htimer
  | refuse hline =>
    refine h.sublist ?_ _ _
    rw [hline]
    exact List.sublist_cons_self _ _
  | hear hline =>
    refine h.sublist ?_ _ _
    rw [hline]
    exact List.sublist_cons_self _ _
  | close => exact h.sublist List.filter_sublist _ _

end Lane

end Workbench.Session
