import Workbench.Proofs.Session.Ledger

/-!
# Stints on given texts

What comes of a stretch of work of an activity that validates a given text, or that awaits the answer to
a transform: it ends, or it sleeps with less left to do, and the ledger is kept.
-/
namespace Workbench.Session

open Document (Draft)
open Service (Reaction Request)

variable {V : Type} {view : View V} {s t : Session V} {stage : Stage}

/-! ## Going through a stage -/

theorem run_follow_of_error (rest : List Action) (answers : List Answer) {f : Failure} (h : (Act.goOn view stage).run s = (.error f, t)) :
    (follow view rest stage answers).run s = (.error f, t) := by
  cases rest <;> (unfold follow; rw [Act.run_bind, h])

theorem run_follow_of_paused (rest : List Action) (answers : List Answer) {pause : Pause} {next : Stage}
    (h : (Act.goOn view stage).run s = (.ok (.paused pause next), t)) :
    (follow view rest stage answers).run s = (.ok (.paused pause ⟨next, rest, answers⟩), t) := by
  cases rest <;> (unfold follow; rw [Act.run_bind, h]; rfl)

theorem run_follow_of_done (answers : List Answer) {a : Answer}
    (h : (Act.goOn view stage).run s = (.ok (.done a), t)) :
    (follow view [] stage answers).run s = (.ok (.done (answers ++ [a])), t) := by
  unfold follow
  rw [Act.run_bind, h]
  rfl

/-- The next action is taken up. -/
theorem run_follow_cons (action : Action) (rest : List Action) (answers : List Answer) {a : Answer}
    (h : (Act.goOn view stage).run s = (.ok (.done a), t)) :
    (follow view (action :: rest) stage answers).run s =
      (follow view rest (.start action) (answers ++ [a])).run t := by
  conv_lhs => unfold follow
  rw [Act.run_bind, h]

/-! ## What comes of a stint -/

/-- How much is left to be done in a stage. -/
def Stage.work : Stage → Nat
  | .start _ => 5
  | .verdict .. | .drain => 3
  | _ => 1

/-- The stages of the validation of a text. -/
inductive Stage.IsOfVerdict : Stage → Prop
  | ask (d : Draft) (text : String) : IsOfVerdict (.start (.validate d.buffer text))
  | judge (d : Draft) (text : String) (r : Reaction) : IsOfVerdict (.verdict d text r)
  | outcome (generation : Nat) (requested : Bool) (r : Reaction) :
      IsOfVerdict (.outcome generation requested r)

theorem Stage.IsOfVerdict.work_pos (h : stage.IsOfVerdict) : 1 ≤ stage.work := by
  cases h <;> simp [work]

variable {given : Draft → Option String} {armed : Bool} {own : List Request} {H : Hands} {role : Role}
  {P : Stage → Prop} {work : Nat}

/-- What can come of a stint: an end, or a pause before a stage of some kind with less left to do. -/
inductive Comes (given : Draft → Option String) (armed : Bool) (own : List Request) (H : Hands)
    (role : Role) (P : Stage → Prop) (work : Nat) (t : Session V) : Except Failure Course → Prop
  | failed (f : Failure) (h : Keeps given armed own t H) :
      Comes given armed own H role P work t (.error f)
  | done (answers : List Answer) (h : Keeps given armed own t H) :
      Comes given armed own H role P work t (.ok (.done answers))
  | asleep (time : Nat) (next : Plan) (hstage : P next.stage) (hrest : next.rest = [])
      (hwork : next.stage.work + 2 ≤ work) (h : Keeps given armed own t (H.add role next.stage.hand)) :
      Comes given armed own H role P work t (.ok (.paused (.time time) next))

/-- All that becomes of the session is entered, and this comes of it. -/
structure Stint (view : View V) (given : Draft → Option String) (armed : Bool) (own : List Request)
    (H : Hands) (role : Role) (P : Stage → Prop) (work : Nat) (plan : Plan) (s : Session V) : Prop where
  enters : ∃ new, Enters new s ((follow view plan.rest plan.stage plan.answers).run s).2
  comes : Comes given armed own H role P work
    ((follow view plan.rest plan.stage plan.answers).run s).2
    ((follow view plan.rest plan.stage plan.answers).run s).1

/-- The ledger is kept, whatever is in hand then beside the drafts; and it ends, or sleeps until a stage
of some kind. -/
structure Act.Closes (given : Draft → Option String) (armed : Bool) (own : List Request) (H : Hands)
    (role : Role) (P : Stage → Prop) (x : Act V Progress) (s : Session V) : Prop where
  enters : ∃ new, Enters new s (x.run s).2
  keeps : ∀ k : Hand, k.text? = none → Keeps given armed own (x.run s).2 (H.add role k)
  result : ∀ a, (x.run s).1 = .ok a → a.Rests P

theorem Act.Calls.closes {x : Act V Progress} {calls : List Request} {k : Hand}
    (h : Act.Calls calls (Progress.Rests P) x s) (hs : Keeps given armed own s (H.add role k))
    (hk : k.text? = none) : x.Closes given armed (own ++ calls) H role P s := by
  obtain ⟨new, henters, -⟩ := h.beside.enters
  exact ⟨⟨new, henters⟩, fun k' hk' => (hs.change hk hk').beside h.beside, h.result⟩

theorem Act.Judges.closes {x : Act V Progress} {d : Draft} {text : String} {r : Reaction}
    (h : Act.Judges d text r x s) (hs : Keeps given armed [] s (H.add role (.judging d text r))) :
    x.Closes given armed [] H role Stage.IsOutcome s := by
  obtain ⟨t, hjudged, hbeside⟩ := h.heard
  obtain ⟨new, henters, -⟩ := hbeside.enters
  exact ⟨⟨_, hjudged.toEnters.trans henters⟩, fun k hk => hs.judge rfl hjudged hbeside hk, h.result⟩

theorem Act.Closes.stint {Q : Stage → Prop} (stage : Stage)
    (h : (Act.goOn view stage).Closes given armed own H role P s)
    (hP : ∀ next, P next → Q next ∧ next.work + 2 ≤ work ∧ next.hand.text? = none)
    (answers : List Answer) : Stint view given armed own H role Q work ⟨stage, [], answers⟩ s := by
  obtain ⟨henters, hkeeps, hresult⟩ := h
  have hfree : Keeps given armed own ((Act.goOn view stage).run s).2 H := hkeeps .free rfl
  rcases hrun : (Act.goOn view stage).run s with ⟨result, t⟩
  rw [hrun] at henters hkeeps hresult hfree
  dsimp only at henters hkeeps hresult hfree
  cases result with
  | error f =>
    have hfollow := run_follow_of_error [] answers hrun
    refine ⟨?_, ?_⟩ <;> dsimp only <;> rw [hfollow]
    · exact henters
    · exact .failed f hfree
  | ok progress =>
    cases progress with
    | done a =>
      have hfollow := run_follow_of_done answers hrun
      refine ⟨?_, ?_⟩ <;> dsimp only <;> rw [hfollow]
      · exact henters
      · exact .done _ hfree
    | paused pause next =>
      have hrests := hresult _ rfl
      cases pause with
      | activities others => exact hrests.elim
      | time duration =>
        have hfollow := run_follow_of_paused [] answers hrun
        obtain ⟨hstage, hwork, htext⟩ := hP next hrests
        refine ⟨?_, ?_⟩ <;> dsimp only <;> rw [hfollow]
        · exact henters
        · exact .asleep duration ⟨next, [], answers⟩ hstage rfl hwork (hkeeps next.hand htext)

/-! ## The stints while a session settles -/

theorem Stage.IsOutcome.rests {next : Stage} (h : next.IsOutcome) :
    next.IsOfVerdict ∧ next.work = 1 ∧ next.hand.text? = none := by
  obtain ⟨generation, requested, r, rfl⟩ := h
  exact ⟨.outcome .., rfl, rfl⟩

variable (hview : ¬ View.CanBreak view) (hnone : s.attached .output = none)

include hview hnone

/-- The answer to a transform comes. -/
theorem stint_outcome {generation : Nat} {r : Reaction}
    (hs : Keeps given armed own s (H.add role (.awaiting generation r))) (requested : Bool)
    (P : Stage → Prop) (work : Nat) (answers : List Answer) :
    Stint view given armed own H role P work ⟨.outcome generation requested r, [], answers⟩ s := by
  have hcalls := Act.calls_finishTransform hview hnone (fun _ => False) generation requested r
  have hcloses := hcalls.closes hs rfl
  rw [List.append_nil] at hcloses
  exact Act.Closes.stint (.outcome generation requested r) hcloses (fun _ h => h.elim) answers

/-- A transform is asked for at the end. -/
theorem stint_requestTransform (hsend : missing? s.store = none → s.client.canSend .transform = true)
    (hs : Keeps given armed [] s H) (role : Role) (answers : List Answer) :
    Stint view given armed
      (if (missing? s.store).isNone then (Request.transform? s.request).toList else []) H role
      Stage.IsOutcome 3 ⟨.start .requestTransform, [], answers⟩ s := by
  have hcloses : (Act.goOn view (.start .requestTransform)).Closes given armed _ H role _ s :=
    (Act.calls_requestTransform hview hnone hsend).closes (k := .free) hs rfl
  exact hcloses.stint _ (fun next h => ⟨h, by rw [h.rests.2.1], h.rests.2.2⟩) answers

omit hnone in
/-- The validation of a text goes on. -/
theorem stint_verdict {asks : Bool} (hserves : Serves given armed asks s) (hstage : stage.IsOfVerdict) (hs : Keeps given armed [] s (H.add role stage.hand))
    (answers : List Answer) :
    Stint view given armed [] H role Stage.IsOfVerdict stage.work ⟨stage, [], answers⟩ s := by
  have hless {n : Nat} (hn : 3 ≤ n) (next : Stage) (h : next.IsOutcome) :
      next.IsOfVerdict ∧ next.work + 2 ≤ n ∧ next.hand.text? = none :=
    ⟨h.rests.1, by rw [h.rests.2.1]; exact hn, h.rests.2.2⟩
  cases hstage with
  | outcome generation requested r => exact stint_outcome hview hserves.silent hs requested _ _ answers
  | judge d text r =>
    have hcloses := (Act.judges_finishValidation hview hserves.silent d text r
      (hserves.transforms_of_isPrimed hs)).closes hs
    exact Act.Closes.stint (.verdict d text r) hcloses (hless (by simp [Stage.work])) answers
  | ask d text =>
    have hhand : (Stage.start (.validate d.buffer text)).hand = .asking d text := by simp [Stage.hand]
    rw [hhand] at hs
    have hnamed : text ∈ textsOf given d := hs.named _ (Hands.mem_add_self (by simp)) d text rfl
    have hcan := hserves.validates d (List.ne_nil_of_mem hnamed)
    obtain ⟨out, reply, t, hout, hadds, hlater | hnow⟩ := Act.run_validate view hcan text
    · have hgoOn : (Act.goOn view (.start (.validate d.buffer text))).run s = _ := hlater
      have hfollow := run_follow_of_paused [] answers hgoOn
      refine ⟨?_, ?_⟩ <;> dsimp only <;> rw [hfollow]
      · exact ⟨_, hadds.toEnters⟩
      · exact .asleep _ _ (.judge d text reply.reaction) rfl (by simp [Stage.work]) (hs.ask hout hadds)
    · have hserves' := hserves.of_eq hadds.attached hadds.client
      have hcloses := (Act.judges_finishValidation hview hserves'.silent d text reply.reaction
        (hserves'.transforms_of_isPrimed (hs.ask hout hadds))).closes (hs.ask hout hadds)
      obtain ⟨new, hnew⟩ := hcloses.enters
      have hgoOn : (Act.goOn view (.start (.validate d.buffer text))).Closes given armed [] H role
          Stage.IsOutcome s := by
        have hrun : (Act.goOn view (.start (.validate d.buffer text))).run s = _ := hnow
        refine ⟨?_, ?_, ?_⟩ <;> rw [hrun]
        · exact ⟨_, hadds.toEnters.trans hnew⟩
        · exact hcloses.keeps
        · exact hcloses.result
      exact hgoOn.stint _ (hless (by simp [Stage.work])) answers

end Workbench.Session
