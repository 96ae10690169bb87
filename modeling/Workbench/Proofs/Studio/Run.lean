import Workbench.Proofs.Session.Shift
import Workbench.Proofs.Studio.Telling

/-!
# The studio never shows stale state

A studio goes from one callback of its event loop to the next: a job of its session is done, time
passes, or the user does something. After each of them all that is shown is what the session holds.
-/
namespace Workbench.Studio

open Document (Buffer Draft)
open Session
open Turn (Activity Board Job Machine Phase)

variable {settings : Settings} {s t : Session Screen}

/-! ## Jobs -/

theorem IsPhaseOfStudio.goOn {q r : Phase Plan} (h : IsPhaseOfStudio q)
    (hplan : r.plan? = q.plan?) : IsPhaseOfStudio r := fun plan hr => h plan (hplan ▸ hr)

/-- The board has changed, but still only what the studio asks for is on it. -/
theorem IsFresh.of_board (h : IsFresh settings s) {board : Board Role Plan Draft}
    (heach : board.Each fun _ => IsPhaseOfStudio) : IsFresh settings { s with board } :=
  ⟨⟨⟨h.fixed, h.watched, h.attached, h.editor, heach, h.split⟩, h.text, h.tree⟩, h.lines⟩

theorem IsFresh.finish (h : IsFresh settings s) (a : Activity Role Plan)
    (result : Except Failure (List Answer)) : IsFresh settings (s.finish a result) := by
  have hended (failure : Option Failure) :
      IsFresh settings { s with board := s.board.finish a.id failure } :=
    h.of_board (h.each.finish fun _ _ _ plan hplan => by cases hplan)
  unfold Session.finish
  cases result <;> cases a.role <;>
    exact (hended _).of_same ⟨rfl, rfl, rfl, rfl, rfl, rfl⟩ rfl

theorem IsFresh.suspend (h : IsFresh settings s) (a : Activity Role Plan) {next : Plan}
    (hnext : IsPlanOfStudio next) (pause : Pause) : IsFresh settings (s.suspend a next pause) := by
  have hphase {q : Phase Plan} (hq : q.plan? = some next) : IsPhaseOfStudio q := by
    intro plan hplan
    cases hq.symm.trans hplan
    exact hnext
  cases pause with
  | time duration => exact h.of_board (h.each.setPhase fun _ _ _ => hphase rfl)
  | activities others => exact h.of_board (h.each.await fun _ _ _ => hphase rfl)

theorem IsFresh.proceed (h : IsFresh settings s) {a : Activity Role Plan}
    (ha : a ∈ s.board.activities) :
    IsFresh settings (s.proceed (Screen.follow settings) a) := by
  unfold Session.proceed
  split
  case h_2 => exact h
  case h_1 plan hphase =>
    obtain ⟨hstage, hrest⟩ := h.each a ha plan (by rw [hphase]; rfl)
    have hgoOn := endsFresh_goOn h hstage
    rw [hrest]
    unfold Session.follow
    rw [Act.run_bind]
    rcases hrun : (Act.goOn (Screen.follow settings) plan.stage).run s with ⟨f | p, t⟩
    · exact (hgoOn.error f t hrun).finish a _
    · obtain ⟨ht, hp⟩ := hgoOn.ok p t hrun
      cases p with
      | done answer => exact ht.finish a _
      | paused pause next =>
        have hnext : IsPlanOfStudio ⟨next, [], plan.answers⟩ := ⟨hp, rfl⟩
        exact ht.suspend a hnext pause

theorem IsFresh.leave (h : IsFresh settings s) (a : Activity Role Plan) :
    IsFresh settings (s.leave a) := by
  have hleft : IsFresh settings { s with board := s.board.remove a.id } :=
    h.of_board (h.each.remove a.id)
  unfold Session.leave
  split
  · exact hleft.of_same (sameWiring_noteAll _ [_]) rfl
  · exact hleft.of_same (sameWiring_noteAll _ [_]) rfl
  · exact hleft

theorem IsFresh.fire (h : IsFresh settings s) (d : Draft) : IsFresh settings (s.fire d) := by
  unfold Session.fire
  split
  case h_1 text scheduler _ =>
    have hplan : IsPlanOfStudio { stage := .start (.validate d.buffer text) } :=
      ⟨by cases d <;> rfl, rfl⟩
    exact (h.spawn hplan s.known).of_same ⟨rfl, rfl, rfl, rfl, rfl, rfl⟩ rfl
  case h_2 => exact h

theorem IsFresh.job (h : IsFresh settings s) (hs : s.board.IsSound) (j : Job Draft) :
    IsFresh settings (Session.perform (Screen.follow settings) s j) := by
  cases j with
  | run id =>
    unfold Session.perform
    dsimp only
    cases hfind : s.board.find? id with
    | none => exact h
    | some a => exact h.proceed (List.mem_of_find?_eq_some hfind)
  | wake id => exact h.of_board (h.each.wake hs id fun _ _ hq => hq.goOn rfl)
  | count id =>
    exact h.of_board (h.each.count hs id (fun _ _ _ _ hq => hq.goOn rfl) fun _ _ _ hq => hq.goOn rfl)
  | ended id =>
    unfold Session.perform
    dsimp only
    cases s.board.find? id with
    | none => exact h
    | some a => exact h.leave a
  | fire d => exact h.fire d

theorem IsFresh.step (h : IsFresh settings s) (hs : s.board.IsSound)
    (hstep : s.step (Screen.follow settings) = some t) : IsFresh settings t := by
  obtain ⟨⟨j, board⟩, hnext, rfl⟩ := Option.map_eq_some_iff.mp hstep
  have hpassed : IsFresh settings { s with board } :=
    h.of_board (h.each.of_eq (Board.activities_of_next? hnext))
  exact hpassed.job (hs.retimed (Board.retimed_of_next? hnext)) j

/-! ## What the user does -/

/-- What can happen next to a studio that is on the screen. The user types into the text areas of
the drafts; that of the output is only read. Replies come as the service gives them, and the service
may change. -/
inductive Next : Studio → Studio → Prop
  | job {a session} (h : a.session.step a.view = some session) : Next a { a with session }
  | wait (a time) :
      Next a { a with session := { a.session with board := a.session.board.moveTo time } }
  | type (a) (d : Draft) (text) : Next a (a.type (editorName d.buffer) text)
  | press (a b) : Next a (a.press b)
  | perform (a c) : Next a (a.perform c)
  | setArmed (a armed) : Next a (a.setArmed armed)
  | focus (a focus) : Next a { a with focus }
  | service (a server) : Next a { a with session := { a.session with server } }
  | unmount (a) : Next a a.unmount

/-- A stretch of the life of a studio. -/
abbrev Run : Studio → Studio → Prop := Relation.ReflTransGen Studio.Next

variable {a b : Studio}

/-- All that a studio shows is what its session holds. -/
structure IsUpToDate (a : Studio) : Prop where
  input : a.session.view.inputStatus = some (Display.statusLine a.session.store.input.status)
  spec : a.session.view.specStatus = some (Display.statusLine a.session.store.spec.status)
  output : a.session.view.outputStatus = some (Display.statusLine a.session.store.outputStatus)
  metrics : a.session.view.metrics = some (Screen.metricsLine a.session.store)
  /-- The editor of the output shows the output. -/
  text : ∃ e, a.session.editors.find? (editorName .output) = some e ∧
    e.value = a.session.store.outputText
  tree : a.session.view.treeVisible = true → a.session.view.tree = some a.session.treeView
  /-- The tree is hidden if it is not to be visible, and else the raw text. -/
  treeHidden : a.session.view.treeHidden = !a.session.view.treeVisible
  rawHidden : a.session.view.rawHidden = !a.session.view.treeHidden

theorem IsFresh.isUpToDate (h : IsFresh settings a.session) : a.IsUpToDate where
  input := h.lines.input
  spec := h.lines.spec
  output := h.lines.output
  metrics := h.lines.metrics
  text := Option.map_eq_some_iff.mp h.text
  tree hvisible := by
    obtain rfl := h.fixed
    exact h.tree hvisible
  treeHidden := h.split.tree
  rawHidden := by rw [h.split.tree, h.split.raw, Bool.not_not]

theorem IsFresh.toggleView (h : IsFresh settings a.session) :
    IsFresh settings a.toggleView.session := by
  obtain rfl := h.fixed
  have hwired : IsWired a.session.settings (a.draw Screen.toggle).session :=
    ⟨h.fixed, h.watched, h.attached, h.editor, h.each, .toggle _⟩
  unfold Studio.toggleView
  dsimp only
  split
  case isTrue =>
    exact ⟨⟨⟨hwired.fixed, hwired.watched, hwired.attached, hwired.editor, hwired.each,
      ⟨rfl, rfl⟩⟩, h.text, fun _ => rfl⟩,
      ⟨h.lines.input, h.lines.spec, h.lines.output, h.lines.metrics⟩⟩
  case isFalse hhidden =>
    exact ⟨⟨hwired, h.text, fun hvisible => absurd hvisible hhidden⟩,
      ⟨h.lines.input, h.lines.spec, h.lines.output, h.lines.metrics⟩⟩

theorem IsFresh.launch (h : IsFresh settings a.session) {action : Action}
    (haction : isOfStudio action = true) : IsFresh settings (a.launch action).session :=
  have hplan : IsPlanOfStudio { stage := .start action } := ⟨haction, rfl⟩
  (h.spawn hplan a.session.known).of_same ⟨rfl, rfl, rfl, rfl, rfl, rfl⟩ rfl

theorem IsFresh.press (h : IsFresh settings a.session) (b : Button) :
    IsFresh settings (a.press b).session := by
  cases b with
  | transform => exact h.launch rfl
  | view => exact h.toggleView
  | format d => exact h.launch rfl
  | clear d => exact h.launch rfl

theorem IsFresh.perform (h : IsFresh settings a.session) (c : Command) :
    IsFresh settings (a.perform c).session := by
  cases c with
  | transform => exact h.launch rfl
  | toggleView => exact h.toggleView
  | format =>
    unfold Studio.perform
    dsimp only
    split
    · exact h.launch rfl
    · exact h

theorem IsFresh.close (h : IsFresh settings s) : IsFresh settings s.close :=
  h.of_same ⟨rfl, rfl, rfl, rfl, Board.activities_disarmAll _ _, rfl⟩ rfl

/-! ## The studio and its session -/

/-- What happens to a studio is nothing else than what may happen to any session. -/
theorem Next.session (h : Studio.Next a b) (view : Session.View Screen) (hview : a.view = view) :
    Session.Run view a.session b.session := by
  have hlaunch (a : Studio) (action : Action) (haction : action.isFair = true) :
      Session.Run view a.session (a.launch action).session :=
    .single (.launch _ _ (List.forall_mem_singleton.mpr haction))
  have htoggle (a : Studio) : Session.Run view a.session a.toggleView.session := by
    unfold Studio.toggleView
    dsimp only
    split <;> exact .single (.around ⟨rfl, rfl, rfl, rfl, rfl⟩)
  cases h with
  | job h => exact .single (.job (hview ▸ h))
  | wait time => exact .single (.wait _ time)
  | type d text => exact .single (.type _ _ text)
  | press b =>
    cases b with
    | view => exact htoggle a
    | _ => exact hlaunch a _ rfl
  | perform c =>
    cases c with
    | transform => exact hlaunch a _ rfl
    | toggleView => exact htoggle a
    | format =>
      unfold Studio.perform
      dsimp only
      split
      · exact hlaunch a _ rfl
      · exact .refl
  | setArmed armed => exact hlaunch a _ rfl
  | focus => exact .refl
  | service server => exact .single (.around ⟨rfl, rfl, rfl, rfl, rfl⟩)
  | unmount => exact .single (.close _)

/-- One callback of the event loop leaves all that is shown as it should be. -/
theorem IsFresh.next (h : IsFresh settings a.session) (hs : a.session.IsOrderly)
    (hnext : Studio.Next a b) : IsFresh settings b.session := by
  cases hnext with
  | job hstep =>
    have hview : a.view = Screen.follow settings := by rw [Studio.view, h.fixed]
    exact h.step hs.sound (hview ▸ hstep)
  | wait time => exact h.of_board h.each
  | type d text => exact h.typeInto d text
  | press b => exact h.press b
  | perform c => exact h.perform c
  | setArmed armed => exact h.launch rfl
  | focus => exact h
  | service server => exact h.of_same ⟨rfl, rfl, rfl, rfl, rfl, rfl⟩ rfl
  | unmount => exact h.close

/-! ## Coming on the screen -/

/-- Editors that show what their buffers hold are attached one after the other. -/
theorem foldl_attach (bs : List Buffer) (s : Session Screen)
    (hvalue : ∀ b ∈ bs, s.editors.value? (editorName b) = some (s.store.text b)) :
    ∃ editors known, (∀ n, editors.value? n = s.editors.value? n) ∧
      bs.foldl (fun s b => s.attach b (editorName b)) s =
        { s with
          attached := fun b => if b ∈ bs then some (editorName b) else s.attached b
          editors, known } := by
  induction bs generalizing s with
  | nil => exact ⟨s.editors, s.known, fun _ => rfl, by simp⟩
  | cons b bs ih =>
    obtain ⟨hb, hbs⟩ := List.forall_mem_cons.mp hvalue
    obtain ⟨editors, known, hsame, hattach⟩ := attach_eq s hb
    obtain ⟨editors', known', hsame', hfold⟩ := ih (s.attach b (editorName b)) fun c hc => by
      rw [hattach]
      exact (hsame _).trans (hbs c hc)
    rw [hattach] at hsame' hfold
    refine ⟨editors', known', fun n => (hsame' n).trans (hsame n), ?_⟩
    rw [List.foldl_cons, hattach, hfold]
    congr 1
    funext c
    by_cases hc : c ∈ bs
    · simp [hc]
    · by_cases hcb : c = b <;> simp [hc, hcb]

theorem run_foldl_attach (view : View Screen) (bs : List Buffer) (s : Session Screen) :
    Session.Run view s (bs.foldl (fun s b => s.attach b (editorName b)) s) := by
  induction bs generalizing s with
  | nil => exact .refl
  | cons b bs ih => exact .head (.attach s b _) (ih _)

theorem value?_textArea (b : Buffer) :
    Editors.value? (buffers.map fun b => (editorName b, textArea b)) (editorName b) = some "" := by
  cases b <;> decide

/-- A new studio that has come on the screen. -/
def opened (settings : Settings) (window : Nat) (armed : Bool) (client : Service.Client)
    (server : Service.Server) : Studio :=
  let a := Studio.new settings window armed client server
  a.mount.toOption.getD a

section Opened

variable (settings : Settings) (window : Nat) (armed : Bool) (client : Service.Client)
  (server : Service.Server)

/-- A new studio can always come on the screen. -/
theorem mount_new : (Studio.new settings window armed client server).mount =
    .ok (opened settings window armed client server) := rfl

/-- Then all is as it should be. -/
theorem isFresh_opened : IsFresh settings (opened settings window armed client server).session := by
  let new : Session Screen := (Studio.new settings window armed client server).session
  let session := buffers.foldl (fun s b => s.attach b (editorName b)) { new with watched := true }
  let shown : Session Screen := { session with view := Screen.refresh session.store session.view }
  change IsFresh settings shown
  obtain ⟨editors, known, hvalue, hsession⟩ := foldl_attach buffers { new with watched := true }
    fun b _ => by
      rw [show new.store.text b = "" by cases b <;> rfl]
      exact value?_textArea b
  have hall (b : Buffer) : b ∈ buffers := by cases b <;> decide
  have heditor : editors.value? (editorName .output) = some "" :=
    (hvalue _).trans (value?_textArea .output)
  have hwired : IsWired settings shown := by
    simp only [shown, session, hsession]
    exact ⟨rfl, rfl, fun b => if_pos (hall b), Option.isSome_of_eq_some heditor,
      fun _ ha => absurd ha List.not_mem_nil, ⟨rfl, rfl⟩⟩
  have hlines : shown.view.ShowsLines shown.store :=
    Screen.showsLines_refresh session.store session.view
  refine ⟨⟨hwired, ?_, ?_⟩, hlines⟩
  · simp only [shown, session, hsession]
    exact heditor
  · simp only [shown, session, hsession]
    exact nofun

theorem isOrderly_opened : (opened settings window armed client server).session.IsOrderly := by
  let new : Session Screen := (Studio.new settings window armed client server).session
  have hattach := run_foldl_attach (Screen.follow settings) buffers { new with watched := true }
  have hrun : Session.Run (Screen.follow settings)
      (.new settings window armed client server false false {})
      (opened settings window armed client server).session :=
    .head (.around (t := { new with watched := true }) ⟨rfl, rfl, rfl, rfl, rfl⟩)
      (hattach.tail (.around ⟨rfl, rfl, rfl, rfl, rfl⟩))
  exact (hrun.byShifts (isOrderly_new ..)).1

end Opened

/-! ## The whole life of a studio -/

theorem Run.fresh (hrun : Studio.Run a b) (h : IsFresh settings a.session)
    (hs : a.session.IsOrderly) : IsFresh settings b.session ∧ b.session.IsOrderly := by
  induction hrun with
  | refl => exact ⟨h, hs⟩
  | tail _ hnext ih => exact ⟨ih.1.next ih.2 hnext, ((hnext.session _ rfl).byShifts ih.2).1⟩

/-- A studio goes by itself from job to job, and from alarm to alarm. -/
theorem run_iterate (h : IsFresh settings a.session) (hs : a.session.IsOrderly)
    (mayMove : Session Screen → Nat → Bool) (budget : Nat) :
    Studio.Run a { a with
      session := Machine.iterate ((machine (Screen.follow settings)).stepOrMove mayMove) budget
        a.session } := by
  induction budget generalizing a with
  | zero => exact .refl
  | succ budget ih =>
    unfold Machine.iterate
    split
    case h_1 t ht =>
      have hview : a.view = Screen.follow settings := by rw [Studio.view, h.fixed]
      have hnext : Studio.Next a { a with session := t } := by
        obtain hjob | ⟨time, rfl⟩ := Session.Run.stepOrMove_cases ht
        · exact .job (hview ▸ hjob)
        · exact .wait a time
      obtain ⟨ht, hs'⟩ := Run.fresh (.single hnext) h hs
      exact .head hnext (ih ht hs')
    case h_2 => exact .refl

theorem run_passTo (h : IsFresh settings a.session) (hs : a.session.IsOrderly)
    (budget time : Nat) : Studio.Run a (a.run fun m s => m.passTo budget time s) := by
  have hview : a.view = Screen.follow settings := by rw [Studio.view, h.fixed]
  unfold Studio.run
  rw [hview]
  exact (run_iterate h hs _ budget).tail (.wait _ time)

/-- Whatever happens to a studio that has come on the screen, what it shows is never stale. -/
theorem shows_no_stale_state {window : Nat} {armed : Bool} {client : Service.Client}
    {server : Service.Server}
    (hmount : (Studio.new settings window armed client server).mount = .ok a)
    (hrun : Studio.Run a b) : b.IsUpToDate := by
  cases (mount_new ..).symm.trans hmount
  exact (Run.fresh hrun (isFresh_opened ..) (isOrderly_opened ..)).1.isUpToDate

/-- A studio of a service that makes `2` of everything: the output is to be shown as a tree, the user
types into both drafts, and a second passes. -/
def typedStudio : Studio :=
  let a := opened (localSession easyServer 0 true).settings 300000 true localClient easyServer
  let typed := ((a.press .view).type (editorName .input) "1").type (editorName .spec) "1"
  typed.run fun m s => m.passTo 100 1000000 s

/-- The tree shows the output of the transform that has started by itself. -/
theorem shows_no_stale_state_after_transform :
    (Studio.new (localSession easyServer 0 true).settings 300000 true localClient easyServer).mount =
        .ok (opened (localSession easyServer 0 true).settings 300000 true localClient easyServer) ∧
      typedStudio.session.store.outputText = "2" ∧ typedStudio.session.view.treeVisible = true ∧
      typedStudio.IsUpToDate := by
  let settings := (localSession easyServer 0 true).settings
  let a := opened settings 300000 true localClient easyServer
  let typed := ((a.press .view).type (editorName .input) "1").type (editorName .spec) "1"
  have htyped : Studio.Run a typed :=
    .head (.press a .view) (.head (.type _ .input "1") (.single (.type _ .spec "1")))
  have hrun : Studio.Run a typedStudio := by
    obtain ⟨hfresh, horderly⟩ := Run.fresh htyped (isFresh_opened ..) (isOrderly_opened ..)
    exact htyped.trans (run_passTo hfresh horderly 100 1000000)
  exact ⟨mount_new .., by decide +kernel, by decide +kernel,
    shows_no_stale_state (mount_new ..) hrun⟩

end Workbench.Studio
