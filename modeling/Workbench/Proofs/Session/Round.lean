import Workbench.Proofs.Session.Touch
import Workbench.Proofs.Session.Orderly

/-!
# Changes in editors, turn by turn

Changes in editors wait in line to be applied, and go on in the order in which they came. What is
kept by all touches that may occur in a session, by all that is done with its activities, and by
applying the change that stands in front, is kept by every turn. Main definitions: `IsQueue`, what
the line is like, and `Upholds`, what has to be seen to.
-/
namespace Workbench.Session

open Document (Buffer Draft Store)
open Turn (Activity Board Job Phase)

variable {V : Type} {view : View V} {σ : Scope} {s t : Session V}

/-- Is it a change in an editor? -/
def Role.isEdit (role : Role) : Bool := role == .edit

/-- The activities that are to apply a change in an editor. -/
abbrev changes (s : Session V) : List (Nat × Plan) := s.board.upcoming Role.isEdit

/-! ## A change in an editor is applied -/

/-- What an activity does that applies a change in an editor. -/
def Plan.ofEditor (d : Draft) (text : String) : Plan :=
  { stage := .start (.dispatch (.edited d.buffer text true)) }

/-- The draft gets the text, and the view is told of it; there is nothing to wait for. -/
theorem run_ofEditor (view : View V) (d : Draft) (s : Session V) (text : String) :
    ∃ u t result, Still s u ∧ Still (u.putText d text) t ∧
      (follow view [] (Plan.ofEditor d text).stage []).run s = (result, t) ∧
      ∀ pause next, result ≠ .ok (.paused pause next) := by
  let e : Event := .edited d.buffer text true
  let u := s.note (Bus.dispatchNote e)
  have hnote : Still s u := ⟨⟨rfl, rfl, rfl, rfl, rfl⟩, rfl, rfl, rfl⟩
  have hedit : (Act.goOn view (Plan.ofEditor d text).stage).run s =
      (Act.announceState view d.buffer >>= fun _ => pure (.done .nothing)).run
        (u.putText d text) := by
    have hhandle : (Act.goOn view (Plan.ofEditor d text).stage).run s =
        (Act.handleEdit view e).run u := rfl
    rw [hhandle]
    cases d <;> rfl
  have htold := (Act.isQuiet_announceState d.buffer : Act.IsQuiet view _).still (u.putText d text)
  unfold follow
  rw [Act.run_bind, hedit, Act.run_bind]
  rcases hr : (Act.announceState view d.buffer).run (u.putText d text) with ⟨f | _, t⟩
  · rw [hr] at htold
    exact ⟨u, t, .error f, hnote, htold, rfl, by simp⟩
  · rw [hr] at htold
    exact ⟨u, t, .ok (.done [.nothing]), hnote, htold, rfl, by simp⟩

theorem sameLine_putText (s : Session V) (e : Draft) (text : String) :
    Board.SameLine s.board (s.putText e text).board := by
  have hboard := congrArg Prod.snd (timers_putText s e text)
  dsimp only at hboard
  rw [hboard]
  split
  · exact Board.sameLine_disarm s.board e
  · exact (Board.sameLine_disarm s.board e).trans (Board.sameLine_arm _ _ e)

/-- A draft has got a text, and nothing else has become of the editors and of the other texts. -/
structure Served (d : Draft) (text : String) (s t : Session V) : Prop where
  editors : t.editors = s.editors
  attached : t.attached = s.attached
  known : t.known = s.known
  texts : ∀ e, (t.store.draft e).text = if d = e then text else (s.store.draft e).text
  history : ∃ time, t.history.filter Happening.isOfTexts =
    s.history.filter Happening.isOfTexts ++ [.edited time d text]

theorem served_putText (s : Session V) (d : Draft) (text : String) :
    Served d text s (s.putText d text) := by
  obtain ⟨heditors, hattached, hknown⟩ := desk_putText s d text
  refine ⟨heditors, hattached, hknown, fun e => ?_, s.board.now, ?_⟩
  · rw [draft_putText, apply_ite Document.DraftState.text]
    rfl
  · rw [history_putText, List.filter_append]
    rfl

theorem Served.trans {d : Draft} {text : String} {u : Session V} (h : Served d text s t)
    (h' : SameBench t u) : Served d text s u := by
  obtain ⟨time, hhistory⟩ := h.history
  exact ⟨h'.editors.trans h.editors, h'.attached.trans h.attached, h'.known.trans h.known,
    fun e => (h'.text e).trans (h.texts e), time, h'.history.trans hhistory⟩

/-! ## The texts that are still to be applied -/

theorem text_draft (st : Store) (d : Draft) : (st.draft d).text = st.text d.buffer := by
  cases d <;> rfl

theorem backlog_eq (s : Session V) (d : Draft) :
    s.backlog d = s.changes.filterMap (·.2.stage.editorText? d) := by
  simp only [backlog, pendingEdits, Board.withRole, Board.upcoming, List.filterMap_filter,
    List.filterMap_filterMap]
  refine List.filterMap_congr fun a _ => ?_
  unfold Turn.Activity.upcoming? Role.isEdit Phase.ready?
  cases a.role == Role.edit <;> cases a.phase <;> rfl

theorem backlog_congr (h : t.changes = s.changes) (d : Draft) : t.backlog d = s.backlog d := by
  rw [backlog_eq, backlog_eq, h]

@[simp]
theorem editorText?_ofEditor (d : Draft) (text : String) :
    (Plan.ofEditor d text).stage.editorText? d = some text := by
  simp [Plan.ofEditor, Stage.editorText?, Event.edited]

theorem editorText?_ofEditor_of_ne {d e : Draft} (h : e ≠ d) (text : String) :
    (Plan.ofEditor e text).stage.editorText? d = none := by
  have hbuffer : e.buffer ≠ d.buffer := by
    cases d <;> cases e <;> first | exact absurd rfl h | decide
  simp [Plan.ofEditor, Stage.editorText?, Event.edited, hbuffer]

theorem backlog_spawn {role : Role} {plan : Plan} (h : t.board = s.board.spawn role plan)
    (d : Draft) : t.backlog d =
      s.backlog d ++ if role.isEdit then (plan.stage.editorText? d).toList else [] := by
  rw [backlog_eq, backlog_eq, changes, h, Board.upcoming_spawn, List.filterMap_append]
  congr 1
  cases role.isEdit
  · rfl
  · cases hedit : plan.stage.editorText? d <;> simp [hedit]

/-- The change that stands in front is the first of those in the editor of its draft. -/
theorem backlog_front {id : Nat} {e : Draft} {text : String}
    (h : s.changes = (id, .ofEditor e text) :: t.changes) (d : Draft) :
    s.backlog d = if e = d then text :: t.backlog d else t.backlog d := by
  rw [backlog_eq, backlog_eq, h]
  split
  case isTrue hd =>
    subst hd
    exact List.filterMap_cons_some (editorText?_ofEditor e text)
  case isFalse hd =>
    simp only [List.filterMap_cons, editorText?_ofEditor_of_ne hd]

/-! ## The line -/

/-- What an activity can have to do: a change in an editor is applied as soon as it is its turn, and
nothing else is such a change. -/
def Scope.Allows (σ : Scope) (role : Role) (q : Phase Plan) : Prop :=
  if role.isEdit then (∃ d text, q = .ready (.ofEditor d text)) ∨ ∃ failure, q = .over failure
  else ∀ plan, q.plan? = some plan → plan.Within σ

theorem Scope.allows_of_role {role : Role} {q : Phase Plan} (hrole : role.isEdit = false)
    (h : ∀ plan, q.plan? = some plan → plan.Within σ) : σ.Allows role q := by
  rw [Allows, if_neg (by simp [hrole])]
  exact h

theorem Scope.Allows.plan {role : Role} {q : Phase Plan} (h : σ.Allows role q)
    (hrole : role.isEdit = false) {plan : Plan} (hplan : q.plan? = some plan) :
    plan.Within σ := by
  rw [Scope.Allows, if_neg (by simp [hrole])] at h
  exact h plan hplan

theorem Scope.allows_over (role : Role) (failure : Option Failure) :
    σ.Allows role (.over failure) := by
  unfold Allows
  split
  · exact .inr ⟨failure, rfl⟩
  · intro plan hplan
    cases hplan

theorem Scope.allows_ofEditor (d : Draft) (text : String) :
    σ.Allows .edit (.ready (.ofEditor d text)) := .inl ⟨d, text, rfl⟩

theorem Scope.Allows.isEdit_eq_false {role : Role} {q : Phase Plan} (h : σ.Allows role q)
    (hready : ∀ next, q ≠ .ready next) (hover : ∀ failure, q ≠ .over failure) :
    role.isEdit = false := by
  cases hrole : role.isEdit with
  | false => rfl
  | true =>
    rw [Scope.Allows, if_pos hrole] at h
    obtain ⟨d, text, rfl⟩ | ⟨failure, rfl⟩ := h
    · exact absurd rfl (hready _)
    · exact absurd rfl (hover _)

/-- What an activity may do that waits it may do when it goes on, or waits on. -/
theorem Scope.Allows.goOn {role : Role} {q r : Phase Plan} (h : σ.Allows role q)
    (hready : ∀ next, q ≠ .ready next) (hover : ∀ failure, q ≠ .over failure)
    (hplan : r.plan? = q.plan?) : σ.Allows role r := by
  have hrole := h.isEdit_eq_false hready hover
  exact Scope.allows_of_role hrole fun plan hr => h.plan hrole (hplan ▸ hr)

/-- The changes in editors stand in line in the order in which they came. -/
structure IsQueue (σ : Scope) (s : Session V) : Prop where
  line : s.board.IsFirstCome Role.isEdit s.changes
  each : s.board.Each σ.Allows

/-- Nobody stands in line in a session that has not begun to work. -/
theorem isQueue_of_empty (h : s.board = {}) : IsQueue σ s := by
  have hline : Board.IsFirstCome Role.isEdit ({} : Board Role Plan Draft) [] := by
    refine ⟨fun x hx => ?_, fun i hi => ?_, rfl, rfl⟩
    · cases hx
    · cases hi
  have heach : Board.Each σ.Allows ({} : Board Role Plan Draft) := fun a ha => by cases ha
  refine ⟨?_, by rw [h]; exact heach⟩
  rw [changes, h]
  exact hline

namespace IsQueue

theorem of_line {up : List (Nat × Plan)} (hline : t.board.IsFirstCome Role.isEdit up)
    (heach : t.board.Each σ.Allows) : IsQueue σ t := by
  refine ⟨?_, heach⟩
  rw [changes, hline.upcoming]
  exact hline

theorem sameLine (h : IsQueue σ s) (hboard : Board.SameLine s.board t.board) : IsQueue σ t :=
  of_line (h.line.sameLine hboard) (h.each.of_eq hboard.activities)

theorem of_board (h : IsQueue σ s) (hboard : t.board = s.board) : IsQueue σ t :=
  h.sameLine (by rw [hboard]; exact .refl _)

theorem spawn (h : IsQueue σ s) {role : Role} {plan : Plan} (hplan : σ.Allows role (.ready plan))
    (hboard : t.board = s.board.spawn role plan) : IsQueue σ t := by
  refine ⟨?_, by rw [hboard]; exact h.each.spawn hplan⟩
  rw [changes, hboard, Board.upcoming_spawn]
  exact h.line.spawn role plan

/-! ### Touches keep the line -/

theorem hear (h : IsQueue σ s) (text : String) (d : Draft) : IsQueue σ (s.hear text d) := by
  unfold Session.hear
  split
  · exact h
  · exact h.spawn (Scope.allows_ofEditor d text) rfl

theorem foldl_hear (h : IsQueue σ s) (text : String) (ds : List Draft) :
    IsQueue σ (ds.foldl (Session.hear text) s) := by
  induction ds generalizing s with
  | nil => exact h
  | cons d ds ih => exact ih (h.hear text d)

theorem report (h : IsQueue σ s) (name : String) : IsQueue σ (s.report name) := by
  unfold Session.report
  split
  · refine foldl_hear ?_ _ _
    exact h.of_board rfl
  · exact h

theorem typeInto (h : IsQueue σ s) (name text : String) : IsQueue σ (s.typeInto name text) := by
  refine report ?_ name
  exact h.of_board rfl

theorem syncEditor (h : IsQueue σ s) (b : Buffer) (text : String) :
    IsQueue σ (s.syncEditor b text) := by
  unfold Session.syncEditor
  split
  case h_1 => exact h
  case h_2 name _ =>
    split
    case h_1 => exact h
    case h_2 e _ =>
      split
      · exact h
      · have hecho : σ.Allows .echo (.ready { stage := .start (.report name) }) :=
          Scope.allows_of_role rfl fun plan hplan => by
            cases hplan
            exact ⟨trivial, by simp⟩
        dsimp only
        split
        · exact h.spawn hecho rfl
        · exact h.of_board rfl

theorem applyEdit (h : IsQueue σ s) (d : Draft) (text : String) (fromEditor : Bool) :
    IsQueue σ (s.applyEdit d text fromEditor) := by
  have hput {u : Session V} (hu : IsQueue σ u) : IsQueue σ (u.putText d text) :=
    hu.sameLine (sameLine_putText u d text)
  have hoverwrite : IsQueue σ (s.overwrite d text) := by
    unfold overwrite
    refine syncEditor ?_ _ _
    split <;> exact h.of_board rfl
  cases fromEditor with
  | true => exact hput h
  | false => exact hput hoverwrite

theorem attach (h : IsQueue σ s) (b : Buffer) (name : String) : IsQueue σ (s.attach b name) := by
  unfold Session.attach
  dsimp only
  split
  · refine syncEditor ?_ _ _
    exact h.of_board rfl
  · split
    · refine hear ?_ _ _
      exact h.of_board rfl
    · exact h.of_board rfl

theorem touch (h : IsQueue σ s) (htouch : Touch σ s t) : IsQueue σ t := by
  cases htouch with
  | rest haloof => exact h.sameLine haloof.board
  | edit d text fromEditor => exact h.applyEdit d text fromEditor
  | type name text => exact h.typeInto name text
  | report name => exact h.report name
  | attach b name => exact h.attach b name
  | output text => exact h.syncEditor _ text

/-- Going on where it is a change in an editor, an activity does not wait. -/
theorem isOther (h : IsQueue σ s) (hs : s.board.IsSound) {id : Nat} {q : Phase Plan}
    (hphase : s.board.phase? id = some q) (hready : ∀ next, q ≠ .ready next)
    (hover : ∀ failure, q ≠ .over failure) : s.board.IsOther Role.isEdit id := by
  obtain ⟨a, ha, rfl, rfl⟩ := Board.exists_of_phase? hphase
  exact hs.isOther ha ((h.each a ha).isEdit_eq_false hready hover)

end IsQueue

/-! ## What is kept -/

/-- Something about a session is kept by all touches that may occur, whatever becomes of
activities that apply no change, and by the change that stands in front when it is applied. -/
structure Upholds (σ : Scope) (I : Session V → Prop) : Prop where
  touch : ∀ {s t}, I s → Touch σ s t → IsQueue σ t → I t
  bench : ∀ {s t}, I s → SameBench s t → t.changes = s.changes → IsQueue σ t → I t
  serve : ∀ {s t id d text}, I s → s.changes = (id, .ofEditor d text) :: t.changes →
    Served d text s t → IsQueue σ t → I t

/-- It is so, and the changes in editors stand in line. -/
structure IsKept (σ : Scope) (I : Session V → Prop) (s : Session V) : Prop where
  queue : IsQueue σ s
  holds : I s

namespace IsKept

variable {I : Session V → Prop}

theorem of_line (h : IsKept σ I s) (K : Upholds σ I) (ht : SameBench s t)
    (hline : t.board.IsFirstCome Role.isEdit s.changes) (heach : t.board.Each σ.Allows) :
    IsKept σ I t := by
  have hqueue : IsQueue σ t := .of_line hline heach
  exact ⟨hqueue, K.bench h.holds ht hline.upcoming hqueue⟩

theorem touch (h : IsKept σ I s) (K : Upholds σ I) (htouch : Touch σ s t) : IsKept σ I t := by
  have hqueue := h.queue.touch htouch
  exact ⟨hqueue, K.touch h.holds htouch hqueue⟩

theorem touches (h : IsKept σ I s) (K : Upholds σ I) (htouches : Touches σ s t) : IsKept σ I t := by
  induction htouches with
  | refl => exact h
  | tail _ htouch ih => exact ih.touch K htouch

theorem spawn (h : IsKept σ I s) (K : Upholds σ I) {role : Role} (hrole : role.isEdit = false)
    {plan : Plan} (hplan : plan.Within σ) (ht : SameBench s t)
    (hboard : t.board = s.board.spawn role plan) : IsKept σ I t := by
  have hline := h.queue.line.spawn role plan
  rw [hrole, ← hboard] at hline
  simp only [Bool.false_eq_true, if_false, List.append_nil] at hline
  refine h.of_line K ht hline ?_
  rw [hboard]
  exact h.queue.each.spawn (Scope.allows_of_role hrole fun p hp => by cases hp; exact hplan)

end IsKept

/-! ## Activities at work -/

theorem sameBench_board (s : Session V) (board : Board Role Plan Draft) :
    SameBench s { s with board } := ⟨rfl, rfl, rfl, fun _ => rfl, rfl⟩

theorem sameBench_finish (s : Session V) (a : Activity Role Plan)
    (result : Except Failure (List Answer)) : SameBench s (s.finish a result) := by
  unfold finish
  cases result <;> cases a.role <;> exact ⟨rfl, rfl, rfl, fun _ => rfl, rfl⟩

theorem board_finish (s : Session V) (a : Activity Role Plan)
    (result : Except Failure (List Answer)) :
    ∃ failure, (s.finish a result).board = s.board.finish a.id failure := by
  unfold finish
  cases result <;> cases a.role <;> exact ⟨_, rfl⟩

namespace IsKept

variable {I : Session V → Prop}

theorem finish (h : IsKept σ I s) (K : Upholds σ I) {a : Activity Role Plan}
    (ha : s.board.IsOther Role.isEdit a.id) (result : Except Failure (List Answer)) :
    IsKept σ I (s.finish a result) := by
  obtain ⟨failure, hboard⟩ := board_finish s a result
  refine h.of_line K (sameBench_finish s a result) ?_ ?_
  · rw [hboard]
    exact h.queue.line.finish ha failure
  · rw [hboard]
    exact h.queue.each.finish fun x _ _ => Scope.allows_over x.role failure

theorem suspend (h : IsKept σ I s) (K : Upholds σ I) {a : Activity Role Plan}
    (ha : s.board.IsOther Role.isEdit a.id) {next : Plan} (hnext : next.Within σ)
    (pause : Pause) : IsKept σ I (s.suspend a next pause) := by
  have hallows (x : Activity Role Plan) (hx : x ∈ s.board.activities) (hid : x.id = a.id)
      (q : Phase Plan) (hq : q.plan? = some next) : σ.Allows x.role q := by
    refine Scope.allows_of_role (ha x hx hid) fun p hp => ?_
    cases hq.symm.trans hp
    exact hnext
  cases pause with
  | time duration =>
    exact h.of_line K (sameBench_board s _) (h.queue.line.sleep ha duration next)
      (h.queue.each.setPhase fun x hx hid => hallows x hx hid _ rfl)
  | activities others =>
    exact h.of_line K (sameBench_board s _) (h.queue.line.await ha others next)
      (h.queue.each.await fun x hx hid => hallows x hx hid _ rfl)

/-- An activity goes on that is not to apply a change in an editor. -/
theorem proceed (h : IsKept σ I s) (K : Upholds σ I) (hs : s.IsOrderly) {id : Nat}
    {a : Activity Role Plan} (hfind : s.board.find? id = some a) (hrole : a.role.isEdit = false) :
    IsKept σ I (s.proceed view a) := by
  have ha : a ∈ s.board.activities := List.mem_of_find?_eq_some hfind
  unfold Session.proceed
  split
  case h_2 => exact h
  case h_1 plan hphase =>
    have hplan : a.task.plan? = some plan := by simp [Activity.task, Phase.plan?, hphase]
    have hwithin : plan.Within σ := (h.queue.each a ha).plan hrole hplan
    obtain ⟨H, hwork, -⟩ := hs.atWork (List.mem_map_of_mem ha) hplan
    have hmoves : Act.Leads view _ s _ _ :=
      leads_follow (hs.fair _ (List.mem_map_of_mem ha) plan hplan) plan.stage plan.answers s
    have htouches : Act.ByTouches σ (follow view _ _ _) _ :=
      byTouches_follow hwithin.rest hwithin.stage plan.answers
    have hafter := htouches.touches s
    have hcourse := htouches.result s
    unfold Act.Leads at hmoves
    rcases hrun : (follow view plan.rest plan.stage plan.answers).run s with ⟨result, t⟩
    rw [hrun] at hmoves hafter hcourse
    have hkept : IsKept σ I t := h.touches K hafter
    -- it is still on the board, in the same role
    have hwork' : AtWork a.task H t := hwork.moves hmoves
    have hother : t.board.IsOther Role.isEdit a.id := by
      obtain ⟨b, hb, htask⟩ := List.mem_map.mp hwork'.mem
      have hbrole : b.role = a.role := congrArg Turn.Task.role htask
      have hbid : b.id = a.id := congrArg Turn.Task.id htask
      rw [← hbid]
      exact hwork'.orderly.sound.isOther hb (by rw [hbrole, hrole])
    obtain f | course := result
    · exact hkept.finish K hother _
    cases course with
    | done answers => exact hkept.finish K hother _
    | paused pause next =>
      exact hkept.suspend K hother (hwithin.of_isUnderWay (hcourse _ rfl)) pause

/-- A change in an editor is applied: it is the first of those that are still to be. -/
theorem serve (h : IsKept σ I s) (K : Upholds σ I) (hs : s.IsOrderly) {id : Nat}
    {board : Board Role Plan Draft} (hnext : s.board.next? = some (.run id, board))
    {a : Activity Role Plan} (ha : a ∈ s.board.activities) (hid : a.id = id)
    (hrole : a.role.isEdit = true) {plan : Plan} (hphase : a.phase = .ready plan) :
    IsKept σ I (Session.proceed view { s with board } a) := by
  obtain ⟨d, text, rfl⟩ : ∃ d text, plan = .ofEditor d text := by
    have hallows := h.queue.each a ha
    rw [Scope.Allows, if_pos hrole, hphase] at hallows
    obtain ⟨d, text, heq⟩ | ⟨failure, heq⟩ := hallows
    · cases heq
      exact ⟨d, text, rfl⟩
    · cases heq
  obtain ⟨u, t, result, hu, ht, hrun, hpause⟩ := run_ofEditor view d { s with board } text
  -- the draft has got the text, and then the activity ends
  have hend (result : Except Failure (List Answer)) : IsKept σ I (t.finish a result) := by
    obtain ⟨failure, hboard⟩ := board_finish t a result
    have hserved : Served d text s (t.finish a result) := by
      have hput := (served_putText u d text).trans (ht.aloof.toSameBench.trans
        (sameBench_finish t a result))
      obtain ⟨time, hhistory⟩ := hput.history
      refine ⟨hput.editors.trans hu.editors, hput.attached.trans hu.attached,
        hput.known.trans hu.known, fun e => ?_, time, ?_⟩
      · rw [hput.texts, hu.store]
      · rw [hhistory, hu.history]
    have hsame : Board.SameLine board t.board := by
      rw [ht.board]
      have hline := sameLine_putText u d text
      rwa [hu.board] at hline
    obtain ⟨rest, hup, hline⟩ := h.queue.line.serve hs.sound hnext
      (Board.mem_upcoming.mpr ⟨a, ha, hrole, hphase, hid⟩) hsame failure
    rw [← hid, ← hboard] at hline
    have heach : (t.finish a result).board.Each σ.Allows := by
      rw [hboard]
      refine Board.Each.finish (h.queue.each.of_eq ?_) fun x _ _ => Scope.allows_over x.role failure
      rw [hsame.activities, Board.activities_of_next? hnext]
    have hqueue : IsQueue σ (t.finish a result) := .of_line hline heach
    have hrest : (t.finish a result).changes = rest := hline.upcoming
    have hfront : s.changes = (id, .ofEditor d text) :: (t.finish a result).changes := by
      rw [hrest]
      exact hup
    exact ⟨hqueue, K.serve h.holds hfront hserved hqueue⟩
  have hrun' : (follow view (Plan.ofEditor d text).rest (Plan.ofEditor d text).stage
      (Plan.ofEditor d text).answers).run { s with board } = (result, t) := hrun
  unfold Session.proceed
  rw [hphase]
  dsimp only
  rw [hrun']
  obtain f | course := result
  · exact hend _
  cases course with
  | done answers => exact hend _
  | paused pause next => exact absurd rfl (hpause pause next)

/-! ## Turns -/

/-- Whoever leaves has ended. -/
theorem leave (h : IsKept σ I s) (K : Upholds σ I) (hs : s.board.IsSound) {a : Activity Role Plan}
    (ha : a ∈ s.board.activities) (hover : a.task.plan? = none) :
    IsKept σ I (s.leave a) := by
  have hshape : (s.leave a).board = s.board.remove a.id ∧ SameBench s (s.leave a) := by
    unfold Session.leave
    split <;> exact ⟨rfl, ⟨rfl, rfl, rfl, fun _ => rfl, rfl⟩⟩
  obtain ⟨hboard, hbench⟩ := hshape
  refine h.of_line K hbench ?_ (by rw [hboard]; exact h.queue.each.remove a.id)
  rw [hboard]
  refine h.queue.line.remove fun x hx hid => ?_
  obtain ⟨b, hb, -, hphase, hbid⟩ := Board.mem_upcoming.mp hx
  obtain rfl := hs.activity_eq hb ha (hbid.trans hid)
  rw [Activity.task, hphase] at hover
  cases hover

theorem fire (h : IsKept σ I s) (K : Upholds σ I) (d : Draft) : IsKept σ I (s.fire d) := by
  unfold Session.fire
  split
  case h_1 text _ _ =>
    have hplan : Plan.Within σ { stage := .start (.validate d.buffer text) } := ⟨trivial, by simp⟩
    have hrole : Role.isEdit .validation = false := rfl
    exact h.spawn K hrole hplan ⟨rfl, rfl, rfl, fun _ => rfl, rfl⟩ rfl
  case h_2 => exact h

/-- A job that is not a turn of an activity is taken off the agenda. -/
theorem pass (h : IsKept σ I s) (K : Upholds σ I) {j : Job Draft} {board : Board Role Plan Draft}
    (hnext : s.board.next? = some (j, board))
    (hj : ∀ id, j.run? = some id → ∀ x ∈ s.changes, x.1 ≠ id) :
    IsKept σ I { s with board } :=
  h.of_line K (sameBench_board s board) (h.queue.line.pass hnext hj)
    (h.queue.each.of_eq (Board.activities_of_next? hnext))

/-- An activity has its turn. -/
theorem run (h : IsKept σ I s) (K : Upholds σ I) (hs : s.IsOrderly) {id : Nat}
    {board : Board Role Plan Draft} (hnext : s.board.next? = some (.run id, board)) :
    IsKept σ I (perform view { s with board } (.run id)) := by
  have hretimed := Board.retimed_of_next? hnext
  have hs' : IsOrderly { s with board } :=
    isOrderly_retimed hs (hs.tallies.tail hnext (by simp)) hretimed
  have hactivities := Board.activities_of_next? hnext
  have hmem {x : Nat × Plan} (hx : x ∈ s.changes) (hid : x.1 = id) :
      ∃ a, a ∈ s.board.activities ∧ a.role.isEdit = true ∧ a.phase = .ready x.2 ∧ a.id = id := by
    obtain ⟨a, ha, hrole, hphase, haid⟩ := Board.mem_upcoming.mp hx
    exact ⟨a, ha, hrole, hphase, haid.trans hid⟩
  unfold perform
  dsimp only
  cases hfind : board.find? id with
  | none =>
    refine h.pass K hnext fun i hi x hx hid => ?_
    cases hi
    obtain ⟨a, ha, -, -, haid⟩ := hmem hx hid
    rw [← hactivities] at ha
    simpa [haid] using List.find?_eq_none.mp hfind a ha
  | some a =>
    obtain ⟨htask, hid⟩ := Board.IsSound.task_of_find? hfind
    have ha : a ∈ s.board.activities := hactivities ▸ List.mem_of_find?_eq_some hfind
    change IsKept σ I (Session.proceed view { s with board } a)
    by_cases hserve : a.role.isEdit = true ∧ ∃ plan, a.phase = .ready plan
    · obtain ⟨hrole, plan, hphase⟩ := hserve
      exact h.serve K hs hnext ha hid hrole hphase
    · -- it has no change to apply
      have hpassed : IsKept σ I { s with board } := by
        refine h.pass K hnext fun i hi x hx hxid => ?_
        cases hi
        obtain ⟨b, hb, hrole, hphase, hbid⟩ := hmem hx hxid
        obtain rfl := hs.sound.activity_eq hb ha (hbid.trans hid.symm)
        exact hserve ⟨hrole, x.2, hphase⟩
      cases hrole : a.role.isEdit with
      | false => exact hpassed.proceed K hs' hfind hrole
      | true =>
        unfold Session.proceed
        split
        case h_1 plan hphase => exact absurd ⟨hrole, plan, hphase⟩ hserve
        case h_2 => exact hpassed

theorem step (h : IsKept σ I s) (K : Upholds σ I) (hs : s.IsOrderly)
    (hstep : s.step view = some t) : IsKept σ I t := by
  obtain ⟨⟨j, board⟩, hnext, rfl⟩ := Option.map_eq_some_iff.mp hstep
  have hretimed := Board.retimed_of_next? hnext
  have hsound : board.IsSound := hs.sound.retimed hretimed
  have hpassed (hj : j.run? = none) : IsKept σ I { s with board } :=
    h.pass K hnext (by simp [hj])
  cases j with
  | run id => exact h.run K hs hnext
  | wake id =>
    have hkept := hpassed rfl
    refine hkept.of_line K (sameBench_board _ _) ?_ ?_
    · exact hkept.queue.line.wake hsound id fun next hphase =>
        hkept.queue.isOther hsound hphase (by simp) (by simp)
    · exact hkept.queue.each.wake hsound id fun role next hwait =>
        hwait.goOn (by simp) (by simp) rfl
  | count id =>
    have hkept := hpassed rfl
    refine hkept.of_line K (sameBench_board _ _) ?_ ?_
    · exact hkept.queue.line.count hsound id fun n next hphase =>
        hkept.queue.isOther hsound hphase (by simp) (by simp)
    · exact hkept.queue.each.count hsound id
        (fun role n m next hwait => hwait.goOn (by simp) (by simp) rfl)
        fun role n next hwait => hwait.goOn (by simp) (by simp) rfl
  | ended id =>
    unfold perform
    dsimp only
    cases hfind : board.find? id with
    | none => exact hpassed rfl
    | some a =>
      obtain ⟨hmem, hid⟩ := Board.IsSound.task_of_find? hfind
      exact (hpassed rfl).leave K hsound (List.mem_of_find?_eq_some hfind)
        (hs.sound.over_of_next? hnext _ hmem hid)
  | fire d => exact (hpassed rfl).fire K d

theorem launch (h : IsKept σ I s) (K : Upholds σ I) (number : Nat) {actions : List Action}
    (hactions : ∀ a ∈ actions, a.Within σ) : IsKept σ I (s.launch number actions) := by
  cases actions with
  | nil => exact h.of_line K ⟨rfl, rfl, rfl, fun _ => rfl, rfl⟩ h.queue.line h.queue.each
  | cons first rest =>
    obtain ⟨hfirst, hrest⟩ := List.forall_mem_cons.mp hactions
    have hplan : Plan.Within σ { stage := .start first, rest } := ⟨hfirst, hrest⟩
    have hrole : Role.isEdit (.user number) = false := rfl
    exact h.spawn K hrole hplan (sameBench_board s _) rfl

end IsKept

end Workbench.Session
