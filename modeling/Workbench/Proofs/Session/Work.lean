import Workbench.Proofs.Session.Effect
import Workbench.Proofs.Session.Leads

/-!
# How each stretch of work moves

Each stretch of work of a session, followed move by move. It begins with what its stage has in hand
and ends with what the stage has in hand that it pauses at; if it is done, or fails on its way,
nothing is left in hand.
-/
namespace Workbench.Session

open Document (Buffer Draft Store)
open Service (Reaction)

variable {V : Type} {α β : Type}

namespace Act

variable {view : View V} {s : Session V} {k : Hand} {after : β → Hand}

/-! ## Calls -/

theorem leads_send {c : Service.Call} (hk : k.call? = some c ∨ k = .free) :
    Leads view (send c) s k fun r => k.sent r.reaction := by
  refine leads_noteAll fun t _ => leads_get ?_
  split
  case h_1 h => exact leads_change (.refuse hk h) leads_throw
  case h_2 out reply server h => exact leads_change (.send hk h) (leads_pure rfl)

theorem leads_receive {reply : Service.Reply} {now : Reaction → Act V Progress}
    {later : Reaction → Stage} (hnow : Leads view (now reply.reaction) s k Progress.hand)
    (hlater : (later reply.reaction).hand = k) :
    Leads view (receive reply now later) s k Progress.hand := by
  unfold receive
  split
  · exact hnow
  · exact leads_pure hlater

theorem leads_reached (result : Except Failure α) :
    Leads view (reached result) s .free fun _ => .free := by
  unfold reached
  split
  · exact leads_pure rfl
  · exact leads_pure rfl
  · exact leads_throw

/-- Without a result there is a reason, or the stretch of work fails. -/
theorem leads_reached_error {f : Failure} {g : Except String α → Act V β}
    (h : ∀ reason t, Leads view (g (.error reason)) t .free after) :
    Leads view (reached (.error f) >>= g) s .free after := by
  cases f with
  | transport endpoint reason => exact leads_pure_bind (h reason s)
  | _ => exact leads_throw

/-! ## Transforms -/

theorem moves_syncEditor (b : Buffer) (text : String) :
    Moves view (s, k) (s.syncEditor b text, k) := by
  unfold syncEditor
  split
  · exact .refl
  split
  · exact .refl
  split
  · exact .refl
  have hload (es : Editors) : Move view (s, k) ({ s with editors := es }, k) :=
    .quiet k ⟨rfl, rfl, rfl, rfl, rfl⟩
  dsimp only
  split
  · exact .single (.spawn k _ _ ⟨rfl, rfl⟩ ⟨rfl, rfl, rfl, rfl, rfl⟩)
  · exact .single (hload _)

theorem isQuiet_reportOutcome (generation : Nat) (o : Except String Service.Outcome) :
    IsQuiet view (reportOutcome view generation o) := by
  unfold reportOutcome
  split
  · exact (isQuiet_write _).bind fun _ => (isQuiet_announceState _).bind fun _ =>
      isQuiet_announceNotice _ _
  · split
    · exact (isQuiet_write _).bind fun _ => (isQuiet_announceState _).bind fun _ =>
        isQuiet_announceNotice _ _
    · exact (isQuiet_write _).bind fun _ => (isQuiet_announceState _).bind fun _ =>
        isQuiet_announceNotice _ _

theorem leads_conclude (requested : Bool) (o : Option Service.Outcome) :
    Leads view (conclude requested o) s .free Progress.hand := by
  unfold conclude
  split
  · exact leads_moves (moves_syncEditor _ _) (leads_pure rfl)
  · exact leads_pure rfl

theorem leads_finishTransform (generation : Nat) (requested : Bool) (r : Reaction) :
    Leads view (finishTransform view generation requested r) s (.awaiting generation r)
      Progress.hand := by
  refine leads_noteAll fun t _ => leads_get ?_
  refine leads_change (.conclude t generation r) ?_
  refine leads_bind (leads_reached _) fun o u => ?_
  dsimp only
  split
  · exact leads_quiet rfl (isQuiet_reportOutcome _ _) fun _ _ _ => leads_conclude _ _
  · exact leads_quiet rfl (isQuiet_write _) fun _ _ _ => leads_conclude _ _

theorem leads_callTransform (requested : Bool) :
    Leads view (callTransform view requested) s (.calling s.generation s.request)
      Progress.hand := by
  refine leads_get ?_
  refine leads_quiet rfl (isQuiet_write _) fun _ t _ => ?_
  refine leads_quiet rfl (isQuiet_announceState _) fun _ u _ => ?_
  refine leads_bind (leads_send (.inl rfl)) fun r v => ?_
  exact leads_receive (leads_finishTransform _ _ _) rfl

theorem leads_beginTransform (requested : Bool) (h : missing? s.store = none) :
    Leads view (beginTransform view requested) s .free Progress.hand :=
  leads_change (.begin h) (leads_callTransform requested)

theorem leads_transform : Leads view (transform view) s .free Progress.hand := by
  refine leads_get ?_
  split
  · exact leads_throw
  case h_2 h => exact leads_beginTransform false h

theorem leads_handleTransform : Leads view (handleTransform view) s .free Progress.hand := by
  refine leads_get ?_
  split
  · refine leads_change (.quiet .free ⟨rfl, rfl, rfl, rfl, rfl⟩) ?_
    refine leads_quiet rfl (isQuiet_write _) fun _ _ _ => ?_
    exact leads_quiet rfl (isQuiet_announceNotice _ _) fun _ _ _ => leads_pure rfl
  case h_2 h => exact leads_beginTransform true h

theorem leads_requestTransform : Leads view (requestTransform view) s .free Progress.hand :=
  leads_get (leads_quiet rfl (isQuiet_write _) fun _ _ _ => leads_handleTransform)

/-- The event that asks for a transform is only noted before it is handled, so the transform begins
right after it was asked for. -/
theorem leads_triggerTransform (hs : s.isPrimed = true) :
    Leads view (triggerTransform view) s .owing Progress.hand := by
  have hnote (t : Session V) (k : Hand) :
      Move view (t, k) (t.note (Bus.dispatchNote .transformRequested), k) :=
    .quiet k ⟨rfl, rfl, rfl, rfl, rfl⟩
  have hrun : (triggerTransform view).run s = (handleTransform view).run
      ((s.record .triggered).note (Bus.dispatchNote .transformRequested)) := rfl
  unfold Leads
  rw [hrun]
  cases hmissing : missing? s.store with
  | some reason =>
    refine .head (.warn hs (by simp [hmissing])) (.head (hnote _ _) ?_)
    exact leads_handleTransform
  | none =>
    have hbegin : (handleTransform view).run
          ((s.record .triggered).note (Bus.dispatchNote .transformRequested)) =
        (callTransform view true).run
          ((s.record .triggered).begin.note (Bus.dispatchNote .transformRequested)) := by
      unfold handleTransform
      rw [run_bind, run_get]
      dsimp only
      split
      case h_1 reason h => exact absurd (h.symm.trans hmissing) (by simp)
      case h_2 => rfl
    rw [hbegin]
    exact .head (.trigger hs hmissing) (.head (hnote _ _) (leads_callTransform true))

/-! ## Validation -/

theorem leads_reportVerdict {t : Session V} (d : Draft) (v : Service.Verdict)
    (h : s.store.armed = t.store.armed) :
    Leads view (reportVerdict view d v t.store.bothValid) s (s.handAfter t) Progress.hand := by
  have hview := isOfView_handAfter t s
  refine leads_quiet hview (isQuiet_write _) fun _ u hu => ?_
  refine leads_quiet hview (isQuiet_announceState _) fun _ w hw => leads_get ?_
  have hstore : w.store = s.store := hw.store.trans hu.store
  rw [handAfter_of_armed h, hstore]
  dsimp only
  split
  case isTrue hrising =>
    refine leads_quiet rfl (isQuiet_write _) fun _ x hx => leads_triggerTransform ?_
    rw [isPrimed, hx.store, hstore]
    simp only [Bool.and_eq_true] at hrising
    simp [hrising.1.1, hrising.1.2]
  case isFalse => exact leads_pure rfl

/-- Without a verdict no transform becomes due. -/
theorem handAfter_hearVerdict_error (d : Draft) (text : String) (f : Failure) (s : Session V) :
    (s.hearVerdict d text (.error f)).handAfter s = .free := by
  have hstore := store_hearVerdict s d text (.error f)
  rw [heard_eq] at hstore
  split at hstore
  · unfold judgedDraft at hstore
    split at hstore
    case h_1 h => cases h
    case h_2 =>
      rw [handAfter_of_armed (armed_hearVerdict ..), Store.bothValid_of_snapshot_none (d := d)]
      · simp
      · simp [hstore]
    case h_3 => exact handAfter_of_store (by rw [hstore, Store.setDraft_draft])
  · exact handAfter_of_store hstore

theorem leads_finishValidation (d : Draft) (text : String) (r : Reaction) :
    Leads view (finishValidation view d text r) s (.judging d text r) Progress.hand := by
  have hear (t : Session V) :
      Move view (t, .judging d text r) (t.hearVerdict d text (Service.Client.readVerdict d r).2,
        (t.hearVerdict d text (Service.Client.readVerdict d r).2).handAfter t) := .hear t d text r
  unfold finishValidation
  generalize Service.Client.readVerdict d r = reply at hear ⊢
  obtain ⟨notes, result⟩ := reply
  refine leads_noteAll fun t _ => leads_get (leads_change (hear t) ?_)
  dsimp only
  obtain f | v := result
  · -- there is no verdict: nothing becomes due
    rw [handAfter_hearVerdict_error]
    refine leads_reached_error fun reason u => ?_
    split
    · exact leads_quiet rfl (isQuiet_write _) fun _ _ _ => leads_pure rfl
    · refine leads_quiet rfl (isQuiet_write _) fun _ _ _ => ?_
      exact leads_quiet rfl (isQuiet_announceState _) fun _ _ _ => leads_pure rfl
  · refine leads_pure_bind ?_
    split
    case isTrue h =>
      rw [handAfter_of_store (by rw [store_hearVerdict, heard_eq, if_neg h])]
      exact leads_quiet rfl (isQuiet_write _) fun _ _ _ => leads_pure rfl
    case isFalse h => exact leads_reportVerdict d v (armed_hearVerdict ..)

theorem leads_finishStray (text : String) (r : Reaction) :
    Leads view (finishStray text r) s .free Progress.hand := by
  unfold finishStray
  rcases Service.Client.readVerdict .spec r with ⟨notes, result⟩
  refine leads_noteAll fun t _ => ?_
  have hstray : Leads view (refuseStray text) t .free Progress.hand := by
    refine leads_get ?_
    split
    · exact leads_quiet rfl (isQuiet_write _) fun _ _ _ => leads_pure rfl
    · exact leads_throw
  split
  · exact hstray
  · exact hstray
  · exact leads_throw

theorem leads_validate (b : Buffer) (text : String) :
    Leads view (validate view b text) s (Stage.start (.validate b text)).hand Progress.hand := by
  unfold validate
  cases h : b.draft? with
  | some d =>
    have hhand : (Stage.start (.validate b text)).hand = .asking d text := by simp [Stage.hand, h]
    rw [hhand]
    refine leads_bind (leads_send (.inl rfl)) fun reply t => ?_
    exact leads_receive (leads_finishValidation _ _ _) rfl
  | none =>
    have hhand : (Stage.start (.validate b text)).hand = .free := by simp [Stage.hand, h]
    rw [hhand]
    refine leads_bind (leads_send (.inr rfl)) fun reply t => ?_
    exact leads_receive (leads_finishStray _ _) rfl

/-! ## Edits -/

theorem moves_overwrite (d : Draft) (text : String) :
    Moves view (s, k) (s.overwrite d text, k) := by
  have hsync (t : Session V) :
      Moves view (t, k) ((t.setKnown d text).syncEditor d.buffer text, k) := by
    have hknown : Move view (t, k) (t.setKnown d text, k) := .quiet k ⟨rfl, rfl, rfl, rfl, rfl⟩
    exact .head hknown (moves_syncEditor _ _)
  unfold overwrite
  split
  · exact hsync s
  · exact .head (.overtake s k d) (hsync _)

theorem moves_applyEdit (d : Draft) (text : String) (fromEditor : Bool) :
    Moves view (s, k) (s.applyEdit d text fromEditor, k) := by
  unfold applyEdit
  cases fromEditor
  · exact (moves_overwrite d text).tail (.edit _ k d text)
  · exact .single (.edit s k d text)

theorem leads_handleEdit (e : Event) {after : Progress → Hand}
    (h : after (.done .nothing) = .free) : Leads view (handleEdit view e) s .free after := by
  unfold handleEdit
  split
  · refine leads_moves (moves_applyEdit _ _ _) ?_
    exact leads_quiet rfl (isQuiet_announceState _) fun _ _ _ => leads_pure h
  · exact leads_quiet rfl (isQuiet_write _) fun _ _ _ => leads_pure h

theorem handAfter_switch (armed : Bool) :
    (s.switch armed).handAfter s =
      if armed && !s.store.armed && s.store.bothValid then .owing else .free := by
  have hboth : (s.switch armed).store.bothValid = s.store.bothValid := rfl
  unfold handAfter isPrimed
  rw [hboth]
  cases armed <;> cases s.store.armed <;> cases s.store.bothValid <;> rfl

theorem leads_handleArmed (armed : Bool) :
    Leads view (handleArmed view armed) s .free Progress.hand := by
  refine leads_get (leads_change (.arm s armed) ?_)
  refine leads_quiet (isOfView_handAfter _ _) (isQuiet_write _) fun _ t ht => ?_
  rw [handAfter_switch]
  split
  case isTrue hrising =>
    refine leads_triggerTransform ?_
    simp only [Bool.and_eq_true] at hrising
    have hstore : t.store = (s.switch armed).store := ht.store
    rw [isPrimed, hstore]
    exact Bool.and_eq_true_iff.mpr ⟨hrising.1.1, hrising.2⟩
  case isFalse => exact leads_pure rfl

theorem leads_dispatch (e : Event) : Leads view (dispatch view e) s .free Progress.hand := by
  refine leads_get ?_
  unfold Bus.dispatch
  split
  · refine leads_quiet rfl (isQuiet_write _) fun _ t _ => ?_
    dsimp only
    split
    · exact leads_handleEdit e rfl
    · exact leads_handleTransform
    · exact leads_handleArmed _
    · exact leads_quiet rfl (isQuiet_present e) fun _ _ _ => leads_pure rfl
  · exact leads_quiet rfl (isQuiet_write _) fun _ _ _ => leads_pure rfl

theorem leads_edit (b : Buffer) (text : String) {after : Progress → Hand}
    (h : after (.done .nothing) = .free) : Leads view (edit view b text) s .free after := by
  refine leads_get ?_
  refine leads_quiet (f := fun _ => handleEdit view _) rfl (isQuiet_write _) fun _ _ _ => ?_
  exact leads_handleEdit _ h

theorem leads_announceFormatted (b : Buffer) :
    Leads view (announceFormatted view b) s .free Progress.hand := by
  unfold announceFormatted
  split
  · exact leads_quiet rfl (isQuiet_announceNotice _ _) fun _ _ _ => leads_pure rfl
  · exact leads_throw

theorem leads_format (b : Buffer) : Leads view (format view b) s .free Progress.hand := by
  refine leads_get ?_
  dsimp only
  split
  · exact leads_pure rfl
  · split
    · exact leads_quiet rfl (isQuiet_announceNotice _ _) fun _ _ _ => leads_pure rfl
    · split
      · exact leads_bind (leads_edit b _ rfl) fun _ t => leads_announceFormatted b
      · exact leads_announceFormatted b

theorem leads_clear (d : Draft) : Leads view (clear view d) s .free Progress.hand := by
  have hedit : Leads view (edit view d.buffer "") s .free fun _ => .free := leads_edit _ _ rfl
  refine leads_bind hedit fun _ t => ?_
  exact leads_quiet rfl (isQuiet_announceNotice _ _) fun _ _ _ => leads_pure rfl

/-! ## Editors -/

theorem moves_hear (text : String) (d : Draft) : Moves view (s, k) (s.hear text d, k) := by
  unfold hear
  split
  · exact .refl
  · exact .single (.spawn k _ _ ⟨rfl, rfl⟩ ⟨rfl, rfl, rfl, rfl, rfl⟩)

theorem moves_report (name : String) : Moves view (s, k) (s.report name, k) := by
  have hall (text : String) (ds : List Draft) (t : Session V) :
      Moves view (t, k) (ds.foldl (hear text) t, k) := by
    induction ds generalizing t with
    | nil => exact .refl
    | cons d ds ih => exact (moves_hear text d).trans (ih _)
  unfold report
  split
  · refine .trans ?_ (hall _ _ _)
    exact .single (.quiet k ⟨rfl, rfl, rfl, rfl, rfl⟩)
  · exact .refl

theorem moves_typeInto (name text : String) : Moves view (s, k) (s.typeInto name text, k) := by
  refine .trans ?_ (moves_report name)
  exact .single (.quiet k ⟨rfl, rfl, rfl, rfl, rfl⟩)

theorem moves_attach (b : Buffer) (name : String) : Moves view (s, k) (s.attach b name, k) := by
  unfold attach
  split
  · refine .trans ?_ (moves_syncEditor _ _)
    exact .single (.quiet k ⟨rfl, rfl, rfl, rfl, rfl⟩)
  · dsimp only
    split
    · refine .trans ?_ (moves_hear _ _)
      exact .single (.quiet k ⟨rfl, rfl, rfl, rfl, rfl⟩)
    · exact .single (.quiet k ⟨rfl, rfl, rfl, rfl, rfl⟩)

/-! ## All stages -/

theorem leads_plainly {f : Session V → Session V} (h : ∀ s, Moves view (s, .free) (f s, .free)) :
    Leads view (plainly f) s .free Progress.hand := leads_moves (h s) (leads_pure rfl)

theorem leads_finishOperations (r : Reaction) :
    Leads view (finishOperations r : Act V Progress) s .free Progress.hand := by
  unfold finishOperations
  split
  · exact leads_pure rfl
  · exact leads_throw

theorem leads_listOperations :
    Leads view (listOperations : Act V Progress) s .free Progress.hand :=
  leads_bind (leads_send (.inr rfl)) fun _ _ => leads_receive (leads_finishOperations _) rfl

theorem leads_awaitEdits {otherwise : Progress} (h : otherwise.hand = .free) :
    Leads view (awaitEdits otherwise : Act V Progress) s .free Progress.hand := by
  refine leads_get ?_
  dsimp only
  split
  · exact leads_pure h
  · exact leads_pure rfl

theorem leads_drain : Leads view (drain : Act V Progress) s .free Progress.hand := by
  refine leads_get ?_
  split
  · exact leads_pure rfl
  · exact leads_pure rfl
  · exact leads_awaitEdits rfl

theorem leads_settle : Leads view (settle : Act V Progress) s .free Progress.hand := by
  refine leads_get ?_
  split
  · exact leads_drain
  · exact leads_awaitEdits rfl

theorem leads_checkDrafts :
    Leads view (start view .checkDrafts : Act V Progress) s .free Progress.hand := by
  refine leads_get ?_
  split
  · exact leads_throw
  · exact leads_pure rfl

/-- Starting an action. -/
theorem leads_start (a : Action) :
    Leads view (start view a) s (Stage.start a).hand Progress.hand := by
  cases a with
  | edit b text => exact leads_edit b text rfl
  | format b => exact leads_format b
  | clear d => exact leads_clear d
  | requestTransform => exact leads_requestTransform
  | setArmed armed => exact leads_dispatch _
  | validate b text => exact leads_validate b text
  | transform => exact leads_transform
  | checkDrafts => exact leads_checkDrafts
  | dispatch e => exact leads_dispatch e
  | listOperations => exact leads_listOperations
  | treeView => exact leads_get (leads_pure rfl)
  | settle => exact leads_settle
  | enter => exact leads_pure rfl
  | close => exact leads_plainly fun s => .single (.close s .free)
  | attach b name => exact leads_moves (moves_attach b name) (leads_pure rfl)
  | type name text =>
    refine leads_get ?_
    split
    · exact leads_plainly fun _ => moves_typeInto name text
    · exact leads_throw
  | report name => exact leads_plainly fun _ => moves_report name

/-- Going on with a stage. -/
theorem leads_goOn (stage : Stage) : Leads view (goOn view stage) s stage.hand Progress.hand := by
  cases stage with
  | start a => exact leads_start a
  | verdict d text r => exact leads_finishValidation d text r
  | stray text r => exact leads_finishStray text r
  | outcome generation requested r => exact leads_finishTransform generation requested r
  | names r => exact leads_finishOperations r
  | drain => exact leads_drain

end Act

def Course.hand : Course → Hand
  | .done _ => .free
  | .paused _ next => next.stage.hand

/-- Going through a stage and the actions after it. -/
theorem leads_follow {view : View V} {rest : List Action} (hrest : ∀ a ∈ rest, a.isFair = true)
    (stage : Stage) (answers : List Answer) (s : Session V) :
    Act.Leads view (follow view rest stage answers) s stage.hand Course.hand := by
  induction rest generalizing stage answers s with
  | nil =>
    refine Act.leads_bind (Act.leads_goOn stage) fun p t => ?_
    cases p with
    | done a => exact Act.leads_pure rfl
    | paused pause next => exact Act.leads_pure rfl
  | cons action rest ih =>
    obtain ⟨haction, hrest⟩ := List.forall_mem_cons.mp hrest
    refine Act.leads_bind (Act.leads_goOn stage) fun p t => ?_
    cases p with
    | done a => exact (Relation.ReflTransGen.head (.take t action haction) (ih hrest _ _ t))
    | paused pause next => exact Act.leads_pure rfl

/-- An activity that has to wait has nothing to do after it that it did not have before. -/
theorem rest_of_follow {view : View V} {rest : List Action} {stage : Stage} {answers : List Answer}
    {s t : Session V} {pause : Pause} {next : Plan}
    (h : (follow view rest stage answers).run s = (.ok (.paused pause next), t)) :
    ∀ a ∈ next.rest, a ∈ rest := by
  induction rest generalizing stage answers s with
  | nil =>
    unfold follow at h
    rw [Act.run_bind] at h
    split at h
    · rename_i p u _
      cases p with
      | done a => cases h
      | paused pause' next' =>
        cases h
        exact fun a ha => ha
    · cases h
  | cons action rest ih =>
    unfold follow at h
    rw [Act.run_bind] at h
    split at h
    · rename_i p u _
      cases p with
      | done a => exact fun b hb => List.mem_cons_of_mem _ (ih h b hb)
      | paused pause' next' =>
        cases h
        exact fun a ha => ha
    · cases h

end Workbench.Session
