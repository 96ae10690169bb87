import Workbench.Proofs.Session.Leads
import Workbench.Proofs.Studio.Fresh

/-!
# Every change is told

Each stretch of work of a studio begins and ends with all as it should be. In between the screen may
lag behind, but what changes the documents is followed by the event that tells of it, and a new
output is put into its editor, before the stretch of work ends, pauses or fails.
-/
namespace Workbench.Studio

open Document (Buffer Draft)
open Service (Reaction)
open Session Session.Act

variable {α β : Type} {settings : Settings} {s : Session Screen}

/-- A stretch of work ends as is said. If it fails, all is as it should be. -/
structure Ends (settings : Settings) (x : Act Screen α) (s : Session Screen)
    (good : α → Session Screen → Prop) : Prop where
  ok : ∀ a t, x.run s = (.ok a, t) → good a t
  error : ∀ f t, x.run s = (.error f, t) → IsFresh settings t

/-- How far a stage of the studio got: it is done, or goes on as such a stage. -/
def IsProgressOfStudio : Progress → Prop
  | .done _ => True
  | .paused _ next => isStageOfStudio next = true

/-- A stretch of work ends with all as it should be. -/
abbrev EndsFresh (settings : Settings) (x : Act Screen Progress) (s : Session Screen) : Prop :=
  Ends settings x s fun p t => IsFresh settings t ∧ IsProgressOfStudio p

variable {good : β → Session Screen → Prop}

/-! ## Putting stretches of work together -/

theorem ends_pure {b : β} (h : good b s) : Ends settings (pure b) s good where
  ok a t ht := by
    cases ht
    exact h
  error f t ht := by cases ht

theorem ends_throw {f : Failure} (h : IsFresh settings s) : Ends settings (throw f) s good where
  ok a t ht := by cases ht
  error e t ht := by
    cases ht
    exact h

theorem ends_bind {x : Act Screen α} {f : α → Act Screen β}
    (h : Ends settings x s fun a t => Ends settings (f a) t good) :
    Ends settings (x >>= f) s good := by
  rcases hr : x.run s with ⟨e | a, t⟩
  · have hrun : (x >>= f).run s = (.error e, t) := by rw [run_bind, hr]
    refine ⟨fun b u hu => ?_, fun g u hu => ?_⟩ <;> cases hrun.symm.trans hu
    exact h.error e t hr
  · have hrun : (x >>= f).run s = (f a).run t := by rw [run_bind, hr]
    have hf := h.ok a t hr
    exact ⟨fun b u hu => hf.ok b u (hrun ▸ hu), fun g u hu => hf.error g u (hrun ▸ hu)⟩

theorem Ends.mono {x : Act Screen β} {good' : β → Session Screen → Prop}
    (h : Ends settings x s good) (hgood : ∀ b t, good b t → good' b t) :
    Ends settings x s good' :=
  ⟨fun b t hr => hgood b t (h.ok b t hr), h.error⟩

theorem ends_of_run {x : Act Screen β} {b : β} {t : Session Screen} (hrun : x.run s = (.ok b, t))
    (h : good b t) : Ends settings x s good := by
  refine ⟨fun c u hu => ?_, fun f u hu => ?_⟩ <;> cases hrun.symm.trans hu
  exact h

theorem ends_get {f : Session Screen → Act Screen β} (h : Ends settings (f s) s good) :
    Ends settings (get >>= f) s good := ⟨h.ok, h.error⟩

theorem ends_change {g : Session Screen → Session Screen} {f : Unit → Act Screen β}
    (h : Ends settings (f ()) (g s) good) : Ends settings (change g >>= f) s good := ⟨h.ok, h.error⟩

theorem endsFresh_done (h : IsFresh settings s) (a : Answer) :
    EndsFresh settings (pure (.done a)) s := ends_pure ⟨h, trivial⟩

/-! ## Notes and events -/

theorem sameWiring_noteAll (s : Session Screen) (ns : List Note) : SameWiring s (s.noteAll ns) :=
  ⟨rfl, rfl, rfl, rfl, rfl, rfl⟩

theorem sameWiring_record (s : Session Screen) (h : Happening) : SameWiring s (s.record h) :=
  ⟨rfl, rfl, rfl, rfl, rfl, rfl⟩

/-- What is fresh stays so when a note is made. -/
theorem ends_write {n : Note} {f : Unit → Act Screen β} (hs : IsFresh settings s)
    (h : ∀ t, IsFresh settings t → t.store = s.store → Ends settings (f ()) t good) :
    Ends settings (write n >>= f) s good :=
  ends_change (h _ (hs.of_same (sameWiring_noteAll s [n]) rfl) rfl)

theorem run_announce (hw : s.watched = true) {e : Event}
    (he : e.type = .stateChanged ∨ e.type = .notice) :
    (announce (Screen.follow settings) e).run s = (.ok (), told settings e s) := by
  have hbus : s.bus.find? e.type = some .view := by
    unfold Bus.find? bus
    rw [if_pos hw]
    obtain he | he := he <;> rw [he] <;> rfl
  unfold announce
  rw [run_bind, run_get]
  dsimp only
  unfold Bus.dispatch
  rw [hbus]
  dsimp only
  have hwrite : (write (Bus.dispatchNote e)).run s = (.ok (), s.note (Bus.dispatchNote e)) := rfl
  rw [run_bind, hwrite]
  dsimp only
  rw [run_present, Screen.follow_failure]
  rfl

theorem ends_announceState (hw : s.watched = true) {b : Buffer} {f : Unit → Act Screen β}
    (h : Ends settings (f ()) (told settings (.stateChanged b) s) good) :
    Ends settings (announceState (Screen.follow settings) b >>= f) s good := by
  exact ends_bind (ends_of_run (run_announce hw (.inl rfl)) h)

theorem ends_announceNotice (hw : s.watched = true) {message : String} {level : NoticeLevel}
    {f : Unit → Act Screen β}
    (h : Ends settings (f ()) (told settings (.notice message level) s) good) :
    Ends settings (announceNotice (Screen.follow settings) message level >>= f) s good := by
  exact ends_bind (ends_of_run (run_announce hw (.inr rfl)) h)

/-- The lines catch up, and with them all. -/
theorem AwaitsLines.tell (h : AwaitsLines settings s) {b : Buffer} {f : Unit → Act Screen β}
    (hf : ∀ t, IsFresh settings t → t.store = s.store → Ends settings (f ()) t good) :
    Ends settings (announceState (Screen.follow settings) b >>= f) s good :=
  ends_announceState h.watched (hf _ (h.told nofun) rfl)

theorem IsFresh.notify (h : IsFresh settings s) {message : String} {level : NoticeLevel}
    {f : Unit → Act Screen β}
    (hf : ∀ t, IsFresh settings t → Ends settings (f ()) t good) :
    Ends settings (announceNotice (Screen.follow settings) message level >>= f) s good :=
  ends_announceNotice h.watched (hf _ (h.told _))

theorem ends_present (h : IsFresh settings s) (e : Event) {f : Unit → Act Screen β}
    (hf : ∀ t, IsFresh settings t → Ends settings (f ()) t good) :
    Ends settings (present (Screen.follow settings) e >>= f) s good := by
  have hrun : (present (Screen.follow settings) e).run s = _ := run_present e s
  rw [Screen.follow_failure] at hrun
  exact ends_bind (ends_of_run hrun (hf _ ((h.told e).of_same ⟨rfl, rfl, rfl, rfl, rfl, rfl⟩ rfl)))

/-! ## Calls -/

theorem ends_send (h : IsFresh settings s) (c : Service.Call) :
    Ends settings (send c) s fun _ t => IsFresh settings t := by
  refine ends_change (ends_get ?_)
  have hnoted := h.of_same (sameWiring_noteAll s c.notes) rfl
  split
  · exact ends_change (ends_throw (hnoted.of_same (sameWiring_record _ _) rfl))
  · exact ends_change (ends_pure (hnoted.of_same ⟨rfl, rfl, rfl, rfl, rfl, rfl⟩ rfl))

theorem endsFresh_receive {reply : Service.Reply} {now : Reaction → Act Screen Progress}
    {later : Reaction → Stage} (h : IsFresh settings s)
    (hnow : EndsFresh settings (now reply.reaction) s)
    (hlater : isStageOfStudio (later reply.reaction) = true) :
    EndsFresh settings (receive reply now later) s := by
  unfold receive
  split
  · exact hnow
  · exact ends_pure ⟨h, hlater⟩

/-- There is a result or the reason why not; if the call has failed in another way, all must be as
it should be already. -/
theorem ends_reached {result : Except Failure α} {f : Except String α → Act Screen β}
    (hok : ∀ a, result = .ok a → Ends settings (f (.ok a)) s good)
    (hreason : ∀ endpoint reason, result = .error (.transport endpoint reason) →
      Ends settings (f (.error reason)) s good)
    (hfail : (∀ a, result ≠ .ok a) → (∀ endpoint reason, result ≠ .error (.transport endpoint reason)) →
      IsFresh settings s) : Ends settings (reached result >>= f) s good := by
  unfold reached
  split
  case h_1 a => exact hok a rfl
  case h_2 endpoint reason => exact hreason endpoint reason rfl
  case h_3 f hother =>
    exact ends_bind (ends_throw (hfail (by simp) fun endpoint reason h => by
      cases h
      exact hother endpoint reason rfl))

/-! ## Transforms -/

/-- An outcome that counts, or the reason why there is none, has been reported: only the editor of
the output is left to catch up. -/
theorem ends_reportOutcome (h : IsWired settings s) (generation : Nat)
    (o : Except String Service.Outcome) :
    Ends settings (reportOutcome (Screen.follow settings) generation o) s fun _ t =>
      AwaitsText settings t := by
  have htell {n : Note} {message : String} {level : NoticeLevel} :
      Ends settings (do
        write n
        announceState (Screen.follow settings) .output
        announceNotice (Screen.follow settings) message level) s fun _ t =>
          AwaitsText settings t := by
    have hnoted : IsWired settings (s.note n) := h.of_same (sameWiring_noteAll s [n])
    refine ends_change (ends_announceState hnoted.watched ?_)
    have hlines := hnoted.told_output
    exact ends_of_run (run_announce hlines.watched (.inr rfl)) (hlines.told _)
  unfold reportOutcome
  split
  · exact htell
  · split
    · exact htell
    · exact htell

/-- The editor of the output catches up. -/
theorem endsFresh_conclude (h : AwaitsText settings s) (o : Option Service.Outcome) :
    EndsFresh settings (conclude true o) s :=
  ends_change (endsFresh_done h.syncOutput _)

theorem endsFresh_finishTransform (h : IsFresh settings s) (generation : Nat) (r : Reaction) :
    EndsFresh settings (finishTransform (Screen.follow settings) generation true r) s := by
  unfold finishTransform
  rcases Service.Client.readOutcome r with ⟨notes, result⟩
  dsimp only
  refine ends_change (ends_get (ends_change ?_))
  have hnoted := h.of_same (sameWiring_noteAll s notes) rfl
  by_cases hlatest : generation = (s.noteAll notes).generation
  · -- the outcome counts: lines, tree and editor have to catch up
    have hwired : IsWired settings ((s.noteAll notes).hearOutcome generation result) :=
      hnoted.toIsWired.of_same ⟨rfl, rfl, rfl, rfl, rfl, rfl⟩
    have hcounts (o : Except String Service.Outcome) : EndsFresh settings
        (reportOutcome (Screen.follow settings) generation o >>= fun _ => conclude true o.toOption)
        ((s.noteAll notes).hearOutcome generation result) :=
      ends_bind ((ends_reportOutcome hwired generation o).mono fun _ _ ht =>
        endsFresh_conclude ht _)
    simp only [if_pos hlatest]
    refine ends_reached (fun o _ => hcounts (.ok o)) (fun _ reason _ => hcounts (.error reason)) ?_
    intro hok hreason
    refine hnoted.hearOutcome ?_
    rw [store_hearOutcome, if_pos hlatest]
    unfold transformed
    split
    · exact absurd rfl (hok _)
    · exact absurd rfl (hreason _ _)
    · rfl
  · -- a later transform has begun: nothing has changed
    have hsame : IsFresh settings ((s.noteAll notes).hearOutcome generation result) := by
      refine hnoted.hearOutcome ?_
      rw [store_hearOutcome, if_neg hlatest]
    have hdropped (o : Except String Service.Outcome) : EndsFresh settings
        (write (supersededNote generation (s.noteAll notes).generation) >>= fun _ => conclude true o.toOption)
        ((s.noteAll notes).hearOutcome generation result) :=
      ends_write hsame fun t ht _ => endsFresh_conclude ht.toAwaitsText _
    simp only [if_neg hlatest]
    exact ends_reached (fun o _ => hdropped (.ok o)) (fun _ reason _ => hdropped (.error reason))
      fun _ _ => hsame

theorem endsFresh_beginTransform (h : IsFresh settings s) :
    EndsFresh settings (beginTransform (Screen.follow settings) true) s := by
  refine ends_change (ends_get (ends_change ?_))
  have hbegun (n : Note) : AwaitsLines settings (s.begin.note n) :=
    h.toAwaitsLines.begin.of_same (sameWiring_noteAll _ _) rfl
  refine (hbegun _).tell fun t ht _ => ends_bind ((ends_send ht _).mono fun reply u hu => ?_)
  exact endsFresh_receive hu (endsFresh_finishTransform hu _ _) rfl

theorem endsFresh_handleTransform (h : IsFresh settings s) :
    EndsFresh settings (handleTransform (Screen.follow settings)) s := by
  refine ends_get ?_
  split
  case h_1 reason _ =>
    have hwarned : IsFresh settings { s with lastWarning := some reason } :=
      h.of_same ⟨rfl, rfl, rfl, rfl, rfl, rfl⟩ rfl
    exact ends_change (ends_write hwarned fun t ht _ => ht.notify fun u hu => endsFresh_done hu _)
  case h_2 => exact endsFresh_beginTransform h

theorem endsFresh_requestTransform (h : IsFresh settings s) :
    EndsFresh settings (requestTransform (Screen.follow settings)) s :=
  ends_get (ends_write h fun _ ht _ => endsFresh_handleTransform ht)

theorem endsFresh_triggerTransform (h : IsFresh settings s) :
    EndsFresh settings (triggerTransform (Screen.follow settings)) s :=
  ends_change (endsFresh_requestTransform (h.of_same (sameWiring_record s _) rfl))

/-! ## Validation -/

theorem endsFresh_reportVerdict (h : AwaitsLines settings s) (d : Draft) (v : Service.Verdict)
    (wasReady : Bool) :
    EndsFresh settings (reportVerdict (Screen.follow settings) d v wasReady) s := by
  have hnoted : AwaitsLines settings (s.note (appliedNote d v.valid)) :=
    h.of_same (sameWiring_noteAll _ _) rfl
  refine ends_change (hnoted.tell fun t ht _ => ends_get ?_)
  dsimp only
  split
  · exact ends_write ht fun u hu _ => endsFresh_triggerTransform hu
  · exact endsFresh_done ht _

theorem endsFresh_finishValidation (h : IsFresh settings s) (d : Draft) (text : String)
    (r : Reaction) :
    EndsFresh settings (finishValidation (Screen.follow settings) d text r) s := by
  unfold finishValidation
  rcases Service.Client.readVerdict d r with ⟨notes, result⟩
  dsimp only
  refine ends_change (ends_get (ends_change ?_))
  have hnoted := h.of_same (sameWiring_noteAll s notes) rfl
  have hheard := hnoted.toAwaitsLines.hearVerdict d text result
  by_cases hcurrent : ((s.noteAll notes).store.draft d).text = text
  · -- the verdict counts: the lines have to catch up
    refine ends_reached (fun v _ => ?_) (fun _ reason _ => ?_) fun hok hreason => ?_
    · rw [if_neg (not_not_intro hcurrent)]
      exact endsFresh_reportVerdict hheard d v _
    · rw [if_neg (not_not_intro hcurrent)]
      refine ends_change (AwaitsLines.tell (hheard.of_same (sameWiring_noteAll _ _) rfl) ?_)
      exact fun t ht _ => endsFresh_done ht _
    · refine hnoted.hearVerdict ?_
      unfold heard
      rw [if_pos hcurrent]
      split
      · exact absurd rfl (hok _)
      · exact absurd rfl (hreason _ _)
      · rfl
  · -- the draft holds another text by now: nothing has changed
    have hsame : IsFresh settings ((s.noteAll notes).hearVerdict d text result) :=
      hnoted.hearVerdict (if_neg hcurrent)
    have hstale : EndsFresh settings (do
        write (staleNote d.buffer)
        pure (.done .nothing)) ((s.noteAll notes).hearVerdict d text result) :=
      ends_write hsame fun t ht _ => endsFresh_done ht _
    refine ends_reached (fun v _ => ?_) (fun _ reason _ => ?_) fun _ _ => hsame
    · rwa [if_pos hcurrent]
    · rwa [if_pos hcurrent]

theorem endsFresh_validate (h : IsFresh settings s) {b : Buffer} (hb : b.draft?.isSome = true)
    (text : String) : EndsFresh settings (validate (Screen.follow settings) b text) s := by
  obtain ⟨d, hd⟩ := Option.isSome_iff_exists.mp hb
  unfold validate
  simp only [hd]
  refine ends_bind ((ends_send h _).mono fun reply t ht => ?_)
  exact endsFresh_receive ht (endsFresh_finishValidation ht d text _) rfl

/-! ## Edits -/

theorem endsFresh_handleEdit (h : IsFresh settings s) (e : Event) :
    EndsFresh settings (handleEdit (Screen.follow settings) e) s := by
  unfold handleEdit
  split
  · refine ends_change ((h.toAwaitsLines.applyEdit _ _ _).tell ?_)
    exact fun t ht _ => endsFresh_done ht _
  · exact ends_write h fun t ht _ => endsFresh_done ht _

theorem endsFresh_handleArmed (h : IsFresh settings s) (armed : Bool) :
    EndsFresh settings (handleArmed (Screen.follow settings) armed) s := by
  refine ends_get (ends_change (ends_write (h.switch armed) fun t ht _ => ?_))
  split
  · exact endsFresh_triggerTransform ht
  · exact endsFresh_done ht _

theorem endsFresh_dispatch (h : IsFresh settings s) (e : Event) :
    EndsFresh settings (dispatch (Screen.follow settings) e) s := by
  refine ends_get ?_
  unfold Bus.dispatch
  split
  · refine ends_write h fun t ht _ => ?_
    dsimp only
    split
    · exact endsFresh_handleEdit ht e
    · exact endsFresh_handleTransform ht
    · exact endsFresh_handleArmed ht _
    · exact ends_present ht e fun u hu => endsFresh_done hu _
  · exact ends_write h fun t ht _ => endsFresh_done ht _

theorem endsFresh_edit (h : IsFresh settings s) (b : Buffer) (text : String) :
    EndsFresh settings (edit (Screen.follow settings) b text) s :=
  ends_get (ends_write h fun _ ht _ => endsFresh_handleEdit ht _)

theorem endsFresh_format (h : IsFresh settings s) (b : Buffer) :
    EndsFresh settings (format (Screen.follow settings) b) s := by
  have htell {t : Session Screen} (ht : IsFresh settings t) :
      EndsFresh settings (announceFormatted (Screen.follow settings) b) t := by
    unfold announceFormatted
    split
    · exact ht.notify fun u hu => endsFresh_done hu _
    · exact ends_throw ht
  unfold format
  refine ends_get ?_
  dsimp only
  split
  · exact endsFresh_done h _
  split
  · exact h.notify fun _ ht => endsFresh_done ht _
  · split
    · exact ends_bind ((endsFresh_edit h _ _).mono fun _ _ ht => htell ht.1)
    · exact htell h

theorem endsFresh_clear (h : IsFresh settings s) (d : Draft) :
    EndsFresh settings (clear (Screen.follow settings) d) s :=
  ends_bind ((endsFresh_edit h _ _).mono fun _ _ ht => ht.1.notify fun _ hu => endsFresh_done hu _)

/-! ## Actions -/

theorem endsFresh_start (h : IsFresh settings s) {a : Action} (ha : isOfStudio a = true) :
    EndsFresh settings (start (Screen.follow settings) a) s := by
  cases a with
  | dispatch e => exact endsFresh_dispatch h e
  | format b => exact endsFresh_format h b
  | clear d => exact endsFresh_clear h d
  | requestTransform => exact endsFresh_requestTransform h
  | setArmed armed => exact endsFresh_dispatch h _
  | validate b text => exact endsFresh_validate h ha text
  | report name => exact ends_change (endsFresh_done (h.report name) _)
  | _ => cases ha

theorem endsFresh_goOn (h : IsFresh settings s) {stage : Stage}
    (hstage : isStageOfStudio stage = true) :
    EndsFresh settings (goOn (Screen.follow settings) stage) s := by
  cases stage with
  | start a => exact endsFresh_start h hstage
  | verdict d text r => exact endsFresh_finishValidation h d text r
  | outcome generation requested r =>
    cases (hstage : requested = true)
    exact endsFresh_finishTransform h generation r
  | _ => cases hstage

end Workbench.Studio
