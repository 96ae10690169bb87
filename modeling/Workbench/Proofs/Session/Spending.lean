import Workbench.Proofs.Session.Settling
import Workbench.Proofs.Session.Toil
import Workbench.Proofs.Session.Touch

/-!
# What stretches of work make for

A stretch of work is granted so much for what may come of it; what it does not use is left to go on with.
Each stage is granted what it weighs, less one, and leaves what it pauses before, and one more to wake up:
so there is less to be done after it. Only looking whether others are done is for nothing.
-/
namespace Workbench.Session

open Document (Buffer Draft)
open Service (Reaction)
open Turn (Activity)

variable {V : Type} {α β : Type} {view : View V} {w : Wiring} {n k : Nat}

/-- If it pauses, it does so for a while and does not settle then, and enough is left for that. -/
def Progress.IsPaid (w : Wiring) : Progress → Nat → Prop
  | .done _, _ => True
  | .paused (.time _) next, k => next.isUnderWay = true ∧ next.settles = false ∧ next.toil w < k
  | .paused (.activities _) _, _ => False

namespace Act

/-- A stretch of work with `n` granted for what may come of it. What is left then suits its result. -/
def Spends (w : Wiring) (n : Nat) (x : Act V α) (Q : α → Nat → Prop) : Prop :=
  ∀ s, ∃ k, Fares w n k s (x.run s).2 ∧ ∀ a, (x.run s).1 = .ok a → Q a k

variable {Q : α → Nat → Prop} {Q' : β → Nat → Prop}

/-! ## Putting stretches of work together -/

theorem spends_pure {a : α} (h : Q a n) : Spends w n (pure a : Act V α) Q := by
  intro s
  refine ⟨n, .refl w n s, fun b hb => ?_⟩
  rw [run_pure] at hb
  cases hb
  exact h

theorem spends_throw {f : Failure} : Spends w n (throw f : Act V α) Q :=
  fun s => ⟨n, .refl w n s, fun _ h => by cases h⟩

theorem Spends.bind {x : Act V α} {f : α → Act V β} (hx : Spends w n x Q)
    (hf : ∀ a k, Q a k → Spends w k (f a) Q') : Spends w n (x >>= f) Q' := by
  intro s
  obtain ⟨k, hfares, hresult⟩ := hx s
  rw [run_bind]
  rcases hr : x.run s with ⟨e | a, t⟩
  · rw [hr] at hfares
    exact ⟨k, hfares, fun b hb => by cases hb⟩
  · rw [hr] at hfares hresult
    obtain ⟨k', hfares', hresult'⟩ := hf a k (hresult a rfl) t
    exact ⟨k', hfares.trans hfares', hresult'⟩

theorem Spends.grant {x : Act V α} (h : Spends w n x Q) {m : Nat} (hm : n ≤ m) :
    Spends w m x Q := by
  intro s
  obtain ⟨k, hfares, hresult⟩ := h s
  exact ⟨k, hfares.mono (by omega), hresult⟩

theorem spends_get {f : Session V → Act V β} (h : ∀ s, Spends w n (f s) Q') :
    Spends w n (get >>= f) Q' := fun s => h s s

theorem spends_change {g : Session V → Session V} {f : Unit → Act V β}
    (hg : ∀ s, Fares w n k s (g s)) (hf : Spends w k (f ()) Q') :
    Spends w n (change g >>= f) Q' := by
  have hchange : Spends w n (change g) fun _ m => m = k :=
    fun s => ⟨k, by rw [run_change]; exact hg s, fun _ _ => rfl⟩
  exact hchange.bind fun _ m hm => hm ▸ hf

/-- Neither activities nor timers change, nor do editors. -/
theorem spends_same {g : Session V → Session V} {f : Unit → Act V β}
    (hboard : ∀ s, (g s).board = s.board) (hscheduler : ∀ s, (g s).scheduler = s.scheduler)
    (heditors : ∀ s, (g s).editors = s.editors) (hattached : ∀ s, (g s).attached = s.attached)
    (hf : Spends w n (f ()) Q') : Spends w n (change g >>= f) Q' := by
  refine spends_change (fun s => ?_) hf
  exact .of_same n (hboard s) (by rw [hscheduler]) (heditors s) (by rw [hattached])

/-- What only tells of something comes before the rest. -/
theorem IsQuiet.spends_bind {x : Act V α} {f : α → Act V β} (hx : IsQuiet view x)
    (hf : ∀ a, Spends w n (f a) Q') : Spends w n (x >>= f) Q' := by
  have hquiet : Spends w n x fun _ k => k = n :=
    fun s => ⟨n, (hx.still s).fares n, fun _ _ => rfl⟩
  exact hquiet.bind fun a _ hk => hk ▸ hf a

theorem spends_noteAll {ns : List Note} {f : Unit → Act V β} (h : Spends w n (f ()) Q') :
    Spends w n (change (noteAll ns) >>= f) Q' :=
  spends_same (fun _ => rfl) (fun _ => rfl) (fun _ => rfl) (fun _ => rfl) h

theorem spends_write {note : Note} {f : Unit → Act V β} (h : Spends w n (f ()) Q') :
    Spends w n (write note >>= f) Q' := spends_noteAll h

theorem spends_done (n : Nat) (a : Answer) :
    Spends w n (pure (.done a) : Act V Progress) (Progress.IsPaid w) := spends_pure trivial

/-! ## Calls -/

theorem spends_send_bind (c : Service.Call) {f : Service.Reply → Act V β}
    (hf : ∀ r, Spends w n (f r) Q') : Spends w n (send c >>= f) Q' := by
  have hsend : Spends w n (send c : Act V Service.Reply) fun _ k => k = n := by
    refine spends_noteAll (spends_get fun s => ?_)
    split
    · exact spends_same (fun _ => rfl) (fun _ => rfl) (fun _ => rfl) (fun _ => rfl) spends_throw
    · exact spends_same (fun _ => rfl) (fun _ => rfl) (fun _ => rfl) (fun _ => rfl) (spends_pure rfl)
  exact hsend.bind fun r _ hk => hk ▸ hf r

theorem spends_receive {reply : Service.Reply} {now : Reaction → Act V Progress}
    {later : Reaction → Stage} (hnow : ∀ r, Spends w n (now r) (Progress.IsPaid w))
    (hlater : ∀ r, (later r).isUnderWay = true ∧ (later r).settles = false ∧ (later r).toil w < n) :
    Spends w n (receive reply now later) (Progress.IsPaid w) := by
  unfold receive
  split
  · exact hnow _
  · exact spends_pure (hlater _)

theorem spends_reached_bind {γ : Type} (result : Except Failure γ) {f : Except String γ → Act V β}
    (hf : ∀ a, Spends w n (f a) Q') : Spends w n (reached result >>= f) Q' := by
  have hreached : Spends w n (reached result : Act V _) fun _ k => k = n := by
    unfold reached
    split
    · exact spends_pure rfl
    · exact spends_pure rfl
    · exact spends_throw
  exact hreached.bind fun a _ hk => hk ▸ hf a

/-! ## Transforms -/

theorem spends_conclude (requested : Bool) (o : Option Service.Outcome) :
    Spends w 2 (conclude requested o : Act V Progress) (Progress.IsPaid w) := by
  unfold conclude
  split
  · exact spends_change (fun s => fares_syncEditor (k := 0) s .output _) (spends_done 0 _)
  · exact spends_done 2 _

theorem spends_finishTransform (generation : Nat) (requested : Bool) (r : Reaction) :
    Spends w 2 (finishTransform view generation requested r) (Progress.IsPaid w) := by
  refine spends_noteAll (spends_get fun s => ?_)
  refine spends_same (fun _ => rfl) (fun _ => rfl) (fun _ => rfl) (fun _ => rfl) ?_
  refine spends_reached_bind _ fun o => ?_
  dsimp only
  split
  · exact (isQuiet_reportOutcome _ _).spends_bind fun _ => spends_conclude _ _
  · exact spends_write (spends_conclude _ _)

theorem spends_callTransform (requested : Bool) :
    Spends w 4 (callTransform view requested) (Progress.IsPaid w) := by
  refine spends_get fun s => spends_write ?_
  refine (isQuiet_announceState _).spends_bind fun _ => spends_send_bind _ fun r => ?_
  refine spends_receive (fun r => (spends_finishTransform _ _ r).grant (by decide)) fun r => ?_
  exact ⟨rfl, rfl, Nat.lt_add_one 3⟩

theorem spends_beginTransform (requested : Bool) :
    Spends w 4 (beginTransform view requested) (Progress.IsPaid w) :=
  spends_same (fun _ => rfl) (fun _ => rfl) (fun _ => rfl) (fun _ => rfl)
    (spends_callTransform requested)

theorem spends_transform : Spends w 4 (transform view) (Progress.IsPaid w) := by
  refine spends_get fun s => ?_
  split
  · exact spends_throw
  · exact spends_beginTransform false

theorem spends_handleTransform : Spends w 4 (handleTransform view) (Progress.IsPaid w) := by
  refine spends_get fun s => ?_
  split
  · refine spends_same (fun _ => rfl) (fun _ => rfl) (fun _ => rfl) (fun _ => rfl) ?_
    refine spends_write ?_
    exact (isQuiet_announceNotice _ _).spends_bind fun _ => spends_done 4 _
  · exact spends_beginTransform true

theorem spends_requestTransform : Spends w 4 (requestTransform view) (Progress.IsPaid w) :=
  spends_get fun _ => spends_write spends_handleTransform

theorem spends_triggerTransform : Spends w 4 (triggerTransform view) (Progress.IsPaid w) :=
  spends_same (fun _ => rfl) (fun _ => rfl) (fun _ => rfl) (fun _ => rfl) spends_requestTransform

/-! ## Validation -/

theorem spends_reportVerdict (d : Draft) (v : Service.Verdict) (wasReady : Bool) :
    Spends w 4 (reportVerdict view d v wasReady) (Progress.IsPaid w) := by
  refine spends_write ?_
  refine (isQuiet_announceState _).spends_bind fun _ => spends_get fun s => ?_
  dsimp only
  split
  · exact spends_write spends_triggerTransform
  · exact spends_done 4 _

theorem spends_finishValidation (d : Draft) (text : String) (r : Reaction) :
    Spends w 4 (finishValidation view d text r) (Progress.IsPaid w) := by
  unfold finishValidation
  rcases Service.Client.readVerdict d r with ⟨notes, result⟩
  refine spends_noteAll (spends_get fun s => ?_)
  refine spends_same (fun _ => rfl) (fun _ => rfl) (fun _ => rfl) (fun _ => rfl) ?_
  refine spends_reached_bind _ fun verdict => ?_
  split
  · exact spends_write (spends_done 4 _)
  split
  · exact spends_reportVerdict _ _ _
  · refine spends_write ?_
    exact (isQuiet_announceState _).spends_bind fun _ => spends_done 4 _

theorem spends_finishStray (text : String) (r : Reaction) :
    Spends w n (finishStray text r : Act V Progress) (Progress.IsPaid w) := by
  unfold finishStray
  rcases Service.Client.readVerdict .spec r with ⟨notes, result⟩
  refine spends_noteAll ?_
  have hstray : Spends w n (refuseStray text : Act V Progress) (Progress.IsPaid w) := by
    refine spends_get fun s => ?_
    split
    · exact spends_write (spends_done n _)
    · exact spends_throw
  split
  · exact hstray
  · exact hstray
  · exact spends_throw

theorem spends_validate (b : Buffer) (text : String) :
    Spends w 6 (validate view b text) (Progress.IsPaid w) := by
  unfold validate
  split
  case h_1 d _ =>
    refine spends_send_bind _ fun _ => spends_receive (fun r => ?_) fun r => ⟨rfl, rfl, Nat.lt_add_one 5⟩
    exact (spends_finishValidation d text r).grant (by decide)
  case h_2 =>
    refine spends_send_bind _ fun _ => spends_receive (fun r => spends_finishStray text r) fun r => ?_
    exact ⟨rfl, rfl, by simp [Stage.toil]⟩

/-! ## Edits -/

/-- What is granted for an event: more for an edit that does not come from an editor, since that is put
into the editor. -/
def eventToil (e : Event) : Nat := if e.fromEditor then 9 else 33

theorem spends_handleEdit (e : Event) :
    Spends w (eventToil e) (handleEdit view e) (Progress.IsPaid w) := by
  unfold handleEdit
  split
  · refine spends_change (fun s => fares_applyEdit (k := 0) s _ _ _) ?_
    exact (isQuiet_announceState _).spends_bind fun _ => spends_done 0 _
  · exact spends_write (spends_done _ _)

theorem spends_handleArmed (armed : Bool) :
    Spends w 4 (handleArmed view armed) (Progress.IsPaid w) := by
  refine spends_get fun s => ?_
  refine spends_same (fun _ => rfl) (fun _ => rfl) (fun _ => rfl) (fun _ => rfl) ?_
  refine spends_write ?_
  split
  · exact spends_triggerTransform
  · exact spends_done 4 _

theorem spends_dispatch (e : Event) (hn : e.type = .bufferEdited → eventToil e ≤ n) (hfour : 4 ≤ n) :
    Spends w n (dispatch view e) (Progress.IsPaid w) := by
  refine spends_get fun s => ?_
  unfold Bus.dispatch
  split
  case h_1 handler hhandler =>
    refine spends_write ?_
    cases handler with
    | applyEdit => exact (spends_handleEdit e).grant (hn (find?_bus_applyEdit s hhandler))
    | transform => exact spends_handleTransform.grant hfour
    | setArmed => exact (spends_handleArmed _).grant hfour
    | view => exact (isQuiet_present e).spends_bind fun _ => spends_done n _
  case h_2 => exact spends_write (spends_done n _)

theorem spends_edit (b : Buffer) (text : String) :
    Spends w 33 (edit view b text) (Progress.IsPaid w) :=
  spends_dispatch _ (fun _ => Nat.le_refl 33) (by decide)

theorem spends_announceFormatted (n : Nat) (b : Buffer) :
    Spends w n (announceFormatted view b) (Progress.IsPaid w) := by
  unfold announceFormatted
  split
  · exact (isQuiet_announceNotice _ _).spends_bind fun _ => spends_done n _
  · exact spends_throw

theorem spends_format (b : Buffer) : Spends w 33 (format view b) (Progress.IsPaid w) := by
  refine spends_get fun s => ?_
  dsimp only
  split
  · exact spends_done 33 _
  split
  · exact (isQuiet_announceNotice _ _).spends_bind fun _ => spends_done 33 _
  split
  · exact (spends_edit b _).bind fun _ k _ => spends_announceFormatted k b
  · exact spends_announceFormatted 33 b

theorem spends_clear (d : Draft) : Spends w 33 (clear view d) (Progress.IsPaid w) :=
  (spends_edit d.buffer _).bind fun _ k _ =>
    (isQuiet_announceNotice _ _).spends_bind fun _ => spends_done k _

/-! ## All stages -/

theorem spends_plainly {f : Session V → Session V} (h : ∀ s, Fares w n 0 s (f s)) :
    Spends w n (plainly f) (Progress.IsPaid w) := spends_change h (spends_done 0 _)

theorem spends_finishOperations (n : Nat) (r : Reaction) :
    Spends w n (finishOperations r : Act V Progress) (Progress.IsPaid w) := by
  unfold finishOperations
  split
  · exact spends_done n _
  · exact spends_throw

/-- Starting an action that does not settle. One less than it weighs is granted. -/
theorem spends_start {a : Action} (ha : a.Suits w) (hsettles : (Stage.start a).settles = false) :
    Spends w (a.toil w - 1) (start view a) (Progress.IsPaid w) := by
  cases a with
  | edit b text => exact spends_edit b text
  | format b => exact spends_format b
  | clear d => exact spends_clear d
  | requestTransform => exact spends_requestTransform
  | setArmed armed => exact spends_dispatch _ (fun htype => by cases htype) (Nat.le_refl 4)
  | validate b text => exact spends_validate b text
  | transform => exact spends_transform
  | checkDrafts =>
    refine spends_get fun s => ?_
    split
    · exact spends_throw
    · exact spends_done _ _
  | dispatch e =>
    refine spends_dispatch e (fun _ => ?_) ?_ <;> simp only [Action.toil, eventToil] <;> split <;> omega
  | listOperations =>
    exact spends_send_bind _ fun _ =>
      spends_receive (fun r => spends_finishOperations 2 r) fun r => ⟨rfl, rfl, Nat.lt_add_one 1⟩
  | treeView => exact spends_get fun _ => spends_done _ _
  | settle => cases hsettles
  | enter => exact spends_done _ _
  | close => exact spends_plainly fun s => fares_close s 0
  | attach b name =>
    exact spends_change (fun s => fares_attach (k := 0) s ha) (spends_done 0 _)
  | type name text =>
    refine spends_get fun s => ?_
    split
    · exact spends_plainly fun s => fares_typeInto (k := 0) s name text
    · exact spends_throw
  | report name =>
    refine spends_plainly fun s => (fares_report (k := 0) s name).mono ?_
    simp only [Action.toil, Wiring.reportToil]
    split <;> omega

/-- Going on with a stage that does not settle. -/
theorem spends_goOn (view : View V) {stage : Stage} (hstage : stage.Suits w)
    (hsettles : stage.settles = false) :
    Spends w (stage.toil w - 1) (goOn view stage) (Progress.IsPaid w) := by
  cases stage with
  | start a => exact spends_start hstage hsettles
  | verdict d text r => exact spends_finishValidation d text r
  | stray text r => exact spends_finishStray text r
  | outcome generation requested r => exact spends_finishTransform generation requested r
  | names r => exact spends_finishOperations _ r
  | drain => cases hsettles

end Act

/-! ## Looking whether the session has settled -/

/-- What one who looks pauses for: a while, or the end of some who are waited for. -/
def Pause.IsLook (s : Session V) : Pause → Prop
  | .time duration => 0 < duration
  | .activities others =>
    others ≠ [] ∧ ∀ a ∈ others, a ∈ s.board.activities ∧ a.role.isAwaited = true

theorem isLook_validations {s : Session V} (h : s.validations ≠ []) :
    (Pause.activities s.validations).IsLook s := by
  refine ⟨h, fun a ha => ?_⟩
  obtain ⟨hmem, hrole⟩ := List.mem_filter.mp ha
  obtain hrole : a.role = .validation := by simpa using hrole
  exact ⟨hmem, by rw [hrole]; rfl⟩

theorem isLook_pendingEdits {s : Session V} (h : s.pendingEdits ≠ []) :
    (Pause.activities s.pendingEdits).IsLook s := by
  refine ⟨h, fun a ha => ?_⟩
  obtain ⟨hmem, hrole⟩ := List.mem_filter.mp ha
  obtain hrole : a.role = .edit := by simpa using hrole
  exact ⟨hmem, by rw [hrole]; rfl⟩

/-- Either the session has settled, or one has to look again. Nothing else happens. -/
def Act.Looks (x : Act V Progress) (s : Session V) : Prop :=
  (x.run s = (.ok (.done .nothing), s) ∧ IsSettled s) ∨
    ∃ pause, x.run s = (.ok (.paused pause .drain), s) ∧ pause.IsLook s ∧ ¬ IsSettled s

/-- The edits in editors that are still to be applied are waited for. -/
theorem looks_awaitEdits {s : Session V} (h : s.pendingEdits ≠ []) :
    Act.Looks (Act.awaitEdits (.done .nothing)) s := by
  refine .inr ⟨.activities s.pendingEdits, ?_, isLook_pendingEdits h, fun hsettled => h hsettled.2⟩
  unfold Act.awaitEdits
  rw [Act.run_bind, Act.run_get]
  dsimp only
  rw [if_neg (by simpa using h)]
  rfl

theorem looks_drain (s : Session V) : Act.Looks Act.drain s := by
  by_cases hvalidations : s.validations = []
  case neg =>
    refine .inr ⟨_, run_drain_of_validations hvalidations, isLook_validations hvalidations, ?_⟩
    exact fun hsettled => hvalidations (by simpa [isIdle] using hsettled.1 : _ ∧ _).2
  by_cases hpending : s.scheduler.pending = []
  case neg =>
    have hwait : s.scheduler.wait s.validations = .time s.scheduler.pollTime := by
      unfold Coalescing.Scheduler.wait
      rw [hvalidations, List.isEmpty_nil, if_pos rfl, if_neg (by simpa using hpending)]
    refine .inr ⟨.time s.scheduler.pollTime, ?_, ?_, fun hsettled => hpending ?_⟩
    · unfold Act.drain
      rw [Act.run_bind, Act.run_get]
      dsimp only
      rw [hwait]
      rfl
    · exact Nat.lt_of_lt_of_le (by decide) (Nat.le_max_right _ 1000)
    · exact (by simpa [isIdle] using hsettled.1 : _ ∧ _).1
  by_cases hedits : s.pendingEdits = []
  · refine .inl ⟨run_drain hpending hvalidations hedits, ?_, hedits⟩
    simp [isIdle, hpending, hvalidations]
  · have hdrain : (Act.drain : Act V Progress).run s = (Act.awaitEdits (.done .nothing)).run s := by
      have hwait : s.scheduler.wait s.validations = .nothing := by
        unfold Coalescing.Scheduler.wait
        rw [hvalidations, hpending]
        rfl
      unfold Act.drain
      rw [Act.run_bind, Act.run_get]
      dsimp only
      rw [hwait]
    unfold Act.Looks
    rw [hdrain]
    exact looks_awaitEdits hedits

/-- Whoever settles looks, and does nothing else. -/
theorem looks_goOn (view : View V) {stage : Stage} (h : stage.settles = true) (s : Session V) :
    (Act.goOn view stage).Looks s := by
  cases stage with
  | start a =>
    cases a with
    | settle =>
      have hsettle : (Act.goOn view (.start .settle)).run s =
          (if s.pendingEdits.isEmpty then Act.drain else Act.awaitEdits (.done .nothing)).run s := rfl
      unfold Act.Looks
      rw [hsettle]
      split
      · exact looks_drain s
      case isFalse hsome => exact looks_awaitEdits (by simpa using hsome)
    | _ => cases h
  | drain => exact looks_drain s
  | _ => cases h

/-! ## What comes of a plan -/

/-- What comes of going on with a plan. One who only looks does so again; and else there is less to be
done, whether the activity ends, sleeps, or comes to look whether the session has settled. -/
inductive Goes (w : Wiring) (plan : Plan) (s : Session V) : Except Failure Course × Session V → Prop
  | looks (h : plan.looks = true) {pause} (hpause : pause.IsLook s) (hsettled : ¬ IsSettled s) :
      Goes w plan s (.ok (.paused pause plan), s)
  | ends {result t} (hresult : ∀ pause next, result ≠ .ok (.paused pause next))
      (h : Fares w (plan.toil w) 1 s t) : Goes w plan s (result, t)
  | sleeps {time next t} (hstage : next.stage.settles = false) (hrest : plan.rest = [] → next.rest = [])
      (hsuits : next.Suits w) (h : Fares w (plan.toil w) (next.toil w + 2) s t) :
      Goes w plan s (.ok (.paused (.time time) next), t)
  | settles {pause next t} (hnext : next.looks = true) (hlong : ¬ plan.IsBrief) (hsuits : next.Suits w)
      (hpause : pause.IsLook t) (h : Fares w (plan.toil w) (next.toil w + 1) s t) :
      Goes w plan s (.ok (.paused pause next), t)

section Goes

variable {s t : Session V} {stage : Stage} (hstage : stage.Suits w)

include hstage

theorem fares_of_done {a : Answer} (h : (Act.goOn view stage).run s = (.ok (.done a), t)) :
    Fares w (stage.toil w) 1 s t := by
  have hpos := stage.toil_pos w
  cases hsettles : stage.settles with
  | true =>
    obtain ⟨hrun, -⟩ | ⟨pause, hrun, -⟩ := looks_goOn view hsettles s <;> rw [h] at hrun <;>
      cases hrun
    exact (Fares.refl w 1 s).mono (by omega)
  | false =>
    obtain ⟨k, hfares, -⟩ := Act.spends_goOn view hstage hsettles s
    rw [h] at hfares
    exact hfares.mono (by omega)

theorem fares_of_error {f : Failure} (h : (Act.goOn view stage).run s = (.error f, t)) :
    Fares w (stage.toil w) 1 s t := by
  have hpos := stage.toil_pos w
  cases hsettles : stage.settles with
  | true =>
    obtain ⟨hrun, -⟩ | ⟨pause, hrun, -⟩ := looks_goOn view hsettles s <;> rw [h] at hrun <;>
      cases hrun
  | false =>
    obtain ⟨k, hfares, -⟩ := Act.spends_goOn view hstage hsettles s
    rw [h] at hfares
    exact hfares.mono (by omega)

theorem goes_of_paused {pause : Pause} {next : Stage} {rest : List Action} (hrest : ∀ a ∈ rest, a.Suits w)
    (h : (Act.goOn view stage).run s = (.ok (.paused pause next), t)) (answers : List Answer) :
    Goes w ⟨stage, rest, answers⟩ s (.ok (.paused pause ⟨next, rest, answers⟩), t) := by
  cases hsettles : stage.settles with
  | true =>
    obtain ⟨hrun, -⟩ | ⟨look, hrun, hlook, hsettled⟩ := looks_goOn view hsettles s <;>
      rw [h] at hrun <;> cases hrun
    cases stage with
    | drain => exact .looks rfl hlook hsettled
    | start a =>
      cases a with
      | settle =>
        refine .settles rfl (fun hbrief => ?_) ⟨trivial, hrest⟩ hlook ((Fares.refl w 0 s).mono ?_)
        · cases hbrief.stage
        · simp only [Plan.toil, Stage.toil, Action.toil]
          omega
      | _ => cases hsettles
    | _ => cases hsettles
  | false =>
    obtain ⟨k, hfares, hpaid⟩ := Act.spends_goOn view hstage hsettles s
    rw [h] at hfares hpaid
    have hpaid := hpaid _ rfl
    cases pause with
    | activities others => exact hpaid.elim
    | time duration =>
      obtain ⟨hunder, hnext, hless⟩ := hpaid
      refine .sleeps hnext id ⟨?_, hrest⟩ (hfares.mono ?_)
      · cases next with
        | start => cases hunder
        | _ => trivial
      · have hpos := stage.toil_pos w
        simp only [Plan.toil]
        omega

end Goes

/-- What comes of the actions that are left, once there are such. -/
theorem Goes.after {plan last : Plan} {s t : Session V} {x : Except Failure Course × Session V}
    (h : Goes w last t x) (hs : Fares w (plan.toil w) (last.toil w) s t) (hlast : last.looks = false)
    (hrest : plan.rest ≠ []) : Goes w plan s x := by
  cases h with
  | looks h =>
    rw [hlast] at h
    cases h
  | ends hresult h => exact .ends hresult (hs.trans h)
  | sleeps hstage _ hsuits h => exact .sleeps hstage (fun hnil => absurd hnil hrest) hsuits (hs.trans h)
  | settles hnext _ hsuits hpause h =>
    exact .settles hnext (fun hbrief => hrest hbrief.rest) hsuits hpause (hs.trans h)

/-- Going on with a plan. -/
theorem goes_follow (view : View V) {plan : Plan} (hplan : plan.Suits w) (s : Session V) :
    Goes w plan s ((follow view plan.rest plan.stage plan.answers).run s) := by
  obtain ⟨stage, rest, answers⟩ := plan
  obtain ⟨hstage, hrest⟩ := hplan
  dsimp only at hstage hrest ⊢
  induction rest generalizing stage answers s with
  | nil =>
    rcases hrun : (Act.goOn view stage).run s with ⟨f | ⟨a⟩ | ⟨pause, next⟩, t⟩
    · rw [run_follow_of_error [] answers hrun]
      exact .ends (by simp) ((fares_of_error hstage hrun).mono (by simp [Plan.toil]))
    · rw [run_follow_of_done answers hrun]
      exact .ends (by simp) ((fares_of_done hstage hrun).mono (by simp [Plan.toil]))
    · rw [run_follow_of_paused [] answers hrun]
      exact goes_of_paused hstage hrest hrun answers
  | cons action rest ih =>
    obtain ⟨haction, hrest'⟩ := List.forall_mem_cons.mp hrest
    rcases hrun : (Act.goOn view stage).run s with ⟨f | ⟨a⟩ | ⟨pause, next⟩, t⟩
    · rw [run_follow_of_error _ answers hrun]
      refine .ends (by simp) ((fares_of_error hstage hrun).mono ?_)
      simp only [Plan.toil]
      omega
    · rw [run_follow_cons action rest answers hrun]
      refine (ih t (.start action) (answers ++ [a]) haction hrest').after ?_ rfl (by simp)
      refine (fares_of_done hstage hrun).mono ?_
      simp only [Plan.toil, Stage.toil, List.map_cons, List.sum_cons]
      omega
    · rw [run_follow_of_paused _ answers hrun]
      exact goes_of_paused hstage hrest hrun answers

end Workbench.Session
