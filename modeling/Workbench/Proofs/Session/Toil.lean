import Workbench.Proofs.Session.Editor
import Workbench.Proofs.Session.Orderly
import Workbench.Proofs.Turn.Burden
import Workbench.Proofs.Turn.Tended

/-!
# What is left to be done in a session

Edits in editors arm timers, timers start validations, and validations start transforms; and what comes
of a transform is shown in an editor, perhaps one that reports it later. How much may come of each of
these is weighed here, so that the sum falls with each thing that is done. It does, unless the editor that
shows the output feeds a draft at the same time. Main definitions: `Wired`, `Session.toil` and `Fares`,
what may become of a session, for how much.
-/
namespace Workbench.Session

open Document (Buffer Draft)
open Turn (Activity Board Phase)

variable {V : Type} {s t u : Session V} {off : Option Nat} {m n k : Nat}

/-! ## Who waits for whom -/

/-- Is it an activity that is waited for by those who settle? -/
def Role.isAwaited : Role → Bool
  | .edit | .validation => true
  | _ => false

def Role.isUser : Role → Bool
  | .user _ => true
  | _ => false

/-- Does the stage wait until the session has settled? -/
def Stage.settles : Stage → Bool
  | .start .settle | .drain => true
  | _ => false

/-- Does the stage only look whether others are done? -/
def Stage.looks : Stage → Bool
  | .drain => true
  | _ => false

def Plan.looks (p : Plan) : Bool := p.stage.looks

/-- The plan does not settle, and is about nothing else after its stage. -/
structure Plan.IsBrief (p : Plan) : Prop where
  stage : p.stage.settles = false
  rest : p.rest = []

/-- Who is waited for does not wait until the session has settled; and one who waits for others does
only that. -/
structure IsSteady (role : Role) (phase : Phase Plan) : Prop where
  brief : role.isAwaited = true → ∀ p, phase.plan? = some p → p.IsBrief
  looks : ∀ n p, phase = .waiting n p → p.looks = true

/-- Nobody is forgotten, perhaps but for one who is at work, and no timer. -/
structure IsOngoing (s : Session V) (off : Option Nat) : Prop where
  tended : s.board.IsTended Role.isAwaited off
  steady : s.board.Each IsSteady
  tallies : s.scheduler.Tallies s.board

theorem isSteady_over (role : Role) (failure : Option Failure) : IsSteady role (.over failure) :=
  ⟨fun _ p hp => (by cases hp), fun n p h => (by cases h)⟩

/-- Whoever looks whether others are done settles. -/
theorem Plan.not_isBrief_of_looks {p : Plan} (h : p.looks = true) : ¬ p.IsBrief := by
  intro hbrief
  have hsettles := hbrief.stage
  unfold Plan.looks at h
  cases hstage : p.stage with
  | drain =>
    rw [hstage] at hsettles
    cases hsettles
  | _ =>
    rw [hstage] at h
    cases h

theorem isSteady_of_free {role : Role} (hrole : role.isAwaited = false) {q : Phase Plan}
    (hwait : ∀ n p, q ≠ .waiting n p) : IsSteady role q :=
  ⟨fun h => absurd h (by rw [hrole]; exact Bool.false_ne_true), fun n p heq => absurd heq (hwait n p)⟩

theorem isSteady_brief (role : Role) {p : Plan} (hp : p.IsBrief) {q : Phase Plan}
    (hq : q.plan? = some p) (hwait : ∀ n p, q ≠ .waiting n p) : IsSteady role q := by
  refine ⟨fun _ r hr => ?_, fun n r heq => absurd heq (hwait n r)⟩
  cases hq.symm.trans hr
  exact hp

/-- Which editors feed drafts, or will, and which report later what is put into them. -/
structure Wiring where
  feeds : String → Bool
  late : String → Bool

/-- What is put into the editor comes back as a change. -/
def Wiring.loops (w : Wiring) (name : String) : Bool := w.feeds name && w.late name

/-- The action ties editors to buffers only as the wiring has it. -/
def Action.Suits (w : Wiring) : Action → Prop
  | .attach .output name => w.loops name = false
  | .attach _ name => w.feeds name = true
  | _ => True

def Stage.Suits (w : Wiring) : Stage → Prop
  | .start a => a.Suits w
  | _ => True

structure Plan.Suits (w : Wiring) (p : Plan) : Prop where
  stage : p.stage.Suits w
  rest : ∀ a ∈ p.rest, a.Suits w

/-- The session is wired like this, and will stay so; the output does not come back. -/
structure Wired (w : Wiring) (s : Session V) : Prop where
  feeds : ∀ name e, s.editors.find? name = some e → e.listeners ≠ [] → w.feeds name = true
  late : ∀ name e, s.editors.find? name = some e → e.echo = .later → w.late name = true
  output : ∀ name, s.attached .output = some name → w.loops name = false
  plans : s.board.Each fun _ phase => ∀ p, phase.plan? = some p → p.Suits w

/-! ## What is left to be done -/

variable {w : Wiring}

/-- How much may come of an action. A report of an editor may make both drafts change, each change arms a
timer, which starts a validation, which may start a transform, which may show its output in an editor. -/
def Action.toil (w : Wiring) : Action → Nat
  | .settle => 2
  | .listOperations => 3
  | .transform | .requestTransform | .setArmed _ => 5
  | .validate .. => 7
  | .dispatch e => if e.fromEditor then 10 else 34
  | .attach .. => 12
  | .report name => if w.feeds name then 23 else 1
  | .type .. => 23
  | .edit .. | .format _ | .clear _ => 34
  | .checkDrafts | .treeView | .enter | .close => 1

def Stage.toil (w : Wiring) : Stage → Nat
  | .start a => a.toil w
  | .outcome .. => 3
  | .verdict .. => 5
  | .stray .. | .names _ | .drain => 1

def Plan.toil (w : Wiring) (p : Plan) : Nat := p.stage.toil w + (p.rest.map (Action.toil w)).sum

/-- How much is left to be done by activities and timers. -/
def toil (w : Wiring) (s : Session V) : Nat :=
  s.board.effort (Plan.toil w) Plan.looks + 9 * s.scheduler.pending.length

theorem Action.toil_pos (w : Wiring) (a : Action) : 1 ≤ a.toil w := by
  cases a with
  | dispatch | report => simp only [Action.toil]; split <;> omega
  | _ => simp [Action.toil]

theorem Stage.toil_pos (w : Wiring) (stage : Stage) : 1 ≤ stage.toil w := by
  cases stage with
  | start a => exact a.toil_pos w
  | _ => simp [Stage.toil]

theorem Wired.congr (h : s.Wired w) (heditors : t.editors = s.editors)
    (hattached : t.attached .output = s.attached .output)
    (hactivities : t.board.activities = s.board.activities) : t.Wired w := by
  refine ⟨?_, ?_, ?_, h.plans.of_eq hactivities⟩
  · rw [heditors]
    exact h.feeds
  · rw [heditors]
    exact h.late
  · rw [hattached]
    exact h.output

/-! ## What may become of a session, for how much -/

/-- Nobody leaves, nobody is forgotten, no action of the user begins, and of `n` that is granted for what
is new `k` is left. -/
structure Fares (w : Wiring) (n k : Nat) (s t : Session V) : Prop where
  stays : s.board.activities ⊆ t.board.activities
  newcomers : ∀ a ∈ t.board.activities, a ∈ s.board.activities ∨ a.role.isUser = false
  ongoing : ∀ off, s.IsOngoing off → t.IsOngoing off
  wired : s.Wired w → t.Wired w ∧ t.toil w + k ≤ s.toil w + n

namespace Fares

theorem refl (w : Wiring) (n : Nat) (s : Session V) : Fares w n n s s :=
  ⟨List.Subset.refl _, fun _ => .inl, fun _ h => h, fun h => ⟨h, Nat.le_refl _⟩⟩

theorem trans (h : Fares w n m s t) (h' : Fares w m k t u) : Fares w n k s u := by
  refine ⟨fun a ha => h'.stays (h.stays ha), fun a ha => ?_,
    fun off hs => h'.ongoing off (h.ongoing off hs), fun hs => ?_⟩
  · exact (h'.newcomers a ha).elim (h.newcomers a) .inr
  obtain ⟨ht, htoil⟩ := h.wired hs
  obtain ⟨hu, htoil'⟩ := h'.wired ht
  exact ⟨hu, by omega⟩

/-- More is granted, or less is left. -/
theorem mono (h : Fares w n k s t) {n' k' : Nat} (hn : n + k' ≤ n' + k) : Fares w n' k' s t := by
  refine ⟨h.stays, h.newcomers, h.ongoing, fun hs => ?_⟩
  obtain ⟨ht, htoil⟩ := h.wired hs
  exact ⟨ht, by omega⟩

/-- The activities stay as they are. -/
theorem of_activities (h : t.board.activities = s.board.activities)
    (hongoing : ∀ off, s.IsOngoing off → t.IsOngoing off)
    (hwired : s.Wired w → t.Wired w ∧ t.toil w + k ≤ s.toil w + n) : Fares w n k s t :=
  ⟨by rw [h]; exact List.Subset.refl _, fun a ha => .inl (h ▸ ha), hongoing, hwired⟩

/-- Neither activities nor timers change, nor do editors. -/
theorem of_same (n : Nat) (hboard : t.board = s.board)
    (hpending : t.scheduler.pending = s.scheduler.pending) (heditors : t.editors = s.editors)
    (hattached : t.attached .output = s.attached .output) : Fares w n n s t := by
  refine .of_activities (by rw [hboard]) (fun off h => ?_) fun h => ⟨?_, ?_⟩
  · exact ⟨by rw [hboard]; exact h.tended, by rw [hboard]; exact h.steady,
      by rw [hboard]; exact h.tallies.of_pending hpending⟩
  · exact h.congr heditors hattached (by rw [hboard])
  · unfold toil
    rw [hboard, hpending]

end Fares

theorem Still.fares (h : Still s t) (n : Nat) : Fares w n n s t :=
  .of_same n h.board (by rw [h.scheduler]) h.editors (by rw [h.attached])

/-- An editor changes, but not in when it reports, and no draft begins to listen unless it is one that
feeds drafts. -/
theorem fares_modify (s : Session V) (n : Nat) (name : String) {f : Editor → Editor}
    (hecho : ∀ e, (f e).echo = e.echo)
    (hlisteners : ∀ e, (f e).listeners ≠ [] → e.listeners ≠ [] ∨ w.feeds name = true) :
    Fares w n n s { s with editors := s.editors.modify name f } := by
  refine .of_activities rfl (fun off h => ⟨h.tended, h.steady, h.tallies⟩) fun h =>
    ⟨⟨?_, ?_, h.output, h.plans⟩, Nat.le_refl _⟩
  · intro other e he hsome
    dsimp only at he
    rw [Editors.find?_modify] at he
    split at he
    case isTrue heq =>
      subst heq
      obtain ⟨x, hx, rfl⟩ := Option.map_eq_some_iff.mp he
      obtain hx' | hfeeds := hlisteners x hsome
      · exact h.feeds other x hx hx'
      · exact hfeeds
    case isFalse => exact h.feeds other e he hsome
  · intro other e he hlate
    dsimp only at he
    rw [Editors.find?_modify] at he
    split at he
    · obtain ⟨x, hx, rfl⟩ := Option.map_eq_some_iff.mp he
      exact h.late other x hx (by rwa [hecho] at hlate)
    · exact h.late other e he hlate

/-- An activity starts. -/
theorem toil_spawn (s : Session V) (role : Role) (p : Plan) :
    toil w { s with board := s.board.spawn role p } = s.toil w + (p.toil w + 1) := by
  unfold toil
  dsimp only
  rw [Board.effort_spawn]
  omega

theorem fares_spawn (s : Session V) {role : Role} {p : Plan} (hrole : role.isUser = false)
    (hsteady : IsSteady role (.ready p)) (hsuits : p.Suits w) (hn : p.toil w + 1 + k ≤ n) :
    Fares w n k s { s with board := s.board.spawn role p } := by
  refine ⟨fun a ha => List.mem_append_left _ ha, fun a ha => ?_, fun off h => ?_, fun h => ⟨?_, ?_⟩⟩
  · obtain ha | rfl := Board.mem_spawn ha
    · exact .inl ha
    · exact .inr hrole
  · exact ⟨h.tended.spawn role p, h.steady.spawn hsteady,
      h.tallies.of_addsTurns (Board.addsTurns_spawn s.board role p)⟩
  · refine ⟨h.feeds, h.late, h.output, h.plans.spawn fun q hq => ?_⟩
    cases hq
    exact hsuits
  · rw [toil_spawn]
    omega

/-! ## Timers -/

/-- A text is put into a draft: at most one more timer is armed. -/
theorem fares_putText (s : Session V) (d : Draft) (text : String) :
    Fares w (9 + k) k s (s.putText d text) := by
  have hactivities := activities_putText s d text
  obtain ⟨heditors, hattached, -⟩ := desk_putText s d text
  refine .of_activities hactivities (fun off h => ⟨?_, ?_, tallies_putText h.tallies d text⟩) fun h =>
    ⟨?_, ?_⟩
  · rw [board_putText]
    split
    · exact h.tended.disarm d
    · exact (h.tended.disarm d).arm _ d
  · exact h.steady.of_eq hactivities
  · exact h.congr heditors (by rw [hattached]) hactivities
  · have hpending : (s.putText d text).scheduler.pending.length ≤ s.scheduler.pending.length + 1 := by
      have hdrop : (s.scheduler.drop d).pending.length ≤ s.scheduler.pending.length :=
        List.length_filter_le _ _
      rw [pending_putText, List.length_append]
      split <;> simp only [List.length_nil, List.length_singleton] <;> omega
    have heffort : (s.putText d text).board.effort (Plan.toil w) Plan.looks =
        s.board.effort (Plan.toil w) Plan.looks := by
      rw [board_putText]
      split
      · exact Board.effort_disarm _ _ s.board d
      · rw [Board.effort_arm, Board.effort_disarm]
    unfold toil
    rw [heffort]
    omega

theorem fares_close (s : Session V) (n : Nat) : Fares w n n s s.close := by
  have hactivities : s.close.board.activities = s.board.activities :=
    Board.activities_disarmAll (s.scheduler.pending.map Prod.fst) s.board
  have hpending : s.close.scheduler.pending = [] := rfl
  refine .of_activities hactivities
    (fun off h => ⟨h.tended.disarmAll _, h.steady.of_eq hactivities, h.tallies.cancelAll⟩) fun h =>
    ⟨?_, ?_⟩
  · exact h.congr rfl rfl hactivities
  · have heffort : s.close.board.effort (Plan.toil w) Plan.looks =
        s.board.effort (Plan.toil w) Plan.looks := Board.effort_disarmAll ..
    unfold toil
    rw [heffort, hpending, List.length_nil]
    omega

/-! ## Editors -/

/-- The number of drafts whose editor is not known to hold this text. -/
def unaware (s : Session V) (text : String) : Nat :=
  (if s.knownText .input = text then 0 else 1) + if s.knownText .spec = text then 0 else 1

theorem unaware_le (s : Session V) (text : String) : s.unaware text ≤ 2 := by
  unfold unaware
  split <;> split <;> omega

theorem unaware_setKnown (s : Session V) {d : Draft} {text : String} (h : s.knownText d ≠ text) :
    (s.setKnown d text).unaware text + 1 = s.unaware text := by
  have hself := knownText_setKnown s d text
  have hother (e : Draft) (he : e ≠ d) : (s.setKnown d text).knownText e = s.knownText e := by
    simp [knownText, setKnown, he]
  unfold unaware
  cases d with
  | input =>
    rw [hself, hother .spec (by simp), if_pos rfl, if_neg h]
    omega
  | spec =>
    rw [hself, hother .input (by simp), if_pos rfl, if_neg h]

/-- The activity that applies a change in an editor is waited for. -/
theorem fares_spawn_edit (s : Session V) (d : Draft) (text : String) (k : Nat) :
    Fares w (k + 11) k s
      { s with board := s.board.spawn .edit { stage := .start (.dispatch (.edited d.buffer text true)) } } :=
  fares_spawn s rfl (isSteady_brief .edit ⟨rfl, rfl⟩ rfl (by simp)) ⟨trivial, by simp⟩ (by
    change 10 + 0 + 1 + k ≤ k + 11
    omega)

/-- Whether it has heard of the text or not, at most one change is applied. -/
theorem fares_hear_once (s : Session V) (d : Draft) (text : String) :
    Fares w (11 + k) k s (s.hear text d) := by
  have hknown : Fares w (11 + k) (11 + k) s (s.setKnown d text) := .of_same _ rfl rfl rfl rfl
  unfold hear
  split
  · exact (Fares.refl w k s).mono (by omega)
  · exact hknown.trans ((fares_spawn_edit _ d text k).mono (by omega))

/-- A draft hears of a text only once. -/
theorem fares_hear (s : Session V) (text : String) (d : Draft) :
    Fares w (11 * s.unaware text) (11 * (s.hear text d).unaware text) s (s.hear text d) := by
  by_cases hknown : s.knownText d = text
  · rw [hear_of_known hknown]
    exact .refl w _ s
  · have hless := unaware_setKnown s hknown
    have hhear : (s.hear text d).unaware text = (s.setKnown d text).unaware text := by
      unfold hear
      rw [if_neg (Ne.symm hknown)]
      rfl
    exact (fares_hear_once (k := 0) s d text).mono (by omega)

theorem fares_foldl_hear (ls : List Draft) (s : Session V) (text : String) :
    Fares w (11 * s.unaware text) (11 * (ls.foldl (hear text) s).unaware text) s
      (ls.foldl (hear text) s) := by
  induction ls generalizing s with
  | nil => exact .refl w _ s
  | cons d ls ih => exact (fares_hear s text d).trans (ih (s.hear text d))

/-- What may come of a report of an editor. -/
def Wiring.reportToil (w : Wiring) (name : String) : Nat := if w.feeds name then 22 else 0

/-- An editor reports. -/
theorem fares_report (s : Session V) (name : String) :
    Fares w (w.reportToil name + k) k s (s.report name) := by
  have hreported := fares_modify (w := w) s (22 + k) name (f := Editor.report) (fun _ => rfl)
    fun _ h => .inl h
  have hall : Fares w (22 + k) k s (s.report name) := by
    unfold report
    split
    case h_1 e he =>
      refine hreported.trans ((fares_foldl_hear e.listeners _ e.value).mono ?_)
      have hle := unaware_le { s with editors := s.editors.modify name Editor.report } e.value
      omega
    case h_2 => exact (Fares.refl w k s).mono (by omega)
  refine ⟨hall.stays, hall.newcomers, hall.ongoing, fun hs => ?_⟩
  unfold Wiring.reportToil
  split
  case isTrue => exact hall.wired hs
  case isFalse hfeeds =>
    -- nobody listens to it
    have hnone : s.report name = s ∨
        s.report name = { s with editors := s.editors.modify name Editor.report } := by
      unfold report
      split
      case h_1 e he =>
        have hlisteners : e.listeners = [] :=
          Decidable.of_not_not fun hne => hfeeds (hs.feeds name e he hne)
        rw [hlisteners]
        exact .inr rfl
      case h_2 => exact .inl rfl
    obtain heq | heq := hnone <;> rw [heq]
    · exact ⟨hs, by omega⟩
    · obtain ⟨hwired, htoil⟩ := hreported.wired hs
      exact ⟨hwired, by omega⟩

/-- The user types. -/
theorem fares_typeInto (s : Session V) (name text : String) :
    Fares w (22 + k) k s (s.typeInto name text) := by
  have hput : Fares w (22 + k) (22 + k) s (s.put name text) :=
    fares_modify s _ name (fun _ => rfl) fun _ h => .inl h
  rw [typeInto_eq]
  refine hput.trans ((fares_report (k := k) (s.put name text) name).mono ?_)
  unfold Wiring.reportToil
  split <;> omega

/-- The activity of an editor that reports later what has been put into it. -/
theorem fares_spawn_echo (s : Session V) (name : String) :
    Fares w (w.reportToil name + 2 + k) k s
      { s with board := s.board.spawn .echo { stage := .start (.report name) } } := by
  refine fares_spawn s rfl (isSteady_of_free rfl (by simp)) ⟨trivial, by simp⟩ ?_
  unfold Wiring.reportToil Plan.toil Stage.toil Action.toil
  dsimp only
  split <;> simp only [List.map_nil, List.sum_nil] <;> omega

/-- What may come of a text that is put into the editor of a buffer. -/
def syncToil : Buffer → Nat
  | .output => 2
  | _ => 24

/-- A text is put into the editor of a buffer. What comes of the output is that the editor reports it
later, if anything. -/
theorem fares_syncEditor (s : Session V) (b : Buffer) (text : String) :
    Fares w (syncToil b + k) k s (s.syncEditor b text) := by
  have hstill : Fares w (syncToil b + k) k s s := (Fares.refl w k s).mono (by omega)
  cases hattached : s.attached b with
  | none =>
    have hsame : s.syncEditor b text = s := by
      unfold syncEditor
      rw [hattached]
    rwa [hsame]
  | some name =>
  cases hfind : s.editors.find? name with
  | none =>
    have hsame : s.syncEditor b text = s := by
      unfold syncEditor
      rw [hattached]
      dsimp only
      rw [hfind]
    rwa [hsame]
  | some e =>
  have hload (n : Nat) : Fares w n n s { s with editors := s.editors.modify name (·.load text) } := by
    refine fares_modify s n name (fun e => ?_) fun e h => .inl ?_
    · unfold Editor.load
      split <;> rfl
    · rwa [Editor.listeners_load] at h
  by_cases hvalue : e.value = text
  · have hsame : s.syncEditor b text = s := by
      unfold syncEditor
      simp only [hattached, hfind, if_pos hvalue]
    rwa [hsame]
  cases hecho : e.echo with
  | later =>
    have hsync : s.syncEditor b text =
        { s with
          editors := s.editors.modify name (·.load text)
          board := s.board.spawn .echo { stage := .start (.report name) } } := by
      unfold syncEditor
      simp only [hattached, hfind, if_neg hvalue, hecho]
    have hfares := (hload (w.reportToil name + 2 + k)).trans (fares_spawn_echo _ name)
    rw [hsync]
    refine ⟨hfares.stays, hfares.newcomers, hfares.ongoing, fun hs => ?_⟩
    obtain ⟨hwired, htoil⟩ := hfares.wired hs
    refine ⟨hwired, htoil.trans (Nat.add_le_add_left (Nat.add_le_add_right ?_ k) _)⟩
    unfold Wiring.reportToil
    cases b with
    | output =>
      have hloops := hs.output name hattached
      rw [Wiring.loops, hs.late name e hfind hecho, Bool.and_true] at hloops
      rw [hloops]
      exact Nat.le_refl 2
    | _ => split <;> decide
  | _ =>
    have hsync : s.syncEditor b text = { s with editors := s.editors.modify name (·.load text) } := by
      unfold syncEditor
      simp only [hattached, hfind, if_neg hvalue, hecho]
    rw [hsync]
    exact (hload k).mono (by omega)

/-- A text is put into a draft, and into its editor unless it came from there. -/
theorem fares_applyEdit (s : Session V) (d : Draft) (text : String) (fromEditor : Bool) :
    Fares w ((if fromEditor then 9 else 33) + k) k s (s.applyEdit d text fromEditor) := by
  cases fromEditor with
  | true => exact fares_putText s d text
  | false =>
    obtain ⟨history, hoverwrite, -⟩ := overwrite_eq s d text
    have hknown : Fares w (33 + k) (33 + k) s ({ s with history }.setKnown d text) :=
      .of_same _ rfl rfl rfl rfl
    have hsync : Fares w (33 + k) (9 + k) s (s.overwrite d text) := by
      rw [hoverwrite]
      refine hknown.trans ((fares_syncEditor (k := 9 + k) _ d.buffer text).mono ?_)
      cases d <;> simp only [Draft.buffer, syncToil] <;> omega
    exact hsync.trans (fares_putText _ d text)

/-- An editor is attached to a buffer, which does not tell it anything yet. -/
theorem fares_tie (s : Session V) {b : Buffer} {name : String} (h : (Action.attach b name).Suits w)
    (n : Nat) :
    Fares w n n s { s with attached := fun c => if c = b then some name else s.attached c } := by
  refine .of_activities rfl (fun off hs => ⟨hs.tended, hs.steady, hs.tallies⟩) fun hs =>
    ⟨⟨hs.feeds, hs.late, fun other hother => ?_, hs.plans⟩, Nat.le_refl _⟩
  dsimp only at hother
  split at hother
  case isTrue hb =>
    subst hb
    cases hother
    exact h
  case isFalse => exact hs.output other hother

/-- An editor is attached: it shows the output, or a draft hears of its text. -/
theorem fares_attach (s : Session V) {b : Buffer} {name : String} (h : (Action.attach b name).Suits w) :
    Fares w (11 + k) k s (s.attach b name) := by
  let tied : Session V := { s with attached := fun c => if c = b then some name else s.attached c }
  have htied : Fares w (11 + k) (11 + k) s tied := fares_tie s h _
  unfold attach
  dsimp only
  split
  case h_1 hb =>
    have hfixed := fares_modify (w := w) tied (11 + k) name (f := fun e => { e with readOnly := true })
      (fun _ => rfl) fun _ h => .inl h
    have hsync : syncToil b + k + k ≤ 11 + k + k := by
      cases b with
      | output => simp only [syncToil]; omega
      | _ => cases hb
    exact htied.trans (hfixed.trans ((fares_syncEditor _ b _).mono hsync))
  case h_2 d hd =>
    have hfeeds : w.feeds name = true := by
      cases b with
      | output => cases hd
      | _ => exact h
    have hlistens := fares_modify (w := w) tied (11 + k) name
      (f := fun e => { e with listeners := e.listeners ++ [d] }) (fun _ => rfl) fun _ _ => .inr hfeeds
    have hknown (s : Session V) (text : String) : Fares w (11 + k) (11 + k) s (s.setKnown d text) :=
      .of_same _ rfl rfl rfl rfl
    refine htied.trans (hlistens.trans ((hknown _ (s.store.text b)).trans ?_))
    split
    case h_1 e _ => exact fares_hear_once _ d e.value
    case h_2 => exact (Fares.refl w k _).mono (by omega)

end Workbench.Session
