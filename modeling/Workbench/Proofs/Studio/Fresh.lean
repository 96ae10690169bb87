import Workbench.Proofs.Session.Desk
import Workbench.Proofs.Session.Editor
import Workbench.Studio.Controller

/-!
# A studio that shows how it stands

What is so of the session of a studio between two turns: the screen and the editor of the output
show the documents as they are. Within a turn they may lag behind: a change of a draft or of the
output's status comes before the lines that tell of it, and a new output before its lines, its tree
and its editor.
-/
namespace Workbench.Studio.Screen

/-! ## What a screen shows

The lines of a screen and the tree of the output, each with what it is to say of the documents. A
screen that is told of a change of state says afterwards how it stands, and a tree that was right
stays so unless the output has changed. -/

open Document (Store)
open Session (Event)

/-- The tree that the output makes. -/
def treeOf (settings : Settings) (text : String) : Styled.Text :=
  Tree.viewOutput text settings.renderIndent (settings.renderMaxDepth.map fun n => (n : Int))

/-- The lines say how it stands with the documents. -/
structure ShowsLines (st : Store) (screen : Screen) : Prop where
  input : screen.inputStatus = some (Display.statusLine st.input.status)
  spec : screen.specStatus = some (Display.statusLine st.spec.status)
  output : screen.outputStatus = some (Display.statusLine st.outputStatus)
  metrics : screen.metrics = some (metricsLine st)

/-- The tree is that of a text, while it is visible. -/
def ShowsTree (settings : Settings) (text : String) (screen : Screen) : Prop :=
  screen.treeVisible = true → screen.tree = some (treeOf settings text)

/-- Either the raw text of the output is hidden or the tree, as the user has chosen. -/
structure IsSplit (screen : Screen) : Prop where
  raw : screen.rawHidden = screen.treeVisible
  tree : screen.treeHidden = !screen.treeVisible

variable {settings : Settings} {st : Store} {text : String} {screen : Screen}

theorem showsLines_refresh (st : Store) (screen : Screen) : (screen.refresh st).ShowsLines st :=
  ⟨rfl, rfl, rfl, rfl⟩

theorem showsTree_drawTree (settings : Settings) (st : Store) (screen : Screen) :
    (screen.drawTree settings st).ShowsTree settings st.outputText := fun _ => rfl

theorem IsSplit.toggle (screen : Screen) : screen.toggle.IsSplit := ⟨rfl, rfl⟩

/-! ## Following a session -/

/-- The screen never breaks. -/
@[simp]
theorem follow_failure (settings : Settings) (st : Store) (e : Event) (screen : Screen) :
    (follow settings st e screen).2 = none := by
  unfold follow
  split
  · rfl
  · dsimp only
    split <;> rfl

/-- A change of state brings the lines up to date, whichever buffer it is about, and a notice leaves
them as they are. -/
theorem showsLines_follow {e : Event} (h : e.type ≠ .notice ∨ screen.ShowsLines st) :
    (follow settings st e screen).1.ShowsLines st := by
  unfold follow
  split
  case h_1 he =>
    obtain hne | hlines := h
    · exact absurd he hne
    · exact ⟨hlines.input, hlines.spec, hlines.output, hlines.metrics⟩
  case h_2 =>
    dsimp only
    split <;> exact ⟨rfl, rfl, rfl, rfl⟩

/-- The tree follows the output; what else there is to tell leaves it as it is. -/
theorem showsTree_follow {e : Event}
    (h : e = .stateChanged .output ∨ screen.ShowsTree settings st.outputText) :
    (follow settings st e screen).1.ShowsTree settings st.outputText := by
  obtain rfl | htree := h
  · unfold follow Event.stateChanged
    dsimp only
    split
    · exact showsTree_drawTree settings st _
    case isFalse hhidden =>
      intro hvisible
      exact absurd hvisible (by simpa using hhidden)
  · unfold follow
    split
    · exact htree
    · dsimp only
      split
      · exact showsTree_drawTree settings st _
      · exact htree

theorem IsSplit.follow (h : screen.IsSplit) (settings : Settings) (st : Store) (e : Event) :
    (Screen.follow settings st e screen).1.IsSplit := by
  unfold Screen.follow
  split
  · exact ⟨h.raw, h.tree⟩
  · dsimp only
    split <;> exact ⟨h.raw, h.tree⟩

end Workbench.Studio.Screen

namespace Workbench.Studio

open Document (Buffer Draft)
open Session
open Turn (Board Phase)

variable {settings : Settings} {s t : Session Screen}

/-- A change in the editors of the drafts, or what the studio asks for. -/
def isOfStudio : Action → Bool
  | .dispatch e => e.fromEditor
  | .format _ | .clear _ | .requestTransform | .setArmed _ | .report _ => true
  | .validate b _ => b.draft?.isSome
  | _ => false

/-- A stage of what the studio asks for. Its transforms are all asked for by an event. -/
def isStageOfStudio : Stage → Bool
  | .start a => isOfStudio a
  | .verdict .. => true
  | .outcome _ requested _ => requested
  | _ => false

/-- What an activity of the studio has to do; it is one action. -/
structure IsPlanOfStudio (p : Plan) : Prop where
  stage : isStageOfStudio p.stage = true
  rest : p.rest = []

/-- An activity of the studio, however it stands with it. -/
def IsPhaseOfStudio (q : Phase Plan) : Prop := ∀ plan, q.plan? = some plan → IsPlanOfStudio plan

/-- The text that the editor of the output shows. -/
def shownText (s : Session Screen) : Option String :=
  s.editors.value? (editorName .output)

/-- The session of a studio on the screen, with nothing said about what it shows. -/
structure IsWired (settings : Settings) (s : Session Screen) : Prop where
  fixed : s.settings = settings
  watched : s.watched = true
  attached : ∀ b, s.attached b = some (editorName b)
  editor : (shownText s).isSome = true
  each : s.board.Each fun _ => IsPhaseOfStudio
  split : s.view.IsSplit

/-- All but the lines is as it should be. -/
structure AwaitsLines (settings : Settings) (s : Session Screen) : Prop
    extends IsWired settings s where
  text : shownText s = some s.store.outputText
  tree : s.view.ShowsTree settings s.store.outputText

/-- All but the editor of the output is as it should be. -/
structure AwaitsText (settings : Settings) (s : Session Screen) : Prop
    extends IsWired settings s where
  lines : s.view.ShowsLines s.store
  tree : s.view.ShowsTree settings s.store.outputText

/-- All is as it should be. -/
structure IsFresh (settings : Settings) (s : Session Screen) : Prop
    extends AwaitsLines settings s where
  lines : s.view.ShowsLines s.store

theorem IsFresh.toAwaitsText (h : IsFresh settings s) : AwaitsText settings s :=
  ⟨h.toIsWired, h.lines, h.tree⟩

/-! ## What else changes -/

/-- Nothing has become of the parts of a studio, and of its activities. -/
structure SameWiring (s t : Session Screen) : Prop where
  settings : t.settings = s.settings
  watched : t.watched = s.watched
  attached : t.attached = s.attached
  editors : t.editors = s.editors
  activities : t.board.activities = s.board.activities
  view : t.view = s.view

theorem IsWired.of_same (h : IsWired settings s) (hs : SameWiring s t) : IsWired settings t where
  fixed := hs.settings.trans h.fixed
  watched := hs.watched.trans h.watched
  attached := hs.attached ▸ h.attached
  editor := by
    rw [shownText, hs.editors]
    exact h.editor
  each := h.each.of_eq hs.activities
  split := hs.view ▸ h.split

theorem AwaitsLines.of_same (h : AwaitsLines settings s) (hs : SameWiring s t)
    (htext : t.store.outputText = s.store.outputText) : AwaitsLines settings t := by
  refine ⟨h.toIsWired.of_same hs, ?_, ?_⟩
  · rw [shownText, hs.editors, htext]
    exact h.text
  · rw [hs.view, htext]
    exact h.tree

theorem AwaitsText.of_same (h : AwaitsText settings s) (hs : SameWiring s t)
    (hstore : t.store = s.store) : AwaitsText settings t := by
  refine ⟨h.toIsWired.of_same hs, ?_, ?_⟩
  · rw [hs.view, hstore]
    exact h.lines
  · rw [hs.view, hstore]
    exact h.tree

theorem IsFresh.of_same (h : IsFresh settings s) (hs : SameWiring s t) (hstore : t.store = s.store) :
    IsFresh settings t :=
  ⟨h.toAwaitsLines.of_same hs (by rw [hstore]), (h.toAwaitsText.of_same hs hstore).lines⟩

/-! ## Documents that change -/

theorem sameWiring_putText (s : Session Screen) (d : Draft) (text : String) :
    SameWiring s (s.putText d text) := by
  obtain ⟨heditors, hattached, -⟩ := desk_putText s d text
  have hrest : (s.putText d text).settings = s.settings ∧
      (s.putText d text).watched = s.watched ∧ (s.putText d text).view = s.view := by
    obtain ⟨journal, h⟩ := putText_eq d text s
    rw [h]
    exact ⟨rfl, rfl, rfl⟩
  exact ⟨hrest.1, hrest.2.1, hattached, heditors, (sameLine_putText s d text).activities,
    hrest.2.2⟩

/-- A draft has a new text or a verdict: only the lines lag behind. -/
theorem AwaitsLines.putText (h : AwaitsLines settings s) (d : Draft) (text : String) :
    AwaitsLines settings (s.putText d text) :=
  h.of_same (sameWiring_putText s d text) (outputText_putText s d text)

theorem AwaitsLines.hearVerdict (h : AwaitsLines settings s) (d : Draft) (text : String)
    (result : Except Failure Service.Verdict) : AwaitsLines settings (s.hearVerdict d text result) :=
  h.of_same ⟨rfl, rfl, rfl, rfl, rfl, rfl⟩ (outputText_hearVerdict s d text result)

/-- A verdict that does not count, or none at all, changes nothing that is shown. -/
theorem IsFresh.hearVerdict (h : IsFresh settings s) {d : Draft} {text : String}
    {result : Except Failure Service.Verdict} (hsame : heard d text result s.store = s.store) :
    IsFresh settings (s.hearVerdict d text result) :=
  h.of_same ⟨rfl, rfl, rfl, rfl, rfl, rfl⟩ hsame

/-- A transform begins: the old output is still there. -/
theorem AwaitsLines.begin (h : AwaitsLines settings s) : AwaitsLines settings s.begin :=
  h.of_same ⟨rfl, rfl, rfl, rfl, rfl, rfl⟩ rfl

theorem IsFresh.hearOutcome (h : IsFresh settings s) {generation : Nat}
    {result : Except Failure Service.Outcome}
    (hsame : (s.hearOutcome generation result).store = s.store) :
    IsFresh settings (s.hearOutcome generation result) :=
  h.of_same ⟨rfl, rfl, rfl, rfl, rfl, rfl⟩ hsame

/-- The lines do not say whether the automatic transform is armed. -/
theorem IsFresh.switch (h : IsFresh settings s) (armed : Bool) :
    IsFresh settings (s.switch armed) :=
  ⟨h.toAwaitsLines.of_same ⟨rfl, rfl, rfl, rfl, rfl, rfl⟩ rfl,
    ⟨h.lines.input, h.lines.spec, h.lines.output, h.lines.metrics⟩⟩

/-! ## Events that the screen is told of -/

/-- The session after the screen has been told of an event. -/
def told (settings : Settings) (e : Event) (s : Session Screen) : Session Screen :=
  { s.note (Bus.dispatchNote e) with view := (Screen.follow settings s.store e s.view).1 }

theorem IsWired.told (h : IsWired settings s) (e : Event) : IsWired settings (told settings e s) :=
  ⟨h.fixed, h.watched, h.attached, h.editor, h.each, h.split.follow settings s.store e⟩

/-- The lines catch up with the first change of state that the screen is told of. -/
theorem AwaitsLines.told (h : AwaitsLines settings s) {e : Event} (he : e.type ≠ .notice) :
    IsFresh settings (Studio.told settings e s) :=
  ⟨⟨h.toIsWired.told e, h.text, Screen.showsTree_follow (.inr h.tree)⟩,
    Screen.showsLines_follow (.inl he)⟩

/-- All but the editor catches up with a new output. -/
theorem IsWired.told_output (h : IsWired settings s) :
    AwaitsText settings (Studio.told settings (.stateChanged .output) s) :=
  ⟨h.told _, Screen.showsLines_follow (.inl nofun), Screen.showsTree_follow (.inl rfl)⟩

/-- No event makes the screen stale. -/
theorem AwaitsText.told (h : AwaitsText settings s) (e : Event) :
    AwaitsText settings (Studio.told settings e s) :=
  ⟨h.toIsWired.told e, Screen.showsLines_follow (.inr h.lines),
    Screen.showsTree_follow (.inr h.tree)⟩

theorem IsFresh.told (h : IsFresh settings s) (e : Event) :
    IsFresh settings (Studio.told settings e s) :=
  have htold := h.toAwaitsText.told e
  ⟨⟨htold.toIsWired, h.text, htold.tree⟩, htold.lines⟩

/-! ## Editors that change -/

theorem editorName_injective : Function.Injective editorName := by
  intro b c h
  cases b <;> cases c <;> first | rfl | simp [editorName] at h

/-- Another activity has come up, and perhaps something is known of an editor. -/
theorem IsFresh.spawn (h : IsFresh settings s) {role : Role} {plan : Plan}
    (hplan : IsPlanOfStudio plan) (known : Draft → Option String) :
    IsFresh settings { s with known, board := s.board.spawn role plan } :=
  ⟨⟨⟨h.fixed, h.watched, h.attached, h.editor,
    h.each.spawn fun p hp => by cases hp; exact hplan, h.split⟩, h.text, h.tree⟩, h.lines⟩

/-- A draft hears of its editor: the change is to be applied in a turn of its own. -/
theorem IsFresh.hear (h : IsFresh settings s) (text : String) (d : Draft) :
    IsFresh settings (s.hear text d) := by
  unfold Session.hear
  split
  · exact h
  · exact h.spawn ⟨rfl, rfl⟩ _

theorem IsFresh.modify (h : IsFresh settings s) {name : String} {f : Editor → Editor}
    (hf : name = editorName .output → ∀ e, (f e).value = e.value) :
    IsFresh settings { s with editors := s.editors.modify name f } := by
  have htext : shownText { s with editors := s.editors.modify name f } = shownText s := by
    by_cases hname : name = editorName .output
    · exact Editors.value?_modify _ _ _ (hf hname)
    · unfold shownText Editors.value?
      rw [Editors.find?_modify, if_neg fun h => hname h.symm]
  exact ⟨⟨⟨h.fixed, h.watched, h.attached, htext ▸ h.editor, h.each, h.split⟩,
    htext.trans h.text, h.tree⟩, h.lines⟩

theorem IsFresh.report (h : IsFresh settings s) (name : String) :
    IsFresh settings (s.report name) := by
  unfold Session.report
  split
  case h_1 e _ =>
    have hfold (ls : List Draft) {t : Session Screen} (ht : IsFresh settings t) :
        IsFresh settings (ls.foldl (Session.hear e.value) t) := by
      induction ls generalizing t with
      | nil => exact ht
      | cons l ls ih => exact ih (ht.hear e.value l)
    exact hfold e.listeners (h.modify fun _ _ => rfl)
  case h_2 => exact h

/-- The user types into the text area of a draft. -/
theorem IsFresh.typeInto (h : IsFresh settings s) (d : Draft) (text : String) :
    IsFresh settings (s.typeInto (editorName d.buffer) text) := by
  refine IsFresh.report (h.modify fun hname => ?_) _
  have hd : d.buffer = .output := editorName_injective hname
  cases d <;> cases hd

theorem IsWired.syncEditor (h : IsWired settings s) (b : Buffer) (text : String) :
    IsWired settings (s.syncEditor b text) := by
  cases he : s.editors.find? (editorName b) with
  | none =>
    have hsame : s.syncEditor b text = s := by
      unfold Session.syncEditor
      simp only [h.attached b, he]
    rwa [hsame]
  | some e =>
    obtain ⟨hsame, -⟩ | ⟨board, hboard, hsync⟩ := syncEditor_cases s (h.attached b) he text
    · rwa [hsame]
    rw [hsync]
    refine ⟨h.fixed, h.watched, h.attached, ?_, ?_, h.split⟩
    · have heditor := h.editor
      unfold shownText Editors.value? at heditor ⊢
      dsimp only
      rw [Editors.find?_modify]
      split <;> simpa using heditor
    · obtain rfl | rfl := hboard
      · exact h.each
      · exact h.each.spawn fun p hp => by cases hp; exact ⟨rfl, rfl⟩

/-- The editor of the output shows what was put into it, and another one leaves it as it was. -/
theorem IsWired.shownText_syncEditor (h : IsWired settings s) (b : Buffer) (text : String) :
    shownText (s.syncEditor b text) = if b = .output then some text else shownText s := by
  obtain ⟨o, ho⟩ := Option.isSome_iff_exists.mp h.editor
  cases he : s.editors.find? (editorName b) with
  | none =>
    have hb : b ≠ .output := by
      rintro rfl
      simp [shownText, Editors.value?, he] at ho
    rw [if_neg hb]
    unfold Session.syncEditor
    simp only [h.attached b, he]
  | some e =>
    obtain ⟨hsame, hvalue⟩ | ⟨board, -, hsync⟩ := syncEditor_cases s (h.attached b) he text
    · rw [hsame]
      split
      case isTrue hb => simp [shownText, Editors.value?, ← hb, he, hvalue]
      case isFalse => rfl
    · rw [hsync]
      unfold shownText Editors.value?
      dsimp only
      rw [Editors.find?_modify]
      by_cases hb : b = .output
      · subst hb
        simp [he, Editor.value_load]
      · rw [if_neg hb, if_neg fun hname => hb (editorName_injective hname.symm)]

/-- The editor of the output catches up. -/
theorem AwaitsText.syncOutput (h : AwaitsText settings s) :
    IsFresh settings (s.syncEditor .output s.store.outputText) := by
  obtain ⟨hstore, hview⟩ := frame_syncEditor s .output s.store.outputText
  refine ⟨⟨h.toIsWired.syncEditor _ _, ?_, ?_⟩, ?_⟩
  · rw [h.toIsWired.shownText_syncEditor, if_pos rfl, hstore]
  · rw [hview, hstore]
    exact h.tree
  · rw [hview, hstore]
    exact h.lines

theorem AwaitsLines.syncEditor (h : AwaitsLines settings s) (d : Draft) (text : String) :
    AwaitsLines settings (s.syncEditor d.buffer text) := by
  obtain ⟨hstore, hview⟩ := frame_syncEditor s d.buffer text
  refine ⟨h.toIsWired.syncEditor _ _, ?_, ?_⟩
  · rw [h.toIsWired.shownText_syncEditor, if_neg (by cases d <;> decide), hstore]
    exact h.text
  · rw [hview, hstore]
    exact h.tree

/-- A draft is edited. -/
theorem AwaitsLines.applyEdit (h : AwaitsLines settings s) (d : Draft) (text : String)
    (fromEditor : Bool) : AwaitsLines settings (s.applyEdit d text fromEditor) := by
  unfold Session.applyEdit
  cases fromEditor
  · obtain ⟨history, hoverwrite, -⟩ := overwrite_eq s d text
    have hknown : AwaitsLines settings (({ s with history }).setKnown d text) :=
      h.of_same ⟨rfl, rfl, rfl, rfl, rfl, rfl⟩ rfl
    simp only [Bool.false_eq_true, if_false]
    rw [hoverwrite]
    exact (hknown.syncEditor d text).putText d text
  · exact h.putText d text

end Workbench.Studio
