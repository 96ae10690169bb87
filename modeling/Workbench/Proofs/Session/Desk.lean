import Workbench.Proofs.Session.Editor
import Workbench.Proofs.Session.Round

/-!
# The editor of a draft

A session with one editor, which is attached to a draft or is to be. Its text, the text that is
known to be in it and the text of the draft belong together: what is known is what is in the
editor, and what is still to be applied leads up to it, unless a text was put into the draft in
the meantime.
-/
namespace Workbench.Session

open Document (Buffer Draft Store)
open Turn (Board)

variable {V : Type} {view : View V} {d : Draft} {name : String} {s t : Session V}

/-- An action that is not a change in an editor, and attaches no editor but this one. -/
def Action.isOf (d : Draft) (name : String) : Action → Bool
  | .attach b n => b = d.buffer ∧ n = name
  | .dispatch e => !e.fromEditor
  | _ => true

/-- No event says of itself that it comes from an editor, and only this one is attached. -/
def deskScope (d : Draft) (name : String) : Scope where
  edits _ fromEditor := fromEditor = false
  types _ := True
  attaches b n := b = d.buffer ∧ n = name

theorem Action.within_of_isOf {a : Action} (h : a.isOf d name = true) :
    a.Within (deskScope d name) := by
  cases a with
  | edit | format => exact fun _ _ => rfl
  | clear => exact rfl
  | dispatch e =>
    have hfrom : e.fromEditor = false := by simpa [Action.isOf] using h
    exact fun _ _ _ => hfrom
  | attach b n =>
    have hattach : b = d.buffer ∧ n = name := by simpa [Action.isOf] using h
    exact hattach
  | _ => trivial

/-- The editor of such a session. Before it is attached nothing is heard of it; after that all that
is in it is known. -/
structure IsEditor (d : Draft) (name : String) (s : Session V) (e : Editor) : Prop where
  editors : s.editors = [(name, e)]
  listeners : ∀ l ∈ e.listeners, l = d
  away : e.listeners = [] → s.attached d.buffer = none ∧ s.backlog d = []
  here : e.listeners ≠ [] → s.attached d.buffer = some name ∧ s.known d = some e.value

/-- What is known is the last of the texts that are still to be applied, or else the text of the
draft. -/
def IsCaughtUp (d : Draft) (s : Session V) : Prop :=
  s.knownText d = (s.backlog d).getLast?.getD (s.store.draft d).text

structure IsAtDesk (d : Draft) (name : String) (s : Session V) : Prop where
  attached : ∀ b n, s.attached b = some n → b = d.buffer
  editor : ∃ e, IsEditor d name s e
  caughtUp : .overtook d ∉ s.history → IsCaughtUp d s

/-! ## Staying at the same desk -/

theorem overtook_mem_filter {history : List Happening} (d : Draft) :
    .overtook d ∈ history.filter Happening.isOfTexts ↔ .overtook d ∈ history := by
  simp [List.mem_filter, Happening.isOfTexts]

theorem SameBench.overtook (h : SameBench s t) (d : Draft) :
    .overtook d ∈ t.history ↔ .overtook d ∈ s.history := by
  rw [← overtook_mem_filter, h.history, overtook_mem_filter]

theorem SameBench.knownText (h : SameBench s t) (d : Draft) : t.knownText d = s.knownText d := by
  rw [Session.knownText, Session.knownText, h.known, ← text_draft, ← text_draft, h.text]

theorem IsEditor.of_eq {e : Editor} (h : IsEditor d name s e) (heditors : t.editors = s.editors)
    (hattached : t.attached = s.attached) (hknown : t.known d = s.known d)
    (hbacklog : t.backlog d = s.backlog d) : IsEditor d name t e :=
  ⟨heditors.trans h.editors, h.listeners, by rw [hattached, hbacklog]; exact h.away,
    by rw [hattached, hknown]; exact h.here⟩

/-- The board changes, but not in who is to apply a change in the editor. -/
theorem IsAtDesk.bench (h : IsAtDesk d name s) (ht : SameBench s t)
    (hchanges : t.changes = s.changes) : IsAtDesk d name t := by
  have hbacklog : t.backlog d = s.backlog d := backlog_congr hchanges d
  refine ⟨by rw [ht.attached]; exact h.attached, ?_, fun hover => ?_⟩
  · obtain ⟨e, he⟩ := h.editor
    exact ⟨e, he.of_eq ht.editors ht.attached (by rw [ht.known]) hbacklog⟩
  · rw [ht.overtook] at hover
    rw [IsCaughtUp, ht.knownText, hbacklog, ht.text]
    exact h.caughtUp hover

/-! ## What is heard of the editor -/

/-- The draft hears of the text in the editor that is attached to it. -/
theorem isAtDesk_hear {e : Editor} (hbuffer : ∀ b n, s.attached b = some n → b = d.buffer)
    (heditors : s.editors = [(name, e)]) (hlisteners : ∀ l ∈ e.listeners, l = d)
    (hne : e.listeners ≠ []) (hattached : s.attached d.buffer = some name)
    (hknown : (s.known d).isSome)
    (hcaught : s.knownText d = e.value → .overtook d ∉ s.history → IsCaughtUp d s) :
    IsAtDesk d name (s.hear e.value d) := by
  by_cases hsame : s.knownText d = e.value
  · rw [hear_of_known hsame]
    refine ⟨hbuffer, ⟨e, heditors, hlisteners, fun hnil => absurd hnil hne,
      fun _ => ⟨hattached, ?_⟩⟩, hcaught hsame⟩
    obtain ⟨text, htext⟩ := Option.isSome_iff_exists.mp hknown
    rw [htext, ← hsame, knownText_of_known htext]
  · have hboard : (s.hear e.value d).board = s.board.spawn .edit (.ofEditor d e.value) := by
      unfold Session.hear
      rw [if_neg (Ne.symm hsame)]
      rfl
    have hrest : (s.hear e.value d).editors = s.editors ∧
        (s.hear e.value d).attached = s.attached ∧
        (s.hear e.value d).known d = some e.value := by
      unfold Session.hear
      rw [if_neg (Ne.symm hsame)]
      exact ⟨rfl, rfl, by simp [setKnown]⟩
    obtain ⟨heditors', hattached', hknown'⟩ := hrest
    refine ⟨by rw [hattached']; exact hbuffer, ⟨e, ?_, hlisteners, ?_, ?_⟩, ?_⟩
    · rw [heditors', heditors]
    · exact fun hnil => absurd hnil hne
    · exact fun _ => ⟨by rw [hattached', hattached], hknown'⟩
    · intro _
      rw [IsCaughtUp, knownText_of_known hknown', backlog_spawn hboard d]
      simp [Role.isEdit]

/-! ## What can be done to the editor -/

theorem find?_singleton (name : String) (e : Editor) (n : String) :
    Editors.find? [(name, e)] n = if n = name then some e else none := by
  unfold Editors.find?
  by_cases h : n = name
  · rw [h, List.lookup_cons_self, if_pos rfl]
  · rw [List.lookup_cons, beq_false_of_ne h, if_neg h]
    rfl

theorem modify_singleton (name : String) (e : Editor) (n : String) (f : Editor → Editor) :
    Editors.modify [(name, e)] n f = [(name, if n = name then f e else e)] := by
  unfold Editors.modify
  by_cases h : n = name
  · simp [h]
  · simp [h, Ne.symm h]

/-- Something about the editor changes that is not its text, nor who listens to it. -/
theorem IsAtDesk.setEditor (h : IsAtDesk d name s) {e e' : Editor} (he : IsEditor d name s e)
    (hvalue : e'.value = e.value) (hlisteners : e'.listeners = e.listeners) :
    IsAtDesk d name { s with editors := [(name, e')] } := by
  refine ⟨h.attached, ⟨e', rfl, ?_, ?_, ?_⟩, h.caughtUp⟩
  · rw [hlisteners]
    exact he.listeners
  · rw [hlisteners]
    exact he.away
  · rw [hlisteners, hvalue]
    exact he.here

theorem IsAtDesk.report (h : IsAtDesk d name s) (n : String) : IsAtDesk d name (s.report n) := by
  obtain ⟨e, he⟩ := h.editor
  unfold Session.report
  rw [he.editors, find?_singleton, modify_singleton]
  by_cases hn : n = name
  · rw [if_pos hn, if_pos hn]
    have hreported : IsAtDesk d name { s with editors := [(name, e.report)] } :=
      h.setEditor he rfl rfl
    dsimp only
    by_cases hnil : e.listeners = []
    · rwa [hnil]
    · rwa [foldl_hear_of_known he.listeners]
      exact knownText_of_known (he.here hnil).2
  · rw [if_neg hn]
    exact h

theorem IsAtDesk.typeInto (h : IsAtDesk d name s) (n text : String) :
    IsAtDesk d name (s.typeInto n text) := by
  obtain ⟨e, he⟩ := h.editor
  by_cases hn : n = name
  · subst hn
    let typed : Editor := { e with value := text }
    have htyped : s.typeInto n text = e.listeners.foldl (Session.hear text)
        { s with editors := [(n, typed.report)] } := by
      unfold Session.typeInto Session.report
      simp only [he.editors, modify_singleton, find?_singleton, if_true]
      rfl
    rw [htyped]
    by_cases hnil : e.listeners = []
    · rw [hnil]
      exact ⟨h.attached, ⟨typed.report, rfl, by simp [typed, Editor.report, hnil],
        fun _ => he.away hnil, fun hne => absurd hnil hne⟩, h.caughtUp⟩
    · rw [foldl_hear hnil he.listeners]
      exact isAtDesk_hear (e := typed.report) h.attached rfl he.listeners hnil (he.here hnil).1
        (by simp [(he.here hnil).2]) fun _ => h.caughtUp
  · have hsame : s.typeInto n text = s.report n := by
      unfold Session.typeInto
      rw [he.editors, modify_singleton, if_neg hn, ← he.editors]
    rw [hsame]
    exact h.report n

theorem IsAtDesk.attach (h : IsAtDesk d name s) : IsAtDesk d name (s.attach d.buffer name) := by
  obtain ⟨e, he⟩ := h.editor
  let listening : Editor := { e with listeners := e.listeners ++ [d] }
  have hfind : s.editors.find? name = some e := by rw [he.editors, find?_singleton, if_pos rfl]
  have heditors : (s.listenTo d name).editors = [(name, listening)] := by
    unfold listenTo setKnown
    dsimp only
    rw [he.editors, modify_singleton, if_pos rfl]
  have hbuffer (b : Buffer) (n : String) (hb : (s.listenTo d name).attached b = some n) :
      b = d.buffer := by
    by_cases hb' : b = d.buffer
    · exact hb'
    · exact h.attached b n (by simpa [listenTo, setKnown, hb'] using hb)
  rw [attach_buffer s d hfind]
  refine isAtDesk_hear (e := listening) hbuffer heditors ?_ (by simp [listening])
    (by simp [listenTo, setKnown]) (by simp [listenTo, setKnown]) fun hknown hover => ?_
  · intro l hl
    obtain hl | hl := List.mem_append.mp hl
    · exact he.listeners l hl
    · exact List.mem_singleton.mp hl
  · -- the draft holds what is in the editor, which was caught up with before
    have hbacklog : (s.listenTo d name).backlog d = s.backlog d := backlog_congr rfl d
    have htext : (s.listenTo d name).knownText d = ((s.listenTo d name).store.draft d).text := by
      rw [text_draft]
      exact knownText_setKnown _ d _
    rw [IsCaughtUp, hbacklog]
    by_cases hnil : e.listeners = []
    · rw [(he.away hnil).2]
      exact htext
    · have hbefore := h.caughtUp hover
      rw [IsCaughtUp, knownText_of_known (he.here hnil).2] at hbefore
      rw [hknown]
      exact hbefore

/-! ## Texts that are put into a draft -/

/-- A text has been put into the editor of the draft, but not yet into the draft. -/
structure IsWritten (d : Draft) (name text : String) (s : Session V) : Prop where
  attached : ∀ b n, s.attached b = some n → b = d.buffer
  editor : ∃ e, IsEditor d name s e
  known : s.known d = some text
  empty : .overtook d ∉ s.history → s.backlog d = []

theorem isWritten_syncEditor {e : Editor} (hbuffer : ∀ b n, s.attached b = some n → b = d.buffer)
    (heditors : s.editors = [(name, e)]) (hlisteners : ∀ l ∈ e.listeners, l = d)
    (haway : e.listeners = [] → s.attached d.buffer = none ∧ s.backlog d = [])
    (hhere : e.listeners ≠ [] → s.attached d.buffer = some name) {text : String}
    (hknown : s.known d = some text) (hempty : .overtook d ∉ s.history → s.backlog d = []) :
    IsWritten d name text (s.syncEditor d.buffer text) := by
  by_cases hnil : e.listeners = []
  · rw [syncEditor_of_none s text (haway hnil).1]
    exact ⟨hbuffer, ⟨e, heditors, hlisteners, haway, fun hne => absurd hnil hne⟩, hknown, hempty⟩
  · have hfind : s.editors.find? name = some e := by rw [heditors, find?_singleton, if_pos rfl]
    have hwritten {e' : Editor} {u : Session V} (hvalue : e'.value = text)
        (hsame : e'.listeners = e.listeners) (hu : u.editors = [(name, e')])
        (hattached : u.attached = s.attached) (hu' : u.known = s.known)
        (hbacklog : .overtook d ∉ u.history → u.backlog d = []) : IsWritten d name text u := by
      refine ⟨by rwa [hattached], ⟨e', hu, by rwa [hsame], fun hnil' => ?_, fun _ => ⟨?_, ?_⟩⟩, ?_,
        hbacklog⟩
      · exact absurd (hsame.symm.trans hnil') hnil
      · rw [hattached, hhere hnil]
      · rw [hu', hknown, hvalue]
      · rw [hu', hknown]
    obtain ⟨hsync, hvalue⟩ | ⟨board, hboard, hsync⟩ := syncEditor_cases s (hhere hnil) hfind text
    · rw [hsync]
      exact hwritten hvalue rfl heditors rfl rfl hempty
    · rw [hsync]
      have hmodify : s.editors.modify name (·.load text) = [(name, e.load text)] := by
        rw [heditors, modify_singleton, if_pos rfl]
      refine hwritten (e.value_load text) (e.listeners_load text) hmodify rfl rfl fun hover => ?_
      obtain rfl | rfl := hboard
      · exact hempty hover
      · rw [backlog_spawn (s := s) rfl d, hempty hover]
        rfl

theorem IsAtDesk.overwrite (h : IsAtDesk d name s) (text : String) :
    IsWritten d name text (s.overwrite d text) := by
  obtain ⟨history, hoverwrite, hempty, -⟩ := overwrite_eq s d text
  obtain ⟨e, he⟩ := h.editor
  rw [hoverwrite]
  let u := { s with history }.setKnown d text
  have hknown : u.known d = some text := by simp [u, setKnown]
  exact isWritten_syncEditor (s := u) h.attached he.editors he.listeners he.away
    (fun hne => (he.here hne).1) hknown hempty

/-- No other draft has an editor. -/
theorem IsAtDesk.attached_eq_none (h : IsAtDesk d name s) {b : Buffer} (hb : b ≠ d.buffer) :
    s.attached b = none := by
  cases hattached : s.attached b with
  | none => rfl
  | some n => exact absurd (h.attached b n hattached) hb

/-- A text is put into a draft, and into its editor. -/
theorem IsAtDesk.applyEdit (h : IsAtDesk d name s) (e : Draft) (text : String) :
    IsAtDesk d name (s.applyEdit e text false) := by
  change IsAtDesk d name ((s.overwrite e text).putText e text)
  have hserved := served_putText (s.overwrite e text) e text
  have hbacklog : ((s.overwrite e text).putText e text).backlog d =
      (s.overwrite e text).backlog d := by
    refine backlog_congr ?_ d
    unfold Session.changes Board.upcoming
    rw [(sameLine_putText (s.overwrite e text) e text).activities]
  by_cases hd : e = d
  · subst hd
    obtain ⟨hbuffer, ⟨editor, heditor⟩, hknown, hempty⟩ := h.overwrite text
    refine ⟨by rwa [hserved.attached], ⟨editor, heditor.of_eq hserved.editors hserved.attached
      (by rw [hserved.known]) hbacklog⟩, fun hover => ?_⟩
    have hnone := hempty (by simpa using hover)
    rw [IsCaughtUp, knownText_of_known (by rw [hserved.known, hknown]), hbacklog, hnone,
      hserved.texts, if_pos rfl]
    rfl
  · -- what becomes of the editor of a draft does not depend on the other drafts
    have hother : s.attached e.buffer = none :=
      h.attached_eq_none fun hb => hd (by cases e <;> cases d <;> first | rfl | cases hb)
    obtain ⟨history, hoverwrite, -, hsame⟩ := overwrite_eq s e text
    rw [syncEditor_of_none _ _ (by exact hother)] at hoverwrite
    have hknown : (s.overwrite e text).known d = s.known d := by
      rw [hoverwrite]
      simp [setKnown, Ne.symm hd]
    have hbefore : (s.overwrite e text).backlog d = s.backlog d := by
      rw [hoverwrite]
      exact backlog_congr rfl d
    obtain ⟨editor, heditor⟩ := h.editor
    refine ⟨?_, ⟨editor, heditor.of_eq ?_ ?_ ?_ (hbacklog.trans hbefore)⟩, fun hover => ?_⟩
    · rw [hserved.attached, hoverwrite]
      exact h.attached
    · rw [hserved.editors, hoverwrite]
      rfl
    · rw [hserved.attached, hoverwrite]
      rfl
    · rw [hserved.known, hknown]
    · have hover' : .overtook d ∉ s.history := by
        rw [history_putText, hoverwrite] at hover
        simpa [setKnown, hsame d (Ne.symm hd)] using hover
      have htext : ((s.overwrite e text).store.draft d).text = (s.store.draft d).text := by
        rw [store_overwrite]
      have hcaught := h.caughtUp hover'
      rw [IsCaughtUp, Session.knownText, ← text_draft] at hcaught ⊢
      rwa [hserved.known, hknown, hbacklog, hbefore, hserved.texts, if_neg hd, htext]

/-! ## Stretches of work -/

/-- It is so after each touch, and when a change in an editor is applied. -/
theorem upholds_isAtDesk (d : Draft) (name : String) :
    Upholds (V := V) (deskScope d name) (IsAtDesk d name) where
  touch h htouch _ := by
    cases htouch with
    | rest haloof =>
      refine h.bench haloof.toSameBench ?_
      unfold Session.changes Board.upcoming
      rw [haloof.board.activities]
    | edit e text fromEditor hfrom =>
      obtain rfl : fromEditor = false := hfrom
      exact h.applyEdit e text
    | type n text => exact h.typeInto n text
    | report n => exact h.report n
    | attach b n hattach =>
      obtain ⟨rfl, rfl⟩ := hattach
      exact h.attach
    | output text =>
      rw [syncEditor_of_none _ text (h.attached_eq_none (by cases d <;> simp [Draft.buffer]))]
      exact h
  bench h ht hchanges _ := h.bench ht hchanges
  serve {s t id e text} h hfront ht _ := by
    obtain ⟨editor, heditor⟩ := h.editor
    have hovertook : .overtook d ∈ t.history ↔ .overtook d ∈ s.history := by
      obtain ⟨time, hhistory⟩ := ht.history
      rw [← overtook_mem_filter, hhistory]
      simp [Happening.isOfTexts]
    by_cases hd : e = d
    · subst hd
      have hbacklog : s.backlog e = text :: t.backlog e := by rw [backlog_front hfront, if_pos rfl]
      have hne : editor.listeners ≠ [] := fun hnil => by
        rw [(heditor.away hnil).2] at hbacklog
        cases hbacklog
      refine ⟨by rw [ht.attached]; exact h.attached, ⟨editor, ht.editors.trans heditor.editors,
        heditor.listeners, fun hnil => absurd hnil hne, fun _ => ?_⟩, fun hover => ?_⟩
      · rw [ht.attached, ht.known]
        exact heditor.here hne
      · have hbefore := h.caughtUp fun hmem => hover (hovertook.mpr hmem)
        rw [IsCaughtUp, knownText_of_known (heditor.here hne).2, hbacklog, List.getLast?_cons,
          Option.getD_some] at hbefore
        rw [IsCaughtUp, knownText_of_known (by rw [ht.known, (heditor.here hne).2]), ht.texts,
          if_pos rfl, hbefore]
    · have hbacklog : t.backlog d = s.backlog d := by rw [backlog_front hfront, if_neg hd]
      refine ⟨by rw [ht.attached]; exact h.attached, ⟨editor, heditor.of_eq ht.editors ht.attached
        (by rw [ht.known]) hbacklog⟩, fun hover => ?_⟩
      have hcaught := h.caughtUp fun hmem => hover (hovertook.mpr hmem)
      rw [IsCaughtUp, Session.knownText, ← text_draft] at hcaught ⊢
      rwa [ht.known, hbacklog, ht.texts, if_neg hd]

end Workbench.Session
