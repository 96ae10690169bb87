import Workbench.Proofs.Session.Desk
import Workbench.Proofs.Session.Shift

/-!
# What the editor shows is what the session works on

A session with one editor goes from turn to turn. Changes in the editor are applied one after the
other, in the order in which they were made; so once none is left, the draft holds what the editor
shows, unless a text was put into the draft while one was still to be applied.
-/
namespace Workbench.Session

open Document (Draft)
open Turn (Board)

variable {V : Type} {view : View V} {d : Draft} {name : String} {s t : Session V}

/-! ## Runs -/

/-- What can happen next in a session whose only editor is that of a draft: all that can happen in a
session, but no other editor is attached, and no event says of itself that it comes from an
editor. -/
inductive DeskNext (view : View V) (d : Draft) (name : String) : Session V → Session V → Prop
  | job {s t : Session V} (h : s.step view = some t) : DeskNext view d name s t
  | wait (s : Session V) (time) : DeskNext view d name s { s with board := s.board.moveTo time }
  | launch (s : Session V) (number) {actions}
      (h : ∀ a ∈ actions, a.isFair = true ∧ a.isOf d name = true) :
      DeskNext view d name s (s.launch number actions)
  | attach (s : Session V) : DeskNext view d name s (s.attach d.buffer name)
  | type (s : Session V) (n text) : DeskNext view d name s (s.typeInto n text)
  | report (s : Session V) (n) : DeskNext view d name s (s.report n)
  | close (s : Session V) : DeskNext view d name s s.close
  | around {s t : Session V} (h : Still s t) : DeskNext view d name s t

/-- A stretch of the life of such a session. -/
abbrev DeskRun (view : View V) (d : Draft) (name : String) : Session V → Session V → Prop :=
  Relation.ReflTransGen (DeskNext view d name)

/-- A session with an editor that is not attached yet. -/
def withEditor (name text : String) (readOnly : Bool) (echo : Echo) (s : Session V) : Session V :=
  { s with editors := [(name, { value := text, readOnly, echo })] }

theorem Reachable.withEditor (hs : Reachable view s) (name text : String) (readOnly : Bool)
    (echo : Echo) : Reachable view (s.withEditor name text readOnly echo) :=
  hs.next (.around ⟨rfl, rfl, rfl, rfl, rfl⟩)

theorem DeskNext.next (h : DeskNext view d name s t) : Next view s t := by
  cases h with
  | job h => exact .job h
  | wait time => exact .wait s time
  | launch number h => exact .launch s number fun a ha => (h a ha).1
  | attach => exact .attach s _ _
  | type n text => exact .type s n text
  | report n => exact .report s n
  | close => exact .close s
  | around h => exact .around h.toQuiet

/-- The editor of the draft, and the changes in it that stand in line. -/
structure IsDesk (d : Draft) (name : String) (s : Session V) : Prop extends
    IsAtDesk d name s where
  queue : IsQueue (deskScope d name) s

theorem IsDesk.isKept (h : IsDesk d name s) : IsKept (deskScope d name) (IsAtDesk d name) s :=
  ⟨h.queue, h.toIsAtDesk⟩

theorem IsKept.isDesk (h : IsKept (deskScope d name) (IsAtDesk d name) s) : IsDesk d name s :=
  ⟨h.holds, h.queue⟩

theorem IsDesk.next (h : IsDesk d name s) (hs : s.IsOrderly) (hnext : DeskNext view d name s t) :
    IsDesk d name t := by
  have K := upholds_isAtDesk (V := V) d name
  have hkept := h.isKept
  refine IsKept.isDesk ?_
  cases hnext with
  | job hstep => exact hkept.step K hs hstep
  | wait time =>
    exact hkept.touch K (.rest ⟨sameBench_board s _, Board.sameLine_moveTo s.board time⟩)
  | launch number hactions =>
    exact hkept.launch K number fun a ha => Action.within_of_isOf (hactions a ha).2
  | attach => exact hkept.touch K (.attach _ _ _ ⟨rfl, rfl⟩)
  | type n text => exact hkept.touch K (.type _ n text trivial)
  | report n => exact hkept.touch K (.report _ n)
  | close => exact hkept.touch K (.rest (aloof_close s))
  | around hstill => exact hkept.touch K (.rest hstill.aloof)

theorem DeskRun.isDesk (hrun : DeskRun view d name s t) (hs : s.IsOrderly)
    (h : IsDesk d name s) : t.IsOrderly ∧ IsDesk d name t := by
  induction hrun with
  | refl => exact ⟨hs, h⟩
  | tail _ hnext ih => exact ⟨(hnext.next.byShifts ih.1).1, ih.2.next ih.1 hnext⟩

theorem isDesk_new (settings : Settings) (window : Nat) (armed : Bool) (client : Service.Client)
    (server : Service.Server) (ownsClient watched : Bool) (v : V) (d : Draft) (name text : String)
    (readOnly : Bool) (echo : Echo) :
    IsDesk d name ((new settings window armed client server ownsClient watched v).withEditor name
      text readOnly echo) := by
  refine ⟨⟨?_, ⟨_, rfl, ?_, fun _ => ⟨rfl, rfl⟩, ?_⟩, fun _ => ?_⟩, isQueue_of_empty rfl⟩
  · intro b n hb
    cases hb
  · intro l hl
    cases hl
  · exact fun hne => absurd rfl hne
  · cases d <;> rfl

/-- Was a text put into the draft while a change in its editor was still to be applied? -/
def Happening.isOvertaking (d : Draft) : Happening → Bool
  | .overtook e => e = d
  | _ => false

/-- The text of an editor that is attached to a draft is known. Once no change in it is left to be
applied, it is the text of the draft, unless a text was put into the draft while a change in its
editor was still to be applied. -/
theorem editor_shows_draft {settings : Settings} {window : Nat} {armed : Bool}
    {client : Service.Client} {server : Service.Server} {ownsClient watched : Bool} {v : V}
    {text : String} {readOnly : Bool} {echo : Echo}
    (hrun : DeskRun view d name ((new settings window armed client server ownsClient watched
      v).withEditor name text readOnly echo) s)
    (hattached : s.attached d.buffer = some name) :
    ∃ e, s.editors.find? name = some e ∧ s.known d = some e.value ∧
      (s.pendingEdits = [] → (∀ x ∈ s.history, x.isOvertaking d = false) →
        e.value = s.store.text d.buffer) := by
  have hs := isOrderly_new settings window armed client server ownsClient watched v
  obtain ⟨-, hdesk⟩ := hrun.isDesk (isOrderly_of_eq hs rfl rfl) (isDesk_new ..)
  obtain ⟨e, he⟩ := hdesk.editor
  have hne : e.listeners ≠ [] := fun hnil => by
    rw [(he.away hnil).1] at hattached
    cases hattached
  have hknown := (he.here hne).2
  refine ⟨e, ?_, hknown, fun happlied hkept => ?_⟩
  · rw [he.editors, find?_singleton, if_pos rfl]
  · have hover : .overtook d ∉ s.history := fun hmem => by
      simpa [Happening.isOvertaking] using hkept _ hmem
    have hcaught := hdesk.caughtUp hover
    rwa [IsCaughtUp, knownText_of_known hknown, backlog, happlied, List.filterMap_nil,
      text_draft] at hcaught

/-- A session with an editor for its input that goes on until it comes to rest. -/
def deskSession (actions : List Action) : Session Unit :=
  let s := (localSession easyServer 0 false).withEditor "editor" "" false .never
  (machine blindView).rest 100 ((s.attach .input "editor").launch 0 actions)

theorem run_deskSession (actions : List Action)
    (h : ∀ a ∈ actions, a.isFair = true ∧ a.isOf .input "editor" = true) :
    DeskRun blindView .input "editor"
      ((localSession easyServer 0 false).withEditor "editor" "" false .never)
      (deskSession actions) :=
  .head (.attach _) (.head (.launch _ 0 h) (Run.iterate (fun _ _ => .job) 100 _))

theorem editor_shows_draft_after_edits :
    let s := deskSession [.type "editor" "1", .settle, .edit .input "2"]
    s.attached Draft.input.buffer = some "editor" ∧
      ∃ e, s.editors.find? "editor" = some e ∧ s.known .input = some e.value ∧
        e.value = s.store.text Draft.input.buffer := by
  have hrun := run_deskSession [.type "editor" "1", .settle, .edit .input "2"] (by decide)
  generalize hs : deskSession [.type "editor" "1", .settle, .edit .input "2"] = s at hrun
  have hattached : s.attached Draft.input.buffer = some "editor" := by
    rw [← hs]
    decide +kernel
  have happlied : s.pendingEdits.isEmpty = true := by
    rw [← hs]
    decide +kernel
  have hkept : ∀ x ∈ s.history, x.isOvertaking .input = false := by
    rw [← hs]
    decide +kernel
  obtain ⟨e, hfind, hknown, htext⟩ := editor_shows_draft hrun hattached
  exact ⟨hattached, e, hfind, hknown, htext (List.isEmpty_iff.mp happlied) hkept⟩

/-- A text is put into a draft before a change in its editor is applied: then the change gets into
the draft, but the editor shows the text. -/
theorem editor_differs_after_overtaking :
    ∃ s : Session Unit, DeskRun blindView .input "editor"
        ((localSession easyServer 0 false).withEditor "editor" "" false .never) s ∧
      s.attached .input = some "editor" ∧ s.pendingEdits.isEmpty = true ∧
      (s.editors.find? "editor").map (·.value) = some "B" ∧ s.store.text .input = "A" := by
  refine ⟨deskSession [.type "editor" "A", .edit .input "B"], run_deskSession _ (by decide), ?_⟩
  decide +kernel

end Workbench.Session
