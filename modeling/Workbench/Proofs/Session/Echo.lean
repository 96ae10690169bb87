import Workbench.Proofs.Session.Coherence
import Workbench.Proofs.Session.Feed

/-!
# Edits that are not made by typing

A text that is put into a draft is put into its editor, too, which reports it at once, later, or
as often as it likes. As long as no user types, whatever it reports is known already: no change
comes of it, and the editor, what is known of it and the draft have the same text. Main
definition: `IsInStep`.
-/
namespace Workbench.Session

open Document (Draft)

variable {V : Type} {view : View V} {d : Draft} {name : String} {s t : Session V} {e : Editor}

/-- An editor feeds the draft, and nobody else does; the text in it is known and is the text of
the draft, and no change in it is left to be applied. -/
structure IsInStep (d : Draft) (name : String) (s : Session V) (e : Editor) : Prop where
  found : s.editors.find? name = some e
  listens : e.listeners ≠ []
  listeners : ∀ l ∈ e.listeners, l = d
  others : ∀ n ≠ name, ¬ s.editors.Listens n d
  attached : ∀ b, s.attached b = some name ↔ b = d.buffer
  known : s.known d = some e.value
  text : s.store.text d.buffer = e.value
  backlog : s.backlog d = []

/-- No user types into the editor, and no event gives the draft a text in the editor's name. -/
def echoScope (d : Draft) (name : String) : Scope where
  edits e fromEditor := e = d → fromEditor = false
  types n := n ≠ name
  attaches b n := b ≠ d.buffer ∧ n ≠ name

theorem isPrivate_echoScope (d : Draft) (name : String) : (echoScope d name).IsPrivate d name where
  edits h := Bool.noConfusion (h rfl)
  types h := h rfl
  attaches _ _ h := h

/-- The editor, what is known of it and the draft have the same text, and nothing waits. -/
structure Feed.Agrees (f : Feed) : Prop where
  known : f.known = f.editor.value
  text : f.text = f.editor.value
  waiting : f.waiting = []

namespace Feed.Agrees

variable {f g : Feed}

/-- What the editor reports is known. -/
theorem report_eq (h : f.Agrees) : f.report = { f with editor := f.editor.report } :=
  if_pos h.known.symm

theorem value_edit (f : Feed) (text : String) : (f.edit text).editor.value = text := by
  unfold Feed.edit
  dsimp only
  split
  case isTrue h => exact h
  case isFalse => exact f.editor.value_load text

theorem next {mayEdit : Prop} (h : f.Agrees) (hnext : Feed.Next mayEdit f g) : g.Agrees := by
  cases hnext with
  | report =>
    rw [h.report_eq]
    exact ⟨h.known, h.text, h.waiting⟩
  | edit _ f text => exact ⟨(value_edit f text).symm, (value_edit f text).symm, h.waiting⟩
  | serve hwaiting =>
    rw [h.waiting] at hwaiting
    cases hwaiting

end Feed.Agrees

theorem IsInStep.hasFeed (h : IsInStep d name s e) : HasFeed d name Feed.Agrees s :=
  ⟨{ editor := e, known := e.value, waiting := [], text := e.value, applied := s.editedTexts d },
    ⟨rfl, rfl, rfl⟩, h.found, h.listens, h.listeners, h.others, h.attached, h.known, h.backlog,
    h.text, rfl⟩

theorem HasFeed.isInStep (h : HasFeed d name Feed.Agrees s) : ∃ e, IsInStep d name s e := by
  obtain ⟨f, hf, hfeed⟩ := h
  exact ⟨f.editor, hfeed.found, hfeed.listens, hfeed.listeners, hfeed.others, hfeed.attached,
    by rw [hfeed.known, hf.known], by rw [hfeed.text, hf.text], by rw [hfeed.waiting, hf.waiting]⟩

/-- What such an editor reports is no change. -/
theorem IsInStep.report_eq (h : IsInStep d name s e) :
    s.report name = { s with editors := s.editors.modify name Editor.report } := by
  unfold Session.report
  rw [h.found]
  exact foldl_hear_of_known h.listeners (knownText_of_known h.known)

/-- However a session goes on in which no user types into the editor: the editor, what is known of
it and the draft have the same text after every step, and whenever the editor reports, only that
it did changes. -/
theorem edits_never_echo (hs : Reachable view s) (hwithin : s.IsWithin (echoScope d name))
    (h : IsInStep d name s e) (hrun : RunWithin view (echoScope d name) s t) :
    ∃ e', IsInStep d name t e' ∧
      t.report name = { t with editors := t.editors.modify name Editor.report } := by
  have hkept : IsKept (echoScope d name) (HasFeed d name Feed.Agrees) s :=
    ⟨hs.isQueue.within hwithin, h.hasFeed⟩
  obtain ⟨-, -, hfeed⟩ := (isPrivate_echoScope d name).run Feed.Agrees.next hs.isOrderly hkept hrun
  obtain ⟨e', he'⟩ := hfeed.isInStep
  exact ⟨e', he', he'.report_eq⟩

/-- A session whose input has an editor that reports later what the session puts in. -/
def attachedSession : Session Unit :=
  ((localSession easyServer 0 false).withEditor "editor" "" false .later).attach .input "editor"

theorem isInStep_attachedSession :
    IsInStep .input "editor" attachedSession
      { value := "", readOnly := false, echo := .later, listeners := [.input] } := by
  have hattached : attachedSession.attached = fun b => if b = .input then some "editor" else none :=
    rfl
  refine ⟨by decide, by simp, by simp, fun n hn hlistens => ?_, fun b => ?_, rfl, by decide, rfl⟩
  · obtain ⟨e, he, -⟩ := hlistens
    have hfind : attachedSession.editors.find? n = _ := find?_singleton "editor" _ n
    rw [hfind, if_neg hn] at he
    cases he
  · rw [hattached]
    cases b <;> simp [Draft.buffer]

/-- It gets a text that is formatted; the editor reports both, and once more after that. -/
def echoingSession : Session Unit :=
  ((machine blindView).rest 100
    (attachedSession.launch 0 [.edit .input "[1]", .format .input])).report "editor"

theorem run_echoingSession :
    RunWithin blindView (echoScope .input "editor") attachedSession echoingSession := by
  have hactions : ∀ a ∈ [Action.edit .input "[1]", .format .input],
      a.isFair = true ∧ a.Within (echoScope .input "editor") := by
    simp [Action.isFair, Action.Within, Scope.Edits, echoScope]
  exact .tail (.head (.launch attachedSession 0 hactions) (RunWithin.rest 100 _))
    (.report _ "editor")

theorem edits_never_echo_formatted :
    (∃ e, IsInStep .input "editor" echoingSession e) ∧
      echoingSession.store.text .input = "[\n  1\n]" ∧
      (echoingSession.editors.find? "editor").map (·.reported.length) = some 3 := by
  have hnew : Reachable blindView (localSession easyServer 0 false) := .new ..
  have hs : Reachable blindView attachedSession :=
    (hnew.withEditor "editor" "" false .later).next (.attach _ .input "editor")
  have hwithin : attachedSession.IsWithin (echoScope .input "editor") := fun a ha => by cases ha
  obtain ⟨e, he, -⟩ := edits_never_echo hs hwithin isInStep_attachedSession run_echoingSession
  refine ⟨⟨e, he⟩, ?_, ?_⟩
  · decide +kernel
  · decide +kernel

end Workbench.Session
