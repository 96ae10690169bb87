import Workbench.Proofs.Session.Coherence
import Workbench.Proofs.Session.Feed

/-!
# Typing

A user types into an editor that is attached to a draft, and nobody else gives the draft a text.
Then the draft gets the texts that the editor reports one after the other, except those that
repeat the one before, and the session never writes into the editor. Main definitions:
`differing`, the texts that do not repeat the one before, and `Typing`, how such a session can go
on.
-/
namespace Workbench.Session

open Document (Draft)

variable {V : Type} {view : View V} {d : Draft} {name : String}

/-- The texts that differ from the one before, the first of them from a text that was there. -/
def differing (text : String) : List String → List String
  | [] => []
  | next :: texts =>
    if next = text then differing next texts else next :: differing next texts

theorem differing_concat (text : String) (texts : List String) (next : String) :
    differing text (texts ++ [next]) =
      differing text texts ++ if next = texts.getLast?.getD text then [] else [next] := by
  induction texts generalizing text with
  | nil => by_cases h : next = text <;> simp [differing, h]
  | cons first texts ih =>
    rw [List.cons_append, differing, differing, List.getLast?_cons, Option.getD_some, ih]
    split <;> rfl

/-- Whatever is left out, the last text is the same. -/
theorem getLast?_differing (text : String) (texts : List String) :
    (differing text texts).getLast?.getD text = texts.getLast?.getD text := by
  induction texts generalizing text with
  | nil => rfl
  | cons first texts ih =>
    rw [differing, List.getLast?_cons, Option.getD_some, ← ih first]
    split
    case isTrue h => rw [h]
    case isFalse => rw [List.getLast?_cons, Option.getD_some]

/-- No text is put into the draft, and nobody but the user has to do with its editor. -/
def typingScope (d : Draft) (name : String) : Scope where
  edits e _ := e ≠ d
  types n := n ≠ name
  attaches b n := b ≠ d.buffer ∧ n ≠ name

theorem isPrivate_typingScope (d : Draft) (name : String) :
    (typingScope d name).IsPrivate d name := ⟨fun h => h rfl, fun h => h rfl, fun _ _ h => h⟩

/-- What can come of a session while a user types into an editor: the texts typed, and the
session. All else may happen in between, but nobody else has to do with the editor and its draft.
-/
inductive Typing (view : View V) (d : Draft) (name : String) (s : Session V) :
    List String → Session V → Prop
  | refl : Typing view d name s [] s
  | put {typed t} (h : Typing view d name s typed t) (text : String) :
      Typing view d name s (typed ++ [text]) (t.put name text)
  | next {typed t u} (h : Typing view d name s typed t)
      (hnext : NextWithin view (typingScope d name) t u) : Typing view d name s typed u

/-- An editor that is not attached yet, and a draft that no editor feeds. -/
structure IsAsunder (d : Draft) (name : String) (s : Session V) (e : Editor) : Prop where
  found : s.editors.find? name = some e
  listeners : e.listeners = []
  attached : ∀ b, s.attached b ≠ some name
  others : ∀ n, ¬ s.editors.Listens n d
  backlog : s.backlog d = []

variable {s t : Session V}

/-- The editor reports at once what is typed. -/
theorem Typing.typeInto {typed : List String} (h : Typing view d name s typed t) (text : String) :
    Typing view d name s (typed ++ [text]) (t.typeInto name text) := by
  rw [typeInto_eq]
  exact (h.put text).next (.report _ name)

/-- The user pauses. -/
theorem Typing.run {typed : List String} {u : Session V} (h : Typing view d name s typed t)
    (hrun : RunWithin view (typingScope d name) t u) : Typing view d name s typed u := by
  induction hrun with
  | refl => exact h
  | tail _ hnext ih => exact ih.next hnext

/-! ## How far the texts have got -/

/-- What an editor that now holds this text has reported since it was attached, and what the draft
has got of it. Before that it had a text, and had got others. -/
structure HasHeard (d : Draft) (e : Editor) (text : String) (before : List String)
    (value : String) (heard applied : List String) (f : Feed) : Prop where
  editor : f.editor = { e with value, listeners := [d], reported := e.reported ++ heard }
  known : f.known = heard.getLast?.getD e.value
  waiting : applied ++ f.waiting = differing text (e.value :: heard)
  text : f.text = applied.getLast?.getD text
  applied : f.applied = before ++ applied

def IsTyped (d : Draft) (e : Editor) (text : String) (before : List String) (value : String)
    (f : Feed) : Prop :=
  ∃ heard applied, HasHeard d e text before value heard applied f

variable {e : Editor} {text value : String} {before heard applied : List String} {f g : Feed}

namespace HasHeard

/-- The editor reports what is in it. -/
theorem report (h : HasHeard d e text before value heard applied f) :
    HasHeard d e text before value (heard ++ [value]) applied f.report := by
  have hvalue : f.editor.report.value = value := by
    rw [h.editor]
    rfl
  have hlast : (e.value :: heard).getLast?.getD text = f.known := by
    rw [h.known, List.getLast?_cons, Option.getD_some]
  have heditor : f.editor.report =
      { e with value, listeners := [d], reported := e.reported ++ (heard ++ [value]) } := by
    rw [h.editor, Editor.report, List.append_assoc]
  have hknown : value = (heard ++ [value]).getLast?.getD e.value := by
    rw [List.getLast?_concat, Option.getD_some]
  unfold Feed.report Feed.hear
  rw [hvalue]
  split
  case isTrue hsame =>
    refine ⟨heditor, hsame.symm.trans hknown, ?_, h.text, h.applied⟩
    rw [← List.cons_append, differing_concat, hlast, if_pos hsame, List.append_nil, h.waiting]
  case isFalse hnew =>
    refine ⟨heditor, hknown, ?_, h.text, h.applied⟩
    rw [← List.cons_append, differing_concat, hlast, if_neg hnew, ← h.waiting, List.append_assoc]

/-- The draft gets the first of the texts that are still to be applied. -/
theorem serve (h : HasHeard d e text before value heard applied f) {next : String}
    {waiting : List String} (hwaiting : f.waiting = next :: waiting) :
    HasHeard d e text before value heard (applied ++ [next])
      { f with waiting, text := next, applied := f.applied ++ [next] } where
  editor := h.editor
  known := h.known
  waiting := by rw [← h.waiting, hwaiting, List.append_assoc, List.singleton_append]
  text := by rw [List.getLast?_concat, Option.getD_some]
  applied := by rw [h.applied, List.append_assoc]

/-- The user types. -/
theorem put (h : HasHeard d e text before value heard applied f) (typed : String) :
    HasHeard d e text before typed heard applied
      { f with editor := { f.editor with value := typed } } :=
  ⟨by rw [h.editor], h.known, h.waiting, h.text, h.applied⟩

/-- All that was heard has been applied. -/
theorem text_of_waiting (h : HasHeard d e text before value heard applied f)
    (hnil : f.waiting = []) : f.text = heard.getLast?.getD e.value := by
  have happlied := h.waiting
  rw [hnil, List.append_nil] at happlied
  rw [h.text, happlied, getLast?_differing, List.getLast?_cons, Option.getD_some]

end HasHeard

theorem IsTyped.next (h : IsTyped d e text before value f)
    (hnext : Feed.Next ((typingScope d name).edits d false) f g) :
    IsTyped d e text before value g := by
  obtain ⟨heard, applied, h⟩ := h
  cases hnext with
  | report => exact ⟨_, _, h.report⟩
  | edit hedit => exact absurd rfl hedit
  | serve hwaiting => exact ⟨_, _, h.serve hwaiting⟩

/-! ## Sessions -/

/-- The draft listens to the editor, and knows only its own text. -/
theorem IsAsunder.listenTo (h : IsAsunder d name s e) :
    IsFeed d name (s.listenTo d name)
      { editor := { e with listeners := [d] }
        known := s.store.text d.buffer
        waiting := []
        text := s.store.text d.buffer
        applied := s.editedTexts d } where
  found := by rw [find?_listenTo, if_pos rfl, h.found, Option.map_some, h.listeners, List.nil_append]
  listens := by simp
  listeners := by simp
  others n hn hlistens := by
    obtain ⟨x, hx, hmem⟩ := hlistens
    rw [find?_listenTo, if_neg hn] at hx
    exact h.others n ⟨x, hx, hmem⟩
  attached b := by
    by_cases hb : b = d.buffer
    · simp [Session.listenTo, setKnown, hb]
    · simp [Session.listenTo, setKnown, hb, h.attached b]
  known := by simp [Session.listenTo, setKnown]
  waiting := h.backlog
  text := rfl
  applied := rfl

/-- The editor is attached, and what is in it is the first text that is heard of it. -/
theorem IsAsunder.attach (h : IsAsunder d name s e) :
    HasFeed d name (IsTyped d e (s.store.text d.buffer) (s.editedTexts d) e.value)
      (s.attach d.buffer name) := by
  have hfeed := h.listenTo.hear
  rw [attach_buffer s d h.found]
  refine ⟨_, ⟨[], [], ?_⟩, hfeed⟩
  have heditor : { e with listeners := [d] } =
      { e with listeners := [d], reported := e.reported ++ [] } := by rw [List.append_nil]
  unfold Feed.hear
  dsimp only
  split
  case isTrue hsame =>
    refine ⟨heditor, hsame.symm, ?_, rfl, (List.append_nil _).symm⟩
    rw [differing, if_pos hsame]
    rfl
  case isFalse hnew =>
    refine ⟨heditor, rfl, ?_, rfl, (List.append_nil _).symm⟩
    rw [differing, if_neg hnew]
    rfl

/-- The session goes on while the user types. -/
theorem Typing.isKept {typed : List String} (hrun : Typing view d name s typed t)
    (hs : s.IsOrderly)
    (h : IsKept (typingScope d name) (HasFeed d name (IsTyped d e text before e.value)) s) :
    t.IsOrderly ∧ IsKept (typingScope d name)
      (HasFeed d name (IsTyped d e text before (typed.getLast?.getD e.value))) t := by
  induction hrun with
  | refl => exact ⟨hs, h⟩
  | put _ typed ih =>
    obtain ⟨horderly, hqueue, f, ⟨heard, applied, hf⟩, hfeed⟩ := ih
    refine ⟨isOrderly_of_eq horderly rfl rfl, hqueue.of_board rfl, _, ⟨heard, applied, ?_⟩,
      hfeed.put typed⟩
    rw [List.getLast?_concat, Option.getD_some]
    exact hf.put typed
  | next _ hnext ih =>
    exact ⟨hnext.isOrderly ih.1, (isPrivate_typingScope d name).next IsTyped.next ih.1 ih.2 hnext⟩

/-- While a user types, the draft gets in order the texts that the editor reports, the first being
the one in it when it was attached, except those that repeat the one before; and the editor holds
what was typed. The draft's text is the last one reported as soon as no change is left to be
applied, and none is left when there is nothing to do. -/
theorem typed_texts_applied {typed : List String} (hs : Reachable view s)
    (hasunder : IsAsunder d name s e) (hwithin : s.IsWithin (typingScope d name))
    (hrun : Typing view d name (s.attach d.buffer name) typed t) :
    ∃ heard applied,
      t.editors.find? name = some
        { e with
          value := typed.getLast?.getD e.value
          listeners := [d]
          reported := e.reported ++ heard } ∧
      t.editedTexts d = s.editedTexts d ++ applied ∧
      applied ++ t.backlog d = differing (s.store.text d.buffer) (e.value :: heard) ∧
      t.store.text d.buffer = applied.getLast?.getD (s.store.text d.buffer) ∧
      (t.backlog d = [] → t.store.text d.buffer = heard.getLast?.getD e.value) ∧
      (t.step view = none → t.backlog d = []) := by
  have hqueue : IsQueue (typingScope d name) (s.attach d.buffer name) :=
    (hs.isQueue.within hwithin).attach d.buffer name
  have horderly := (Reachable.next hs (.attach s d.buffer name)).isOrderly
  obtain ⟨-, hkept⟩ := hrun.isKept horderly ⟨hqueue, hasunder.attach⟩
  obtain ⟨f, ⟨heard, applied, hf⟩, hfeed⟩ := hkept.holds
  refine ⟨heard, applied, ?_, ?_, ?_, ?_, fun hnil => ?_, fun hrest => ?_⟩
  · rw [hfeed.found, hf.editor]
  · rw [hfeed.applied, hf.applied]
  · rw [hfeed.waiting, hf.waiting]
  · rw [hfeed.text, hf.text]
  · rw [hfeed.text]
    exact hf.text_of_waiting (hfeed.waiting.symm.trans hnil)
  · exact hkept.queue.backlog_eq_nil hrest d

/-- A session with an editor for its input that is not attached yet. -/
def blankSession : Session Unit :=
  (localSession easyServer 0 false).withEditor "editor" "" false .never

theorem isAsunder_blankSession :
    IsAsunder .input "editor" blankSession { value := "", readOnly := false, echo := .never } := by
  have hfree : blankSession.attached = fun _ => none := rfl
  refine ⟨by decide, rfl, by simp [hfree], fun n hlistens => ?_, rfl⟩
  obtain ⟨e, he, hmem⟩ := hlistens
  have hfind : blankSession.editors.find? n = _ := find?_singleton "editor" _ n
  rw [hfind] at he
  split at he
  · cases he
    cases hmem
  · cases he

/-- The user types a letter there and takes it away again before anything is applied. -/
def typedSession : Session Unit :=
  ((blankSession.attach .input "editor").typeInto "editor" "a").typeInto "editor" ""

def revertedSession : Session Unit := (machine blindView).rest 100 typedSession

theorem typing_revertedSession :
    Typing blindView .input "editor" (blankSession.attach .input "editor") ["a", ""]
      revertedSession := by
  have htyped : Typing blindView .input "editor" (blankSession.attach .input "editor") ["a", ""]
      typedSession := (Typing.refl.typeInto "a").typeInto ""
  exact htyped.run (RunWithin.rest 100 typedSession)

theorem typed_texts_applied_after_revert :
    revertedSession.editedTexts .input = ["a", ""] ∧ revertedSession.store.text .input = "" := by
  have hnew : Reachable blindView (localSession easyServer 0 false) := .new ..
  have hs : Reachable blindView blankSession := hnew.withEditor "editor" "" false .never
  have hwithin : blankSession.IsWithin (typingScope .input "editor") := fun a ha => by cases ha
  have hrun := typing_revertedSession
  generalize ht : revertedSession = t at hrun
  obtain ⟨heard, applied, hfind, hedited, hline, hlast, -, hrest⟩ :=
    typed_texts_applied hs isAsunder_blankSession hwithin hrun
  have hreported : (t.editors.find? "editor").map (·.reported) = some ["a", ""] := by
    rw [← ht]
    decide +kernel
  have hstep : (t.step blindView).isNone = true := by
    rw [← ht]
    decide +kernel
  have hheard : heard = ["a", ""] := by
    rw [hfind] at hreported
    exact Option.some.inj hreported
  rw [hrest (Option.isNone_iff_eq_none.mp hstep), List.append_nil, hheard] at hline
  have happlied : applied = ["a", ""] := hline
  rw [happlied] at hedited hlast
  exact ⟨hedited, hlast⟩

end Workbench.Session
