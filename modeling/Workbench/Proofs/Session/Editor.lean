import Workbench.Document.Store
import Workbench.Session.Attachment

/-!
# Editors by name

What is found under a name when an editor has changed, what becomes of a session when a text is
put into the editor of a buffer, and what is known of an editor when a draft hears of its text.
-/
namespace Workbench.Session

open Document (Buffer Draft)

variable {V : Type} {s : Session V} {d : Draft}

theorem Editors.find?_modify (es : Editors) (name n : String) (f : Editor → Editor) :
    (es.modify name f).find? n = if n = name then (es.find? n).map f else es.find? n := by
  induction es with
  | nil => simp [Editors.find?, Editors.modify]
  | cons x es ih =>
    obtain ⟨m, e⟩ := x
    have hhead : Editors.modify ((m, e) :: es) name f =
        (m, if m = name then f e else e) :: Editors.modify es name f := by
      by_cases hm : m = name <;> simp [Editors.modify, hm]
    rw [hhead]
    by_cases hn : n = m
    · subst hn
      simp only [Editors.find?, List.lookup_cons_self]
      split <;> rfl
    · simp only [Editors.find?, List.lookup_cons, beq_false_of_ne hn]
      exact ih

/-- The text in the editor with a name. -/
def Editors.value? (es : Editors) (name : String) : Option String := (es.find? name).map (·.value)

/-- A change that is not one of the text leaves the texts of all editors as they were. -/
theorem Editors.value?_modify (es : Editors) (name n : String) {f : Editor → Editor}
    (hf : ∀ e, (f e).value = e.value) : (es.modify name f).value? n = es.value? n := by
  unfold Editors.value?
  rw [Editors.find?_modify]
  split
  · rw [Option.map_map]
    exact congrArg (Option.map · _) (funext hf)
  · rfl

/-- The text in an editor changes, and it has not reported that yet. -/
def put (name text : String) (s : Session V) : Session V :=
  { s with editors := s.editors.modify name fun e => { e with value := text } }

theorem typeInto_eq (s : Session V) (name text : String) :
    s.typeInto name text = (s.put name text).report name := rfl

theorem Editor.value_load (e : Editor) (text : String) : (e.load text).value = text := by
  unfold Editor.load
  split <;> rfl

theorem Editor.listeners_load (e : Editor) (text : String) :
    (e.load text).listeners = e.listeners := by
  unfold Editor.load
  split <;> rfl

/-- A text is put into the editor of a buffer; an editor that gets one reports it later. -/
theorem syncEditor_cases (s : Session V) {b : Buffer} {name : String}
    (hattached : s.attached b = some name) {e : Editor} (he : s.editors.find? name = some e)
    (text : String) :
    (s.syncEditor b text = s ∧ e.value = text) ∨
      ∃ board, (board = s.board ∨ board = s.board.spawn .echo { stage := .start (.report name) }) ∧
        s.syncEditor b text = { s with editors := s.editors.modify name (·.load text), board } := by
  unfold syncEditor
  simp only [hattached, he]
  by_cases hvalue : e.value = text
  · rw [if_pos hvalue]
    exact .inl ⟨rfl, hvalue⟩
  · rw [if_neg hvalue]
    refine .inr ?_
    split
    · exact ⟨_, .inr rfl, rfl⟩
    · exact ⟨_, .inl rfl, rfl⟩

/-- What is put into an editor changes neither the documents nor the view. -/
theorem frame_syncEditor (s : Session V) (b : Buffer) (text : String) :
    (s.syncEditor b text).store = s.store ∧ (s.syncEditor b text).view = s.view := by
  unfold syncEditor
  split
  · exact ⟨rfl, rfl⟩
  split
  · exact ⟨rfl, rfl⟩
  split
  · exact ⟨rfl, rfl⟩
  dsimp only
  split <;> exact ⟨rfl, rfl⟩

/-! ## What is heard of an editor -/

theorem knownText_of_known {text : String} (h : s.known d = some text) : s.knownText d = text := by
  simp [knownText, h]

theorem knownText_setKnown (s : Session V) (d : Draft) (text : String) :
    (s.setKnown d text).knownText d = text := knownText_of_known (by simp [setKnown])

theorem hear_of_known {text : String} (h : s.knownText d = text) : s.hear text d = s :=
  if_pos h.symm

theorem knownText_hear (s : Session V) (d : Draft) (text : String) :
    (s.hear text d).knownText d = text := by
  by_cases h : s.knownText d = text
  · rw [hear_of_known h, h]
  · unfold hear
    rw [if_neg (Ne.symm h)]
    exact knownText_setKnown s d text

/-- All who listen are the draft, and it has heard of the text already. -/
theorem foldl_hear_of_known {text : String} {ls : List Draft} (hls : ∀ l ∈ ls, l = d)
    (h : s.knownText d = text) : ls.foldl (hear text) s = s := by
  induction ls with
  | nil => rfl
  | cons l ls ih =>
    obtain ⟨rfl, hls⟩ := List.forall_mem_cons.mp hls
    rw [List.foldl_cons, hear_of_known h]
    exact ih hls

/-- Only the draft listens, so it is enough that it hears of the text once. -/
theorem foldl_hear {text : String} {ls : List Draft} (hne : ls ≠ []) (hls : ∀ l ∈ ls, l = d) :
    ls.foldl (hear text) s = s.hear text d := by
  cases ls with
  | nil => exact absurd rfl hne
  | cons l ls =>
    obtain ⟨rfl, hls⟩ := List.forall_mem_cons.mp hls
    exact foldl_hear_of_known hls (knownText_hear s l text)

/-- A draft begins to listen to an editor, and has not heard of the text in it. -/
def listenTo (d : Draft) (name : String) (s : Session V) : Session V :=
  setKnown d (s.store.text d.buffer)
    { s with
      attached := fun c => if c = d.buffer then some name else s.attached c
      editors := s.editors.modify name fun e => { e with listeners := e.listeners ++ [d] } }

theorem find?_listenTo (s : Session V) (d : Draft) (name n : String) :
    (s.listenTo d name).editors.find? n =
      if n = name then (s.editors.find? n).map fun e => { e with listeners := e.listeners ++ [d] }
      else s.editors.find? n :=
  Editors.find?_modify s.editors name n fun e => { e with listeners := e.listeners ++ [d] }

/-- An editor is attached to a draft, which listens to it and hears of the text in it. -/
theorem attach_buffer (s : Session V) (d : Draft) {name : String} {e : Editor}
    (he : s.editors.find? name = some e) :
    s.attach d.buffer name = (s.listenTo d name).hear e.value d := by
  have hfind := find?_listenTo s d name name
  rw [if_pos rfl, he, Option.map_some] at hfind
  unfold attach
  rw [Document.draft?_buffer]
  dsimp only
  split
  case h_1 x hx =>
    cases hfind.symm.trans hx
    rfl
  case h_2 hnone => cases hfind.symm.trans hnone

/-- An editor is attached to a buffer whose text it shows already: it listens or is only read from
then on, and nothing else happens. -/
theorem attach_eq (s : Session V) {b : Buffer} {name : String}
    (hvalue : s.editors.value? name = some (s.store.text b)) :
    ∃ editors known, (∀ n, editors.value? n = s.editors.value? n) ∧
      s.attach b name =
        { s with
          attached := fun c => if c = b then some name else s.attached c
          editors, known } := by
  obtain ⟨e, he, hvalue⟩ := Option.map_eq_some_iff.mp hvalue
  cases hb : b.draft? with
  | none =>
    obtain rfl : b = .output := by cases b <;> first | rfl | cases hb
    refine ⟨s.editors.modify name fun e => { e with readOnly := true }, s.known,
      fun n => Editors.value?_modify _ _ _ fun _ => rfl, ?_⟩
    unfold attach syncEditor
    simp only [hb, if_pos, Editors.find?_modify, he, Option.map_some]
    exact if_pos hvalue
  | some d =>
    obtain rfl : b = d.buffer := by cases b <;> cases hb <;> rfl
    let listen (e : Editor) : Editor := { e with listeners := e.listeners ++ [d] }
    refine ⟨(s.listenTo d name).editors, (s.listenTo d name).known,
      fun n => Editors.value?_modify s.editors name n (f := listen) fun _ => rfl, ?_⟩
    -- what it shows is known, so it has nothing new to tell
    have hknown : (s.listenTo d name).knownText d = e.value :=
      (knownText_setKnown _ d _).trans hvalue.symm
    rw [attach_buffer s d he, hear_of_known hknown]
    rfl

/-- That a text comes before changes that are still to be applied is entered in the history. -/
theorem overwrite_eq (s : Session V) (e : Draft) (text : String) :
    ∃ history, s.overwrite e text =
        ({ s with history }.setKnown e text).syncEditor e.buffer text ∧
      (.overtook e ∉ history → s.backlog e = []) ∧
      ∀ f ≠ e, .overtook f ∈ history ↔ .overtook f ∈ s.history := by
  unfold overwrite
  cases hnil : (s.backlog e).isEmpty with
  | true => exact ⟨s.history, rfl, fun _ => List.isEmpty_iff.mp hnil, fun _ _ => .rfl⟩
  | false => exact ⟨s.history ++ [.overtook e], rfl, by simp, fun f hf => by simp [hf]⟩

end Workbench.Session
