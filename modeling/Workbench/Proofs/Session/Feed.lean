import Workbench.Proofs.Session.Within

/-!
# The editor that feeds a draft

An editor that is attached to a draft, and nothing else is: its text, the text that is known to be
in it, the texts that are still to be applied, the text of the draft and the texts that the draft
has got. Only three things change any of them: the editor reports, a change in it is applied, or
the draft gets a text from elsewhere. Main definitions: `Feed`, with a function for each of these,
and `Scope.IsPrivate`, under which nobody else touches the editor.
-/
namespace Workbench.Session

open Document (Buffer Draft)
open Turn (Board)

variable {V : Type} {σ : Scope} {d : Draft} {name : String} {s t : Session V}

/-- The text that the draft got, if that is what happened. -/
def Happening.editedText? (d : Draft) : Happening → Option String
  | .edited _ e text => if e = d then some text else none
  | _ => none

/-- The texts that a draft has got, first to last. -/
def editedTexts (s : Session V) (d : Draft) : List String :=
  s.history.filterMap (·.editedText? d)

/-- Does a draft listen to the editor with a name? -/
def Editors.Listens (es : Editors) (n : String) (d : Draft) : Prop :=
  ∃ e, es.find? n = some e ∧ d ∈ e.listeners

/-- An editor, and how far its texts have got. -/
structure Feed where
  editor : Editor
  /-- The latest text known to be in the editor. -/
  known : String
  /-- The texts that are still to be applied. -/
  waiting : List String
  /-- The text of the draft. -/
  text : String
  /-- The texts that the draft has got. -/
  applied : List String

namespace Feed

/-- The draft hears of the text in the editor. -/
def hear (f : Feed) : Feed :=
  if f.editor.value = f.known then f
  else { f with known := f.editor.value, waiting := f.waiting ++ [f.editor.value] }

/-- The editor reports its text. -/
def report (f : Feed) : Feed := { f with editor := f.editor.report }.hear

/-- The draft gets a text, and so does its editor. -/
def edit (text : String) (f : Feed) : Feed :=
  { f with
    editor := if f.editor.value = text then f.editor else f.editor.load text
    known := text
    text
    applied := f.applied ++ [text] }

/-- What can become of it, if texts may be put into the draft or may not. -/
inductive Next (mayEdit : Prop) : Feed → Feed → Prop
  | report (f) : Next mayEdit f f.report
  | edit (h : mayEdit) (f text) : Next mayEdit f (f.edit text)
  | serve {f text waiting} (h : f.waiting = text :: waiting) :
      Next mayEdit f { f with waiting, text, applied := f.applied ++ [text] }

end Feed

/-- The editor with this name feeds the draft; nobody else does, and it has nothing else to do. -/
structure IsFeed (d : Draft) (name : String) (s : Session V) (f : Feed) : Prop where
  found : s.editors.find? name = some f.editor
  listens : f.editor.listeners ≠ []
  listeners : ∀ l ∈ f.editor.listeners, l = d
  others : ∀ n ≠ name, ¬ s.editors.Listens n d
  attached : ∀ b, s.attached b = some name ↔ b = d.buffer
  known : s.known d = some f.known
  waiting : s.backlog d = f.waiting
  text : s.store.text d.buffer = f.text
  applied : s.editedTexts d = f.applied

/-- An editor feeds the draft of which this is so. -/
def HasFeed (d : Draft) (name : String) (P : Feed → Prop) (s : Session V) : Prop :=
  ∃ f, P f ∧ IsFeed d name s f

/-! ## What goes on elsewhere -/

/-- Nothing has become of the editor of a draft and of its texts. -/
structure SameFeed (d : Draft) (name : String) (s t : Session V) : Prop where
  found : t.editors.find? name = s.editors.find? name
  others : ∀ n ≠ name, t.editors.Listens n d → s.editors.Listens n d
  attached : ∀ b, t.attached b = some name ↔ s.attached b = some name
  known : t.known d = s.known d
  waiting : t.backlog d = s.backlog d
  text : t.store.text d.buffer = s.store.text d.buffer
  applied : t.editedTexts d = s.editedTexts d

theorem SameFeed.refl (s : Session V) : SameFeed d name s s :=
  ⟨rfl, fun _ _ => id, fun _ => .rfl, rfl, rfl, rfl, rfl⟩

theorem SameFeed.trans {u : Session V} (h : SameFeed d name s t) (h' : SameFeed d name t u) :
    SameFeed d name s u :=
  ⟨h'.found.trans h.found, fun n hn hu => h.others n hn (h'.others n hn hu),
    fun b => (h'.attached b).trans (h.attached b), h'.known.trans h.known,
    h'.waiting.trans h.waiting, h'.text.trans h.text, h'.applied.trans h.applied⟩

theorem IsFeed.same {f : Feed} (h : IsFeed d name s f) (ht : SameFeed d name s t) :
    IsFeed d name t f where
  found := ht.found.trans h.found
  listens := h.listens
  listeners := h.listeners
  others n hn hlistens := h.others n hn (ht.others n hn hlistens)
  attached b := (ht.attached b).trans (h.attached b)
  known := ht.known.trans h.known
  waiting := ht.waiting.trans h.waiting
  text := ht.text.trans h.text
  applied := ht.applied.trans h.applied

/-- What else is entered in the history does not count. -/
theorem editedTexts_eq (s : Session V) (d : Draft) :
    s.editedTexts d = (s.history.filter Happening.isOfTexts).filterMap (·.editedText? d) := by
  rw [editedTexts, List.filterMap_filter]
  refine List.filterMap_congr fun h _ => ?_
  cases h <;> rfl

theorem SameBench.sameFeed (h : SameBench s t) (hchanges : t.changes = s.changes) :
    SameFeed d name s t where
  found := by rw [h.editors]
  others _ _ := by rw [h.editors]; exact id
  attached _ := by rw [h.attached]
  known := by rw [h.known]
  waiting := backlog_congr hchanges d
  text := by rw [← text_draft, ← text_draft, h.text]
  applied := by rw [editedTexts_eq, editedTexts_eq, h.history]

theorem Aloof.sameFeed (h : Aloof s t) : SameFeed d name s t := by
  refine h.toSameBench.sameFeed ?_
  unfold Session.changes Board.upcoming
  rw [h.board.activities]

theorem Editors.listens_of_modify {es : Editors} {m n : String} (f : Editor → Editor)
    (hf : ∀ e, d ∈ (f e).listeners → d ∈ e.listeners) (h : (es.modify m f).Listens n d) :
    es.Listens n d := by
  obtain ⟨e, he, hd⟩ := h
  rw [Editors.find?_modify] at he
  split at he
  · obtain ⟨e', he', rfl⟩ := Option.map_eq_some_iff.mp he
    exact ⟨e', he', hf e' hd⟩
  · exact ⟨e, he, hd⟩

/-- Another editor changes, but no draft begins to listen to it. -/
theorem sameFeed_modify (s : Session V) {n : String} (hn : n ≠ name) (f : Editor → Editor)
    (hf : ∀ e, d ∈ (f e).listeners → d ∈ e.listeners) :
    SameFeed d name s { s with editors := s.editors.modify n f } where
  found := by rw [Editors.find?_modify, if_neg (Ne.symm hn)]
  others _ _ := Editors.listens_of_modify f hf
  attached _ := .rfl
  known := rfl
  waiting := rfl
  text := rfl
  applied := rfl

/-- An activity starts that is not to apply a change in the editor. -/
theorem sameFeed_spawn (s : Session V) {role : Role} {plan : Plan}
    (h : role.isEdit = true → plan.stage.editorText? d = none) :
    SameFeed d name s { s with board := s.board.spawn role plan } where
  found := rfl
  others _ _ := id
  attached _ := .rfl
  known := rfl
  waiting := by
    rw [backlog_spawn (s := s) rfl d]
    cases hrole : role.isEdit with
    | false => simp
    | true => simp [h hrole]
  text := rfl
  applied := rfl

theorem sameFeed_setKnown (s : Session V) {e : Draft} (he : e ≠ d) (text : String) :
    SameFeed d name s (s.setKnown e text) where
  found := rfl
  others _ _ := id
  attached _ := .rfl
  known := by simp [setKnown, Ne.symm he]
  waiting := rfl
  text := rfl
  applied := rfl

theorem sameFeed_hear (s : Session V) {e : Draft} (he : e ≠ d) (text : String) :
    SameFeed d name s (s.hear text e) := by
  unfold Session.hear
  split
  · exact .refl s
  · exact (sameFeed_setKnown s he text).trans
      (sameFeed_spawn _ fun _ => editorText?_ofEditor_of_ne he text)

theorem sameFeed_foldl_hear (s : Session V) (text : String) {ls : List Draft} (hls : d ∉ ls) :
    SameFeed d name s (ls.foldl (hear text) s) := by
  induction ls generalizing s with
  | nil => exact .refl s
  | cons l ls ih =>
    obtain ⟨hl, hls⟩ := not_or.mp (List.mem_cons.not.mp hls)
    exact (sameFeed_hear s (Ne.symm hl) text).trans (ih _ hls)

/-- Another editor reports. -/
theorem sameFeed_report (s : Session V) {n : String} (hn : n ≠ name)
    (h : ¬ s.editors.Listens n d) : SameFeed d name s (s.report n) := by
  unfold Session.report
  split
  case h_1 e he =>
    have hd : d ∉ e.listeners := fun hd => h ⟨e, he, hd⟩
    exact (sameFeed_modify s hn Editor.report fun _ => id).trans (sameFeed_foldl_hear _ _ hd)
  case h_2 => exact .refl s

theorem sameFeed_put (s : Session V) {n : String} (hn : n ≠ name) (text : String) :
    SameFeed d name s (s.put n text) := sameFeed_modify s hn _ fun _ => id

theorem sameFeed_typeInto (s : Session V) {n : String} (hn : n ≠ name)
    (h : ¬ s.editors.Listens n d) (text : String) : SameFeed d name s (s.typeInto n text) := by
  have hput := sameFeed_put (d := d) s hn text
  rw [typeInto_eq]
  exact hput.trans (sameFeed_report _ hn fun hlistens => h (hput.others n hn hlistens))

/-- Another editor gets a text. -/
theorem sameFeed_syncEditor (s : Session V) {b : Buffer} (hb : s.attached b ≠ some name)
    (text : String) : SameFeed d name s (s.syncEditor b text) := by
  cases hattached : s.attached b with
  | none =>
    rw [syncEditor_of_none s text hattached]
    exact .refl s
  | some n =>
    have hn : n ≠ name := fun h => hb (h ▸ hattached)
    cases hfind : s.editors.find? n with
    | none =>
      have hsame : s.syncEditor b text = s := by
        unfold Session.syncEditor
        rw [hattached]
        dsimp only
        rw [hfind]
      rw [hsame]
      exact .refl s
    | some e =>
      have hload := sameFeed_modify (d := d) s hn (·.load text) fun e => by
        rw [Editor.listeners_load]
        exact id
      obtain ⟨hsync, -⟩ | ⟨board, rfl | rfl, hsync⟩ := syncEditor_cases s hattached hfind text
      · rw [hsync]
        exact .refl s
      · rw [hsync]
        exact hload
      · rw [hsync]
        exact hload.trans (sameFeed_spawn _ (by simp [Role.isEdit]))

theorem sameFeed_attach (s : Session V) {b : Buffer} {n : String} (hb : b ≠ d.buffer)
    (hn : n ≠ name) (hfree : s.attached b ≠ some name) : SameFeed d name s (s.attach b n) := by
  let u : Session V := { s with attached := fun c => if c = b then some n else s.attached c }
  have hattach : SameFeed d name s u := by
    refine ⟨rfl, fun _ _ => id, fun c => ?_, rfl, rfl, rfl, rfl⟩
    by_cases hc : c = b
    · simp [u, hc, hn, hfree]
    · simp [u, hc]
  unfold Session.attach
  dsimp only
  cases hdraft : b.draft? with
  | none =>
    let fix (e : Editor) : Editor := { e with readOnly := true }
    have hfix := sameFeed_modify (d := d) u hn fix fun _ => id
    exact hattach.trans (hfix.trans (sameFeed_syncEditor _ (by simp [u, hn]) _))
  | some e =>
    have he : e ≠ d := by
      rintro rfl
      exact hb (by cases b <;> cases hdraft <;> rfl)
    let listen (x : Editor) : Editor := { x with listeners := x.listeners ++ [e] }
    have hlisten := sameFeed_modify (d := d) u hn listen fun x hx => by
      simpa [listen, Ne.symm he] using hx
    refine hattach.trans (hlisten.trans ((sameFeed_setKnown _ he (s.store.text b)).trans ?_))
    dsimp only
    split
    · exact sameFeed_hear _ he _
    · exact .refl _

theorem Served.editedTexts {e : Draft} {text : String} (h : Served e text s t) (d : Draft) :
    t.editedTexts d = s.editedTexts d ++ if e = d then [text] else [] := by
  obtain ⟨time, hhistory⟩ := h.history
  rw [editedTexts_eq, editedTexts_eq, hhistory, List.filterMap_append]
  congr 1
  by_cases he : e = d
  · simp [Happening.editedText?, he]
  · simp [Happening.editedText?, he]

/-- Another draft gets a text. -/
theorem Served.sameFeed {e : Draft} {text : String} (h : Served e text s t) (he : e ≠ d)
    (hbacklog : t.backlog d = s.backlog d) : SameFeed d name s t where
  found := by rw [h.editors]
  others _ _ := by rw [h.editors]; exact id
  attached _ := by rw [h.attached]
  known := by rw [h.known]
  waiting := hbacklog
  text := by rw [← text_draft, ← text_draft, h.texts, if_neg he]
  applied := by rw [h.editedTexts, if_neg he, List.append_nil]

theorem backlog_putText (s : Session V) (e d : Draft) (text : String) :
    (s.putText e text).backlog d = s.backlog d := by
  refine backlog_congr ?_ d
  unfold Session.changes Board.upcoming
  rw [(sameLine_putText s e text).activities]

/-- Before a text is put into an editor, that it overtakes others may be entered in the history. -/
theorem overwrite_eq_syncEditor (d : Draft) (name : String) (s : Session V) (e : Draft)
    (text : String) :
    ∃ u, s.overwrite e text = (u.setKnown e text).syncEditor e.buffer text ∧
      SameFeed d name s u := by
  unfold overwrite
  dsimp only
  split
  · exact ⟨s, rfl, .refl s⟩
  · refine ⟨s.record (.overtook e), rfl, rfl, fun _ _ => id, fun _ => .rfl, rfl, rfl, rfl, ?_⟩
    simp [editedTexts, record, Happening.editedText?]

/-- Another draft gets a text, and its editor does. -/
theorem sameFeed_applyEdit (s : Session V) {e : Draft} (he : e ≠ d)
    (hfree : s.attached e.buffer ≠ some name) (text : String) (fromEditor : Bool) :
    SameFeed d name s (s.applyEdit e text fromEditor) := by
  have hput (u : Session V) : SameFeed d name u (u.putText e text) :=
    (served_putText u e text).sameFeed he (backlog_putText u e d text)
  cases fromEditor with
  | true => exact hput s
  | false =>
    obtain ⟨u, hoverwrite, hu⟩ := overwrite_eq_syncEditor d name s e text
    have hsync : SameFeed d name u ((u.setKnown e text).syncEditor e.buffer text) := by
      refine (sameFeed_setKnown u he text).trans (sameFeed_syncEditor _ ?_ text)
      exact fun h => hfree ((hu.attached _).mp h)
    refine SameFeed.trans (t := s.overwrite e text) ?_ (hput _)
    rw [hoverwrite]
    exact hu.trans hsync

/-! ## What becomes of the feed -/

/-- Nobody else changes the editor, no other one is attached to the draft, and no event gives the
draft a text in the editor's name. -/
structure Scope.IsPrivate (σ : Scope) (d : Draft) (name : String) : Prop where
  edits : ¬ σ.edits d true
  types : ¬ σ.types name
  attaches : ∀ b n, σ.attaches b n → b ≠ d.buffer ∧ n ≠ name

namespace IsFeed

variable {f : Feed}

theorem attached_ne (h : IsFeed d name s f) {b : Buffer} (hb : b ≠ d.buffer) :
    s.attached b ≠ some name := fun hattached => hb ((h.attached b).mp hattached)

/-- Something about the editor changes that is not who listens to it. -/
theorem modify (h : IsFeed d name s f) {g : Editor → Editor}
    (hg : ∀ e, (g e).listeners = e.listeners) :
    IsFeed d name { s with editors := s.editors.modify name g }
      { f with editor := g f.editor } where
  found := by rw [Editors.find?_modify, if_pos rfl, h.found, Option.map_some]
  listens := by rw [hg]; exact h.listens
  listeners := by rw [hg]; exact h.listeners
  others n hn hlistens := h.others n hn (Editors.listens_of_modify g (fun e => by rw [hg]; exact id)
    hlistens)
  attached := h.attached
  known := h.known
  waiting := h.waiting
  text := h.text
  applied := h.applied

theorem put (h : IsFeed d name s f) (text : String) :
    IsFeed d name (s.put name text) { f with editor := { f.editor with value := text } } :=
  h.modify fun _ => rfl

theorem hear (h : IsFeed d name s f) : IsFeed d name (s.hear f.editor.value d) f.hear := by
  unfold Feed.hear
  split
  case isTrue hsame =>
    rwa [hear_of_known (by rw [hsame, knownText_of_known h.known])]
  case isFalse hnew =>
    have hhear : s.hear f.editor.value d =
        let u := s.setKnown d f.editor.value
        { u with board := u.board.spawn .edit (.ofEditor d f.editor.value) } :=
      if_neg (by rwa [knownText_of_known h.known])
    rw [hhear]
    refine ⟨h.found, h.listens, h.listeners, h.others, h.attached, ?_, ?_, h.text, h.applied⟩
    · simp [setKnown]
    · rw [backlog_spawn (s := s) rfl d, h.waiting]
      simp [Role.isEdit]

theorem report (h : IsFeed d name s f) : IsFeed d name (s.report name) f.report := by
  have hreported : IsFeed d name { s with editors := s.editors.modify name Editor.report }
      { f with editor := f.editor.report } := h.modify fun _ => rfl
  unfold Session.report
  rw [h.found]
  dsimp only
  rw [foldl_hear h.listens h.listeners]
  exact hreported.hear

/-- The editor gets a text, and reports it at once, later or never. -/
theorem sync (h : IsFeed d name s f) (text : String) :
    IsFeed d name (s.syncEditor d.buffer text)
      { f with editor := if f.editor.value = text then f.editor else f.editor.load text } := by
  have hattached := (h.attached d.buffer).mpr rfl
  unfold Session.syncEditor
  rw [hattached]
  dsimp only
  rw [h.found]
  dsimp only
  split
  · exact h
  · have hload : IsFeed d name { s with editors := s.editors.modify name (·.load text) }
        { f with editor := f.editor.load text } :=
      h.modify (g := (·.load text)) fun e => e.listeners_load text
    split
    · exact hload.same (sameFeed_spawn _ (by simp [Role.isEdit]))
    · exact hload

/-- The draft gets a text. -/
theorem served (h : IsFeed d name s f) {text : String} (ht : Served d text s t)
    {waiting : List String} (hwaiting : t.backlog d = waiting) :
    IsFeed d name t { f with waiting, text, applied := f.applied ++ [text] } where
  found := by rw [ht.editors, h.found]
  listens := h.listens
  listeners := h.listeners
  others := by rw [ht.editors]; exact h.others
  attached := by rw [ht.attached]; exact h.attached
  known := by rw [ht.known, h.known]
  waiting := hwaiting
  text := by rw [← text_draft, ht.texts, if_pos rfl]
  applied := by rw [ht.editedTexts, if_pos rfl, h.applied]

theorem edit (h : IsFeed d name s f) (text : String) :
    IsFeed d name (s.applyEdit d text false) (f.edit text) := by
  obtain ⟨u, hoverwrite, hu⟩ := overwrite_eq_syncEditor d name s d text
  have hfeed := h.same hu
  have hknown : IsFeed d name (u.setKnown d text) { f with known := text } :=
    ⟨hfeed.found, hfeed.listens, hfeed.listeners, hfeed.others, hfeed.attached,
      by simp [setKnown], hfeed.waiting, hfeed.text, hfeed.applied⟩
  have hwritten := hknown.sync text
  rw [← hoverwrite] at hwritten
  refine hwritten.served (served_putText _ d text) ?_
  rw [backlog_putText, hwritten.waiting]

end IsFeed

namespace Scope.IsPrivate

variable {view : View V} {P : Feed → Prop}

/-- What holds of a feed, whatever can become of it, is kept. -/
theorem upholds (h : σ.IsPrivate d name)
    (hP : ∀ {f g}, P f → Feed.Next (σ.edits d false) f g → P g) :
    Upholds (V := V) σ (HasFeed d name P) where
  touch := by
    rintro s t ⟨f, hf, hfeed⟩ htouch -
    have helse (ht : SameFeed d name s t) : HasFeed d name P t := ⟨f, hf, hfeed.same ht⟩
    cases htouch with
    | rest haloof => exact helse haloof.sameFeed
    | edit e text fromEditor hedit =>
      by_cases he : e = d
      · subst he
        obtain rfl : fromEditor = false := by
          cases fromEditor with
          | true => exact absurd hedit h.edits
          | false => rfl
        exact ⟨_, hP hf (.edit hedit f text), hfeed.edit text⟩
      · have hbuffer : e.buffer ≠ d.buffer := fun heq =>
          he (by cases e <;> cases d <;> first | rfl | cases heq)
        exact helse (sameFeed_applyEdit s he (hfeed.attached_ne hbuffer) text fromEditor)
    | type n text htype =>
      have hn : n ≠ name := fun heq => h.types (heq ▸ htype)
      exact helse (sameFeed_typeInto s hn (hfeed.others n hn) text)
    | report n =>
      by_cases hn : n = name
      · subst hn
        exact ⟨_, hP hf (.report f), hfeed.report⟩
      · exact helse (sameFeed_report s hn (hfeed.others n hn))
    | attach b n hattach =>
      obtain ⟨hb, hn⟩ := h.attaches b n hattach
      exact helse (sameFeed_attach s hb hn (hfeed.attached_ne hb))
    | output text =>
      have hb : Buffer.output ≠ d.buffer := by cases d <;> decide
      exact helse (sameFeed_syncEditor s (hfeed.attached_ne hb) text)
  bench := by
    rintro s t ⟨f, hf, hfeed⟩ ht hchanges -
    exact ⟨f, hf, hfeed.same (ht.sameFeed hchanges)⟩
  serve := by
    rintro s t id e text ⟨f, hf, hfeed⟩ hfront ht -
    have hbacklog := backlog_front hfront d
    by_cases he : e = d
    · subst he
      rw [if_pos rfl, hfeed.waiting] at hbacklog
      exact ⟨_, hP hf (.serve hbacklog), hfeed.served ht rfl⟩
    · rw [if_neg he] at hbacklog
      exact ⟨f, hf, hfeed.same (ht.sameFeed he hbacklog.symm)⟩

theorem next (h : σ.IsPrivate d name)
    (hP : ∀ {f g}, P f → Feed.Next (σ.edits d false) f g → P g) (hs : s.IsOrderly)
    (hkept : IsKept σ (HasFeed d name P) s) (hnext : NextWithin view σ s t) :
    IsKept σ (HasFeed d name P) t := by
  refine hkept.next (h.upholds hP) ?_ hs hnext
  rintro s n text ⟨f, hf, hfeed⟩ htype
  have hn : n ≠ name := fun heq => h.types (heq ▸ htype)
  exact ⟨f, hf, hfeed.same (sameFeed_put s hn text)⟩

/-- It is so after any stretch of the session's life. -/
theorem run (h : σ.IsPrivate d name)
    (hP : ∀ {f g}, P f → Feed.Next (σ.edits d false) f g → P g) (hs : s.IsOrderly)
    (hkept : IsKept σ (HasFeed d name P) s) (hrun : RunWithin view σ s t) :
    t.IsOrderly ∧ IsKept σ (HasFeed d name P) t := by
  induction hrun with
  | refl => exact ⟨hs, hkept⟩
  | tail _ hnext ih => exact ⟨hnext.isOrderly ih.1, h.next hP ih.1 ih.2 hnext⟩

end Scope.IsPrivate

end Workbench.Session
