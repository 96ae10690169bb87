import Mathlib.Data.List.Induction
import Workbench.Proofs.Session.Replay

/-!
# How drafts stand

A draft can be read off the history: it stands as its latest text left it, or as the last verdict
on that text did. So a snapshot is always the text itself, and a verdict since the last change of
the text says that it is valid.
-/
namespace Workbench.Session

open Document (Draft DraftState Status Store)
open Service (Reaction Verdict)

variable {V : Type} {view : View V} {d : Draft}

/-! ## Reading a draft off the history -/

/-- A draft after something has happened. -/
def Happening.toDraft (d : Draft) (st : DraftState) : Happening → DraftState
  | .edited _ e text => if e = d then freshDraft d text else st
  | .judged e text result => if e = d ∧ st.text = text then judgedDraft d st result else st
  | _ => st

/-- A draft after all that has happened. -/
def draftAfter (d : Draft) (history : List Happening) : DraftState :=
  history.foldl (Happening.toDraft d) (freshDraft d "")

theorem draft_next (x : Documents) (h : Happening) :
    (x.next h).store.draft d = h.toDraft d (x.store.draft d) := by
  cases h with
  | edited time e text =>
    simp only [Documents.next, Happening.toDraft, Store.draft_setDraft]
    split
    case isTrue he => rw [he]
    case isFalse => rfl
  | switched armed => cases d <;> rfl
  | judged e text result =>
    simp only [Documents.next, Happening.toDraft, heard_eq]
    by_cases he : e = d
    · subst he
      by_cases htext : (x.store.draft e).text = text <;> simp [htext]
    · split <;> simp [he]
  | began generation request => cases d <;> rfl
  | answered generation result =>
    simp only [Documents.next, Happening.toDraft]
    split <;> simp
  | _ => rfl

theorem draft_after (x : Documents) (history : List Happening) :
    (x.after history).store.draft d = history.foldl (Happening.toDraft d) (x.store.draft d) := by
  induction history generalizing x with
  | nil => rfl
  | cons h hs ih => rw [Documents.after_cons, ih, draft_next, List.foldl_cons]

theorem draft_after_new (armed : Bool) (history : List Happening) :
    ((Documents.new armed).after history).store.draft d = draftAfter d history := by
  rw [draft_after, draftAfter]
  cases d <;> rfl

/-- A draft is what the history makes of it. -/
theorem Attained.draft_eq {x : Session V × Hands} (hx : Attained view x) (d : Draft) :
    x.1.store.draft d = draftAfter d x.1.history := by
  obtain ⟨armed, hrecorded⟩ := hx.isRecorded
  have hstore : x.1.store = ((Documents.new armed).after x.1.history).store :=
    congrArg Documents.store hrecorded.documents
  rw [hstore, draft_after_new]

/-! ## Verdicts are founded -/

/-- A request for a verdict on the text has been sent, and this comes back for it. -/
def IsReply (history : List Happening) (d : Draft) (text : String) (r : Reaction) : Prop :=
  ∃ sent reply, .sent sent reply ∈ history ∧ sent.outgoing.request = .validate d text ∧
    reply.reaction = r

/-- No verdict is on a blank text, and each is what an earlier request for it brought back. -/
def IsFounded (history : List Happening) : Prop :=
  ∀ before d text result, before ++ [.judged d text result] <+: history →
    Text.isBlank text = false ∧ ∃ r, IsReply before d text r ∧
      (Service.Client.readVerdict d r).2 = result

theorem IsReply.mono {history new : List Happening} {text : String} {r : Reaction}
    (h : IsReply history d text r) : IsReply (history ++ new) d text r := by
  obtain ⟨sent, reply, hmem, hrequest⟩ := h
  exact ⟨sent, reply, List.mem_append_left _ hmem, hrequest⟩

theorem IsFounded.of_append {history new : List Happening} (h : IsFounded (history ++ new)) :
    IsFounded history := fun before d text result hpre =>
  h before d text result (hpre.trans (List.prefix_append history new))

/-- A verdict is entered in the history alone, as what a request has brought back. -/
theorem IsFounded.append {history new : List Happening} (h : IsFounded history)
    (hnew : ∀ d text result, .judged d text result ∈ new →
      new = [.judged d text result] ∧ Text.isBlank text = false ∧ ∃ r, IsReply history d text r ∧
        (Service.Client.readVerdict d r).2 = result) : IsFounded (history ++ new) := by
  intro before d text result hpre
  obtain hold | hlast := List.prefix_or_prefix_of_prefix hpre (List.prefix_append history new)
  · exact h before d text result hold
  obtain heq | ⟨between, rfl⟩ := List.prefix_concat_iff.mp hlast
  · exact h before d text result (heq ▸ List.prefix_rfl)
  · rw [List.append_assoc, List.prefix_append_right_inj] at hpre
    obtain ⟨rfl, hblank, hr⟩ := hnew d text result (hpre.subset (by simp))
    have hbetween : between = [] := by simpa using hpre.length_le
    rw [hbetween, List.append_nil]
    exact ⟨hblank, hr⟩

theorem hand_start (a : Action) :
    (Stage.start a).hand = .free ∨
      ∃ b d text, a = .validate b text ∧ (Stage.start a).hand = .asking d text := by
  cases a with
  | validate b text => cases b <;> simp [Stage.hand, Document.Buffer.draft?]
  | _ => exact .inl rfl

theorem handAfter_eq (s t : Session V) : t.handAfter s = .free ∨ t.handAfter s = .owing := by
  unfold handAfter
  split
  · exact .inr rfl
  · exact .inl rfl

/-- An activity asks for a verdict on a text that it had in hand, or that is not blank. -/
theorem Move.asking {s t : Session V} {k k' : Hand} (h : Move view (s, k) (t, k')) {text : String}
    (hk' : k' = .asking d text) : k = .asking d text ∨ Text.isBlank text = false := by
  cases h with
  | take _ a ha =>
    obtain hfree | ⟨b, e, text', rfl, hhand⟩ := hand_start a
    · rw [hfree] at hk'
      cases hk'
    · rw [hhand] at hk'
      cases hk'
      exact .inr (by simpa [Action.isFair] using ha)
  | arm | hear => obtain h | h := handAfter_eq _ _ <;> rw [h] at hk' <;> cases hk'
  | send => cases k <;> cases hk'
  | _ => first | exact .inl hk' | cases hk'

/-- An activity hears a reply that it waited for, or has just sent the request. -/
theorem Move.judging {s t : Session V} {k k' : Hand} (h : Move view (s, k) (t, k')) {text : String}
    {r : Reaction} (hk' : k' = .judging d text r) :
    k = .judging d text r ∨ (k = .asking d text ∧ IsReply t.history d text r) := by
  cases h with
  | take _ a ha =>
    obtain hfree | ⟨b, e, text', rfl, hhand⟩ := hand_start a
    · rw [hfree] at hk'
      cases hk'
    · rw [hhand] at hk'
      cases hk'
  | arm | hear => obtain h | h := handAfter_eq _ _ <;> rw [h] at hk' <;> cases hk'
  | @send _ _ c out reply server hk h =>
    cases k with
    | asking e text' =>
      cases hk'
      obtain hc | hfree := hk
      · cases hc
        refine .inr ⟨rfl, _, reply, List.mem_append_right _ (List.mem_singleton_self _), ?_, rfl⟩
        exact (Option.some.inj (Service.Client.request_of_send h)).symm
      · cases hfree
    | judging e text' r' => exact .inl hk'
    | _ => cases hk'
  | _ => first | exact .inl hk' | cases hk'

/-- What a move enters in the history. A verdict is entered alone, and only if an activity was to
hear it. -/
theorem Move.history {s t : Session V} {k k' : Hand} (h : Move view (s, k) (t, k')) :
    ∃ new, t.history = s.history ++ new ∧ ∀ d text result, .judged d text result ∈ new →
      new = [.judged d text result] ∧
        ∃ r, k = .judging d text r ∧ (Service.Client.readVerdict d r).2 = result := by
  have hstill {t : Session V} (hhistory : t.history = s.history) :
      ∃ new, t.history = s.history ++ new ∧ ∀ d text result, .judged d text result ∈ new →
        new = [.judged d text result] ∧
          ∃ r, k = .judging d text r ∧ (Service.Client.readVerdict d r).2 = result :=
    ⟨[], by rw [hhistory, List.append_nil], by simp⟩
  cases h with
  | quiet _ hq => exact hstill hq.history
  | spawn _ role plan hp hq => exact hstill hq.history
  | edit _ _ e text => exact ⟨_, history_putText s e text, by simp⟩
  | overtake | send | refuse | warn => exact ⟨_, rfl, by simp⟩
  | close => exact ⟨_, history_close s, by simp⟩
  | arm => exact ⟨_, history_switch .., by simp⟩
  | take | drop => exact hstill rfl
  | hear _ e text r =>
    refine ⟨_, history_hearVerdict .., ?_⟩
    intro d text' result hmem
    cases List.mem_singleton.mp hmem
    exact ⟨rfl, r, rfl, rfl⟩
  | begin => exact ⟨_, history_begin s, by simp⟩
  | trigger => exact ⟨_, List.append_assoc .., by simp⟩
  | conclude _ g r => exact ⟨_, history_hearOutcome .., by simp⟩

/-- A text that waits after a move is the draft's, or it did so before and the draft still has the
text that it had. -/
theorem Move.waiting {s t : Session V} {k k' : Hand} (h : Move view (s, k) (t, k')) {text : String}
    (hwait : (d, text) ∈ t.scheduler.pending) :
    (Text.isBlank text = false ∧ (t.store.draft d).text = text) ∨
      ((d, text) ∈ s.scheduler.pending ∧ (t.store.draft d).text = (s.store.draft d).text) := by
  cases h with
  | quiet _ hq => exact .inr ⟨by rwa [hq.scheduler] at hwait, by rw [hq.store]⟩
  | spawn _ role plan hp hq => exact .inr ⟨by rwa [hq.scheduler] at hwait, by rw [hq.store]⟩
  | edit _ _ e new =>
    rw [pending_putText, List.mem_append] at hwait
    rw [draft_putText]
    obtain hkept | hnew := hwait
    · obtain ⟨hmem, hne⟩ := List.mem_filter.mp hkept
      have he : ¬ e = d := fun heq => by simp [heq] at hne
      exact .inr ⟨hmem, by rw [if_neg he]⟩
    · cases hblank : Text.isBlank new with
      | true => simp [hblank] at hnew
      | false =>
        rw [hblank] at hnew
        cases List.mem_singleton.mp hnew
        exact .inl ⟨hblank, by rw [if_pos rfl]; rfl⟩
  | close => cases hwait
  | arm => exact .inr ⟨hwait, by rw [draft_switch]⟩
  | hear _ e new r => exact .inr ⟨hwait, text_hearVerdict ..⟩
  | begin => exact .inr ⟨hwait, by rw [draft_begin]⟩
  | trigger => exact .inr ⟨hwait, by rw [draft_begin]; rfl⟩
  | conclude => exact .inr ⟨hwait, by rw [draft_hearOutcome]⟩
  | _ => exact .inr ⟨hwait, rfl⟩

/-- The texts that wait, that are to be validated and whose verdicts are to come are not blank.
Those that wait are the texts of their drafts, and the verdicts to come are replies to requests. -/
structure IsGrounded (x : Session V × Hands) : Prop where
  waiting : ∀ d text, (d, text) ∈ x.1.scheduler.pending →
    Text.isBlank text = false ∧ (x.1.store.draft d).text = text
  asking : ∀ role d text, (role, .asking d text) ∈ x.2 → Text.isBlank text = false
  judging : ∀ role d text r, (role, .judging d text r) ∈ x.2 →
    Text.isBlank text = false ∧ IsReply x.1.history d text r
  founded : IsFounded x.1.history

theorem IsGrounded.move {s t : Session V} {k k' : Hand} {H : Hands} {role : Role}
    (hs : IsGrounded (s, H.add role k)) (h : Move view (s, k) (t, k')) :
    IsGrounded (t, H.add role k') := by
  -- what is in hand is still so, or was just taken up or sent
  obtain ⟨new, heq, hverdict⟩ := h.history
  have hreply {d : Draft} {text : String} {r : Reaction} (hr : IsReply s.history d text r) :
      IsReply t.history d text r := by
    rw [heq]
    exact hr.mono
  refine ⟨?_, ?_, ?_, ?_⟩
  · intro d text hwait
    obtain hnew | ⟨hmem, htext⟩ := h.waiting hwait
    · exact hnew
    · have hbefore := hs.waiting d text hmem
      dsimp only at hbefore ⊢
      exact ⟨hbefore.1, htext.trans hbefore.2⟩
  · intro role' d text hmem
    obtain hmem | ⟨heq, -⟩ := Hands.mem_add.mp hmem
    · exact hs.asking role' d text (Hands.mem_add_of_mem hmem)
    · cases heq
      obtain rfl | hblank := h.asking rfl
      · exact hs.asking role d text (Hands.mem_add_self (by simp))
      · exact hblank
  · intro role' d text r hmem
    obtain hmem | ⟨heq, -⟩ := Hands.mem_add.mp hmem
    · obtain ⟨hblank, hr⟩ := hs.judging role' d text r (Hands.mem_add_of_mem hmem)
      exact ⟨hblank, hreply hr⟩
    · cases heq
      obtain rfl | ⟨rfl, hr⟩ := h.judging rfl
      · obtain ⟨hblank, hr⟩ := hs.judging role d text r (Hands.mem_add_self (by simp))
        exact ⟨hblank, hreply hr⟩
      · exact ⟨hs.asking role d text (Hands.mem_add_self (by simp)), hr⟩
  · dsimp only
    rw [heq]
    refine hs.founded.append fun d text result hmem => ?_
    obtain ⟨hnew, r, rfl, hresult⟩ := hverdict d text result hmem
    obtain ⟨hblank, hr⟩ := hs.judging role d text r (Hands.mem_add_self (by simp))
    exact ⟨hnew, hblank, r, hr, hresult⟩

theorem isGrounded_new (settings : Settings) (window : Nat) (armed : Bool) (client : Service.Client)
    (server : Service.Server) (ownsClient watched : Bool) (v : V) :
    IsGrounded (.new settings window armed client server ownsClient watched v, 0) := by
  refine ⟨?_, ?_, ?_, ?_⟩
  · intro d text h
    cases h
  · intro role d text h
    cases h
  · intro role d text r h
    cases h
  · intro before d text result h
    simpa using List.prefix_nil.mp h

theorem IsGrounded.shift {x y : Session V × Hands} (h : Shift view x y) (hx : IsGrounded x) :
    IsGrounded y := by
  cases h with
  | move H role h => exact hx.move h
  | @fire s t d text H hwork hq =>
    obtain ⟨hblank, -⟩ := hx.waiting d text (Coalescing.Scheduler.mem_pending_of_work? hwork)
    refine ⟨?_, ?_, ?_, ?_⟩
    · intro e text' hwait
      dsimp only at hwait ⊢
      rw [hq.scheduler] at hwait
      rw [hq.store]
      exact hx.waiting e text' (List.mem_filter.mp hwait).1
    · intro role e text' hmem
      dsimp only at hmem
      obtain hmem | ⟨heq, -⟩ := Hands.mem_add.mp hmem
      · exact hx.asking role e text' hmem
      · cases heq
        exact hblank
    · intro role e text' r hmem
      dsimp only at hmem
      obtain hmem | ⟨heq, -⟩ := Hands.mem_add.mp hmem
      · dsimp only
        rw [hq.history]
        exact hx.judging role e text' r hmem
      · cases heq
    · dsimp only
      rw [hq.history]
      exact hx.founded
  | @board s t H hq =>
    refine ⟨?_, hx.asking, ?_, ?_⟩
    · dsimp only
      rw [hq.scheduler, hq.store]
      exact hx.waiting
    · dsimp only
      rw [hq.history]
      exact hx.judging
    · dsimp only
      rw [hq.history]
      exact hx.founded

theorem Attained.isGrounded {x : Session V × Hands} (hx : Attained view x) : IsGrounded x := by
  induction hx with
  | new => exact isGrounded_new ..
  | shift _ h ih => exact ih.shift h

/-! ## Since the latest text -/

/-- Did the call end in a verdict, or was the service not reached? -/
def isHeard : Except Failure Verdict → Bool
  | .ok _ => true
  | .error f => f.isTransport

/-- Only the text matters for how a draft stands after its validation. -/
theorem judgedDraft_congr {st st' : DraftState} (h : st.text = st'.text)
    {result : Except Failure Verdict} (hheard : isHeard result = true) :
    judgedDraft d st result = judgedDraft d st' result := by
  cases result with
  | ok v => simp [judgedDraft, h]
  | error f =>
    obtain ⟨endpoint, reason, rfl⟩ := Failure.isTransport_iff.mp hheard
    simp [judgedDraft, h]

theorem judgedDraft_of_not_heard (st : DraftState) {result : Except Failure Verdict}
    (h : ¬ isHeard result = true) : judgedDraft d st result = st := by
  cases result with
  | ok v => exact absurd rfl h
  | error f =>
    cases f with
    | transport endpoint reason => exact absurd rfl h
    | _ => rfl

/-- The draft got no text in this part of the history. -/
def IsUnchanged (d : Draft) (part : List Happening) : Prop :=
  ∀ time text, .edited time d text ∉ part

/-- The draft got this text, and then none in this part of the history. At first it is empty. -/
structure IsSince (d : Draft) (text : String) (history part : List Happening) : Prop where
  start : (history = part ∧ text = "") ∨
    ∃ before time, history = before ++ .edited time d text :: part
  unchanged : IsUnchanged d part

theorem IsSince.concat {text : String} {history part : List Happening}
    (h : IsSince d text history part) {x : Happening} (hx : ∀ time text, x ≠ .edited time d text) :
    IsSince d text (history ++ [x]) (part ++ [x]) := by
  refine ⟨?_, ?_⟩
  · obtain ⟨rfl, rfl⟩ | ⟨before, time, rfl⟩ := h.start
    · exact .inl ⟨rfl, rfl⟩
    · exact .inr ⟨before, time, by simp⟩
  · intro time text hmem
    obtain hmem | hmem := List.mem_append.mp hmem
    · exact h.unchanged time text hmem
    · exact hx time text (List.mem_singleton.mp hmem).symm

/-- The part of the history since the latest text of a draft. -/
theorem exists_since (d : Draft) (history : List Happening) :
    ∃ text part, IsSince d text history part ∧
      draftAfter d history = part.foldl (Happening.toDraft d) (freshDraft d text) := by
  induction history using List.reverseRecOn with
  | nil => exact ⟨"", [], ⟨.inl ⟨rfl, rfl⟩, by simp [IsUnchanged]⟩, rfl⟩
  | append_singleton history x ih =>
    obtain ⟨text, part, hsince, hfold⟩ := ih
    by_cases hx : ∃ time text, x = .edited time d text
    · obtain ⟨time, text, rfl⟩ := hx
      refine ⟨text, [], ⟨.inr ⟨history, time, rfl⟩, by simp [IsUnchanged]⟩, ?_⟩
      simp [draftAfter, Happening.toDraft]
    · have hne : ∀ time text, x ≠ .edited time d text := fun time text heq => hx ⟨time, text, heq⟩
      refine ⟨text, part ++ [x], hsince.concat hne, ?_⟩
      unfold draftAfter at hfold ⊢
      rw [List.foldl_append, List.foldl_append, hfold]

/-- As long as a draft gets no other text, it stands as it was, or as the last verdict on its text
says. -/
theorem foldl_toDraft (d : Draft) (text : String) {part : List Happening} (h : IsUnchanged d part) :
    part.foldl (Happening.toDraft d) (freshDraft d text) = freshDraft d text ∨
      ∃ result, .judged d text result ∈ part ∧ isHeard result = true ∧
        part.foldl (Happening.toDraft d) (freshDraft d text) =
          judgedDraft d (freshDraft d text) result := by
  induction part using List.reverseRecOn with
  | nil => exact .inl rfl
  | append_singleton part x ih =>
    have hpart : IsUnchanged d part := fun time text hmem =>
      h time text (List.mem_append_left _ hmem)
    have ih := ih hpart
    rw [List.foldl_append, List.foldl_cons, List.foldl_nil]
    generalize part.foldl (Happening.toDraft d) (freshDraft d text) = st at ih ⊢
    have hkeep (hx : Happening.toDraft d st x = st) :
        Happening.toDraft d st x = freshDraft d text ∨
          ∃ result, .judged d text result ∈ part ++ [x] ∧ isHeard result = true ∧
            Happening.toDraft d st x = judgedDraft d (freshDraft d text) result := by
      rw [hx]
      exact ih.imp_right fun ⟨result, hmem, hrest⟩ => ⟨result, List.mem_append_left _ hmem, hrest⟩
    have htext : st.text = text := by
      obtain rfl | ⟨result, -, -, rfl⟩ := ih
      · rfl
      · exact text_judgedDraft ..
    cases x with
    | edited time e new =>
      by_cases he : e = d
      · subst he
        exact absurd (List.mem_append_right _ (List.mem_singleton_self _)) (h time new)
      · exact hkeep (by simp [Happening.toDraft, he])
    | judged e new result =>
      by_cases hmatch : e = d ∧ st.text = new
      · by_cases hheard : isHeard result = true
        · obtain ⟨rfl, hnew⟩ := hmatch
          obtain rfl : text = new := htext.symm.trans hnew
          refine .inr ⟨result, List.mem_append_right _ (List.mem_singleton_self _), hheard, ?_⟩
          rw [Happening.toDraft, if_pos ⟨rfl, htext⟩]
          obtain rfl | ⟨first, -, -, rfl⟩ := ih
          · rfl
          · exact judgedDraft_congr (text_judgedDraft ..) hheard
        · exact hkeep (by rw [Happening.toDraft, if_pos hmatch, judgedDraft_of_not_heard st hheard])
      · exact hkeep (by rw [Happening.toDraft, if_neg hmatch])
    | _ => exact hkeep rfl

/-- A draft stands as its latest text left it, or as the last verdict on that text did. -/
theorem IsFounded.standing {history : List Happening} (h : IsFounded history) (d : Draft) :
    ∃ text part, IsSince d text history part ∧
      (draftAfter d history = freshDraft d text ∨
        ∃ result, .judged d text result ∈ part ∧ isHeard result = true ∧ Text.isBlank text = false ∧
          draftAfter d history = judgedDraft d (freshDraft d text) result) := by
  obtain ⟨text, part, hsince, hfold⟩ := exists_since d history
  refine ⟨text, part, hsince, ?_⟩
  rw [hfold]
  refine (foldl_toDraft d text hsince.unchanged).imp_right ?_
  rintro ⟨result, hmem, hheard, heq⟩
  refine ⟨result, hmem, hheard, ?_, heq⟩
  obtain ⟨first, last, rfl⟩ := List.append_of_mem hmem
  have hpre : ∃ before, before ++ [.judged d text result] <+: history := by
    obtain ⟨heq, -⟩ | ⟨before, time, heq⟩ := hsince.start
    · exact ⟨first, last, by simp [heq]⟩
    · exact ⟨before ++ .edited time d text :: first, last, by simp [heq]⟩
  obtain ⟨before, hpre⟩ := hpre
  exact (h before d text result hpre).1

theorem Attained.standing {x : Session V × Hands} (hx : Attained view x) (d : Draft) :
    ∃ text part, IsSince d text x.1.history part ∧
      (x.1.store.draft d = freshDraft d text ∨
        ∃ result, .judged d text result ∈ part ∧ isHeard result = true ∧ Text.isBlank text = false ∧
          x.1.store.draft d = judgedDraft d (freshDraft d text) result) := by
  rw [hx.draft_eq]
  exact hx.isGrounded.founded.standing d

end Workbench.Session
