import Workbench.Proofs.Session.Standing
import Workbench.Proofs.Text.Blank

/-!
# Verdicts that are awaited

A draft that waits for a verdict gets one: its timer is armed, or a validation of the text that it
holds is under way. Only closing the session or a call that breaks can take the verdict away.
-/
namespace Workbench.Session

open Coalescing (Scheduler)
open Document (Draft DraftState Status)
open Service (Verdict)

variable {V : Type} {view : View V} {d : Draft} {text : String}

/-- The text whose verdict somebody with this in hand is after. -/
def Hand.text? : Hand → Option (Draft × String)
  | .asking d text => some (d, text)
  | .judging d text _ => some (d, text)
  | _ => none

/-- A validation of the text has been started and has not ended. -/
def Hands.IsUnderway (H : Hands) (d : Draft) (text : String) : Prop :=
  ∃ k, (.validation, k) ∈ H ∧ k.text? = some (d, text)

theorem Hands.IsUnderway.add {H : Hands} (h : H.IsUnderway d text) (role : Role) (k : Hand) :
    (H.add role k).IsUnderway d text := by
  obtain ⟨k', hmem, htext⟩ := h
  exact ⟨k', Hands.mem_add_of_mem hmem, htext⟩

/-- It goes on while what is in hand of one activity changes but not the text. -/
theorem Hands.IsUnderway.change {H : Hands} {role : Role} {k k' : Hand}
    (h : (H.add role k).IsUnderway d text)
    (hk : k.text? = some (d, text) → k'.text? = some (d, text)) :
    (H.add role k').IsUnderway d text := by
  obtain ⟨k₀, hmem, htext⟩ := h
  obtain hmem | ⟨heq, -⟩ := mem_add.mp hmem
  · exact ⟨k₀, mem_add_of_mem hmem, htext⟩
  · cases heq
    have htext' := hk htext
    refine ⟨k', mem_add_self ?_, htext'⟩
    rintro rfl
    cases htext'

/-- The texts that waited for validation when the session was closed. -/
def Happening.dropped : Happening → List (Draft × String)
  | .closed dropped => dropped
  | _ => []

/-- Was the session closed? -/
def Happening.isClosing : Happening → Bool
  | .closed _ => true
  | _ => false

theorem Happening.dropped_eq_nil {x : Happening} (h : x.isClosing = false) : x.dropped = [] := by
  cases x <;> first | rfl | cases h

/-- Is it the end of a validation call, and neither a verdict nor a fault of the transport? -/
def Happening.isBroken : Happening → Bool
  | .judged _ _ result => !isHeard result
  | .refused (.validate _ _) f => !f.isTransport
  | _ => false

/-- What takes a verdict away. -/
def Happening.IsLoss (x : Happening) : Prop := x.dropped ≠ [] ∨ x.isBroken = true

/-- A verdict was taken away. -/
def HasLoss (history : List Happening) : Prop := ∃ x ∈ history, x.IsLoss

theorem HasLoss.mono {history new : List Happening} (h : HasLoss history) :
    HasLoss (history ++ new) := by
  obtain ⟨x, hmem, hloss⟩ := h
  exact ⟨x, List.mem_append_left _ hmem, hloss⟩

theorem HasLoss.last {history : List Happening} {x : Happening} (h : x.IsLoss) :
    HasLoss (history ++ [x]) := ⟨x, List.mem_append_right _ (List.mem_singleton_self _), h⟩

theorem HasLoss.move {s t : Session V} {k k' : Hand} (h : Move view (s, k) (t, k'))
    (hs : HasLoss s.history) : HasLoss t.history := by
  obtain ⟨new, heq, -⟩ := h.history
  rw [heq]
  exact hs.mono

/-- A draft that waits for a verdict gets one, unless it was taken away. -/
def IsAwaited (x : Session V × Hands) : Prop :=
  ∀ d, (x.1.store.draft d).status = .validating →
    d ∈ x.1.scheduler.keys ∨ x.2.IsUnderway d (x.1.store.draft d).text ∨ HasLoss x.1.history

theorem ofBlank_ne_validating (d : Draft) : Status.ofBlank d ≠ .validating := by
  cases d <;> decide

/-- A validation that ended leaves nobody waiting. -/
theorem status_judgedDraft_ne (d : Draft) (st : DraftState) {result : Except Failure Verdict}
    (h : isHeard result = true) : (judgedDraft d st result).status ≠ .validating := by
  cases result with
  | ok v =>
    unfold judgedDraft validStatus Status.validating Status.error
    dsimp only
    split
    · split <;> simp
    · simp
  | error f =>
    obtain ⟨endpoint, reason, rfl⟩ := Failure.isTransport_iff.mp h
    simp [judgedDraft, Status.validating, Status.error]

theorem mem_keys_putText {s : Session V} (h : Text.isBlank text = false) :
    d ∈ (s.putText d text).scheduler.keys := by
  simp [Scheduler.keys, pending_putText, h]

theorem mem_keys_putText_of_ne {s : Session V} {e : Draft} (he : e ≠ d)
    (h : d ∈ s.scheduler.keys) : d ∈ (s.putText e text).scheduler.keys := by
  rw [Scheduler.keys, pending_putText, List.map_append, List.mem_append]
  refine .inl ?_
  rw [← Scheduler.keys, Scheduler.keys_drop, List.mem_filter]
  exact ⟨h, by simpa using he.symm⟩

theorem IsAwaited.move {s t : Session V} {k k' : Hand} {H : Hands} {role : Role}
    (hs : IsAwaited (s, H.add role k)) (h : Move view (s, k) (t, k')) :
    IsAwaited (t, H.add role k') := by
  intro d hwait
  -- the draft, its timer and the text in hand stay as they are
  have hstill (hdraft : t.store.draft d = s.store.draft d)
      (hkeys : d ∈ s.scheduler.keys → d ∈ t.scheduler.keys)
      (hhand : ∀ text, k.text? = some (d, text) → k'.text? = some (d, text)) :
      d ∈ t.scheduler.keys ∨ (H.add role k').IsUnderway d (t.store.draft d).text ∨
        HasLoss t.history := by
    dsimp only at hwait
    rw [hdraft] at hwait ⊢
    obtain hkey | hunder | hloss := hs d hwait
    · exact .inl (hkeys hkey)
    · exact .inr (.inl (hunder.change (hhand _)))
    · exact .inr (.inr (hloss.move h))
  cases h with
  | quiet _ hq => exact hstill (by rw [hq.store]) (by rw [hq.scheduler]; exact id) fun _ => id
  | spawn _ role plan hp hq =>
    exact hstill (by rw [hq.store]) (by rw [hq.scheduler]; exact id) fun _ => id
  | edit _ _ e new =>
    by_cases he : e = d
    · subst he
      refine .inl (mem_keys_putText ?_)
      dsimp only at hwait
      rw [draft_putText, if_pos rfl] at hwait
      cases hblank : Text.isBlank new with
      | false => rfl
      | true => simp [freshDraft, hblank, ofBlank_ne_validating] at hwait
    · exact hstill (by simp [he]) (mem_keys_putText_of_ne he) fun _ => id
  | overtake => exact hstill rfl id fun _ => id
  | close =>
    obtain hkey | hunder | hloss := hs d hwait
    · refine .inr (.inr (.last (.inl fun hnil => ?_)))
      change s.scheduler.pending = [] at hnil
      simp [Scheduler.keys, hnil] at hkey
    · exact .inr (.inl hunder)
    · exact .inr (.inr hloss.mono)
  | arm => exact hstill (draft_switch ..) id (by simp [Hand.text?])
  | take => exact hstill rfl id (by simp [Hand.text?])
  | send => exact hstill rfl id fun text hk => by cases k <;> exact hk
  | @refuse _ _ c f hcall hsend =>
    obtain hcall | rfl := hcall
    · cases k with
      | asking e text =>
        cases hcall
        refine .inr (.inr (.last (.inr ?_)))
        simp [Happening.isBroken, Service.Client.validate_error hsend]
      | judging e text r => cases hcall
      | _ => exact hstill rfl id (by simp [Hand.text?])
    · exact hstill rfl id (by simp [Hand.text?])
  | hear _ e text r =>
    by_cases hheard : isHeard (Service.Client.readVerdict e r).2 = true
    · have hne : ¬ (e = d ∧ (s.store.draft d).text = text) := by
        rintro hmatch
        dsimp only at hwait
        rw [draft_hearVerdict, if_pos hmatch] at hwait
        exact status_judgedDraft_ne _ _ hheard hwait
      have hdraft := draft_hearVerdict s e d text (Service.Client.readVerdict e r).2
      rw [if_neg hne] at hdraft
      dsimp only at hwait ⊢
      rw [hdraft] at hwait ⊢
      obtain hkey | hunder | hloss := hs d hwait
      · exact .inl hkey
      · dsimp only at hunder
        refine .inr (.inl (hunder.change fun hk => ?_))
        -- it was the validation of another text that ended
        obtain ⟨he, htext⟩ := Prod.mk.inj (Option.some.inj hk)
        exact absurd ⟨he, htext.symm⟩ hne
      · exact .inr (.inr hloss.mono)
    · exact .inr (.inr (.last (.inr (by simpa [Happening.isBroken] using hheard))))
  | begin => exact hstill (draft_begin ..) id (by simp [Hand.text?])
  | trigger => exact hstill (draft_begin ..) id (by simp [Hand.text?])
  | warn => exact hstill rfl id (by simp [Hand.text?])
  | conclude => exact hstill (draft_hearOutcome ..) id (by simp [Hand.text?])
  | drop _ _ hview =>
    refine hstill rfl id ?_
    intro text hk
    cases k with
    | asking e text' => cases hview
    | judging e text' r => cases hview
    | _ => cases hk

/-- The timer of a draft that fires starts a validation of the text that the draft holds. -/
theorem IsAwaited.shift {x y : Session V × Hands} (h : Shift view x y) (hx : IsAwaited x)
    (hground : IsGrounded x) : IsAwaited y := by
  cases h with
  | move H role h => exact hx.move h
  | @fire s t e text H hwork hq =>
    intro d hwait
    dsimp only at hwait ⊢
    rw [hq.store] at hwait ⊢
    rw [hq.history, hq.scheduler]
    dsimp only at hwait ⊢
    by_cases he : e = d
    · subst he
      have htext := hground.waiting e text (Scheduler.mem_pending_of_work? hwork)
      refine .inr (.inl ⟨.asking e text, Hands.mem_add_self (by simp), ?_⟩)
      rw [Hand.text?, ← htext.2]
    · obtain hkey | hunder | hloss := hx d hwait
      · refine .inl ?_
        rw [Scheduler.keys_drop, List.mem_filter]
        exact ⟨hkey, by simpa using fun heq : d = e => he heq.symm⟩
      · exact .inr (.inl (hunder.add _ _))
      · exact .inr (.inr hloss)
  | @board s t H hq =>
    intro d hwait
    dsimp only at hwait ⊢
    rw [hq.store] at hwait ⊢
    rw [hq.history, hq.scheduler]
    exact hx d hwait

theorem Attained.isAwaited {x : Session V × Hands} (hx : Attained view x) : IsAwaited x := by
  induction hx with
  | new =>
    intro d hwait
    refine absurd ?_ (ofBlank_ne_validating d)
    rw [← hwait]
    cases d <;> rfl
  | shift hx h ih => exact ih.shift h hx.isGrounded

end Workbench.Session
