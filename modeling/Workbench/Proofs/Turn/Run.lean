import Workbench.Turn.Run

/-!
# Coming to rest

A machine that has less left to do after each job comes to rest, and does not need more steps than
that: before each job there is at most one move to a later time. What each job and each move preserves
holds when it rests.
-/
namespace Workbench.Turn.Machine

variable {σ : Type} {I : σ → Prop} {left : σ → Nat}

/-- A step that leaves less is repeated until there is none. -/
theorem iterate_rests {step : σ → Option σ}
    (hstep : ∀ s t, I s → step s = some t → I t ∧ left t < left s) {budget : Nat} {s : σ} (hs : I s)
    (hbudget : left s ≤ budget) :
    I (iterate step budget s) ∧ step (iterate step budget s) = none := by
  induction budget generalizing s with
  | zero =>
    refine ⟨hs, Option.eq_none_iff_forall_ne_some.mpr fun t ht => ?_⟩
    have hless := (hstep s t hs ht).2
    change left s ≤ 0 at hbudget
    omega
  | succ budget ih =>
    unfold iterate
    cases hnext : step s with
    | none => exact ⟨hs, hnext⟩
    | some t =>
      obtain ⟨ht, hless⟩ := hstep s t hs hnext
      exact ih ht (by omega)

/-- Two for each job that is left, for a move before it; and one more if a move is next. -/
def stepsLeft (m : Machine σ) (left : σ → Nat) (s : σ) : Nat :=
  2 * left s + if (m.step s).isNone then 1 else 0

variable {m : Machine σ} {mayMove : σ → Nat → Bool} {s t : σ}

theorem stepOrMove_eq_some (h : m.stepOrMove mayMove s = some t) :
    m.step s = some t ∨
      m.step s = none ∧ ∃ due, m.nextDue? s = some due ∧ mayMove s due = true ∧
        t = m.moveTo s due := by
  unfold stepOrMove at h
  split at h
  case h_1 u hu =>
    cases h
    exact .inl hu
  case h_2 hnone =>
    split at h
    case h_1 due hdue =>
      split at h
      case isTrue hmay =>
        cases h
        exact .inr ⟨hnone, due, hdue, hmay, rfl⟩
      case isFalse => cases h
    case h_2 => cases h

theorem stepOrMove_eq_none (h : m.stepOrMove mayMove s = none) :
    m.step s = none ∧ ∀ due, m.nextDue? s = some due → mayMove s due = false := by
  unfold stepOrMove at h
  split at h
  case h_1 => cases h
  case h_2 hnone =>
    refine ⟨hnone, fun due hdue => ?_⟩
    rw [hdue] at h
    dsimp only at h
    split at h
    · cases h
    case isFalse hmay => exact Bool.eq_false_iff.mpr hmay

/-- A job that is there is done first. -/
theorem passUntil_succ (h : m.step s = some t) (budget : Nat) (isSo : σ → Bool) :
    m.passUntil (budget + 1) isSo s = m.passUntil budget isSo t := by
  have hnext : m.stepOrMove (fun s _ => !isSo s) s = some t := by rw [stepOrMove, h]
  unfold passUntil
  rw [iterate, hnext]

/-- Steps and moves come to an end, when nothing is left to be done at the moment and there is no move
that may be made. -/
theorem iterate_stepOrMove_rests (hjob : ∀ s t, I s → m.step s = some t → I t ∧ left t < left s)
    (hmove : ∀ s due, I s → m.step s = none → m.nextDue? s = some due → mayMove s due = true →
      I (m.moveTo s due) ∧ left (m.moveTo s due) = left s ∧ m.step (m.moveTo s due) ≠ none)
    {budget : Nat} (hs : I s) (hbudget : 2 * left s + 1 ≤ budget) :
    let t := iterate (m.stepOrMove mayMove) budget s
    I t ∧ m.step t = none ∧ ∀ due, m.nextDue? t = some due → mayMove t due = false := by
  have hone (s : σ) : (if (m.step s).isNone then 1 else 0) ≤ 1 := by split <;> omega
  have hstep : ∀ s t, I s → m.stepOrMove mayMove s = some t →
      I t ∧ m.stepsLeft left t < m.stepsLeft left s := by
    intro s t hs hnext
    unfold stepsLeft
    obtain hjobs | ⟨hnone, due, hdue, hmay, rfl⟩ := stepOrMove_eq_some hnext
    · obtain ⟨ht, hless⟩ := hjob s t hs hjobs
      have hlast := hone t
      exact ⟨ht, by omega⟩
    · obtain ⟨ht, hsame, hsome⟩ := hmove s due hs hnone hdue hmay
      have hbusy : (m.step (m.moveTo s due)).isNone = false := by
        rw [Option.isNone_eq_false_iff, Option.isSome_iff_ne_none]
        exact hsome
      refine ⟨ht, ?_⟩
      rw [hsame, hbusy, hnone]
      simp
  have hleft : m.stepsLeft left s ≤ budget := by
    have hlast := hone s
    unfold stepsLeft
    omega
  obtain ⟨hinv, hnone⟩ := iterate_rests hstep hs hleft
  exact ⟨hinv, stepOrMove_eq_none hnone⟩

/-- Time passes until nothing is left to be done at the moment, and either nothing later or what was
waited for is so. -/
theorem passUntil_rests (hjob : ∀ s t, I s → m.step s = some t → I t ∧ left t < left s)
    (hmove : ∀ s due, I s → m.step s = none → m.nextDue? s = some due →
      I (m.moveTo s due) ∧ left (m.moveTo s due) = left s ∧ m.step (m.moveTo s due) ≠ none)
    {budget : Nat} (isSo : σ → Bool) (hs : I s) (hbudget : 2 * left s + 1 ≤ budget) :
    let t := m.passUntil budget isSo s
    I t ∧ m.step t = none ∧ (isSo t = false → m.nextDue? t = none) := by
  obtain ⟨hinv, hrest, hmay⟩ := iterate_stepOrMove_rests hjob
    (fun s due hs hnone hdue _ => hmove s due hs hnone hdue) hs hbudget
  refine ⟨hinv, hrest, fun hso => Option.eq_none_iff_forall_ne_some.mpr fun due hdue => ?_⟩
  have hstays := hmay due hdue
  change isSo (iterate _ budget s) = false at hso
  rw [hso] at hstays
  cases hstays

end Workbench.Turn.Machine
