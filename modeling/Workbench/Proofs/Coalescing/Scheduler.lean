import Workbench.Coalescing.Scheduler
import Workbench.Proofs.Turn.Order

/-!
# Timers and work

The work that a scheduler keeps and the timers on the agenda go together: there is at most one piece
of work for each key, and exactly one timer for each piece of work.
-/
namespace Workbench.Coalescing.Scheduler

open Turn (Board Job)

variable {K W R C : Type} [DecidableEq K] {s : Scheduler K W} {b c : Board R C K}

theorem count_filter_ne {α : Type} [DecidableEq α] (xs : List α) (x y : α) :
    (xs.filter (· ≠ x)).count y = if y = x then 0 else xs.count y := by
  split
  case isTrue heq =>
    subst heq
    exact List.count_eq_zero.mpr fun hmem => by simp at hmem
  case isFalse hne => exact List.count_filter (by simpa using hne)

/-- The keys that have work. -/
def keys (s : Scheduler K W) : List K := s.pending.map Prod.fst

theorem work?_eq_none {key : K} : s.work? key = none ↔ key ∉ s.keys := by
  simp only [work?, keys, List.lookup_eq_none_iff, List.mem_map, not_exists, not_and]
  constructor
  · intro h p hp heq
    simpa [heq] using h p hp
  · intro h p hp
    have hne : ¬ p.1 = key := h p hp
    simpa using fun heq : key = p.1 => hne heq.symm

theorem mem_pending_of_work? {key : K} {w : W} (h : s.work? key = some w) :
    (key, w) ∈ s.pending := by
  obtain ⟨xs, ys, hxs, -⟩ := List.lookup_eq_some_iff.mp h
  simp [hxs]

theorem keys_drop (s : Scheduler K W) (key : K) : (s.drop key).keys = s.keys.filter (· ≠ key) := by
  simp [keys, drop, List.filter_map, Function.comp_def]

theorem work?_drop_self (s : Scheduler K W) (key : K) : (s.drop key).work? key = none := by
  rw [work?_eq_none, keys_drop]
  simp

theorem work?_drop_of_ne (s : Scheduler K W) {key other : K} (h : key ≠ other) :
    (s.drop other).work? key = s.work? key := by
  unfold work? drop
  dsimp only
  induction s.pending with
  | nil => rfl
  | cons x xs ih =>
    obtain ⟨k, w⟩ := x
    by_cases hk : k = other
    · subst hk
      have hne : (key == k) = false := by simpa using h
      rw [List.filter_cons_of_neg (by simp), ih, List.lookup_cons, hne]
    · rw [List.filter_cons_of_pos (by simpa using hk), List.lookup_cons, List.lookup_cons, ih]

/-- Each key has at most one piece of work, and for each there is one timer on the agenda. -/
structure Tallies (s : Scheduler K W) (b : Board R C K) : Prop where
  nodup : s.keys.Nodup
  fires : ∀ key, b.jobs.count (.fire key) = s.keys.count key

namespace Tallies

theorem of_pending (h : s.Tallies b) {t : Scheduler K W} (ht : t.pending = s.pending) : t.Tallies b := by
  have hkeys : t.keys = s.keys := by rw [keys, ht, keys]
  exact ⟨hkeys ▸ h.nodup, hkeys ▸ h.fires⟩

theorem of_addsTurns (h : s.Tallies b) (hb : b.AddsTurns c) : s.Tallies c :=
  ⟨h.nodup, fun key => (hb.count_eq rfl).trans (h.fires key)⟩

theorem cancel (h : s.Tallies b) (key : K) : (s.drop key).Tallies (b.disarm key) := by
  refine ⟨?_, fun other => ?_⟩
  · rw [keys_drop]
    exact h.nodup.filter _
  · simp only [Board.jobs_disarm, keys_drop, count_filter_ne, h.fires, Job.fire.injEq]

theorem schedule (h : s.Tallies b) (key : K) (w : W) :
    (s.schedule key w b).1.Tallies (s.schedule key w b).2 := by
  have hdrop := h.cancel key
  have hkeys : (s.schedule key w b).1.keys = (s.drop key).keys ++ [key] := by
    simp [Scheduler.schedule, keys]
  refine ⟨?_, fun other => ?_⟩
  · rw [hkeys, List.nodup_append]
    refine ⟨hdrop.nodup, List.nodup_singleton _, ?_⟩
    intro a ha c hc
    obtain rfl := List.mem_singleton.mp hc
    rw [keys_drop, List.mem_filter] at ha
    simpa using ha.2
  · have hjobs := Board.jobs_arm (b.disarm key) s.window key
    rw [hkeys, List.count_append, ← hdrop.fires]
    refine (hjobs.count_eq _).trans ?_
    by_cases heq : key = other
    · subst heq
      simp
    · simp [heq]

theorem cancelAll (h : s.Tallies b) : (s.cancelAll b).1.Tallies (s.cancelAll b).2 := by
  have hfold : ∀ (ks : List K) (b : Board R C K) (key : K),
      (ks.foldl Board.disarm b).jobs.count (.fire key) =
        if key ∈ ks then 0 else b.jobs.count (.fire key) := by
    intro ks
    induction ks with
    | nil => exact fun b key => rfl
    | cons k ks ih =>
      intro b key
      rw [List.foldl_cons, ih, Board.jobs_disarm, count_filter_ne]
      by_cases hk : key = k <;> by_cases hks : key ∈ ks <;> simp [hk, hks]
  refine ⟨List.nodup_nil, fun key => ?_⟩
  change (s.keys.foldl Board.disarm b).jobs.count (.fire key) = 0
  rw [hfold, h.fires]
  split
  · rfl
  case isFalse hmem => exact List.count_eq_zero.mpr hmem

theorem finish (h : s.Tallies b) (id : Nat) (failure : Option Failure) :
    s.Tallies (b.finish id failure) := by
  obtain ⟨js, hjs, hturn⟩ := Board.jobs_finish b id failure
  refine ⟨h.nodup, fun key => ?_⟩
  have hzero : js.count (.fire key) = 0 := by
    refine List.count_eq_zero.mpr fun hmem => ?_
    cases hturn _ hmem
  rw [hjs.count_eq, List.count_append, hzero, Nat.zero_add, List.count_cons_of_ne (by simp)]
  exact h.fires key

theorem tail (h : s.Tallies b) {j : Job K} (hb : b.next? = some (j, c))
    (hj : ∀ key, j ≠ .fire key) : s.Tallies c := by
  refine ⟨h.nodup, fun key => ?_⟩
  rw [← h.fires, Board.jobs_of_next? hb, List.count_cons_of_ne (hj key)]

/-- A timer that fires has work, and it is the last one for its key. -/
theorem fire (h : s.Tallies b) {key : K} (hb : b.next? = some (.fire key, c)) :
    ∃ w, s.take? key = some (w, s.drop key) ∧ (s.drop key).Tallies c := by
  have hcount (other : K) := h.fires other
  simp only [Board.jobs_of_next? hb, List.count_cons] at hcount
  have hmem : key ∈ s.keys := by
    refine List.count_pos_iff.mp ?_
    rw [← hcount]
    simp
  obtain ⟨w, hw⟩ : ∃ w, s.work? key = some w := by
    cases hwork : s.work? key with
    | some w => exact ⟨w, rfl⟩
    | none => exact absurd hmem (work?_eq_none.mp hwork)
  refine ⟨w, by simp [take?, hw], ?_, fun other => ?_⟩
  · rw [keys_drop]
    exact h.nodup.filter _
  · rw [keys_drop, count_filter_ne]
    have hother := hcount other
    split
    case isTrue heq =>
      subst heq
      rw [List.count_eq_one_of_mem h.nodup hmem] at hother
      simpa using hother
    case isFalse hne =>
      have hne' : ¬ key = other := fun heq => hne heq.symm
      simpa [hne'] using hother

end Tallies

end Workbench.Coalescing.Scheduler
