import Workbench.Proofs.Coalescing.Scheduler
import Workbench.Proofs.Coalescing.Watch

/-!
# Timers and the account

The table of a scheduler and the timers on its board are those that the account tells of: one for each
key that is armed, due a window after it was scheduled, with the errand that was scheduled last. Each
operation and each job keeps it so, and the account timely.
-/
namespace Workbench.Coalescing

open Turn (Board Job)

namespace Scheduler

variable {K W R C : Type} [DecidableEq K]

theorem work?_schedule (s : Scheduler K W) (key k : K) (work : W) (b : Board R C K) :
    (s.schedule key work b).1.work? k = if k = key then some work else s.work? k := by
  have hwork : (s.schedule key work b).1.work? k =
      ((s.drop key).work? k).or ([(key, work)].lookup k) := List.lookup_append
  rw [hwork]
  split
  case isTrue heq =>
    subst heq
    rw [work?_drop_self]
    simp
  case isFalse hne => rw [work?_drop_of_ne s hne, List.lookup_cons, beq_false_of_ne hne]; simp

theorem keys_schedule (s : Scheduler K W) (key : K) (work : W) (b : Board R C K) :
    (s.schedule key work b).1.keys = (s.keys.filter (· ≠ key)) ++ [key] := by
  rw [← keys_drop]
  simp [schedule, keys]

theorem nodup_filter_append {α : Type} [DecidableEq α] {xs : List α} (h : xs.Nodup) (x : α) :
    (xs.filter (· ≠ x) ++ [x]).Nodup := by
  refine List.Nodup.append (h.filter _) (List.nodup_singleton x) ?_
  simp [List.disjoint_singleton]

end Scheduler

namespace Workshop

theorem scheduler_schedule (w : Workshop) (key : String) (e : Errand) :
    (w.schedule key e).scheduler = (w.scheduler.schedule key e w.board).1 := by
  unfold schedule
  split <;> rfl

theorem record_schedule (w : Workshop) (key : String) (e : Errand) :
    (w.schedule key e).record = w.record := by
  unfold schedule
  split <;> rfl

theorem now_hand (w : Workshop) (next? : Option (String × Errand)) :
    (w.hand next?).board.now = w.board.now := by
  cases next? with
  | none => rfl
  | some next =>
    change (w.schedule next.1 next.2).board.now = _
    rw [board_schedule]
    rfl

end Workshop

/-- The table and the timers of a workshop are those that the account tells of. -/
structure IsTimed (window : Nat) (w : Workshop) (τ : Account) : Prop where
  width : w.scheduler.window = window
  keys : w.scheduler.keys.Nodup
  distinct : (w.board.timers.map (·.2)).Nodup
  work : ∀ key, w.scheduler.work? key = (timer? window key τ).map (·.2)
  due : ∀ key due, (due, key) ∈ w.board.timers ↔ (timer? window key τ).map (·.1) = some due
  timely : IsTimely window τ
  past : ∀ y ∈ τ, y.1 ≤ w.board.now

namespace IsTimed

variable {window : Nat} {w v : Workshop} {τ : Account} {x : Incident} {new : List Incident}

theorem opened (window : Nat) : IsTimed window (Watched.opened window).workshop [] :=
  ⟨rfl, List.nodup_nil, List.nodup_nil, fun _ => rfl, by simp [Board.timers, Turn.Agenda.later,
    Watched.opened, timer?], isTimely_nil, by simp⟩

theorem now_le (h : IsTimed window w τ) (htidy : w.board.agenda.IsTidy) {key : String} {due : Nat}
    {e : Errand} (htimer : timer? window key τ = some (due, e)) : w.board.now ≤ due := by
  have hmem := (h.due key due).mpr (by rw [htimer]; rfl)
  exact Board.now_le_of_mem_timers htidy hmem

theorem fits (h : IsTimed window w τ) (htidy : w.board.agenda.IsTidy)
    (hx : ∀ id key e, x = .fired id key e → timer? window key τ = some (w.board.now, e)) :
    Fits window τ w.board.now x :=
  ⟨h.past, fun _ _ _ htimer => h.now_le htidy htimer, hx⟩

theorem past_concat (h : IsTimed window w τ) (hnow : v.board.now = w.board.now) :
    ∀ y ∈ τ ++ [(w.board.now, x)], y.1 ≤ v.board.now := by
  intro y hy
  rw [hnow]
  obtain hy | hy := List.mem_append.mp hy
  · exact h.past y hy
  · exact Nat.le_of_eq (congrArg Prod.fst (List.mem_singleton.mp hy))

/-- Nothing happens. -/
theorem keep (h : IsTimed window w τ) (hs : v.scheduler = w.scheduler)
    (hkeep : Board.KeepsTimers w.board v.board) : IsTimed window v τ := by
  refine ⟨by rw [hs]; exact h.width, by rw [hs]; exact h.keys, ?_, ?_, ?_, h.timely, ?_⟩
  · rw [hkeep.timers]
    exact h.distinct
  · rw [hs]
    exact h.work
  · rw [hkeep.timers]
    exact h.due
  · rw [hkeep.now]
    exact h.past

/-- Something happens that does not concern the timers. -/
theorem tell (h : IsTimed window w τ) (htidy : w.board.agenda.IsTidy) (hs : v.scheduler = w.scheduler)
    (hkeep : Board.KeepsTimers w.board v.board) (hx : ∀ key, x.touches key = false) :
    IsTimed window v (τ ++ [(w.board.now, x)]) := by
  have hsame (key : String) : timer? window key (τ ++ [(w.board.now, x)]) = timer? window key τ := by
    rw [timer?_concat, Incident.timer?_of_not_touches (hx key)]
  have hkept := h.keep hs hkeep
  refine ⟨hkept.width, hkept.keys, hkept.distinct, ?_, ?_, ?_, h.past_concat hkeep.now⟩
  · intro key
    rw [hsame]
    exact hkept.work key
  · intro key due
    rw [hsame]
    exact hkept.due key due
  · refine h.timely.concat (h.fits htidy fun id key e heq => ?_)
    have hnot := hx key
    simp [heq, Incident.touches] at hnot

theorem schedule (h : IsTimed window w τ) (htidy : w.board.agenda.IsTidy) (key : String)
    (e : Errand) :
    IsTimed window (w.schedule key e) (τ ++ [(w.board.now, .scheduled key e)]) := by
  have htimers : (w.schedule key e).board.timers =
      Turn.insertDue (w.board.now + window, key) (w.board.timers.filter (·.2 ≠ key)) := by
    rw [w.board_schedule, Board.timers_arm (Turn.Agenda.isTidy_disarm htidy _),
      Board.timers_disarm, h.width]
    rfl
  have htimer (k : String) : timer? window k (τ ++ [(w.board.now, .scheduled key e)]) =
      if k = key then some (w.board.now + window, e) else timer? window k τ := by
    rw [timer?_concat, Incident.timer?]
    simp only [eq_comm]
  refine {
    width := ?width
    keys := ?keys
    distinct := ?distinct
    work := fun k => ?work
    due := fun k due => ?due
    timely := h.timely.concat (h.fits htidy (by simp))
    past := h.past_concat (by rw [w.board_schedule]; rfl) }
  case width =>
    rw [w.scheduler_schedule]
    exact h.width
  case keys =>
    rw [w.scheduler_schedule, Scheduler.keys_schedule]
    exact Scheduler.nodup_filter_append h.keys key
  case distinct =>
    rw [htimers]
    refine ((List.perm_orderedInsert ..).map _).nodup_iff.mpr ?_
    rw [List.map_cons, List.nodup_cons]
    refine ⟨by simp, h.distinct.sublist ((List.filter_sublist).map _)⟩
  case work =>
    rw [w.scheduler_schedule, Scheduler.work?_schedule, htimer]
    split
    · rfl
    · exact h.work k
  case due =>
    rw [htimers, htimer, Turn.mem_insertDue, List.mem_filter, h.due]
    split
    case isTrue heq => simp [heq, eq_comm]
    case isFalse hne => simp [hne]

/-- The timer of a key is taken away, as something happens that tells of it. -/
theorem drop (h : IsTimed window w τ) {key : String} (hs : v.scheduler = w.scheduler.drop key)
    (htimers : v.board.timers = w.board.timers.filter (·.2 ≠ key)) (hnow : v.board.now = w.board.now)
    (hx : Fits window τ w.board.now x) (hself : x.timer? window w.board.now key = fun _ => none)
    (hother : ∀ k ≠ key, x.touches k = false) : IsTimed window v (τ ++ [(w.board.now, x)]) := by
  have htimer (k : String) : timer? window k (τ ++ [(w.board.now, x)]) =
      if k = key then none else timer? window k τ := by
    rw [timer?_concat]
    split
    case isTrue heq => rw [heq, hself]
    case isFalse hne => exact Incident.timer?_of_not_touches (hother k hne) _ _ _
  refine {
    width := ?width
    keys := ?keys
    distinct := ?distinct
    work := fun k => ?work
    due := fun k due => ?due
    timely := h.timely.concat hx
    past := h.past_concat hnow }
  case width =>
    rw [hs]
    exact h.width
  case keys =>
    rw [hs, Scheduler.keys_drop]
    exact h.keys.filter _
  case distinct =>
    rw [htimers]
    exact h.distinct.sublist ((List.filter_sublist).map _)
  case work =>
    rw [hs, htimer]
    split
    case isTrue heq => rw [heq, Scheduler.work?_drop_self]; rfl
    case isFalse hne => rw [Scheduler.work?_drop_of_ne _ hne, h.work]
  case due =>
    rw [htimers, htimer, List.mem_filter, h.due]
    split
    case isTrue heq => simp [heq]
    case isFalse hne => simp [hne]

theorem cancel (h : IsTimed window w τ) (htidy : w.board.agenda.IsTidy) (key : String) :
    IsTimed window (w.cancel key).2 (τ ++ [(w.board.now, .cancelled key)]) := by
  refine h.drop rfl (Board.timers_disarm w.board key) rfl (h.fits htidy (by simp)) ?_ ?_
  · funext old?
    simp [Incident.timer?, Incident.touches, Incident.disturbs]
  · intro k hk
    simpa [Incident.touches, Incident.disturbs] using Ne.symm hk

theorem cancelAll (h : IsTimed window w τ) (htidy : w.board.agenda.IsTidy) :
    IsTimed window w.cancelAll (τ ++ [(w.board.now, .cleared)]) := by
  have htimer (k : String) : timer? window k (τ ++ [(w.board.now, .cleared)]) = none := by
    rw [timer?_concat]
    rfl
  -- a timer is armed for no other keys than those of the table
  have htimers : w.cancelAll.board.timers = [] := by
    have hdisarm : w.cancelAll.board.timers = _ := Board.timers_disarmAll w.scheduler.keys w.board
    rw [hdisarm, List.filter_eq_nil_iff]
    intro y hy hnot
    have hmem := (h.due y.2 y.1).mp hy
    have hnone : w.scheduler.work? y.2 = none :=
      Scheduler.work?_eq_none.mpr (of_decide_eq_true hnot)
    rw [h.work, Option.map_eq_none_iff] at hnone
    rw [hnone] at hmem
    cases hmem
  refine ⟨h.width, List.nodup_nil, ?_, fun k => ?_, fun k due => ?_, ?_, h.past_concat ?_⟩
  · rw [htimers]
    exact List.nodup_nil
  · rw [htimer]
    rfl
  · rw [htimers, htimer]
    simp
  · exact h.timely.concat (h.fits htidy (by simp))
  · exact Board.now_disarmAll w.scheduler.keys w.board

/-- Time passes when nothing is to be done. -/
theorem moveTo (h : IsTimed window w τ) (htidy : w.board.agenda.IsTidy)
    (hrest : w.board.agenda.next? = none) (time : Nat) :
    IsTimed window { w with board := w.board.moveTo time } τ := by
  obtain ⟨hturn, -, -⟩ := Turn.Agenda.of_next?_eq_none htidy hrest
  have htimers : (w.board.moveTo time).timers = w.board.timers :=
    congrArg (Turn.relabel Job.timer?) (Turn.Agenda.later_moveTo hturn time)
  refine ⟨h.width, h.keys, ?_, h.work, ?_, h.timely, fun y hy => ?_⟩
  · rw [htimers]
    exact h.distinct
  · rw [htimers]
    exact h.due
  · exact Nat.le_trans (h.past y hy) (Nat.le_max_left _ _)

/-! ## Jobs -/

theorem hand (h : IsTimed window w τ) (htidy : w.board.agenda.IsTidy)
    (next? : Option (String × Errand)) :
    IsTimed window (w.hand next?)
      (τ ++ (next?.map fun next => (w.board.now, .scheduled next.1 next.2)).toList) := by
  cases next? with
  | none =>
    rw [Option.map_none, Option.toList_none, List.append_nil]
    exact h
  | some next => exact h.schedule htidy next.1 next.2

theorem conclude (h : IsTimed window w τ) (hw : IsManned w.board) (id : Nat) (e : Errand) :
    IsTimed window (w.conclude id e) (τ ++ (e.endings id).map (w.board.now, ·)) := by
  have hhand := h.hand hw.tidy e.next?
  have htidy := (hw.hand e.next?).tidy
  have hended := hhand.tell htidy (v := w.conclude id e) (x := .ended id e)
    (by rw [w.conclude_eq]) (by rw [w.conclude_eq]; exact Board.keepsTimers_finish htidy id _)
    fun _ => rfl
  rw [Workshop.now_hand, List.append_assoc] at hended
  have hendings : (e.endings id).map (w.board.now, ·) =
      (e.next?.map fun next => (w.board.now, .scheduled next.1 next.2)).toList ++
        [(w.board.now, .ended id e)] := by
    unfold Errand.endings
    cases e.next? <;> rfl
  rwa [hendings]

/-- A timer that goes off is armed, is due, and is the only one for its key. -/
theorem fired (h : IsTimed window w τ) (htidy : w.board.agenda.IsTidy) {key : String}
    {b : Board Hand Stage String} (hnext : w.board.next? = some (.fire key, b)) :
    (∃ e, timer? window key τ = some (w.board.now, e)) ∧
      b.timers = w.board.timers.filter (·.2 ≠ key) := by
  have htimers : w.board.timers = (w.board.now, key) :: b.timers :=
    Board.timers_of_next? htidy hnext
  have hdistinct := h.distinct
  rw [htimers, List.map_cons, List.nodup_cons] at hdistinct
  refine ⟨?_, ?_⟩
  · have hdue := (h.due key w.board.now).mp (by rw [htimers]; exact List.mem_cons_self)
    obtain ⟨⟨due, e⟩, htimer, rfl⟩ := Option.map_eq_some_iff.mp hdue
    exact ⟨e, htimer⟩
  · rw [htimers, List.filter_cons_of_neg (by simp), List.filter_eq_self.mpr]
    intro y hy
    exact decide_eq_true fun heq => hdistinct.1 (List.mem_map.mpr ⟨y, hy, heq⟩)

theorem does (h : IsTimed window w τ) (hw : IsManned w.board) {j : Job String}
    {b : Board Hand Stage String} (hnext : w.board.next? = some (j, b))
    (hdoes : Does { w with board := b } j new v) :
    IsTimed window v (τ ++ new.map (w.board.now, ·)) := by
  have hb := (hw.next hnext).1
  have hnow : b.now = w.board.now := (Board.outlook_of_next? hw.tidy hnext).2.2
  -- the job is taken up, and it was not a timer
  have htaken (hj : j.timer? = none) : IsTimed window { w with board := b } τ :=
    h.keep rfl (Board.keepsTimers_next hw.tidy hnext hj)
  cases hdoes with
  | @start id e hphase =>
    have hstarted := (htaken rfl).tell hb.tidy (v := Workshop.enter { w with board := b } e.label false)
      (x := .started id e) rfl (Board.keepsTimers_of_agenda hb.tidy rfl) fun _ => rfl
    rw [Workshop.start_eq, ← hnow]
    dsimp only
    unfold Errand.startings
    split
    · rw [List.map_cons, List.append_cons]
      exact hstarted.conclude hb id e
    · exact hstarted.keep rfl (Board.keepsTimers_sleep hb.tidy id e.takes _)
  | @conclude id e hphase =>
    rw [← hnow]
    exact (htaken rfl).conclude hb id e
  | @wake id e hphase =>
    rw [List.map_nil, List.append_nil]
    exact (htaken rfl).keep rfl (Board.keepsTimers_wake hb.tidy id)
  | @leave id a failure hfind hover =>
    obtain ⟨hs, hboard, -⟩ := Workshop.leave_eq { w with board := b } a
    rw [← hnow]
    refine (htaken rfl).tell hb.tidy hs ?_ fun _ => rfl
    rw [hboard]
    exact Board.keepsTimers_of_agenda hb.tidy rfl
  | @fire key e hwork =>
    obtain ⟨⟨e', htimer⟩, htimers⟩ := h.fired hw.tidy hnext
    have hsame : w.scheduler.work? key = some e' := by rw [h.work, htimer]; rfl
    obtain rfl : e' = e := Option.some.inj (hsame.symm.trans hwork)
    refine h.drop rfl htimers hnow (h.fits hw.tidy fun id k e heq => ?_) ?_ fun k hk => ?_
    · cases heq
      exact htimer
    · funext old?
      simp [Incident.timer?, Incident.touches]
    · simpa [Incident.touches] using Ne.symm hk
  | count id =>
    rw [List.map_nil, List.append_nil]
    exact htaken rfl
  | absent hnone =>
    rw [List.map_nil, List.append_nil]
    exact htaken rfl
  | @idle key hnone =>
    obtain ⟨⟨e, htimer⟩, -⟩ := h.fired hw.tidy hnext
    have hsome : w.scheduler.work? key = some e := by rw [h.work, htimer]; rfl
    rw [hnone] at hsome
    cases hsome

end IsTimed

end Workbench.Coalescing
