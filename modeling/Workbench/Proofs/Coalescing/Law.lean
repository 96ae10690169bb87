import Workbench.Proofs.Coalescing.Progress

/-!
# The law of coalescing

Whatever is scheduled and cancelled in a workshop, and whenever: an errand is let go a window after it
was scheduled unless something was done under its key before, and nothing else is let go. The errands
start in this order, each once; what has started takes its course, whatever is done. The table holds the
timers that are armed, and the workshop is idle when there is none and nothing is under way.
-/
namespace Workbench.Coalescing

open Turn (Activity Board Job)

variable {window : Nat} {x : Watched} {w v : Workshop} {key : String} {e : Errand} {s t id : Nat}

/-- The timer of a key is the same in both workshops. -/
structure SameTimer (key : String) (w v : Workshop) : Prop where
  work : v.scheduler.work? key = w.scheduler.work? key
  due : ∀ due, (due, key) ∈ v.board.timers ↔ (due, key) ∈ w.board.timers

/-- The law, for a workshop with this window and what has happened in it. -/
structure Coalesces (window : Nat) (x : Watched) : Prop where
  /-- An errand that is scheduled fires a window later, unless it is dropped or replaced before. As long
  as neither has happened it is not overdue, and when nothing is to be done it is still to come. -/
  fate : ∀ before s key e after, x.account = before ++ (s, .scheduled key e) :: after →
    Fate window key s e after ∧
      (IsQuiet key after → x.now ≤ s + window ∧ (x.rests = true → x.now < s + window))
  /-- Nothing fires but what was scheduled a window ago, and has not been disturbed since. -/
  origin : ∀ before t id key e after, x.account = before ++ (t, .fired id key e) :: after →
    ∃ s, IsArmed key s e before ∧ t = s + window
  /-- The errands start as they have fired, and all of them have when nothing is to be done. -/
  order : starts x.account <+: fires x.account ∧ (x.rests = true → starts x.account = fires x.account)
  /-- Each errand starts once, at once, and ends once, when it has taken its time. -/
  courses : ∀ id, ∃ t key e, story id x.account <+: course id t key e
  /-- When nothing is to be done, an errand that has started is over unless it still takes its time. -/
  underway : x.rests = true → ∀ id, story id x.account = [] ∨
    ∃ t key e, (story id x.account = (course id t key e).take 2 ∧ x.now < t + e.takes) ∨
      story id x.account = course id t key e
  /-- Nothing that is scheduled or cancelled concerns the errands under way. -/
  untouched : ∀ m : Move, m.isIdle = false → (x.act m).workshop.running = x.workshop.running ∧
    ∀ id, Board.Spares id x.workshop.board (x.act m).workshop.board
  /-- Nothing that is done under one key concerns the timer of another. -/
  apart : ∀ key other, other ≠ key → (∀ e, SameTimer other x.workshop (x.workshop.schedule key e)) ∧
    SameTimer other x.workshop (x.workshop.cancel key).2
  /-- The table holds the errands of the armed timers, one for each key. -/
  table : (x.workshop.scheduler.pending.map Prod.fst).Nodup ∧ ∀ key e,
    (key, e) ∈ x.workshop.scheduler.pending ↔ ∃ s, IsArmed key s e x.account
  /-- For each of them there is one timer, due a window after the errand was scheduled. -/
  timers : (x.workshop.board.timers.map Prod.snd).Nodup ∧ ∀ key due,
    (due, key) ∈ x.workshop.board.timers ↔ ∃ s e, IsArmed key s e x.account ∧ due = s + window
  /-- A key is pending if, as nothing is done under it, a timer of it is going to fire. -/
  pending : ∀ key (moves : List Move) new, (x.follow moves).account = x.account ++ new →
    (∀ y ∈ new, y.2.disturbs key = false) → (x.follow moves).rests = true →
    x.now + window ≤ (x.follow moves).now →
    (x.workshop.scheduler.isPending key = true ↔ ∃ t id e, (t, .fired id key e) ∈ new)
  /-- To cancel tells whether there was a timer. -/
  cancel : ∀ key, (x.workshop.cancel key).1 = true ↔ ∃ s e, IsArmed key s e x.account
  /-- The workshop is idle if no timer is armed and of all that has fired the end has been noticed. -/
  idle : x.workshop.isIdle = true ↔ (∀ key s e, ¬ IsArmed key s e x.account) ∧
    ∀ t id key e, (t, .fired id key e) ∈ x.account → (t + e.takes, .left id) ∈ x.account
  /-- When nothing is to be done, that is if no timer is armed and all that has started has ended. -/
  idleAtRest : x.rests = true → (x.workshop.isIdle = true ↔
    (∀ key s e, ¬ IsArmed key s e x.account) ∧
      ∀ t id e, (t, .started id e) ∈ x.account → (t + e.takes, .ended id e) ∈ x.account)
  /-- The record tells the starts, and the ends without failure, of this account. -/
  record : x.workshop.record = recordOf x.account
  /-- Time passes as far as it is wanted to when the workshop is left alone. -/
  passes : ∀ time budget, 2 * x.workshop.left + 1 ≤ budget → ∃ moves : List Move,
    (∀ m ∈ moves, m.isIdle = true) ∧ (x.follow moves).rests = true ∧
      (x.follow moves).now = max x.now time ∧
      (x.follow moves).workshop = Workshop.machine.passTo budget time x.workshop

/-! ## Timers -/

namespace Scheduler

variable {K W : Type} [DecidableEq K]

theorem mem_pending_iff {s : Scheduler K W} (h : s.keys.Nodup) {key : K} {work : W} :
    (key, work) ∈ s.pending ↔ s.work? key = some work := by
  refine ⟨fun hmem => ?_, mem_pending_of_work?⟩
  cases hwork : s.work? key with
  | none => exact absurd (List.mem_map_of_mem hmem) (work?_eq_none.mp hwork)
  | some other =>
    have heq := List.inj_on_of_nodup_map h hmem (mem_pending_of_work? hwork) rfl
    rw [(Prod.mk.inj heq).2]

end Scheduler

namespace IsFaithful

theorem work?_eq_some_iff (h : IsFaithful window x) :
    x.workshop.scheduler.work? key = some e ↔ ∃ s, IsArmed key s e x.account := by
  rw [h.timed.work, Option.map_eq_some_iff]
  constructor
  · rintro ⟨⟨due, e'⟩, htimer, rfl⟩
    obtain ⟨s, harmed, -⟩ := timer?_eq_some_iff.mp htimer
    exact ⟨s, harmed⟩
  · rintro ⟨s, harmed⟩
    exact ⟨(s + window, e), timer?_eq_some_iff.mpr ⟨s, harmed, rfl⟩, rfl⟩

theorem mem_timers_iff (h : IsFaithful window x) {due : Nat} :
    (due, key) ∈ x.workshop.board.timers ↔ ∃ s e, IsArmed key s e x.account ∧ due = s + window := by
  rw [h.timed.due, Option.map_eq_some_iff]
  constructor
  · rintro ⟨⟨due, e⟩, htimer, rfl⟩
    obtain ⟨s, harmed, hdue⟩ := timer?_eq_some_iff.mp htimer
    exact ⟨s, e, harmed, hdue⟩
  · rintro ⟨s, e, harmed, rfl⟩
    exact ⟨(s + window, e), timer?_eq_some_iff.mpr ⟨s, harmed, rfl⟩, rfl⟩

theorem isPending_iff (h : IsFaithful window x) :
    x.workshop.scheduler.isPending key = true ↔ ∃ s e, IsArmed key s e x.account := by
  rw [Scheduler.isPending, Option.isSome_iff_exists]
  simp only [h.work?_eq_some_iff]
  exact exists_comm

/-- An armed timer is not overdue, and when nothing is to be done it is still to come. -/
theorem ahead (h : IsFaithful window x) (harmed : IsArmed key s e x.account) :
    x.now ≤ s + window ∧ (x.rests = true → x.now < s + window) := by
  have hmem := h.mem_timers_iff.mpr ⟨s, e, harmed, rfl⟩
  refine ⟨Board.now_le_of_mem_timers h.manned.tidy hmem, fun hrests => ?_⟩
  have hlater := (Turn.Agenda.of_next?_eq_none h.manned.tidy (Watched.next?_of_rests hrests)).2.2
  exact hlater _ (Board.mem_timers.mp hmem)

/-- A timer that nothing is done about goes off, and no other. -/
theorem pending (h : IsFaithful window x) {y : Watched} (hy : IsFaithful window y) {new : Account}
    (hnew : y.account = x.account ++ new) (hquiet : ∀ z ∈ new, z.2.disturbs key = false)
    (hrests : y.rests = true) (hnow : x.now + window ≤ y.now) :
    x.workshop.scheduler.isPending key = true ↔ ∃ t id e, (t, .fired id key e) ∈ new := by
  rw [h.isPending_iff]
  constructor
  · rintro ⟨s, e, before, quiet, hsplit, hsilent⟩
    have hs : s ≤ x.now := h.timed.past (s, .scheduled key e) (by simp [hsplit])
    have hafter : y.account = before ++ (s, .scheduled key e) :: (quiet ++ new) := by
      simp [hnew, hsplit]
    obtain hstill | ⟨quiet', z, rest, hnew', hquiet', htouch⟩ := isQuiet_or_exists key new
    · -- nothing has changed about it, so it is still to come
      have harmed : IsArmed key s e y.account :=
        ⟨before, quiet ++ new, hafter, fun z hz =>
          (List.mem_append.mp hz).elim (hsilent z) (hstill z)⟩
      have hlate := (hy.ahead harmed).2 hrests
      omega
    · have hz : z ∈ new := by simp [hnew']
      obtain ⟨id, e', hfired⟩ := Incident.exists_fired htouch (hquiet z hz)
      exact ⟨z.1, id, e', by rw [← hfired]; exact hz⟩
  · rintro ⟨t, id, e, hfired⟩
    obtain ⟨quiet, rest, hsplit⟩ := List.append_of_mem hfired
    have hat : y.account = (x.account ++ quiet) ++ (t, .fired id key e) :: rest := by
      simp [hnew, hsplit]
    have harmed := (hy.timed.timely _ t _ rest hat).fires id key e rfl
    cases htimer : timer? window key x.account with
    | some timer =>
      obtain ⟨s, hs, -⟩ := timer?_eq_some_iff.mp htimer
      exact ⟨s, timer.2, hs⟩
    | none =>
      have hnone : timer? window key (x.account ++ quiet) = none := by
        refine timer?_append_of_none htimer fun z hz e' heq => ?_
        have hnot := hquiet z (by simp [hsplit, hz])
        simp [heq, Incident.disturbs] at hnot
      rw [hnone] at harmed
      cases harmed

end IsFaithful

theorem sameTimer_schedule (htidy : w.board.agenda.IsTidy) {other : String} (hne : other ≠ key)
    (e : Errand) : SameTimer other w (w.schedule key e) where
  work := by rw [w.scheduler_schedule, Scheduler.work?_schedule, if_neg hne]
  due due := by
    rw [w.board_schedule, Board.timers_arm (Turn.Agenda.isTidy_disarm htidy _), Turn.mem_insertDue,
      Board.timers_disarm, List.mem_filter]
    simp [hne]

theorem sameTimer_cancel (w : Workshop) {other : String} (hne : other ≠ key) :
    SameTimer other w (w.cancel key).2 where
  work := w.scheduler.work?_drop_of_ne hne
  due due := by
    have htimers : (w.cancel key).2.board.timers = _ := Board.timers_disarm w.board key
    rw [htimers, List.mem_filter]
    simp [hne]

/-! ## Errands -/

theorem mem_story {τ : Account} {y : Nat × Incident} (hy : y.2.number? = some id) :
    y ∈ story id τ ↔ y ∈ τ := by
  simp [story, hy]

/-- When nothing is to be done, an errand that has not left is asleep. -/
theorem IsFaithful.underway (h : IsFaithful window x) (hrests : x.rests = true) (id : Nat) :
    story id x.account = [] ∨
    ∃ t key e, (story id x.account = (course id t key e).take 2 ∧ x.now < t + e.takes) ∨
      story id x.account = course id t key e := by
  have hrest := Watched.next?_of_rests hrests
  have hline := Board.line_of_rest hrest
  have hlater := (Turn.Agenda.of_next?_eq_none h.manned.tidy hrest).2.2
  have hstands := h.stands id
  generalize story id x.account = σ at hstands ⊢
  cases hstands with
  | unknown hid => exact .inl rfl
  | waiting t key e hphase hmem => simp [hline] at hmem
  | asleep t key e hphase hdue => exact .inr ⟨t, key, e, .inl ⟨rfl, hlater _ hdue⟩⟩
  | ending t key e hphase hmem => simp [hline] at hmem
  | finished t key e failure hphase hjob => cases Board.isAlarm_of_rest h.manned.tidy hrest hjob
  | left t key e hphase hid => exact .inr ⟨t, key, e, .inr rfl⟩

theorem IsFaithful.order_at_rest (h : IsFaithful window x) (hrests : x.rests = true) :
    starts x.account = fires x.account := by
  have hline := Board.line_of_rest (Watched.next?_of_rests hrests)
  have horder := h.order
  rw [IsInOrder, upcoming, hline, List.filterMap_nil, List.append_nil] at horder
  exact horder.symm

theorem Watched.act_untouched (x : Watched) {m : Move} (hm : m.isIdle = false) :
    (x.act m).workshop.running = x.workshop.running ∧
      ∀ id, Board.Spares id x.workshop.board (x.act m).workshop.board := by
  cases m with
  | schedule key e =>
    refine ⟨?_, fun id => spares_hand id _ (some (key, e))⟩
    have hsame := x.workshop.activities_hand (some (key, e))
    exact congrArg (List.filter fun a => a.role == Hand.errand) hsame
  | cancel key => exact ⟨rfl, fun id => .disarm id _ key⟩
  | cancelAll =>
    refine ⟨?_, fun id => .disarmAll id x.workshop.scheduler.keys _⟩
    have hsame := Board.activities_disarmAll x.workshop.scheduler.keys x.workshop.board
    exact congrArg (List.filter fun a => a.role == Hand.errand) hsame
  | job => cases hm
  | wait time => cases hm

/-! ## Idleness -/

namespace IsFaithful

/-- The errands under way are the activities of the board. -/
theorem isIdle_iff (h : IsFaithful window x) :
    x.workshop.isIdle = true ↔
      (∀ key s e, ¬ IsArmed key s e x.account) ∧ ∀ id, x.workshop.board.phase? id = none := by
  have hpending : x.workshop.scheduler.pending.isEmpty = true ↔
      ∀ key s e, ¬ IsArmed key s e x.account := by
    rw [List.isEmpty_iff, List.eq_nil_iff_forall_not_mem]
    simp only [Prod.forall, Scheduler.mem_pending_iff h.timed.keys, h.work?_eq_some_iff, not_exists]
    exact forall_congr' fun key => forall_comm
  have hrunning : x.workshop.running.isEmpty = true ↔
      ∀ id, x.workshop.board.phase? id = none := by
    rw [List.isEmpty_iff, Workshop.running, Board.withRole, List.filter_eq_nil_iff]
    constructor
    · intro hnone id
      refine Option.eq_none_iff_forall_ne_some.mpr fun p hp => ?_
      obtain ⟨a, ha, -, -⟩ := Board.exists_of_phase? hp
      exact hnone a ha (by simp [(h.manned.errands a ha).1])
    · intro hnone a ha
      have hphase := h.manned.sound.phase?_of_mem ha
      rw [hnone] at hphase
      cases hphase
  rw [Workshop.isIdle, Bool.and_eq_true, hpending, hrunning]

/-- An errand is not under way if, in case it has fired, its end has been noticed. -/
theorem phase?_eq_none_iff (h : IsFaithful window x) (id : Nat) :
    x.workshop.board.phase? id = none ↔
      ∀ t key e, (t, .fired id key e) ∈ x.account → (t + e.takes, .left id) ∈ x.account := by
  have hmem {y : Nat × Incident} (hy : y.2.number? = some id) := mem_story (τ := x.account) hy
  simp only [← hmem (y := (_, .fired id _ _)) rfl, ← hmem (y := (_, .left id)) rfl]
  have hstands := h.stands id
  generalize story id x.account = σ at hstands ⊢
  cases hstands with
  | unknown hid =>
    refine iff_of_true (Option.eq_none_iff_forall_ne_some.mpr fun p hp => ?_) (by simp)
    exact absurd (h.manned.lt_nextId hp) (Nat.not_lt.mpr hid)
  | waiting t key e hphase | asleep t key e hphase | ending t key e hphase
  | finished t key e failure hphase =>
    refine iff_of_false (by simp [hphase]) fun hall => ?_
    have hnot := hall t key e (by simp [course])
    simp [course] at hnot
  | left t key e hphase =>
    refine iff_of_true hphase fun t' key' e' hmem => ?_
    obtain ⟨rfl, rfl, rfl⟩ : t' = t ∧ key' = key ∧ e' = e := by simpa [course] using hmem
    simp [course]

theorem idle (h : IsFaithful window x) :
    x.workshop.isIdle = true ↔ (∀ key s e, ¬ IsArmed key s e x.account) ∧
      ∀ t id key e, (t, .fired id key e) ∈ x.account → (t + e.takes, .left id) ∈ x.account := by
  rw [h.isIdle_iff]
  refine and_congr_right fun _ => ?_
  simp only [h.phase?_eq_none_iff]
  exact forall_comm

/-- When nothing is to be done, the end of each errand that has ended has been noticed. -/
theorem idle_at_rest (h : IsFaithful window x) (hrests : x.rests = true) :
    x.workshop.isIdle = true ↔ (∀ key s e, ¬ IsArmed key s e x.account) ∧
      ∀ t id e, (t, .started id e) ∈ x.account → (t + e.takes, .ended id e) ∈ x.account := by
  have hone (id : Nat) :
      (∀ t key e, (t, .fired id key e) ∈ x.account → (t + e.takes, .left id) ∈ x.account) ↔
        ∀ t e, (t, .started id e) ∈ x.account → (t + e.takes, .ended id e) ∈ x.account := by
    have hmem {y : Nat × Incident} (hy : y.2.number? = some id) := mem_story (τ := x.account) hy
    simp only [← hmem (y := (_, .fired id _ _)) rfl, ← hmem (y := (_, .started id _)) rfl,
      ← hmem (y := (_, .ended id _)) rfl, ← hmem (y := (_, .left id)) rfl]
    obtain hnil | ⟨t, key, e, ⟨hasleep, -⟩ | hover⟩ := h.underway hrests id
    · simp [hnil]
    · -- it has started and not ended, so neither is so
      rw [hasleep]
      refine iff_of_false (fun hall => ?_) fun hall => ?_
      · have hnot := hall t key e (by simp [course])
        simp [course] at hnot
      · have hnot := hall t e (by simp [course])
        simp [course] at hnot
    · rw [hover]
      refine iff_of_true (fun t' key' e' hfired => ?_) fun t' e' hstarted => ?_
      · obtain ⟨rfl, -, rfl⟩ : t' = t ∧ key' = key ∧ e' = e := by simpa [course] using hfired
        simp [course]
      · obtain ⟨rfl, rfl⟩ : t' = t ∧ e' = e := by simpa [course] using hstarted
        simp [course]
  rw [h.idle]
  refine and_congr_right fun _ => ⟨fun hall t id e => ?_, fun hall t id key e => ?_⟩
  · exact (hone id).mp (fun t key e => hall t id key e) t e
  · exact (hone id).mpr (fun t e => hall t id e) t key e

end IsFaithful

/-- Whatever is done with a workshop, it keeps the law. -/
theorem coalescing_law (window : Nat) (moves : List Move) :
    Coalesces window ((Watched.opened window).follow moves) := by
  have h := (IsFaithful.opened window).follow moves
  generalize (Watched.opened window).follow moves = x at h
  refine
    { fate := fun before s key e after hsplit => ⟨h.timed.timely.fate hsplit, fun hquiet =>
        h.ahead ⟨before, after, hsplit, hquiet⟩⟩
      origin := fun before t id key e after hsplit => h.timed.timely.isArmed_of_fired hsplit
      order := ⟨⟨_, h.order.symm⟩, h.order_at_rest⟩
      courses := fun id => (h.stands id).isPrefix
      underway := h.underway
      untouched := fun m hm => x.act_untouched hm
      apart := fun key other hne =>
        ⟨sameTimer_schedule h.manned.tidy hne, sameTimer_cancel x.workshop hne⟩
      table := ⟨h.timed.keys, fun key e =>
        (Scheduler.mem_pending_iff h.timed.keys).trans h.work?_eq_some_iff⟩
      timers := ⟨h.timed.distinct, fun key due => h.mem_timers_iff⟩
      pending := fun key moves new hnew hquiet hrests hnow =>
        h.pending (h.follow moves) hnew hquiet hrests hnow
      cancel := fun key => h.isPending_iff
      idle := h.idle
      idleAtRest := h.idle_at_rest
      record := h.record
      passes := fun time budget hbudget => ?_ }
  obtain ⟨⟨moves, hidle, hw⟩, hrest, hnow⟩ := h.passTo time hbudget
  refine ⟨moves, hidle, ?_, ?_, hw⟩
  · exact Watched.rests_of_step (hw ▸ hrest)
  · rw [Watched.now, hw]
    exact hnow

-- an errand is replaced before it fires, and the one that takes its place runs once
example : ((Watched.opened 10).follow [.schedule "input" (.mk "a" 0 "" none), .wait 5,
    .schedule "input" (.mk "ab" 3 "" none), .wait 15, .job, .job, .cancelAll, .wait 18, .job,
    .job]).workshop.record = [⟨"ab", false, 15⟩, ⟨"ab", true, 18⟩] := by decide

end Workbench.Coalescing
