import Workbench.Proofs.Coalescing.Watch
import Workbench.Proofs.Turn.Spare

/-!
# The course of an errand

An errand whose timer has fired starts at that very time, ends when it has taken its time, and then
its end is noticed: each of these once, in this order. What has happened to it so far tells how it
stands with it on the board. Errands start in the order in which their timers have fired.
-/
namespace Workbench.Coalescing

open Turn (Activity Board Job Phase)

/-- All that happens to an errand whose timer fires at this time. -/
def course (id t : Nat) (key : String) (e : Errand) : Account :=
  [(t, .fired id key e), (t, .started id e), (t + e.takes, .ended id e), (t + e.takes, .left id)]

/-- What has happened to an errand. -/
def story (id : Nat) (τ : Account) : Account := τ.filter (·.2.number? = some id)

theorem story_append (id : Nat) (τ σ : Account) : story id (τ ++ σ) = story id τ ++ story id σ :=
  List.filter_append ..

/-- How it stands on a board with an errand to which this has happened. -/
inductive Stands (b : Board Hand Stage String) (id : Nat) : Account → Prop
  | unknown (h : b.nextId ≤ id) : Stands b id []
  | waiting (t : Nat) (key : String) (e : Errand) (h : b.phase? id = some (.ready (.start e)))
    (hline : id ∈ b.line) (hnow : t = b.now) : Stands b id ((course id t key e).take 1)
  | asleep (t : Nat) (key : String) (e : Errand) (h : b.phase? id = some (.asleep (.conclude e)))
    (hdue : (t + e.takes, .wake id) ∈ b.agenda.later) : Stands b id ((course id t key e).take 2)
  | ending (t : Nat) (key : String) (e : Errand) (h : b.phase? id = some (.ready (.conclude e)))
    (hline : id ∈ b.line) (hnow : t + e.takes = b.now) : Stands b id ((course id t key e).take 2)
  | finished (t : Nat) (key : String) (e : Errand) (failure : Option Failure)
    (h : b.phase? id = some (.over failure)) (hjob : .ended id ∈ b.jobs)
    (hnow : t + e.takes = b.now) : Stands b id ((course id t key e).take 3)
  | left (t : Nat) (key : String) (e : Errand) (h : b.phase? id = none) (hid : id < b.nextId) :
    Stands b id (course id t key e)

namespace Stands

variable {b c : Board Hand Stage String} {id : Nat} {σ : Account} {e : Errand}

theorem spared (h : Stands b id σ) (hc : Board.Spares id b c) : Stands c id σ := by
  cases h with
  | unknown h => exact .unknown (hc.nextId.mpr h)
  | waiting t key e h hline hnow =>
    exact .waiting t key e (hc.phase.trans h) (hc.line hline) (hnow.trans hc.now.symm)
  | asleep t key e h hdue => exact .asleep t key e (hc.phase.trans h) (hc.wake _ hdue)
  | ending t key e h hline hnow =>
    exact .ending t key e (hc.phase.trans h) (hc.line hline) (hnow.trans hc.now.symm)
  | finished t key e failure h hjob hnow =>
    exact .finished t key e failure (hc.phase.trans h) (hc.ended hjob) (hnow.trans hc.now.symm)
  | left t key e h hid =>
    exact .left t key e (hc.phase.trans h) (Nat.not_le.mp (hc.nextId.not.mpr (Nat.not_le.mpr hid)))

/-! ## What has happened to an errand in some phase -/

theorem of_start (h : Stands b id σ) (hphase : b.phase? id = some (.ready (.start e)))
    (hid : id < b.nextId) : ∃ key, σ = (course id b.now key e).take 1 := by
  cases h with
  | unknown h => exact absurd hid (Nat.not_lt.mpr h)
  | waiting t key e' h hline hnow =>
    cases h.symm.trans hphase
    exact ⟨key, by rw [hnow]⟩
  | asleep t key e' h | ending t key e' h | finished t key e' failure h | left t key e' h =>
    cases h.symm.trans hphase

theorem of_asleep (h : Stands b id σ) (hphase : b.phase? id = some (.asleep (.conclude e)))
    (hid : id < b.nextId) :
    ∃ t key, σ = (course id t key e).take 2 ∧ (t + e.takes, .wake id) ∈ b.agenda.later := by
  cases h with
  | unknown h => exact absurd hid (Nat.not_lt.mpr h)
  | asleep t key e' h hdue =>
    cases h.symm.trans hphase
    exact ⟨t, key, rfl, hdue⟩
  | waiting t key e' h | ending t key e' h | finished t key e' failure h | left t key e' h =>
    cases h.symm.trans hphase

theorem of_conclude (h : Stands b id σ) (hphase : b.phase? id = some (.ready (.conclude e)))
    (hid : id < b.nextId) :
    ∃ t key, σ = (course id t key e).take 2 ∧ t + e.takes = b.now := by
  cases h with
  | unknown h => exact absurd hid (Nat.not_lt.mpr h)
  | ending t key e' h hline hnow =>
    cases h.symm.trans hphase
    exact ⟨t, key, rfl, hnow⟩
  | waiting t key e' h | asleep t key e' h | finished t key e' failure h | left t key e' h =>
    cases h.symm.trans hphase

theorem of_over (h : Stands b id σ) {failure : Option Failure}
    (hphase : b.phase? id = some (.over failure)) (hid : id < b.nextId) :
    ∃ t key e, σ = (course id t key e).take 3 ∧ t + e.takes = b.now := by
  cases h with
  | unknown h => exact absurd hid (Nat.not_lt.mpr h)
  | finished t key e' failure h hjob hnow => exact ⟨t, key, e', rfl, hnow⟩
  | waiting t key e' h | asleep t key e' h | ending t key e' h | left t key e' h =>
    cases h.symm.trans hphase

/-- Nothing has happened to an errand with a number that has not been given out. -/
theorem of_nextId (h : Stands b b.nextId σ) (hphase : b.phase? b.nextId = none) : σ = [] := by
  cases h with
  | unknown h => rfl
  | waiting t key e h | asleep t key e h | ending t key e h | finished t key e failure h =>
    cases h.symm.trans hphase
  | left t key e h hid => exact absurd hid (Nat.lt_irrefl _)

theorem of_absent (h : Stands b id σ) (hb : b.phase? id = none) (hc : c.phase? id = none)
    (hnextId : c.nextId = b.nextId) : Stands c id σ := by
  cases h with
  | unknown h => exact .unknown (hnextId ▸ h)
  | left t key e h hid => exact .left t key e hc (hnextId ▸ hid)
  | waiting t key e h | asleep t key e h | ending t key e h | finished t key e failure h =>
    cases hb.symm.trans h

/-- Whatever has happened to an errand is the beginning of its course. -/
theorem isPrefix (h : Stands b id σ) : ∃ t key e, σ <+: course id t key e := by
  cases h with
  | unknown h => exact ⟨0, "", default, List.nil_prefix⟩
  | waiting t key e => exact ⟨t, key, e, List.take_prefix ..⟩
  | asleep t key e => exact ⟨t, key, e, List.take_prefix ..⟩
  | ending t key e => exact ⟨t, key, e, List.take_prefix ..⟩
  | finished t key e => exact ⟨t, key, e, List.take_prefix ..⟩
  | left t key e => exact ⟨t, key, e, List.prefix_rfl⟩

end Stands

/-! ## What an errand goes through -/

variable {w v : Workshop} {j : Job String} {new : List Incident} {b : Board Hand Stage String}
  {τ σ : Account} {id i : Nat} {e : Errand}

theorem IsManned.lt_nextId (h : IsManned b) {p : Phase Stage} (hphase : b.phase? id = some p) :
    id < b.nextId := by
  obtain ⟨role, hmem⟩ := Board.IsSound.task_of_phase? hphase
  exact h.sound.lt_nextId _ hmem

theorem wake_of_asleep {s : Stage} (hphase : b.phase? id = some (.asleep s)) :
    b.wake id = (b.setPhase id (.ready s)).queue (.run id) := by
  unfold Board.wake
  rw [hphase]

/-- It has got its number, and is to start. -/
theorem stands_spawn (h : IsManned b) (key : String) (e : Errand) :
    Stands (b.spawn .errand (.start e)) b.nextId ((course b.nextId b.now key e).take 1) := by
  refine .waiting b.now key e (h.sound.phase?_spawn_self _ _) ?_ rfl
  rw [Board.line_spawn]
  exact List.mem_append_right _ (List.mem_singleton.mpr rfl)

/-- It has started, and takes its time. -/
theorem stands_sleep {p : Phase Stage} (hphase : b.phase? id = some p) (key : String) (e : Errand) :
    Stands (b.sleep id e.takes (.conclude e)) id ((course id b.now key e).take 2) := by
  have hlater : (b.sleep id e.takes (.conclude e)).agenda.later = _ :=
    Turn.Agenda.later_arm b.agenda e.takes (.wake id)
  refine .asleep b.now key e (Board.phase?_setPhase_self hphase _) ?_
  rw [hlater, Turn.mem_insertDue]
  exact .inl rfl

/-- It wakes when it has taken its time, for this is the only time that it is to wake. -/
theorem stands_wake (h : Stands w.board id σ) (hw : IsManned w.board)
    (hnext : w.board.next? = some (.wake id, b)) (hphase : b.phase? id = some (.asleep (.conclude e))) :
    Stands (b.wake id) id σ := by
  obtain ⟨hb, -, hfree⟩ := hw.next hnext
  have hphase' := (Board.phase?_of_activities (Board.activities_of_next? hnext) id).symm.trans hphase
  obtain ⟨t, key, rfl, hdue⟩ := h.of_asleep hphase' (hw.lt_nextId hphase')
  obtain ⟨⟨k, a⟩, ha, heq⟩ := Option.map_eq_some_iff.mp hnext
  cases heq
  obtain ⟨hlater, -, hnow⟩ := Turn.Agenda.later_of_next? hw.tidy ha
  rw [hlater] at hdue
  rw [wake_of_asleep hphase]
  refine .ending t key e (Board.phase?_setPhase_self hphase _) ?_ ?_
  · rw [Board.line_queue]
    exact List.mem_append_right _ (List.mem_singleton.mpr rfl)
  · obtain hdue | hdue := List.mem_append.mp hdue
    · exact (congrArg Prod.fst (List.mem_singleton.mp hdue)).trans hnow.symm
    · have hmem := Board.mem_jobs_of_mem_outlook (b := { w.board with agenda := a })
        (List.mem_append_right _ hdue)
      exact absurd (Board.mem_goers hmem rfl) (hfree id rfl)

theorem spares_hand (i : Nat) (w : Workshop) (next? : Option (String × Errand)) :
    Board.Spares i w.board (w.hand next?).board := by
  cases next? with
  | none => exact .refl i _
  | some next =>
    change Board.Spares i w.board (w.schedule next.1 next.2).board
    rw [w.board_schedule]
    exact (Board.Spares.disarm i _ _).trans (.arm i _ _ _)

/-- It ends when it has taken its time. -/
theorem stands_conclude {p : Phase Stage} (hphase : w.board.phase? id = some p) {t : Nat}
    (key : String) (hnow : t + e.takes = w.board.now) :
    Stands (w.conclude id e).board id ((course id t key e).take 3) := by
  have hspared := spares_hand id w e.next?
  rw [w.conclude_eq]
  refine .finished t key e e.failure? ?_ ?_ ?_
  · refine (Board.phase?_of_activities (Board.activities_queueAll _ _) id).trans ?_
    exact Board.phase?_setPhase_self (hspared.phase.trans hphase) _
  · exact (Board.sublist_queueAll_self _ _).subset List.mem_cons_self
  · rw [hnow, ← hspared.now]
    exact (Board.now_finish _ _ _).symm

/-- It starts, and ends at once if it takes no time. -/
theorem stands_start {p : Phase Stage} (hphase : w.board.phase? id = some p) (key : String)
    (e : Errand) :
    Stands (w.start id e).board id ((course id w.board.now key e).take 1 ++
      (w.board.now, .started id e) ::
        if e.takes = 0 then [(w.board.now, .ended id e)] else []) := by
  rw [Workshop.start_eq]
  dsimp only
  split
  case isTrue htakes =>
    have hstands := stands_conclude (w := w.enter e.label false) (e := e) (t := w.board.now) hphase key
      (by rw [htakes]; rfl)
    have hcourse : (course id w.board.now key e).take 3 = (course id w.board.now key e).take 1 ++
        [(w.board.now, .started id e), (w.board.now, .ended id e)] := by simp [course, htakes]
    rwa [hcourse] at hstands
  case isFalse => exact stands_sleep hphase key e

/-- Its end has been noticed, and it leaves. -/
theorem stands_remove (hid : id < b.nextId) (t : Nat) (key : String) (e : Errand) :
    Stands (b.remove id) id (course id t key e) :=
  .left t key e (Board.phase?_remove_self b id) hid

/-! ## What a job does to the errands -/

theorem story_endings (id i t : Nat) (e : Errand) :
    story i ((e.endings id).map (t, ·)) = if id = i then [(t, .ended id e)] else [] := by
  unfold Errand.endings story
  cases e.next? <;> by_cases hid : id = i <;> simp [Incident.number?, hid]

theorem story_startings (id i t : Nat) (e : Errand) :
    story i ((e.startings id).map (t, ·)) =
      if id = i then (t, .started id e) :: (if e.takes = 0 then [(t, .ended id e)] else [])
      else [] := by
  have hrest := story_endings id i t e
  unfold Errand.startings
  rw [List.map_cons, ← List.singleton_append, story_append]
  split <;> by_cases hid : id = i <;> simp_all [story, Incident.number?]

theorem spares_conclude (hne : i ≠ id) (w : Workshop) (e : Errand) :
    Board.Spares i w.board (w.conclude id e).board := by
  rw [w.conclude_eq]
  exact (spares_hand i w e.next?).trans (.finish hne _)

/-- A job is about one errand; nothing happens to the others. -/
theorem Does.spares (h : Does w j new v) (hj : j.about? ≠ some i)
    (hi : ∀ key, j = .fire key → i ≠ w.board.nextId) (t : Nat) :
    Board.Spares i w.board v.board ∧ story i (new.map (t, ·)) = [] := by
  cases h with
  | @start id e hphase =>
    have hne : i ≠ id := fun heq => hj (congrArg some heq.symm)
    rw [story_startings, if_neg (Ne.symm hne), w.start_eq]
    refine ⟨?_, rfl⟩
    dsimp only
    split
    · exact spares_conclude hne (w.enter e.label false) e
    · exact .sleep hne _ _
  | @conclude id e hphase =>
    have hne : i ≠ id := fun heq => hj (congrArg some heq.symm)
    rw [story_endings, if_neg (Ne.symm hne)]
    exact ⟨spares_conclude hne w e, rfl⟩
  | @wake id e hphase => exact ⟨.wake_other fun heq => hj (congrArg some heq.symm), rfl⟩
  | @leave id a failure hfind hover =>
    have hid : a.id = id := by simpa using List.find?_some hfind
    have hne : i ≠ id := fun heq => hj (congrArg some heq.symm)
    rw [(w.leave_eq a).2.1, hid]
    exact ⟨.remove hne, by simp [story, Incident.number?, Ne.symm hne]⟩
  | @fire key e hwork =>
    have hne := hi key rfl
    exact ⟨.spawn hne _ _, by simp [story, Incident.number?, Ne.symm hne]⟩
  | count id => exact ⟨.refl i _, rfl⟩
  | absent hnone => exact ⟨.refl i _, rfl⟩
  | idle hnone => exact ⟨.refl i _, rfl⟩

/-- How it stands with each errand is as the account tells. -/
def IsOnCourse (b : Board Hand Stage String) (τ : Account) : Prop := ∀ id, Stands b id (story id τ)

namespace IsOnCourse

theorem opened (window : Nat) : IsOnCourse (Watched.opened window).workshop.board [] :=
  fun id => .unknown (Nat.zero_le id)

/-- Something happens that is about no errand under way. -/
theorem tell (h : IsOnCourse w.board τ) (hspares : ∀ i, Board.Spares i w.board v.board)
    {x : Nat × Incident} (hx : x.2.number? = none) : IsOnCourse v.board (τ ++ [x]) := by
  intro i
  have hnone : story i [x] = [] := by simp [story, hx]
  rw [story_append, hnone, List.append_nil]
  exact (h i).spared (hspares i)

/-- Time passes only when errands have nothing left to do but to wake later. -/
theorem moveTo (h : IsOnCourse b τ) (htidy : b.agenda.IsTidy) (hrest : b.agenda.next? = none)
    (time : Nat) : IsOnCourse (b.moveTo time) τ := by
  intro i
  obtain ⟨hturn, -, -⟩ := Turn.Agenda.of_next?_eq_none htidy hrest
  have hline : i ∉ b.line := by simp [Board.line_of_rest hrest]
  have hi := h i
  generalize story i τ = σ at hi ⊢
  cases hi with
  | unknown hi => exact .unknown hi
  | waiting t key e hphase hmem => exact absurd hmem hline
  | asleep t key e hphase hdue =>
    refine .asleep t key e hphase ?_
    have hlater : (b.moveTo time).agenda.later = _ := Turn.Agenda.later_moveTo hturn time
    rwa [hlater]
  | ending t key e hphase hmem => exact absurd hmem hline
  | finished t key e failure hphase hjob =>
    -- its end is no alarm, so it cannot be left undone
    cases Board.isAlarm_of_rest htidy hrest hjob
  | left t key e hphase hid => exact .left t key e hphase hid

theorem does (h : IsOnCourse w.board τ) (hw : IsManned w.board) (hnext : w.board.next? = some (j, b))
    (hdoes : Does { w with board := b } j new v) :
    IsOnCourse v.board (τ ++ new.map (w.board.now, ·)) := by
  have hb := (hw.next hnext).1
  have hnow : b.now = w.board.now := (Board.outlook_of_next? hw.tidy hnext).2.2
  have hphases := Board.phase?_of_activities (Board.activities_of_next? hnext)
  intro i
  rw [story_append]
  by_cases hother : j.about? ≠ some i ∧ ∀ key, j = .fire key → i ≠ b.nextId
  · obtain ⟨hspares, hnone⟩ := hdoes.spares hother.1 hother.2 w.board.now
    rw [hnone, List.append_nil]
    exact (h i).spared ((Board.Spares.next hw.tidy hnext hother.1).trans hspares)
  · cases hdoes with
    | @start id e hphase =>
      obtain rfl : id = i := by simpa [Job.about?] using hother
      have hphase' := (hphases id).symm.trans hphase
      obtain ⟨key, hσ⟩ := (h id).of_start hphase' (hw.lt_nextId hphase')
      rw [hσ, story_startings, if_pos rfl, ← hnow]
      exact stands_start (w := { w with board := b }) hphase key e
    | @conclude id e hphase =>
      obtain rfl : id = i := by simpa [Job.about?] using hother
      have hphase' := (hphases id).symm.trans hphase
      obtain ⟨t, key, hσ, htakes⟩ := (h id).of_conclude hphase' (hw.lt_nextId hphase')
      rw [hσ, story_endings, if_pos rfl, ← htakes]
      exact stands_conclude (w := { w with board := b }) hphase key (htakes.trans hnow.symm)
    | @wake id e hphase =>
      obtain rfl : id = i := by simpa [Job.about?] using hother
      have hnone : story id (List.map (w.board.now, ·) []) = [] := rfl
      rw [hnone, List.append_nil]
      exact stands_wake (h id) hw hnext hphase
    | @leave id a failure hfind hover =>
      obtain rfl : id = i := by simpa [Job.about?] using hother
      have hid : a.id = id := by simpa using List.find?_some hfind
      have hphase' : w.board.phase? id = some (.over failure) := by
        rw [← hphases id]
        simp [Board.phase?, hfind, hover]
      obtain ⟨t, key, e, hσ, htakes⟩ := (h id).of_over hphase' (hw.lt_nextId hphase')
      have hleft : story id ([Incident.left id].map (w.board.now, ·)) =
          [(t + e.takes, .left id)] := by
        simp [story, Incident.number?, htakes]
      rw [hσ, hleft, (Workshop.leave_eq _ a).2.1, hid]
      exact stands_remove (b := b) ((hb.lt_nextId ((hphases id).trans hphase'))) t key e
    | @fire key e hwork =>
      obtain rfl : i = b.nextId := by simpa [Job.about?] using hother
      have hsame : b.nextId = w.board.nextId := (Board.retimed_of_next? hnext).nextId
      have hnil : story b.nextId τ = [] := by
        have hi := h b.nextId
        rw [hsame] at hi ⊢
        exact hi.of_nextId hw.sound.phase?_nextId
      have hfired : story b.nextId ([Incident.fired b.nextId key e].map (w.board.now, ·)) =
          [(b.now, .fired b.nextId key e)] := by
        simp [story, Incident.number?, hnow]
      rw [hnil, hfired]
      exact stands_spawn hb key e
    | count id => simp [Job.about?] at hother
    | @absent id hnone =>
      obtain rfl : id = i := by simpa [Job.about?] using hother
      have hb' : b.phase? id = none := by simp [Board.phase?, hnone]
      have hnil : story id (List.map (w.board.now, ·) []) = [] := rfl
      rw [hnil, List.append_nil]
      exact (h id).of_absent ((hphases id).symm.trans hb') hb' (Board.retimed_of_next? hnext).nextId
    | @idle key hnone =>
      have hnil : story i (List.map (w.board.now, ·) []) = [] := rfl
      rw [hnil, List.append_nil]
      exact (h i).spared (.next hw.tidy hnext (by simp [Job.about?]))

end IsOnCourse

/-! ## The order in which errands start -/

/-- The errand that fires by an incident, with its number. -/
def Incident.fired? : Incident → Option (Nat × Errand)
  | .fired id _ e => some (id, e)
  | _ => none

/-- The errand that starts by an incident, with its number. -/
def Incident.started? : Incident → Option (Nat × Errand)
  | .started id e => some (id, e)
  | _ => none

/-- The errands whose timers have fired, with the time and their numbers. -/
def fires (τ : Account) : List (Nat × Nat × Errand) := Turn.relabel Incident.fired? τ

/-- The errands that have started, with the time and their numbers. -/
def starts (τ : Account) : List (Nat × Nat × Errand) := Turn.relabel Incident.started? τ

/-- The errand that an activity in this phase is to start. -/
def toStart? : Phase Stage → Option Errand
  | .ready (.start e) => some e
  | _ => none

/-- The errand that an activity is to start, with the time and its number. -/
def toStartNow? (b : Board Hand Stage String) (id : Nat) : Option (Nat × Nat × Errand) :=
  ((b.phase? id).bind toStart?).map (b.now, id, ·)

/-- The errands that are to start now, first to last. -/
def upcoming (b : Board Hand Stage String) : List (Nat × Nat × Errand) :=
  b.line.filterMap (toStartNow? b)

theorem upcoming_congr {c : Board Hand Stage String} (hline : c.line = b.line)
    (hnow : c.now = b.now) (hphase : ∀ i ∈ b.line, c.phase? i = b.phase? i) :
    upcoming c = upcoming b := by
  unfold upcoming
  rw [hline]
  refine List.filterMap_congr fun i hi => ?_
  rw [toStartNow?, hphase i hi, hnow, toStartNow?]

theorem mem_goers_of_mem_line (hi : i ∈ b.line) : i ∈ b.goers := by
  obtain ⟨j, hj, hrun⟩ := List.mem_filterMap.mp hi
  cases j with
  | run id =>
    cases hrun
    exact Board.mem_goers (List.mem_append_left _ hj) rfl
  | _ => cases hrun

theorem upcoming_of_next? (hw : IsManned b) {c : Board Hand Stage String}
    (hnext : b.next? = some (j, c)) :
    upcoming b = j.run?.toList.filterMap (toStartNow? c) ++ upcoming c := by
  have hnow := (Board.outlook_of_next? hw.tidy hnext).2.2
  have hsame : toStartNow? b = toStartNow? c := by
    funext i
    rw [toStartNow?, toStartNow?, hnow,
      Board.phase?_of_activities (Board.activities_of_next? hnext) i]
  unfold upcoming
  rw [(Board.line_of_next? hnext hw.tidy.quiet).1, List.filterMap_append, hsame]

theorem upcoming_hand (w : Workshop) (next? : Option (String × Errand)) :
    upcoming (w.hand next?).board = upcoming w.board := by
  cases next? with
  | none => rfl
  | some next =>
    have hsame : Board.SameLine w.board (w.schedule next.1 next.2).board := by
      rw [w.board_schedule]
      exact (Board.sameLine_disarm _ _).trans (Board.sameLine_arm _ _ _)
    refine upcoming_congr hsame.line ?_ fun i _ => Board.phase?_of_activities hsame.activities i
    change (w.schedule next.1 next.2).board.now = _
    rw [w.board_schedule]
    rfl

/-- An errand that ends was not in line. -/
theorem upcoming_conclude (hid : id ∉ w.board.goers) (e : Errand) :
    upcoming (w.conclude id e).board = upcoming w.board := by
  rw [w.conclude_eq]
  refine Eq.trans ?_ (upcoming_hand w e.next?)
  refine upcoming_congr (Board.line_finish ..) (Board.now_finish ..) fun i hi => ?_
  refine Board.phase?_finish _ _ fun heq => hid ?_
  exact w.goers_hand_subset _ (heq ▸ mem_goers_of_mem_line hi)

/-- Nor was one that starts, after it has been taken out. -/
theorem upcoming_start (hid : id ∉ w.board.goers) (e : Errand) :
    upcoming (w.start id e).board = upcoming w.board := by
  rw [Workshop.start_eq]
  dsimp only
  split
  · exact upcoming_conclude (w := w.enter e.label false) hid e
  · refine upcoming_congr (b := w.board) rfl rfl fun i hi => ?_
    exact Board.phase?_setPhase_of_ne w.board _ fun heq => hid (heq ▸ mem_goers_of_mem_line hi)

/-- One that wakes gets into line, but only to end. -/
theorem upcoming_wake (hid : id ∉ b.goers) (hphase : b.phase? id = some (.asleep (.conclude e))) :
    upcoming (b.wake id) = upcoming b := by
  have hline : (b.wake id).line = b.line ++ [id] := by
    rw [wake_of_asleep hphase]
    exact Board.line_queue _ _
  have hself : (b.wake id).phase? id = some (.ready (.conclude e)) := by
    rw [wake_of_asleep hphase]
    exact Board.phase?_setPhase_self hphase _
  have hothers : b.line.filterMap (toStartNow? (b.wake id)) = upcoming b := by
    refine List.filterMap_congr fun i hi => ?_
    have hne : i ≠ id := fun heq => hid (heq ▸ mem_goers_of_mem_line hi)
    have hspared : Board.Spares i b (b.wake id) := .wake_other hne
    rw [toStartNow?, hspared.phase, hspared.now, toStartNow?]
  have hnobody : toStartNow? (b.wake id) id = none := by simp [toStartNow?, hself, toStart?]
  rw [upcoming, hline, List.filterMap_append, hothers]
  simp [hnobody]

/-- One that is over is not in line. -/
theorem upcoming_remove (hb : IsManned b) {failure : Option Failure}
    (hphase : b.phase? id = some (.over failure)) : upcoming (b.remove id) = upcoming b := by
  have hgone : id ∉ b.goers := hb.rostered.not_mem_goers hphase (by simp) (by simp)
  exact upcoming_congr rfl rfl fun i hi => Board.phase?_remove b fun heq =>
    hgone (heq ▸ mem_goers_of_mem_line hi)

/-- A new one is the last in line. -/
theorem upcoming_spawn (hb : IsManned b) (e : Errand) :
    upcoming (b.spawn .errand (.start e)) = upcoming b ++ [(b.now, b.nextId, e)] := by
  have hself := hb.sound.phase?_spawn_self .errand (.start e)
  have hothers : b.line.filterMap (toStartNow? (b.spawn .errand (.start e))) = upcoming b := by
    refine List.filterMap_congr fun i hi => ?_
    have hphase := hb.rostered.phase?_ne_none (mem_goers_of_mem_line hi)
    rw [toStartNow?, Board.phase?_spawn hphase]
    rfl
  rw [upcoming, Board.line_spawn, List.filterMap_append, hothers]
  simp [toStartNow?, hself, toStart?]
  rfl

/-- The errands start in the order in which their timers have fired, and those that are yet to start
are in line. -/
def IsInOrder (b : Board Hand Stage String) (τ : Account) : Prop :=
  fires τ = starts τ ++ upcoming b

theorem fires_endings (id t : Nat) (e : Errand) : fires ((e.endings id).map (t, ·)) = [] := by
  unfold Errand.endings
  cases e.next? <;> rfl

theorem starts_endings (id t : Nat) (e : Errand) : starts ((e.endings id).map (t, ·)) = [] := by
  unfold Errand.endings
  cases e.next? <;> rfl

theorem fires_startings (id t : Nat) (e : Errand) : fires ((e.startings id).map (t, ·)) = [] := by
  unfold Errand.startings
  split
  · exact fires_endings id t e
  · rfl

theorem starts_startings (id t : Nat) (e : Errand) :
    starts ((e.startings id).map (t, ·)) = [(t, id, e)] := by
  unfold Errand.startings
  split
  · exact congrArg ((t, id, e) :: ·) (starts_endings id t e)
  · rfl

namespace IsInOrder

/-- Nothing fires or starts. -/
theorem append (h : IsInOrder b τ) {c : Board Hand Stage String} (hc : upcoming c = upcoming b)
    {new : Account} (hfires : fires new = []) (hstarts : starts new = []) :
    IsInOrder c (τ ++ new) := by
  unfold IsInOrder fires starts at *
  rw [Turn.relabel_append, Turn.relabel_append, hfires, hstarts, List.append_nil, List.append_nil,
    hc]
  exact h

theorem does (h : IsInOrder w.board τ) (hw : IsManned w.board) (hnext : w.board.next? = some (j, b))
    (hdoes : Does { w with board := b } j new v) :
    IsInOrder v.board (τ ++ new.map (w.board.now, ·)) := by
  obtain ⟨hb, -, hfree⟩ := hw.next hnext
  have hnow : b.now = w.board.now := (Board.outlook_of_next? hw.tidy hnext).2.2
  have hupcoming := upcoming_of_next? hw hnext
  cases hdoes with
  | @start id e hphase =>
    have hfirst : upcoming w.board = (w.board.now, id, e) :: upcoming b := by
      rw [hupcoming]
      simp [Job.run?, toStartNow?, hphase, toStart?, hnow]
    have hrest : upcoming (Workshop.start { w with board := b } id e).board = upcoming b :=
      upcoming_start (w := { w with board := b }) (hfree id rfl) e
    have hfires := fires_startings id w.board.now e
    have hstarts := starts_startings id w.board.now e
    unfold IsInOrder fires starts at *
    rw [Turn.relabel_append, Turn.relabel_append, hfires, hstarts, hrest, List.append_nil, h, hfirst]
    simp
  | @conclude id e hphase =>
    have hsame : upcoming w.board = upcoming b := by
      rw [hupcoming]
      simp [Job.run?, toStartNow?, hphase, toStart?]
    refine h.append ?_ (fires_endings ..) (starts_endings ..)
    rw [hsame]
    exact upcoming_conclude (w := { w with board := b }) (hfree id rfl) e
  | @wake id e hphase =>
    refine h.append ?_ rfl rfl
    rw [hupcoming]
    exact upcoming_wake (hfree id rfl) hphase
  | @leave id a failure hfind hover =>
    refine h.append ?_ rfl rfl
    have hid : a.id = id := by simpa using List.find?_some hfind
    have hphase : b.phase? id = some (.over failure) := by simp [Board.phase?, hfind, hover]
    rw [(Workshop.leave_eq _ a).2.1, hid, hupcoming]
    exact upcoming_remove hb hphase
  | @fire key e hwork =>
    have hlast : upcoming (b.spawn .errand (.start e)) =
        upcoming w.board ++ [(w.board.now, b.nextId, e)] := by
      rw [upcoming_spawn hb, hupcoming, hnow]
      rfl
    unfold IsInOrder fires starts at *
    rw [Turn.relabel_append, Turn.relabel_append, hlast, h]
    simp [Turn.relabel, Incident.fired?, Incident.started?]
  | count id =>
    refine h.append ?_ rfl rfl
    rw [hupcoming]
    rfl
  | absent hnone =>
    refine h.append ?_ rfl rfl
    rw [hupcoming]
    rfl
  | idle hnone =>
    refine h.append ?_ rfl rfl
    rw [hupcoming]
    rfl

/-- Nobody is in line when nothing is to be done. -/
theorem moveTo (h : IsInOrder b τ) (hrest : b.agenda.next? = none) (time : Nat) :
    IsInOrder (b.moveTo time) τ := by
  have hline := Board.line_of_rest hrest
  have hmoved : (b.moveTo time).line = [] := hline
  unfold IsInOrder upcoming at *
  rw [hline] at h
  rw [hmoved]
  exact h

end IsInOrder

end Workbench.Coalescing
