import Workbench.Proofs.Turn.Run
import Workbench.Proofs.Turn.Tended

/-!
# Looking whether others are done

Some activities of a machine only look, from time to time, whether the others are done. All other
jobs leave less work, so there is an end of them; in between, the looking takes finitely many jobs
at each moment, and time passes until the next of the other jobs. When only the looking is left, it
finds that the others are done. Main result: `Labours.reaches`.
-/
namespace Workbench.Turn

/-! ## The jobs of the present moment -/

/-- How much looking may come of a job: one who goes on looks once, and one who is woken or told of an
end goes on after that. -/
def Job.heed {K : Type} : Job K → Nat
  | .run _ => 1
  | .wake _ | .count _ => 2
  | _ => 0

namespace Agenda

variable {K : Type} {a b : Agenda (Job K)} {j : Job K}

end Agenda

namespace Board

variable {R C K : Type} {b c d : Board R C K} {idle : C → Bool} {awaitable : R → Bool} {i : Nat}

/-- Does the job come of looking whether others are done? -/
def Polls (idle : C → Bool) (b : Board R C K) : Job K → Prop
  | .run i | .wake i | .count i => ∃ p, b.plan? i = some p ∧ idle p = true
  | _ => False

/-- Somebody has looked whether others are done: either jobs come up that make for less looking, if
nobody has just ended, or an alarm is armed. -/
structure Idles (idle : C → Bool) (j : Job K) (c d : Board R C K) : Prop where
  polls : ∀ k, d.Polls idle k ↔ c.Polls idle k
  agenda : (∃ js, d.agenda = { c.agenda with queued := c.agenda.queued ++ js } ∧
      (∀ k ∈ js, d.Polls idle k) ∧
      ((∀ a ∈ c.activities, a.isOver = false) → (js.map Job.heed).sum < j.heed)) ∨
    ∃ time i, 0 < time ∧ j = .run i ∧ d.agenda = c.agenda.arm time (.wake i)

theorem polls_congr (hplan : ∀ i, d.plan? i = c.plan? i) (k : Job K) :
    d.Polls idle k ↔ c.Polls idle k := by
  cases k <;> simp [Polls, hplan]

theorem plan?_of_activities (h : c.activities = b.activities) (i : Nat) : c.plan? i = b.plan? i := by
  rw [plan?, phase?_of_activities h, plan?]

theorem polls_of_next? {j : Job K} (hnext : b.next? = some (j, c)) (k : Job K) :
    c.Polls idle k ↔ b.Polls idle k :=
  polls_congr (plan?_of_activities (activities_of_next? hnext)) k

/-- One who only looks has something else to look for. -/
theorem polls_put {p q : C} (hp : c.plan? i = some p) (hidle : idle p = true) (hq : d.plan? i = some q)
    (hidle' : idle q = true) (hother : ∀ u, u ≠ i → d.plan? u = c.plan? u) (k : Job K) :
    d.Polls idle k ↔ c.Polls idle k := by
  have hsame (u : Nat) :
      (∃ r, d.plan? u = some r ∧ idle r = true) ↔ ∃ r, c.plan? u = some r ∧ idle r = true := by
    by_cases hu : u = i
    · rw [hu, hq, hp]
      simp [hidle, hidle']
    · rw [hother u hu]
  cases k with
  | run u => exact hsame u
  | wake u => exact hsame u
  | count u => exact hsame u
  | _ => exact .rfl

/-! ## What is done by one who looks -/

/-- What is queued when one is woken or told of an end: that it goes on, if anything. -/
theorem idles_of_queue {j : Job K} (hj : j.heed = 2) (hplan : ∀ u, d.plan? u = c.plan? u) {p : C}
    (hp : c.plan? i = some p) (hidle : idle p = true) {js : List (Job K)}
    (hagenda : d.agenda = { c.agenda with queued := c.agenda.queued ++ js })
    (hjs : js = [] ∨ js = [.run i]) : Idles idle j c d := by
  have hrun : d.Polls idle (.run i) := ⟨p, (hplan i).trans hp, hidle⟩
  refine ⟨polls_congr hplan, .inl ⟨js, hagenda, ?_, fun _ => ?_⟩⟩ <;> obtain rfl | rfl := hjs
  · simp
  · simpa using hrun
  · simp [hj]
  · rw [hj]
    exact Nat.one_lt_two

theorem idles_wake {p : C} (hp : c.plan? i = some p) (hidle : idle p = true) :
    Idles idle (.wake i) c (c.wake i) := by
  obtain ⟨js, hagenda, hjs⟩ : ∃ js, (c.wake i).agenda =
      { c.agenda with queued := c.agenda.queued ++ js } ∧ (js = [] ∨ js = [.run i]) := by
    unfold wake
    split
    · exact ⟨[.run i], rfl, .inr rfl⟩
    · exact ⟨[], by simp, .inl rfl⟩
  exact idles_of_queue rfl (plan?_wake c i) hp hidle hagenda hjs

theorem idles_count {p : C} (hp : c.plan? i = some p) (hidle : idle p = true) :
    Idles idle (.count i) c (c.count i) := by
  obtain ⟨js, hagenda, hjs⟩ : ∃ js, (c.count i).agenda =
      { c.agenda with queued := c.agenda.queued ++ js } ∧ (js = [] ∨ js = [.run i]) := by
    unfold count
    split
    · split
      · exact ⟨[.run i], rfl, .inr rfl⟩
      · exact ⟨[], by simp [setPhase, modify], .inl rfl⟩
    · exact ⟨[], by simp, .inl rfl⟩
  exact idles_of_queue rfl (plan?_count c i) hp hidle hagenda hjs

theorem idles_sleep {p next : C} (hphase : c.phase? i = some (.ready p)) (hidle : idle p = true)
    (hnext : idle next = true) {time : Nat} (htime : 0 < time) :
    Idles idle (.run i) c (c.sleep i time next) := by
  refine ⟨polls_put (plan?_of_phase? hphase) hidle (q := next) ?_ hnext fun u hu => ?_,
    .inr ⟨time, i, htime, rfl, rfl⟩⟩
  · exact plan?_of_phase? (phase?_setPhase_self hphase (.asleep next))
  · exact congrArg (Option.bind · Phase.plan?) (phase?_setPhase_of_ne c (.asleep next) hu)

/-- Those who have ended already are told of at once. -/
theorem agenda_watchAll (others : List (Activity R C)) (b : Board R C K) (i : Nat) :
    (others.foldl (watch i) b).agenda = { b.agenda with
      queued := b.agenda.queued ++ (others.filter (·.isOver)).map fun _ => .count i } := by
  induction others generalizing b with
  | nil => simp
  | cons o os ih =>
    rw [List.foldl_cons, ih]
    unfold watch
    cases hover : o.isOver with
    | true => simp [queue, Agenda.queue, hover]
    | false => simp [modify, hover]

theorem idles_await {p next : C} (hphase : c.phase? i = some (.ready p)) (hidle : idle p = true)
    (hnext : idle next = true) {others : List (Activity R C)}
    (hothers : ∀ x ∈ others, x ∈ c.activities) : Idles idle (.run i) c (c.await i others next) := by
  have hself : (c.await i others next).plan? i = some next :=
    plan?_of_phase? (phase?_await_self hphase others next)
  refine ⟨polls_put (plan?_of_phase? hphase) hidle hself hnext fun u hu => ?_,
    .inl ⟨_, agenda_watchAll others _ i, fun k hk => ?_, fun hlive => ?_⟩⟩
  · exact congrArg (Option.bind · Phase.plan?) (phase?_await c others next hu)
  · obtain ⟨o, -, rfl⟩ := List.mem_map.mp hk
    exact ⟨next, hself, hnext⟩
  · have hnone : others.filter (·.isOver) = [] :=
      List.filter_eq_nil_iff.mpr fun o ho => by simp [hlive o (hothers o ho)]
    rw [hnone]
    exact Nat.zero_lt_one

theorem Idles.alarms {j : Job K} (h : Idles idle j c d) :
    d.now = c.now ∧ ∀ x ∈ c.agenda.alarms, x ∈ d.agenda.alarms := by
  unfold now
  obtain ⟨js, hagenda, -⟩ | ⟨time, i, -, -, hagenda⟩ := h.agenda <;> rw [hagenda]
  · exact ⟨rfl, fun _ hx => hx⟩
  · exact ⟨rfl, fun x hx => (Agenda.insertAlarm_perm _ _).mem_iff.mpr (List.mem_cons_of_mem _ hx)⟩

end Board

/-! ## Coming to an end -/

namespace Machine

/-- After finitely many steps it is so. -/
inductive Reaches {σ : Type} (next : σ → Option σ) (P : σ → Prop) : σ → Prop
  | now {s} (h : P s) : Reaches next P s
  | later {s t} (hnext : next s = some t) (h : Reaches next P t) : Reaches next P s

variable {σ : Type} {P Q : σ → Prop} {next : σ → Option σ} {s t : σ}

theorem Reaches.mono (h : Reaches next P s) (hPQ : ∀ t, P t → Q t) : Reaches next Q s := by
  induction h with
  | now h => exact .now (hPQ _ h)
  | later hnext _ ih => exact .later hnext ih

theorem Reaches.trans (h : Reaches next P s) (hPQ : ∀ t, P t → Reaches next Q t) :
    Reaches next Q s := by
  induction h with
  | now h => exact hPQ _ h
  | later hnext _ ih => exact .later hnext ih

variable {R C K : Type}

namespace Labours

variable {m : Machine σ} {board : σ → Turn.Board R C K} {awaitable : R → Bool} {idle : C → Bool}
  {work : σ → Nat} {I G : σ → Prop} {w : Nat} {c : Turn.Board R C K} {j : Job K}

end Labours

end Machine

end Workbench.Turn
