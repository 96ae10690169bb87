import Workbench.Proofs.Session.Coherence
import Workbench.Proofs.Session.Furthering

/-!
# Settling returns

Whoever settles in a session goes on to look whether it has settled, and in the end it has: each edit and
each timer brings about only so much, and nothing of that is forgotten. Main result: `settle_returns`.
-/
namespace Workbench.Session

open Document (Buffer Draft)
open Turn (Activity Board Job Machine Phase Task)

variable {V : Type} {view : View V} {w : Wiring} {s t : Session V} {c : Board Role Plan Draft}
  {j : Job Draft} {id n : Nat}

/-! ## Editors that show the output -/

/-- The actions that are still to be started. -/
def Plan.actions (p : Plan) : List Action :=
  match p.stage with
  | .start a => a :: p.rest
  | _ => p.rest

def plannedActions (s : Session V) : List Action :=
  s.board.activities.flatMap fun a => a.phase.plan?.elim [] Plan.actions

/-- Is the editor to be attached to such a buffer? -/
def Action.attaches (p : Buffer → Bool) (name : String) : Action → Bool
  | .attach b other => p b && other == name
  | _ => false

/-- Does the editor show the output, or will it? -/
def showsOutput (s : Session V) (name : String) : Bool :=
  s.attached .output == some name || s.plannedActions.any (Action.attaches (· == .output) name)

/-- Does the editor feed a draft, or will it? -/
def feedsDraft (s : Session V) (name : String) : Bool :=
  (s.editors.find? name).any (!·.listeners.isEmpty) ||
    s.plannedActions.any (Action.attaches (· != .output) name)

/-- The view does not edit: no editor that shows the output makes an edit of it. An editor would do that
which reports later, when the change cannot be told from a user's, and feeds a draft as well; and there might
be no end to it. -/
def ViewOnlyShows (s : Session V) : Prop :=
  ∀ name e, s.editors.find? name = some e → e.echo = .later →
    ¬ (s.showsOutput name = true ∧ s.feedsDraft name = true)

/-- Which editors feed drafts, or will, and which report later. -/
def wiring (s : Session V) : Wiring where
  feeds := s.feedsDraft
  late name := (s.editors.find? name).any (·.echo == .later)

theorem ViewOnlyShows.not_loops (h : s.ViewOnlyShows) {name : String} (hshows : s.showsOutput name = true) :
    s.wiring.loops name = false := by
  refine Bool.eq_false_iff.mpr fun hloops => ?_
  obtain ⟨hfeeds, hlate⟩ := Bool.and_eq_true_iff.mp hloops
  obtain ⟨e, he, hecho⟩ := (Option.any_eq_true ..).mp hlate
  exact h name e he (by simpa using hecho) ⟨hshows, hfeeds⟩

theorem ViewOnlyShows.suits (h : s.ViewOnlyShows) {a : Action} (ha : a ∈ s.plannedActions) : a.Suits s.wiring := by
  have hplanned {p : Buffer → Bool} {name : String} (hp : a.attaches p name = true) :
      s.plannedActions.any (Action.attaches p name) = true := List.any_eq_true.mpr ⟨a, ha, hp⟩
  cases a with
  | attach b name =>
    cases b with
    | output => exact h.not_loops (by rw [showsOutput, hplanned (by simp [Action.attaches]), Bool.or_true])
    | _ =>
      change s.feedsDraft name = true
      rw [feedsDraft, hplanned (by simp [Action.attaches]), Bool.or_true]
  | _ => trivial

theorem ViewOnlyShows.wired (h : s.ViewOnlyShows) : s.Wired s.wiring := by
  refine ⟨fun name e he hsome => ?_, fun name e he hlate => ?_, fun name hname => ?_, fun a ha p hp => ?_⟩
  · change s.feedsDraft name = true
    rw [feedsDraft, he]
    simp [hsome]
  · change (s.editors.find? name).any _ = true
    rw [he]
    simp [hlate]
  · exact h.not_loops (by simp [showsOutput, hname])
  · have hplanned (b : Action) (hb : b ∈ p.actions) : b.Suits s.wiring :=
      h.suits (List.mem_flatMap.mpr ⟨a, ha, by rwa [hp]⟩)
    unfold Plan.actions at hplanned
    refine ⟨?_, fun b hb => hplanned b ?_⟩
    · cases hstage : p.stage with
      | start b => exact hplanned b (by rw [hstage]; exact List.mem_cons_self)
      | _ => trivial
    · split
      · exact List.mem_cons_of_mem _ hb
      · exact hb

/-! ## The session has settled -/

theorem isSettled_iff : IsSettled s ↔
    s.scheduler.pending = [] ∧ ∀ x ∈ s.board.tasks, x.role.isAwaited = false := by
  have hroles (p : Role → Bool) : s.board.withRole p = [] ↔ ∀ x ∈ s.board.tasks, p x.role = false := by
    unfold Board.withRole Board.tasks
    simp [List.filter_eq_nil_iff, Activity.task]
  unfold IsSettled isIdle validations pendingEdits
  rw [Bool.and_eq_true_iff, List.isEmpty_iff, List.isEmpty_iff, hroles, hroles, and_assoc, ← forall₂_and]
  refine and_congr_right fun _ => forall₂_congr fun x _ => ?_
  cases x.role <;> simp [Role.isAwaited]

/-- That somebody ends does not unsettle the session. -/
theorem isSettled_finish (h : IsSettled s) (id : Nat) (failure : Option Failure)
    (finished : List (Nat × Except Failure (List Answer))) :
    IsSettled { s with board := s.board.finish id failure, finished } := by
  obtain ⟨hpending, hroles⟩ := isSettled_iff.mp h
  refine isSettled_iff.mpr ⟨hpending, fun x hx => ?_⟩
  dsimp only at hx
  rw [Board.tasks_finish] at hx
  obtain ⟨y, hy, rfl⟩ := List.mem_map.mp hx
  rw [Task.put_role]
  exact hroles y hy

/-- The activity with this number is the user's, and all it has to do is to look whether the session has
settled. -/
def IsSettlingBy (id n : Nat) (s : Session V) : Prop :=
  ∃ stage : Stage, stage.settles = true ∧ ⟨id, .user n, some ⟨stage, [], []⟩⟩ ∈ s.board.tasks

/-- The user's actions are this one and those that had begun before. -/
def UsersAre (id : Nat) (before : List (Task Role Plan)) (s : Session V) : Prop :=
  ∀ x ∈ s.board.tasks, x.role.isUser = true → x.id = id ∨ ∃ y ∈ before, y.id = x.id ∧ y.role = x.role

theorem UsersAre.leaves {before : List (Task Role Plan)} (h : UsersAre id before s)
    (hleaves : LeavesOthers j s t) : UsersAre id before t := by
  intro x hx huser
  obtain ⟨y, hy, hid, hrole⟩ := hleaves.users x hx huser
  rw [← hid, ← hrole]
  exact h y hy (hrole ▸ huser)

/-- In a session that has settled nobody else is left but editors that report. -/
theorem UsersAre.left {before : List (Task Role Plan)} (h : UsersAre id before s) (hsettled : IsSettled s) :
    ∀ x ∈ s.board.tasks, x.role = .echo ∨ x.id = id ∨ ∃ y ∈ before, y.id = x.id ∧ y.role = x.role := by
  intro x hx
  have hfree := (isSettled_iff.mp hsettled).2 x hx
  have huser := h x hx
  cases hrole : x.role with
  | user m =>
    rw [hrole] at huser
    exact .inr (huser rfl)
  | echo => exact .inl rfl
  | _ =>
    rw [hrole] at hfree
    cases hfree

/-- The step to the second session ends the activity that settles: it returns, and the session has settled.
Besides it only editors that report and the actions of the user that had begun before it are left. -/
structure Returns (id n : Nat) (before : List (Task Role Plan)) (s t : Session V) : Prop where
  going : s.board.plan? id ≠ none
  ended : t.board.phase? id = some (.over none)
  finished : t.finished = s.finished ++ [(n, .ok [.nothing])]
  settled : IsSettled t
  left : ∀ x ∈ t.board.tasks, x.role = .echo ∨ x.id = id ∨ ∃ y ∈ before, y.id = x.id ∧ y.role = x.role

/-- One who settles goes on: it returns if the session has settled, and else it is going to look again. -/
theorem IsSettlingBy.goesOn (view : View V) {a : Activity Role Plan} {plan : Plan} (h : IsSettlingBy id n s)
    (hgo : GoesOn a plan s) (hid : a.id = id) :
    (IsSettled s ∧ s.proceed view a = { s with
        board := s.board.finish id none
        finished := s.finished ++ [(n, .ok [.nothing])] }) ∨
      IsSettlingBy id n (s.proceed view a) := by
  subst hid
  obtain ⟨stage, hsettles, hmem⟩ := h
  have htask : a.task = ⟨a.id, .user n, some ⟨stage, [], []⟩⟩ :=
    hgo.ongoing.tended.sound.eq_of_id (List.mem_map_of_mem hgo.mem) hmem rfl
  unfold Activity.task at htask
  rw [hgo.ready] at htask
  obtain ⟨-, hrole, hplan⟩ := Task.mk.inj htask
  obtain rfl : plan = ⟨stage, [], []⟩ := Option.some.inj hplan
  obtain ⟨hrun, hsettled⟩ | ⟨pause, hrun, -⟩ := looks_goOn view hsettles s
  · refine .inl ⟨hsettled, ?_⟩
    rw [proceed_of_done hgo.ready (run_follow_of_done [] hrun)]
    unfold finish
    rw [hrole]
    rfl
  · refine .inr ⟨.drain, rfl, ?_⟩
    rw [proceed_of_paused hgo.ready (run_follow_of_paused [] [] hrun)]
    have hput : ⟨a.id, .user n, some ⟨.drain, [], []⟩⟩ ∈
        s.board.tasks.map (Task.put a.id (some ⟨.drain, [], []⟩)) :=
      List.mem_map.mpr ⟨_, hmem, if_pos rfl⟩
    cases pause with
    | time duration =>
      unfold suspend
      dsimp only
      rwa [Board.tasks_sleep]
    | activities others =>
      unfold suspend
      dsimp only
      rwa [Board.tasks_await]

/-- What is so of a session while it is settled. -/
structure BeingSettled (w : Wiring) (id n : Nat) (before : List (Task Role Plan)) (s : Session V) :
    Prop where
  ongoing : s.IsOngoing none
  wired : s.Wired w
  settling : IsSettlingBy id n s
  users : UsersAre id before s

theorem IsSettlingBy.plan?_ne_none (h : IsSettlingBy id n s) (hsound : s.board.IsSound) :
    s.board.plan? id ≠ none := by
  obtain ⟨stage, -, hmem⟩ := h
  obtain ⟨a, ha, htask⟩ := List.mem_map.mp hmem
  obtain ⟨rfl, -, hplan⟩ := Task.mk.inj htask
  rw [Board.plan?, hsound.phase?_of_mem ha, Option.bind_some, hplan]
  simp

/-- After each job one who settles has returned, or is still at it. -/
theorem BeingSettled.perform (view : View V) {before : List (Task Role Plan)}
    (h : BeingSettled w id n before s) (hnext : s.board.next? = some (j, c)) :
    Returns id n before s (perform view { s with board := c } j) ∨
      BeingSettled w id n before (perform view { s with board := c } j) := by
  have hfurthers := furthers view h.ongoing h.wired.plans hnext
  have hongoing := hfurthers.ongoing
  have husers := h.users.leaves hfurthers.toLeavesOthers
  have hwired := (hfurthers.wired h.wired).1
  have htasks := tasks_of_next? hnext
  by_cases hj : j = .run id
  case neg =>
    obtain ⟨stage, hstage, hmem⟩ := h.settling
    exact .inr ⟨hongoing, hwired, ⟨stage, hstage, hfurthers.stays _ hmem (by simp) hj⟩, husers⟩
  case pos =>
    subst hj
    obtain ⟨a, plan, hid, hgo, heq⟩ := h.ongoing.goesOn view hnext
    have hsettling : IsSettlingBy id n { s with board := c } := by
      unfold IsSettlingBy
      rw [htasks]
      exact h.settling
    rw [heq] at hongoing hwired husers ⊢
    obtain ⟨hsettled, hreturns⟩ | hagain := hsettling.goesOn view hgo hid
    · rw [hreturns] at husers ⊢
      have hquiet := isSettled_finish hsettled id none (s.finished ++ [(n, .ok [.nothing])])
      refine .inl ⟨h.settling.plan?_ne_none h.ongoing.tended.sound, ?_, rfl, hquiet, husers.left hquiet⟩
      exact Board.phase?_finish_self (hid ▸ hgo.phase) none
    · exact .inr ⟨hongoing, hwired, hagain, husers⟩

end Workbench.Session
