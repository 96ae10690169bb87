import Mathlib.Data.List.Induction
import Workbench.Coalescing.Workshop

/-!
# Incidents

What befalls the keys and the errands of a workshop, in order and with the time. An account of this
kind tells by itself which timers are armed, when they are due and what for; it is timely if no timer
of it is ever overdue and each one that fires is due.
-/
namespace Workbench.Coalescing

namespace Errand

def label : Errand → String
  | .mk label _ _ _ => label

def takes : Errand → Nat
  | .mk _ takes _ _ => takes

/-- Does it end without failing? -/
def succeeds : Errand → Bool
  | .mk _ _ failure _ => failure.isEmpty

/-- What it schedules towards its end. One that fails does not get there. -/
def next? : Errand → Option (String × Errand)
  | .mk _ _ failure next => if failure.isEmpty then next else none

end Errand

inductive Incident where
  | scheduled (key : String) (e : Errand)
  | cancelled (key : String)
  /-- All timers are disarmed. -/
  | cleared
  /-- The timer of a key fires, and its errand gets a number. -/
  | fired (id : Nat) (key : String) (e : Errand)
  | started (id : Nat) (e : Errand)
  | ended (id : Nat) (e : Errand)
  /-- The end of an errand is noticed. -/
  | left (id : Nat)

/-- The incidents with their times, first to last. -/
abbrev Account := List (Nat × Incident)

namespace Incident

/-- Does it take the timer of a key away, or start it anew? -/
def disturbs (key : String) : Incident → Bool
  | .scheduled k _ | .cancelled k => k = key
  | .cleared => true
  | _ => false

/-- Does it change anything about the timer of a key? -/
def touches (key : String) : Incident → Bool
  | .fired _ k _ => k = key
  | x => x.disturbs key

/-- The errand that it is about. -/
def number? : Incident → Option Nat
  | .fired id _ _ | .started id _ | .ended id _ | .left id => some id
  | _ => none

/-- The timer of a key after it: when it is due, and what for. -/
def timer? (window now : Nat) (key : String) (x : Incident) (old? : Option (Nat × Errand)) :
    Option (Nat × Errand) :=
  match x with
  | .scheduled k e => if k = key then some (now + window, e) else old?
  | x => if x.touches key then none else old?

theorem timer?_of_not_touches {key : String} {x : Incident} (h : x.touches key = false)
    (window now : Nat) (old? : Option (Nat × Errand)) : x.timer? window now key old? = old? := by
  cases x with
  | scheduled k e => exact if_neg (by simpa [touches, disturbs] using h)
  | _ => simp only [timer?, h, Bool.false_eq_true, if_false]

theorem timer?_of_touches {key : String} {x : Incident} (h : x.touches key = true)
    (hx : ∀ e, x ≠ .scheduled key e) (window now : Nat) (old? : Option (Nat × Errand)) :
    x.timer? window now key old? = none := by
  cases x with
  | scheduled k e =>
    obtain rfl : k = key := by simpa [touches, disturbs] using h
    exact absurd rfl (hx e)
  | _ => simp only [timer?, h, if_true]

/-- What touches a timer and does not disturb it is that it fires. -/
theorem exists_fired {key : String} {x : Incident} (h : x.touches key = true)
    (hx : x.disturbs key = false) : ∃ id e, x = .fired id key e := by
  cases x with
  | fired id k e =>
    obtain rfl : k = key := by simpa [touches] using h
    exact ⟨id, e, rfl⟩
  | _ => exact absurd h (by simpa [touches] using hx)

end Incident

variable {window : Nat} {key : String} {e : Errand} {s due : Nat} {τ σ : Account}

/-- Nothing changes about the timer of a key. -/
def IsQuiet (key : String) (τ : Account) : Prop := ∀ x ∈ τ, x.2.touches key = false

/-- The errand was scheduled under the key at this time, and nothing has changed about the timer
since. -/
def IsArmed (key : String) (s : Nat) (e : Errand) (τ : Account) : Prop :=
  ∃ before quiet, τ = before ++ (s, .scheduled key e) :: quiet ∧ IsQuiet key quiet

/-- The timer of a key: when it is due, and what for. -/
def timer? (window : Nat) (key : String) (τ : Account) : Option (Nat × Errand) :=
  τ.foldl (fun old? x => x.2.timer? window x.1 key old?) none

theorem timer?_concat (window : Nat) (key : String) (τ : Account) (t : Nat) (x : Incident) :
    timer? window key (τ ++ [(t, x)]) = x.timer? window t key (timer? window key τ) := by
  rw [timer?, List.foldl_append]
  rfl

theorem IsQuiet.concat (h : IsQuiet key τ) {x : Nat × Incident} (hx : x.2.touches key = false) :
    IsQuiet key (τ ++ [x]) := by
  intro y hy
  obtain hy | hy := List.mem_append.mp hy
  · exact h y hy
  · rwa [List.mem_singleton.mp hy]

theorem IsQuiet.timer?_append (h : IsQuiet key σ) (window : Nat) (τ : Account) :
    timer? window key (τ ++ σ) = timer? window key τ := by
  induction σ using List.reverseRecOn with
  | nil => rw [List.append_nil]
  | append_singleton σ x ih =>
    rw [← List.append_assoc, timer?_concat,
      Incident.timer?_of_not_touches (h x (List.mem_append_right _ (List.mem_singleton.mpr rfl)))]
    exact ih fun y hy => h y (List.mem_append_left _ hy)

/-- The first incident that changes anything about a timer. -/
theorem isQuiet_or_exists (key : String) (τ : Account) :
    IsQuiet key τ ∨
      ∃ quiet x rest, τ = quiet ++ x :: rest ∧ IsQuiet key quiet ∧ x.2.touches key = true := by
  cases h : τ.find? (·.2.touches key) with
  | none => exact .inl fun x hx => by simpa using List.find?_eq_none.mp h x hx
  | some x =>
    obtain ⟨hx, quiet, rest, rfl, hquiet⟩ := List.find?_eq_some_iff_append.mp h
    exact .inr ⟨quiet, x, rest, rfl, fun y hy => by simpa using hquiet y hy, hx⟩

/-- The account tells which timers are armed, and when they are due. -/
theorem timer?_eq_some_iff :
    timer? window key τ = some (due, e) ↔ ∃ s, IsArmed key s e τ ∧ due = s + window := by
  constructor
  · intro h
    induction τ using List.reverseRecOn with
    | nil => cases h
    | append_singleton τ x ih =>
      obtain ⟨t, x⟩ := x
      rw [timer?_concat] at h
      cases htouch : x.touches key with
      | false =>
        rw [Incident.timer?_of_not_touches htouch] at h
        obtain ⟨s, ⟨before, quiet, rfl, hquiet⟩, hdue⟩ := ih h
        exact ⟨s, ⟨before, quiet ++ [(t, x)], by simp, hquiet.concat htouch⟩, hdue⟩
      | true =>
        by_cases hx : ∃ e', x = .scheduled key e'
        · obtain ⟨e', rfl⟩ := hx
          rw [Incident.timer?, if_pos rfl] at h
          cases h
          exact ⟨t, ⟨τ, [], rfl, by simp [IsQuiet]⟩, rfl⟩
        · rw [Incident.timer?_of_touches htouch (not_exists.mp hx)] at h
          cases h
  · rintro ⟨s, ⟨before, quiet, rfl, hquiet⟩, rfl⟩
    rw [List.append_cons, hquiet.timer?_append, timer?_concat, Incident.timer?, if_pos rfl]

/-- A timer that is not armed stays so as long as nothing is scheduled under its key. -/
theorem timer?_append_of_none (h : timer? window key τ = none)
    (hσ : ∀ x ∈ σ, ∀ e, x.2 ≠ .scheduled key e) : timer? window key (τ ++ σ) = none := by
  induction σ using List.reverseRecOn with
  | nil => rwa [List.append_nil]
  | append_singleton σ x ih =>
    rw [← List.append_assoc, timer?_concat, ih fun y hy => hσ y (List.mem_append_left _ hy)]
    have hx := hσ x (List.mem_append_right _ (List.mem_singleton.mpr rfl))
    cases htouch : x.2.touches key with
    | false => exact Incident.timer?_of_not_touches htouch _ _ _
    | true => exact Incident.timer?_of_touches htouch hx _ _ _

/-! ## Timely accounts -/

/-- An incident may come next at this time: no timer is overdue, and if one fires it is due. -/
structure Fits (window : Nat) (τ : Account) (t : Nat) (x : Incident) : Prop where
  past : ∀ y ∈ τ, y.1 ≤ t
  ahead : ∀ key due e, timer? window key τ = some (due, e) → t ≤ due
  fires : ∀ id key e, x = .fired id key e → timer? window key τ = some (t, e)

def IsTimely (window : Nat) (τ : Account) : Prop :=
  ∀ before t x after, τ = before ++ (t, x) :: after → Fits window before t x

theorem isTimely_nil : IsTimely window [] := by
  intro before t x after h
  simp at h

theorem IsTimely.concat (h : IsTimely window τ) {t : Nat} {x : Incident} (hx : Fits window τ t x) :
    IsTimely window (τ ++ [(t, x)]) := by
  intro before u y after heq
  obtain rfl | ⟨rest, z, rfl⟩ := List.eq_nil_or_concat after
  · obtain ⟨rfl, hlast⟩ := List.append_inj' heq rfl
    cases hlast
    exact hx
  · rw [List.concat_eq_append, ← List.cons_append, ← List.append_assoc] at heq
    exact h before u y rest (List.append_inj' heq rfl).1

/-- What becomes of an errand that was scheduled at this time, as what happens afterwards shows. -/
inductive Fate (window : Nat) (key : String) (s : Nat) (e : Errand) (after : Account) : Prop
  /-- It is let go when its time has come, and nothing has changed about its timer until then. -/
  | fired (quiet rest : Account) (id : Nat) (hquiet : IsQuiet key quiet)
    (h : after = quiet ++ (s + window, .fired id key e) :: rest)
  /-- It is dropped, or another one takes its place, before that. -/
  | dropped (quiet rest : Account) (t : Nat) (x : Incident) (hquiet : IsQuiet key quiet)
    (h : after = quiet ++ (t, x) :: rest) (hx : x.disturbs key = true) (ht : t ≤ s + window)
  /-- Its timer is still armed. -/
  | armed (hquiet : IsQuiet key after)

theorem IsTimely.fate (h : IsTimely window τ) {before after : Account}
    (hτ : τ = before ++ (s, .scheduled key e) :: after) : Fate window key s e after := by
  obtain hquiet | ⟨quiet, ⟨t, x⟩, rest, rfl, hquiet, htouch⟩ := isQuiet_or_exists key after
  · exact .armed hquiet
  · have hsplit : τ = (before ++ (s, .scheduled key e) :: quiet) ++ (t, x) :: rest := by simp [hτ]
    have hfits := h _ t x rest hsplit
    have harmed : timer? window key (before ++ (s, .scheduled key e) :: quiet) =
        some (s + window, e) :=
      timer?_eq_some_iff.mpr ⟨s, ⟨before, quiet, rfl, hquiet⟩, rfl⟩
    cases hx : x.disturbs key with
    | true => exact .dropped quiet rest t x hquiet rfl hx (hfits.ahead key _ e harmed)
    | false =>
      obtain ⟨id, e', rfl⟩ := Incident.exists_fired htouch hx
      have hfired := hfits.fires id key e' rfl
      rw [harmed] at hfired
      cases hfired
      exact .fired quiet rest id hquiet rfl

/-- Only an errand is let go that was scheduled so long ago, and nothing has changed about its timer
since. -/
theorem IsTimely.isArmed_of_fired (h : IsTimely window τ) {before after : Account} {t id : Nat}
    (hτ : τ = before ++ (t, .fired id key e) :: after) :
    ∃ s, IsArmed key s e before ∧ t = s + window :=
  timer?_eq_some_iff.mp ((h before t _ after hτ).fires id key e rfl)

end Workbench.Coalescing
