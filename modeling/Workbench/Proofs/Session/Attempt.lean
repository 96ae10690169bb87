import Mathlib.Algebra.BigOperators.Group.Multiset.Basic
import Mathlib.Data.List.Range
import Workbench.Proofs.Session.Output

/-!
# Attempts at a transform

Attempts are numbered as they begin, and each ends once at most. What comes of one counts only if no
later one has begun by then, so the results that count come in the order of their numbers, and the
output shows what came of the latest attempt.
-/
namespace Workbench.Session

open Document (Draft Rating Status Store)
open Service (Outcome Reaction)

variable {V : Type} {view : View V}

/-! ## Numbers -/

/-- The numbers of the attempts that have begun, first to last. -/
def begun (history : List Happening) : List Nat :=
  history.filterMap fun
    | .began generation _ => some generation
    | _ => none

/-- The numbers of the attempts whose calls have ended, first to last. -/
def ended (history : List Happening) : List Nat :=
  history.filterMap fun
    | .answered generation _ => some generation
    | _ => none

theorem begun_append (history new : List Happening) :
    begun (history ++ new) = begun history ++ begun new := List.filterMap_append

theorem ended_append (history new : List Happening) :
    ended (history ++ new) = ended history ++ ended new := List.filterMap_append

/-- The attempt that is under way with this in hand. -/
def Hand.attempts (k : Hand) : Multiset Nat := k.generation?.elim 0 ({·})

/-- The attempts that are under way. -/
def Hands.attempts (H : Hands) : Multiset Nat := (H.map fun x => x.2.attempts).sum

@[simp]
theorem Hands.attempts_add (H : Hands) (role : Role) (k : Hand) :
    (H.add role k).attempts = H.attempts + k.attempts := by
  unfold attempts add
  cases k <;> simp [Hand.isFree, Hand.attempts, Hand.generation?, add_comm]

theorem attempts_start (a : Action) : (Stage.start a).hand.attempts = 0 := by
  obtain hfree | ⟨b, d, text, -, hasking⟩ := hand_start a
  · rw [hfree]
    rfl
  · rw [hasking]
    rfl

theorem attempts_handAfter (x : Documents) (h : Happening) : (x.handAfter h).attempts = 0 := by
  unfold Documents.handAfter
  split <;> rfl

/-- Either an attempt begins and gets the next number, or those under way go on, end or are lost. -/
theorem Entry.attempts {x : Documents} {k k' : Hand} {new : List Happening}
    (h : Entry view x k new k') :
    (begun new = [x.latest + 1] ∧ (x.after new).latest = x.latest + 1 ∧ ended new = [] ∧
        k.attempts = 0 ∧ k'.attempts = {x.latest + 1}) ∨
      (begun new = [] ∧ (x.after new).latest = x.latest ∧
        k'.attempts + ↑(ended new) ≤ k.attempts) := by
  cases h with
  | begin => exact .inl ⟨rfl, rfl, rfl, rfl, rfl⟩
  | trigger => exact .inl ⟨rfl, rfl, rfl, rfl, rfl⟩
  | nothing | edit | overtake | close => exact .inr ⟨rfl, rfl, by simp [ended]⟩
  | switch armed =>
    refine .inr ⟨rfl, rfl, ?_⟩
    rw [attempts_handAfter, zero_add]
    exact Multiset.zero_le _
  | take a =>
    refine .inr ⟨rfl, rfl, ?_⟩
    rw [attempts_start, zero_add]
    exact Multiset.zero_le _
  | send reply =>
    have hsent : (k.sent reply.reaction).attempts = k.attempts := by cases k <;> rfl
    exact .inr ⟨rfl, rfl, by simp [ended, hsent]⟩
  | refuse => exact .inr ⟨rfl, rfl, Multiset.zero_le _⟩
  | hear =>
    refine .inr ⟨rfl, rfl, ?_⟩
    rw [attempts_handAfter, zero_add]
    exact Multiset.zero_le _
  | warn => exact .inr ⟨rfl, rfl, by simp [ended, Hand.attempts, Hand.generation?]⟩
  | conclude g r =>
    refine .inr ⟨rfl, ?_, by simp [ended, Hand.attempts, Hand.generation?]⟩
    simp only [Documents.after_cons, Documents.after_nil, Documents.next]
    split <;> rfl
  | drop => exact .inr ⟨rfl, rfl, Multiset.zero_le _⟩

/-- Attempts are numbered as they begin. Those under way and those that have ended have begun, and
they are all different. -/
structure IsNumbered (x : Documents) (history : List Happening) (H : Hands) : Prop where
  begun : begun history = List.range' 1 x.latest
  nodup : (H.attempts + ↑(ended history)).Nodup
  le : ∀ g ∈ H.attempts + ↑(ended history), 1 ≤ g ∧ g ≤ x.latest

theorem IsPossible.isNumbered {armed : Bool} {history : List Happening} {H : Hands}
    (h : IsPossible view (.new armed) history H) :
    IsNumbered ((Documents.new armed).after history) history H := by
  induction h with
  | new => exact ⟨rfl, by simp [Hands.attempts, ended], by simp [Hands.attempts, ended]⟩
  | @enter history H role k new k' _ hentry ih =>
    obtain ⟨hbegun, hnodup, hle⟩ := ih
    rw [Hands.attempts_add] at hnodup hle
    obtain ⟨hb, hlatest, he, hk, hk'⟩ | ⟨hb, hlatest, hsub⟩ := hentry.attempts
    · rw [hk, add_zero] at hnodup hle
      have htotal : (Hands.add H role k').attempts + ↑(ended (history ++ new)) =
          (((Documents.new armed).after history).latest + 1) ::ₘ
            (H.attempts + ↑(ended history)) := by
        rw [Hands.attempts_add, hk', ended_append, he, List.append_nil, add_right_comm, add_comm,
          Multiset.singleton_add]
      refine ⟨?_, ?_, ?_⟩
      · rw [begun_append, hb, hbegun, Documents.after_append, hlatest, List.range'_1_concat,
          Nat.add_comm 1]
      · rw [htotal, Multiset.nodup_cons]
        refine ⟨fun hmem => ?_, hnodup⟩
        have := hle _ hmem
        omega
      · intro g hg
        rw [htotal, Multiset.mem_cons] at hg
        rw [Documents.after_append, hlatest]
        obtain rfl | hg := hg
        · omega
        · have := hle g hg
          omega
    · have htotal : (Hands.add H role k').attempts + ↑(ended (history ++ new)) ≤
          H.attempts + k.attempts + ↑(ended history) := by
        rw [Hands.attempts_add, ended_append, ← Multiset.coe_add, add_add_add_comm,
          add_right_comm H.attempts]
        exact add_le_add (add_le_add le_rfl hsub) le_rfl
      refine ⟨?_, Multiset.nodup_of_le htotal hnodup, fun g hg => ?_⟩
      · rw [begun_append, hb, hbegun, List.append_nil, Documents.after_append, hlatest]
      · rw [Documents.after_append, hlatest]
        exact hle g (Multiset.mem_of_le htotal hg)
  | fire _ d text ih => 
    refine ⟨ih.begun, ?_, ?_⟩
    · simpa [Hand.attempts, Hand.generation?] using ih.nodup
    · simpa [Hand.attempts, Hand.generation?] using ih.le

/-! ## Answers -/

/-- No later attempt has begun. -/
def IsLatest (history : List Happening) (generation : Nat) : Prop :=
  ∀ g ∈ begun history, g ≤ generation

theorem IsNumbered.isLatest_iff {x : Documents} {history : List Happening} {H : Hands}
    (h : IsNumbered x history H) {generation : Nat} (hgeneration : generation ∈ H.attempts) :
    IsLatest history generation ↔ generation = x.latest := by
  obtain ⟨hone, hle⟩ := h.le generation (Multiset.mem_add.mpr (.inl hgeneration))
  unfold IsLatest
  rw [h.begun]
  simp only [List.mem_range'_1]
  constructor
  · intro hall
    have := hall x.latest (by omega)
    omega
  · intro heq g hg
    omega

theorem Entry.answered {x : Documents} {k k' : Hand} {new before after : List Happening}
    {generation : Nat} {result : Except Failure Outcome} (h : Entry view x k new k')
    (hnew : new = before ++ .answered generation result :: after) :
    before = [] ∧ ∃ r, k = .awaiting generation r ∧ (Service.Client.readOutcome r).2 = result := by
  cases h with
  | nothing | take | drop => simp at hnew
  | trigger =>
    cases before with
    | nil => simp at hnew
    | cons y before =>
      obtain ⟨-, hlast⟩ := List.cons.inj hnew
      cases (singleton_eq_append_cons.mp hlast).2.1
  | conclude g r =>
    obtain ⟨hbefore, heq, -⟩ := singleton_eq_append_cons.mp hnew
    cases heq
    exact ⟨hbefore, r, rfl, rfl⟩
  | _ => cases (singleton_eq_append_cons.mp hnew).2.1

/-- An answer comes to somebody who waits for it. -/
theorem IsPossible.answered {start : Documents} {history : List Happening} {H : Hands}
    (h : IsPossible view start history H) {before after : List Happening} {generation : Nat}
    {result : Except Failure Outcome}
    (hsplit : history = before ++ .answered generation result :: after) :
    ∃ H, IsPossible view start before H ∧ generation ∈ H.attempts := by
  induction h generalizing after with
  | new => simp at hsplit
  | @enter history H role k new k' hbefore hentry ih =>
    obtain ⟨rest, hold, rfl⟩ | ⟨rest, rfl, hnew⟩ := append_eq_append_cons hsplit
    · exact ih hold
    · obtain ⟨rfl, r, rfl, -⟩ := hentry.answered hnew
      rw [List.append_nil]
      exact ⟨_, hbefore, by simp [Hand.attempts, Hand.generation?]⟩
  | fire _ d text ih => exact ih hsplit

theorem mem_ended {history : List Happening} {generation : Nat} {result : Except Failure Outcome}
    (h : .answered generation result ∈ history) : generation ∈ ended history :=
  List.mem_filterMap.mpr ⟨_, h, rfl⟩

/-- The result of an attempt that counts comes after those of earlier attempts only. -/
theorem IsPossible.lt_of_isLatest {armed : Bool} {history : List Happening} {H : Hands}
    (h : IsPossible view (.new armed) history H) {before after : List Happening}
    {g generation : Nat} {r result : Except Failure Outcome}
    (hsplit : history = before ++ .answered generation result :: after)
    (hearlier : .answered g r ∈ before) (hlatest : IsLatest before generation) :
    g < generation := by
  obtain ⟨H, hpossible, hunderway⟩ := h.answered hsplit
  obtain ⟨hbegun, hnodup, hle⟩ := hpossible.isNumbered
  have hended := mem_ended hearlier
  obtain ⟨hone, hg⟩ := hle g (Multiset.mem_add.mpr (.inr hended))
  have hmem : g ∈ begun before := by
    rw [hbegun, List.mem_range'_1]
    omega
  have hne : g ≠ generation := by
    rintro rfl
    exact Multiset.disjoint_left.mp (Multiset.nodup_add.mp hnodup).2.2 hunderway hended
  exact Nat.lt_of_le_of_ne (hlatest g hmem) hne

/-! ## What is shown -/

/-- Does an attempt begin or end? -/
def Happening.isOfAttempt : Happening → Bool
  | .began .. | .answered .. => true
  | _ => false

def Documents.output (x : Documents) : String × Status := (x.store.outputText, x.store.outputStatus)

/-- What is shown of how a transform went. -/
def Documents.metrics (x : Documents) : Option Int × Option Rating :=
  (x.store.executionTime, x.store.rating)

/-- Nothing but an attempt changes what is shown of attempts. -/
theorem Documents.next_frame (x : Documents) {h : Happening} (hh : h.isOfAttempt = false) :
    (x.next h).latest = x.latest ∧ (x.next h).output = x.output ∧
      (x.next h).metrics = x.metrics := by
  cases h with
  | edited time d text => cases d <;> exact ⟨rfl, rfl, rfl⟩
  | judged d text result =>
    have hnext : x.next (.judged d text result) = ⟨heard d text result x.store, x.latest⟩ := rfl
    rw [hnext, heard_eq]
    split
    · cases d <;> exact ⟨rfl, rfl, rfl⟩
    · exact ⟨rfl, rfl, rfl⟩
  | began | answered => cases hh
  | _ => exact ⟨rfl, rfl, rfl⟩

theorem Documents.after_frame (x : Documents) {hs : List Happening}
    (hhs : ∀ h ∈ hs, h.isOfAttempt = false) :
    (x.after hs).latest = x.latest ∧ (x.after hs).output = x.output ∧
      (x.after hs).metrics = x.metrics := by
  induction hs generalizing x with
  | nil => exact ⟨rfl, rfl, rfl⟩
  | cons h hs ih =>
    obtain ⟨hh, hhs⟩ := List.forall_mem_cons.mp hhs
    obtain ⟨hlatest, houtput, hmetrics⟩ := ih (x.next h) hhs
    obtain ⟨hlatest', houtput', hmetrics'⟩ := x.next_frame hh
    exact ⟨hlatest.trans hlatest', houtput.trans houtput', hmetrics.trans hmetrics'⟩

/-- An entry begins an attempt, or ends one, or has to do with none. -/
theorem Entry.ofAttempt {x : Documents} {k k' : Hand} {new : List Happening}
    (h : Entry view x k new k') :
    (∃ before request, new = before ++ [.began (x.latest + 1) request] ∧
        ∀ y ∈ before, y.isOfAttempt = false) ∨
      (∃ generation r, k = .awaiting generation r ∧
        new = [.answered generation (Service.Client.readOutcome r).2]) ∨
      ∀ y ∈ new, y.isOfAttempt = false := by
  cases h with
  | begin => exact .inl ⟨[], _, rfl, by simp⟩
  | trigger => exact .inl ⟨[.triggered], _, rfl, by simp [Happening.isOfAttempt]⟩
  | conclude g r => exact .inr (.inl ⟨g, r, rfl, rfl⟩)
  | _ => exact .inr (.inr (by simp [Happening.isOfAttempt]))

/-- What is shown of the latest attempt: nothing before there is one, that it is under way until it
has come to an answer or the service was not reached, and then what came of it. -/
structure IsShown (x : Documents) (history : List Happening) : Prop where
  none : x.latest = 0 → x.output = ("", .ready)
  pending : 0 < x.latest →
    (∀ answer result, .answered x.latest result ∈ history → endsAs answer result = false) →
      x.store.outputStatus = .transforming
  shown : ∀ answer result, .answered x.latest result ∈ history → endsAs answer result = true →
    x.output = answeredOutput answer

theorem transformed_of_not_ended {result : Except Failure Outcome} (st : Store)
    (h : ∀ answer, endsAs answer result = false) : transformed result st = st := by
  cases result with
  | ok o => simpa [endsAs] using h (.ok o)
  | error f =>
    cases f with
    | transport endpoint reason => simpa [endsAs] using h (.error reason)
    | _ => rfl

theorem IsShown.append_frame {x : Documents} {history new : List Happening}
    (hx : IsShown x history) (hnew : ∀ h ∈ new, h.isOfAttempt = false) :
    IsShown (x.after new) (history ++ new) := by
  obtain ⟨hlatest, houtput, -⟩ := x.after_frame hnew
  have hstatus : (x.after new).store.outputStatus = x.store.outputStatus :=
    congrArg Prod.snd houtput
  have hmem (result : Except Failure Outcome) :
      .answered (x.after new).latest result ∈ history ++ new ↔ .answered x.latest result ∈ history := by
    rw [hlatest, List.mem_append, or_iff_left]
    intro h
    cases hnew _ h
  refine ⟨?_, ?_, ?_⟩
  · rw [hlatest, houtput]
    exact hx.none
  · rw [hlatest, hstatus]
    exact fun hpos hno => hx.pending hpos fun answer result h =>
      hno answer result (hlatest ▸ (hmem result).mpr h)
  · rw [houtput]
    exact fun answer result h => hx.shown answer result ((hmem result).mp h)

/-- An attempt that begins is under way, and nothing has come of it yet. -/
theorem isShown_began (x : Documents) {generation : Nat} (request : Service.TransformRequest)
    {history : List Happening} (hpos : 0 < generation)
    (hnone : ∀ result, .answered generation result ∉ history) :
    IsShown (x.next (.began generation request)) history where
  none h := absurd h (Nat.ne_of_gt hpos)
  pending _ _ := rfl
  shown _ result h := absurd h (hnone result)

/-- An attempt that ends is shown if it is the latest one. -/
theorem IsShown.answered {x : Documents} {history : List Happening} (hx : IsShown x history)
    {generation : Nat} (result : Except Failure Outcome) (hpos : 0 < x.latest)
    (hnone : ∀ r, .answered generation r ∉ history) :
    IsShown (x.next (.answered generation result)) (history ++ [.answered generation result]) := by
  by_cases hlatest : generation = x.latest
  · have hnext : x.next (.answered generation result) =
        { x with store := transformed result x.store } := if_pos hlatest
    have honly (r : Except Failure Outcome)
        (h : .answered x.latest r ∈ history ++ [.answered generation result]) : r = result := by
      obtain h | h := List.mem_append.mp h
      · exact absurd (hlatest ▸ h) (hnone r)
      · cases List.mem_singleton.mp h
        rfl
    have hmem : .answered x.latest result ∈ history ++ [.answered generation result] := by
      simp [hlatest]
    rw [hnext]
    refine ⟨fun h => absurd h (Nat.ne_of_gt hpos), fun _ hno => ?_, fun answer r h hends => ?_⟩
    · dsimp only at hno ⊢
      rw [transformed_of_not_ended x.store fun answer => hno answer result hmem]
      refine hx.pending hpos fun answer r h => ?_
      exact absurd (hlatest ▸ h) (hnone r)
    · obtain rfl := honly r h
      exact outputAfter_eq hends x.store
  · have hnext : x.next (.answered generation result) = x := if_neg hlatest
    have hmem (r : Except Failure Outcome) :
        .answered x.latest r ∈ history ++ [.answered generation result] ↔
          .answered x.latest r ∈ history := by
      rw [List.mem_append, or_iff_left]
      intro h
      cases List.mem_singleton.mp h
      exact hlatest rfl
    rw [hnext]
    refine ⟨hx.none, fun hpos hno => ?_, fun answer r h => hx.shown answer r ((hmem r).mp h)⟩
    exact hx.pending hpos fun answer r h => hno answer r ((hmem r).mpr h)

theorem IsPossible.isShown {armed : Bool} {history : List Happening} {H : Hands}
    (h : IsPossible view (.new armed) history H) :
    IsShown ((Documents.new armed).after history) history := by
  induction h with
  | new => exact ⟨fun _ => rfl, fun h => absurd h (Nat.lt_irrefl 0), by simp⟩
  | @enter history H role k new k' hpossible hentry ih =>
    obtain ⟨-, hnodup, hle⟩ := hpossible.isNumbered
    rw [Documents.after_append]
    obtain ⟨before, request, rfl, hframe⟩ | ⟨g, r, rfl, rfl⟩ | hframe := hentry.ofAttempt
    · rw [Documents.after_append]
      refine isShown_began _ request (Nat.succ_pos _) fun result hmem => ?_
      -- only attempts that have begun have ended
      have hold : .answered (((Documents.new armed).after history).latest + 1) result ∈ history := by
        simp only [List.mem_append, List.mem_singleton] at hmem
        obtain hmem | hmem | hmem := hmem
        · exact hmem
        · cases hframe _ hmem
        · cases hmem
      have := hle _ (Multiset.mem_add.mpr (.inr (mem_ended hold)))
      omega
    · have hunderway : g ∈ (Hands.add H role (.awaiting g r)).attempts := by
        simp [Hand.attempts, Hand.generation?]
      refine ih.answered _ ?_ fun result hmem => ?_
      · have := hle g (Multiset.mem_add.mpr (.inl hunderway))
        omega
      · exact Multiset.disjoint_left.mp (Multiset.nodup_add.mp hnodup).2.2 hunderway (mem_ended hmem)
    · exact ih.append_frame hframe
  | fire _ d text ih => exact ih

/-! ## Metrics -/

/-- The outcome of the last attempt that counted and succeeded, if there is one. -/
inductive LastSuccess : List Happening → Option Outcome → Prop
  | none : LastSuccess [] none
  | success {history last generation o} (h : LastSuccess history last) (ho : o.success = true)
      (hlatest : IsLatest history generation) :
      LastSuccess (history ++ [.answered generation (.ok o)]) (some o)
  | other {history last x} (h : LastSuccess history last)
      (hx : ∀ generation o, x = .answered generation (.ok o) → o.success = true →
        ¬ IsLatest history generation) : LastSuccess (history ++ [x]) last

theorem LastSuccess.append_frame {history new : List Happening} {last : Option Outcome}
    (h : LastSuccess history last) (hnew : ∀ y ∈ new, y.isOfAttempt = false) :
    LastSuccess (history ++ new) last := by
  induction new generalizing history with
  | nil => rwa [List.append_nil]
  | cons y new ih =>
    obtain ⟨hy, hnew⟩ := List.forall_mem_cons.mp hnew
    rw [← List.singleton_append, ← List.append_assoc]
    refine ih (h.other fun generation o heq => ?_) hnew
    rw [heq] at hy
    cases hy

/-- What a success shows of how it went. -/
def metricsOf : Option Outcome → Option Int × Option Rating
  | none => (none, none)
  | some o => (o.executionTime, some (o.rating.getD .unknown))

theorem metrics_transformed (result : Except Failure Outcome) (st : Store) :
    (∃ o, result = .ok o ∧ o.success = true ∧
        ((transformed result st).executionTime, (transformed result st).rating) =
          metricsOf (some o)) ∨
      ((∀ o, result = .ok o → o.success = false) ∧
        ((transformed result st).executionTime, (transformed result st).rating) =
          (st.executionTime, st.rating)) := by
  cases result with
  | ok o =>
    cases ho : o.success with
    | true => exact .inl ⟨o, rfl, ho, by simp [transformed, ho, succeeded, metricsOf]⟩
    | false =>
      refine .inr ⟨fun o' heq => ?_, by simp [transformed, ho, failed]⟩
      cases heq
      exact ho
  | error f =>
    refine .inr ⟨fun o heq => (by cases heq), ?_⟩
    cases f <;> rfl

theorem IsPossible.lastSuccess {armed : Bool} {history : List Happening} {H : Hands}
    (h : IsPossible view (.new armed) history H) :
    ∃ last, LastSuccess history last ∧
      ((Documents.new armed).after history).metrics = metricsOf last := by
  induction h with
  | new => exact ⟨none, .none, rfl⟩
  | @enter history H role k new k' hpossible hentry ih =>
    obtain ⟨last, hlast, hmetrics⟩ := ih
    rw [Documents.after_append]
    generalize hx : (Documents.new armed).after history = x at hmetrics hentry ⊢
    obtain ⟨before, request, rfl, hframe⟩ | ⟨g, r, rfl, rfl⟩ | hframe := hentry.ofAttempt
    · refine ⟨last, ?_, ?_⟩
      · rw [← List.append_assoc]
        exact (hlast.append_frame hframe).other fun generation o heq => by cases heq
      · rw [Documents.after_append]
        exact (x.after_frame hframe).2.2.trans hmetrics
    · have hlatest : IsLatest history g ↔ g = x.latest := by
        rw [← hx]
        exact hpossible.isNumbered.isLatest_iff (by simp [Hand.attempts, Hand.generation?])
      generalize (Service.Client.readOutcome r).2 = result
      by_cases hg : g = x.latest
      · have hnext : (x.after [.answered g result]).metrics =
            ((transformed result x.store).executionTime, (transformed result x.store).rating) := by
          simp [Documents.next, hg, Documents.metrics]
        rw [hnext]
        obtain ⟨o, rfl, ho, hshown⟩ | ⟨hfailed, hshown⟩ := metrics_transformed result x.store
        · exact ⟨some o, hlast.success ho (hlatest.mpr hg), hshown⟩
        · refine ⟨last, hlast.other fun generation o heq ho => ?_, hshown.trans hmetrics⟩
          cases heq
          rw [hfailed o rfl] at ho
          cases ho
      · refine ⟨last, hlast.other fun generation o heq _ => ?_, ?_⟩
        · cases heq
          exact fun h => hg (hlatest.mp h)
        · have hnext : x.after [.answered g result] = x := by
            simp [Documents.next, hg]
          rw [hnext]
          exact hmetrics
    · exact ⟨last, hlast.append_frame hframe, (x.after_frame hframe).2.2.trans hmetrics⟩
  | fire _ d text ih => exact ih

end Workbench.Session
