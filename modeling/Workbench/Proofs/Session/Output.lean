import Workbench.Document.Store
import Workbench.Proofs.Session.Settled

/-!
# Coherent output

While the automatic transform is armed and both drafts are valid, a transform of just these drafts
has begun last or is due, and the output shows the latest transform that ended. So once nothing is
under way, the output is what the service makes of the drafts as they are.
-/
namespace Workbench.Session

open Document (Draft Status Store)
open Service (Outcome Request)
open Turn (Activity)

variable {V : Type} {view : View V}

/-- The number of the transform that somebody with this in hand is after. -/
def Hand.generation? : Hand → Option Nat
  | .calling generation _ => some generation
  | .awaiting generation _ => some generation
  | _ => none

/-- A transform with this number is under way. -/
def Hands.IsOut (H : Hands) (generation : Nat) : Prop :=
  ∃ x ∈ H, x.2.generation? = some generation

/-- It is still so while what is in hand of one activity changes but not the number. -/
theorem Hands.IsOut.change {H : Hands} {role : Role} {k k' : Hand} {generation : Nat}
    (h : (H.add role k).IsOut generation)
    (hk : k.generation? = some generation → k'.generation? = some generation) :
    (H.add role k').IsOut generation := by
  obtain ⟨x, hmem, hx⟩ := h
  obtain hmem | ⟨rfl, -⟩ := mem_add.mp hmem
  · exact ⟨x, mem_add_of_mem hmem, hx⟩
  · have hx' := hk hx
    refine ⟨(role, k'), mem_add_self ?_, hx'⟩
    rintro rfl
    cases hx'

/-- The output with its status. -/
def output (s : Session V) : String × Status := (s.store.outputText, s.store.outputStatus)

/-- The output when a transform has ended so. -/
def outputAfter (result : Except Failure Outcome) (st : Store) : String × Status :=
  ((transformed result st).outputText, (transformed result st).outputStatus)

/-- Was a transform kept from being sent? -/
def Happening.isUnsent : Happening → Bool
  | .refused (.transform _) _ => true
  | _ => false

/-- The latest transform is under way, or the output shows what came of it, unless it could not be
sent. -/
def IsCurrent (x : Session V × Hands) : Prop :=
  ∀ request, .began x.1.generation request ∈ x.1.history →
    x.2.IsOut x.1.generation ∨
      (∃ result st, .answered x.1.generation result ∈ x.1.history ∧
        x.1.output = outputAfter result st) ∨
      ∃ y ∈ x.1.history, y.isUnsent = true

/-- When a transform is to start by itself, it is due, or the latest one is for the drafts as they
are. -/
def IsPrompt (x : Session V × Hands) : Prop :=
  x.1.isPrimed = true → (∃ role, (role, .owing) ∈ x.2) ∨
    .began x.1.generation x.1.request ∈ x.1.history

theorem Move.mem_history {s t : Session V} {k k' : Hand} (h : Move view (s, k) (t, k'))
    {y : Happening} (hy : y ∈ s.history) : y ∈ t.history := by
  obtain ⟨new, heq, -⟩ := h.history
  rw [heq]
  exact List.mem_append_left _ hy

theorem IsCurrent.move {s t : Session V} {k k' : Hand} {H : Hands} {role : Role}
    (hview : ¬ View.CanBreak view) (hs : IsCurrent (s, H.add role k))
    (h : Move view (s, k) (t, k')) : IsCurrent (t, H.add role k') := by
  intro request hbegan
  -- the latest transform, the output and the number in hand stay as they are
  have hstill (hgeneration : t.generation = s.generation)
      (hmem : .began s.generation request ∈ s.history) (houtput : t.output = s.output)
      (hhand : k.generation? = some s.generation → k'.generation? = some s.generation) :
      (H.add role k').IsOut t.generation ∨
        (∃ result st, .answered t.generation result ∈ t.history ∧
          t.output = outputAfter result st) ∨ ∃ y ∈ t.history, y.isUnsent = true := by
    rw [hgeneration, houtput]
    obtain hout | ⟨result, st, hanswer, hshown⟩ | ⟨y, hy, hunsent⟩ := hs request hmem
    · exact .inl (hout.change hhand)
    · exact .inr (.inl ⟨result, st, h.mem_history hanswer, hshown⟩)
    · exact .inr (.inr ⟨y, h.mem_history hy, hunsent⟩)
  have hlast {x : Happening} (hx : x ≠ .began s.generation request)
      (hmem : .began s.generation request ∈ s.history ++ [x]) :
      .began s.generation request ∈ s.history := by
    obtain hmem | hmem := List.mem_append.mp hmem
    · exact hmem
    · exact absurd (List.mem_singleton.mp hmem).symm hx
  dsimp only at hbegan
  cases h with
  | quiet _ hq =>
    rw [hq.generation, hq.history] at hbegan
    exact hstill hq.generation hbegan (by rw [output, output, hq.store]) id
  | spawn _ role plan hp hq =>
    rw [hq.generation, hq.history] at hbegan
    exact hstill hq.generation hbegan (by rw [output, output, hq.store]) id
  | edit _ _ d text =>
    rw [history_putText, generation_putText] at hbegan
    exact hstill (generation_putText ..) (hlast (by simp) hbegan) (by simp [output]) id
  | overtake => exact hstill rfl (hlast (by simp) hbegan) rfl id
  | close => exact hstill rfl (hlast (by simp) hbegan) rfl id
  | arm => exact hstill rfl (hlast (by simp) hbegan) rfl (by simp [Hand.generation?])
  | take => exact hstill rfl hbegan rfl (by simp [Hand.generation?])
  | send =>
    refine hstill rfl (hlast (by simp) hbegan) rfl fun hk => ?_
    cases k <;> exact hk
  | @refuse _ _ c f hcall hsend =>
    obtain hcall | rfl := hcall
    · cases k with
      | calling generation request' =>
        cases hcall
        exact .inr (.inr ⟨_, List.mem_append_right _ (List.mem_singleton_self _), rfl⟩)
      | asking d text =>
        cases hcall
        exact hstill rfl (hlast (by simp) hbegan) rfl (by simp [Hand.generation?])
      | _ => cases hcall
    · exact hstill rfl (hlast (by simp) hbegan) rfl (by simp [Hand.generation?])
  | hear _ d text r =>
    exact hstill rfl (hlast (by simp) hbegan) (by simp [output]) (by simp [Hand.generation?])
  | begin | trigger =>
    exact .inl ⟨(role, .calling (s.generation + 1) s.request), Hands.mem_add_self (by simp), rfl⟩
  | warn => exact hstill rfl (hlast (by simp) hbegan) rfl (by simp [Hand.generation?])
  | conclude _ g r =>
    by_cases hg : g = s.generation
    · subst hg
      refine .inr (.inl ⟨_, s.store, List.mem_append_right _ (List.mem_singleton_self _), ?_⟩)
      rw [output, outputAfter, store_hearOutcome, if_pos rfl]
    · refine hstill rfl (hlast (by simp) hbegan) ?_ ?_
      · rw [output, output, store_hearOutcome, if_neg hg]
      · intro hk
        exact absurd (Option.some.inj hk) hg
  | drop _ _ _ hbreak => exact absurd hbreak hview

theorem IsCurrent.shift {x y : Session V × Hands} (hview : ¬ View.CanBreak view)
    (h : Shift view x y) (hx : IsCurrent x) : IsCurrent y := by
  cases h with
  | move H role h => exact hx.move hview h
  | @fire s t d text H hwork hq =>
    intro request hbegan
    dsimp only at hbegan ⊢
    rw [hq.generation, hq.history] at hbegan ⊢
    obtain ⟨z, hmem, hz⟩ | ⟨result, st, hanswer, hshown⟩ | hunsent := hx request hbegan
    · exact .inl ⟨z, Hands.mem_add_of_mem hmem, hz⟩
    · exact .inr (.inl ⟨result, st, hanswer, by rw [← hshown, output, output, hq.store]⟩)
    · exact .inr (.inr hunsent)
  | @board s t H hq =>
    intro request hbegan
    dsimp only at hbegan ⊢
    rw [hq.generation, hq.history] at hbegan ⊢
    have houtput : t.output = s.output := by rw [output, output, hq.store]
    rw [houtput]
    exact hx request hbegan

/-- Where both drafts are valid there is nothing missing for a transform. -/
theorem Attained.missing?_eq_none {x : Session V × Hands} (hx : Attained view x)
    (h : x.1.isPrimed = true) : missing? x.1.store = none := by
  obtain ⟨armed, hrecorded⟩ := hx.isRecorded
  have hprimed : x.1.documents.isPrimed = true := h
  rw [hrecorded.documents] at hprimed
  have hmissing := hx.isGrounded.founded.missing?_eq_none hprimed
  rwa [← hrecorded.documents] at hmissing

theorem request_congr {s t : Session V}
    (h : ∀ d, (t.store.draft d).text = (s.store.draft d).text) : t.request = s.request := by
  have hinput := h .input
  have hspec := h .spec
  unfold Store.draft at hinput hspec
  rw [request, request, hinput, hspec]

theorem request_begin (s : Session V) : s.begin.request = s.request :=
  request_congr fun d => by rw [draft_begin]

theorem isPrimed_congr {s t : Session V} (harmed : t.store.armed = s.store.armed)
    (hdraft : ∀ d, t.store.draft d = s.store.draft d) : t.isPrimed = s.isPrimed := by
  have hboth : t.store.bothValid = s.store.bothValid := by
    simp only [Store.bothValid, Store.hasSnapshot, hdraft]
  rw [isPrimed, isPrimed, harmed, hboth]

theorem IsPrompt.move {s t : Session V} {k k' : Hand} {H : Hands} {role : Role}
    (hview : ¬ View.CanBreak view) (hattained : Attained view (s, H.add role k))
    (hs : IsPrompt (s, H.add role k)) (h : Move view (s, k) (t, k')) :
    IsPrompt (t, H.add role k') := by
  intro hprimed
  -- it was to start by itself already, and nothing has become of it since
  have hstill (hbefore : s.isPrimed = true) (hgeneration : t.generation = s.generation)
      (htext : ∀ d, (t.store.draft d).text = (s.store.draft d).text)
      (hhand : k = .owing → k' = .owing) :
      (∃ role', (role', .owing) ∈ H.add role k') ∨ .began t.generation t.request ∈ t.history := by
    rw [hgeneration, request_congr htext]
    obtain ⟨role', hmem⟩ | hbegan := hs hbefore
    · obtain hmem | ⟨heq, -⟩ := Hands.mem_add.mp hmem
      · exact .inl ⟨role', Hands.mem_add_of_mem hmem⟩
      · obtain ⟨rfl, rfl⟩ := Prod.mk.inj heq
        rw [hhand rfl]
        exact .inl ⟨role', Hands.mem_add_self (by simp)⟩
    · exact .inr (h.mem_history hbegan)
  have hrising (hbefore : s.isPrimed ≠ true) (hk' : k' = t.handAfter s) :
      (∃ role', (role', .owing) ∈ H.add role k') ∨ .began t.generation t.request ∈ t.history := by
    have howing : k' = .owing := by
      dsimp only at hprimed
      simp [hk', handAfter, hprimed, hbefore]
    rw [howing]
    exact .inl ⟨role, Hands.mem_add_self (by simp)⟩
  have hsame (hstore : t.store = s.store) : s.isPrimed = true := by
    dsimp only at hprimed
    rwa [isPrimed, hstore] at hprimed
  cases h with
  | quiet _ hq =>
    exact hstill (hsame hq.store) hq.generation (fun d => by rw [hq.store]) id
  | spawn _ role plan hp hq =>
    exact hstill (hsame hq.store) hq.generation (fun d => by rw [hq.store]) id
  | edit _ _ d text =>
    -- the draft has no snapshot now
    have hnone : ((s.putText d text).store.draft d).snapshot = none := by
      rw [draft_putText, if_pos rfl]
      rfl
    simp [isPrimed, Store.bothValid_of_snapshot_none hnone] at hprimed
  | overtake => exact hstill (hsame rfl) rfl (fun _ => rfl) id
  | close => exact hstill (hsame rfl) rfl (fun _ => rfl) id
  | arm _ armed =>
    by_cases hbefore : s.isPrimed = true
    · exact hstill hbefore rfl (fun d => by rw [draft_switch]) (by simp)
    · exact hrising hbefore rfl
  | take => exact hstill (hsame rfl) rfl (fun _ => rfl) (by simp)
  | send =>
    refine hstill (hsame rfl) rfl (fun _ => rfl) ?_
    rintro rfl
    rfl
  | refuse hcall =>
    refine hstill (hsame rfl) rfl (fun _ => rfl) ?_
    rintro rfl
    obtain hcall | hfree := hcall
    · cases hcall
    · cases hfree
  | hear _ d text r =>
    by_cases hbefore : s.isPrimed = true
    · exact hstill hbefore rfl (fun e => text_hearVerdict ..) (by simp)
    · exact hrising hbefore rfl
  | begin | trigger =>
    refine .inr (List.mem_append_right _ (List.mem_singleton.mpr ?_))
    exact congrArg _ (request_begin _)
  | warn _ hmissing => exact absurd (hattained.missing?_eq_none (hsame rfl)) hmissing
  | conclude _ g r =>
    have hbefore : s.isPrimed = true := by
      dsimp only at hprimed
      rwa [isPrimed_congr (armed_hearOutcome ..) fun d => draft_hearOutcome s d g _] at hprimed
    exact hstill hbefore rfl (fun d => by rw [draft_hearOutcome]) (by simp)
  | drop _ _ _ hbreak => exact absurd hbreak hview

theorem IsPrompt.shift {x y : Session V × Hands} (hview : ¬ View.CanBreak view)
    (hattained : Attained view x) (h : Shift view x y) (hx : IsPrompt x) : IsPrompt y := by
  cases h with
  | move H role h => exact hx.move hview hattained h
  | @fire s t d text H hwork hq =>
    intro hprimed
    have hrequest : t.request = s.request := request_congr fun e => by rw [hq.store]
    dsimp only at hprimed ⊢
    rw [hq.generation, hq.history, hrequest]
    rw [isPrimed, hq.store] at hprimed
    exact (hx hprimed).imp_left (Exists.imp fun role => Hands.mem_add_of_mem)
  | @board s t H hq =>
    intro hprimed
    have hrequest : t.request = s.request := request_congr fun e => by rw [hq.store]
    dsimp only at hprimed ⊢
    rw [hq.generation, hq.history, hrequest]
    rw [isPrimed, hq.store] at hprimed
    exact hx hprimed

/-- Is the reply of the service to a call still to be taken up? -/
def Stage.isReply : Stage → Bool
  | .verdict .. | .stray .. | .outcome .. | .names .. => true
  | _ => false

/-- The output for an answer of the service. -/
def answeredOutput : Except String Outcome → String × Status
  | .ok o =>
    if o.success then (o.result.getD "", ⟨"Success", .valid, some "Transformation successful"⟩)
    else ("", ⟨"Error", .error, some (errorText o)⟩)
  | .error reason => ("", ⟨"Error", .error, some ("Request failed: " ++ reason)⟩)

theorem outputAfter_eq {answer : Except String Outcome} {result : Except Failure Outcome}
    (h : endsAs answer result = true) (st : Store) :
    outputAfter result st = answeredOutput answer := by
  cases result with
  | ok o =>
    cases answer with
    | ok o' =>
      obtain rfl : o = o' := by simpa [endsAs] using h
      unfold outputAfter transformed answeredOutput
      dsimp only
      split <;> rfl
    | error reason => cases h
  | error f =>
    cases f with
    | transport endpoint reason =>
      cases answer with
      | ok o => cases h
      | error r =>
        obtain rfl : reason = r := by simpa [endsAs] using h
        rfl
    | _ => cases h

end Workbench.Session
