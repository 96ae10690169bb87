import Mathlib.Algebra.BigOperators.Group.Multiset.Basic
import Workbench.Proofs.Session.Attended

/-!
# When a session asks for a transform

A session asks for a transform by itself exactly as often as it comes to be armed with two valid
drafts. The transform then begins at once, with the two texts that were found valid.
-/
namespace Workbench.Session

open Document (Draft Store)
open Service (Request TransformRequest)

variable {V : Type} {view : View V}

/-- Did the session itself ask for a transform? -/
def Happening.isTrigger : Happening → Bool
  | .triggered => true
  | _ => false

/-- How often a transform comes to start by itself in the course of a history. -/
def Documents.rises (x : Documents) : List Happening → Nat
  | [] => 0
  | h :: hs => (if (x.next h).isPrimed && !x.isPrimed then 1 else 0) + (x.next h).rises hs

theorem Documents.rises_append (x : Documents) (hs hs' : List Happening) :
    x.rises (hs ++ hs') = x.rises hs + (x.after hs).rises hs' := by
  induction hs generalizing x with
  | nil => simp [rises]
  | cons h hs ih => simp only [List.cons_append, rises, ih, after_cons, Nat.add_assoc]

/-- The number of transforms that are due with this in hand. -/
def Hand.owed : Hand → Nat
  | .owing => 1
  | _ => 0

def Hands.owed (H : Hands) : Nat := (H.map fun x => x.2.owed).sum

@[simp]
theorem Hands.owed_add (H : Hands) (role : Role) (k : Hand) :
    (H.add role k).owed = H.owed + k.owed := by
  unfold owed add
  cases k <;> simp [Hand.isFree, Hand.owed, Nat.add_comm]

/-! ## As often as it comes to be due -/

theorem Documents.owed_handAfter (x : Documents) (h : Happening) :
    (x.handAfter h).owed = x.rises [h] := by
  unfold handAfter rises rises
  split <;> rfl

/-- Nothing comes to be due while the documents stay ready or not. -/
theorem Documents.rises_of_isPrimed_eq {x : Documents} {h : Happening}
    (hx : (x.next h).isPrimed = x.isPrimed) : x.rises [h] = 0 := by
  simp [rises, hx]

theorem Documents.isPrimed_edited (x : Documents) (time : Nat) (d : Draft) (text : String) :
    (x.next (.edited time d text)).isPrimed = false := by
  -- the draft has no snapshot now
  have hnone : ((x.next (.edited time d text)).store.draft d).snapshot = none := by
    simp [next, freshDraft]
  simp [isPrimed, Store.bothValid_of_snapshot_none hnone]

theorem Documents.isPrimed_congr {x y : Documents} (harmed : y.store.armed = x.store.armed)
    (hdraft : ∀ d, y.store.draft d = x.store.draft d) : y.isPrimed = x.isPrimed := by
  simp only [isPrimed, Store.bothValid, Store.hasSnapshot, harmed, hdraft]

theorem Documents.isPrimed_began (x : Documents) (generation : Nat) (request : TransformRequest) :
    (x.next (.began generation request)).isPrimed = x.isPrimed :=
  isPrimed_congr rfl fun d => by cases d <;> rfl

theorem Documents.isPrimed_answered (x : Documents) (generation : Nat)
    (result : Except Failure Service.Outcome) :
    (x.next (.answered generation result)).isPrimed = x.isPrimed := by
  unfold next
  dsimp only
  split
  · exact isPrimed_congr (armed_transformed ..) fun d => draft_transformed ..
  · rfl

theorem owed_start (a : Action) : (Stage.start a).hand.owed = 0 := by
  obtain hfree | ⟨b, d, text, -, hasking⟩ := hand_start a
  · rw [hfree]
    rfl
  · rw [hasking]
    rfl

theorem owed_of_call {k : Hand} {c : Service.Call} (h : k.call? = some c ∨ k = .free) :
    k.owed = 0 := by
  obtain h | rfl := h
  · cases k <;> first | rfl | cases h
  · rfl

/-- A transform that is due is asked for once, and it comes to be due when it is to start by itself
and was not before. -/
theorem Entry.owed {x : Documents} {k k' : Hand} {new : List Happening}
    (h : Entry view x k new k') (hview : ¬ View.CanBreak view) :
    new.countP Happening.isTrigger + k'.owed = k.owed + x.rises new := by
  cases h with
  | nothing => simp [Documents.rises]
  | edit _ time d text =>
    simp [Happening.isTrigger, Documents.rises, Documents.isPrimed_edited]
  | overtake | close =>
    simp [Happening.isTrigger, Documents.rises, Documents.next]
  | switch armed =>
    rw [Documents.owed_handAfter]
    rfl
  | take a => simpa [Hand.owed, Documents.rises] using owed_start a
  | send reply hk =>
    have hsent : (k.sent reply.reaction).owed = k.owed := by cases k <;> rfl
    simp [Happening.isTrigger, Documents.rises, Documents.next, hsent]
  | refuse f hk =>
    rw [owed_of_call hk]
    simp [Happening.isTrigger, Documents.rises, Documents.next, Hand.owed]
  | hear d text r =>
    rw [Documents.owed_handAfter]
    rfl
  | begin =>
    rw [Documents.rises_of_isPrimed_eq (Documents.isPrimed_began ..)]
    rfl
  | trigger =>
    have hbegan : x.rises [.triggered, .began (x.latest + 1) x.request] = 0 := by
      rw [Documents.rises, Documents.rises_of_isPrimed_eq (Documents.isPrimed_began ..)]
      simp [Documents.next]
    rw [hbegan]
    rfl
  | warn => simp [Happening.isTrigger, Documents.rises, Documents.next, Hand.owed]
  | conclude g r =>
    rw [Documents.rises_of_isPrimed_eq (Documents.isPrimed_answered ..)]
    rfl
  | drop _ hbreak => exact absurd hbreak hview

theorem IsPossible.owed {start : Documents} {history : List Happening} {H : Hands}
    (h : IsPossible view start history H) (hview : ¬ View.CanBreak view) :
    history.countP Happening.isTrigger + H.owed = start.rises history := by
  induction h with
  | new => simp [Hands.owed, Documents.rises]
  | @enter history H role k new k' _ hentry ih =>
    have hnew := hentry.owed hview
    rw [Hands.owed_add] at ih
    rw [List.countP_append, Documents.rises_append, Hands.owed_add, ← ih]
    omega
  | fire _ d text ih => simpa [Hand.owed] using ih

/-! ## What comes of it -/

/-- What follows when the session asks for a transform. -/
theorem Entry.triggered {x : Documents} {k k' : Hand} {new before after : List Happening}
    (h : Entry view x k new k') (hnew : new = before ++ .triggered :: after) :
    before = [] ∧ x.isPrimed = true ∧
      (after = [.began (x.latest + 1) x.request] ∨ missing? x.store ≠ none) := by
  cases h with
  | nothing | take | drop => simp at hnew
  | trigger hx h =>
    cases before with
    | nil =>
      obtain ⟨-, rfl⟩ := List.cons.inj hnew
      exact ⟨rfl, hx, .inl rfl⟩
    | cons y before =>
      obtain ⟨-, hlast⟩ := List.cons.inj hnew
      cases (singleton_eq_append_cons.mp hlast).2.1
  | warn hx h => exact ⟨(singleton_eq_append_cons.mp hnew).1, hx, .inr h⟩
  | _ => cases (singleton_eq_append_cons.mp hnew).2.1

/-- A transform that the session asks for is due, and begins at once. -/
theorem IsPossible.triggered {armed : Bool} {history : List Happening} {H : Hands}
    (h : IsPossible view (.new armed) history H) (hfounded : IsFounded history)
    {before after : List Happening} (hsplit : history = before ++ .triggered :: after) :
    let x := (Documents.new armed).after before
    x.isPrimed = true ∧ ∃ rest, after = .began (x.latest + 1) x.request :: rest := by
  induction h generalizing after with
  | new => simp at hsplit
  | @enter history H role k new k' _ hentry ih =>
    obtain ⟨rest, hold, rfl⟩ | ⟨rest, rfl, hnew⟩ := append_eq_append_cons hsplit
    · obtain ⟨hprimed, rest', rfl⟩ := ih hfounded.of_append hold
      exact ⟨hprimed, rest' ++ new, rfl⟩
    · obtain ⟨rfl, hprimed, rfl | hmissing⟩ := hentry.triggered hnew
      · rw [List.append_nil]
        exact ⟨hprimed, [], rfl⟩
      · exact absurd (hfounded.of_append.missing?_eq_none hprimed) hmissing
  | fire _ d text ih => exact ih hfounded hsplit

/-- The request was sent, or could not be. -/
def IsCalled (history : List Happening) (request : TransformRequest) : Prop :=
  (∃ sent reply, .sent sent reply ∈ history ∧
      Request.transform? request = some sent.outgoing.request) ∨
    ∃ f, .refused (.transform request) f ∈ history

theorem IsCalled.mono {history new : List Happening} {request : TransformRequest}
    (h : IsCalled history request) : IsCalled (history ++ new) request := by
  obtain ⟨sent, reply, hmem, hbody⟩ | ⟨f, hmem⟩ := h
  · exact .inl ⟨sent, reply, List.mem_append_left _ hmem, hbody⟩
  · exact .inr ⟨f, List.mem_append_left _ hmem⟩

/-- Who is to call for a transform still is, or has called. -/
theorem Entry.calling {x : Documents} {k k' : Hand} {new : List Happening}
    (h : Entry view x k new k') (hview : ¬ View.CanBreak view) {generation : Nat}
    {request : TransformRequest} (hk : k = .calling generation request) :
    k' = .calling generation request ∨ IsCalled new request := by
  subst hk
  cases h with
  | nothing | edit | overtake | close => exact .inl rfl
  | send reply hk hbody =>
    obtain hcall | hfree := hk
    · cases hcall
      exact .inr (.inl ⟨_, reply, List.mem_singleton_self _, hbody⟩)
    · cases hfree
  | refuse f hk =>
    obtain hcall | hfree := hk
    · cases hcall
      exact .inr (.inr ⟨f, List.mem_singleton_self _⟩)
    · cases hfree
  | drop _ hbreak => exact absurd hbreak hview

theorem Entry.began {x : Documents} {k k' : Hand} {new : List Happening}
    (h : Entry view x k new k') {generation : Nat} {request : TransformRequest}
    (hmem : .began generation request ∈ new) : k' = .calling generation request := by
  cases h with
  | begin => cases List.mem_singleton.mp hmem; rfl
  | trigger =>
    obtain heq | hmem := List.mem_cons.mp hmem
    · cases heq
    · cases List.mem_singleton.mp hmem
      rfl
  | _ => simp at hmem

/-- A transform that has begun is called for. -/
theorem IsPossible.called {start : Documents} {history : List Happening} {H : Hands}
    (h : IsPossible view start history H) (hview : ¬ View.CanBreak view) {generation : Nat}
    {request : TransformRequest} (hbegan : .began generation request ∈ history) :
    (∃ role, (role, .calling generation request) ∈ H) ∨ IsCalled history request := by
  induction h with
  | new => cases hbegan
  | @enter history H role k new k' _ hentry ih =>
    obtain hold | hnew := List.mem_append.mp hbegan
    · obtain ⟨role', hmem⟩ | hcalled := ih hold
      · obtain hmem | ⟨heq, -⟩ := Hands.mem_add.mp hmem
        · exact .inl ⟨role', Hands.mem_add_of_mem hmem⟩
        · obtain ⟨-, hk⟩ := Prod.mk.inj heq
          obtain rfl | ⟨sent, reply, hmem, hbody⟩ | ⟨f, hmem⟩ := hentry.calling hview hk.symm
          · exact .inl ⟨role, Hands.mem_add_self (by simp)⟩
          · exact .inr (.inl ⟨sent, reply, List.mem_append_right _ hmem, hbody⟩)
          · exact .inr (.inr ⟨f, List.mem_append_right _ hmem⟩)
      · exact .inr hcalled.mono
    · rw [hentry.began hnew]
      exact .inl ⟨role, Hands.mem_add_self (by simp)⟩
  | fire _ d text ih =>
    exact (ih hbegan).imp_left fun ⟨role, hmem⟩ => ⟨role, Hands.mem_add_of_mem hmem⟩

/-! ## Between two stretches of work -/

theorem hand_of_mem_hands {s : Session V} {role : Role} {k : Hand} (h : (role, k) ∈ s.hands) :
    ∃ stage : Stage, stage.hand = k := by
  obtain ⟨-, t, -, -, plan, -, hhand⟩ := Hands.mem_ofTasks.mp h
  exact ⟨plan.stage, hhand⟩

/-- Between two stretches of work no transform is due or about to be called for. -/
theorem Stage.hand_ne (stage : Stage) :
    stage.hand ≠ .owing ∧ ∀ generation request, stage.hand ≠ .calling generation request := by
  cases stage with
  | start a =>
    obtain hfree | ⟨b, d, text, -, hasking⟩ := hand_start a
    · simp [hfree]
    · simp [hasking]
  | _ => simp [Stage.hand]

theorem owed_hands (s : Session V) : s.hands.owed = 0 := by
  refine Multiset.sum_eq_zero fun n hn => ?_
  obtain ⟨⟨role, k⟩, hmem, rfl⟩ := Multiset.mem_map.mp hn
  obtain ⟨stage, rfl⟩ := hand_of_mem_hands hmem
  have hne := stage.hand_ne.1
  generalize stage.hand = k at hne
  cases k with
  | owing => exact absurd rfl hne
  | _ => rfl

/-- A session asks for a transform as often as it comes to be armed with two valid drafts. Each time
a transform begins at once, with the two texts that were found valid, and is called for. -/
theorem triggers_on_rising_edges {settings : Settings} {window : Nat} {armed : Bool}
    {client : Service.Client} {server : Service.Server} {ownsClient watched : Bool} {v : V}
    {s : Session V}
    (hs : Run view (.new settings window armed client server ownsClient watched v) s)
    (hview : ¬ View.CanBreak view) :
    s.store = ((Documents.new armed).after s.history).store ∧
      s.history.countP Happening.isTrigger = (Documents.new armed).rises s.history ∧
      ∀ before after, s.history = before ++ .triggered :: after →
        ∃ input spec generation rest,
          IsValidated (((Documents.new armed).after before).store.draft .input) input ∧
          IsValidated (((Documents.new armed).after before).store.draft .spec) spec ∧
          after = .began generation (.ofDrafts input spec) :: rest ∧
          IsCalled s.history (.ofDrafts input spec) := by
  have hrecorded := hs.isRecorded
  have hfounded := (Reachable.run (.new ..) hs).attained.isGrounded.founded
  refine ⟨congrArg Documents.store hrecorded.documents, ?_, ?_⟩
  · have howed := hrecorded.possible.owed hview
    rwa [owed_hands, Nat.add_zero] at howed
  · intro before after hsplit
    obtain ⟨hprimed, rest, rfl⟩ := hrecorded.possible.triggered hfounded hsplit
    dsimp only at hfounded
    rw [hsplit] at hfounded
    obtain ⟨input, hinput⟩ := hfounded.of_append.validated hprimed .input
    obtain ⟨spec, hspec⟩ := hfounded.of_append.validated hprimed .spec
    have hrequest : ((Documents.new armed).after before).request = .ofDrafts input spec := by
      rw [← hinput.holds, ← hspec.holds]
      rfl
    refine ⟨input, spec, _, rest, hinput, hspec, by rw [hrequest], ?_⟩
    have hbegan : .began (((Documents.new armed).after before).latest + 1)
        ((Documents.new armed).after before).request ∈ s.history := by
      rw [hsplit]
      simp
    rw [← hrequest]
    obtain ⟨role, hmem⟩ | hcalled := hrecorded.possible.called hview hbegan
    · obtain ⟨stage, hstage⟩ := hand_of_mem_hands hmem
      exact absurd hstage (stage.hand_ne.2 _ _)
    · exact hcalled

/-- Two drafts become valid, and then the transform is switched off and on again. -/
theorem triggers_on_rising_edges_after_rearming :
    let s := (machine blindView).rest 100 ((easySession 0 [.edit .input "1", .edit .spec "[]"]).launch
      1 [.setArmed false, .setArmed true])
    s.history.countP Happening.isTrigger = 2 ∧ (Documents.new true).rises s.history = 2 ∧
      s.store = ((Documents.new true).after s.history).store := by
  have hs : Run blindView (localSession easyServer 0 true) ((machine blindView).rest 100
      ((easySession 0 [.edit .input "1", .edit .spec "[]"]).launch 1
        [.setArmed false, .setArmed true])) :=
    ((run_easySession 0 _ (by decide)).tail (.launch _ 1 (by decide))).trans (Run.rest 100 _)
  obtain ⟨hstore, hcount, -⟩ := triggers_on_rising_edges hs not_canBreak_blindView
  have htwo : ((machine blindView).rest 100 ((easySession 0 [.edit .input "1", .edit .spec
      "[]"]).launch 1 [.setArmed false, .setArmed true])).history.countP Happening.isTrigger = 2 := by
    decide +kernel
  exact ⟨htwo, hcount.symm.trans htwo, hstore⟩

end Workbench.Session
