import Workbench.Proofs.Session.Hearing

/-!
# The ledger of texts that are given once

Drafts may be given their texts once and for all. Each of these that is not blank is then validated
once: until its request goes out a timer is armed for it or an activity has it in hand, and a verdict is
still to come while the draft has no snapshot. A transform is asked for when the last draft becomes
valid, and its request is that of the given texts.
-/
namespace Workbench.Session

open Coalescing (Scheduler)
open Document (Draft Store)
open Service (Client Endpoint Reaction Request TransformRequest)

variable {V : Type} {s t u : Session V} {H : Hands} {role : Role} {d : Draft} {text : String}

/-! ## Requests for verdicts -/

theorem validate_ne_transform (d : Draft) : Endpoint.validate d ≠ .transform := by
  cases d <;> simp [Endpoint.validate]

/-- The request for a verdict goes to the endpoint of its draft, and to no other one. -/
theorem requestsIn_sent (time : Nat) {out : Service.Outgoing} (reply : Service.Reply)
    (hout : out.request = Request.validate d text) :
    requestsIn .transform [.sent ⟨time, out⟩ reply] = [] ∧
      requestsIn .operations [.sent ⟨time, out⟩ reply] = [] ∧ ∀ e,
        requestsIn (.validate e) [.sent ⟨time, out⟩ reply] =
          if d = e then [Request.validate d text] else [] := by
  have hendpoint : out.request.endpoint = .validate d := by
    rw [hout]
    cases d <;> rfl
  have hone (e : Endpoint) : requestsIn e [.sent ⟨time, out⟩ reply] =
      if Endpoint.validate d = e then [Request.validate d text] else [] := by
    unfold requestsIn Happening.requestTo? Happening.sent?
    rw [List.filterMap_cons, List.filterMap_nil, Option.bind_some, hendpoint]
    by_cases he : Endpoint.validate d = e
    · rw [if_pos he, if_pos he, hout]
    · rw [if_neg he, if_neg he]
  refine ⟨by rw [hone, if_neg (validate_ne_transform d)], ?_, fun e => ?_⟩
  · rw [hone]
    cases d <;> rfl
  · rw [hone]
    cases d <;> cases e <;> rfl

/-! ## Counting what is in hand -/

/-- Something that is counted in all that is in hand. -/
def Hands.total (f : Hand → Nat) (H : Hands) : Nat := (H.map fun x => f x.2).sum

theorem Hands.total_add {f : Hand → Nat} (hf : f .free = 0) (H : Hands) (role : Role) (k : Hand) :
    (H.add role k).total f = H.total f + f k := by
  unfold total add
  cases k <;> simp [Hand.isFree, hf, Nat.add_comm]

theorem Hands.le_total {f : Hand → Nat} {x : Role × Hand} (hx : x ∈ H) : f x.2 ≤ H.total f := by
  obtain ⟨H', rfl⟩ := Multiset.exists_cons_of_mem hx
  rw [total, Multiset.map_cons, Multiset.sum_cons]
  exact Nat.le_add_right ..

/-- Is the request for a verdict on the draft still to go out? -/
def Hand.asks (d : Draft) : Hand → Nat
  | .asking e _ => if e = d then 1 else 0
  | _ => 0

/-- Is a verdict on the draft still to be heard? -/
def Hand.judges (d : Draft) : Hand → Nat
  | .asking e _ | .judging e _ _ => if e = d then 1 else 0
  | _ => 0

theorem Hand.judges_eq_zero {k : Hand} (h : ∀ text, k.text? ≠ some (d, text)) : k.judges d = 0 := by
  cases k with
  | asking e text =>
    refine if_neg fun he => h text ?_
    rw [text?, he]
  | judging e text r =>
    refine if_neg fun he => h text ?_
    rw [text?, he]
  | _ => rfl

theorem Hands.judges_eq_zero (h : ∀ x ∈ H, ∀ text, x.2.text? ≠ some (d, text)) :
    H.total (Hand.judges d) = 0 := by
  refine Multiset.sum_eq_zero fun n hn => ?_
  obtain ⟨x, hx, rfl⟩ := Multiset.mem_map.mp hn
  exact Hand.judges_eq_zero (h x hx)

/-- Nothing about the drafts is in hand. -/
theorem Hand.counts_of_text?_eq_none {k : Hand} (h : k.text? = none) (d : Draft) :
    k.asks d = 0 ∧ k.judges d = 0 := by
  cases k <;> first | exact ⟨rfl, rfl⟩ | cases h

/-- How many are counted for a draft in all that is in hand, and with an armed timer. -/
def outstanding (f : Draft → Hand → Nat) (s : Session V) (H : Hands) (d : Draft) : Nat :=
  H.total (f d) + (s.scheduler.isPending d).toNat

theorem outstanding_add {f : Draft → Hand → Nat} (hf : ∀ d, f d .free = 0) (s : Session V) (H : Hands)
    (role : Role) (k : Hand) (d : Draft) :
    outstanding f s (H.add role k) d = outstanding f s H d + f d k := by
  unfold outstanding
  rw [Hands.total_add (hf d)]
  omega

/-- An armed timer counts as much as the text in hand that it leads to. -/
theorem outstanding_fire {f : Draft → Hand → Nat} (hf : ∀ d, f d .free = 0)
    (hwork : s.scheduler.work? d = some text) (hscheduler : t.scheduler = s.scheduler.drop d)
    (hasking : ∀ e, f e (.asking d text) = if d = e then 1 else 0) (e : Draft) :
    outstanding f t (H.add .validation (.asking d text)) e = outstanding f s H e := by
  rw [outstanding_add hf, hasking]
  unfold outstanding Scheduler.isPending
  rw [hscheduler]
  split
  case isTrue he =>
    subst he
    rw [Scheduler.work?_drop_self, hwork]
    rfl
  case isFalse he =>
    rw [Scheduler.work?_drop_of_ne _ (Ne.symm he)]
    rfl

/-! ## The ledger -/

/-- The texts of a draft that are to be validated. -/
def textsOf (given : Draft → Option String) (d : Draft) : List String :=
  (given d).toList.filter fun text => !Text.isBlank text

theorem length_textsOf_le (given : Draft → Option String) (d : Draft) :
    (textsOf given d).length ≤ 1 := by
  refine (List.length_filter_le _ _).trans ?_
  cases given d <;> simp

theorem mem_textsOf {given : Draft → Option String} :
    text ∈ textsOf given d ↔ given d = some text ∧ Text.isBlank text = false := by
  simp [textsOf]

/-- The request for a transform of the given texts. -/
def givenRequest (given : Draft → Option String) : TransformRequest :=
  .ofDrafts ((given .input).getD "") ((given .spec).getD "")

/-- How it stands with drafts that have been given their texts, and with these things in hand. -/
structure Accounts (given : Draft → Option String) (s : Session V) (H : Hands) : Prop where
  text : ∀ d, (s.store.draft d).text = (given d).getD ""
  named : ∀ x ∈ H, ∀ d text, x.2.text? = some (d, text) → text ∈ textsOf given d
  waiting : ∀ d text, s.scheduler.work? d = some text → text ∈ textsOf given d
  valid : ∀ d text, (s.store.draft d).snapshot = some text → text ∈ textsOf given d
  sent : ∀ d, ∀ r ∈ requestsIn (.validate d) s.history,
    ∃ text ∈ textsOf given d, r = Request.validate d text
  asked : ∀ d, (requestsIn (.validate d) s.history).length + outstanding Hand.asks s H d =
    (textsOf given d).length
  once : ∀ d, outstanding Hand.judges s H d + (s.store.draft d).snapshot.isSome.toNat ≤ 1
  replies : ∀ role d text r, (role, .judging d text r) ∈ H → IsReply s.history d text r
  hearing : ∀ d, Hearing d ((given d).getD "") s.history (s.store.draft d) H
  warned : missing? s.store = none → s.lastWarning = none

/-- The session has asked for a transform of its own accord when that was due, and besides for the last
ones. -/
structure Keeps (given : Draft → Option String) (armed : Bool) (own : List Request) (s : Session V)
    (H : Hands) : Prop extends Accounts given s H where
  armed : s.store.armed = armed
  calls : requestsIn .transform s.history =
    (if s.isPrimed then (Request.transform? (givenRequest given)).toList else []) ++ own
  listed : requestsIn .operations s.history = []

variable {given : Draft → Option String} {armed : Bool} {own : List Request}

namespace Accounts

theorem request_eq (h : Accounts given s H) : s.request = givenRequest given := by
  have hinput := h.text .input
  have hspec := h.text .spec
  unfold Store.draft at hinput hspec
  rw [request, hinput, hspec, givenRequest]

/-- Nothing is missing for a transform if neither text is blank. -/
theorem missing?_eq (h : Accounts given s H) :
    (missing? s.store).isNone =
      (!Text.isBlank ((given .input).getD "") && !Text.isBlank ((given .spec).getD "")) := by
  have hinput := h.text .input
  have hspec := h.text .spec
  unfold Store.draft at hinput hspec
  unfold missing?
  rw [hinput, hspec]
  cases Text.isBlank ((given .input).getD "") <;> cases Text.isBlank ((given .spec).getD "") <;> rfl

/-- If nothing is missing for a transform, both drafts were given a text to be validated. -/
theorem textsOf_ne_nil (h : Accounts given s H) (hnone : missing? s.store = none) (d : Draft) :
    textsOf given d ≠ [] := by
  have hboth := h.missing?_eq
  rw [hnone] at hboth
  simp only [Option.isNone_none, Bool.true_eq, Bool.and_eq_true, Bool.not_eq_true'] at hboth
  have hblank : Text.isBlank ((given d).getD "") = false := by
    cases d
    · exact hboth.1
    · exact hboth.2
  cases hgiven : given d with
  | none =>
    rw [hgiven] at hblank
    exact absurd hblank (by decide)
  | some text =>
    rw [hgiven] at hblank
    exact List.ne_nil_of_mem (mem_textsOf.mpr ⟨hgiven, hblank⟩)

/-- Two valid drafts are not blank. -/
theorem missing?_eq_none (h : Accounts given s H) (hprimed : s.isPrimed = true) :
    missing? s.store = none := by
  refine missing?_of_not_blank fun d => ?_
  simp only [isPrimed, Bool.and_eq_true] at hprimed
  obtain ⟨text, hsnapshot, -⟩ := Store.bothValid_eq_true hprimed.2 d
  obtain ⟨hgiven, hblank⟩ := mem_textsOf.mp (h.valid d text hsnapshot)
  rw [h.text, hgiven]
  exact hblank

/-- Only the drafts, the timers, the requests for verdicts and the warning matter. -/
theorem congr (h : Accounts given s H) (hdraft : ∀ d, t.store.draft d = s.store.draft d)
    (hscheduler : t.scheduler = s.scheduler) {new : List Happening}
    (hhistory : t.history = s.history ++ new) (hnew : ∀ d, requestsIn (.validate d) new = [])
    (hwarned : missing? s.store = none → t.lastWarning = s.lastWarning) : Accounts given t H := by
  have hrequests (d : Draft) : requestsIn (.validate d) t.history = requestsIn (.validate d) s.history := by
    rw [hhistory, requestsIn_append, hnew, List.append_nil]
  have hreplies (d : Draft) (text : String) (r : Reaction) :
      IsReply t.history d text r ↔ IsReply s.history d text r := by
    rw [hhistory]
    exact isReply_append_iff (hnew d)
  have hmissing : missing? t.store = missing? s.store := missing?_congr fun d => by rw [hdraft]
  exact {
    text := fun d => by rw [hdraft]; exact h.text d
    named := h.named
    waiting := by rw [hscheduler]; exact h.waiting
    valid := fun d => by rw [hdraft]; exact h.valid d
    sent := fun d => by rw [hrequests]; exact h.sent d
    asked := fun d => by unfold outstanding; rw [hrequests, hscheduler]; exact h.asked d
    once := fun d => by unfold outstanding; rw [hdraft, hscheduler]; exact h.once d
    replies := fun role d text r hmem => (hreplies d text r).mpr (h.replies role d text r hmem)
    hearing := fun d => by rw [hdraft]; exact (h.hearing d).congr (hreplies d) fun _ _ _ => .rfl
    warned := fun hnone => by
      rw [hmissing] at hnone
      rw [hwarned hnone, h.warned hnone] }

/-- Something beside the drafts is in hand, and then something else. -/
theorem change {k k' : Hand} (h : Accounts given s (H.add role k)) (hk : k.text? = none)
    (hk' : k'.text? = none) : Accounts given s (H.add role k') := by
  refine { h with
    named := fun x hx d text htext => ?_
    asked := fun d => ?_
    once := fun d => ?_
    replies := fun role' d text r hmem => ?_
    hearing := fun d => (h.hearing d).congr (fun _ _ => .rfl) fun role' text r => ?_ }
  · obtain hx | ⟨rfl, -⟩ := Hands.mem_add.mp hx
    · exact h.named x (Hands.mem_add_of_mem hx) d text htext
    · rw [hk'] at htext
      cases htext
  · have hold := h.asked d
    rw [outstanding_add fun _ => rfl, (k.counts_of_text?_eq_none hk d).1] at hold
    rwa [outstanding_add fun _ => rfl, (k'.counts_of_text?_eq_none hk' d).1]
  · have hold := h.once d
    rw [outstanding_add fun _ => rfl, (k.counts_of_text?_eq_none hk d).2] at hold
    rwa [outstanding_add fun _ => rfl, (k'.counts_of_text?_eq_none hk' d).2]
  · rw [Hearing.judging_mem_add_iff (Hearing.ne_judging_of_text?_eq_none hk' d)] at hmem
    exact h.replies role' d text r (Hands.mem_add_of_mem hmem)
  · rw [Hearing.judging_mem_add_iff (Hearing.ne_judging_of_text?_eq_none hk' d),
      Hearing.judging_mem_add_iff (Hearing.ne_judging_of_text?_eq_none hk d)]

/-- A draft without a text has nothing to do with all this. -/
theorem of_not_given (h : Accounts given s H) (hgiven : given d = none) :
    textsOf given d = [] ∧ (s.store.draft d).snapshot = none ∧
      (requestsIn (.validate d) s.history).length = 0 ∧ H.total (Hand.asks d) = 0 ∧
      H.total (Hand.judges d) = 0 := by
  have htexts : textsOf given d = [] := by rw [textsOf, hgiven]; rfl
  have hno {text : String} : text ∉ textsOf given d := by simp [htexts]
  have hasked := h.asked d
  unfold outstanding at hasked
  rw [htexts, List.length_nil, Nat.add_eq_zero_iff, Nat.add_eq_zero_iff] at hasked
  refine ⟨htexts, ?_, hasked.1, hasked.2.1, ?_⟩
  · exact Option.eq_none_iff_forall_ne_some.mpr fun text htext => hno (h.valid d text htext)
  · exact Hands.judges_eq_zero fun x hx text htext => hno (h.named x hx d text htext)

/-- A draft is given its text. -/
theorem edit (h : Accounts given s H) (hgiven : given d = none) (text : String)
    (hwarning : s.lastWarning = none) :
    Accounts (Function.update given d (some text)) (s.putText d text) H := by
  obtain ⟨htexts, -, hunsent, hunasked, hunjudged⟩ := h.of_not_given hgiven
  have hself : textsOf (Function.update given d (some text)) d =
      if Text.isBlank text then [] else [text] := by
    cases hblank : Text.isBlank text <;> simp [textsOf, hblank]
  have hother {e : Draft} (he : e ≠ d) :
      textsOf (Function.update given d (some text)) e = textsOf given e := by
    rw [textsOf, Function.update_of_ne he, textsOf]
  -- what was to be validated before still is
  have hmono {e : Draft} {text' : String} (hmem : text' ∈ textsOf given e) :
      text' ∈ textsOf (Function.update given d (some text)) e := by
    by_cases he : e = d
    · rw [he, htexts] at hmem
      cases hmem
    · rwa [hother he]
  have hrequests (e : Endpoint) :
      requestsIn e (s.putText d text).history = requestsIn e s.history := by
    rw [history_putText, requestsIn_append]
    exact List.append_nil _
  have hpending (e : Draft) : (s.putText d text).scheduler.isPending e =
      if d = e then !Text.isBlank text else s.scheduler.isPending e := by
    rw [Scheduler.isPending, work?_putText, Scheduler.isPending]
    cases Text.isBlank text <;> split <;> rfl
  have hreplies (e : Draft) (text' : String) (r : Reaction) :
      IsReply (s.putText d text).history e text' r ↔ IsReply s.history e text' r := by
    rw [history_putText]
    exact isReply_append_iff rfl
  refine {
    text := fun e => ?texts
    named := fun x hx e text' htext => hmono (h.named x hx e text' htext)
    waiting := fun e text' htext => ?waiting
    valid := fun e text' htext => ?valid
    sent := fun e r hr => ?sent
    asked := fun e => ?asked
    once := fun e => ?once
    replies := fun role e text' r hmem => (hreplies e text' r).mpr (h.replies role e text' r hmem)
    hearing := fun e => ?hearing
    warned := fun _ => ?warned }
  case texts =>
    rw [draft_putText]
    split
    case isTrue he => rw [he, Function.update_self]; rfl
    case isFalse he => rw [Function.update_of_ne (Ne.symm he)]; exact h.text e
  case waiting =>
    rw [work?_putText] at htext
    by_cases he : d = e
    · rw [if_pos he] at htext
      subst he
      rw [hself]
      cases hblank : Text.isBlank text <;> simp_all
    · rw [if_neg he] at htext
      exact hmono (h.waiting e text' htext)
  case valid =>
    rw [draft_putText] at htext
    split at htext
    · cases htext
    · exact hmono (h.valid e text' htext)
  case sent =>
    rw [hrequests] at hr
    obtain ⟨text', hmem, rfl⟩ := h.sent e r hr
    exact ⟨text', hmono hmem, rfl⟩
  case asked =>
    unfold outstanding
    rw [hrequests, hpending]
    by_cases he : d = e
    · subst he
      rw [if_pos rfl, hself, hunsent, hunasked]
      cases Text.isBlank text <;> rfl
    · rw [if_neg he, hother (Ne.symm he)]
      exact h.asked e
  case once =>
    unfold outstanding
    rw [hpending, draft_putText]
    by_cases he : d = e
    · subst he
      rw [if_pos rfl, if_pos rfl, hunjudged]
      cases Text.isBlank text <;> simp [freshDraft]
    · rw [if_neg he, if_neg he]
      exact h.once e
  case hearing =>
    rw [draft_putText]
    by_cases he : d = e
    · subst he
      rw [if_pos rfl, Function.update_self, Option.getD_some]
      refine .of_none rfl fun text' r hr => ?_
      have hrequest := ((hreplies d text' r).mp hr).mem_requestsIn
      rw [List.length_eq_zero_iff.mp hunsent] at hrequest
      cases hrequest
    · rw [if_neg he, Function.update_of_ne (Ne.symm he)]
      exact (h.hearing e).congr (hreplies e) fun _ _ _ => .rfl
  case warned =>
    exact (lastWarning_putText s d text).trans hwarning

/-- The timer of a text fires. -/
theorem fire (h : Accounts given s H) (hwork : s.scheduler.work? d = some text)
    (hscheduler : t.scheduler = s.scheduler.drop d) (hstore : t.store = s.store)
    (hhistory : t.history = s.history) (hwarning : t.lastWarning = s.lastWarning) :
    Accounts given t (H.add .validation (.asking d text)) where
  text := by rw [hstore]; exact h.text
  named x hx e text' htext := by
    obtain hx | ⟨rfl, -⟩ := Hands.mem_add.mp hx
    · exact h.named x hx e text' htext
    · cases htext
      exact h.waiting d text hwork
  waiting e text' htext := by
    rw [hscheduler] at htext
    by_cases he : e = d
    · rw [he, Scheduler.work?_drop_self] at htext
      cases htext
    · exact h.waiting e text' (by rwa [Scheduler.work?_drop_of_ne _ he] at htext)
  valid := by rw [hstore]; exact h.valid
  sent := by rw [hhistory]; exact h.sent
  asked e := by
    rw [outstanding_fire (fun _ => rfl) hwork hscheduler fun _ => rfl, hhistory]
    exact h.asked e
  once e := by
    rw [outstanding_fire (fun _ => rfl) hwork hscheduler fun _ => rfl, hstore]
    exact h.once e
  replies role e text' r hmem := by
    rw [hhistory]
    rw [Hearing.judging_mem_add_iff (by simp)] at hmem
    exact h.replies role e text' r hmem
  hearing e := by
    rw [hhistory, hstore]
    exact (h.hearing e).congr (fun _ _ => .rfl) fun _ _ _ => Hearing.judging_mem_add_iff (by simp)
  warned := by
    rw [hstore, hwarning]
    exact h.warned

/-- The request for the verdict on a text goes out. -/
theorem ask (h : Accounts given s (H.add role (.asking d text))) {time : Nat}
    {out : Service.Outgoing} {reply : Service.Reply} (hout : out.request = Request.validate d text)
    (ht : Adds [.sent ⟨time, out⟩ reply] s t) :
    Accounts given t (H.add role (.judging d text reply.reaction)) := by
  have hstore : t.store = s.store := congrArg Documents.store ht.documents
  have hrequests := (requestsIn_sent time reply hout).2.2
  have hnamed : text ∈ textsOf given d :=
    h.named _ (Hands.mem_add_self (by simp)) d text rfl
  -- no request for this draft went out before
  have hunsent : requestsIn (.validate d) s.history = [] := by
    have hasked := h.asked d
    rw [outstanding_add fun _ => rfl] at hasked
    have hone : (textsOf given d).length ≤ 1 := length_textsOf_le given d
    simp only [Hand.asks, if_pos] at hasked
    exact List.length_eq_zero_iff.mp (by omega)
  refine {
    text := by rw [hstore]; exact h.text
    named := fun x hx e text' htext => ?named
    waiting := by rw [ht.scheduler]; exact h.waiting
    valid := by rw [hstore]; exact h.valid
    sent := fun e r hr => ?sent
    asked := fun e => ?asked
    once := fun e => ?once
    replies := fun role' e text' r hmem => ?replies
    hearing := fun e => ?hearing
    warned := fun hnone => ?warned }
  case named =>
    obtain hx | ⟨rfl, -⟩ := Hands.mem_add.mp hx
    · exact h.named x (Hands.mem_add_of_mem hx) e text' htext
    · cases htext
      exact hnamed
  case sent =>
    rw [ht.history, requestsIn_append, hrequests, List.mem_append] at hr
    obtain hr | hr := hr
    · exact h.sent e r hr
    · split at hr
      case isTrue he =>
        obtain rfl := List.mem_singleton.mp hr
        exact ⟨text, he ▸ hnamed, by rw [he]⟩
      case isFalse => cases hr
  case asked =>
    have hold := h.asked e
    rw [outstanding_add fun _ => rfl] at hold ⊢
    unfold outstanding at hold ⊢
    rw [ht.history, requestsIn_append, hrequests, ht.scheduler, List.length_append]
    by_cases he : d = e
    · simp only [Hand.asks, if_pos he, List.length_singleton] at hold ⊢
      omega
    · simp only [Hand.asks, if_neg he, List.length_nil] at hold ⊢
      omega
  case once =>
    have hold := h.once e
    rw [outstanding_add fun _ => rfl] at hold ⊢
    unfold outstanding at hold ⊢
    rw [ht.scheduler, hstore]
    exact hold
  case replies =>
    rw [ht.history]
    obtain hmem | ⟨heq, -⟩ := Hands.mem_add.mp hmem
    · exact (h.replies role' e text' r (Hands.mem_add_of_mem hmem)).mono
    · cases heq
      exact (isReply_sent hout).mpr (.inr ⟨rfl, rfl⟩)
  case hearing =>
    have hbefore : Hearing e ((given e).getD "") s.history (s.store.draft e) H :=
      (h.hearing e).congr (fun _ _ => .rfl) fun _ _ _ => (Hearing.judging_mem_add_iff (by simp)).symm
    rw [ht.history, hstore]
    by_cases he : d = e
    · subst he
      refine hbefore.ask (fun text' r hr => ?_) hout
      have hmem := hr.mem_requestsIn
      rw [hunsent] at hmem
      cases hmem
    · refine hbefore.congr (fun _ _ => isReply_append_iff ?_) fun role' text' r =>
        Hearing.judging_mem_add_iff fun _ _ heq => ?_
      · rw [hrequests, if_neg he]
      · cases heq
        exact he rfl
  case warned =>
    rw [hstore] at hnone
    rw [ht.warning, h.warned hnone]

/-- The text whose verdict is to be heard has no verdict yet. -/
theorem snapshot_eq_none {r : Service.Reaction}
    (h : Accounts given s (H.add role (.judging d text r))) : (s.store.draft d).snapshot = none := by
  have hold := h.once d
  rw [outstanding_add fun _ => rfl] at hold
  cases hsnapshot : (s.store.draft d).snapshot with
  | none => rfl
  | some snapshot =>
    rw [hsnapshot] at hold
    simp [Hand.judges] at hold

/-- The verdict on a text is heard. -/
theorem judge {r : Service.Reaction} (h : Accounts given s (H.add role (.judging d text r)))
    {result : Except Failure Service.Verdict} (hresult : (Client.readVerdict d r).2 = result)
    (ht : Adds [.judged d text result] s t) {k : Hand} (hk : k.text? = none) : Accounts given t (H.add role k) := by
  have hnamed : text ∈ textsOf given d :=
    h.named _ (Hands.mem_add_self (by simp)) d text rfl
  have htext : (s.store.draft d).text = text := by
    rw [h.text, (mem_textsOf.mp hnamed).1, Option.getD_some]
  have hdraft (e : Draft) : t.store.draft e =
      if d = e then judgedDraft d (s.store.draft d) result else s.store.draft e := by
    have hstore : t.store = heard d text result s.store := congrArg Documents.store ht.documents
    rw [hstore, heard_eq, if_pos htext, Store.draft_setDraft]
  have hrequests (e : Draft) : requestsIn (.validate e) t.history = requestsIn (.validate e) s.history := by
    rw [ht.history, requestsIn_append]
    exact List.append_nil _
  have hreplies (e : Draft) (text' : String) (r : Reaction) :
      IsReply t.history e text' r ↔ IsReply s.history e text' r := by
    rw [ht.history]
    exact isReply_append_iff rfl
  have hother (e : Draft) {role' : Role} {text' : String} {r' : Reaction} :
      (role', Hand.judging e text' r') ∈ H.add role k ↔ (role', Hand.judging e text' r') ∈ H :=
    Hearing.judging_mem_add_iff (Hearing.ne_judging_of_text?_eq_none hk e)
  refine {
    text := fun e => ?texts
    named := fun x hx e text' htext' => ?named
    waiting := by rw [ht.scheduler]; exact h.waiting
    valid := fun e text' hsnapshot => ?valid
    sent := fun e => by rw [hrequests]; exact h.sent e
    asked := fun e => ?asked
    once := fun e => ?once
    replies := fun role' e text' r hmem => ?replies
    hearing := fun e => ?hearing
    warned := fun hnone => ?warned }
  case texts =>
    rw [hdraft, ← h.text e]
    split
    case isTrue he => rw [text_judgedDraft, he]
    case isFalse => rfl
  case named =>
    obtain hx | ⟨rfl, -⟩ := Hands.mem_add.mp hx
    · exact h.named x (Hands.mem_add_of_mem hx) e text' htext'
    · rw [hk] at htext'
      cases htext'
  case valid =>
    rw [hdraft] at hsnapshot
    split at hsnapshot
    case isTrue he =>
      subst he
      have hnone := h.snapshot_eq_none
      obtain rfl : text' = text := by
        unfold judgedDraft at hsnapshot
        split at hsnapshot
        · split at hsnapshot
          · exact (Option.some.inj hsnapshot).symm.trans htext
          · cases hsnapshot
        · cases hsnapshot
        · exact absurd hsnapshot (by simp [hnone])
      exact hnamed
    case isFalse => exact h.valid e text' hsnapshot
  case asked =>
    have hold := h.asked e
    rw [outstanding_add fun _ => rfl] at hold ⊢
    unfold outstanding at hold ⊢
    rw [hrequests, ht.scheduler, (k.counts_of_text?_eq_none hk e).1]
    exact hold
  case once =>
    have hold := h.once e
    rw [outstanding_add fun _ => rfl] at hold ⊢
    unfold outstanding at hold ⊢
    rw [ht.scheduler, (k.counts_of_text?_eq_none hk e).2, hdraft]
    by_cases he : d = e
    · have hone : (judgedDraft d (s.store.draft d) result).snapshot.isSome.toNat ≤ 1 :=
        Bool.toNat_le _
      simp only [Hand.judges, if_pos he] at hold ⊢
      omega
    · simpa [Hand.judges, if_neg he] using hold
  case replies =>
    exact (hreplies e text' r).mpr
      (h.replies role' e text' r (Hands.mem_add_of_mem ((hother e).mp hmem)))
  case hearing =>
    rw [hdraft]
    by_cases he : d = e
    · subst he
      rw [if_pos rfl, ← hresult]
      refine (h.hearing d).judge (h.replies _ _ _ _ (Hands.mem_add_self (by simp))) ?_ ?_
        (hreplies d) hk
      · rw [(mem_textsOf.mp hnamed).1, Option.getD_some]
      · intro role' text' r' hmem
        have hone := h.once d
        rw [outstanding_add fun _ => rfl] at hone
        have hcount : Hand.judges d (.judging d text' r') ≤ H.total (Hand.judges d) :=
          Hands.le_total hmem
        simp only [Hand.judges, if_pos] at hone hcount
        unfold outstanding at hone
        omega
    · rw [if_neg he]
      refine (h.hearing e).congr (hreplies e) fun role' text' r' => ?_
      rw [hother e, Hearing.judging_mem_add_iff]
      intro text'' r'' heq
      cases heq
      exact he rfl
  case warned =>
    have hmissing : missing? t.store = missing? s.store := missing?_congr fun e => by
      rw [hdraft]
      split
      case isTrue he => rw [text_judgedDraft, he]
      case isFalse => rfl
    rw [hmissing] at hnone
    rw [ht.warning, h.warned hnone]

end Accounts

namespace Keeps

/-- The board does not matter. -/
theorem quiet (h : Keeps given armed own s H) (hq : Quiet { s with board := t.board } t)
    (hwarning : t.lastWarning = s.lastWarning) : Keeps given armed own t H := by
  have hprimed : t.isPrimed = s.isPrimed := by rw [isPrimed, hq.store, isPrimed]
  have hhistory : t.history = s.history := hq.history
  refine ⟨h.congr (fun d => congrArg (·.draft d) hq.store) hq.scheduler
    (hhistory.trans (List.append_nil _).symm) (fun _ => rfl) fun _ => hwarning, ?_, ?_, ?_⟩
  · rw [hq.store]
    exact h.armed
  · rw [hhistory, hprimed]
    exact h.calls
  · rw [hhistory]
    exact h.listed

/-- Something beside the drafts is in hand, and then something else. -/
theorem change {k k' : Hand} (h : Keeps given armed own s (H.add role k)) (hk : k.text? = none)
    (hk' : k'.text? = none) : Keeps given armed own s (H.add role k') :=
  ⟨h.toAccounts.change hk hk', h.armed, h.calls, h.listed⟩

/-- Requests for transforms go out. -/
theorem beside {calls : List Request} (h : Keeps given armed own s H) (ht : Beside calls s t) :
    Keeps given armed (own ++ calls) t H := by
  obtain ⟨new, hadds, hnew⟩ := ht.enters
  refine ⟨h.congr ht.draft hadds.scheduler hadds.history (fun d => ?_) ht.warned,
    by rw [ht.armed]; exact h.armed, ?_, ?_⟩
  · rw [hnew, if_neg (validate_ne_transform d)]
  · rw [hadds.history, requestsIn_append, hnew, if_pos rfl, h.calls, isPrimed_congr ht.armed ht.draft,
      List.append_assoc]
  · rw [hadds.history, requestsIn_append, hnew, h.listed]
    rfl

/-- A draft without a snapshot keeps the transform from starting by itself. -/
theorem calls_of_snapshot_none (h : Keeps given armed own s H)
    (hnone : (s.store.draft d).snapshot = none) :
    s.isPrimed = false ∧ requestsIn .transform s.history = own := by
  have hprimed : s.isPrimed = false := by
    rw [isPrimed, Store.bothValid_of_snapshot_none hnone, Bool.and_false]
  refine ⟨hprimed, ?_⟩
  rw [h.calls, hprimed]
  rfl

theorem edit (h : Keeps given armed [] s H) (hgiven : given d = none) (text : String)
    (hwarning : s.lastWarning = none) :
    Keeps (Function.update given d (some text)) armed [] (s.putText d text) H := by
  have hold := (h.calls_of_snapshot_none (h.of_not_given hgiven).2.1).2
  have hnone : ((s.putText d text).store.draft d).snapshot = none := by
    rw [draft_putText, if_pos rfl, freshDraft]
  refine ⟨h.toAccounts.edit hgiven text hwarning,
    by rw [store_putText, Store.armed_setDraft]; exact h.armed, ?_, ?_⟩
  · rw [isPrimed, Store.bothValid_of_snapshot_none hnone, Bool.and_false, history_putText,
      requestsIn_append, hold]
    rfl
  · rw [history_putText, requestsIn_append, h.listed]
    rfl

theorem fire (h : Keeps given armed own s H) (hwork : s.scheduler.work? d = some text)
    (hq : Quiet { s with scheduler := s.scheduler.drop d, board := t.board } t)
    (hwarning : t.lastWarning = s.lastWarning) :
    Keeps given armed own t (H.add .validation (.asking d text)) := by
  have hprimed : t.isPrimed = s.isPrimed := by rw [isPrimed, hq.store, isPrimed]
  have hhistory : t.history = s.history := hq.history
  refine ⟨h.toAccounts.fire hwork hq.scheduler hq.store hq.history hwarning, ?_, ?_, ?_⟩
  · rw [hq.store]
    exact h.armed
  · rw [hhistory, hprimed]
    exact h.calls
  · rw [hhistory]
    exact h.listed

theorem ask (h : Keeps given armed own s (H.add role (.asking d text))) {time : Nat}
    {out : Service.Outgoing} {reply : Service.Reply} (hout : out.request = Request.validate d text)
    (ht : Adds [.sent ⟨time, out⟩ reply] s t) :
    Keeps given armed own t (H.add role (.judging d text reply.reaction)) := by
  have hstore : t.store = s.store := congrArg Documents.store ht.documents
  have hprimed : t.isPrimed = s.isPrimed := by rw [isPrimed, hstore, isPrimed]
  obtain ⟨hnone, hothers, -⟩ := requestsIn_sent time reply hout
  refine ⟨h.toAccounts.ask hout ht, by rw [hstore]; exact h.armed, ?_, ?_⟩
  · rw [ht.history, requestsIn_append, hnone, List.append_nil, hprimed]
    exact h.calls
  · rw [ht.history, requestsIn_append, hothers, h.listed]
    rfl

/-- The verdict on a text is heard, and after it there is perhaps a transform. -/
theorem judge {r : Service.Reaction} (h : Keeps given armed [] s (H.add role (.judging d text r)))
    {result : Except Failure Service.Verdict} (hresult : (Client.readVerdict d r).2 = result)
    (ht : Adds [.judged d text result] s t) (hu : Beside (Act.due s t) t u) {k : Hand} (hk : k.text? = none) :
    Keeps given armed [] u (H.add role k) := by
  obtain ⟨hprimed, hcalls⟩ := h.calls_of_snapshot_none h.snapshot_eq_none
  have haccounts := h.toAccounts.judge hresult ht hk
  have harmed : t.store.armed = armed := by
    have hstore : t.store = heard d text result s.store := congrArg Documents.store ht.documents
    rw [← h.armed, hstore, heard_eq]
    split
    · exact Store.armed_setDraft ..
    · rfl
  obtain ⟨new, hadds, hnew⟩ := hu.enters
  refine ⟨haccounts.congr hu.draft hadds.scheduler hadds.history (fun e => ?_) hu.warned,
    by rw [hu.armed]; exact harmed, ?_, ?_⟩
  · rw [hnew, if_neg (validate_ne_transform e)]
  · have hdue : Act.due s t = if t.isPrimed then (Request.transform? (givenRequest given)).toList else [] := by
      unfold Act.due
      rw [hprimed, haccounts.request_eq]
      cases hready : t.isPrimed with
      | false => rfl
      | true => rw [haccounts.missing?_eq_none hready]; rfl
    have hbefore : requestsIn .transform t.history = [] := by
      rw [ht.history, requestsIn_append, hcalls]
      rfl
    rw [hadds.history, requestsIn_append, hbefore, hnew, if_pos rfl, hdue,
      isPrimed_congr hu.armed hu.draft, List.append_nil]
    rfl
  · rw [hadds.history, requestsIn_append, hnew, ht.history, requestsIn_append, h.listed]
    rfl

end Keeps

/-! ## What has to be sent -/

/-- The requests that may have to be sent can be sent, and no editor is attached to the output. -/
structure Serves (given : Draft → Option String) (armed asks : Bool) (s : Session V) : Prop where
  silent : s.attached .output = none
  validates : ∀ d, textsOf given d ≠ [] → s.client.canSend (.validate d) = true
  transforms : (armed || asks) = true → (∀ d, textsOf given d ≠ []) →
    s.client.canSend .transform = true

namespace Serves

variable {asks : Bool}

theorem of_eq (h : Serves given armed asks s) (hattached : t.attached = s.attached)
    (hclient : t.client = s.client) : Serves given armed asks t :=
  ⟨by rw [hattached, h.silent], by rw [hclient]; exact h.validates,
    by rw [hclient]; exact h.transforms⟩

/-- The transform that a verdict may set off can be sent. -/
theorem transforms_of_isPrimed (h : Serves given armed asks s) {r : Reaction}
    (hs : Keeps given armed own s (H.add role (.judging d text r)))
    (hprimed : (s.hearVerdict d text (Client.readVerdict d r).2).isPrimed = true) :
    s.client.canSend .transform = true := by
  have hadds : Adds [.judged d text (Client.readVerdict d r).2] s
      (s.hearVerdict d text (Client.readVerdict d r).2) := ⟨⟨rfl, rfl, rfl, rfl, rfl, rfl, rfl⟩, rfl⟩
  have hheard := hs.toAccounts.judge rfl hadds (k := .free) rfl
  refine h.transforms ?_ (hheard.textsOf_ne_nil (hheard.missing?_eq_none hprimed))
  rw [isPrimed, armed_hearVerdict, hs.armed] at hprimed
  rw [Bool.and_elim_left hprimed, Bool.true_or]

end Serves

end Workbench.Session
