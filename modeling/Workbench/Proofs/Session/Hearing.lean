import Workbench.Proofs.Session.Account
import Workbench.Proofs.Session.Output

/-!
# Hearing of a draft

A draft has been given its text once. As long as no reply for it has been heard it stands as it was
given, and what has come is still in hand; then it stands as the verdict in the reply says.
-/
namespace Workbench.Session

open Document (Draft DraftState)
open Service (Client Endpoint Reaction Reply Request)

variable {d : Draft} {text text' : String} {r r' : Reaction} {history new : List Happening}

/-! ## Replies and requests -/

/-- A reply for a verdict comes with its request. -/
theorem IsReply.mem_requestsIn (h : IsReply history d text r) :
    Request.validate d text ∈ requestsIn (.validate d) history := by
  obtain ⟨sent, reply, hmem, hrequest, -⟩ := h
  refine List.mem_filterMap.mpr ⟨_, hmem, ?_⟩
  simp only [Happening.requestTo?, Happening.sent?, Option.bind_some, hrequest]
  cases d <;> rfl

/-- A reply is an old one where no new request went out. -/
theorem isReply_append_iff (h : requestsIn (.validate d) new = []) :
    IsReply (history ++ new) d text r ↔ IsReply history d text r := by
  refine ⟨fun hreply => ?_, IsReply.mono⟩
  obtain ⟨sent, reply, hmem, hrest⟩ := hreply
  obtain hmem | hmem := List.mem_append.mp hmem
  · exact ⟨sent, reply, hmem, hrest⟩
  · have hnew : IsReply new d text r := ⟨sent, reply, hmem, hrest⟩
    have hnone := hnew.mem_requestsIn
    rw [h] at hnone
    cases hnone

/-- The reply to the request that just went out is a new one. -/
theorem isReply_sent {time : Nat} {out : Service.Outgoing} {reply : Reply}
    (hout : out.request = Request.validate d text) :
    IsReply (history ++ [.sent ⟨time, out⟩ reply]) d text' r ↔
      IsReply history d text' r ∨ Request.validate d text = .validate d text' ∧ reply.reaction = r := by
  constructor
  · rintro ⟨sent, reply', hmem, hrequest, hreaction⟩
    obtain hmem | hmem := List.mem_append.mp hmem
    · exact .inl ⟨sent, reply', hmem, hrequest, hreaction⟩
    · cases List.mem_singleton.mp hmem
      exact .inr ⟨hout.symm.trans hrequest, hreaction⟩
  · rintro (h | ⟨hsame, hreaction⟩)
    · exact h.mono
    · exact ⟨_, reply, List.mem_append_right _ (List.mem_singleton_self _), hout.trans hsame, hreaction⟩

/-- In a history with no more than one request for a verdict on the draft there is one reply. -/
theorem IsReply.unique (h : (requestsIn (.validate d) history).length ≤ 1)
    (hr : IsReply history d text r) (hr' : IsReply history d text' r') : r = r' := by
  obtain ⟨sent, reply, hmem, hrequest, rfl⟩ := hr
  obtain ⟨sent', reply', hmem', hrequest', rfl⟩ := hr'
  have hsome {s : Sent} {y : Reply} {text : String} (h : s.outgoing.request = .validate d text) :
      (Happening.sent s y).requestTo? (.validate d) = some (.validate d text) := by
    simp only [Happening.requestTo?, Happening.sent?, Option.bind_some, h]
    cases d <;> rfl
  by_contra hne
  have hpair : [Happening.sent sent reply, .sent sent' reply'].Subperm history := by
    refine List.subperm_of_subset ?_ (by simp [hmem, hmem'])
    rw [List.nodup_cons, List.mem_singleton]
    refine ⟨fun heq => hne ?_, List.nodup_singleton _⟩
    cases heq
    rfl
  obtain ⟨part, hperm, hsub⟩ := hpair
  have hlength := (hsub.filterMap (·.requestTo? (.validate d))).length_le
  rw [(hperm.filterMap _).length_eq] at hlength
  simp only [List.filterMap_cons, hsome hrequest, hsome hrequest', List.filterMap_nil,
    List.length_cons, List.length_nil] at hlength
  unfold requestsIn at h
  omega

/-! ## How a draft stands -/

/-- How a draft stands that was given a text: all that came back for it is still to be heard, or one
verdict has been heard, and none is to be. -/
inductive Hearing (d : Draft) (text : String) (history : List Happening) (st : DraftState)
    (H : Hands) : Prop
  | fresh (hdraft : st = freshDraft d text)
      (hopen : ∀ text' r, IsReply history d text' r → ∃ role text, (role, .judging d text r) ∈ H)
  | judged (text' : String) (r : Reaction) (hreply : IsReply history d text' r)
      (hdraft : st = judgedDraft d (freshDraft d text') (Client.readVerdict d r).2)
      (hover : ∀ role text' r, (role, .judging d text' r) ∉ H)

namespace Hearing

variable {history' : List Happening} {st : DraftState} {H H' : Hands} {role : Role} {k k' : Hand}

theorem congr (h : Hearing d text history st H)
    (hreplies : ∀ text' r, IsReply history' d text' r ↔ IsReply history d text' r)
    (hhands : ∀ role text' r, (role, .judging d text' r) ∈ H' ↔ (role, .judging d text' r) ∈ H) :
    Hearing d text history' st H' := by
  cases h with
  | fresh hdraft hopen =>
    refine .fresh hdraft fun text' r hr => ?_
    obtain ⟨role, text, hmem⟩ := hopen text' r ((hreplies text' r).mp hr)
    exact ⟨role, text, (hhands role text r).mpr hmem⟩
  | judged text' r hreply hdraft hover =>
    exact .judged text' r ((hreplies text' r).mpr hreply) hdraft fun role text' r hmem =>
      hover role text' r ((hhands role text' r).mp hmem)

/-- Something else than a reply is in hand. -/
theorem judging_mem_add_iff (hk : ∀ text r, k ≠ .judging d text r) {role' : Role} :
    (role', Hand.judging d text r) ∈ H.add role k ↔ (role', Hand.judging d text r) ∈ H := by
  refine ⟨fun hmem => ?_, Hands.mem_add_of_mem⟩
  obtain hmem | ⟨heq, -⟩ := Hands.mem_add.mp hmem
  · exact hmem
  · exact absurd (congrArg Prod.snd heq).symm (hk text r)

theorem ne_judging_of_text?_eq_none (hk : k.text? = none) (d : Draft) (text : String) (r : Reaction) :
    k ≠ .judging d text r := by
  rintro rfl
  cases hk

/-- No reply has come before. -/
theorem of_none (hst : st = freshDraft d text) (hnone : ∀ text' r, ¬ IsReply history d text' r) :
    Hearing d text history st H := .fresh hst fun text' r hr => absurd hr (hnone text' r)

/-- The first request for a verdict goes out. -/
theorem ask (h : Hearing d text history st H) (hnone : ∀ text' r, ¬ IsReply history d text' r)
    {time : Nat} {out : Service.Outgoing} {reply : Reply}
    (hout : out.request = Request.validate d text') :
    Hearing d text (history ++ [.sent ⟨time, out⟩ reply]) st
      (H.add role (.judging d text' reply.reaction)) := by
  cases h with
  | fresh hdraft hopen =>
    refine .fresh hdraft fun text'' r hr => ⟨role, text', ?_⟩
    obtain hold | ⟨-, rfl⟩ := (isReply_sent hout).mp hr
    · exact absurd hold (hnone text'' r)
    · exact Hands.mem_add_self (by simp)
  | judged text'' r hreply => exact absurd hreply (hnone text'' r)

/-- The reply is heard, and there is no other one. -/
theorem judge (h : Hearing d text history st (H.add role (.judging d text' r)))
    (hreply : IsReply history d text' r) (htext : text' = text)
    (hone : ∀ role text' r, (role, .judging d text' r) ∉ H)
    (hreplies : ∀ text' r, IsReply history' d text' r ↔ IsReply history d text' r)
    (hk : k.text? = none) :
    Hearing d text history' (judgedDraft d st (Client.readVerdict d r).2) (H.add role k) := by
  cases h with
  | fresh hdraft hopen =>
    refine .judged text' r ((hreplies text' r).mpr hreply) (by rw [hdraft, htext]) ?_
    intro role' text'' r' hmem
    rw [judging_mem_add_iff fun text r => ne_judging_of_text?_eq_none hk d text r] at hmem
    exact hone role' text'' r' hmem
  | judged text'' r' hreply' hdraft hover =>
    exact absurd (Hands.mem_add_self (by simp)) (hover role text' r)

/-- With nothing left to be heard, the draft has a snapshot just if its text was found valid. -/
theorem snapshot_isSome_iff (h : Hearing d text history st H)
    (hover : ∀ role text' r, (role, .judging d text' r) ∉ H)
    (hone : (requestsIn (.validate d) history).length ≤ 1) :
    st.snapshot.isSome = true ↔ ∃ text' r v, IsReply history d text' r ∧
      (Client.readVerdict d r).2 = .ok v ∧ v.valid = true := by
  cases h with
  | fresh hdraft hopen =>
    refine ⟨fun hsome => ?_, ?_⟩
    · rw [hdraft] at hsome
      cases hsome
    · rintro ⟨text', r, v, hreply, -⟩
      obtain ⟨role, text, hmem⟩ := hopen text' r hreply
      exact absurd hmem (hover role text r)
  | judged text' r hreply hdraft =>
    have hvalid : st.snapshot.isSome = true ↔
        ∃ v, (Client.readVerdict d r).2 = .ok v ∧ v.valid = true := by
      rw [hdraft]
      unfold judgedDraft
      split
      case h_1 v hread => cases hv : v.valid <;> simp [hread, freshDraft, hv]
      case h_2 hread => simp [hread]
      case h_3 hread => simp [hread, freshDraft]
    rw [hvalid]
    constructor
    · rintro ⟨v, hv⟩
      exact ⟨text', r, v, hreply, hv⟩
    · rintro ⟨text'', r', v, hreply', hv⟩
      obtain rfl := hreply.unique hone hreply'
      exact ⟨v, hv⟩

end Hearing

end Workbench.Session
