import Mathlib.Data.List.Forall2
import Workbench.Proofs.Service.Sending

/-!
# Answers that are alike

Two answers with the same body are alike, whatever their status. The client tells them apart in one
place only: the reason why a body that cannot be decoded is of no use names the status. Everything
else that it makes of them is the same. The relations below leave that difference open if `p` holds;
otherwise bodies that cannot be decoded have to come with the same status, and what is alike is
equal.
-/
namespace Workbench

open Service

variable {p : Prop} {α β : Type}

/-- Why a body that cannot be decoded is of no use. -/
def Service.Client.undecodableReason (status : Nat) : String :=
  "HTTP " ++ toString status ++ ": response body is not JSON"

/-- The texts are the same, or end in that reason and name another status in it. -/
def TextAlike (p : Prop) (t t' : String) : Prop :=
  t = t' ∨ p ∧ ∃ lead status status', t = lead ++ Client.undecodableReason status ∧
    t' = lead ++ Client.undecodableReason status'

theorem TextAlike.refl (t : String) : TextAlike p t t := .inl rfl

theorem TextAlike.append {t t' : String} (h : TextAlike p t t') (lead : String) :
    TextAlike p (lead ++ t) (lead ++ t') := by
  obtain rfl | ⟨hp, rest, status, status', rfl, rfl⟩ := h
  · exact .refl _
  · exact .inr ⟨hp, lead ++ rest, status, status', (String.append_assoc ..).symm,
      (String.append_assoc ..).symm⟩

theorem TextAlike.eq {t t' : String} (h : TextAlike p t t') (hp : ¬p) : t = t' :=
  h.resolve_right fun hother => hp hother.1

/-- The same note, or a note on such an answer. -/
inductive NoteAlike (p : Prop) : Note → Note → Prop
  | same (n) : NoteAlike p n n
  | status (severity event lead) {status status' : Nat} (hp : p) :
      NoteAlike p ⟨severity, event, lead ++ [("status", .int status)]⟩
        ⟨severity, event, lead ++ [("status", .int status')]⟩
  | error (severity event lead) {t t' : String} (h : TextAlike p t t') :
      NoteAlike p ⟨severity, event, lead ++ [("error", .string t)]⟩
        ⟨severity, event, lead ++ [("error", .string t')]⟩

/-- The same result, or transport failures with such reasons. -/
inductive ResultAlike (p : Prop) : Except Failure α → Except Failure α → Prop
  | same (r) : ResultAlike p r r
  | reason (endpoint) {t t' : String} (h : TextAlike p t t') :
      ResultAlike p (.error (.transport endpoint t)) (.error (.transport endpoint t'))

theorem forall₂_noteAlike_refl (ns : List Note) : List.Forall₂ (NoteAlike p) ns ns :=
  List.forall₂_same.mpr fun n _ => .same n

namespace Service

/-- The same reaction, or answers with the same body. -/
inductive Reaction.Alike (p : Prop) : Reaction → Reaction → Prop
  | same (r) : Reaction.Alike p r r
  | answer {status status' body} (h : p ∨ ∃ v, Json.decodePayload body = .ok v) :
      Reaction.Alike p (.answer status body) (.answer status' body)

/-- Replies of an endpoint that take the same time and are alike. That of the operations, where the
status does matter, is the same. -/
structure Reply.Alike (p : Prop) (e : Endpoint) (x y : Reply) : Prop where
  delay : y.delay = x.delay
  reaction : x.reaction.Alike p y.reaction
  operations : e = .operations → y.reaction = x.reaction

/-- Services that give replies that are alike. -/
structure Server.Alike (p : Prop) (s s' : Server) : Prop where
  queue : ∀ e, List.Forall₂ (Reply.Alike p e) (s.queue e) (s'.queue e)
  usual : ∀ r, Reply.Alike p r.endpoint (s.usual r) (s'.usual r)

/-- What comes back for the same request is alike, now and later. -/
theorem Server.Alike.reply {s s' : Server} (h : s.Alike p s') (r : Request) :
    Reply.Alike p r.endpoint (s.reply r).1 (s'.reply r).1 ∧ (s.reply r).2.Alike p (s'.reply r).2 := by
  have hqueue := h.queue r.endpoint
  unfold Server.reply
  generalize s.queue r.endpoint = xs at hqueue
  generalize s'.queue r.endpoint = ys at hqueue
  cases hqueue with
  | nil => exact ⟨h.usual r, h⟩
  | cons hfirst hrest =>
    refine ⟨hfirst, fun e => ?_, h.usual⟩
    dsimp only
    split
    · exact ‹e = r.endpoint› ▸ hrest
    · exact h.queue e

theorem Outgoing.keep_alike (o : Outgoing) {r r' : Reaction} (h : r.Alike p r') :
    (o.keep r).Alike p (o.keep r') := by
  cases h with
  | same => exact .same _
  | answer h =>
    unfold Outgoing.keep
    dsimp only
    split
    · exact .answer h
    · exact .same _

namespace Client

/-- The request of a call goes out to both services, or to neither. -/
theorem send_alike (c : Client) {server server' : Server} (h : server.Alike p server')
    (call : Call) :
    (∃ f, c.send server call = .error f ∧ c.send server' call = .error f) ∨
      ∃ out reply reply' next next', c.send server call = .ok (out, reply, next) ∧
        c.send server' call = .ok (out, reply', next') ∧
        reply.Alike p out.request.endpoint reply' ∧ next.Alike p next' := by
  unfold send
  cases c.prepare call.endpoint call.request? with
  | error f => exact .inl ⟨f, rfl, rfl⟩
  | ok out =>
    obtain ⟨hreply, hnext⟩ := h.reply out.request
    refine .inr ⟨out, _, _, _, _, rfl, rfl, ⟨hreply.delay, ?_, fun he => ?_⟩, hnext⟩
    · exact out.keep_alike hreply.reaction
    · exact congrArg out.keep (hreply.operations he)

/-- What is read in an answer does not depend on its status. -/
theorem readPosted_alike (e : Endpoint) {r r' : Reaction} (h : r.Alike p r') :
    List.Forall₂ (NoteAlike p) (readPosted e r).1 (readPosted e r').1 ∧
      ResultAlike p (readPosted e r).2 (readPosted e r').2 := by
  cases h with
  | same => exact ⟨forall₂_noteAlike_refl _, .same _⟩
  | @answer status status' body h =>
    unfold readPosted
    dsimp only
    split
    · exact ⟨.nil, .same _⟩
    · exact ⟨.nil, .same _⟩
    case h_3 hdecode =>
      obtain hp | ⟨v, hv⟩ := h
      · exact ⟨.cons (.status _ _ _ hp) .nil,
          .reason _ (.inr ⟨hp, "", status, status', rfl, rfl⟩)⟩
      · exact absurd (hdecode.symm.trans hv) (by simp)

theorem readVerdict_alike (d : Document.Draft) {r r' : Reaction} (h : r.Alike p r') :
    List.Forall₂ (NoteAlike p) (readVerdict d r).1 (readVerdict d r').1 ∧
      ResultAlike p (readVerdict d r).2 (readVerdict d r').2 := by
  obtain ⟨hnotes, hresult⟩ := readPosted_alike (.validate d) h
  unfold readVerdict
  dsimp only
  generalize readPosted (.validate d) r = x at hnotes hresult
  generalize readPosted (.validate d) r' = y at hnotes hresult
  obtain ⟨notes, result⟩ := x
  obtain ⟨notes', result'⟩ := y
  cases hresult with
  | same => cases result <;> exact ⟨hnotes, .same _⟩
  | reason endpoint h => exact ⟨hnotes, .reason endpoint h⟩

theorem readOutcome_alike {r r' : Reaction} (h : r.Alike p r') :
    List.Forall₂ (NoteAlike p) (readOutcome r).1 (readOutcome r').1 ∧
      ResultAlike p (readOutcome r).2 (readOutcome r').2 := by
  obtain ⟨hnotes, hresult⟩ := readPosted_alike .transform h
  unfold readOutcome
  generalize readPosted .transform r = x at hnotes hresult
  generalize readPosted .transform r' = y at hnotes hresult
  obtain ⟨notes, result⟩ := x
  obtain ⟨notes', result'⟩ := y
  cases hresult with
  | same =>
    cases result with
    | error f => exact ⟨hnotes, .same _⟩
    | ok v =>
      dsimp only
      split <;> exact ⟨hnotes, .same _⟩
  | reason endpoint h => exact ⟨hnotes, .reason endpoint h⟩

end Client

end Service

end Workbench
