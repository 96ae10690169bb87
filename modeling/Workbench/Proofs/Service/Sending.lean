import Workbench.Service.Exchange

/-!
# Sending

A request that goes out is the one of its call. A request with a body that does not go out fails
for another reason than the transport. A client that reaches an endpoint sends whatever can be
written.
-/
namespace Workbench

/-- Was the service not reached, or its answer of no use? -/
def Failure.isTransport : Failure → Bool
  | .transport .. => true
  | _ => false

theorem Failure.isTransport_iff {f : Failure} :
    f.isTransport = true ↔ ∃ endpoint reason, f = .transport endpoint reason := by
  constructor
  · intro h
    cases f <;> first | exact ⟨_, _, rfl⟩ | cases h
  · rintro ⟨endpoint, reason, rfl⟩
    rfl

/-- A request goes where its call does. -/
theorem Service.Call.endpoint_of_request? {c : Service.Call} {request : Service.Request}
    (h : c.request? = some request) : request.endpoint = c.endpoint := by
  cases c with
  | validate e text =>
    cases h
    cases e <;> rfl
  | transform r =>
    simp only [Service.Call.request?, Service.Request.transform?] at h
    split at h
    · cases h
    · cases h
      rfl
  | operations =>
    cases h
    rfl

namespace Service.Client

variable {c : Client} {server server' : Server} {call : Call} {out : Outgoing} {reply : Reply}

theorem takeUrl_error {α : Type} {result : Except Url.Fault α} {f : Failure}
    (h : takeUrl result = .error f) : ∃ fault, f = .invalidUrl fault := by
  unfold takeUrl at h
  split at h
  · cases h
  · cases h
    exact ⟨_, rfl⟩

theorem prepare_ok {e : Endpoint} {request : Option Request} (h : c.prepare e request = .ok out) :
    request = some out.request := by
  unfold prepare at h
  cases hurl : takeUrl (c.base.below e.path.toList) with
  | error f =>
    rw [hurl] at h
    cases h
  | ok url =>
    rw [hurl] at h
    dsimp only [bind, Except.bind] at h
    split at h
    · cases h
    · cases h
    · cases h
    · split at h
      · cases h
      · cases h
        rfl

theorem request_of_send (h : c.send server call = .ok (out, reply, server')) :
    call.request? = some out.request := by
  unfold send at h
  cases hprepare : c.prepare call.endpoint call.request? with
  | error f =>
    rw [hprepare] at h
    cases h
  | ok out' =>
    rw [hprepare] at h
    cases h
    exact prepare_ok hprepare

theorem endpoint_of_send (h : c.send server call = .ok (out, reply, server')) :
    out.request.endpoint = call.endpoint := Call.endpoint_of_request? (request_of_send h)

theorem hostFailure?_eq_some {url : Url} {f : Failure} (h : hostFailure? url = some f) :
    f.isTransport = false := by
  unfold hostFailure? at h
  cases hfault : Hostname.readingFault? url.host with
  | some fault =>
    rw [hfault] at h
    cases h
    rfl
  | none =>
    simp only [hfault, Option.map_none, Option.none_or] at h
    split at h
    · cases h
      rfl
    · cases h

theorem prepare_error {e : Endpoint} {request : Option Request} {f : Failure}
    (hrequest : request ≠ some .operations) (h : c.prepare e request = .error f) :
    f.isTransport = false := by
  unfold prepare at h
  cases hurl : takeUrl (c.base.below e.path.toList) with
  | error g =>
    rw [hurl] at h
    obtain ⟨fault, rfl⟩ := takeUrl_error hurl
    cases h
    rfl
  | ok url =>
    rw [hurl] at h
    dsimp only [bind, Except.bind] at h
    split at h
    · cases h
      rfl
    · exact absurd rfl hrequest
    case h_3 g _ hhost =>
      cases h
      exact hostFailure?_eq_some hhost
    · split at h
      · cases h
        rfl
      · cases h

/-- A request for a verdict that does not go out fails for another reason than the transport. -/
theorem validate_error {d : Document.Draft} {text : String} {f : Failure}
    (h : c.send server (.validate d text) = .error f) : f.isTransport = false := by
  unfold send at h
  cases hprepare : c.prepare (Call.validate d text).endpoint (Call.validate d text).request? with
  | error g =>
    rw [hprepare] at h
    cases h
    refine prepare_error ?_ hprepare
    cases d <;> simp [Call.request?, Request.validate, Request.validateInput, Request.validateSpec,
      Request.operations]
  | ok out =>
    rw [hprepare] at h
    cases h

/-- Can requests to an endpoint be sent? The client is open, the endpoint has an address, and the
host can be written. -/
def canSend (c : Client) (e : Endpoint) : Bool :=
  !c.closed &&
    match c.base.below e.path.toList with
    | .ok url => (hostFailure? url).isNone
    | .error _ => false

/-- What can be written is sent. -/
theorem send_of_canSend {request : Request} (h : c.canSend call.endpoint = true)
    (hrequest : call.request? = some request) (server : Server) :
    ∃ out reply server', out.request = request ∧ c.send server call = .ok (out, reply, server') := by
  unfold canSend at h
  rw [Bool.and_eq_true, Bool.not_eq_true'] at h
  obtain ⟨hopen, haddress⟩ := h
  split at haddress
  case h_1 url hbelow =>
    rw [Option.isNone_iff_eq_none] at haddress
    let reply := server.reply request
    refine ⟨⟨url, request⟩,
      { reply.1 with reaction := Outgoing.keep ⟨url, request⟩ reply.1.reaction }, reply.2, rfl, ?_⟩
    have hprepare : c.prepare call.endpoint (some request) = .ok ⟨url, request⟩ := by
      simp [prepare, hbelow, haddress, hopen, takeUrl, bind, Except.bind, pure, Except.pure]
    simp only [send, hrequest, hprepare, bind, Except.bind, pure, Except.pure]
    rfl
  case h_2 => cases haddress

theorem send_validate_of_canSend {d : Document.Draft} (h : c.canSend (.validate d) = true)
    (server : Server) (text : String) :
    ∃ out reply server', out.request = .validate d text ∧
      c.send server (.validate d text) = .ok (out, reply, server') := by
  have hcan : c.canSend (Call.validate d text).endpoint = true := h
  exact send_of_canSend hcan rfl server

theorem send_validate_of_not_canSend {d : Document.Draft} (h : c.canSend (.validate d) = false)
    (server : Server) (text : String) : ∃ f, c.send server (.validate d text) = .error f := by
  suffices hprepare : ∃ f, c.prepare (.validate d) (some (.validate d text)) = .error f by
    obtain ⟨f, hf⟩ := hprepare
    refine ⟨f, ?_⟩
    simp only [send, Call.endpoint, Call.request?, hf, bind, Except.bind]
  unfold canSend at h
  unfold prepare
  cases hbelow : c.base.below (Endpoint.validate d).path.toList with
  | error fault => exact ⟨_, rfl⟩
  | ok url =>
    simp only [hbelow] at h
    cases hhost : hostFailure? url with
    | some f =>
      refine ⟨f, ?_⟩
      cases d <;> simp [takeUrl, hhost, Request.validate, Request.validateInput,
        Request.validateSpec, bind, Except.bind, throw, throwThe, MonadExceptOf.throw]
    | none =>
      refine ⟨.closedClient, ?_⟩
      have hclosed : c.closed = true := by simpa [hhost] using h
      simp [takeUrl, hhost, hclosed, bind, Except.bind, throw, throwThe, MonadExceptOf.throw]

/-- An open client whose address leads to an endpoint: it is an address, its host can be written,
and it tells where an answer comes from. -/
structure Reaches (c : Client) (e : Endpoint) (url : Url) : Prop where
  isOpen : c.closed = false
  below : c.base.below e.path.toList = .ok url
  host : hostFailure? url = none
  origin : url.originFault? = none

variable {e : Endpoint} {url : Url} {request : Request}

theorem Reaches.prepare_eq (h : c.Reaches e url) :
    c.prepare e (some request) = .ok ⟨url, request⟩ := by
  simp [prepare, h.below, h.host, h.isOpen, takeUrl, bind, Except.bind, pure, Except.pure]

theorem Reaches.keep_eq (h : c.Reaches e url) (reaction : Reaction) :
    Outgoing.keep ⟨url, request⟩ reaction = reaction := by
  cases reaction <;> simp [Outgoing.keep, h.origin]

theorem Reaches.send_eq (h : c.Reaches call.endpoint url)
    (hrequest : call.request? = some request) :
    c.send server call = .ok (⟨url, request⟩, server.reply request) := by
  simp [send, hrequest, h.prepare_eq, h.keep_eq, bind, Except.bind, pure, Except.pure]

/-- What such a client makes of a call is what is read in the reaction of the service. -/
theorem Reaches.exchange_eq (h : c.Reaches call.endpoint url)
    (hrequest : call.request? = some request) :
    c.exchange server call =
      { notes := call.notes ++ (call.read (server.reply request).1.reaction).1
        sent := some ⟨url, request⟩
        result := (call.read (server.reply request).1.reaction).2
        server := (server.reply request).2 } := by
  simp [exchange, h.send_eq hrequest]

end Service.Client

end Workbench
