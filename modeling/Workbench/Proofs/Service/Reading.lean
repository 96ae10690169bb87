import Workbench.Proofs.Service.Sending
import Workbench.Proofs.Session.Reach

/-!
# Reading replies

What the client makes of a reaction of the service: a result of the call, or a transport failure
that names its endpoint. Two answers get past it: one that nests deeper than the decoder follows,
and one that reports an infinite execution time.
-/
namespace Workbench.Service

namespace Call

variable {call : Call} {reaction : Reaction} {f : Failure}

/-- Is the body of an answer with this status read? -/
def readsBody : Call → Nat → Bool
  | operations, status => Client.isSuccess status
  | _, _ => true

/-- Is something that broke taken for a body that cannot be read? -/
def catches : Call → Breakage → Bool
  | operations, .value => true
  | _, _ => false

/-- Is a result one for this call? -/
def Fits : Call → CallResult → Prop
  | validate .., .verdict _ => True
  | transform _, .outcome _ => True
  | operations, .names _ => True
  | _, _ => False

/-- A call ends as it should with a result of its own, or with a transport failure that names its
endpoint. -/
def Meets (call : Call) : Except Failure CallResult → Prop
  | .ok result => call.Fits result
  | .error f => ∃ reason, f = .transport call.endpoint.path reason

/-- What gets past the handling of a reaction, and as which failure. -/
inductive Escapes : Call → Reaction → Failure → Prop
  /-- A body that is read nests deeper than the decoder follows. -/
  | nesting {call status body container} (hreads : call.readsBody status = true)
      (hdecode : Json.decodePayload body = .error (.refused (.tooDeep container))) :
      Escapes call (.answer status body) (.tooDeep container)
  /-- The execution time cannot be cut to an integer, and is not taken for a flaw either. -/
  | time {request status body answer} (hdecode : Json.decodePayload body = .ok answer)
      (htime : Outcome.hasInfiniteTime answer = true) :
      Escapes (.transform request) (.answer status body) .infiniteTime
  /-- Something broke that is no fault of the transport. -/
  | broken {call sort message} (hcatches : call.catches sort = false) :
      Escapes call (.broken sort message) (.broken sort message)

/-- What gets past is no transport failure. -/
theorem Escapes.isTransport_eq (h : call.Escapes reaction f) : f.isTransport = false := by
  cases h <;> rfl

theorem Meets.isTransport_eq {result : Except Failure CallResult} (h : call.Meets result)
    (hresult : result = .error f) : f.isTransport = true := by
  subst hresult
  obtain ⟨reason, rfl⟩ := h
  rfl

end Call

namespace Client

/-- What comes of reading the body of a reply to a request with a body. -/
inductive Posted (e : Endpoint) : Reaction → Except Failure Json.Value → Prop
  | value {status body v} (h : Json.decodePayload body = .ok v) :
      Posted e (.answer status body) (.ok v)
  | nesting {status body container}
      (h : Json.decodePayload body = .error (.refused (.tooDeep container))) :
      Posted e (.answer status body) (.error (.tooDeep container))
  | transport {reaction} (reason : String) :
      Posted e reaction (.error (.transport e.path reason))
  | broken {sort message} : Posted e (.broken sort message) (.error (.broken sort message))

theorem posted_readPosted (e : Endpoint) (reaction : Reaction) :
    Posted e reaction (readPosted e reaction).2 := by
  cases reaction with
  | answer status body =>
    rw [readPosted]
    split
    case h_1 v h => exact .value h
    case h_2 container h => exact .nesting h
    case h_3 => exact .transport _
  | timeout => exact .transport _
  | fault name message => exact .transport _
  | broken sort message => exact .broken

/-- A record out of a decoded body, or a transport failure. -/
theorem parse_cases {α : Type} (e : Endpoint) (checked : Record.Checked α) :
    (∃ a, parse e checked = .ok a) ∨
      ∃ reason, parse e checked = .error (.transport e.path reason) := by
  cases checked with
  | good a => exact .inl ⟨a, rfl⟩
  | flawed fs => exact .inr ⟨_, rfl⟩

theorem readVerdict_snd (d : Document.Draft) (r : Reaction) :
    (readVerdict d r).2 =
      (readPosted (.validate d) r).2.bind fun v => parse (.validate d) (Verdict.ofValue v) := by
  unfold readVerdict
  dsimp only
  split <;> simp [*, Except.bind]

theorem readOutcome_snd (r : Reaction) :
    (readOutcome r).2 = (readPosted .transform r).2.bind fun v =>
      if Outcome.hasInfiniteTime v then .error .infiniteTime
      else parse .transform (Outcome.ofValue v) := by
  unfold readOutcome
  split
  · simp only [*, Except.bind]
    split <;> rfl
  · simp [*, Except.bind]

end Client

namespace Call

open Client

variable {reaction : Reaction} {f : Failure}

theorem read_validate (d : Document.Draft) (text : String) (r : Reaction) :
    ((validate d text).read r).2 = (readVerdict d r).2.map .verdict := rfl

theorem read_transform (request : TransformRequest) (r : Reaction) :
    ((transform request).read r).2 = (readOutcome r).2.map .outcome := rfl

theorem read_operations (r : Reaction) :
    (operations.read r).2 = (readOperations r).map .names := rfl

theorem meets_or_escapes_validate (d : Document.Draft) (text : String) (reaction : Reaction) :
    (validate d text).Meets ((validate d text).read reaction).2 ∨
      ∃ f, (validate d text).Escapes reaction f ∧
        ((validate d text).read reaction).2 = .error f := by
  rw [read_validate, readVerdict_snd]
  generalize hposted : (readPosted (.validate d) reaction).2 = posted
  cases hposted ▸ posted_readPosted (.validate d) reaction with
  | @value status body v h =>
    obtain ⟨a, ha⟩ | ⟨reason, hreason⟩ := parse_cases (.validate d) (Verdict.ofValue v)
    · exact .inl (by simp [Except.bind, ha, Except.map, Meets, Fits])
    · exact .inl (by simp [Except.bind, hreason, Except.map, Meets, endpoint])
  | nesting h => exact .inr ⟨_, .nesting rfl h, rfl⟩
  | transport reason => exact .inl ⟨reason, rfl⟩
  | broken => exact .inr ⟨_, .broken rfl, rfl⟩

theorem meets_or_escapes_transform (request : TransformRequest) (reaction : Reaction) :
    (transform request).Meets ((transform request).read reaction).2 ∨
      ∃ f, (transform request).Escapes reaction f ∧
        ((transform request).read reaction).2 = .error f := by
  rw [read_transform, readOutcome_snd]
  generalize hposted : (readPosted .transform reaction).2 = posted
  cases hposted ▸ posted_readPosted .transform reaction with
  | @value status body v h =>
    cases htime : Outcome.hasInfiniteTime v with
    | true => exact .inr ⟨_, .time h htime, by simp [Except.bind, htime, Except.map]⟩
    | false =>
      obtain ⟨a, ha⟩ | ⟨reason, hreason⟩ := parse_cases .transform (Outcome.ofValue v)
      · exact .inl (by simp [Except.bind, htime, ha, Except.map, Meets, Fits])
      · exact .inl (by simp [Except.bind, htime, hreason, Except.map, Meets, endpoint])
  | nesting h => exact .inr ⟨_, .nesting rfl h, rfl⟩
  | transport reason => exact .inl ⟨reason, rfl⟩
  | broken => exact .inr ⟨_, .broken rfl, rfl⟩

theorem meets_or_escapes_operations (reaction : Reaction) :
    operations.Meets (operations.read reaction).2 ∨
      ∃ f, operations.Escapes reaction f ∧ (operations.read reaction).2 = .error f := by
  rw [read_operations]
  cases reaction with
  | answer status body =>
    cases hstatus : isSuccess status with
    | false => exact .inl (by simp [readOperations, hstatus, Except.map, Meets, endpoint])
    | true =>
      simp only [readOperations, hstatus, Bool.not_true, Bool.false_eq_true, if_false]
      split
      · exact .inl trivial
      · exact .inl ⟨_, rfl⟩
      case h_3 container h => exact .inr ⟨_, .nesting hstatus h, rfl⟩
      · exact .inl ⟨_, rfl⟩
  | timeout => exact .inl ⟨_, rfl⟩
  | fault name message => exact .inl ⟨_, rfl⟩
  | broken sort message =>
    cases sort with
    | value => exact .inl ⟨_, rfl⟩
    | runtime => exact .inr ⟨_, .broken rfl, rfl⟩

/-- Reading a reaction gives what the call should end with, unless something gets past. -/
theorem meets_or_escapes (call : Call) (reaction : Reaction) :
    call.Meets (call.read reaction).2 ∨
      ∃ f, call.Escapes reaction f ∧ (call.read reaction).2 = .error f := by
  cases call with
  | validate d text => exact meets_or_escapes_validate d text reaction
  | transform request => exact meets_or_escapes_transform request reaction
  | operations => exact meets_or_escapes_operations reaction

/-- What gets past is what the call fails with. -/
theorem Escapes.read_eq {call : Call} (h : call.Escapes reaction f) :
    (call.read reaction).2 = .error f := by
  cases h with
  | nesting hreads hdecode =>
    cases call with
    | validate d text =>
      simp [read_validate, readVerdict_snd, readPosted, hdecode, Except.bind, Except.map]
    | transform request =>
      simp [read_transform, readOutcome_snd, readPosted, hdecode, Except.bind, Except.map]
    | operations =>
      simp only [readsBody] at hreads
      simp [read_operations, readOperations, hdecode, hreads, Except.map]
  | time hdecode htime =>
    simp [read_transform, readOutcome_snd, readPosted, hdecode, htime, Except.bind, Except.map]
  | @broken _ sort message hcatches =>
    cases call with
    | validate d text => rfl
    | transform request => rfl
    | operations =>
      cases sort with
      | value => cases hcatches
      | runtime => rfl

end Call

namespace Client

variable {c : Client} {call : Call} {url : Url} {request : Request}

/-- A call of a client that reaches its endpoint goes out, and it ends with a result of its own or
with a transport failure that names the endpoint, unless the reaction of the service is one of those
that get past: then it fails with what got past, which is no transport failure. -/
theorem meets_iff_not_escapes (hreaches : c.Reaches call.endpoint url)
    (hrequest : call.request? = some request) (server : Server) :
    (c.exchange server call).sent = some ⟨url, request⟩ ∧
      (call.Meets (c.exchange server call).result ↔
        ∀ f, ¬ call.Escapes (server.reply request).1.reaction f) ∧
      ∀ f, call.Escapes (server.reply request).1.reaction f →
        (c.exchange server call).result = .error f ∧ f.isTransport = false := by
  rw [hreaches.exchange_eq hrequest]
  refine ⟨rfl, ⟨fun hmeets f hescapes => ?_, fun hnone => ?_⟩,
    fun f hescapes => ⟨hescapes.read_eq, hescapes.isTransport_eq⟩⟩
  · have htransport := hmeets.isTransport_eq hescapes.read_eq
    rw [hescapes.isTransport_eq] at htransport
    cases htransport
  · exact (call.meets_or_escapes _).resolve_right fun ⟨f, hescapes, _⟩ => hnone f hescapes

/-! ## Replies to look at -/

theorem exists_reaches_localClient (e : Endpoint) : ∃ url, Session.localClient.Reaches e url := by
  cases e <;> exact ⟨_, rfl, rfl, by decide +kernel, by decide +kernel⟩

/-- A service that says the same to every request, at once. -/
def sayingServer (status : Nat) (body : List Nat) : Server :=
  { queue := fun _ => [], usual := fun _ => { delay := 0, reaction := .answer status body } }

/-- The request of a call to the default address goes out, and a plain refusal is its result. -/
theorem meets_iff_not_escapes_localClient :
    ∃ url request, Session.localClient.Reaches .validateInput url ∧
      (Call.validate .input "1").request? = some request ∧
      (Session.localClient.exchange (sayingServer 500 []) (.validate .input "1")).sent =
        some ⟨url, request⟩ ∧
      (Call.validate .input "1").Meets
        (Session.localClient.exchange (sayingServer 500 []) (.validate .input "1")).result := by
  obtain ⟨url, hreaches⟩ := exists_reaches_localClient (Call.validate .input "1").endpoint
  obtain ⟨hsent, hmeets, -⟩ := meets_iff_not_escapes hreaches rfl (sayingServer 500 [])
  refine ⟨url, _, hreaches, rfl, hsent, hmeets.mpr fun f hescapes => ?_⟩
  cases hescapes with
  | nesting _ hdecode => cases hdecode

/-- The bytes of an answer whose execution time is beyond every floating-point number. -/
def infiniteTimeBody : List Nat :=
  "\x7b\"success\":true,\"executionTime\":1e999\x7d".toUTF8.toList.map UInt8.toNat

/-- Neither that answer nor one that nests too deep comes out as a result or a transport failure. -/
theorem infinite_time_and_nesting_escape :
    (∃ url, Session.localClient.Reaches .transform url ∧
      (Session.localClient.exchange (sayingServer 200 infiniteTimeBody)
        (.transform (.ofDrafts "1" "[]"))).result = .error .infiniteTime) ∧
    ∃ url, Session.localClient.Reaches .validateInput url ∧
      (Session.localClient.exchange (sayingServer 200 (List.replicate 1500 0x5b))
        (.validate .input "1")).result = .error (.tooDeep .array) := by
  have htime : (match Json.decodePayload infiniteTimeBody with
      | .ok answer => Outcome.hasInfiniteTime answer
      | .error _ => false) = true := by decide +kernel
  have hdeep : (match Json.decodePayload (List.replicate 1500 0x5b) with
      | .error cause => decide (cause = .refused (.tooDeep .array))
      | .ok _ => false) = true := by decide +kernel
  constructor
  · obtain ⟨url, hreaches⟩ :=
      exists_reaches_localClient (Call.transform (.ofDrafts "1" "[]")).endpoint
    refine ⟨url, hreaches, ?_⟩
    rw [hreaches.exchange_eq rfl]
    split at htime
    case h_1 answer hdecode =>
      have hescapes : (Call.transform (.ofDrafts "1" "[]")).Escapes
          (.answer 200 infiniteTimeBody) .infiniteTime := .time hdecode htime
      exact hescapes.read_eq
    case h_2 => cases htime
  · obtain ⟨url, hreaches⟩ := exists_reaches_localClient (Call.validate .input "1").endpoint
    refine ⟨url, hreaches, ?_⟩
    rw [hreaches.exchange_eq rfl]
    generalize List.replicate 1500 0x5b = body at hdeep ⊢
    split at hdeep
    case h_1 cause hdecode =>
      obtain rfl := of_decide_eq_true hdeep
      have hescapes : (Call.validate .input "1").Escapes (.answer 200 body) (.tooDeep .array) :=
        .nesting rfl hdecode
      exact hescapes.read_eq
    case h_2 => cases hdeep

end Client

end Workbench.Service
