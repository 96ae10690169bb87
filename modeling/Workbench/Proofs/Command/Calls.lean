import Workbench.Proofs.Command.Run
import Workbench.Proofs.Session.Settlement

/-!
# The requests of a command

A command asks for the verdict on each text that is not blank, once. A transform asks for its output
at the end. Besides, a session that starts armed asks for a transform of its own when both texts have
been found valid, also the session of a validation.
-/
namespace Workbench.Command

open Document (Draft)
open Service (Client Endpoint Request Server)
open Session (FoundValid HasSettled closingCalls givenRequest localClient requestsIn textsOf)

variable {w : Surroundings} {i : Invocation} {settings : Settings} {client : Client}
  {texts : Draft → Option String} {asks : Bool} {s : Session Unit}

/-- The requests that were sent to an endpoint. -/
def Outcome.requestsTo (o : Outcome) (e : Endpoint) : List Request :=
  (o.report.calls.map (·.request)).filter (·.endpoint = e)

theorem filter_requests_sent (s : Session Unit) (e : Endpoint) :
    ((s.sent.map (·.outgoing)).map (·.request)).filter (·.endpoint = e) = requestsIn e s.history := by
  unfold Session.sent requestsIn
  induction s.history with
  | nil => rfl
  | cons h history ih =>
    cases h with
    | sent call reply =>
      by_cases he : call.outgoing.request.endpoint = e
      · simpa [Session.Happening.sent?, Session.Happening.requestTo?, he] using ih
      · simpa [Session.Happening.sent?, Session.Happening.requestTo?, he] using ih
    | _ => simpa [Session.Happening.sent?, Session.Happening.requestTo?] using ih

/-- The session of a command settles, and the requests of the command are those of its session. -/
theorem Runs.settled (h : Runs w i settings client texts asks s)
    (hclient : Carries client settings.autoTransform asks texts) :
    HasSettled texts settings.autoTransform asks s ∧
      (i.run w).report.calls = s.sent.map (·.outgoing) := by
  cases h with
  | transform hinput hspec hservice =>
    have hsettled := hasSettled_transformSession w.server hclient
    refine ⟨hsettled, ?_⟩
    obtain ⟨result, hfinished, -⟩ := hsettled.ended
    cases result with
    | ok answers => exact (Act.ComesTo.outcome (i := .transform _)
        (comesTo_transform hinput hspec hservice rfl hfinished)).1
    | error f => exact (Act.ComesTo.outcome (i := .transform _)
        (comesTo_transform_of_error hinput hspec hservice rfl hfinished)).1
  | validate hgiven hinput hspec hservice =>
    have hsettled := hasSettled_validateSession w.server hclient
    refine ⟨hsettled, ?_⟩
    obtain ⟨result, hfinished, hends⟩ := hsettled.ended
    cases hends with
    | rests _ answers => exact (Act.ComesTo.outcome (i := .validate _)
        (comesTo_validate hgiven hinput hspec hservice rfl hfinished)).1
    | _ h => cases h

/-- A command asks once for the verdict on each text that is not blank, and a transform asks for the
output at the end if neither text is blank and the request can be written. The session of either
command asks for one transform more if it starts armed and both texts are found valid. Nothing else is
asked for. -/
theorem requests_of_command (h : Runs w i settings client texts asks s)
    (hclient : Carries client settings.autoTransform asks texts) :
    (∀ d, (i.run w).requestsTo (.validate d) = (textsOf texts d).map (Request.validate d)) ∧
      (i.run w).requestsTo .operations = [] ∧
      (i.run w).requestsTo .transform =
        (if settings.autoTransform && s.store.bothValid then
          (Request.transform? (givenRequest texts)).toList else []) ++ closingCalls texts asks ∧
      (s.store.bothValid = true ↔ ∀ d, ∃ text ∈ textsOf texts d, FoundValid s.history d text) := by
  obtain ⟨hsettled, hcalls⟩ := h.settled hclient
  have hrequests (e : Endpoint) : (i.run w).requestsTo e = requestsIn e s.history := by
    rw [Outcome.requestsTo, hcalls, filter_requests_sent]
  refine ⟨fun d => ?_, ?_, ?_, hsettled.bothValid_iff⟩
  · rw [hrequests, hsettled.requestsIn_validate]
  · rw [hrequests, hsettled.keeps.listed]
  · rw [hrequests, hsettled.requestsIn_transform]

/-! ## A validation that transforms -/

/-- The settings that hold where only the automatic transform is set. -/
def armedSettings : Settings :=
  { service := { baseUrl := ServiceSettings.defaultBaseUrl, timeout := ServiceSettings.defaultTimeout }
    debounceMs := 300, renderMaxDepth := none, renderIndent := 2, autoTransform := true }

/-- Surroundings with two files, in which sessions start armed. The service at the default address finds
everything valid. The console has no room for the text of a table. -/
def armedSurroundings : Surroundings :=
  { sources := { environment := [("J2J_STUDIO_AUTO_TRANSFORM_DEFAULT", "true")] }
    entry := Files.entry [(["i.json"], [49]), (["s.json"], [91, 93])]
    server := Session.easyServer
    width := 0 }

theorem holds_input : armedSurroundings.Holds (.ofString "i.json") "1" :=
  ⟨[49], by decide +kernel, by decide +kernel⟩

theorem holds_spec : armedSurroundings.Holds (.ofString "s.json") "[]" :=
  ⟨[91, 93], by decide +kernel, by decide +kernel⟩

theorem service_armedSurroundings :
    armedSurroundings.service none = .ok (armedSettings, localClient) := by
  have hsome : armedSurroundings.sources.resolve.toOption = some armedSettings := by decide +kernel
  have hresolve : armedSurroundings.sources.resolve = .ok armedSettings := by
    cases hsources : armedSurroundings.sources.resolve with
    | ok settings =>
      rw [hsources] at hsome
      cases hsome
      rfl
    | error fault =>
      rw [hsources] at hsome
      cases hsome
  unfold Surroundings.service
  rw [hresolve]
  rfl

/-- The texts of both files are to be validated. -/
def armedJob : ValidateJob :=
  { input := some (.ofString "i.json"), spec := some (.ofString "s.json"), baseUrl := none }

/-- The session of that validation. -/
def armedSession : Session Unit :=
  validateSession armedSettings localClient Session.easyServer (some "1") (some "[]")

theorem runs_armedJob : Runs armedSurroundings (.validate armedJob) armedSettings localClient
    (given (some "1") (some "[]")) false armedSession :=
  .validate rfl (.some holds_input) (.some holds_spec) service_armedSurroundings

theorem carries_localClient (armed asks : Bool) (texts : Draft → Option String) :
    Carries localClient armed asks texts := by
  refine ⟨fun d _ => ?_, fun _ _ => by decide +kernel⟩
  cases d <;> decide +kernel

/-- A validation of two valid texts, in a session that starts armed. -/
theorem requests_of_command_armed :
    (∀ d, ((Invocation.validate armedJob).run armedSurroundings).requestsTo (.validate d) =
        [Request.validate d (if d = .input then "1" else "[]")]) ∧
      ((Invocation.validate armedJob).run armedSurroundings).requestsTo .transform =
        (Request.transform? (.ofDrafts "1" "[]")).toList := by
  have hvalid : armedSession.store.bothValid = true := by decide +kernel
  obtain ⟨hvalidate, -, htransform, -⟩ :=
    requests_of_command runs_armedJob (carries_localClient true false _)
  refine ⟨fun d => ?_, ?_⟩
  · rw [hvalidate]
    cases d <;> decide +kernel
  · rw [htransform, hvalid]
    rfl

/-- A validation may ask for a transform. -/
theorem validation_transforms :
    ¬ ((Invocation.validate armedJob).run armedSurroundings).requestsTo .transform = [] := by
  have hcalls := (runs_armedJob.settled (carries_localClient true false _)).2
  rw [Outcome.requestsTo, hcalls, filter_requests_sent]
  have hsome : (requestsIn .transform armedSession.history).isEmpty = false := by decide +kernel
  intro hnone
  rw [hnone] at hsome
  cases hsome

end Workbench.Command
