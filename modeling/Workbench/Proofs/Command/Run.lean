import Workbench.Command.Run
import Workbench.Proofs.Session.Opening
import Workbench.Proofs.Session.Reach

/-!
# What a command comes to

A command that only prints does not change what it has sent and written, and it ends only by markup
that cannot be printed. So what a command comes to is told by its session, unless printing or writing
breaks.
-/
namespace Workbench.Command

/-! ## The sessions of commands settle

A command gives its session the texts of files, waits until the session has settled, and perhaps asks
for a transform then. Whatever the service does, that comes to an end within the steps of the budget. -/

open Document (Draft)
open Service (Client Server)
open Session (HasSettled givenBy textsOf)

variable {settings : Settings} {client : Client} {input spec : Option String} {asks : Bool}

/-- The text that a command gives to a draft. -/
def given (input spec : Option String) : Draft → Option String
  | .input => input
  | .spec => spec

/-- The drafts and their texts in the order in which a command gives them. -/
def texts (input spec : Option String) : List (Draft × String) :=
  (input.map (Prod.mk .input)).toList ++ (spec.map (Prod.mk .spec)).toList

theorem givenBy_texts (input spec : Option String) :
    givenBy (texts input spec) = given input spec := by
  funext d
  cases input <;> cases spec <;> cases d <;> rfl

theorem nodup_texts (input spec : Option String) : ((texts input spec).map Prod.fst).Nodup := by
  cases input <;> cases spec <;> simp [texts]

/-- A client can send the requests that a command may have to send. -/
structure Carries (client : Client) (armed asks : Bool) (given : Draft → Option String) : Prop where
  validates : ∀ d, textsOf given d ≠ [] → client.canSend (.validate d) = true
  transforms : (armed || asks) = true → (∀ d, textsOf given d ≠ []) →
    client.canSend .transform = true

/-- The session of a command settles, and its user comes to an end. -/
theorem hasSettled_session (server : Server) (hclient : Carries client settings.autoTransform asks
      (given input spec)) :
    HasSettled (given input spec) settings.autoTransform asks
      (session settings client server ((texts input spec).map (fun x => .edit x.1.buffer x.2) ++
        .settle :: Session.closing asks)) := by
  rw [← givenBy_texts] at hclient ⊢
  obtain ⟨t, hstep, hsettling, hleft⟩ := Session.exists_isSettling Session.not_canBreak_blindView
    settings settings.autoTransform server true false () (nodup_texts input spec) hclient.validates
    hclient.transforms
  have hfirst : (Session.machine Session.blindView).step _ = some t := hstep
  have hbudget : 2 * t.left + 1 ≤ 999999 := by omega
  have hlast := hsettling.passUntil Session.not_canBreak_blindView hbudget
  rw [← Turn.Machine.passUntil_succ hfirst] at hlast
  exact hlast

theorem hasSettled_validateSession (server : Server)
    (hclient : Carries client settings.autoTransform false (given input spec)) :
    HasSettled (given input spec) settings.autoTransform false
      (validateSession settings client server input spec) := by
  have hactions : (input.map (Session.Action.edit .input)).toList ++
      (spec.map (.edit .spec)).toList ++ [.settle] =
        (texts input spec).map (fun x => .edit x.1.buffer x.2) ++ .settle :: Session.closing false := by
    cases input <;> cases spec <;> rfl
  rw [validateSession, hactions]
  exact hasSettled_session server hclient

theorem hasSettled_transformSession (server : Server) {input spec : String}
    (hclient : Carries client settings.autoTransform true (given input spec)) :
    HasSettled (given input spec) settings.autoTransform true
      (transformSession settings client server input spec) := hasSettled_session server hclient

end Workbench.Command

namespace Workbench.Command

open Document (Draft)
open Service (Client Outgoing)

variable {α β : Type} {w : Surroundings} {r : Report}

/-! ## Stretches of work -/

/-- A failure to print or to write. -/
def Fault.isOfOutput : Fault → Bool
  | markup _ | unwritable _ => true
  | _ => false

namespace Act

theorem run_bind (x : Act α) (f : α → Act β) (r : Report) : (x >>= f).run r =
    match x.run r with
    | (.ok a, r) => (f a).run r
    | (.error e, r) => (.error e, r) := by
  change (ExceptT.bind x f).run r = _
  unfold ExceptT.bind ExceptT.mk ExceptT.run
  change (ExceptT.bindCont f (x r).1) (x r).2 = _
  rcases x r with ⟨_ | _, r⟩ <;> rfl

theorem run_take {ε : Type} (fault : ε → Fault) (x : Except ε α) (r : Report) : (take fault x).run r =
    match x with
    | .ok a => (.ok a, r)
    | .error e => (.error (.fault (fault e)), r) := by
  cases x <;> rfl

/-- What has been sent, the result, and what has been written when it is over; printing or writing may
have failed instead. -/
structure ComesTo (x : Act α) (r : Report) (calls : List Outgoing) (result : Except Stop α)
    (written : Option (Path × String)) : Prop where
  calls : (x.run r).2.calls = calls
  result : ((x.run r).1 = result ∧ (x.run r).2.written = written) ∨
    ∃ f : Fault, (x.run r).1 = .error (.fault f) ∧ f.isOfOutput = true

/-- It prints, and does nothing else. -/
def IsPrint (x : Act Unit) : Prop :=
  ∀ r, (∃ output, x.run r = (.ok (), { r with output })) ∨
    ∃ f, x.run r = (.error (.fault (.markup f)), r)

theorem isPrint_print (text : String) : IsPrint (print text) := fun _ => .inl ⟨_, rfl⟩

theorem isPrint_printChecked (text : Except Console.Markup.Fault String) :
    IsPrint (printChecked text) := by
  intro r
  cases text with
  | ok text => exact .inl ⟨_, rfl⟩
  | error f => exact .inr ⟨f, rfl⟩

theorem isPrint_say (w : Surroundings) (markup : String) : IsPrint (w.say markup) :=
  isPrint_printChecked _

theorem isPrint_showTable (w : Surroundings) (t : Console.Table) : IsPrint (w.showTable t) :=
  isPrint_printChecked _

theorem isPrint_printOutput (w : Surroundings) (settings : Settings) (asTree : Bool) (text : String) :
    IsPrint (printOutput w settings asTree text) := by
  unfold printOutput
  split
  · exact isPrint_print _
  · split
    · exact isPrint_print _
    · exact isPrint_say w text

namespace ComesTo

variable {calls : List Outgoing} {result : Except Stop α} {written : Option (Path × String)}

/-- A print comes first. -/
theorem print {x : Act Unit} (hx : IsPrint x) {f : Unit → Act α} {r : Report}
    (hcalls : r.calls = calls)
    (h : ∀ t : Report, t.calls = r.calls → t.written = r.written → ComesTo (f ()) t calls result written) :
    ComesTo (x >>= f) r calls result written := by
  obtain ⟨output, hrun⟩ | ⟨fault, hrun⟩ := hx r
  · have hrest := h { r with output } rfl rfl
    refine ⟨?_, ?_⟩
    · rw [run_bind, hrun]
      exact hrest.calls
    · rw [run_bind, hrun]
      exact hrest.result
  · refine ⟨?_, .inr ⟨.markup fault, ?_, rfl⟩⟩
    · rw [run_bind, hrun]
      exact hcalls
    · rw [run_bind, hrun]

/-- Only the run matters. -/
theorem of_run_eq {x y : Act α} {r t : Report} (hrun : x.run r = y.run t)
    (h : ComesTo y t calls result written) : ComesTo x r calls result written := by
  refine ⟨?_, ?_⟩
  · rw [hrun]
    exact h.calls
  · rw [hrun]
    exact h.result

/-- Something is done that goes through. -/
theorem bind {x : Act β} {f : β → Act α} {b : β} {r t : Report} (hrun : x.run r = (.ok b, t))
    (h : ComesTo (f b) t calls result written) : ComesTo (x >>= f) r calls result written :=
  of_run_eq (by rw [run_bind, hrun]) h

/-- Something is done that fails. -/
theorem bind_of_error {x : Act β} {f : β → Act α} {stop : Stop} {r t : Report}
    (hrun : x.run r = (.error stop, t)) (hcalls : t.calls = calls) (hwritten : t.written = written)
    (hresult : result = .error stop) : ComesTo (x >>= f) r calls result written := by
  have hbind : (x >>= f).run r = (.error stop, t) := by rw [run_bind, hrun]
  refine ⟨?_, .inl ?_⟩
  · rw [hbind, hcalls]
  · rw [hbind, hwritten, hresult]
    exact ⟨rfl, rfl⟩

theorem pure {a : α} (hcalls : r.calls = calls) (hwritten : r.written = written)
    (hresult : result = .ok a) : ComesTo (Pure.pure a) r calls result written :=
  ⟨hcalls, .inl ⟨hresult.symm, hwritten⟩⟩

theorem throw {stop : Stop} (hcalls : r.calls = calls) (hwritten : r.written = written)
    (hresult : result = .error stop) : ComesTo (throw stop) r calls result written :=
  ⟨hcalls, .inl ⟨hresult.symm, hwritten⟩⟩

/-- It ends here if something is so. -/
theorem check {calls : List Outgoing} {written : Option (Path × String)} {stop : Stop} {b c : Bool}
    (hcalls : r.calls = calls) (hwritten : r.written = written) (hb : b = c) :
    ComesTo (if b then MonadExcept.throw stop else Pure.pure ()) r calls
      (if c then .error stop else .ok ()) written := by
  subst hb
  split
  · exact throw hcalls hwritten rfl
  · exact pure hcalls hwritten rfl

end ComesTo

end Act

/-! ## What a command begins with -/

namespace Surroundings

open Act (run_bind run_take)

/-- A file holds a text. -/
def Holds (w : Surroundings) (p : Path) (text : String) : Prop :=
  ∃ bytes, (w.entry p).read = .ok bytes ∧ textOfBytes bytes = .ok text

theorem run_readFile {p : Path} {text : String} (h : w.Holds p text) (r : Report) :
    (w.readFile p).run r = (.ok text, r) := by
  obtain ⟨bytes, hread, htext⟩ := h
  unfold readFile
  rw [hread]
  dsimp only
  rw [run_take, htext]

theorem run_readFiles {p : Option Path} {text : Option String} (h : Option.Rel w.Holds p text)
    (r : Report) : (p.mapM fun p => w.readFile p).run r = (.ok text, r) := by
  cases h with
  | none => rfl
  | some h =>
    change (w.readFile _ >>= fun text => pure (some text)).run r = _
    rw [run_bind, run_readFile h]
    rfl

/-- Settings with the base address of the command line, if there is one. -/
def rebased (s : Settings) : Option String → Settings
  | none | some "" => s
  | some url => { s with service.baseUrl := ServiceSettings.trimSlashes url }

theorem rebased_of_ne {s : Settings} {url : String} (h : url ≠ "") :
    rebased s (some url) = { s with service.baseUrl := ServiceSettings.trimSlashes url } := by
  unfold rebased
  split
  case h_1 heq => cases heq
  case h_2 heq => exact absurd (Option.some.inj heq) h
  case h_3 heq => rw [Option.some.inj heq]

theorem run_settings (baseUrl : Option String) (r : Report) :
    (w.settings baseUrl).run r = match w.sources.resolve with
      | .ok s => (.ok (rebased s baseUrl), r)
      | .error fault => (.error (.fault (.settings fault)), r) := by
  unfold settings
  rw [run_bind, run_take]
  cases w.sources.resolve with
  | error fault => rfl
  | ok s =>
    dsimp only
    split
    · rfl
    · rfl
    case h_3 url hurl =>
      rw [rebased_of_ne hurl]
      rfl

theorem run_client (s : Settings) (r : Report) :
    (Surroundings.client s).run r = match Client.ofAddress s.service.baseUrl with
      | .ok client => (.ok client, r)
      | .error failure => (.error (.fault (.action failure)), r) := by
  unfold client
  cases Client.ofAddress s.service.baseUrl <;> rfl

/-- The settings that hold for a command, and a client for them. -/
def service (w : Surroundings) (baseUrl : Option String) : Except Fault (Settings × Client) := do
  let s ← w.sources.resolve.mapError .settings
  let client ← (Client.ofAddress (rebased s baseUrl).service.baseUrl).mapError .action
  pure (rebased s baseUrl, client)

theorem run_service (baseUrl : Option String) (f : Settings → Client → Act α) (r : Report) :
    (do
      let settings ← w.settings baseUrl
      let client ← Surroundings.client settings
      f settings client : Act α).run r =
    match w.service baseUrl with
    | .ok (settings, client) => (f settings client).run r
    | .error fault => (.error (.fault fault), r) := by
  rw [run_bind, run_settings]
  unfold service
  cases w.sources.resolve with
  | error fault => rfl
  | ok s =>
    dsimp only
    rw [run_bind, run_client]
    cases hclient : Client.ofAddress (rebased s baseUrl).service.baseUrl with
    | error failure => simp [hclient, Except.mapError, bind, Except.bind]
    | ok client => simp [hclient, Except.mapError, bind, Except.bind, pure, Except.pure]

/-- A command takes its settings and a client for them. -/
theorem comesTo_of_service {baseUrl : Option String} {settings : Settings} {client : Client}
    (hservice : w.service baseUrl = .ok (settings, client)) {f : Settings → Client → Act α}
    {calls : List Outgoing} {result : Except Stop α} {written : Option (Path × String)}
    (h : Act.ComesTo (f settings client) r calls result written) :
    Act.ComesTo (do
      let settings ← w.settings baseUrl
      let client ← Surroundings.client settings
      f settings client) r calls result written :=
  .of_run_eq (by rw [run_service, hservice]) h

/-- The settings of a command cannot be had, or they name no service. -/
theorem comesTo_of_service_error {baseUrl : Option String} {fault : Fault}
    (hservice : w.service baseUrl = .error fault) {f : Settings → Client → Act α} :
    Act.ComesTo (do
      let settings ← w.settings baseUrl
      let client ← Surroundings.client settings
      f settings client) r r.calls (.error (.fault fault)) r.written := by
  refine .of_run_eq (y := throw (.fault fault)) ?_ (.throw rfl rfl rfl)
  rw [run_service, hservice]
  rfl

end Surroundings

/-! ## The session of a command -/

open Session (Answer)

variable {settings : Settings} {client : Client} {s : Session Unit}

/-- A command whose files can be read comes to a session. The command gives its drafts these texts, and
asks for a transform at the end or does not. -/
inductive Runs (w : Surroundings) :
    Invocation → Settings → Client → (Draft → Option String) → Bool → Session Unit → Prop
  | transform {job : TransformJob} {settings client} {input spec : String}
      (hinput : w.Holds job.input input) (hspec : w.Holds job.spec spec)
      (hservice : w.service job.baseUrl = .ok (settings, client)) :
      Runs w (.transform job) settings client (given input spec) true
        (transformSession settings client w.server input spec)
  | validate {job : ValidateJob} {settings client} {input spec : Option String}
      (hgiven : (job.input.isNone && job.spec.isNone) = false)
      (hinput : Option.Rel w.Holds job.input input) (hspec : Option.Rel w.Holds job.spec spec)
      (hservice : w.service job.baseUrl = .ok (settings, client)) :
      Runs w (.validate job) settings client (given input spec) false
        (validateSession settings client w.server input spec)

/-- The report when the requests of a session have been noted. -/
def Report.noted (r : Report) (s : Session Unit) : Report :=
  { r with calls := r.calls ++ s.sent.map (·.outgoing) }

theorem run_follow_of_ok {answers : List Answer} (h : s.finished = [(0, .ok answers)]) (r : Report) :
    (follow s).run r = (.ok s, r.noted s) := by
  unfold follow
  rw [Act.run_bind, h]
  rfl

theorem run_follow_of_error {f : Failure} (h : s.finished = [(0, .error f)]) (r : Report) :
    (follow s).run r = (.error (.fault (.action f)), r.noted s) := by
  unfold follow
  rw [Act.run_bind, h]
  rfl

/-- Has some given draft no good verdict? -/
def refuses (store : Document.Store) (texts : Draft → Option String) : Bool :=
  [Draft.input, .spec].any fun d => (texts d).any (isRefused store d)

/-- What a validation comes to when its session is over. -/
theorem comesTo_validate {job : ValidateJob} {input spec : Option String} {answers : List Answer}
    (hgiven : (job.input.isNone && job.spec.isNone) = false)
    (hinput : Option.Rel w.Holds job.input input) (hspec : Option.Rel w.Holds job.spec spec)
    (hservice : w.service job.baseUrl = .ok (settings, client))
    (hs : validateSession settings client w.server input spec = s)
    (hfinished : s.finished = [(0, .ok answers)]) :
    Act.ComesTo (validate w job) {} (s.sent.map (·.outgoing))
      (if refuses s.store (given input spec) then .error (.exit 1) else .ok ()) none := by
  unfold validate
  rw [hgiven]
  refine .bind (Surroundings.run_readFiles hinput _) (.bind (Surroundings.run_readFiles hspec _) ?_)
  refine Surroundings.comesTo_of_service hservice ?_
  rw [hs]
  refine .bind (run_follow_of_ok hfinished _) (.print (Act.isPrint_showTable w _) ?_ ?_)
  · rfl
  · intro t hcalls hwritten
    refine .check hcalls hwritten ?_
    generalize job.input = path at hinput
    generalize job.spec = path' at hspec
    cases hinput <;> cases hspec <;> simp [refuses, given]

theorem comesTo_writeFile (w : Surroundings) (path : Path) (text : String) (r : Report) :
    Act.ComesTo (w.writeFile path text) r r.calls (.ok ()) (some (path, text)) := by
  unfold Surroundings.writeFile
  split
  case h_1 f _ => exact ⟨rfl, .inr ⟨.unwritable f, rfl, rfl⟩⟩
  case h_2 =>
    refine .bind (b := ()) rfl ?_
    refine .of_run_eq (y := w.say _ >>= Pure.pure) (by rw [bind_pure]) ?_
    exact .print (Act.isPrint_say w _) rfl fun t hcalls hwritten => .pure hcalls hwritten rfl

/-- Has the session of a transform ended with an output? -/
def succeeds (s : Session Unit) : Bool :=
  s.lastWarning.isNone && s.store.outputStatus.level == .valid

/-- What a transform comes to when its session is over. -/
theorem comesTo_transform {job : TransformJob} {input spec : String} {answers : List Answer}
    (hinput : w.Holds job.input input) (hspec : w.Holds job.spec spec)
    (hservice : w.service job.baseUrl = .ok (settings, client))
    (hs : transformSession settings client w.server input spec = s)
    (hfinished : s.finished = [(0, .ok answers)]) :
    Act.ComesTo (transform w job) {} (s.sent.map (·.outgoing))
      (if succeeds s then .ok () else .error (.exit 1))
      (if succeeds s then job.output.map fun path => (path, s.store.outputText) else none) := by
  unfold transform
  refine .bind (Surroundings.run_readFile hinput _) (.bind (Surroundings.run_readFile hspec _) ?_)
  refine Surroundings.comesTo_of_service hservice ?_
  rw [hs]
  refine .bind (run_follow_of_ok hfinished _) ?_
  cases hwarning : s.lastWarning with
  | some warning =>
    have hfails : succeeds s = false := by rw [succeeds, hwarning]; rfl
    rw [hfails]
    refine .print (Act.isPrint_say w _) rfl fun t hcalls hwritten => ?_
    exact .bind_of_error rfl hcalls hwritten rfl
  | none =>
    by_cases hlevel : s.store.outputStatus.level = .valid
    · have hsucceeds : succeeds s = true := by rw [succeeds, hwarning, hlevel]; rfl
      rw [hsucceeds]
      dsimp only
      rw [if_neg (not_not.mpr hlevel)]
      refine .print (Act.isPrint_printOutput w settings job.asTree _) rfl fun t hcalls hwritten => ?_
      refine .print (Act.isPrint_say w _) hcalls fun u hcalls' hwritten' => ?_
      cases job.output with
      | none => exact .pure (hcalls'.trans hcalls) (hwritten'.trans hwritten) rfl
      | some path =>
        have hwrite := comesTo_writeFile w path s.store.outputText u
        rw [hcalls', hcalls] at hwrite
        exact hwrite
    · have hfails : succeeds s = false := by
        rw [succeeds, hwarning, beq_eq_false_iff_ne.mpr hlevel]
        rfl
      rw [hfails]
      dsimp only
      rw [if_pos hlevel]
      refine .print (Act.isPrint_showTable w _) rfl fun t hcalls hwritten => ?_
      exact .bind_of_error rfl hcalls hwritten rfl

/-- A transform whose session fails ends with its failure. -/
theorem comesTo_transform_of_error {job : TransformJob} {input spec : String} {f : Failure}
    (hinput : w.Holds job.input input) (hspec : w.Holds job.spec spec)
    (hservice : w.service job.baseUrl = .ok (settings, client))
    (hs : transformSession settings client w.server input spec = s)
    (hfinished : s.finished = [(0, .error f)]) :
    Act.ComesTo (transform w job) {} (s.sent.map (·.outgoing)) (.error (.fault (.action f))) none := by
  unfold transform
  refine .bind (Surroundings.run_readFile hinput _) (.bind (Surroundings.run_readFile hspec _) ?_)
  refine Surroundings.comesTo_of_service hservice ?_
  rw [hs]
  exact .bind_of_error (run_follow_of_error hfinished _) rfl rfl rfl

/-! ## Without a service -/

theorem comesTo_transform_of_fault {job : TransformJob} {input spec : String} {fault : Fault}
    (hinput : w.Holds job.input input) (hspec : w.Holds job.spec spec)
    (hservice : w.service job.baseUrl = .error fault) :
    Act.ComesTo (transform w job) {} [] (.error (.fault fault)) none := by
  unfold transform
  refine .bind (Surroundings.run_readFile hinput _) (.bind (Surroundings.run_readFile hspec _) ?_)
  exact Surroundings.comesTo_of_service_error hservice

theorem comesTo_validate_of_fault {job : ValidateJob} {input spec : Option String} {fault : Fault}
    (hgiven : (job.input.isNone && job.spec.isNone) = false)
    (hinput : Option.Rel w.Holds job.input input) (hspec : Option.Rel w.Holds job.spec spec)
    (hservice : w.service job.baseUrl = .error fault) :
    Act.ComesTo (validate w job) {} [] (.error (.fault fault)) none := by
  unfold validate
  rw [hgiven]
  refine .bind (Surroundings.run_readFiles hinput _) (.bind (Surroundings.run_readFiles hspec _) ?_)
  exact Surroundings.comesTo_of_service_error hservice

/-! ## The outcome -/

/-- The exit code that a result stands for. -/
def exitCodeOf : Except Stop Unit → Nat
  | .ok () => 0
  | .error (.exit code) => code
  | .error (.fault _) => 1

/-- Printing did not fail, nor did writing. -/
def Outcome.IsShown (o : Outcome) : Prop := ∀ f, o.fault = some f → f.isOfOutput = false

/-- What is left to see of what a command comes to. -/
theorem Act.ComesTo.outcome {i : Invocation} {calls : List Outgoing} {result : Except Stop Unit}
    {written : Option (Path × String)} (h : Act.ComesTo (perform w i) {} calls result written) :
    (i.run w).report.calls = calls ∧
      ((i.run w).IsShown → (i.run w).exitCode = exitCodeOf result ∧ (i.run w).report.written = written) := by
  obtain ⟨hcalls, hresult⟩ := h
  unfold Invocation.run Outcome.IsShown
  rcases hrun : (perform w i).run {} with ⟨result', report⟩
  rw [hrun] at hcalls hresult
  dsimp only at hcalls hresult
  obtain ⟨rfl, hwritten⟩ | ⟨f, rfl, hf⟩ := hresult
  · rcases result' with (_ | f) | ⟨⟩
    · exact ⟨hcalls, fun _ => ⟨rfl, hwritten⟩⟩
    · exact ⟨hcalls, fun _ => ⟨rfl, hwritten⟩⟩
    · exact ⟨hcalls, fun _ => ⟨rfl, hwritten⟩⟩
  · refine ⟨hcalls, fun hshown => ?_⟩
    have hnot := hshown f rfl
    rw [hf] at hnot
    cases hnot

end Workbench.Command
