import Workbench.Command.Invocation
import Workbench.Command.Surroundings
import Workbench.Session.Run
import Workbench.Tree.View

/-!
# Transforming and validating once

The commands that put files into a session, wait for the verdicts of the service, and then show
what became of them.
-/
namespace Workbench.Command

open Act
open Document (Draft Store)

/-- More steps than the session of a command takes. -/
def budget : Nat := 1000000

/-- A session that nobody watches, in which edits are validated at once. It does the given actions
one after the other. -/
def session (settings : Settings) (client : Service.Client) (server : Service.Server)
    (actions : List Session.Action) : Session Unit :=
  let quiet : Session.View Unit := fun _ _ v => (v, none)
  let s := Session.new settings 0 settings.autoTransform client server true false ()
  (Session.machine quiet).passUntil budget (Session.hasFinished 0) (s.launch 0 actions)

/-- The session of a transform: both drafts are put in, their verdicts are waited for, and then the
transform is asked for. -/
def transformSession (settings : Settings) (client : Service.Client) (server : Service.Server)
    (input spec : String) : Session Unit :=
  session settings client server
    [.edit .input input, .edit .spec spec, .settle, .requestTransform]

/-- The session of a validation: the given drafts are put in, and their verdicts are waited for. -/
def validateSession (settings : Settings) (client : Service.Client) (server : Service.Server)
    (input spec : Option String) : Session Unit :=
  session settings client server
    ((input.map (.edit .input)).toList ++ (spec.map (.edit .spec)).toList ++ [.settle])

/-- Run a session: its requests are noted, and its failure is the command's. -/
def follow (s : Session Unit) : Act (Session Unit) := do
  sent (s.sent.map (·.outgoing))
  match s.finished.lookup 0 with
  | some (.error f) => throw (.fault (.action f))
  | _ => pure s

/-- The statuses of all buffers. -/
def statusTable (store : Store) : Console.Table :=
  { head := ["Buffer", "Status"]
    rows := [Document.Buffer.input, .spec, .output].map fun b =>
      [b.name, Display.statusMarkup (store.status b)] }

/-- The line about how a transform went. -/
def metricsLine (store : Store) : String :=
  let time := store.executionTime.elim "None" toString
  let rating := (store.rating.getD .unknown).name
  Display.tagged "dim" ("Execution time: " ++ time ++ "ms | Complexity: " ++ rating)

/-- Print the output of a transform: as a tree, or laid out anew if it is JSON, or as it is. -/
def printOutput (w : Surroundings) (settings : Settings) (asTree : Bool) (text : String) :
    Act Unit :=
  if asTree then
    let view := Tree.viewOutput text settings.renderIndent
      (settings.renderMaxDepth.map fun n => (n : Int))
    print (Console.printed w.width view.plain.toList)
  else
    match Json.decode text with
    | .ok v => print (Json.indented 2 v ++ "\n")
    | .error _ => w.say text

def transform (w : Surroundings) (job : TransformJob) : Act Unit := do
  let input ← w.readFile job.input
  let spec ← w.readFile job.spec
  let settings ← w.settings job.baseUrl
  let client ← Surroundings.client settings
  let s ← follow (transformSession settings client w.server input spec)
  if let some warning := s.lastWarning then
    w.say (Display.tagged "yellow" warning)
    throw (.exit 1)
  if s.store.outputStatus.level ≠ .valid then
    w.showTable (statusTable s.store)
    throw (.exit 1)
  printOutput w settings job.asTree s.store.outputText
  w.say (metricsLine s.store)
  if let some path := job.output then w.writeFile path s.store.outputText

/-- Is a given draft without a good verdict? A blank input needs none. -/
def isRefused (store : Store) (d : Draft) (text : String) : Bool :=
  (store.draft d).snapshot.isNone && !(d = .input && Text.isBlank text)

def validate (w : Surroundings) (job : ValidateJob) : Act Unit := do
  if job.input.isNone && job.spec.isNone then
    w.say (Display.tagged "yellow" "Nothing to validate: pass --input and/or --spec")
    throw (.exit 2)
  let input ← job.input.mapM fun p => w.readFile p
  let spec ← job.spec.mapM fun p => w.readFile p
  let settings ← w.settings job.baseUrl
  let client ← Surroundings.client settings
  let s ← follow (validateSession settings client w.server input spec)
  let given : List (Draft × Option Path × Option String) :=
    [(.input, job.input, input), (.spec, job.spec, spec)]
  let documents := given.filterMap fun (d, path, text) => do pure (d, ← path, ← text)
  w.showTable
    { head := ["Document", "Status"]
      rows := documents.map fun (d, path, _) =>
        [path.name, Display.statusMarkup (s.store.draft d).status] }
  if documents.any fun (d, _, text) => isRefused s.store d text then throw (.exit 1)

end Workbench.Command
