import Workbench.Command.Job
import Workbench.Service.Exchange

/-!
# Running the program

What the program does for an invocation, and its exit code: zero if all is well, one if a verdict
is bad or something failed, two if it was called wrongly or a file cannot be read.
-/
namespace Workbench.Command

open Act

def tree (w : Surroundings) (file : Path) (maxDepth : Option Int) : Act Unit := do
  let settings ← w.settings none
  let text ← w.readFile file
  let limit := maxDepth <|> settings.renderMaxDepth.map fun n => (n : Int)
  let view := Tree.viewOutput text settings.renderIndent limit
  printChecked (Console.Panel.printed w.width ⟨file.text, view.plain.toList⟩)

def operations (w : Surroundings) (baseUrl : Option String) : Act Unit := do
  let settings ← w.settings baseUrl
  let x := (← Surroundings.client settings).exchange w.server .operations
  sent x.sent.toList
  match x.result with
  | .ok (.names names) => names.forM fun name => w.say ("- " ++ name)
  | .ok _ => pure ()
  | .error f =>
    match f with
    | .transport .. =>
      w.say (Display.tagged "red" f.message)
      throw (.exit 1)
    | _ => throw (.fault (.action f))

/-- Where the user's configuration document is. -/
def configPath : Path := ⟨false, ["config", "config.yaml"]⟩

def initConfig (w : Surroundings) : Act Unit := do
  if w.sources.document.isNone then
    modify fun r => { r with written := some (configPath, Settings.initialDocument none) }
  w.say (Display.tagged "green" ("Config file: " ++ configPath.text))

/-- A truth value as it is shown. -/
def truthWord (b : Bool) : String := Tree.Node.display (.bool b)

def showConfig (w : Surroundings) : Act Unit := do
  let s ← w.settings none
  w.showTable
    { head := ["Setting", "Value"]
      rows :=
        [["service.base_url", s.service.baseUrl],
          ["service.timeout_s", Tree.Node.display (.float s.service.timeout)],
          ["debounce_ms", toString s.debounceMs],
          ["render_indent", toString s.renderIndent],
          ["render_max_depth", s.renderMaxDepth.elim "None" toString],
          ["auto_transform_default", truthWord s.autoTransform]] }
  w.say (Display.tagged "dim" ("User config: " ++ configPath.text))

/-- The name of the program and its version. -/
def versionLine : String := "j2j-studio version 0.1.0"

/-- How the program is used. -/
def helpText : String :=
"Usage: j2j-studio [OPTIONS] COMMAND [ARGS]...

J2J Studio: edit, validate and run JSON transformation chains.

Commands:
  transform INPUT_FILE SPEC_FILE [--tree] [-o, --output PATH] [--base-url TEXT]
  validate [-i, --input PATH] [-s, --spec PATH] [--base-url TEXT]
  tree JSON_FILE [--max-depth INTEGER]
  operations [--base-url TEXT]
  config init
  config show

Options:
  -v, --version
  --help
"

def perform (w : Surroundings) : Invocation → Act Unit
  | .version => w.say versionLine
  | .help => print helpText
  | .transform job => transform w job
  | .validate job => validate w job
  | .tree file maxDepth => tree w file maxDepth
  | .operations baseUrl => operations w baseUrl
  | .initConfig => initConfig w
  | .showConfig => showConfig w

/-- What came of a run of the program. -/
structure Outcome where
  exitCode : Nat
  report : Report
  fault : Option Fault := none

/-- Run a command. -/
def Invocation.run (i : Invocation) (w : Surroundings) : Outcome :=
  match (perform w i).run {} with
  | (.ok (), report) => { exitCode := 0, report }
  | (.error (.exit code), report) => { exitCode := code, report }
  | (.error (.fault f), report) => { exitCode := 1, report, fault := some f }

/-- Run the program with its arguments; if they cannot be understood, nothing is done. -/
def run (w : Surroundings) (arguments : List String) : Outcome :=
  match Invocation.ofArguments arguments with
  | .ok i => i.run w
  | .error _ => { exitCode := 2, report := {} }

end Workbench.Command
