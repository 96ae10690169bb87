import Workbench.Command.File
import Workbench.Console.Print
import Workbench.Display.Line
import Workbench.Service.Client
import Workbench.Settings.Source

/-!
# The surroundings of a command

Where a command runs: the sources of settings, the files, the service, and the width of the
console. A command prints, sends requests and may write a file; it may stop early with an exit
code, or by a failure that it does not expect.
-/
namespace Workbench.Command

/-- Where a command runs. -/
structure Surroundings where
  sources : Settings.Sources
  entry : Path → Entry
  server : Service.Server
  /-- The width of the console. -/
  width : Nat := 80

/-- A failure that no command expects. -/
inductive Fault where
  | settings (fault : Settings.Fault)
  | action (failure : Failure)
  | undecodable (fault : Text.Undecodable)
  | markup (fault : Console.Markup.Fault)
  | unwritable (fault : FileFault)
  deriving Repr

/-- What is said about settings that cannot be had. -/
def settingsMessage : Settings.Fault → String
  | .document _ => "The configuration document cannot be read."
  | .unnamedMember => "A setting of the service has no name."
  | .undecodable source _ => Settings.undecodableMessage source
  | .flawed flaws =>
    "Invalid settings: " ++ ", ".intercalate (flaws.map fun f => ".".intercalate f.path)

def Fault.message : Fault → String
  | settings fault => settingsMessage fault
  | action failure => failure.message
  | undecodable fault => fault.message
  | markup fault => fault.message
  | unwritable fault => fault.reason

/-- How a command ends before its end. -/
inductive Stop where
  | exit (code : Nat)
  | fault (f : Fault)
  deriving Repr

/-- What a command has done. -/
structure Report where
  /-- What it printed. -/
  output : String := ""
  calls : List Service.Outgoing := []
  /-- The file it wrote. -/
  written : Option (Path × String) := none
  deriving DecidableEq, Repr

/-- A stretch of a command's work. -/
abbrev Act := ExceptT Stop (StateM Report)

namespace Act

/-- Take up a result. -/
def take {ε α : Type} (fault : ε → Fault) : Except ε α → Act α
  | .ok a => pure a
  | .error e => throw (.fault (fault e))

/-- Print a text. -/
def print (text : String) : Act Unit := modify fun r => { r with output := r.output ++ text }

/-- Print what may hold faulty markup. -/
def printChecked (text : Except Console.Markup.Fault String) : Act Unit := do
  print (← take .markup text)

/-- Note requests that were sent. -/
def sent (requests : List Service.Outgoing) : Act Unit :=
  modify fun r => { r with calls := r.calls ++ requests }

end Act

open Act

namespace Surroundings

variable (w : Surroundings)

/-- Print a markup text. -/
def say (markup : String) : Act Unit := printChecked (Console.printedMarkup w.width markup)

/-- Print a table. -/
def showTable (t : Console.Table) : Act Unit := printChecked (t.printed w.width)

/-- The text of a file. -/
def readFile (p : Path) : Act String := do
  match (w.entry p).read with
  | .error f =>
    w.say (Display.tagged "red" ("Cannot read " ++ p.text ++ ": " ++ f.reason))
    throw (.exit 2)
  | .ok bytes => take .undecodable (textOfBytes bytes)

/-- Write a file, and say so. -/
def writeFile (p : Path) (text : String) : Act Unit := do
  match (w.entry p).writeFault? with
  | some f => throw (.fault (.unwritable f))
  | none =>
    modify fun r => { r with written := some (p, text) }
    w.say (Display.tagged "green" ("Saved result to " ++ p.text))

/-- The settings, with the base address of the command line if it gives one. -/
def settings (baseUrl : Option String) : Act Settings := do
  let s ← take .settings w.sources.resolve
  match baseUrl with
  | none | some "" => pure s
  | some url => pure { s with service.baseUrl := ServiceSettings.trimSlashes url }

/-- A client of the service that settings name. -/
def client (s : Settings) : Act Service.Client :=
  take .action (Service.Client.ofAddress s.service.baseUrl)

end Surroundings

end Workbench.Command
