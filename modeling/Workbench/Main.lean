import Workbench.Command.Run

/-!
# The program

Looks up what a command needs to know of the machine it runs on, runs it, and carries out what it
has decided: what is printed, which file is written, and the exit code. No transport is built in,
so that the service counts as unreachable.
-/
namespace Workbench.Main

open Command

/-- The variables that settings may come from. -/
def variableNames : List String :=
  ["SERVICE", "SERVICE__BASE_URL", "SERVICE__TIMEOUT_S", "SERVICE_BASE_URL", "SERVICE_TIMEOUT_S",
    "DEBOUNCE_MS", "RENDER_MAX_DEPTH", "RENDER_INDENT", "AUTO_TRANSFORM_DEFAULT"].map
    ("J2J_STUDIO_" ++ ·)

/-- A service that cannot be reached. -/
def unreachable : Service.Server :=
  { queue := fun _ => []
    usual := fun _ => ⟨0, .fault "ConnectError" "All connection attempts failed"⟩ }

/-- Does anything stand at a path? -/
def isThere (p : Path) : IO Bool :=
  try
    let _ ← IO.FS.realPath p.text
    pure true
  catch _ => pure false

/-- What stands at a path. -/
def entryAt (p : Path) : IO Entry := do
  try
    let bytes ← IO.FS.readBinFile p.text
    pure (.file (bytes.toList.map UInt8.toNat))
  catch
    | .inappropriateType .. => pure (if ← isThere p then .directory else .belowFile)
    | _ =>
      pure (if ← isThere { p with parts := p.parts.dropLast } then .absent else .noDirectory)

/-- The text of a file that need not be there. -/
def text? (path : Path) : IO (Option String) := do
  match (← entryAt path).read.toOption.map textOfBytes with
  | some (.ok text) => pure (some text)
  | _ => pure none

/-- Where the program runs, as far as an invocation depends on it. -/
def surroundings (i : Invocation) : IO Surroundings := do
  let environment ← variableNames.filterMapM fun name => do
    pure ((← IO.getEnv name).map fun value => (name, value))
  let entries ← i.paths.mapM fun p => do pure (p, ← entryAt p)
  let columns := (← IO.getEnv "COLUMNS").bind Number.readWhole?
  let dotenv ← text? (Path.ofString ".env")
  let document ← text? configPath
  pure
    { sources := { environment, dotenv, document }
      entry := fun p => (entries.lookup p).getD .absent
      server := unreachable
      width := columns.elim 80 Int.toNat }

end Workbench.Main

open Workbench Workbench.Command in
def main (arguments : List String) : IO UInt32 := do
  match Invocation.ofArguments arguments with
  | .error fault =>
    IO.eprintln fault.message
    pure 2
  | .ok i =>
    let outcome := i.run (← Main.surroundings i)
    IO.print outcome.report.output
    if let some (path, text) := outcome.report.written then
      IO.FS.createDirAll (Path.text { path with parts := path.parts.dropLast })
      IO.FS.writeFile path.text text
    if let some fault := outcome.fault then IO.eprintln fault.message
    pure outcome.exitCode.toUInt32
