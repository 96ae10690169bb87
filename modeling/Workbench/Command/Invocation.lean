import Workbench.Command.Arguments
import Workbench.Command.File
import Workbench.Number.Reading

/-!
# Invocations

What the program is called to do: one of its commands with its options, or to show its version or
how it is used.
-/
namespace Workbench.Command

/-- Transform an input by a specification. -/
structure TransformJob where
  input : Path
  spec : Path
  /-- Show the result as a tree. -/
  asTree : Bool
  /-- Where the result is written to. -/
  output : Option Path
  baseUrl : Option String
  deriving DecidableEq, Repr

/-- Validate an input, a specification, or both. -/
structure ValidateJob where
  input : Option Path
  spec : Option Path
  baseUrl : Option String
  deriving DecidableEq, Repr

inductive Invocation where
  | version
  | help
  | transform (job : TransformJob)
  | validate (job : ValidateJob)
  | tree (file : Path) (maxDepth : Option Int)
  | operations (baseUrl : Option String)
  | initConfig
  | showConfig
  deriving DecidableEq, Repr

namespace Invocation

def helpSwitch : Switch := { name := "--help", takesValue := false }
def baseUrlSwitch : Switch := { name := "--base-url" }

/-- Read the arguments of a command. A call for help comes before everything but arguments that
cannot be read. -/
def ofCommand (switches : List Switch) (arguments : List String)
    (make : Arguments → Except UsageFault Invocation) : Except UsageFault Invocation := do
  let a ← Arguments.read (helpSwitch :: switches) true arguments
  if a.has "--help" then pure .help else make a

/-- A command takes no words. -/
def noWords (a : Arguments) : Except UsageFault Unit :=
  match a.words with
  | [] => .ok ()
  | word :: _ => .error (.unexpectedArgument word)

/-- The one word that a command takes. -/
def oneWord (name : String) (a : Arguments) : Except UsageFault String :=
  match a.words with
  | [] => .error (.missingArgument name)
  | [word] => .ok word
  | _ :: word :: _ => .error (.unexpectedArgument word)

/-- The two words that a command takes. -/
def twoWords (first second : String) (a : Arguments) : Except UsageFault (String × String) :=
  match a.words with
  | [] => .error (.missingArgument first)
  | [_] => .error (.missingArgument second)
  | [one, two] => .ok (one, two)
  | _ :: _ :: word :: _ => .error (.unexpectedArgument word)

/-- An integer, if the option is given. -/
def integer? (a : Arguments) (name : String) : Except UsageFault (Option Int) :=
  match a.value? name with
  | none => .ok none
  | some text =>
    match Number.readWhole? text with
    | some i => .ok (some i)
    | none => .error (.notInteger name text)

def transformOf (arguments : List String) : Except UsageFault Invocation :=
  ofCommand [{ name := "--tree", takesValue := false }, { name := "--output", letter := 'o' },
      baseUrlSwitch] arguments fun a => do
    let (input, spec) ← twoWords "INPUT_FILE" "SPEC_FILE" a
    pure (.transform
      { input := .ofString input, spec := .ofString spec, asTree := a.has "--tree"
        output := (a.value? "--output").map .ofString, baseUrl := a.value? "--base-url" })

def validateOf (arguments : List String) : Except UsageFault Invocation :=
  ofCommand [{ name := "--input", letter := 'i' }, { name := "--spec", letter := 's' }, baseUrlSwitch]
      arguments fun a => do
    noWords a
    pure (.validate
      { input := (a.value? "--input").map .ofString, spec := (a.value? "--spec").map .ofString
        baseUrl := a.value? "--base-url" })

def treeOf (arguments : List String) : Except UsageFault Invocation :=
  ofCommand [{ name := "--max-depth" }] arguments fun a => do
    let file ← oneWord "JSON_FILE" a
    pure (.tree (.ofString file) (← integer? a "--max-depth"))

def operationsOf (arguments : List String) : Except UsageFault Invocation :=
  ofCommand [baseUrlSwitch] arguments fun a => do
    noWords a
    pure (.operations (a.value? "--base-url"))

/-- A command without options. -/
def plainOf (i : Invocation) (arguments : List String) : Except UsageFault Invocation :=
  ofCommand [] arguments fun a => (noWords a).map fun _ => i

/-- Choose among commands by the first word. -/
def choose (commands : List (String × (List String → Except UsageFault Invocation))) :
    List String → Except UsageFault Invocation
  | [] => .error .missingCommand
  | name :: rest =>
    match commands.lookup name with
    | some command => command rest
    | none => .error (.unknownCommand name)

/-- The commands about the user's configuration. -/
def configOf (arguments : List String) : Except UsageFault Invocation := do
  let a ← Arguments.read [helpSwitch] false arguments
  if a.has "--help" then pure .help
  else choose [("init", plainOf .initConfig), ("show", plainOf .showConfig)] a.words

/-- The invocation that the arguments of the program stand for. -/
def ofArguments (arguments : List String) : Except UsageFault Invocation := do
  let version : Switch := { name := "--version", letter := 'v', takesValue := false }
  let a ← Arguments.read [version, helpSwitch] false arguments
  match a.options with
  | ("--version", _) :: _ => pure .version
  | _ :: _ => pure .help
  | [] =>
    choose [("transform", transformOf), ("validate", validateOf), ("tree", treeOf),
      ("operations", operationsOf), ("config", configOf)] a.words

/-- The files that are read or written. -/
def paths : Invocation → List Path
  | transform job => [job.input, job.spec] ++ job.output.toList
  | validate job => job.input.toList ++ job.spec.toList
  | tree file _ => [file]
  | _ => []

end Invocation

end Workbench.Command
