import Workbench.Json.Decode
import Workbench.Settings.Basic
import Workbench.Settings.Document
import Workbench.Settings.Dotenv

/-!
# Sources of settings

Settings come from arguments, from the environment, from a `.env` file and from the user's
configuration document, the first of which wins; what none of them mentions has its default.
The sources are merged member by member, so that each may give a part of the connection.

In the environment and the `.env` file a setting is the variable `J2J_STUDIO_` with the setting's
name. The connection is a JSON object in one variable, or one variable a member, with two
underscores before the member's name; those win. A member that no source gives may still come from
the environment, with a single underscore before its name.

Names are known in any letter case. Where a name is spelled in two ways, the first spelling counts,
except inside one variable source, where the last one does.
-/
namespace Workbench.Settings

open Json (Value Members)
open Record (Checked)
open Workbench.Tree (Node)

/-- Everything that settings may come from. -/
structure Sources where
  arguments : Members := []
  environment : List (String × String) := []
  /-- The text of the `.env` file. -/
  dotenv : Option String := none
  /-- The text of the user's configuration document. -/
  document : Option String := none

/-- The two sources that hold variables. -/
inductive VariableSource where
  | environment
  | dotenv
  deriving DecidableEq, Repr

/-- Why there are no settings. -/
inductive Fault where
  /-- The configuration document cannot be used. -/
  | document (fault : DocumentFault)
  /-- The variable for the connection does not hold JSON. -/
  | undecodable (source : VariableSource) (error : Json.DecodeError)
  /-- A member of the connection has a name that is no text. -/
  | unnamedMember
  | flawed (flaws : List Record.Flaw)
  deriving Repr

def VariableSource.label : VariableSource → String
  | environment => "EnvSettingsSource"
  | dotenv => "DotEnvSettingsSource"

/-- The message about a variable that does not hold JSON. -/
def undecodableMessage (source : VariableSource) : String :=
  "error parsing value for field \"service\" from source \"" ++ source.label ++ "\""

/-! ## Names and merging -/

/-- Values under known names, each from the first spelling of its name. -/
def firstSpelled {α : Type} (known : List String) (given : List (String × α)) :
    List (String × α) :=
  known.filterMap fun name =>
    (given.find? fun g => Text.sameAsciiCase name g.1).map fun g => (name, g.2)

/-- The known name that a name is a spelling of, or the name itself. -/
def respell (known : List String) (name : String) : String :=
  (known.find? (Text.sameAsciiCase name)).getD name

/-- The members of a mapping. -/
abbrev Entries := List (Node × Node)

/-- The value under a key. -/
def Entries.get? (es : Entries) (key : Node) : Option Node :=
  (es.find? fun e => Node.sameKey e.1 key).map Prod.snd

/-- Members under the known names they spell; a later spelling of a name wins. -/
def respelled (known : List String) (es : Entries) : Entries :=
  es.foldl (fun read (key, v) =>
    match key with
    | .string name => Node.putEntry (.string (respell known name)) v read
    | _ => Node.putEntry key v read) []

mutual

/-- A value over another one: mappings are merged, and otherwise the upper one stands. -/
def overlay (low : Node) : Node → Node
  | .mapping es =>
    match low with
    | .mapping ls => .mapping (overlayEntries ls es)
    | _ => .mapping es
  | v => v

def overlayEntries (low : Entries) : List (Node × Node) → Entries
  | [] => low
  | (key, v) :: rest =>
    let merged := match low.get? key with
      | some l => overlay l v
      | none => v
    overlayEntries (Node.putEntry key merged low) rest

end

/-- Settings by name, as a source gives them. -/
abbrev Given := List (String × Node)

/-- The names of all settings. -/
def allNames : List String := "service" :: plainNames

/-- What one source gives over what a lower one does. -/
def Given.over (high low : Given) : Given :=
  allNames.filterMap fun name =>
    match high.lookup name, low.lookup name with
    | some h, some l => some (name, overlay l h)
    | some v, none | none, some v => some (name, v)
    | none, none => none

/-! ## Variables -/

/-- Variables by name in lower case; of two spellings of a name the later wins. -/
def lowerNames (vars : Dotenv.Variables) : Dotenv.Variables :=
  vars.foldl (fun read (name, value) => Dotenv.put (name.map Char.toLower) value read) []

/-- What the names of variables begin with. -/
def namePrefix : String := "j2j_studio_"

/-- Set a value at the end of a path of names; a plain value on the way is left as it is. -/
def assign (v : Node) : List String → Entries → Entries
  | [], es => es
  | [name], es => Node.putEntry (.string name) v es
  | name :: path, es =>
    match es.get? (.string name) with
    | some (.mapping inner) => Node.putEntry (.string name) (.mapping (assign v path inner)) es
    | some _ => es
    | none => Node.putEntry (.string name) (.mapping (assign v path [])) es

/-- The names between the double underscores of a name. -/
def pathOf : List Char → List (List Char)
  | '_' :: '_' :: rest => [] :: pathOf rest
  | c :: rest =>
    match pathOf rest with
    | [] => [[c]]
    | name :: path => (c :: name) :: path
  | [] => [[]]

/-- What the names of the variables of members begin with. -/
def memberPrefix : String := namePrefix ++ "service__"

/-- Set the member that a variable is for, if it is for one. -/
def assignMember (es : Entries) (name : String) (text : Option String) : Entries :=
  if memberPrefix.toList.isPrefixOf name.toList then
    assign (text.elim .null .string)
      ((pathOf (name.toList.drop memberPrefix.length)).map String.ofList) es
  else es

/-- The members of the connection that have variables of their own. -/
def serviceMembers (vars : Dotenv.Variables) : Entries :=
  vars.foldl (fun es (name, text) => assignMember es name text) []

/-- The value of a variable. -/
def valueOf? (vars : Dotenv.Variables) (name : String) : Option String :=
  (vars.lookup (namePrefix ++ name)).bind id

/-- The connection as variables give it. -/
def serviceValue? (source : VariableSource) (vars : Dotenv.Variables) :
    Except Fault (Option Node) :=
  let single := serviceMembers vars
  let spelled (es : Entries) : Node := .mapping (respelled ServiceSettings.names es)
  match valueOf? vars "service" with
  | none => .ok (if single.isEmpty then none else some (spelled single))
  | some text =>
    match Json.decode text with
    | .error e => .error (.undecodable source e)
    | .ok v =>
      match Node.ofJson v with
      | .null => .ok none
      | .mapping es => .ok (some (spelled (overlayEntries es single)))
      | v => .ok (some v)

/-- The settings that variables give. -/
def givenByVariables (source : VariableSource) (vars : Dotenv.Variables) : Except Fault Given :=
  let vars := lowerNames vars
  let plain := plainNames.filterMap fun name =>
    (valueOf? vars name).map fun text => (name, Node.string text)
  (serviceValue? source vars).map fun service =>
    (service.map fun v => ("service", v)).toList ++ plain

/-! ## Reading -/

/-- The settings that the user's document gives. -/
def givenByDocument (document : Option String) : Except Fault Given :=
  match document with
  | none => .ok []
  | some text =>
    match readDocument text with
    | .ok given => .ok (firstSpelled allNames given)
    | .error f => .error (.document f)

/-- The settings that arguments give. -/
def givenByArguments (arguments : Members) : Given :=
  firstSpelled allNames (arguments.map fun (name, v) => (name, Node.ofJson v))

/-- A value as a field reads it. No field takes a collection or a foreign object, so that an empty
list stands for them. -/
def plainValue : Node → Value
  | .null => .null
  | .bool b => .bool b
  | .int i => .int i
  | .float x => .float x
  | .string s => .string s
  | _ => .array []

/-- The members of the connection that only the environment may give. -/
def fallbackMembers (environment : List (String × String)) : Members :=
  let vars := lowerNames (environment.map fun (name, text) => (name, some text))
  ServiceSettings.names.filterMap fun name =>
    (valueOf? vars ("service_" ++ name)).map fun text => (name, .string text)

/-- The connection from given members over those of the environment. -/
def readService (environment : List (String × String)) (given : List (String × Node)) :
    Checked ServiceSettings :=
  ServiceSettings.read
    ((firstSpelled ServiceSettings.names given).foldl
      (fun ms (name, v) => ms.put name (plainValue v)) (fallbackMembers environment))

/-- All sources merged. The document is read first. -/
def Sources.merged (s : Sources) : Except Fault Given := do
  let document ← givenByDocument s.document
  let environment ← givenByVariables .environment
    (s.environment.map fun (name, text) => (name, some text))
  let dotenv ← givenByVariables .dotenv (Dotenv.read s.environment (s.dotenv.getD ""))
  pure ([dotenv, environment, givenByArguments s.arguments].foldl
    (fun low high => high.over low) document)

def Fault.ofChecked {α : Type} : Checked α → Except Fault α
  | .good a => .ok a
  | .flawed fs => .error (.flawed fs)

/-- The names that members go by. -/
def namedMembers (es : Entries) : Except Fault (List (String × Node)) :=
  es.mapM fun (key, v) =>
    match key with
    | .string name => .ok (name, v)
    | _ => .error .unnamedMember

/-- The settings from all sources. A connection that no source mentions is read by itself, and
only then the rest. -/
def Sources.resolve (s : Sources) : Except Fault Settings := do
  let given ← s.merged
  let service : Checked ServiceSettings ← match given.lookup "service" with
    | some (.mapping es) => do
      pure (.under "service" (readService s.environment (← namedMembers es)))
    | some _ => pure (.under "service" (.flaw .modelType))
    | none => (Fault.ofChecked (readService s.environment [])).map .good
  Fault.ofChecked (Settings.read service (given.map fun (name, v) => (name, plainValue v)))

/-- The configuration document that a user starts with. -/
def template : String :=
"# J2J Studio Configuration
# This file is loaded automatically. Environment variables take priority.

# Remote transform service
service:
  base_url: \"http://localhost:8080\"
  # timeout_s: 10

# Validation coalescing window in milliseconds
# debounce_ms: 300

# Tree view
# render_max_depth: 512
# render_indent: 2

# Start sessions with auto-transform armed
# auto_transform_default: false
"

/-- The configuration document after it has been asked for: one that is there is kept. -/
def initialDocument (document : Option String) : String := document.getD template

end Workbench.Settings
