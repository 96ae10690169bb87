import Workbench.Failure
import Workbench.Record.Field

/-!
# Settings

Where the service is and how long to wait for it, the coalescing window of validation, the limits
of the tree view, and whether sessions start armed. Each setting has a default and a range.
-/
namespace Workbench

open Json (Value Members)
open Number (Binary64)
open Record (Checked)

/-- The connection to the service. -/
structure ServiceSettings where
  baseUrl : String
  timeout : Binary64
  deriving DecidableEq, Repr

namespace ServiceSettings

/-- A base address does not end in slashes. -/
def trimSlashes (url : String) : String :=
  String.ofList (url.toList.reverse.dropWhile (· == '/')).reverse

def defaultBaseUrl : String := "http://localhost:8080"

/-- Ten seconds. -/
def defaultTimeout : Binary64 := .ofInt 10

def readTimeout (v : Value) : Checked Binary64 :=
  (Record.readFloat v).andThen fun x => if x.isPositive then .good x else .flaw .greaterThan

/-- Read the connection out of the members of an object. -/
def read (ms : Members) : Checked ServiceSettings :=
  ServiceSettings.mk
    <$> Record.defaulted { name := "base_url" } (fun v => (Record.readString v).map trimSlashes)
          defaultBaseUrl ms
    <*> Record.defaulted { name := "timeout_s" } readTimeout defaultTimeout ms

/-- The names of the fields. -/
def names : List String := ["base_url", "timeout_s"]

end ServiceSettings

/-- The settings of the studio. -/
structure Settings where
  service : ServiceSettings
  /-- The coalescing window of validation, in milliseconds. -/
  debounceMs : Nat
  /-- Deeper documents are not shown as a tree. -/
  renderMaxDepth : Option Nat
  renderIndent : Nat
  /-- Do sessions start with the automatic transform armed? -/
  autoTransform : Bool
  deriving DecidableEq, Repr

namespace Settings

/-- An integer from a bound on. -/
def readFrom (low : Nat) (v : Value) : Checked Nat :=
  (Record.readInt v).andThen fun i =>
    if (low : Int) ≤ i then .good i.toNat else .flaw .greaterThanEqual

/-- The indentation of the tree view: one to eight. -/
def readIndent (v : Value) : Checked Nat :=
  (readFrom 1 v).andThen fun n => if n ≤ 8 then .good n else .flaw .lessThanEqual

/-- Read the settings out of the members of an object, with the connection read already. -/
def read (service : Checked ServiceSettings) (ms : Members) : Checked Settings :=
  Settings.mk <$> service
    <*> Record.defaulted { name := "debounce_ms" } (readFrom 0) 300 ms
    <*> Record.defaulted { name := "render_max_depth" } (Record.optional (readFrom 1)) none ms
    <*> Record.defaulted { name := "render_indent" } readIndent 2 ms
    <*> Record.defaulted { name := "auto_transform_default" } Record.readBool false ms

/-- The names of the fields that are single values. -/
def plainNames : List String :=
  ["debounce_ms", "render_max_depth", "render_indent", "auto_transform_default"]

/-- A number of milliseconds in seconds. A number beyond all floating-point numbers has no such
form. -/
def secondsOf (ms : Int) : Except Failure Binary64 :=
  match Binary64.ofInt ms with
  | .infinite _ => .error .hugeNumber
  | x => .ok (x.divNat 1000)

/-- The coalescing window in seconds. -/
def windowSeconds (s : Settings) : Except Failure Binary64 := secondsOf s.debounceMs

end Settings

end Workbench
