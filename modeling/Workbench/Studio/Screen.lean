import Workbench.Display.Line
import Workbench.Session.State
import Workbench.Tree.View

/-!
# The screen of the studio

The lines that the terminal studio shows of a session: a status line for each buffer, the metrics
of the last transform, the latest notice, and the output as a tree. A line is absent until it is
written for the first time.
-/
namespace Workbench.Studio

open Document (Buffer Store)
open Session (Event View)

structure Screen where
  inputStatus : Option Styled.Text := none
  specStatus : Option Styled.Text := none
  outputStatus : Option Styled.Text := none
  metrics : Option String := none
  notice : Option Styled.Text := none
  tree : Option Styled.Text := none
  /-- Is the output to be shown as a tree, and not as raw text? -/
  treeVisible : Bool := false
  rawHidden : Bool := false
  treeHidden : Bool := true
  deriving DecidableEq, Repr

namespace Screen

/-- The line about the last transform. -/
def metricsLine (s : Store) : String :=
  let elapsed := match s.executionTime with
    | some t => toString t ++ "ms"
    | none => "-"
  "Time: " ++ elapsed ++ "  Complexity: " ++ (s.rating.getD .unknown).name

/-- Write the status lines and the metrics anew. -/
def refresh (s : Store) (screen : Screen) : Screen :=
  { screen with
    inputStatus := some (Display.statusLine s.input.status)
    specStatus := some (Display.statusLine s.spec.status)
    outputStatus := some (Display.statusLine s.outputStatus)
    metrics := some (metricsLine s) }

/-- Draw the output as a tree. -/
def drawTree (settings : Settings) (s : Store) (screen : Screen) : Screen :=
  { screen with
    tree := some (Tree.viewOutput s.outputText settings.renderIndent
      (settings.renderMaxDepth.map fun n => (n : Int))) }

/-- Change between the tree and the raw text of the output: the one is hidden, the other is not. -/
def toggle (screen : Screen) : Screen :=
  let visible := !screen.treeVisible
  { screen with treeVisible := visible, rawHidden := visible, treeHidden := !visible }

/-- How the screen follows the events of a session: each change of state brings the lines up to
date, and a change of the output also the tree, while it is visible. -/
def follow (settings : Settings) : View Screen := fun store e screen =>
  match e.type with
  | .notice => ({ screen with notice := some (Display.eventLine e) }, none)
  | _ =>
    let screen := screen.refresh store
    if e.buffer = some Buffer.output && screen.treeVisible then
      (screen.drawTree settings store, none)
    else (screen, none)

end Screen

end Workbench.Studio
