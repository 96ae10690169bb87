import Workbench.Json.Decode
import Workbench.Styled.Text
import Workbench.Text.Blank
import Workbench.Tree.Render

/-!
# The tree view of a text

Styled rendering of a node, and of the text of the output buffer. The latter shows something for
every text: a placeholder stands in for a text that is blank, does not decode, or nests deeper
than the limit.
-/
namespace Workbench.Tree

/-- A node as styled text. -/
def renderStyled (n : Node) (depth : Int) (indent : Int) (maxDepth : Option Int) :
    Except DepthExceeded Styled.Text :=
  (renderSpans n depth indent maxDepth).map
    (fun spans => Styled.Text.ofPieces (spans.map (fun s => (s.text, s.tag.style))))

/-- What is shown in place of nothing. -/
def noData : String := "No data to display"

/-- Why a text that does not decode is not shown. -/
def refusal (e : Json.DecodeError) : String :=
  if e.isTooDeep then "Invalid JSON: nesting too deep to decode"
  else "Invalid JSON: " ++ e.message

/-- The output buffer as the tree view shows it. -/
def viewOutput (text : String) (indent : Int) (maxDepth : Option Int) : Styled.Text :=
  if Text.isBlank text then .ofString noData "dim"
  else
    match Json.decode text with
    | .error e => .ofString (refusal e) "red"
    | .ok v =>
      match renderStyled (.ofJson v) 0 indent maxDepth with
      | .ok t => t
      | .error e => .ofString ("Cannot display: " ++ e.message) "red"

end Workbench.Tree
