import Workbench.Console.Markup
import Workbench.Console.Table
import Workbench.Console.Wrap

/-!
# Printing

What printing a thing on a console of a given width writes: its lines, each with a line feed. A
panel is a text in a frame as wide as the console, with a title in the middle of its upper edge.
-/
namespace Workbench.Console

/-! ## Panels -/

structure Panel where
  /-- The title, as markup. -/
  title : String
  content : List Char
  deriving DecidableEq, Repr

namespace Panel

/-- The title in the middle of a line of the frame. -/
def titleLine (width : Nat) (title : List Char) : List Char :=
  let oneLine := expandTabs (title.map fun c => if c == '\n' then ' ' else c)
  let shown := cropTo width (' ' :: oneLine ++ [' '])
  let excess := width - cells shown
  List.replicate (excess / 2) '─' ++ shown ++ List.replicate (excess - excess / 2) '─'

/-- The lines of a panel on a console. A title needs a console of more than four cells. -/
def draw (width : Nat) (p : Panel) : Except Markup.Fault (List (List Char)) := do
  let title ← Markup.plain p.title
  let rule := List.replicate (width - 2) '─'
  let top := if width ≤ 4 then rule else '─' :: titleLine (width - 4) title ++ ['─']
  let body := (wrap .fold (width - 4) p.content).map fun line =>
    ['│', ' '] ++ fit (width - 4) line ++ [' ', '│']
  let lines := ('╭' :: top ++ ['╮']) :: body ++ ['╰' :: rule ++ ['╯']]
  pure (lines.map (cropTo width))

end Panel

/-! ## Printing -/

/-- Lines as they are written. -/
def written (lines : List (List Char)) : String :=
  String.ofList (lines.flatMap (· ++ ['\n']))

/-- What is printed for a text; its words are wrapped. -/
def printed (width : Nat) (text : List Char) : String := written (wrap .fold width text)

/-- What is printed for a markup text. -/
def printedMarkup (width : Nat) (markup : String) : Except Markup.Fault String :=
  (Markup.plain markup).map (printed width)

/-- What is printed for a table. -/
def Table.printed (width : Nat) (t : Table) : Except Markup.Fault String :=
  (t.draw width).map written

/-- What is printed for a panel. -/
def Panel.printed (width : Nat) (p : Panel) : Except Markup.Fault String :=
  (p.draw width).map written

end Workbench.Console
