import Workbench.Session.Event
import Workbench.Styled.Text

/-!
# Status lines and notices

The one-line texts by which a buffer's status and the latest notice are shown: as styled text in
the terminal studio, and as console markup on the command line.
-/
namespace Workbench.Display

open Document (Level Status)

/-- The sign in front of a status of a level. -/
def icon : Level → String
  | .valid => "✔"
  | .warning => "⚠"
  | .error => "✖"
  | .pending => "…"

/-- The status line of a buffer. The detail of a valid status is not shown. -/
def statusLine (s : Status) : Styled.Text :=
  let line := Styled.Text.ofString (icon s.level ++ " " ++ s.label) s.level.style
  match s.detail? with
  | some detail => if s.level = .valid then line else line.append ("  " ++ detail) "dim"
  | none => line

/-- The line of a notice. -/
def noticeLine (message : String) (level : Session.NoticeLevel) : Styled.Text :=
  Styled.Text.ofString message level.style

/-- The line of an event taken as a notice. -/
def eventLine (e : Session.Event) : Styled.Text :=
  noticeLine (e.message.getD "") (e.level.getD .info)

/-- A text between the markup tags of a style. -/
def tagged (style text : String) : String := "[" ++ style ++ "]" ++ text ++ "[/" ++ style ++ "]"

/-- The status of a buffer as console markup. -/
def statusMarkup (s : Status) : String :=
  tagged s.level.style s.label ++
    match s.detail? with
    | some detail => " " ++ tagged "dim" detail
    | none => ""

end Workbench.Display
