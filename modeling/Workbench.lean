import Workbench.Coalescing.Workshop
import Workbench.Main
import Workbench.Proofs.Coalescing.Course
import Workbench.Proofs.Coalescing.Law
import Workbench.Proofs.Command.Calls
import Workbench.Proofs.Command.ExitCode
import Workbench.Proofs.Display.Line
import Workbench.Proofs.Service.Metrics
import Workbench.Proofs.Service.Reading
import Workbench.Proofs.Service.Wire
import Workbench.Proofs.Session.Account
import Workbench.Proofs.Session.Beat
import Workbench.Proofs.Session.Chronicle
import Workbench.Proofs.Session.Coherence
import Workbench.Proofs.Session.Echo
import Workbench.Proofs.Session.Independence
import Workbench.Proofs.Session.Lane
import Workbench.Proofs.Session.Latest
import Workbench.Proofs.Session.Ledger
import Workbench.Proofs.Session.Opening
import Workbench.Proofs.Session.Output
import Workbench.Proofs.Session.Pace
import Workbench.Proofs.Session.Returning
import Workbench.Proofs.Session.Snapshot
import Workbench.Proofs.Session.Status
import Workbench.Proofs.Session.Stroke
import Workbench.Proofs.Session.Timely
import Workbench.Proofs.Session.Traffic
import Workbench.Proofs.Session.Trigger
import Workbench.Proofs.Session.Typing
import Workbench.Proofs.Settings.Resolution
import Workbench.Proofs.Studio.Run
import Workbench.Proofs.Tree.Depth
import Workbench.Proofs.Tree.Placeholder
import Workbench.Proofs.Tree.Styled
import Workbench.Proofs.Tree.View
import Workbench.Proofs.Turn.Roster
import Workbench.Studio.Controller
