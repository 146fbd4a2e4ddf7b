import Viewsmith.Json.Printer
import Viewsmith.Main
import Viewsmith.Proofs.Command.BelowRoot
import Viewsmith.Proofs.Command.Configured
import Viewsmith.Proofs.Command.Counting
import Viewsmith.Proofs.Command.FailedRuns
import Viewsmith.Proofs.Command.Forcing
import Viewsmith.Proofs.Command.GrowingViews
import Viewsmith.Proofs.Command.Independence
import Viewsmith.Proofs.Command.Rendering
import Viewsmith.Proofs.Command.RepeatedRuns
import Viewsmith.Proofs.Command.Reruns
import Viewsmith.Proofs.Routing.Pattern
import Viewsmith.Proofs.Routing.Routes
import Viewsmith.Proofs.Scaffold.Agreement
import Viewsmith.Proofs.Scaffold.Conflicts
import Viewsmith.Proofs.Scaffold.ListRoute
import Viewsmith.Proofs.Scaffold.Loading
import Viewsmith.Proofs.View.Decoding
import Viewsmith.Proofs.View.MissingPartials
import Viewsmith.Proofs.View.ModuleText
