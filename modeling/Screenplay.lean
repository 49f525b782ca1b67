import Screenplay.CommandLine.Folder
import Screenplay.Main
import Screenplay.Proofs.CommandLine.Outcomes
import Screenplay.Proofs.Device.Key
import Screenplay.Proofs.Device.Settling
import Screenplay.Proofs.Document.Counts
import Screenplay.Proofs.Document.Grammar
import Screenplay.Proofs.Document.Objects
import Screenplay.Proofs.Document.Padding
import Screenplay.Proofs.Document.Repetition
import Screenplay.Proofs.Document.RoundTrip
import Screenplay.Proofs.Document.Shadowing
import Screenplay.Proofs.Document.UnknownNames
import Screenplay.Proofs.Element.RoundTrip
import Screenplay.Proofs.Layering.History
import Screenplay.Proofs.Layering.Laws
import Screenplay.Proofs.Layering.Loading
import Screenplay.Proofs.Layering.Override
import Screenplay.Proofs.Pattern.Automaton
import Screenplay.Proofs.Pattern.WholeValue
import Screenplay.Proofs.Scrolling.Bounded
import Screenplay.Proofs.Scrolling.Ends
import Screenplay.Proofs.Scrolling.Stage
import Screenplay.Proofs.Selector.Display
import Screenplay.Proofs.Selector.NormalForm
import Screenplay.Proofs.Selector.Verbatim
import Screenplay.Proofs.Task.Payload
import Screenplay.Proofs.Workflow.FirstFailure
import Screenplay.Proofs.Workflow.Grounded
import Screenplay.Proofs.Workflow.Optional
import Screenplay.Proofs.Workflow.Reasons
import Screenplay.Proofs.Workflow.Refusals
import Screenplay.Proofs.Workflow.Unrolling
