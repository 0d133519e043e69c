import Switchyard.Http.LeaseBook
import Switchyard.Http.Receiver
import Switchyard.Inspect
import Switchyard.Query
import Switchyard.Script.Converter
import Switchyard.Script.Interceptor
import Switchyard.Script.Resolver
import Switchyard.Serving.Server
import Switchyard.Proofs.Route.Lookup
import Switchyard.Proofs.Serving.Framing
import Switchyard.Proofs.Serving.Order
import Switchyard.Proofs.Dispatch.Mapping
import Switchyard.Proofs.Serving.Failures
import Switchyard.Proofs.Serving.Steps
import Switchyard.Proofs.Serving.Run
import Switchyard.Proofs.Serving.Accounts
import Switchyard.Proofs.Serving.Delivery
import Switchyard.Proofs.Route.Decomposition
import Switchyard.Proofs.Route.History
import Switchyard.Proofs.Text.Ascii
import Switchyard.Proofs.Media.Parameters
import Switchyard.Proofs.Media.Spelling
import Switchyard.Proofs.Conversion.RoundTrip
import Switchyard.Proofs.Route.Addition
import Switchyard.Proofs.Conversion.Writing
import Switchyard.Proofs.Serving.Echo
import Switchyard.Proofs.Serving.Containment
import Switchyard.Proofs.Http.Accounts
import Switchyard.Proofs.Conversion.Selection
import Switchyard.Proofs.Media.Weight
import Switchyard.Proofs.Http.KeepAlive
import Switchyard.Proofs.Dispatch.Substitutes
import Switchyard.Proofs.Route.Grammar
import Switchyard.Proofs.Route.Slashes
import Switchyard.Proofs.Media.Inclusion
import Switchyard.Proofs.Conversion.Reading
import Switchyard.Proofs.Conversion.Labelling
import Switchyard.Proofs.Dispatch.Parameters
import Switchyard.Proofs.Dispatch.Lifecycle
import Switchyard.Proofs.Dispatch.Precedence
import Switchyard.Proofs.Media.Accept
import Switchyard.Proofs.Serving.Sampling
import Switchyard.Proofs.Route.Tally
import Switchyard.Proofs.Serving.Admission
import Switchyard.Proofs.Serving.CatchAll
