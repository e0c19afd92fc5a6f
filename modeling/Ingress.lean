import Ingress.Metrics.Exposition
import Ingress.Report.Scenario
import Ingress.Report.Startup
import Ingress.Scenario.Play
import Ingress.Schema.Decoding
import Ingress.Proofs.Activity.Assurance
import Ingress.Proofs.Activity.Timing
import Ingress.Proofs.Activity.Turns
import Ingress.Proofs.Pipeline.Phases
import Ingress.Proofs.Pipeline.Counting
import Ingress.Proofs.Scenario.Quiet
import Ingress.Proofs.Span.Descent
import Ingress.Proofs.Span.Growth
import Ingress.Proofs.Span.History
import Ingress.Proofs.Span.Sealing
import Ingress.Proofs.Span.Elsewhere
import Ingress.Proofs.Downstream.Attempt
import Ingress.Proofs.Downstream.Retrying
import Ingress.Proofs.Pipeline.Race
import Ingress.Proofs.Failure.Classifying
import Ingress.Proofs.Failure.Disclosure
import Ingress.Proofs.Schema.Conformance
import Ingress.Proofs.Http.Visible
import Ingress.Proofs.Pipeline.Reception
import Ingress.Proofs.Pipeline.Answering
import Ingress.Proofs.Pipeline.Company
import Ingress.Proofs.Pipeline.Closing
import Ingress.Proofs.Downstream.Effects
import Ingress.Proofs.Span.Closing
import Ingress.Proofs.Context.Setting
import Ingress.Proofs.Downstream.LastAttempt
import Ingress.Proofs.Pipeline.Propagation
import Ingress.Proofs.Pipeline.Surfacing
import Ingress.Proofs.Scenario.Isolation
import Ingress.Proofs.Time.Words
import Ingress.Proofs.Retry.Backoff
import Ingress.Proofs.Config.Validity
import Ingress.Proofs.Config.Settings
import Ingress.Proofs.Config.Overriding
import Ingress.Proofs.Failure.Embedding
import Ingress.Proofs.Retry.Growth
import Ingress.Proofs.Service.Assembly
import Ingress.Proofs.Pipeline.Stages
import Ingress.Proofs.Span.Subtree
import Ingress.Proofs.Span.Reporting
import Ingress.Proofs.Span.Frame
import Ingress.Proofs.Downstream.Duration
import Ingress.Proofs.Json.Scanning
import Ingress.Proofs.Json.Roundtrip
import Ingress.Proofs.Failure.Rendering
import Ingress.Proofs.Json.Decoding
import Ingress.Proofs.Fallible
import Ingress.Proofs.Schema.Places
import Ingress.Proofs.Schema.Reasons
import Ingress.Proofs.Schema.Reporting
import Ingress.Proofs.Failure.Wording
import Ingress.Proofs.Decimal.Order
import Ingress.Proofs.Metrics.Distribution
import Ingress.Proofs.Route.Writing
import Ingress.Proofs.Metrics.Counting
import Ingress.Proofs.Metrics.Rendering
import Ingress.Proofs.Config.Documents
import Ingress.Proofs.Config.Layering
import Ingress.Proofs.Config.Unsetting
