import BrokerFleet.Cluster.Basic
import BrokerFleet.Cluster.Children
import BrokerFleet.Cluster.Condition
import BrokerFleet.Cluster.Lifecycle
import BrokerFleet.Cluster.PodTemplate
import BrokerFleet.Cluster.Spec
import BrokerFleet.Cluster.Status
import BrokerFleet.Command
import BrokerFleet.Decimal.Binary64
import BrokerFleet.Decimal.Literal
import BrokerFleet.Decimal.Shortest
import BrokerFleet.Definition.Affinity
import BrokerFleet.Definition.Basic
import BrokerFleet.Definition.PodParts
import BrokerFleet.Definition.Published
import BrokerFleet.Definition.Schema
import BrokerFleet.Dialogue
import BrokerFleet.Digest.SafeNumeral
import BrokerFleet.Digest.Sha256
import BrokerFleet.Failure
import BrokerFleet.Generation.Basic
import BrokerFleet.Generation.Evacuation
import BrokerFleet.Generation.Name
import BrokerFleet.Json.Fault
import BrokerFleet.Json.Parser
import BrokerFleet.Json.Patch
import BrokerFleet.Json.Pointer
import BrokerFleet.Json.Printer
import BrokerFleet.Json.Reader
import BrokerFleet.Json.Value
import BrokerFleet.Kubernetes.Address
import BrokerFleet.Kubernetes.ApiError
import BrokerFleet.Kubernetes.Meta
import BrokerFleet.Kubernetes.PodShape
import BrokerFleet.Kubernetes.Shape
import BrokerFleet.Kubernetes.Workload
import BrokerFleet.Kubernetes.Write
import BrokerFleet.Main
import BrokerFleet.Management.Client
import BrokerFleet.Management.Credentials
import BrokerFleet.Management.Envelope
import BrokerFleet.Management.Failure
import BrokerFleet.Management.Listener
import BrokerFleet.Management.Report
import BrokerFleet.Management.Request
import BrokerFleet.Net.Domain
import BrokerFleet.Net.Domain.Direction
import BrokerFleet.Net.Domain.Joiner
import BrokerFleet.Net.Domain.Mapping
import BrokerFleet.Net.Host
import BrokerFleet.Net.SocketAddress
import BrokerFleet.Net.Target
import BrokerFleet.Net.Url
import BrokerFleet.Pass.Cluster
import BrokerFleet.Pass.Job
import BrokerFleet.Pass.State
import BrokerFleet.Pass.Steps
import BrokerFleet.Probe
import BrokerFleet.Proofs.Conditions
import BrokerFleet.Proofs.Conditions.History
import BrokerFleet.Proofs.Digest.SafeNumeral
import BrokerFleet.Proofs.Environment
import BrokerFleet.Proofs.Evacuation.Aim
import BrokerFleet.Proofs.Evacuation.Kickoff
import BrokerFleet.Proofs.Evacuation.Succession
import BrokerFleet.Proofs.Exchange
import BrokerFleet.Proofs.Fleet.Basic
import BrokerFleet.Proofs.Fleet.Listed
import BrokerFleet.Proofs.Fleet.Settling
import BrokerFleet.Proofs.Fleet.Shrinking
import BrokerFleet.Proofs.Fleet.Stored
import BrokerFleet.Proofs.Generations
import BrokerFleet.Proofs.Generations.Collection
import BrokerFleet.Proofs.Generations.Hashes
import BrokerFleet.Proofs.Generations.Naming
import BrokerFleet.Proofs.Generations.Selection
import BrokerFleet.Proofs.Heeding
import BrokerFleet.Proofs.Instants
import BrokerFleet.Proofs.Job.Answering
import BrokerFleet.Proofs.Job.Claiming
import BrokerFleet.Proofs.Job.Completing
import BrokerFleet.Proofs.Job.Course
import BrokerFleet.Proofs.Job.Deferral
import BrokerFleet.Proofs.Job.Grounds
import BrokerFleet.Proofs.Job.LifeCycle
import BrokerFleet.Proofs.Job.Release
import BrokerFleet.Proofs.Job.Starting
import BrokerFleet.Proofs.Job.Stopping
import BrokerFleet.Proofs.Job.Thresholds
import BrokerFleet.Proofs.Job.Turns
import BrokerFleet.Proofs.Job.Unhindered
import BrokerFleet.Proofs.Json.Forms
import BrokerFleet.Proofs.Json.Merging
import BrokerFleet.Proofs.Json.Numeral
import BrokerFleet.Proofs.Json.Statuses
import BrokerFleet.Proofs.Json.Text
import BrokerFleet.Proofs.Kubernetes.Documents
import BrokerFleet.Proofs.Kubernetes.Metadata
import BrokerFleet.Proofs.Kubernetes.Patches
import BrokerFleet.Proofs.Kubernetes.Shapes
import BrokerFleet.Proofs.Labels
import BrokerFleet.Proofs.Lifecycle.Coherence
import BrokerFleet.Proofs.Lifecycle.Episode
import BrokerFleet.Proofs.Lifecycle.Finishing
import BrokerFleet.Proofs.Lifecycle.Idempotence
import BrokerFleet.Proofs.Lifecycle.Stability
import BrokerFleet.Proofs.Lifecycle.Turns
import BrokerFleet.Proofs.Management.BindAddress
import BrokerFleet.Proofs.Management.Envelope
import BrokerFleet.Proofs.Management.Ports
import BrokerFleet.Proofs.NodeNames
import BrokerFleet.Proofs.Numerals
import BrokerFleet.Proofs.Pass.Conclusion
import BrokerFleet.Proofs.Pass.Course
import BrokerFleet.Proofs.Pass.Effects
import BrokerFleet.Proofs.Pass.Evacuation
import BrokerFleet.Proofs.Pass.Gating
import BrokerFleet.Proofs.Pass.Provision
import BrokerFleet.Proofs.Pass.Stamping
import BrokerFleet.Proofs.Pass.Unhindered
import BrokerFleet.Proofs.Pass.Vocabulary
import BrokerFleet.Proofs.Quiescence.Gates
import BrokerFleet.Proofs.Quiescence.Leading
import BrokerFleet.Proofs.Quiescence.Passes
import BrokerFleet.Proofs.Quiescence.Repetition
import BrokerFleet.Proofs.Quiescence.Runs
import BrokerFleet.Proofs.Quiescence.Sight
import BrokerFleet.Proofs.Quiescence.Standing
import BrokerFleet.Proofs.Quiescence.Surroundings
import BrokerFleet.Proofs.Readiness
import BrokerFleet.Proofs.Readiness.Patching
import BrokerFleet.Proofs.Schedule.Backoff
import BrokerFleet.Proofs.Schedule.Failures
import BrokerFleet.Proofs.Schedule.Requests
import BrokerFleet.Proofs.Separators
import BrokerFleet.Proofs.Time.Calendar
import BrokerFleet.Proofs.Time.Rfc3339
import BrokerFleet.Proofs.Time.Span
import BrokerFleet.Rebalance.Finalizer
import BrokerFleet.Rebalance.Job
import BrokerFleet.Rebalance.Progress
import BrokerFleet.Rehearsal.Network
import BrokerFleet.Rehearsal.Script
import BrokerFleet.Rehearsal.Store
import BrokerFleet.Rehearsal.World
import BrokerFleet.Schedule
import BrokerFleet.Settings
import BrokerFleet.Text.Base64
import BrokerFleet.Text.CharMap
import BrokerFleet.Text.CharSet
import BrokerFleet.Text.Composition
import BrokerFleet.Text.Composition.Table
import BrokerFleet.Text.Mark
import BrokerFleet.Text.Numeral
import BrokerFleet.Text.Percent
import BrokerFleet.Text.Printable
import BrokerFleet.Text.Punycode
import BrokerFleet.Text.Quoted
import BrokerFleet.Text.Split
import BrokerFleet.Text.Utf8
import BrokerFleet.Time.Annotation
import BrokerFleet.Time.Calendar
import BrokerFleet.Time.Clock
import BrokerFleet.Time.Instant
import BrokerFleet.Time.Rfc3339
import BrokerFleet.Time.Span
import BrokerFleet.Time.Stamp
import BrokerFleet.Yaml.Printer
