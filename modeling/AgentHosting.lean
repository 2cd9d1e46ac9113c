import AgentHosting.Lib.Json
import AgentHosting.Lib.Decimal
import AgentHosting.Lib.Quantity
import AgentHosting.Lib.Prog
import AgentHosting.Lib.Pool
import AgentHosting.Lib.History
import AgentHosting.Lib.Gate
import AgentHosting.Lib.Schema
import AgentHosting.Lib.Commute
import AgentHosting.Lib.Rely
import AgentHosting.Lib.Deadline
import AgentHosting.Lib.Periodic
import AgentHosting.Lib.Text
import AgentHosting.Kube.Objects
import AgentHosting.Kube.Cluster
import AgentHosting.Kube.NetworkPolicy
import AgentHosting.Kube.Validation
import AgentHosting.Operator.Crd
import AgentHosting.Operator.Resources
import AgentHosting.Operator.Controller
import AgentHosting.Api.Crd
import AgentHosting.Api.Error
import AgentHosting.Api.Sse
import AgentHosting.Api.Handlers
import AgentHosting.Api.Responses
import AgentHosting.Api.Server
import AgentHosting.Api.Waiting
import AgentHosting.Api.Streams
import AgentHosting.Cli.Main
import AgentHosting.Operator.Format
import AgentHosting.Operator.Reconcile
import AgentHosting.Operator.Settle
import AgentHosting.Operator.Resume
import AgentHosting.Operator.Enforce
import AgentHosting.Operator.StatusPatch
import AgentHosting.Operator.Races
import AgentHosting.Operator.Healing
import AgentHosting.Operator.Spelling
import AgentHosting.Operator.Network
import AgentHosting.Operator.Builders
import AgentHosting.Operator.Requests
import AgentHosting.Operator.Memory
import AgentHosting.System.Tasks
import AgentHosting.System.PodDeletion
import AgentHosting.System.Isolation
import AgentHosting.System.Adoption
import AgentHosting.System.Footprint
import AgentHosting.System.Lineage
import AgentHosting.System.Continuity
import AgentHosting.System.Completion
import AgentHosting.System.Updates
import AgentHosting.System.Clients
import AgentHosting.System.Interference
import AgentHosting.System.Data
import AgentHosting.System.Admission
import AgentHosting.System.Defaults
import AgentHosting.System.Environment
import AgentHosting.System.StatusPipeline
import AgentHosting.System.Readiness
import AgentHosting.System.SshPort
import AgentHosting.System.Placement
import AgentHosting.System.Normalize
import AgentHosting.Deploy.DockerCompat
import AgentHosting.Cli.Create
import AgentHosting.Cli.Session
import AgentHosting.Deploy.Rbac
import AgentHosting.Deploy.CrdManifest
import AgentHosting.Deploy.Platform
import AgentHosting.Deploy.Reporting
