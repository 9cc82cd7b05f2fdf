import ShareCheck.Access.RoundTrip
import ShareCheck.Access.Share
import ShareCheck.Access.Verify
import ShareCheck.Activity
import ShareCheck.Backoff
import ShareCheck.Check
import ShareCheck.Cluster
import ShareCheck.CommandLine.Arguments
import ShareCheck.CommandLine.Invocation
import ShareCheck.Config
import ShareCheck.Duration
import ShareCheck.Endpoint
import ShareCheck.Error
import ShareCheck.EventTrail
import ShareCheck.Files
import ShareCheck.Fixture
import ShareCheck.Harness
import ShareCheck.Json
import ShareCheck.Kubernetes.Client
import ShareCheck.Kubernetes.Connection
import ShareCheck.Kubernetes.Credentials
import ShareCheck.Kubernetes.Kubeconfig
import ShareCheck.Kubernetes.Kubeconfig.Load
import ShareCheck.Kubernetes.Kubeconfig.Read
import ShareCheck.Kubernetes.Kubeconfig.Record
import ShareCheck.Kubernetes.Kubeconfig.Schema
import ShareCheck.Kubernetes.Metadata
import ShareCheck.Kubernetes.Objects
import ShareCheck.Kubernetes.Rest
import ShareCheck.Lifecycle
import ShareCheck.Main
import ShareCheck.Number.Binary64
import ShareCheck.Path
import ShareCheck.Pem
import ShareCheck.Phase
import ShareCheck.Poll
import ShareCheck.Proofs.Activity
import ShareCheck.Proofs.Lifecycle.Calls
import ShareCheck.Proofs.Poll
import ShareCheck.Proofs.Trace
import ShareCheck.Registry
import ShareCheck.Report
import ShareCheck.Resource
import ShareCheck.Scenario
import ShareCheck.Scenario.Step
import ShareCheck.Scenario.Steps
import ShareCheck.Scripted.ApiServer
import ShareCheck.Scripted.Cluster
import ShareCheck.Scripted.Effect
import ShareCheck.Scripted.Probes
import ShareCheck.Scripted.Programs
import ShareCheck.Scripted.Share
import ShareCheck.Scripted.World
import ShareCheck.ServerName
import ShareCheck.Smbclient.Client
import ShareCheck.Smbclient.Command
import ShareCheck.Smbclient.Listing
import ShareCheck.Smbclient.Status
import ShareCheck.Table
import ShareCheck.Text.Base64
import ShareCheck.Text.Blank
import ShareCheck.Text.Casing
import ShareCheck.Text.Casing.Mapping
import ShareCheck.Text.Casing.Property
import ShareCheck.Text.Printable
import ShareCheck.Text.Quoted
import ShareCheck.Text.Ranges
import ShareCheck.Text.Search
import ShareCheck.Text.Truncate
import ShareCheck.Text.Utf16
import ShareCheck.Text.Utf8
import ShareCheck.Timestamp
import ShareCheck.Uri
import ShareCheck.Uri.Form
import ShareCheck.Workload
import ShareCheck.Yaml.Compose
import ShareCheck.Yaml.Cursor
import ShareCheck.Yaml.Documents
import ShareCheck.Yaml.Scan
import ShareCheck.Yaml.Scan.Block
import ShareCheck.Yaml.Scan.Plain
import ShareCheck.Yaml.Scan.Property
import ShareCheck.Yaml.Scan.Quoted
import ShareCheck.Yaml.Scan.Structure
import ShareCheck.Yaml.Token
import ShareCheck.Yaml.Tree
import ShareCheck.Yaml11.Cursor
import ShareCheck.Yaml11.Node
import ShareCheck.Yaml11.Plain
import ShareCheck.Yaml11.Scan
import ShareCheck.Yaml11.Scan.Block
import ShareCheck.Yaml11.Scan.Plain
import ShareCheck.Yaml11.Scan.Property
import ShareCheck.Yaml11.Scan.Quoted
import ShareCheck.Yaml11.Tokens
import ShareCheck.Yaml11.Value
import ShareCheck.Proofs.Lifecycle.Ownership
import ShareCheck.Proofs.Lifecycle.Projection
import ShareCheck.Proofs.Access.Lanes
import ShareCheck.Proofs.Access.Verify
import ShareCheck.Proofs.Access.Projection
import ShareCheck.Proofs.Scenario.Course
import ShareCheck.Proofs.Scenario.Steps
import ShareCheck.Proofs.Scenario.Projection
import ShareCheck.Proofs.Scenario.Restoration
import ShareCheck.Proofs.Scripted.World
import ShareCheck.Proofs.Access.Evidence
import ShareCheck.Proofs.Scenario.Evidence
import ShareCheck.Proofs.Poll.Schedule
import ShareCheck.Proofs.Access.Cleanup
import ShareCheck.Proofs.Scenario.Completion
import ShareCheck.Proofs.Registry
import ShareCheck.Proofs.Lifecycle.Dialogue
import ShareCheck.Proofs.Lifecycle.Account
import ShareCheck.Proofs.Lifecycle.Interleaving
import ShareCheck.Proofs.Access.Isolation
import ShareCheck.Proofs.Access.Sharing
import ShareCheck.Proofs.Scenario.Refusal
import ShareCheck.Proofs.Registry.Isolation
import ShareCheck.Proofs.Poll.Sampling
import ShareCheck.Proofs.Access.Outcome
import ShareCheck.Proofs.Pace
import ShareCheck.Proofs.Lifecycle.Pace
import ShareCheck.Proofs.Scenario.Pace
import ShareCheck.Proofs.Fixture
import ShareCheck.Proofs.Scenario.Routing
import ShareCheck.Proofs.Scenario.Overdue
import ShareCheck.Proofs.Text.Search
import ShareCheck.Proofs.Text.Utf8
import ShareCheck.Proofs.Smbclient.Listing
import ShareCheck.Proofs.Smbclient.Status
import ShareCheck.Proofs.Smbclient.Client
import ShareCheck.Proofs.Yaml.Members
import ShareCheck.Proofs.Yaml.Documents
import ShareCheck.Proofs.EventTrail.Verdict
import ShareCheck.Proofs.Fixture.Objects
import ShareCheck.Proofs.Lifecycle.Retry
import ShareCheck.Proofs.Poll.Readiness
import ShareCheck.Proofs.Text.Encoding
import ShareCheck.Proofs.Smbclient.Payload
import ShareCheck.Proofs.Backoff
import ShareCheck.Proofs.Registry.Reports
import ShareCheck.Proofs.Text.Truncate
import ShareCheck.Proofs.Workload
import ShareCheck.Proofs.Access.Discretion
import ShareCheck.Proofs.Smbclient.Discretion
import ShareCheck.Proofs.Scenario.Discretion
