import ClusterEvidence.Cluster.Basic
import ClusterEvidence.Cluster.Recorded
import ClusterEvidence.Collection
import ClusterEvidence.CommandLine.Arguments
import ClusterEvidence.CommandLine.Run
import ClusterEvidence.Config
import ClusterEvidence.Content.Directive
import ClusterEvidence.Content.Document
import ClusterEvidence.Content.Element
import ClusterEvidence.Content.Loading
import ClusterEvidence.Content.Profile
import ClusterEvidence.Content.Resolution
import ClusterEvidence.Content.Variables
import ClusterEvidence.Discovery
import ClusterEvidence.Error
import ClusterEvidence.Fetch
import ClusterEvidence.FileSystem.Basic
import ClusterEvidence.FileSystem.Path
import ClusterEvidence.Filter.Basic
import ClusterEvidence.Filter.Parser
import ClusterEvidence.Filter.Positions
import ClusterEvidence.Filter.Result
import ClusterEvidence.Filter.Run
import ClusterEvidence.Http.Access
import ClusterEvidence.Http.Address
import ClusterEvidence.Http.Certificate
import ClusterEvidence.Http.Certificate.Outline
import ClusterEvidence.Http.Client
import ClusterEvidence.Http.Domain.Image
import ClusterEvidence.Http.Domain.Label
import ClusterEvidence.Http.Domain.Punycode
import ClusterEvidence.Http.Host
import ClusterEvidence.Http.Percent
import ClusterEvidence.Http.Recorded
import ClusterEvidence.Http.Url
import ClusterEvidence.Json.Basic
import ClusterEvidence.Json.Binary64
import ClusterEvidence.Json.Fault
import ClusterEvidence.Json.Meet
import ClusterEvidence.Json.Patch
import ClusterEvidence.Json.Pointer
import ClusterEvidence.Json.Printer
import ClusterEvidence.Json.Reader
import ClusterEvidence.Json.Record
import ClusterEvidence.Json.Token
import ClusterEvidence.Json.Written
import ClusterEvidence.Keyed
import ClusterEvidence.Kubelet.Key
import ClusterEvidence.Kubelet.Reconcile
import ClusterEvidence.Kubelet.Roles
import ClusterEvidence.MachineConfig
import ClusterEvidence.Main
import ClusterEvidence.Outcome
import ClusterEvidence.Proofs.Collection
import ClusterEvidence.Proofs.Content.Directive
import ClusterEvidence.Proofs.Content.Element
import ClusterEvidence.Proofs.Content.Loading
import ClusterEvidence.Proofs.Content.Place
import ClusterEvidence.Proofs.Content.Profile
import ClusterEvidence.Proofs.Content.Rendering
import ClusterEvidence.Proofs.Content.Resolution
import ClusterEvidence.Proofs.Content.Unlinked
import ClusterEvidence.Proofs.Content.Variables
import ClusterEvidence.Proofs.Discovery
import ClusterEvidence.Proofs.Fetch.Answer
import ClusterEvidence.Proofs.Fetch.Paging
import ClusterEvidence.Proofs.Fetch.Response
import ClusterEvidence.Proofs.Fetch.Run
import ClusterEvidence.Proofs.Fetch.Source
import ClusterEvidence.Proofs.FileSystem.Following
import ClusterEvidence.Proofs.FileSystem.Making
import ClusterEvidence.Proofs.FileSystem.Path
import ClusterEvidence.Proofs.Filter.Assignment
import ClusterEvidence.Proofs.Filter.DepthFirst
import ClusterEvidence.Proofs.Filter.Grammar
import ClusterEvidence.Proofs.Filter.Offsets
import ClusterEvidence.Proofs.Filter.Parser
import ClusterEvidence.Proofs.Filter.Path
import ClusterEvidence.Proofs.Filter.Positions
import ClusterEvidence.Proofs.Filter.Quoting
import ClusterEvidence.Proofs.Http.Body
import ClusterEvidence.Proofs.Json.Difference
import ClusterEvidence.Proofs.Json.Edit
import ClusterEvidence.Proofs.Json.Equality
import ClusterEvidence.Proofs.Json.Layout
import ClusterEvidence.Proofs.Json.Literal
import ClusterEvidence.Proofs.Json.Meet
import ClusterEvidence.Proofs.Json.Place
import ClusterEvidence.Proofs.Json.Pointer
import ClusterEvidence.Proofs.Json.Printable
import ClusterEvidence.Proofs.Json.Reader
import ClusterEvidence.Proofs.Json.Record
import ClusterEvidence.Proofs.Json.Removal
import ClusterEvidence.Proofs.Json.RoundTrip
import ClusterEvidence.Proofs.Json.Token
import ClusterEvidence.Proofs.Json.Within
import ClusterEvidence.Proofs.Json.Written
import ClusterEvidence.Proofs.Keyed
import ClusterEvidence.Proofs.Kubelet.Baseline
import ClusterEvidence.Proofs.Kubelet.Collecting
import ClusterEvidence.Proofs.Kubelet.Configuration
import ClusterEvidence.Proofs.Kubelet.Grouping
import ClusterEvidence.Proofs.Kubelet.Index
import ClusterEvidence.Proofs.Kubelet.Key
import ClusterEvidence.Proofs.Kubelet.NodeEntries
import ClusterEvidence.Proofs.Kubelet.Reconcile
import ClusterEvidence.Proofs.Kubelet.Refusal
import ClusterEvidence.Proofs.Kubelet.Rounds
import ClusterEvidence.Proofs.Kubelet.Warnings
import ClusterEvidence.Proofs.MachineConfig
import ClusterEvidence.Proofs.Save.Destination
import ClusterEvidence.Proofs.Save.Results
import ClusterEvidence.Proofs.Save.Writing
import ClusterEvidence.Proofs.Text.Blank
import ClusterEvidence.Proofs.Text.Order
import ClusterEvidence.Proofs.Text.Splitting
import ClusterEvidence.Proofs.Text.Utf8
import ClusterEvidence.Proofs.Traverse
import ClusterEvidence.Proofs.Trimming
import ClusterEvidence.Resource
import ClusterEvidence.Save
import ClusterEvidence.Text.Base64
import ClusterEvidence.Text.Blank
import ClusterEvidence.Text.Bytes
import ClusterEvidence.Text.Cased
import ClusterEvidence.Text.Composition
import ClusterEvidence.Text.Cursor
import ClusterEvidence.Text.Digits
import ClusterEvidence.Text.Direction
import ClusterEvidence.Text.Joining
import ClusterEvidence.Text.Lower
import ClusterEvidence.Text.Mark
import ClusterEvidence.Text.Repeat
import ClusterEvidence.Text.Runs
import ClusterEvidence.Traverse
import ClusterEvidence.Xml.Entity
import ClusterEvidence.Xml.Event
import ClusterEvidence.Xml.Fault
import ClusterEvidence.Xml.Lexical
import ClusterEvidence.Xml.Prolog
import ClusterEvidence.Yaml.Fault
import ClusterEvidence.Yaml.Node
import ClusterEvidence.Yaml.Position
import ClusterEvidence.Yaml.Record
import ClusterEvidence.Yaml.Scalar
import ClusterEvidence.Yaml.Token
