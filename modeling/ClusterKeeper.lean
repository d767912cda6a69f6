import ClusterKeeper.Api.Http
import ClusterKeeper.Api.Resources
import ClusterKeeper.CommandLine
import ClusterKeeper.Data.Form
import ClusterKeeper.Data.Json.Printer
import ClusterKeeper.Data.Json.Reader
import ClusterKeeper.Data.Json.Token
import ClusterKeeper.Data.KeyMap
import ClusterKeeper.Data.MergePatch
import ClusterKeeper.Data.Value
import ClusterKeeper.Data.Wire
import ClusterKeeper.Data.Yaml.Block
import ClusterKeeper.Data.Yaml.Document
import ClusterKeeper.Data.Yaml.Glyph
import ClusterKeeper.Data.Yaml.Lexer
import ClusterKeeper.Data.Yaml.Node
import ClusterKeeper.Data.Yaml.Printer
import ClusterKeeper.Data.Yaml.Reader
import ClusterKeeper.Data.Yaml.Scalar
import ClusterKeeper.Data.Yaml.Tag
import ClusterKeeper.Data.Yaml.Token
import ClusterKeeper.Data.Yaml.Word
import ClusterKeeper.Dialogue
import ClusterKeeper.Fault
import ClusterKeeper.Main
import ClusterKeeper.Pass.Attempt
import ClusterKeeper.Pass.Call
import ClusterKeeper.Pass.Converge
import ClusterKeeper.Pass.Credentials
import ClusterKeeper.Pass.Prompt
import ClusterKeeper.Pass.Readiness
import ClusterKeeper.Pass.Reconcile
import ClusterKeeper.Pass.TearDown
import ClusterKeeper.Pass.VersionChoice
import ClusterKeeper.Pass.World
import ClusterKeeper.Pools.Apply
import ClusterKeeper.Pools.Name
import ClusterKeeper.Pools.Observed
import ClusterKeeper.Pools.Plan
import ClusterKeeper.Provider.Types
import ClusterKeeper.Resource.Cluster
import ClusterKeeper.Resource.Definition
import ClusterKeeper.Resource.Metadata
import ClusterKeeper.Resource.Phase
import ClusterKeeper.Resource.Pool
import ClusterKeeper.Resource.Schema
import ClusterKeeper.Resource.Secret
import ClusterKeeper.Resource.Validation
import ClusterKeeper.Settings
import ClusterKeeper.Tags
import ClusterKeeper.Text.Base64
import ClusterKeeper.Text.Blank
import ClusterKeeper.Text.Hex
import ClusterKeeper.Text.Numeral
import ClusterKeeper.Text.Printable
import ClusterKeeper.Text.Quoted
import ClusterKeeper.Text.Split
import ClusterKeeper.Time.Backoff
import ClusterKeeper.Time.Binary64
import ClusterKeeper.Time.Delay
import ClusterKeeper.Time.Timestamp
import ClusterKeeper.Version
import ClusterKeeper.Proofs.Logic.Dialogue
import ClusterKeeper.Proofs.Logic.Pass
import ClusterKeeper.Proofs.Logic.Moments
import ClusterKeeper.Proofs.Logic.Transcript
import ClusterKeeper.Proofs.Api.Members
import ClusterKeeper.Proofs.Api.Requests
import ClusterKeeper.Proofs.Api.Finalizers
import ClusterKeeper.Proofs.Pass.CallKinds
import ClusterKeeper.Proofs.Pass.Invariance
import ClusterKeeper.Proofs.Pass.Creation
import ClusterKeeper.Proofs.Pass.WholePass
import ClusterKeeper.Proofs.Pass.Interruption
import ClusterKeeper.Proofs.Pass.Custody
import ClusterKeeper.Proofs.Pass.Record
import ClusterKeeper.Proofs.Pass.Observation
import ClusterKeeper.Proofs.Pass.Courses
import ClusterKeeper.Proofs.Pass.Aftermath
import ClusterKeeper.Proofs.Pass.Erasure
import ClusterKeeper.Proofs.Pass.Explanation
import ClusterKeeper.Proofs.Pass.Gating
import ClusterKeeper.Proofs.Pass.Identifier
import ClusterKeeper.Proofs.Pass.Lifetime
import ClusterKeeper.Proofs.Pools.Partition
import ClusterKeeper.Proofs.Pools.Holders
import ClusterKeeper.Proofs.Pools.Shadowing
import ClusterKeeper.Proofs.Pools.Errands
import ClusterKeeper.Proofs.Pools.Work
import ClusterKeeper.Proofs.Pools.Steps
import ClusterKeeper.Proofs.Pools.Runs
import ClusterKeeper.Proofs.Pools.Resumption
import ClusterKeeper.Proofs.Pools.Converged
import ClusterKeeper.Proofs.Pools.Disturbance
import ClusterKeeper.Proofs.Settling.Choices
import ClusterKeeper.Proofs.Settling.Site
import ClusterKeeper.Proofs.Settling.Steps
import ClusterKeeper.Proofs.Settling.Parts
import ClusterKeeper.Proofs.Settling.Convergence
import ClusterKeeper.Proofs.Pass.Settlement
import ClusterKeeper.Proofs.Pass.Agreement
import ClusterKeeper.Proofs.Pass.Advisory
import ClusterKeeper.Proofs.Logic.Twin
import ClusterKeeper.Proofs.Pass.Stages
import ClusterKeeper.Proofs.Pass.Announcement
import ClusterKeeper.Proofs.Pass.Report
import ClusterKeeper.Proofs.Pass.Containment
import ClusterKeeper.Proofs.Pass.Tally
import ClusterKeeper.Proofs.Logic.Parallel
import ClusterKeeper.Proofs.Pools.Ranking
import ClusterKeeper.Proofs.Pass.Relisting
import ClusterKeeper.Proofs.Pools.RoundTrip
import ClusterKeeper.Proofs.Text.Base64
import ClusterKeeper.Proofs.Pass.Kubeconfig
import ClusterKeeper.Proofs.Pass.Ownership
import ClusterKeeper.Proofs.Version.Latest
import ClusterKeeper.Proofs.Pass.Accounting
import ClusterKeeper.Proofs.Data.JsonText
import ClusterKeeper.Proofs.Data.Layout
import ClusterKeeper.Proofs.Data.Records
import ClusterKeeper.Proofs.Api.Undisturbed
import ClusterKeeper.Proofs.Text.Numeral
import ClusterKeeper.Proofs.Version.Grammar
import ClusterKeeper.Proofs.Text.Trim
import ClusterKeeper.Proofs.Tags.Listing
import ClusterKeeper.Proofs.Tags.Change
import ClusterKeeper.Proofs.Pass.Tagging
import ClusterKeeper.Proofs.Resource.Acceptance
import ClusterKeeper.Proofs.Time.Exactness
import ClusterKeeper.Proofs.Time.Growth
