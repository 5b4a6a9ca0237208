import VertRule.Json.Basic
import VertRule.Schemas.Types
import VertRule.Wire
import VertRule.Lib.Dfs
import VertRule.Error
import VertRule.Lib.Ieee754
import VertRule.MriProfile
import VertRule.Externals
import VertRule.Limits
import VertRule.Lib.CheckedFold
import VertRule.Nodes
import VertRule.SchemaProfile
import VertRule.Lib.Except
import VertRule.Canon
import VertRule.Envelope
import VertRule.Ingestion
import VertRule.Chain
import VertRule.Lib.Scan
import VertRule.Violations
import VertRule.Trust
import VertRule.Lib.Register
import VertRule.Authority
import VertRule.Result
import VertRule.Signature
import VertRule.Verify
import VertRule.Bundle
import VertRule.LayeredPack
import VertRule.DecisionPack
import VertRule.Json.Admitted
import VertRule.Echo.Basic
import VertRule.Echo.Verify
import VertRule.Echo.Report
import VertRule.Tables
import VertRule.Lib.HashChain
import VertRule.History
import VertRule.Recut
import VertRule.Transport
import VertRule.Identity
import VertRule.Sidecar
import VertRule.Rbh
import VertRule.Closure.Walk
import VertRule.Closure.Search
import VertRule.Closure.Verify
import VertRule.Closure.Law
import VertRule.Reports
import VertRule.Closure.Index
import VertRule.Closure.ReceiptLaw
import VertRule.Closure.Lineage
import VertRule.Lib.FirstMatch
import VertRule.Closure.Order
import VertRule.Layers
import VertRule.TrustRules
import VertRule.Elements
import VertRule.Growth
import VertRule.Lib.Refusal
import VertRule.Refusals
import VertRule.Transfer
import VertRule.Json.Members
import VertRule.NormalForm
import VertRule.Json.Sorted
import VertRule.Presence
import VertRule.Closure.Manifest
import VertRule.DecisionLaw
import VertRule.Packs
import VertRule.Supplied
import VertRule.Unreferenced
import VertRule.LayeredLaw
import VertRule.ExternalLaw
import VertRule.Projection
import VertRule.TwoVerifiers
import VertRule.Guarded
import VertRule.Lib.Flags
import VertRule.PackReports
import VertRule.Echo.Packs
import VertRule.Wasm
import VertRule.Cli
import VertRule.CliFlags
import VertRule.CliLaw
import VertRule.Survival
import VertRule.Closure.Frame
import VertRule.Closure.Cut
import VertRule.ReportIdentity
import VertRule.SidecarPin
import VertRule.Issue.Basic
import VertRule.Issue.Receipt
import VertRule.Issue.Chain
import VertRule.Issue.Ceremony
import VertRule.Issue.Signed
import VertRule.Issue.External
import VertRule.Lib.HashGraph
import VertRule.Issue.Packs
import VertRule.Issue.Layered
import VertRule.Issue.Decision
import VertRule.Issue.Closure
