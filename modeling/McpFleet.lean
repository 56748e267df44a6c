import McpFleet.Access
import McpFleet.Binary64
import McpFleet.Binary64.Shortest
import McpFleet.Cluster
import McpFleet.Config
import McpFleet.Dict
import McpFleet.DomainError
import McpFleet.Environment
import McpFleet.Fleet.Error
import McpFleet.Fleet.Operation
import McpFleet.Fleet.Plan
import McpFleet.Fleet.Program
import McpFleet.Fleet.Request
import McpFleet.Fleet.World
import McpFleet.Gateway
import McpFleet.Health
import McpFleet.Hosting
import McpFleet.Hosting.Json
import McpFleet.Instance
import McpFleet.Instance.Json
import McpFleet.InstanceName
import McpFleet.Instant
import McpFleet.Instant.Calendar
import McpFleet.Instant.Timestamp
import McpFleet.Json
import McpFleet.Json.Jsonb
import McpFleet.Json.Numeral
import McpFleet.Json.Parser
import McpFleet.Json.Printer
import McpFleet.Json.Record
import McpFleet.Json.Shape
import McpFleet.Row
import McpFleet.Server
import McpFleet.Status
import McpFleet.Store
import McpFleet.Store.Columns
import McpFleet.Store.Database
import McpFleet.Store.Registry
import McpFleet.Text.Ascii
import McpFleet.Text.Blank
import McpFleet.Text.Canonical
import McpFleet.Text.Canonical.Table
import McpFleet.Text.CodeTable
import McpFleet.Text.Decimal
import McpFleet.Text.Mark
import McpFleet.Url
import McpFleet.Url.Address
import McpFleet.Url.Direction
import McpFleet.Url.Domain
import McpFleet.Url.DomainTable
import McpFleet.Url.Host
import McpFleet.Url.Joiner
import McpFleet.Url.Punycode
import McpFleet.Uuid
import McpFleet.Proofs.Text
import McpFleet.Proofs.Cluster.Naming
import McpFleet.Proofs.Fleet.Exchange
import McpFleet.Proofs.Store.Index
import McpFleet.Proofs.Fleet.Calls
import McpFleet.Proofs.Checks
import McpFleet.Proofs.Cluster.Operations
import McpFleet.Proofs.Fleet.Planning
import McpFleet.Proofs.Fleet.Outcome
import McpFleet.Proofs.Fleet.Effect
import McpFleet.Proofs.Fleet.Reachable
import McpFleet.Proofs.Fleet.Correspondence
import McpFleet.Proofs.Fleet.Atomicity
import McpFleet.Proofs.Fleet.EditWindow
import McpFleet.Proofs.Json.Digits
import McpFleet.Proofs.Json.Reals
import McpFleet.Proofs.Json.AsRead
import McpFleet.Proofs.Json.RoundTrip
import McpFleet.Proofs.Json.Jsonb
import McpFleet.Proofs.Hosting.Json
import McpFleet.Proofs.Row
import McpFleet.Proofs.Store.Columns
import McpFleet.Proofs.Store.Table
import McpFleet.Proofs.Store.Agreement
import McpFleet.Proofs.Json.Reading
import McpFleet.Proofs.Server.Grammar
import McpFleet.Proofs.Server.Keys
import McpFleet.Proofs.Gateway
import McpFleet.Proofs.Fleet.Placement
import McpFleet.Proofs.Fleet.Incidents
import McpFleet.Proofs.Fleet.Publication
import McpFleet.Proofs.Fleet.Acceptance
import McpFleet.Proofs.Store.Calls
import McpFleet.Proofs.Fleet.Ledger
import McpFleet.Proofs.Fleet.Turnover
import McpFleet.Proofs.Fleet.Succession
import McpFleet.Proofs.Fleet.Leftovers
import McpFleet.Proofs.Fleet.Retry
import McpFleet.Proofs.Fleet.Frame
import McpFleet.Proofs.Fleet.Identity
import McpFleet.Proofs.Fleet.Locality
import McpFleet.Proofs.Fleet.Commuting
import McpFleet.Proofs.Fleet.Interleaving
import McpFleet.Proofs.Fleet.Contention
import McpFleet.Proofs.Fleet.LostUpdate
import McpFleet.Proofs.Uuid
import McpFleet.Proofs.Instance.Json
import McpFleet.Proofs.Hosting.Settings
import McpFleet.Proofs.Row.Reading
import McpFleet.Proofs.Fleet.Persistence
import McpFleet.Proofs.Server.Location
import McpFleet.Proofs.Fleet.WriteBack
import McpFleet.Proofs.Fleet.Probing
import McpFleet.Proofs.Store.Listing
import McpFleet.Proofs.Fleet.Listing
import McpFleet.Proofs.Fleet.Addresses
import McpFleet.Proofs.Cluster.Labels
import McpFleet.Proofs.Hosting.Judging
import McpFleet.Proofs.Cluster.History
import McpFleet.Proofs.Fleet.LogHistory
import McpFleet.Proofs.Url.Parts
import McpFleet.Proofs.Url.Paths
import McpFleet.Proofs.Config
