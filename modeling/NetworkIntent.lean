import NetworkIntent.Text.Base64
import NetworkIntent.Text.Blank
import NetworkIntent.Text.Digit
import NetworkIntent.Text.Percent
import NetworkIntent.Text.Quoted
import NetworkIntent.Json.Double
import NetworkIntent.Json.Basic
import NetworkIntent.Json.Printer
import NetworkIntent.Json.Reader
import NetworkIntent.Json.Decoder
import NetworkIntent.Schema.Basic
import NetworkIntent.Address.Cidr
import NetworkIntent.Calendar
import NetworkIntent.Intent.Basic
import NetworkIntent.Intent.Consistency
import NetworkIntent.Intent.Document
import NetworkIntent.Port
import NetworkIntent.Variables.Routing
import NetworkIntent.Variables.Switching
import NetworkIntent.Action
import NetworkIntent.Derivation
import NetworkIntent.Inventory.Snapshot
import NetworkIntent.Publication.Lifecycle
import NetworkIntent.Settings
import NetworkIntent.Publication.Publisher
import NetworkIntent.Publication.Repository
import NetworkIntent.FileTree.Basic
import NetworkIntent.Schema.Keyword
import NetworkIntent.Schema.Catalog
import NetworkIntent.Validation
import NetworkIntent.Schema.Shipped
import NetworkIntent.Artifact.Store
import NetworkIntent.Compilation
import NetworkIntent.Http.Message
import NetworkIntent.Http.Script
import NetworkIntent.Inventory.NetBox
import NetworkIntent.Publication.GitLab
import NetworkIntent.ServiceDatabase
import NetworkIntent.CommandLine.Arguments
import NetworkIntent.CommandLine.Run
import NetworkIntent.Main
import NetworkIntent.Text.Substitution
import NetworkIntent.Text.Punycode
import NetworkIntent.DomainName.Composition
import NetworkIntent.DomainName.Repertoire
import NetworkIntent.DomainName.Basic
import NetworkIntent.Http.Host
import NetworkIntent.Text.Category
import NetworkIntent.Text.CharSet
import NetworkIntent.Text.Property
import NetworkIntent.Schema.Pattern.Expr
import NetworkIntent.Schema.Pattern.Search
import NetworkIntent.Schema.Pattern.Class
import NetworkIntent.Schema.Pattern.Size
import NetworkIntent.Proofs.Action
import NetworkIntent.Proofs.Table
import NetworkIntent.Proofs.Document
import NetworkIntent.Proofs.Recording
import NetworkIntent.Proofs.Decoder
import NetworkIntent.Proofs.PublishedIntent
import NetworkIntent.Proofs.Path
import NetworkIntent.Proofs.FileTree
import NetworkIntent.Proofs.Place
import NetworkIntent.Proofs.Staging
import NetworkIntent.Proofs.Json.Lines
import NetworkIntent.Proofs.Transaction
import NetworkIntent.Proofs.Utf8
import NetworkIntent.Proofs.Json.Number
import NetworkIntent.Proofs.Json.Text
import NetworkIntent.Proofs.Json.RoundTrip
import NetworkIntent.Proofs.Json.Parsed
import NetworkIntent.Proofs.Json.Storable
import NetworkIntent.Proofs.WellFormed
import NetworkIntent.Proofs.ArtifactFile
import NetworkIntent.Proofs.Reading
import NetworkIntent.Proofs.Refinement
import NetworkIntent.Proofs.VariablesDocument
import NetworkIntent.Proofs.Compilation
import NetworkIntent.Proofs.Transcript
import NetworkIntent.Proofs.Conversation
import NetworkIntent.Proofs.Convergence
import NetworkIntent.Proofs.Bindings
import NetworkIntent.Proofs.Derivation
import NetworkIntent.Proofs.Schema.Forms
import NetworkIntent.Proofs.Declaration
import NetworkIntent.Proofs.Schema.Services
import NetworkIntent.Proofs.Grammar
import NetworkIntent.Proofs.Agreement
import NetworkIntent.Proofs.Concurrence
import NetworkIntent.Proofs.Relevance
import NetworkIntent.Proofs.Switching
import NetworkIntent.Proofs.Lifecycle
import NetworkIntent.Proofs.PortPositions
import NetworkIntent.Proofs.Json.Escaped
import NetworkIntent.Proofs.Rendering
import NetworkIntent.Proofs.RouterBindings
import NetworkIntent.Proofs.Schema.Matching
import NetworkIntent.Proofs.Schema.Spelling
import NetworkIntent.Proofs.Schema.Glossary
import NetworkIntent.Proofs.Schema.Deployment
import NetworkIntent.Proofs.Address
import NetworkIntent.Proofs.Written
import NetworkIntent.Proofs.VariablesGate
import NetworkIntent.Proofs.Json.Spelled
import NetworkIntent.Proofs.Json.Skipped
import NetworkIntent.Proofs.Json.Scanned
import NetworkIntent.Proofs.Request
import NetworkIntent.Proofs.ServedEntries
import NetworkIntent.Proofs.Interchange
import NetworkIntent.Proofs.Json.Restored
import NetworkIntent.Proofs.Progress
import NetworkIntent.Proofs.Recompilation
import NetworkIntent.Proofs.VariablesRestored
import NetworkIntent.Proofs.Base64
import NetworkIntent.Proofs.ServedFiles
import NetworkIntent.Proofs.ServedRepository
import NetworkIntent.Proofs.Query
import NetworkIntent.Proofs.ServedInventory
import NetworkIntent.Proofs.Numeral
import NetworkIntent.Proofs.Pagination
import NetworkIntent.Proofs.Renaming
import NetworkIntent.Proofs.AddressText
import NetworkIntent.Proofs.Calendar
import NetworkIntent.Proofs.CidrText
import NetworkIntent.Proofs.StoredFile
import NetworkIntent.Proofs.FirstBreach
import NetworkIntent.Proofs.PortName
import NetworkIntent.Proofs.WrittenBack
import NetworkIntent.Proofs.Confinement
import NetworkIntent.Proofs.KeyForms
import NetworkIntent.Proofs.BaseAddress
import NetworkIntent.Proofs.FileAddress
import NetworkIntent.Proofs.TrailingSlashes
import NetworkIntent.Proofs.SettingsMap
