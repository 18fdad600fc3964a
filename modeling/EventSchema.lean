import EventSchema.Artifact
import EventSchema.Backend.Code
import EventSchema.Backend.CommandsFile
import EventSchema.Backend.Drafts
import EventSchema.Backend.EventsFile
import EventSchema.Backend.Identifier
import EventSchema.Backend.Records
import EventSchema.Backend.RestFile
import EventSchema.Backend.TypeExpr
import EventSchema.Backend.TypesFile
import EventSchema.Check.Commands
import EventSchema.Check.Containment
import EventSchema.Check.Datatype
import EventSchema.Check.Declarations
import EventSchema.Check.Endpoints
import EventSchema.Check.Events
import EventSchema.Check.Imports
import EventSchema.Check.Names
import EventSchema.Check.Schema
import EventSchema.CommandLine.Arguments
import EventSchema.CommandLine.Run
import EventSchema.Config
import EventSchema.Diff.Edit
import EventSchema.Diff.Hunks
import EventSchema.Diff.Shortest
import EventSchema.Diff.Slide
import EventSchema.Digest
import EventSchema.Disk.Build
import EventSchema.Disk.Output
import EventSchema.Disk.Path
import EventSchema.Disk.Schema
import EventSchema.Disk.Tree
import EventSchema.Dispatch
import EventSchema.Failure
import EventSchema.Frontend.Client
import EventSchema.Frontend.CommandForms
import EventSchema.Frontend.Expr
import EventSchema.Frontend.Identifier
import EventSchema.Frontend.Module
import EventSchema.Frontend.Projection
import EventSchema.Frontend.TypeExpr
import EventSchema.Generate
import EventSchema.Graph
import EventSchema.Http.Chain
import EventSchema.Http.Input
import EventSchema.Http.Message
import EventSchema.Http.Router
import EventSchema.Instant
import EventSchema.Json.Decode
import EventSchema.Json.Numeral
import EventSchema.Json.Reader
import EventSchema.Json.Value
import EventSchema.Json.Writer
import EventSchema.Log.Envelope
import EventSchema.Log.Event
import EventSchema.Main
import EventSchema.Naming.Identifier
import EventSchema.Naming.Words
import EventSchema.Number.Binary64
import EventSchema.Number.Shortest
import EventSchema.Pattern.Age
import EventSchema.Pattern.Ast
import EventSchema.Pattern.ByteRanges
import EventSchema.Pattern.Category
import EventSchema.Pattern.CharSet
import EventSchema.Pattern.Folding
import EventSchema.Pattern.Footprint
import EventSchema.Pattern.Lookup
import EventSchema.Pattern.Meaning
import EventSchema.Pattern.Node
import EventSchema.Pattern.Program
import EventSchema.Pattern.Property
import EventSchema.Pattern.Reader
import EventSchema.Pattern.Script
import EventSchema.Pattern.ScriptUse
import EventSchema.Pattern.Segment
import EventSchema.Pattern.Trait
import EventSchema.Proofs.Agreement
import EventSchema.Proofs.Artifacts
import EventSchema.Proofs.Captures
import EventSchema.Proofs.Checked
import EventSchema.Proofs.ClientScope
import EventSchema.Proofs.Containment
import EventSchema.Proofs.Datatype
import EventSchema.Proofs.Digits
import EventSchema.Proofs.Drafts
import EventSchema.Proofs.Emission
import EventSchema.Proofs.EventLog
import EventSchema.Proofs.FileIdentifiers
import EventSchema.Proofs.FileTree
import EventSchema.Proofs.FunctionNames
import EventSchema.Proofs.Graph
import EventSchema.Proofs.Identifiers
import EventSchema.Proofs.InlineObjects
import EventSchema.Proofs.Instants
import EventSchema.Proofs.Items
import EventSchema.Proofs.JsonGrammar
import EventSchema.Proofs.JsonText
import EventSchema.Proofs.JsonTokens
import EventSchema.Proofs.LegalIdentifiers
import EventSchema.Proofs.Outcome
import EventSchema.Proofs.Parameters
import EventSchema.Proofs.Prune
import EventSchema.Proofs.RecordContainment
import EventSchema.Proofs.RecordNames
import EventSchema.Proofs.References
import EventSchema.Proofs.Resolution
import EventSchema.Proofs.ExprReader
import EventSchema.Proofs.RouteText
import EventSchema.Proofs.Runs
import EventSchema.Proofs.Shadowing
import EventSchema.Proofs.TypeDeclarations
import EventSchema.Proofs.Variants
import EventSchema.Proofs.Words
import EventSchema.Registry
import EventSchema.Rule
import EventSchema.Sample.Contacts
import EventSchema.Sample.Schema
import EventSchema.Sample.Secrets
import EventSchema.Schema.Command
import EventSchema.Schema.Datatype
import EventSchema.Schema.Declarations
import EventSchema.Schema.Document
import EventSchema.Schema.Event
import EventSchema.Schema.Fault
import EventSchema.Schema.Module
import EventSchema.Schema.References
import EventSchema.Schema.Route
import EventSchema.Settings
import EventSchema.Summary
import EventSchema.Text.Blank
import EventSchema.Text.Extender
import EventSchema.Text.Letter
import EventSchema.Text.Lines
import EventSchema.Text.Order
import EventSchema.Text.Printable
import EventSchema.Text.Quoted
import EventSchema.Text.Ranges
import EventSchema.Text.Tidy
import EventSchema.Text.Upper
import EventSchema.Toml.Reader
import EventSchema.Toml.Scalar
import EventSchema.Toml.Value
import EventSchema.Proofs.UrlEvaluation
import EventSchema.Proofs.RouteArguments
import EventSchema.Proofs.PathAgreement
import EventSchema.Proofs.FormAgreement
import EventSchema.Proofs.CommandRuns
import EventSchema.Proofs.Routing
import EventSchema.Proofs.ContactRoutes
import EventSchema.Proofs.Placement
import EventSchema.Proofs.GlueReader
import EventSchema.Proofs.GlueReach
import EventSchema.Proofs.OwnFiles
import EventSchema.Proofs.Decoding
import EventSchema.Proofs.DatatypeValues
import EventSchema.Proofs.Documents
import EventSchema.Proofs.RouteGrammar
import EventSchema.Proofs.Walks
import EventSchema.Proofs.Staleness
import EventSchema.Proofs.Overlap
import EventSchema.Proofs.StaleReport
import EventSchema.Proofs.RouteGroups
import EventSchema.Proofs.Reachability
import EventSchema.Proofs.MemberText
import EventSchema.Proofs.DraftRuns
import EventSchema.Proofs.Layout
import EventSchema.Proofs.PatternChecks
import EventSchema.Proofs.QuotedText
import EventSchema.Proofs.RuleCode
import EventSchema.Proofs.RuleVerdicts
import EventSchema.Proofs.AddedMembers
import EventSchema.Proofs.NewerLogs
import EventSchema.Proofs.CaseStyles
import EventSchema.Proofs.FieldIdentifiers
import EventSchema.Proofs.LiteralText
import EventSchema.Proofs.TypeReader
import EventSchema.Proofs.TypeReading
import EventSchema.Proofs.TypePositions
import EventSchema.Proofs.CodeStrings
import EventSchema.Proofs.FileStrings
import EventSchema.Proofs.RouteStrings
import EventSchema.Proofs.SampleFiles
import EventSchema.Proofs.SchemaStrings
