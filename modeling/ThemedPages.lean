import ThemedPages.Command.Arguments
import ThemedPages.Command.Run
import ThemedPages.Component.Builtin
import ThemedPages.Component.Probe
import ThemedPages.Component.Registry
import ThemedPages.Compose.Filter
import ThemedPages.Compose.Tree
import ThemedPages.Decimal.Binary64
import ThemedPages.Decimal.Layout
import ThemedPages.Decimal.Shortest
import ThemedPages.Descriptor.Basic
import ThemedPages.Descriptor.Codec
import ThemedPages.Descriptor.File
import ThemedPages.Descriptor.Validation
import ThemedPages.Descriptor.Yaml
import ThemedPages.Document.Record
import ThemedPages.Document.Shape
import ThemedPages.Document.Value
import ThemedPages.Failure
import ThemedPages.Files.Path
import ThemedPages.Files.Tree
import ThemedPages.Json.Reader
import ThemedPages.Json.Writer
import ThemedPages.Main
import ThemedPages.Report
import ThemedPages.Route.Basic
import ThemedPages.Route.Discovery
import ThemedPages.Route.Registry
import ThemedPages.Site.Basic
import ThemedPages.Site.Bootstrap
import ThemedPages.Site.Config
import ThemedPages.Style.Element
import ThemedPages.Style.Injector
import ThemedPages.Style.Target
import ThemedPages.Table
import ThemedPages.Text.Blank
import ThemedPages.Text.Hidden
import ThemedPages.Text.Html
import ThemedPages.Text.Letters
import ThemedPages.Text.Quoted
import ThemedPages.Theme.Basic
import ThemedPages.Theme.Cache
import ThemedPages.Theme.Codec
import ThemedPages.Theme.Engine
import ThemedPages.Theme.Feed
import ThemedPages.Theme.Properties
import ThemedPages.Theme.Refresh
import ThemedPages.Theme.Response
import ThemedPages.Theme.Store.Basic
import ThemedPages.Theme.Store.Memory
import ThemedPages.Theme.Store.Snapshot
import ThemedPages.Theme.Store.Unreliable
import ThemedPages.Time.Instant
import ThemedPages.Yaml.Cursor
import ThemedPages.Yaml.Event
import ThemedPages.Yaml.Node
import ThemedPages.Yaml.Reader
import ThemedPages.Yaml.Scalar
import ThemedPages.Yaml.Token
import ThemedPages.Yaml.Token.Lexer
import ThemedPages.Yaml.Token.Text
import ThemedPages.Yaml.Writer
import ThemedPages.Proofs.Running
import ThemedPages.Proofs.Tables
import ThemedPages.Proofs.Time.Instants
import ThemedPages.Proofs.Decimal.Digits
import ThemedPages.Proofs.Json.ReadBack
import ThemedPages.Proofs.Document.Fields
import ThemedPages.Proofs.Theme.Records
import ThemedPages.Proofs.Theme.Texts
import ThemedPages.Proofs.Theme.Properties
import ThemedPages.Proofs.Yaml.Guided
import ThemedPages.Proofs.Files.Written
import ThemedPages.Proofs.Files.Frame
import ThemedPages.Proofs.Store.FreshId
import ThemedPages.Proofs.Store.Change
import ThemedPages.Proofs.Store.Integrity
import ThemedPages.Proofs.Store.Loading
import ThemedPages.Proofs.Store.Rows
import ThemedPages.Proofs.Store.Default
import ThemedPages.Proofs.Store.Saving
import ThemedPages.Proofs.Engine.Resolution
import ThemedPages.Proofs.Engine.Mutations
import ThemedPages.Proofs.Engine.Steps
import ThemedPages.Proofs.Engine.Coherence
import ThemedPages.Proofs.Store.Naming
import ThemedPages.Proofs.Engine.Creation
import ThemedPages.Proofs.Engine.RetiredIds
import ThemedPages.Proofs.Engine.Deletion
import ThemedPages.Proofs.Engine.Refusal
import ThemedPages.Proofs.Engine.SystemThemes
import ThemedPages.Proofs.Engine.Refresh
import ThemedPages.Proofs.Engine.Visibility
import ThemedPages.Proofs.Engine.Announcing
import ThemedPages.Proofs.Engine.KnownPages
import ThemedPages.Proofs.Style.Injection
import ThemedPages.Proofs.Style.Elements
import ThemedPages.Proofs.Style.SharedElements
import ThemedPages.Proofs.Site.Steps
import ThemedPages.Proofs.Site.Following
import ThemedPages.Proofs.Engine.Serving
import ThemedPages.Proofs.Site.PageRefresh
import ThemedPages.Proofs.Component.Builtins
import ThemedPages.Proofs.Compose.View
import ThemedPages.Proofs.Compose.Markup
import ThemedPages.Proofs.Compose.Degradation
import ThemedPages.Proofs.Route.Registry
import ThemedPages.Proofs.Descriptor.Records
import ThemedPages.Proofs.Descriptor.Files
import ThemedPages.Proofs.Descriptor.Rules
import ThemedPages.Proofs.Compose.Order
import ThemedPages.Proofs.Route.Checks
import ThemedPages.Proofs.Site.Verdicts
import ThemedPages.Proofs.Site.Containment
import ThemedPages.Proofs.Command.Applied
import ThemedPages.Proofs.Command.Effects
import ThemedPages.Proofs.Style.Reading
import ThemedPages.Proofs.Style.Declarations
import ThemedPages.Proofs.Style.Selection
import ThemedPages.Proofs.Files.LastNames
import ThemedPages.Proofs.Files.Replaced
import ThemedPages.Proofs.Descriptor.Writing
import ThemedPages.Proofs.Engine.VariationNames
import ThemedPages.Proofs.Engine.PageStates
import ThemedPages.Proofs.Engine.Independence
import ThemedPages.Proofs.Engine.RefreshRounds
import ThemedPages.Proofs.Engine.RefreshNews
import ThemedPages.Proofs.Store.Listing
import ThemedPages.Proofs.Route.Discovery
import ThemedPages.Proofs.Files.Moved
import ThemedPages.Proofs.Theme.Responses
import ThemedPages.Proofs.Descriptor.Overlapping
import ThemedPages.Proofs.Theme.Bindings
import ThemedPages.Proofs.Store.GivenIds
