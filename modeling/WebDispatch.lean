import WebDispatch.Components
import WebDispatch.Configuration.Catalog
import WebDispatch.Configuration.Configurator
import WebDispatch.Configuration.Declaration
import WebDispatch.Configuration.Directive
import WebDispatch.Configuration.DottedName
import WebDispatch.Configuration.Ledger
import WebDispatch.Configuration.Parts
import WebDispatch.Configuration.Perform
import WebDispatch.Configuration.Routes
import WebDispatch.Configuration.Views
import WebDispatch.Error
import WebDispatch.Event
import WebDispatch.ExceptionView
import WebDispatch.Exchange
import WebDispatch.Handling
import WebDispatch.Http.Accept
import WebDispatch.Http.Date
import WebDispatch.Http.FileType
import WebDispatch.Http.Form
import WebDispatch.Http.Header
import WebDispatch.Http.Response
import WebDispatch.Http.Uri
import WebDispatch.Interface
import WebDispatch.Introspection
import WebDispatch.Journal
import WebDispatch.Number
import WebDispatch.OrderedMap
import WebDispatch.Path.MatchDict
import WebDispatch.Path.Pattern
import WebDispatch.Path.Segments
import WebDispatch.Predicate.Basic
import WebDispatch.Predicate.Options
import WebDispatch.Queue
import WebDispatch.Regex.Basic
import WebDispatch.Regex.CharSet
import WebDispatch.Regex.ClassName
import WebDispatch.Regex.Reader
import WebDispatch.Registry
import WebDispatch.Renderer
import WebDispatch.Report
import WebDispatch.Request
import WebDispatch.Resource
import WebDispatch.Route.Basic
import WebDispatch.Route.Table
import WebDispatch.Router
import WebDispatch.Scripted.Callback
import WebDispatch.Scripted.Condition
import WebDispatch.Scripted.Document
import WebDispatch.Scripted.Policy
import WebDispatch.Scripted.Renderer
import WebDispatch.Scripted.Subscriber
import WebDispatch.Scripted.Tween
import WebDispatch.Scripted.View
import WebDispatch.Settings.Basic
import WebDispatch.Settings.Source
import WebDispatch.Site
import WebDispatch.StaticFiles
import WebDispatch.Text.CaseMap
import WebDispatch.Text.Category
import WebDispatch.Text.Digest
import WebDispatch.Text.Percent
import WebDispatch.Text.Property
import WebDispatch.Text.Quoted
import WebDispatch.Text.RangeTable
import WebDispatch.Text.Script
import WebDispatch.Text.Split
import WebDispatch.Text.Utf8
import WebDispatch.Toml.Basic
import WebDispatch.Toml.Reader
import WebDispatch.Traversal
import WebDispatch.Tween.Basic
import WebDispatch.Tween.Order
import WebDispatch.Value
import WebDispatch.View.Basic
import WebDispatch.View.Callable
import WebDispatch.View.Derived
import WebDispatch.View.Multi
import WebDispatch.Proofs.Sorting
import WebDispatch.Proofs.Ledger.Groups
import WebDispatch.Proofs.Ledger.Resolution
import WebDispatch.Proofs.View.Ranking
import WebDispatch.Proofs.Tween.Sorting
import WebDispatch.Proofs.Tween.Additions
import WebDispatch.Proofs.Configuration.ViewSlots
import WebDispatch.Proofs.Tween.Residue
import WebDispatch.Proofs.Tween.Placement
import WebDispatch.Proofs.Tween.Names
import WebDispatch.Proofs.Tween.Soundness
import WebDispatch.Proofs.View.Selection
import WebDispatch.Proofs.Route.Connections
import WebDispatch.Proofs.Traversal.LongestWalk
import WebDispatch.Proofs.Traversal.VirtualRoot
import WebDispatch.Proofs.Traversal.Walk
import WebDispatch.Proofs.Traversal.Consumption
import WebDispatch.Proofs.Path.Reading
import WebDispatch.Proofs.Path.Names
import WebDispatch.Proofs.Regex.GroupNames
import WebDispatch.Proofs.Text.Escapes
import WebDispatch.Proofs.Regex.Sequences
import WebDispatch.Proofs.Path.Spelling
import WebDispatch.Proofs.Path.RoundTrip
import WebDispatch.Proofs.Regex.Ends
import WebDispatch.Proofs.Predicate.Conditions
import WebDispatch.Proofs.Text.Framing
import WebDispatch.Proofs.Predicate.Identity
import WebDispatch.Proofs.View.Contents
import WebDispatch.Proofs.Configuration.SlotContents
import WebDispatch.Proofs.View.Gating
import WebDispatch.Proofs.Configuration.Course
import WebDispatch.Proofs.Configuration.Inclusion
import WebDispatch.Proofs.Exchange.Additions
import WebDispatch.Proofs.Exchange.Callbacks
import WebDispatch.Proofs.Exchange.Lifecycle
import WebDispatch.Proofs.View.Recovery
import WebDispatch.Proofs.Http.Preference
import WebDispatch.Proofs.Http.Refusal
import WebDispatch.Proofs.View.Negotiation
import WebDispatch.Proofs.Configuration.Spellings
import WebDispatch.Proofs.View.Declining
import WebDispatch.Proofs.View.Rendering
import WebDispatch.Proofs.Settings.Priority
import WebDispatch.Proofs.Ledger.Uniqueness
import WebDispatch.Proofs.Configuration.Commit
import WebDispatch.Proofs.Configuration.Autocommit
import WebDispatch.Proofs.Tween.Composition
import WebDispatch.Proofs.Tween.Passing
import WebDispatch.Proofs.Tween.Coverage
import WebDispatch.Proofs.Tween.Unplaced
import WebDispatch.Proofs.View.Buckets
import WebDispatch.Proofs.View.Permissive
import WebDispatch.Proofs.View.Mismatches
import WebDispatch.Proofs.Exchange.Likeness
import WebDispatch.Proofs.View.Blindness
import WebDispatch.Proofs.View.Twins
import WebDispatch.Proofs.View.Debugging
import WebDispatch.Proofs.View.Probing
import WebDispatch.Proofs.Predicate.Ranks
import WebDispatch.Proofs.Ledger.Conflicts
import WebDispatch.Proofs.Path.Source
import WebDispatch.Proofs.Path.Remainder
import WebDispatch.Proofs.Path.Generated
import WebDispatch.Proofs.Route.Traversing
import WebDispatch.Proofs.Path.Segments
import WebDispatch.Proofs.StaticFiles
import WebDispatch.Proofs.Traversal.CapturedPath
import WebDispatch.Proofs.Traversal.Location
import WebDispatch.Proofs.Introspection.Relations
import WebDispatch.Proofs.Introspection.Storage
import WebDispatch.Proofs.Introspection.History
import WebDispatch.Proofs.Path.LeadingSlash
import WebDispatch.Proofs.Configuration.RoutePrefixes
import WebDispatch.Proofs.Configuration.PrefixedRoutes
import WebDispatch.Proofs.Configuration.Nesting
import WebDispatch.Proofs.Configuration.Subscribers
import WebDispatch.Proofs.Configuration.Subscriptions
import WebDispatch.Proofs.Configuration.RelativeNames
import WebDispatch.Proofs.Path.Resolution
