import BotHost.Account
import BotHost.Account.Acts
import BotHost.Account.Description
import BotHost.Act
import BotHost.Binary64
import BotHost.Command.Active
import BotHost.Command.Composite
import BotHost.Command.Error
import BotHost.Command.Passive
import BotHost.Command.Spec
import BotHost.CommandLine
import BotHost.Configuration
import BotHost.Configuration.Environment
import BotHost.Configuration.Error
import BotHost.Configuration.Files
import BotHost.Configuration.Profile
import BotHost.Configuration.Sources
import BotHost.Configuration.Validation
import BotHost.Dispatch
import BotHost.Dispatch.Hooks
import BotHost.Echo
import BotHost.Echo.Program
import BotHost.Event
import BotHost.Event.Content
import BotHost.Failure
import BotHost.Host
import BotHost.Host.Schedule
import BotHost.Json
import BotHost.Json.Decode
import BotHost.Json.Document
import BotHost.Json.Path
import BotHost.Json.Reader
import BotHost.Json.Subset
import BotHost.Json.Writer
import BotHost.Logging
import BotHost.Main
import BotHost.Pattern
import BotHost.Pattern.Automaton
import BotHost.Pattern.CharSet
import BotHost.Pattern.Matcher
import BotHost.Pattern.Meaning
import BotHost.Pattern.Reader
import BotHost.Pattern.Size
import BotHost.Pattern.Text
import BotHost.Pattern.Tree
import BotHost.Pattern.Unicode
import BotHost.Pattern.Unicode.BinaryProperty
import BotHost.Pattern.Unicode.CaseFolding
import BotHost.Pattern.Unicode.GeneralCategory
import BotHost.Pattern.Unicode.Script
import BotHost.Plugin
import BotHost.Plugin.Registry
import BotHost.Proofs.Account.Events
import BotHost.Proofs.Account.History
import BotHost.Proofs.Account.Holdings
import BotHost.Proofs.Account.Removal
import BotHost.Proofs.Command.Anchoring
import BotHost.Proofs.Command.Enclosed
import BotHost.Proofs.Command.Literals
import BotHost.Proofs.Command.Matching
import BotHost.Proofs.Command.Passages
import BotHost.Proofs.Command.Slots
import BotHost.Proofs.Command.Templates
import BotHost.Proofs.Configuration.Layers
import BotHost.Proofs.Configuration.Overlays
import BotHost.Proofs.Configuration.Settings
import BotHost.Proofs.Configuration.Stating
import BotHost.Proofs.Dispatch.Calls
import BotHost.Proofs.Dispatch.Listeners
import BotHost.Proofs.Dispatch.Neighbours
import BotHost.Proofs.Dispatch.OwnEvents
import BotHost.Proofs.Dispatch.Selection
import BotHost.Proofs.Dispatch.Traces
import BotHost.Proofs.Echo.Answers
import BotHost.Proofs.Echo.Commands
import BotHost.Proofs.Echo.Life
import BotHost.Proofs.Event.Lossless
import BotHost.Proofs.Event.RoundTrip
import BotHost.Proofs.Event.Templates
import BotHost.Proofs.Host.Census
import BotHost.Proofs.Host.Disabling
import BotHost.Proofs.Host.Initialisation
import BotHost.Proofs.Host.Instances
import BotHost.Proofs.Host.Invitations
import BotHost.Proofs.Host.Lifecycle
import BotHost.Proofs.Host.Lives
import BotHost.Proofs.Host.Polls
import BotHost.Proofs.Host.Proxies
import BotHost.Proofs.Host.Reloading
import BotHost.Proofs.Host.Restart
import BotHost.Proofs.Json.Documents
import BotHost.Proofs.Json.Integers
import BotHost.Proofs.Json.Paths
import BotHost.Proofs.Json.Subsets
import BotHost.Proofs.Keeping
import BotHost.Proofs.Pattern.Items
import BotHost.Proofs.Pattern.Names
import BotHost.Proofs.Pattern.Nesting
import BotHost.Proofs.Pattern.Paths
import BotHost.Proofs.Pattern.Reading
import BotHost.Proofs.Pattern.Search
import BotHost.Proofs.Pattern.Trees
import BotHost.Proofs.Pattern.Words
import BotHost.Proofs.Rooms.Sharing
import BotHost.Proofs.Rooms.Writes
import BotHost.Proofs.Specs.Generations
import BotHost.Proofs.Specs.History
import BotHost.Proofs.Specs.Merging
import BotHost.Proofs.Specs.RoundTrip
import BotHost.Proofs.Specs.Storage
import BotHost.Proofs.Store.Seeding
import BotHost.Proofs.Store.Tables
import BotHost.Proofs.Sync.Delivery
import BotHost.Proofs.Sync.Discarding
import BotHost.Proofs.Sync.Dispatches
import BotHost.Proofs.Sync.Filters
import BotHost.Proofs.Sync.History
import BotHost.Proofs.Sync.Identity
import BotHost.Proofs.Sync.Places
import BotHost.Proofs.Sync.Projection
import BotHost.Proofs.Sync.Replay
import BotHost.Proofs.Sync.Retries
import BotHost.Proofs.Sync.Wire
import BotHost.Proofs.Toml.Order
import BotHost.Proofs.Web.Endpoints
import BotHost.Proofs.Web.Escapes
import BotHost.Proofs.Web.Segments
import BotHost.Rehearsal.Journal
import BotHost.Rehearsal.Player
import BotHost.Rehearsal.Script
import BotHost.Rehearsal.Understudy
import BotHost.Report
import BotHost.Request
import BotHost.RoomState
import BotHost.Setting
import BotHost.SortedMap
import BotHost.SpecBook
import BotHost.Store
import BotHost.Store.Records
import BotHost.Sync.Batch
import BotHost.Sync.Loop
import BotHost.Sync.Order
import BotHost.Sync.Processor
import BotHost.Text.Blank
import BotHost.Text.Quoted
import BotHost.Text.Utf8
import BotHost.Toml.Quoted
import BotHost.Toml.Reader
import BotHost.Toml.Scalar
import BotHost.Toml.Table
import BotHost.Web.Connection
import BotHost.Web.Exchange
import BotHost.Web.Host
import BotHost.Web.Percent
import BotHost.Web.Reader
import BotHost.Web.Url
import BotHost.World
import BotHost.World.Client
import BotHost.World.Online
import BotHost.World.Storing
