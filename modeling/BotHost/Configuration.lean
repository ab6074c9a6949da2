/-
# The configuration of a host

What an operator states: how the host logs, how its accounts follow their feeds, which
accounts and plugin instances there are, and one free-form section for each plugin
instance.  Everything has a default, so the empty document is a configuration.
-/

import BotHost.Store.Records

namespace BotHost

/-- How much is logged. -/
inductive LogLevel where
  | trace | debug | info | warn | error
deriving DecidableEq, Inhabited

/-- How a log line looks. -/
inductive LogFormat where
  | compact | full | pretty
deriving DecidableEq, Inhabited

/-- Where log lines go. -/
inductive LogOutput where
  | stdout | stderr | file
deriving DecidableEq, Inhabited

/-- How often a new log file is begun. -/
inductive LogRotation where
  | never | hourly | daily
deriving DecidableEq, Inhabited

/-- Which moments in the life of a span are logged. -/
structure SpanEvents where
  new : Bool
  enter : Bool
  exit : Bool
  close : Bool
deriving DecidableEq, Inhabited

/-- The logging settings. -/
structure LogSettings where
  /-- The level of modules that have none of their own. -/
  level : LogLevel
  format : LogFormat
  output : LogOutput
  filePath : Option String
  rotation : LogRotation
  threadIds : Bool
  fileLocation : Bool
  spanEvents : SpanEvents
  filters : SortedMap String LogLevel

/-- How accounts follow their feeds. -/
structure SyncSettings where
  /-- The seconds to wait after a failed poll or batch. -/
  retryDelay : Nat
  /-- The milliseconds for which the homeserver may hold a poll open. -/
  timeout : Nat
  timelineLimit : Nat
deriving DecidableEq

/-- The configuration of a host. -/
structure Configuration where
  logging : LogSettings
  sync : SyncSettings
  accounts : List AccountRecord
  plugins : List PluginRecord
  pluginSections : SortedMap String Json

namespace LogLevel

/-- The name of a level. -/
def name : LogLevel → String
  | trace => "trace"
  | debug => "debug"
  | info => "info"
  | warn => "warn"
  | error => "error"

/-- All levels. -/
def all : List LogLevel := [trace, debug, info, warn, error]

end LogLevel

namespace LogFormat

/-- The name of a format. -/
def name : LogFormat → String
  | compact => "compact"
  | full => "full"
  | pretty => "pretty"

/-- All formats. -/
def all : List LogFormat := [compact, full, pretty]

end LogFormat

namespace LogOutput

/-- The name of an output. -/
def name : LogOutput → String
  | stdout => "stdout"
  | stderr => "stderr"
  | file => "file"

/-- All outputs. -/
def all : List LogOutput := [stdout, stderr, file]

end LogOutput

namespace LogRotation

/-- The name of a rotation. -/
def name : LogRotation → String
  | never => "never"
  | hourly => "hourly"
  | daily => "daily"

/-- All rotations. -/
def all : List LogRotation := [never, hourly, daily]

end LogRotation

namespace SpanEvents

/-- No moment at all. -/
def none : SpanEvents := ⟨false, false, false, false⟩

/-- Decode the moments of a span. -/
def decode : Decoder SpanEvents := fun document => do
  let fields ← document.fields? ["new", "enter", "exit", "close"]
  let new ← fields.orElse "new" Decoder.bool false
  let enter ← fields.orElse "enter" Decoder.bool false
  let exit ← fields.orElse "exit" Decoder.bool false
  let close ← fields.orElse "close" Decoder.bool false
  some { new, enter, exit, close }

/-- Encode the moments of a span. -/
def toJson (events : SpanEvents) : Json :=
  Json.ofMembers
    [("new", .bool events.new), ("enter", .bool events.enter), ("exit", .bool events.exit),
      ("close", .bool events.close)]

end SpanEvents

namespace LogSettings

/-- The settings of a host that says nothing about logging. -/
def default : LogSettings :=
  { level := .info
    format := .compact
    output := .stdout
    filePath := none
    rotation := .never
    threadIds := false
    fileLocation := false
    spanEvents := .none
    filters := .empty }

/-- Decode the logging settings. -/
def decode : Decoder LogSettings := fun document => do
  let fields ← document.fields?
    ["level", "format", "output", "file_path", "rotation", "thread_ids", "file_location",
      "span_events", "filters"]
  let level ← fields.orElse "level" (Decoder.choice LogLevel.name LogLevel.all) .info
  let format ← fields.orElse "format" (Decoder.choice LogFormat.name LogFormat.all) .compact
  let output ← fields.orElse "output" (Decoder.choice LogOutput.name LogOutput.all) .stdout
  let filePath ← fields.optional "file_path" Decoder.text
  let rotation ←
    fields.orElse "rotation" (Decoder.choice LogRotation.name LogRotation.all) .never
  let threadIds ← fields.orElse "thread_ids" Decoder.bool false
  let fileLocation ← fields.orElse "file_location" Decoder.bool false
  let spanEvents ← fields.orElse "span_events" SpanEvents.decode .none
  let filters ←
    fields.orElse "filters" (Decoder.map (Decoder.choice LogLevel.name LogLevel.all)) .empty
  some
    { level, format, output, filePath, rotation, threadIds, fileLocation, spanEvents
      filters }

/-- Encode the logging settings. -/
def toJson (settings : LogSettings) : Json :=
  Json.ofMembers
    [("level", .string settings.level.name), ("format", .string settings.format.name),
      ("output", .string settings.output.name), ("file_path", .ofText? settings.filePath),
      ("rotation", .string settings.rotation.name), ("thread_ids", .bool settings.threadIds),
      ("file_location", .bool settings.fileLocation),
      ("span_events", settings.spanEvents.toJson),
      ("filters", .object (settings.filters.toList.map fun (target, level) =>
        (target, .string level.name)))]

end LogSettings

namespace SyncSettings

/-- The settings of a host that says nothing about its feeds. -/
def default : SyncSettings := ⟨10, 30000, 50⟩

/-- Decode the feed settings. -/
def decode : Decoder SyncSettings := fun document => do
  let fields ← document.fields? ["retry_delay_secs", "timeout_ms", "timeline_limit"]
  let retryDelay ← fields.orElse "retry_delay_secs" (Decoder.unsigned 64) default.retryDelay
  let timeout ← fields.orElse "timeout_ms" (Decoder.unsigned 64) default.timeout
  let timelineLimit ←
    fields.orElse "timeline_limit" (Decoder.unsigned 32) default.timelineLimit
  some { retryDelay, timeout, timelineLimit }

/-- Encode the feed settings. -/
def toJson (settings : SyncSettings) : Json :=
  Json.ofMembers
    [("retry_delay_secs", .ofNat settings.retryDelay),
      ("timeout_ms", .ofNat settings.timeout),
      ("timeline_limit", .ofNat settings.timelineLimit)]

end SyncSettings

namespace Configuration

/-- The configuration of a host about which nothing is stated. -/
def default : Configuration := ⟨.default, .default, [], [], .empty⟩

/-- Decode a configuration. -/
def decode : Decoder Configuration := fun document => do
  let fields ← document.fields? ["logging", "sync", "accounts", "plugins", "plugin_config"]
  let logging ← fields.orElse "logging" LogSettings.decode .default
  let sync ← fields.orElse "sync" SyncSettings.decode .default
  let accounts ← fields.orElse "accounts" (Decoder.list AccountRecord.decode) []
  let plugins ← fields.orElse "plugins" (Decoder.list PluginRecord.decode) []
  let pluginSections ← fields.orElse "plugin_config" (Decoder.map Decoder.json) .empty
  some { logging, sync, accounts, plugins, pluginSections }

/-- Encode a configuration. -/
def toJson (configuration : Configuration) : Json :=
  Json.ofMembers
    [("logging", configuration.logging.toJson), ("sync", configuration.sync.toJson),
      ("accounts", .array (configuration.accounts.map AccountRecord.toJson)),
      ("plugins", .array (configuration.plugins.map PluginRecord.toJson)),
      ("plugin_config", .ofMap configuration.pluginSections)]

end Configuration

end BotHost
