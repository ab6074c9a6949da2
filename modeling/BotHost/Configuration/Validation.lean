/-
# Accepting a configuration

A configuration is accepted when it breaks none of the rules below.  They are checked
in a fixed order and the first one that is broken is reported: the logging settings,
the feed settings, the accounts in their order, and the plugin instances in theirs.
-/

import BotHost.Configuration
import BotHost.Configuration.Error

namespace BotHost

/-- Whether a rule was broken, and how. -/
abbrev Verdict := Except ConfigurationError Unit

namespace Verdict

/-- Accept if the condition holds. -/
def require (condition : Bool) (error : ConfigurationError) : Verdict :=
  if condition then .ok () else .error error

end Verdict

namespace LogSettings

/-- Whether a log filter's target can exist: it is not empty and has no blanks. -/
def isTarget (target : String) : Bool := target != "" && !target.toList.any Text.isBlank

/-- The rules for logging: a file as output needs a path, and every filter a target that
can exist. -/
def check (settings : LogSettings) : Verdict := do
  Verdict.require (settings.output != .file || settings.filePath.isSome)
    (.missingField "logging.file_path")
  match settings.filters.keys.find? fun target => !isTarget target with
  | some target => .error (.invalidTarget target)
  | none => .ok ()

end LogSettings

namespace SyncSettings

/-- The rules for feeds: no setting is zero. -/
def check (settings : SyncSettings) : Verdict := do
  Verdict.require (settings.retryDelay != 0) (.zero "sync.retry_delay_secs")
  Verdict.require (settings.timeout != 0) (.zero "sync.timeout_ms")
  Verdict.require (settings.timelineLimit != 0) (.zero "sync.timeline_limit")

end SyncSettings

namespace AccountRecord

/-- Whether a user id has a local part and a server. -/
def isUserId (userId : String) : Bool :=
  userId.toList.head? == some '@' && userId.toList.contains ':'

/-- Whether a URL begins with one of the schemes the host speaks. -/
def hasScheme (url : String) : Bool :=
  ConfigurationError.schemes.any fun scheme => scheme.toList.isPrefixOf url.toList

/-- The rules for a single account. -/
def check (record : AccountRecord) : Verdict := do
  Verdict.require (isUserId record.userId) (.invalidUserId record.userId)
  Verdict.require (record.homeserver != "") (.missingField "accounts.homeserver")
  Verdict.require (hasScheme record.homeserver) (.invalidUrl record.homeserver)

/-- The rules for a list of accounts, after those with the given user ids. -/
def checkAll (seen : List String) : List AccountRecord → Verdict
  | [] => .ok ()
  | record :: rest => do
    Verdict.require (!seen.contains record.userId) (.duplicateAccount record.userId)
    record.check
    checkAll (record.userId :: seen) rest

end AccountRecord

namespace PluginRecord

/-- The rules for a list of plugin instances, after those with the given ids. -/
def checkAll (seen : List String) : List PluginRecord → Verdict
  | [] => .ok ()
  | record :: rest => do
    Verdict.require (record.id != "") (.missingField "plugins.id")
    Verdict.require (record.pluginType != "") (.missingField "plugins.type")
    Verdict.require (!seen.contains record.id) (.duplicatePlugin record.id)
    checkAll (record.id :: seen) rest

end PluginRecord

namespace Configuration

/-- The rules for a whole configuration. -/
def check (configuration : Configuration) : Verdict := do
  configuration.logging.check
  configuration.sync.check
  AccountRecord.checkAll [] configuration.accounts
  PluginRecord.checkAll [] configuration.plugins

end Configuration

end BotHost
