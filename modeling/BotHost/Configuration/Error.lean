/-
# Why there is no configuration
-/

import BotHost.Text.Quoted

namespace BotHost

/-- Why a configuration cannot be loaded or is not accepted. -/
inductive ConfigurationError where
  | fileNotFound (path : String)
  | unsupportedFormat (extension : String)
  /-- A file is malformed, or the merged layers are no configuration. -/
  | malformed
  /-- A setting must not be zero. -/
  | zero (setting : String)
  /-- A log filter is for a target that cannot exist. -/
  | invalidTarget (target : String)
  | invalidUserId (userId : String)
  | missingField (field : String)
  | duplicateAccount (userId : String)
  | duplicatePlugin (id : String)
  /-- A homeserver's URL has no scheme the host speaks. -/
  | invalidUrl (url : String)
deriving DecidableEq

namespace ConfigurationError

/-- The schemes a homeserver's URL may begin with. -/
def schemes : List String := ["http://", "https://"]

/-- The wording of a configuration error. -/
def message : ConfigurationError → String
  | fileNotFound path => "Configuration file not found: " ++ path
  | unsupportedFormat extension =>
    "Failed to parse configuration: unsupported or disabled configuration format: ." ++
      extension
  | malformed => "Failed to parse configuration"
  | zero setting => "Invalid configuration: " ++ setting ++ " must be greater than 0"
  | invalidTarget target =>
    "Invalid configuration: Invalid log filter target: '" ++ target ++ "'"
  | invalidUserId userId =>
    "Invalid configuration: Invalid user id '" ++ userId ++
      "', expected @localpart:server"
  | missingField field => "Missing required configuration field: " ++ field
  | duplicateAccount userId => "Duplicate account: " ++ userId
  | duplicatePlugin id => "Duplicate plugin id: " ++ id
  | invalidUrl url =>
    "Invalid URL: " ++ url ++ " - URL must start with one of: " ++ Text.quotedList schemes

end ConfigurationError

end BotHost
