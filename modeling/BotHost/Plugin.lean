/-
# Plugin instances

An instance is made from its stored record and its section of the configuration.  Its
start may sleep and go on later, and it may fail; only an instance whose start has
succeeded is stopped again.

What instances are, and how they act, is left open: `PluginBehaviour` says how the types
of a host make, start and stop them.
-/

import BotHost.Account.Acts
import BotHost.Plugin.Registry

namespace BotHost

/-- Why a plugin did not start. -/
inductive PluginError where
  /-- Its command spec could not be stored. -/
  | spec (error : StoreError)
  | transport (error : TransportError)
  /-- Its section of the configuration is not what it needs. -/
  | configuration (reason : String)
  | other (reason : String)
deriving DecidableEq

namespace PluginError

/-- The wording of a plugin error. -/
def message : PluginError → String
  | spec error => "failed to persist command spec: " ++ error.message
  | transport error => error.message
  | configuration reason => "invalid plugin config: " ++ reason
  | other reason => reason

end PluginError

/-- How far the start of a plugin has come. -/
inductive Progress (Plugin : Type) where
  | started
  | failed (error : PluginError)
  /-- It sleeps until a time on the clock and then goes on with the rest. -/
  | sleeping (wake : Nat) (rest : Plugin)

/-- How plugin types make, start and stop their instances. -/
structure PluginBehaviour (Handler Factory Plugin : Type) where
  /-- Make an instance from a type, a record and the instance's section, null if it has
  none. -/
  create : PluginType Factory → PluginRecord → Json → Act (World Handler) Plugin
  /-- Start an instance, or go on with a start that slept. -/
  start : Plugin → Act (World Handler) (Progress Plugin)
  stop : Plugin → Act (World Handler) Unit

/-- An instance on an account. -/
structure LoadedPlugin (Plugin : Type) where
  /-- The record it was made from. -/
  record : PluginRecord
  plugin : Plugin
  /-- Whether its start has succeeded and it has not been stopped since. -/
  started : Bool
  /-- What is left of its start, and when to go on with it. -/
  pending : Option (Nat × Plugin)

end BotHost
