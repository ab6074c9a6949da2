/-
# Plugin types

A plugin type announces its name, its version and the version of the plugin
interface it was written for.  The registry holds the types the host can
instantiate, by name.  It refuses types for another interface and names that are
taken, and a refusal changes nothing.
-/

import BotHost.SortedMap

namespace BotHost

/-- What a plugin type says about itself. -/
structure PluginType (Factory : Type) where
  /-- The name that stored plugin instances refer to. -/
  name : String
  version : String
  /-- The version of the plugin interface it was written for: the major number in the
  upper half, the minor number in the lower one. -/
  interface : UInt32
  create : Factory

/-- The plugin types of a host. -/
abbrev Registry (Factory : Type) := SortedMap String (PluginType Factory)

/-- Why a plugin type is not registered. -/
inductive RegistryError where
  | incompatibleInterface (name : String) (found expected : UInt32)
  | duplicate (name : String)
deriving DecidableEq

/-- The version of the plugin interface that the host provides. -/
def hostInterface : UInt32 := 0x00010000

/-- A 32-bit word as eight hexadecimal digits. -/
def hexWord (word : UInt32) : String :=
  let digits := Nat.toDigits 16 word.toNat
  "0x" ++ String.ofList (List.replicate (8 - digits.length) '0' ++ digits)

namespace RegistryError

/-- The wording of a registry error. -/
def message : RegistryError → String
  | incompatibleInterface name found expected =>
    "plugin '" ++ name ++ "' targets API version " ++ hexWord found ++ ", host provides " ++
      hexWord expected
  | duplicate name => "plugin type '" ++ name ++ "' is already registered"

end RegistryError

namespace PluginType

/-- Whether the host provides the interface: the major numbers agree and the host's
minor number is not the smaller one. -/
def isCompatible {Factory : Type} (plugin : PluginType Factory) : Bool :=
  plugin.interface >>> 16 == hostInterface >>> 16 &&
    (plugin.interface &&& 0xFFFF).toNat ≤ (hostInterface &&& 0xFFFF).toNat

end PluginType

namespace Registry

variable {Factory : Type}

/-- Register a plugin type. -/
def register (registry : Registry Factory) (plugin : PluginType Factory) :
    Except RegistryError (Registry Factory) :=
  if !plugin.isCompatible then
    .error (.incompatibleInterface plugin.name plugin.interface hostInterface)
  else if SortedMap.contains registry plugin.name then .error (.duplicate plugin.name)
  else .ok (SortedMap.insert registry plugin.name plugin)

end Registry

end BotHost
