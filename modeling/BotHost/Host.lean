/-
# The host

A host connects the stored accounts, makes an instance of every enabled plugin record, and
runs a start for each instance and a sync loop for each account that follows its feed.

Initialisation disables the plugin records it cannot serve; a start that fails disables
its record as well.  Stopping ends the loops, stops the instances whose start has
succeeded, and withdraws everything the instances have registered.
-/

import BotHost.Configuration.Error
import BotHost.Plugin
import BotHost.Sync.Loop

namespace BotHost

/-- Why an operation of the host failed.  The lack of a way to open connections is no cause,
since a world always has one. -/
inductive HostError where
  | configuration (error : ConfigurationError)
  | store (error : StoreError)
  /-- A plugin type was refused. -/
  | registry (error : RegistryError)
deriving DecidableEq

namespace HostError

/-- The wording of a host error. -/
def message : HostError → String
  | configuration error => error.message
  | store error => "Store error: " ++ error.message
  | registry error => "Plugin registry error: " ++ error.message

end HostError

/-- What a host keeps beside the world it acts on. -/
structure Host (Factory Plugin : Type) where
  configuration : Configuration
  registry : Registry Factory
  /-- The plugin instances in the order of their ids. -/
  plugins : List (LoadedPlugin Plugin)
  /-- The sync loops by user id, while the host runs. -/
  running : Option (List (String × SyncLoop))

/-- How everything that runs on a host acts. -/
structure Performers (Handler Factory Plugin : Type) where
  handlers : Behaviour Handler
  plugins : PluginBehaviour Handler Factory Plugin

/-- The counts that a host reports. -/
structure HostCounts where
  accounts : Nat
  /-- The sync loops that have not ended. -/
  syncing : Nat
  plugins : Nat
  /-- The instances whose start has succeeded. -/
  started : Nat
  pluginTypes : Nat
deriving DecidableEq

namespace Host

variable {Handler Factory Plugin : Type}

/-- A host with a configuration that has not done anything yet. -/
def new (configuration : Configuration) : Host Factory Plugin :=
  { configuration, registry := .empty, plugins := [], running := none }

/-- Make a plugin type available. -/
def register (host : Host Factory Plugin) (plugin : PluginType Factory) :
    Except HostError (Host Factory Plugin) :=
  match host.registry.register plugin with
  | .error error => .error (.registry error)
  | .ok registry => .ok { host with registry }

/-- The section of the configuration for an instance, null if there is none. -/
def sectionOf (host : Host Factory Plugin) (id : String) : Json :=
  (host.configuration.pluginSections.find? id).getD .null

/-- The counts of a host. -/
def counts (host : Host Factory Plugin) (world : World Handler) : HostCounts :=
  { accounts := world.accounts.size
    syncing := ((host.running.getD []).filter fun entry => entry.2.state != .ended).length
    plugins := host.plugins.length
    started := (host.plugins.filter (·.started)).length
    pluginTypes := host.registry.size }

/-! ### Initialisation -/

/-- Connect the listed accounts.  An account that cannot be connected is passed over; a
failure of the store ends the work and leaves the accounts that are connected by then. -/
def connectAll : List AccountRecord → Act (World Handler) (Except StoreError Unit)
  | [] => pure (.ok ())
  | record :: rest => do
    match ← World.openConnection record with
    | .error _ => connectAll rest
    | .ok _ =>
      match ← World.connectAccount record with
      | .error error => pure (.error error)
      | .ok _ =>
        World.addSession record.userId
        connectAll rest

/-- Write a plugin record as disabled; that this fails changes nothing else. -/
def disable (record : PluginRecord) : Act (World Handler) Unit := do
  let _ ← World.updatePlugin { record with enabled := false }

/-- Make the instance of a record, if the record is enabled and there are its type and its
account; disable a record that is enabled but lacks one of them. -/
def loadPlugin (host : Host Factory Plugin) (performers : Performers Handler Factory Plugin)
    (record : PluginRecord) : Act (World Handler) (Option (LoadedPlugin Plugin)) := do
  if !record.enabled then pure none
  else
    let connected := ((← get).account? record.userId).isSome
    match host.registry.find? record.pluginType with
    | some plugin =>
      if connected then
        let made ← performers.plugins.create plugin record (host.sectionOf record.id)
        pure (some ⟨record, made, false, none⟩)
      else
        disable record
        pure none
    | none =>
      disable record
      pure none

/-- Make the instances of the listed records. -/
def loadPlugins (host : Host Factory Plugin) (performers : Performers Handler Factory Plugin) :
    List PluginRecord → Act (World Handler) (List (LoadedPlugin Plugin))
  | [] => pure []
  | record :: rest => do
    let loaded ← host.loadPlugin performers record
    let others ← loadPlugins host performers rest
    pure (loaded.toList ++ others)

/-- Connect the stored accounts and make the plugin instances, unless there are connected
accounts already. -/
def init (host : Host Factory Plugin) (performers : Performers Handler Factory Plugin) :
    Act (World Handler) (Except HostError Unit × Host Factory Plugin) := do
  if !(← get).accounts.isEmpty then pure (.ok (), host)
  else
    match ← World.listAccounts with
    | .error error => pure (.error (.store error), host)
    | .ok records =>
      match ← connectAll records with
      | .error error => pure (.error (.store error), host)
      | .ok _ =>
        match ← World.listPlugins with
        | .error error => pure (.error (.store error), host)
        | .ok records =>
          let loaded ← host.loadPlugins performers records
          pure (.ok (), { host with plugins := host.plugins ++ loaded })

/-! ### Starting -/

/-- The sync loops of the accounts that follow their feeds, with the records they were
connected with. -/
def loops (host : Host Factory Plugin) (world : World Handler) : List (String × SyncLoop) :=
  (world.accounts.toList.filter fun entry => entry.2.record.sync).map fun entry =>
    (entry.1, .new ⟨entry.2.record, host.configuration.sync⟩)

/-- Begin the start of every instance and a loop for every account that follows its feed,
unless the host runs already.  Nothing acts before the host is given time. -/
def start (host : Host Factory Plugin) : Act (World Handler) (Host Factory Plugin) := do
  if host.running.isSome then pure host
  else
    let world ← get
    pure
      { host with
        plugins := host.plugins.map fun loaded =>
          { loaded with pending := some (world.clock, loaded.plugin) }
        running := some (host.loops world) }

/-- Go on with the start of an instance.  A start that fails withdraws what the instance
has registered and disables its record; one that panics is given up. -/
def continueStart (performers : Performers Handler Factory Plugin)
    (loaded : LoadedPlugin Plugin) (rest : Plugin) :
    Act (World Handler) (LoadedPlugin Plugin) := do
  match ← (performers.plugins.start rest).attempt with
  | .error _ => pure { loaded with pending := none }
  | .ok .started => pure { loaded with started := true, pending := none }
  | .ok (.failed _) =>
    World.removeOwner loaded.record.userId loaded.record.id
    disable loaded.record
    pure { loaded with pending := none }
  | .ok (.sleeping wake rest) => pure { loaded with pending := some (wake, rest) }

/-- Go on with the start of an instance if it is due. -/
def advanceStart (performers : Performers Handler Factory Plugin)
    (loaded : LoadedPlugin Plugin) : Act (World Handler) (LoadedPlugin Plugin) := do
  match loaded.pending with
  | none => pure loaded
  | some (wake, rest) =>
    if wake ≤ (← get).clock then continueStart performers loaded rest else pure loaded

/-- Go on with every start that is due, in the order of the instances. -/
def advanceStarts (performers : Performers Handler Factory Plugin) :
    List (LoadedPlugin Plugin) → Act (World Handler) (List (LoadedPlugin Plugin))
  | [] => pure []
  | loaded :: rest => do
    let loaded ← advanceStart performers loaded
    let rest ← advanceStarts performers rest
    pure (loaded :: rest)

/-! ### Stopping -/

/-- Stop the instances whose start has succeeded, and withdraw what each instance has
registered. -/
def stopPlugins (performers : Performers Handler Factory Plugin) :
    List (LoadedPlugin Plugin) → Act (World Handler) (List (LoadedPlugin Plugin))
  | [] => pure []
  | loaded :: rest => do
    if loaded.started then performers.plugins.stop loaded.plugin
    World.removeOwner loaded.record.userId loaded.record.id
    let rest ← stopPlugins performers rest
    pure ({ loaded with started := false, pending := none } :: rest)

/-- End the loops, give up the starts that still sleep, and stop the instances; nothing if
the host does not run.  While the host waits for its loops to end, the starts that are
due have their turn. -/
def stop (host : Host Factory Plugin) (performers : Performers Handler Factory Plugin) :
    Act (World Handler) (Host Factory Plugin) := do
  match host.running with
  | none => pure host
  | some loops =>
    let plugins ←
      if loops.isEmpty then pure host.plugins else advanceStarts performers host.plugins
    let plugins ← stopPlugins performers plugins
    pure { host with plugins, running := none }

end Host

end BotHost
