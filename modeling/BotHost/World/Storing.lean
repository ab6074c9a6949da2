/-
# Acts on the store

The operations of the store as acts that can fail.  A write that fails writes nothing.
-/

import BotHost.World

namespace BotHost

namespace World

variable {Handler : Type}

/-- Change what is stored. -/
def changeStore (change : Store → Store) : Act (World Handler) Unit :=
  modify fun world => { world with store := change world.store }

/-- List the stored accounts. -/
def listAccounts : Act (World Handler) (Except StoreError (List AccountRecord)) :=
  consult .accounts do return (← get).store.listAccounts

/-- Read a stored account. -/
def readAccount (userId : String) : Act (World Handler) (Except StoreError AccountRecord) := do
  match ← consult (.account userId) (do return (← get).store.account? userId) with
  | .error error => pure (.error error)
  | .ok none => pure (.error (.notFound "account" userId))
  | .ok (some record) => pure (.ok record)

/-- Write an account. -/
def updateAccount (record : AccountRecord) : Act (World Handler) (Except StoreError Unit) :=
  consult (.updateAccount record) (changeStore fun store => store.putAccount record)

/-- List the specs that are stored for an account. -/
def listSpecs (userId : String) : Act (World Handler) (Except StoreError (List SpecRecord)) :=
  consult (.commandSpecs userId) do return (← get).store.listSpecs userId

/-- Write the spec that an owner sets on an account. -/
def putSpec (owner userId : String) (spec : CommandSpec) :
    Act (World Handler) (Except StoreError Unit) :=
  consult (.putCommandSpec owner userId spec)
    (changeStore fun store => store.putSpec owner userId spec)

/-- List the stored plugin instances. -/
def listPlugins : Act (World Handler) (Except StoreError (List PluginRecord)) :=
  consult .plugins do return (← get).store.listPlugins

/-- Write a plugin instance. -/
def updatePlugin (record : PluginRecord) : Act (World Handler) (Except StoreError Unit) :=
  consult (.updatePlugin record) (changeStore fun store => store.putPlugin record)

/-- Read the projection of a room. -/
def loadRoom (roomId : String) : Act (World Handler) (Except StoreError RoomState) :=
  consult (.loadRoom roomId) do return (← get).rooms.load roomId

/-- Write the projection of a room. -/
def saveRoom (state : RoomState) : Act (World Handler) (Except StoreError Unit) :=
  consult (.saveRoom state.roomId)
    (modify fun world => { world with rooms := world.rooms.save state })

/-- Apply a state event to the projection of its room; other events only read it. -/
def applyToRoom (event : Event) : Act (World Handler) (Except StoreError Unit) := do
  match ← loadRoom event.roomId with
  | .error error => pure (.error error)
  | .ok state =>
    if event.isState then saveRoom (state.apply event) else pure (.ok ())

end World

end BotHost
