/-
# The store

Tables of accounts, plugin instances and command specs, kept in process memory.
Accounts are listed by user id, plugins by instance id, and specs by owner.

Every operation is total.  `Store.ofRecords` seeds the tables; of two records with
one key the later one stays.
-/

import BotHost.Store.Records

namespace BotHost

/-- Everything the host stores. -/
structure Store where
  /-- The accounts by user id. -/
  accounts : SortedMap String AccountRecord
  /-- The plugin instances by id. -/
  plugins : SortedMap String PluginRecord
  /-- The command specs by owner and account. -/
  specs : SortedMap (String × String) CommandSpec

namespace Store

/-- A store without records. -/
def empty : Store := ⟨.empty, .empty, .empty⟩

instance : Inhabited Store := ⟨empty⟩

/-- A store that holds the given records. -/
def ofRecords (accounts : List AccountRecord) (plugins : List PluginRecord) : Store :=
  { accounts := .ofList (accounts.map fun record => (record.userId, record))
    plugins := .ofList (plugins.map fun record => (record.id, record))
    specs := .empty }

/-- All accounts by ascending user id. -/
def listAccounts (store : Store) : List AccountRecord := store.accounts.values

/-- The account of a user. -/
def account? (store : Store) (userId : String) : Option AccountRecord :=
  store.accounts.find? userId

/-- Insert or replace an account. -/
def putAccount (store : Store) (record : AccountRecord) : Store :=
  { store with accounts := store.accounts.insert record.userId record }

/-- All plugin instances by ascending id. -/
def listPlugins (store : Store) : List PluginRecord := store.plugins.values

/-- Insert or replace a plugin instance. -/
def putPlugin (store : Store) (record : PluginRecord) : Store :=
  { store with plugins := store.plugins.insert record.id record }

/-- All specs that are set on an account, by ascending owner. -/
def listSpecs (store : Store) (account : String) : List SpecRecord :=
  (store.specs.toList.filter fun entry => entry.1.2 == account).map fun entry =>
    ⟨entry.1.1, entry.1.2, entry.2⟩

/-- Insert or replace the spec that an owner set on an account. -/
def putSpec (store : Store) (owner account : String) (spec : CommandSpec) : Store :=
  { store with specs := store.specs.insert (owner, account) spec }

end Store

end BotHost
