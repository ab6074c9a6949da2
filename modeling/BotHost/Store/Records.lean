/-
# Stored records

What the host keeps across restarts: accounts with their credentials and their place
in the feed, plugin instances, and the spec that each plugin set on each account.
-/

import BotHost.Command.Spec

namespace BotHost

/-- A stored account. -/
structure AccountRecord where
  userId : String
  homeserver : String
  accessToken : String
  /-- The feed cursor; empty until the first batch has been applied. -/
  nextBatch : String
  /-- The id of its feed filter; empty until one has been created. -/
  filterId : String
  /-- Whether the account follows its feed. -/
  sync : Bool
  /-- Whether it accepts every invitation. -/
  autojoin : Bool
  displayName : String
  avatarUrl : String
deriving DecidableEq, Inhabited

/-- A stored plugin instance. -/
structure PluginRecord where
  /-- The instance's id, which also owns everything the plugin registers. -/
  id : String
  pluginType : String
  enabled : Bool
  userId : String
deriving DecidableEq, Inhabited

/-- A command spec as one owner set it on one account. -/
structure SpecRecord where
  owner : String
  account : String
  spec : CommandSpec
deriving BEq

namespace AccountRecord

/-- The record of an account that follows its feed and has not done so yet. -/
def new (userId homeserver accessToken : String) : AccountRecord :=
  ⟨userId, homeserver, accessToken, "", "", true, false, "", ""⟩

/-- The feed cursor, if a batch has been applied yet. -/
def cursor? (record : AccountRecord) : Option String :=
  if record.nextBatch = "" then none else some record.nextBatch

/-- The feed filter, if one has been created yet. -/
def filter? (record : AccountRecord) : Option String :=
  if record.filterId = "" then none else some record.filterId

/-- Decode an account. -/
def decode : Decoder AccountRecord := fun document => do
  let fields ← document.fields?
    ["user_id", "homeserver", "access_token", "next_batch", "filter_id", "sync",
      "autojoin", "display_name", "avatar_url"]
  let userId ← fields.required "user_id" Decoder.text
  let homeserver ← fields.required "homeserver" Decoder.text
  let accessToken ← fields.required "access_token" Decoder.text
  let nextBatch ← fields.orElse "next_batch" Decoder.text ""
  let filterId ← fields.orElse "filter_id" Decoder.text ""
  let sync ← fields.orElse "sync" Decoder.bool true
  let autojoin ← fields.orElse "autojoin" Decoder.bool false
  let displayName ← fields.orElse "display_name" Decoder.text ""
  let avatarUrl ← fields.orElse "avatar_url" Decoder.text ""
  some
    { userId, homeserver, accessToken, nextBatch, filterId, sync, autojoin
      displayName, avatarUrl }

/-- Encode an account. -/
def toJson (record : AccountRecord) : Json :=
  Json.ofMembers
    [("user_id", .string record.userId), ("homeserver", .string record.homeserver),
      ("access_token", .string record.accessToken),
      ("next_batch", .string record.nextBatch), ("filter_id", .string record.filterId),
      ("sync", .bool record.sync), ("autojoin", .bool record.autojoin),
      ("display_name", .string record.displayName),
      ("avatar_url", .string record.avatarUrl)]

end AccountRecord

namespace PluginRecord

/-- Decode a plugin instance. -/
def decode : Decoder PluginRecord := fun document => do
  let fields ← document.fields? ["id", "type", "enabled", "user_id"]
  let id ← fields.required "id" Decoder.text
  let pluginType ← fields.required "type" Decoder.text
  let enabled ← fields.orElse "enabled" Decoder.bool true
  let userId ← fields.required "user_id" Decoder.text
  some { id, pluginType, enabled, userId }

/-- Encode a plugin instance. -/
def toJson (record : PluginRecord) : Json :=
  Json.ofMembers
    [("id", .string record.id), ("type", .string record.pluginType),
      ("enabled", .bool record.enabled), ("user_id", .string record.userId)]

end PluginRecord

namespace SpecRecord

/-- Decode a spec record. -/
def decode : Decoder SpecRecord := fun document => do
  let fields ← document.fields? ["owner", "account", "spec"]
  let owner ← fields.required "owner" Decoder.text
  let account ← fields.required "account" Decoder.text
  let spec ← fields.required "spec" CommandSpec.decode
  some { owner, account, spec }

/-- Encode a spec record. -/
def toJson (record : SpecRecord) : Json :=
  Json.ofMembers
    [("owner", .string record.owner), ("account", .string record.account),
      ("spec", record.spec.toJson)]

end SpecRecord

end BotHost
