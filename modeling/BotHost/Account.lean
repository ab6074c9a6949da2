/-
# Accounts

A connected account is its stored record together with its spec book and its hooks.  The
host listens to invitations itself on accounts that accept them all; every other handler
is somebody's, and what such handlers are is left open as a type.
-/

import BotHost.Dispatch.Hooks
import BotHost.SpecBook
import BotHost.RoomState

namespace BotHost

/-- A listener of an account. -/
inductive Listener (Handler : Type) where
  /-- The host's own, which accepts invitations. -/
  | autojoin
  | custom (handler : Handler)

/-- A connected account. -/
structure Account (Handler : Type) where
  /-- The record it was connected with. -/
  record : AccountRecord
  specs : SpecBook
  hooks : Hooks (Listener Handler) Handler

namespace Account

variable {Handler : Type}

/-- The owner of the host's own listener. -/
def autojoinOwner : String := "weft.autojoin"

/-- The hooks of an account to begin with: the host's own listener if the account accepts
every invitation. -/
def initialHooks (record : AccountRecord) : Hooks (Listener Handler) Handler :=
  if record.autojoin then
    Hooks.empty.addListener roomMember ⟨autojoinOwner, true, .autojoin⟩
  else .empty

/-- Connect an account with the specs that are stored for it. -/
def connect (record : AccountRecord) (stored : List SpecRecord) : Account Handler :=
  { record
    specs := SpecBook.empty.load record.userId stored
    hooks := initialHooks record }

/-- Register a listener for an owner.  A registration through the owner's own view of the
account does not hear the account's own events. -/
def addListener (account : Account Handler) (owner eventType : String) (hearsOwn : Bool)
    (handler : Handler) : Account Handler :=
  { account with
    hooks := account.hooks.addListener eventType ⟨owner, hearsOwn, .custom handler⟩ }

/-- Register a command handler for an owner. -/
def addCommand (account : Account Handler) (owner command : String) (hearsOwn : Bool)
    (handler : Handler) : Account Handler :=
  { account with hooks := account.hooks.addCommand command ⟨owner, hearsOwn, handler⟩ }

/-- Withdraw an owner's handlers and drop its spec. -/
def removeOwner (account : Account Handler) (owner : String) : Account Handler :=
  { account with
    hooks := account.hooks.withdraw owner
    specs := account.specs.remove owner }

end Account

end BotHost
