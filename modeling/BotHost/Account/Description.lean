/-
# Accounts in words

One line of text for the parts of a connected account, for logs: the user id in quotes,
and of the handlers only how many event types and commands have some.
-/

import BotHost.Account
import BotHost.Text.Quoted

namespace BotHost

namespace Account

variable {Handler : Type}

/-- A part of an account that shows one field and hides the rest. -/
def describePart (name field userId : String) : String :=
  name ++ " \x7b " ++ field ++ ": " ++ Text.quoted userId ++ ", .. \x7d"

/-- The session of a user. -/
def describeClient (userId : String) : String := describePart "Client" "user_id" userId

/-- The spec book of a user. -/
def describeSpecs (userId : String) : String := describePart "SpecMultiplexer" "account" userId

/-- The handlers of an account. -/
def describeHooks (hooks : Hooks (Listener Handler) Handler) : String :=
  Text.labelled "Dispatcher"
    [("listener_types", toString hooks.listeners.size),
      ("commands", toString hooks.commands.size)]

/-- The account as a whole. -/
def describe (account : Account Handler) : String :=
  Text.labelled "AccountHandle"
    [("client", describeClient account.record.userId),
      ("specs", describeSpecs account.record.userId),
      ("dispatcher", describeHooks account.hooks)]

end Account

end BotHost
